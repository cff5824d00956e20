import Mathlib.Data.List.Basic
import TaggedExpr.Tag

/-! # Tags are their names

A tag is known by its name, whatever its kind: tags are equal, and a hash function is fed the same
for them, if and only if their names are equal. A name is fed as its encoding and a byte that is in
no encoding, so what is fed for one tag after another still tells each of the names.
-/

namespace TaggedExpr

/-! ## Encoded text -/

/-- What a hash function is fed for a text: its encoding, and a byte to end it. -/
def textHashInput (text : String) : List UInt8 := text.toUTF8.data.toList ++ [0xff]

/-- No byte of an encoded character has all bits set. -/
theorem toNat_lt_of_mem_utf8EncodeChar {c : Char} {byte : UInt8}
    (hmem : byte ∈ String.utf8EncodeChar c) : byte.toNat < 0xff := by
  simp only [String.utf8EncodeChar] at hmem
  -- One case for each length of an encoding.
  split at hmem
  · simp only [List.mem_singleton] at hmem
    subst hmem
    simp only [UInt8.toNat_ofNat']
    omega
  · split at hmem
    · simp only [List.mem_cons, List.not_mem_nil, or_false] at hmem
      rcases hmem with rfl | rfl <;> simp only [UInt8.toNat_ofNat'] <;> omega
    · split at hmem
      · simp only [List.mem_cons, List.not_mem_nil, or_false] at hmem
        rcases hmem with rfl | rfl | rfl <;> simp only [UInt8.toNat_ofNat'] <;> omega
      · simp only [List.mem_cons, List.not_mem_nil, or_false] at hmem
        rcases hmem with rfl | rfl | rfl | rfl <;> simp only [UInt8.toNat_ofNat'] <;> omega

theorem toList_toUTF8 (text : String) :
    text.toUTF8.data.toList = text.toList.flatMap String.utf8EncodeChar := by
  rw [String.toUTF8_eq_toByteArray, ← String.utf8Encode_toList, List.utf8Encode,
    List.toList_data_toByteArray]

theorem ff_notMem_toUTF8 (text : String) : 0xff ∉ text.toUTF8.data.toList := by
  intro hmem
  rw [toList_toUTF8] at hmem
  obtain ⟨c, _, hbyte⟩ := List.mem_flatMap.mp hmem
  exact Nat.lt_irrefl _ (toNat_lt_of_mem_utf8EncodeChar hbyte)

theorem toList_toUTF8_inj {first second : String}
    (hbytes : first.toUTF8.data.toList = second.toUTF8.data.toList) : first = second := by
  rw [String.toUTF8_eq_toByteArray, String.toUTF8_eq_toByteArray] at hbytes
  exact String.toByteArray_inj.mp (ByteArray.ext (Array.toList_inj.mp hbytes))

/-- A text is known from what is fed for it and for more after it, and so is that. -/
theorem textHashInput_append_inj {first second : String} {later rest : List UInt8}
    (heq : textHashInput first ++ later = textHashInput second ++ rest) :
    first = second ∧ later = rest := by
  simp only [textHashInput, List.append_assoc, List.singleton_append] at heq
  -- There may be ends in what comes after too. The encodings go up to the first one.
  have hlength : first.toUTF8.data.toList.length = second.toUTF8.data.toList.length := by
    simpa only [List.idxOf_append_of_notMem (ff_notMem_toUTF8 _), List.idxOf_cons_self,
      Nat.add_zero] using congrArg (List.idxOf 0xff) heq
  obtain ⟨hbytes, hlater⟩ := List.append_inj heq hlength
  exact ⟨toList_toUTF8_inj hbytes, List.tail_eq_of_cons_eq hlater⟩

/-! ## Tags -/

namespace Tag

theorem hashInput_eq (tag : Tag) : tag.hashInput = textHashInput tag.name := rfl

theorem hashInput_eq_iff {first second : Tag} :
    first.hashInput = second.hashInput ↔ first.name = second.name := by
  constructor
  · intro heq
    exact (textHashInput_append_inj (congrArg (· ++ []) heq)).1
  · intro hname
    rw [hashInput_eq, hashInput_eq, hname]

/-- What a hash function has been fed in all, after some tags, one after the other. -/
def feedAll (tags : List Tag) (fed : List UInt8) : List UInt8 :=
  tags.foldl (fun fed tag => fed ++ tag.hashInput) fed

theorem feedAll_eq_append (tags : List Tag) (fed : List UInt8) :
    feedAll tags fed = fed ++ tags.flatMap hashInput := by
  induction tags generalizing fed with
  | nil => exact (List.append_nil fed).symm
  | cons tag tags ih =>
      rw [feedAll, List.foldl_cons, ← feedAll, ih, List.flatMap_cons, List.append_assoc]

/-- The names of tags can be read off, one by one, from what is fed for all of them. -/
theorem map_name_eq_of_flatMap_hashInput_eq {first second : List Tag}
    (heq : first.flatMap hashInput = second.flatMap hashInput) :
    first.map name = second.map name := by
  induction first generalizing second with
  | nil =>
      cases second with
      | nil => rfl
      | cons tag tags => simp [hashInput] at heq
  | cons tag tags ih =>
      cases second with
      | nil => simp [hashInput] at heq
      | cons tag' tags' =>
          simp only [List.flatMap_cons, hashInput_eq] at heq
          obtain ⟨hname, htail⟩ := textHashInput_append_inj heq
          rw [List.map_cons, List.map_cons, hname, ih htail]

theorem flatMap_hashInput (tags : List Tag) :
    tags.flatMap hashInput = (tags.map name).flatMap textHashInput := by
  rw [List.flatMap_map]
  rfl

theorem feedAll_eq_iff {first second : List Tag} {fed : List UInt8} :
    feedAll first fed = feedAll second fed ↔ first.map name = second.map name := by
  rw [feedAll_eq_append, feedAll_eq_append, List.append_right_inj]
  constructor
  · exact map_name_eq_of_flatMap_hashInput_eq
  · intro hnames
    rw [flatMap_hashInput, flatMap_hashInput, hnames]

end Tag

/-- A tag defined by data, as the record that it is by itself. It is compared and hashed by the name
that it holds, and need not be asked for it. -/
structure TagRecord where
  name : String
  delimiters : Option Delimiters
  copiers : List Copier

namespace TagRecord

/-- The record among all tags. -/
def tag (record : TagRecord) : Tag := .defined record.name record.delimiters record.copiers

instance : BEq TagRecord := ⟨fun first second => first.name == second.name⟩

def hashInput (record : TagRecord) : List UInt8 := textHashInput record.name

end TagRecord

/-- Tags of all kinds are equal, shared or not, just if their names are, and just if a hash function
is fed the same for them. A tag defined by data says the same by itself as among all tags. What is
fed for tags in a row tells their names in order, and so how many there are. -/
theorem identified_by_name :
    (∀ first second : Tag, ((first == second) = true ↔ first.name = second.name) ∧
      (first.hashInput = second.hashInput ↔ first.name = second.name)) ∧
    (∀ first second : SharedTag, (first == second) = true ↔ first.tag.name = second.tag.name) ∧
    (∀ first second : TagRecord, first.hashInput = first.tag.hashInput ∧
      (first == second) = (first.tag == second.tag)) ∧
    ∀ (first second : List Tag) (fed : List UInt8),
      Tag.feedAll first fed = Tag.feedAll second fed ↔
        first.map Tag.name = second.map Tag.name := by
  refine ⟨?_, ?_, ?_, ?_⟩
  · intro first second
    exact ⟨Tag.beq_iff_name_eq, Tag.hashInput_eq_iff⟩
  · intro first second
    exact Tag.beq_iff_name_eq
  · intro first second
    exact ⟨rfl, rfl⟩
  · intro first second fed
    exact Tag.feedAll_eq_iff

-- A name that goes on where another ends is not taken for it.
example : Tag.feedAll [.defined "ab" none [], .quoted] [] ≠
    Tag.feedAll [.defined "a" none [], .custom "bstring" none none none fun _ => none] [] := by
  decide +kernel

end TaggedExpr
