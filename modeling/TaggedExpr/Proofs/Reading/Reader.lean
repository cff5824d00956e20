import TaggedExpr.Proofs.Reading.Escapes
import TaggedExpr.Proofs.Reading.Tree

/-! # Reading trees

A reader takes in a text character by character and puts the tree together that it is the text of.
It keeps the items of the group that is open and of the groups around that. Since every tree is read
back from its text, no two trees have the same text.
-/

namespace TaggedExpr

/-- How far a reader is with the item at hand. -/
inductive Reading where
  | between
  /-- In a name, of which some characters were read. -/
  | name (read : List Char)
  | quoted (read : List Char)
  /-- After a backslash in a quoted text. -/
  | escape (read : List Char)
  /-- After the letter that announces a code point. -/
  | announced (read : List Char)
  /-- Among the digits of a code point. -/
  | codePoint (read digits : List Char)

/-- The items of the open group, the groups around it from the inside out, each with its items so
far and the bracket that opened the next, and the item at hand. -/
structure Reader where
  items : List Tree := []
  outer : List (Bracket × List Tree) := []
  reading : Reading := .between

namespace Reader

/-- A tree was read. -/
def push (reader : Reader) (tree : Tree) : Reader :=
  { reader with items := reader.items ++ [tree], reading := .between }

/-- A quoted text was read up to here. -/
def inQuotes (reader : Reader) (read : List Char) : Reader :=
  { reader with reading := .quoted read }

/-- Completes a name, if one is at hand. -/
def settle (reader : Reader) : Option Reader :=
  match reader.reading with
  | .between => some reader
  | .name read =>
    if hplain : isPlain (String.ofList read) = true then
      some (reader.push (.symbol ⟨String.ofList read, hplain⟩))
    else none
  | _ => none

def opened (reader : Reader) (bracket : Bracket) : Reader :=
  { items := [], outer := (bracket, reader.items) :: reader.outer, reading := .between }

/-- Closes the open group, which must have been opened by the same kind of bracket. -/
def closed (reader : Reader) (bracket : Bracket) : Option Reader :=
  match reader.outer with
  | [] => none
  | (opener, before) :: outer =>
    if opener = bracket then
      some { items := before ++ [.group bracket reader.items], outer, reading := .between }
    else none

/-- Takes in a mark where no item is at hand. -/
def mark (reader : Reader) : Char → Option Reader
  | '(' => some (reader.opened .round)
  | '[' => some (reader.opened .square)
  | ')' => reader.closed .round
  | ']' => reader.closed .square
  | '"' => some (reader.inQuotes [])
  | ' ' => some reader
  | _ => none

/-- Takes in a character. A mark completes a name, unless it is in a quoted text. -/
def step (reader : Reader) (c : Char) : Option Reader :=
  match reader.reading with
  | .between => if isMark c then reader.mark c else some { reader with reading := .name [c] }
  | .name read =>
    if isMark c then reader.settle.bind (·.mark c)
    else some { reader with reading := .name (read ++ [c]) }
  | .quoted read =>
    if c = '"' then some (reader.push (.string (String.ofList read)))
    else if c = '\\' then some { reader with reading := .escape read }
    else some (reader.inQuotes (read ++ [c]))
  | .escape read =>
    if c = 'u' then some { reader with reading := .announced read }
    else (Text.shortEscape? c).map fun meant => reader.inQuotes (read ++ [meant])
  | .announced read =>
    if c = '\x7b' then some { reader with reading := .codePoint read [] } else none
  | .codePoint read digits =>
    if c = '\x7d' then
      (readDigits? 16 digits).map fun n => reader.inQuotes (read ++ [Char.ofNat n])
    else some { reader with reading := .codePoint read (digits ++ [c]) }

def run (reader : Reader) (text : List Char) : Option Reader := text.foldlM step reader

/-- The tree that was read, if it is a single one and nothing is left open. -/
def result? (reader : Reader) : Option Tree :=
  match reader.settle with
  | some ⟨[tree], [], _⟩ => some tree
  | _ => none

end Reader

/-- Reads the text of a tree. -/
def Tree.read? (text : String) : Option Tree := (Reader.run {} text.toList).bind Reader.result?

namespace Reader

/-! ## Reading items -/

theorem run_cons {reader next : Reader} {c : Char} (hstep : reader.step c = some next)
    (text : List Char) : reader.run (c :: text) = next.run text := by
  rw [run, List.foldlM_cons, hstep]
  rfl

theorem run_append {reader next : Reader} {first : List Char} (hrun : reader.run first = some next)
    (second : List Char) : reader.run (first ++ second) = next.run second := by
  rw [run] at hrun
  rw [run, List.foldlM_append, hrun]
  rfl

theorem run_name (reader : Reader) {read name : List Char} (hreading : reader.reading = .name read)
    (hplain : ∀ c ∈ name, isMark c = false) :
    reader.run name = some { reader with reading := .name (read ++ name) } := by
  induction name generalizing reader read with
  | nil =>
      rw [List.append_nil, ← hreading]
      rfl
  | cons c name ih =>
      have hc : isMark c = false := hplain c List.mem_cons_self
      have hrest := fun d hd => hplain d (List.mem_cons_of_mem c hd)
      have hstep : reader.step c = some { reader with reading := .name (read ++ [c]) } := by
        simp [step, hreading, hc]
      rw [run_cons hstep, ih _ rfl hrest, List.append_assoc]
      rfl

theorem run_digits (reader : Reader) {read digits more : List Char}
    (hreading : reader.reading = .codePoint read digits) (hmore : '\x7d' ∉ more) :
    reader.run more = some { reader with reading := .codePoint read (digits ++ more) } := by
  induction more generalizing reader digits with
  | nil =>
      rw [List.append_nil, ← hreading]
      rfl
  | cons c more ih =>
      simp only [List.mem_cons, not_or] at hmore
      obtain ⟨hc, hrest⟩ := hmore
      have hstep : reader.step c =
          some { reader with reading := .codePoint read (digits ++ [c]) } := by
        simp [step, hreading, Ne.symm hc]
      rw [run_cons hstep, ih _ rfl hrest, List.append_assoc]
      rfl

theorem run_form (reader : Reader) (read : List Char) {c : Char} {form : List Char}
    (hform : Text.Form c form) :
    (reader.inQuotes read).run form = some (reader.inQuotes (read ++ [c])) := by
  cases hform with
  | itself hquote hbackslash => simp [run, step, inQuotes, hquote, hbackslash]
  | short letter hletter =>
      have hu : letter ≠ 'u' := by
        rintro rfl
        cases hletter
      simp [run, step, inQuotes, hletter, hu]
  | codePoint =>
      -- The braces delimit the digits, which are read back as the code point.
      have hstart : (reader.inQuotes read).run ['\\', 'u', '\x7b'] =
          some { reader with reading := .codePoint read [] } := by
        simp [run, step, inQuotes]
      have hdigits := run_digits { reader with reading := .codePoint read [] } rfl
        (brace_not_mem_toDigits c.toNat)
      have hend : step { reader with reading := .codePoint read (Nat.toDigits 16 c.toNat) } '\x7d' =
          some (reader.inQuotes (read ++ [c])) := by
        simp [step, readDigits?_toDigits, inQuotes]
      have hform : Text.codePointEscape c =
          ['\\', 'u', '\x7b'] ++ (Nat.toDigits 16 c.toNat ++ ['\x7d']) := rfl
      rw [hform, run_append hstart, run_append hdigits, List.nil_append, run_cons hend]
      rfl

theorem run_flatMap_escape (reader : Reader) (read text : List Char) :
    (reader.inQuotes read).run (text.flatMap (Text.escape '"')) =
      some (reader.inQuotes (read ++ text)) := by
  induction text generalizing read with
  | nil =>
      rw [List.append_nil]
      rfl
  | cons c text ih =>
      have hform := reader.run_form read (Text.form_escape c)
      rw [List.flatMap_cons, run_append hform, ih, List.append_assoc]
      rfl

/-! ## Reading trees -/

/-- From where no item is at hand, the reader takes the text in as that of some trees, except that
the last one may still have to be completed. -/
def Reads (reader : Reader) (text : List Char) (trees : List Tree) : Prop :=
  ∃ after, reader.run text = some after ∧
    after.settle = some { reader with items := reader.items ++ trees, reading := .between }

/-- A mark after a name that may have to be completed is a mark where no item is at hand. -/
theorem step_of_settle {reader settled : Reader} (hsettle : reader.settle = some settled) {c : Char}
    (hmark : isMark c = true) : reader.step c = settled.mark c := by
  obtain ⟨items, outer, reading⟩ := reader
  cases reading with
  | between =>
      cases hsettle
      simp [step, hmark]
  | name read => simp [step, hmark, hsettle]
  | quoted read => cases hsettle
  | escape read => cases hsettle
  | announced read => cases hsettle
  | codePoint read digits => cases hsettle

theorem reads_nil (reader : Reader) (hreading : reader.reading = .between) :
    reader.Reads [] [] := by
  obtain ⟨items, outer, reading⟩ := reader
  subst hreading
  exact ⟨_, rfl, by simp [settle]⟩

theorem reads_symbol (reader : Reader) (hreading : reader.reading = .between) (name : PlainName) :
    reader.Reads name.text.toList [.symbol name] := by
  obtain ⟨text, hplain⟩ := name
  have hchars := hplain
  simp only [isPlain, Bool.and_eq_true, bne_iff_ne, List.all_eq_true, Bool.not_eq_true'] at hchars
  obtain ⟨hempty, hchars⟩ := hchars
  obtain ⟨c, rest, hlist⟩ : ∃ c rest, text.toList = c :: rest :=
    List.exists_cons_of_ne_nil (fun h => hempty (String.toList_eq_nil_iff.mp h))
  rw [hlist] at hchars
  have hstep : reader.step c = some { reader with reading := .name [c] } := by
    simp [step, hreading, hchars c List.mem_cons_self]
  refine ⟨{ reader with reading := .name text.toList }, ?_, ?_⟩
  · rw [hlist, run_cons hstep, run_name _ rfl fun d hd => hchars d (List.mem_cons_of_mem c hd)]
    rfl
  · simp [settle, push, hplain]

theorem reads_string (reader : Reader) (hreading : reader.reading = .between) (text : String) :
    reader.Reads (Text.quoted text).toList [.string text] := by
  have hstart : reader.step '"' = some (reader.inQuotes []) := by
    simp [step, hreading, mark, isMark]
  have hend : (reader.inQuotes text.toList).step '"' = some (reader.push (.string text)) := by
    simp [step, inQuotes, push]
  refine ⟨reader.push (.string text), ?_, rfl⟩
  have hinside := reader.run_flatMap_escape [] text.toList
  rw [Text.quoted_toList, run_cons hstart, run_append hinside, List.nil_append, run_cons hend]
  rfl

theorem Reads.append_space {reader : Reader} {first second : List Char} {trees others : List Tree}
    (hfirst : reader.Reads first trees)
    (hsecond : Reads { reader with items := reader.items ++ trees, reading := .between }
      second others) :
    reader.Reads (first ++ ' ' :: second) (trees ++ others) := by
  -- The space completes the last of the first trees.
  obtain ⟨after, hrun, hsettle⟩ := hfirst
  obtain ⟨last, hlast, hsettled⟩ := hsecond
  refine ⟨last, ?_, ?_⟩
  · have hspace : after.step ' ' =
        some { reader with items := reader.items ++ trees, reading := .between } :=
      step_of_settle hsettle rfl
    rw [run_append hrun, run_cons hspace]
    exact hlast
  · rw [hsettled, List.append_assoc]

theorem Reads.group {reader : Reader} (hreading : reader.reading = .between) {bracket : Bracket}
    {text : List Char} {trees : List Tree} (hinner : (reader.opened bracket).Reads text trees) :
    reader.Reads (bracket.opening.toList ++ text ++ bracket.closing.toList)
      [.group bracket trees] := by
  obtain ⟨after, hrun, hsettle⟩ := hinner
  have hopen : reader.run bracket.opening.toList = some (reader.opened bracket) := by
    cases bracket <;> simp [run, Bracket.opening, step, hreading, mark, isMark]
  have hclose : after.run bracket.closing.toList = some (reader.push (.group bracket trees)) := by
    -- The bracket completes the last item before it closes the group.
    have hstep : ∀ c, isMark c = true → after.step c =
        Reader.mark ⟨trees, (bracket, reader.items) :: reader.outer, .between⟩ c :=
      fun c hmark => step_of_settle hsettle hmark
    cases bracket with
    | round => simp [run, Bracket.closing, hstep ')' rfl, mark, closed, push]
    | square => simp [run, Bracket.closing, hstep ']' rfl, mark, closed, push]
  refine ⟨reader.push (.group bracket trees), ?_, rfl⟩
  rw [List.append_assoc, run_append hopen, run_append hrun, hclose]

end Reader

namespace Tree

open Reader

mutual

theorem reads_text (tree : Tree) (reader : Reader) (hreading : reader.reading = .between) :
    reader.Reads tree.text.toList [tree] := by
  cases tree with
  | group bracket items =>
      have hitems := reads_texts items (reader.opened bracket) rfl
      rw [text, String.toList_append, String.toList_append]
      exact Reads.group hreading hitems
  | symbol name => exact reads_symbol reader hreading name
  | string text => exact reads_string reader hreading text

theorem reads_texts (items : List Tree) (reader : Reader) (hreading : reader.reading = .between) :
    reader.Reads (" ".intercalate (text.texts items)).toList items := by
  match items with
  | [] => exact reads_nil reader hreading
  | [item] => simpa [text.texts] using reads_text item reader hreading
  | item :: next :: items =>
      have hitem := reads_text item reader hreading
      have hitems := reads_texts (next :: items)
        { reader with items := reader.items ++ [item], reading := .between } rfl
      have htext : (" ".intercalate (text.texts (item :: next :: items))).toList =
          item.text.toList ++ ' ' :: (" ".intercalate (text.texts (next :: items))).toList := by
        simp [text.texts]
      rw [htext]
      exact hitem.append_space hitems

end

/-- Every tree is read back from its text. -/
theorem read?_text (tree : Tree) : read? tree.text = some tree := by
  obtain ⟨after, hrun, hsettle⟩ := tree.reads_text {} rfl
  rw [read?, hrun, Option.bind_some, result?, hsettle]
  rfl

/-- Rendering the expression of a tree comes to its end, and the text that it gives can be read
back. So no two trees have the same text, wherever their leaves are kept. -/
theorem rendered_unambiguous (tree other : Tree) (store later : Store) :
    (tree.rendered store).1 = .done ∧ read? (tree.rendered store).2 = some tree ∧
      ((tree.rendered store).2 = (other.rendered later).2 ↔ tree = other) := by
  rw [rendered_eq, rendered_eq]
  refine ⟨rfl, tree.read?_text, ?_, ?_⟩
  · intro (htext : tree.text = other.text)
    have hread := tree.read?_text
    rw [htext, other.read?_text] at hread
    exact (Option.some.inj hread).symm
  · rintro rfl
    rfl

end Tree

end TaggedExpr
