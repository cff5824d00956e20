import Mathlib.Data.List.Induction
import Mathlib.Data.List.Nodup
import Mathlib.Logic.Function.Basic
import TaggedExpr.Proofs.Tag.Identity
import TaggedExpr.Tag

/-! # Keeping values by tag

A map keyed by tags keeps its values by name. Through any run of insertions, removals and look-ups
it answers as a finite map from names does, and so does a table that looks for a tag only where a
hash function sends it. What else a tag holds shows in one place: the tag that made an entry stays
its key, until the entry is removed.
-/

namespace TaggedExpr

/-- One use of a map, by keys of some kind. -/
inductive MapCommand (κ : Type) where
  | insert (key : κ) (value : Int64)
  | erase (key : κ)
  | get (key : κ)

namespace MapCommand

def key : MapCommand κ → κ
  | .insert key _ => key
  | .erase key => key
  | .get key => key

/-- The same use of a map, by other keys. -/
def map (rename : κ → ι) : MapCommand κ → MapCommand ι
  | .insert key value => .insert (rename key) value
  | .erase key => .erase (rename key)
  | .get key => .get (rename key)

/-- All that matters of the key is its name. -/
def byName : MapCommand SharedTag → MapCommand String := map (·.tag.name)

@[simp]
theorem key_map (rename : κ → ι) (command : MapCommand κ) :
    (command.map rename).key = rename command.key := by
  cases command <;> rfl

theorem map_id (command : MapCommand κ) : command.map id = command := by
  cases command <;> rfl

end MapCommand

/-! ## Ways to keep values -/

/-- A way to keep values by key. -/
structure Keeper (κ σ : Type) where
  get? : σ → κ → Option Int64
  insert : σ → κ → Int64 → σ
  erase : σ → κ → σ

namespace Keeper

variable {κ ι σ τ : Type}

def after (keeper : Keeper κ σ) (state : σ) : MapCommand κ → σ
  | .insert key value => keeper.insert state key value
  | .erase key => keeper.erase state key
  | .get _ => state

def run (keeper : Keeper κ σ) (commands : List (MapCommand κ)) (state : σ) : σ :=
  commands.foldl keeper.after state

/-- The answers to commands, one after the other. Each is answered by the value that its key has
before anything is changed. -/
def answers (keeper : Keeper κ σ) : List (MapCommand κ) → σ → List (Option Int64)
  | [], _ => []
  | command :: commands, state =>
    keeper.get? state command.key :: keeper.answers commands (keeper.after state command)

theorem run_concat (keeper : Keeper κ σ) (commands : List (MapCommand κ))
    (command : MapCommand κ) (state : σ) :
    keeper.run (commands ++ [command]) state = keeper.after (keeper.run commands state) command :=
  List.foldl_concat ..

/-- What holds at first and is kept by each command holds after a run. -/
theorem run_induction {keeper : Keeper κ σ} (invariant : σ → Prop) {state : σ}
    (hfirst : invariant state)
    (hstep : ∀ state command, invariant state → invariant (keeper.after state command))
    (commands : List (MapCommand κ)) : invariant (keeper.run commands state) := by
  induction commands generalizing state with
  | nil => exact hfirst
  | cons command commands ih => exact ih (hstep state command hfirst)

/-- The states of one keeper can be seen as states of another that answer alike and change alike. -/
structure SeenAs (keeper : Keeper κ σ) (other : Keeper ι τ) (rename : κ → ι) (view : σ → τ) :
    Prop where
  get?_eq : ∀ state key, other.get? (view state) (rename key) = keeper.get? state key
  insert_eq : ∀ state key value,
    other.insert (view state) (rename key) value = view (keeper.insert state key value)
  erase_eq : ∀ state key, other.erase (view state) (rename key) = view (keeper.erase state key)

namespace SeenAs

variable {keeper : Keeper κ σ} {other : Keeper ι τ} {rename : κ → ι} {view : σ → τ}

theorem after_eq (hseen : keeper.SeenAs other rename view) (state : σ) (command : MapCommand κ) :
    other.after (view state) (command.map rename) = view (keeper.after state command) := by
  cases command with
  | insert key value => exact hseen.insert_eq state key value
  | erase key => exact hseen.erase_eq state key
  | get key => rfl

theorem run_eq (hseen : keeper.SeenAs other rename view) (commands : List (MapCommand κ))
    (state : σ) :
    other.run (commands.map (.map rename)) (view state) = view (keeper.run commands state) := by
  induction commands generalizing state with
  | nil => rfl
  | cons command commands ih =>
      simp only [run, List.map_cons, List.foldl_cons, hseen.after_eq]
      exact ih (keeper.after state command)

theorem answers_eq (hseen : keeper.SeenAs other rename view) (commands : List (MapCommand κ))
    (state : σ) :
    other.answers (commands.map (.map rename)) (view state) = keeper.answers commands state := by
  induction commands generalizing state with
  | nil => rfl
  | cons command commands ih =>
      simp only [List.map_cons, answers, MapCommand.key_map, hseen.get?_eq, hseen.after_eq, ih]

end SeenAs

end Keeper

/-- A finite map from names. -/
def nameKeeper : Keeper String (String → Option Int64) where
  get? values name := values name
  insert values name value := Function.update values name (some value)
  erase values name := Function.update values name none

/-- A map keyed by tags. -/
def tagKeeper : Keeper SharedTag TagMap where
  get? := TagMap.get?
  insert := TagMap.insert
  erase := TagMap.erase

/-- A table of small maps. What is made of that which a hash function is fed for a tag tells in
which of them the tag is looked for, and the others stay as they are. -/
def hashedKeeper {δ : Type} [DecidableEq δ] (digest : List UInt8 → δ) :
    Keeper SharedTag (δ → TagMap) where
  get? table key := (table (digest key.tag.hashInput)).get? key
  insert table key value :=
    let place := digest key.tag.hashInput
    Function.update table place ((table place).insert key value)
  erase table key :=
    let place := digest key.tag.hashInput
    Function.update table place ((table place).erase key)

/-- Tags are compared by their names. -/
theorem SharedTag.beq_eq (first second : SharedTag) :
    (first == second) = (first.tag.name == second.tag.name) := rfl

/-- What is asked about the key of an entry is not changed by giving the entry another value. -/
theorem comp_replaceValue {α : Type} (ask : SharedTag → α) (key : SharedTag) (value : Int64) :
    ((fun entry : SharedTag × Int64 => ask entry.1) ∘
      fun entry => if entry.1 == key then (entry.1, value) else entry) =
      fun entry => ask entry.1 := by
  funext entry
  simp only [Function.comp]
  split <;> rfl

namespace TagMap

/-- The tags of the entries. -/
def keys (map : TagMap) : List SharedTag := map.entries.map (·.1)

/-! ## Names -/

/-- The values by name. -/
def values (map : TagMap) (name : String) : Option Int64 :=
  (map.entries.find? fun entry => entry.1.tag.name == name).map (·.2)

theorem get?_eq (map : TagMap) (key : SharedTag) : map.get? key = map.values key.tag.name := rfl

theorem values_eq_none_iff {map : TagMap} {name : String} :
    map.values name = none ↔ ∀ key ∈ map.keys, key.tag.name ≠ name := by
  simp [values, keys]

theorem any_beq_iff {map : TagMap} {key : SharedTag} :
    (map.entries.any fun entry => entry.1 == key) = true ↔ map.values key.tag.name ≠ none := by
  simp [values_eq_none_iff, keys, SharedTag.beq_eq]

theorem values_insert (map : TagMap) (key : SharedTag) (value : Int64) :
    (map.insert key value).values = Function.update map.values key.tag.name (some value) := by
  funext name
  rw [Function.update_apply]
  unfold insert
  split
  next hany =>
    -- The entries keep their tags, so the one that is found is the one that was found before.
    have hsame := comp_replaceValue (fun tag => tag.tag.name == name) key value
    rw [any_beq_iff] at hany
    simp only [values] at hany ⊢
    rw [List.find?_map, hsame]
    cases hfound : map.entries.find? fun entry => entry.1.tag.name == name with
    | none =>
        rw [if_neg]
        · rfl
        · rintro rfl
          simp [hfound] at hany
    | some entry =>
        have hname : entry.1.tag.name = name := by simpa using List.find?_some hfound
        by_cases hkey : name = key.tag.name
        · simp [hkey, SharedTag.beq_eq, hname]
        · simp [hkey, SharedTag.beq_eq, hname]
  next hany =>
    rw [any_beq_iff, not_not] at hany
    by_cases hkey : name = key.tag.name
    · subst hkey
      simp only [values, Option.map_eq_none_iff] at hany
      simp [values, hany]
    · have hother : key.tag.name ≠ name := Ne.symm hkey
      simp [values, hkey, hother]

theorem values_erase (map : TagMap) (key : SharedTag) :
    (map.erase key).values = Function.update map.values key.tag.name none := by
  funext name
  rw [Function.update_apply]
  split
  next hname => simp [values_eq_none_iff, keys, erase, SharedTag.beq_eq, hname]
  next hname =>
    simp only [erase, values, List.find?_filter]
    congr 2
    funext entry
    by_cases hentry : entry.1.tag.name = name
    · simp [hentry, SharedTag.beq_eq, hname]
    · simp [hentry]

theorem tagKeeper_seenAs_names : tagKeeper.SeenAs nameKeeper (·.tag.name) values where
  get?_eq map key := (get?_eq map key).symm
  insert_eq map key value := (map.values_insert key value).symm
  erase_eq map key := (map.values_erase key).symm

/-! ## Places -/

/-- The entries by what is made of that which a hash function is fed for their tags. -/
def placed {δ : Type} [DecidableEq δ] (digest : List UInt8 → δ) (map : TagMap) (place : δ) :
    TagMap :=
  ⟨map.entries.filter fun entry => digest entry.1.tag.hashInput = place⟩

variable {δ : Type} [DecidableEq δ] {digest : List UInt8 → δ}

omit [DecidableEq δ] in
/-- A tag is never equal to one that is looked for elsewhere. -/
theorem beq_eq_false_of_digest_ne {first second : SharedTag}
    (hplace : digest first.tag.hashInput ≠ digest second.tag.hashInput) :
    (first == second) = false := by
  rw [SharedTag.beq_eq, beq_eq_false_iff_ne]
  intro hname
  exact hplace (congrArg digest (Tag.hashInput_eq_iff.mpr hname))

theorem digest_and_beq (first second : SharedTag) :
    (decide (digest first.tag.hashInput = digest second.tag.hashInput) && first == second) =
      (first == second) := by
  by_cases hplace : digest first.tag.hashInput = digest second.tag.hashInput
  · simp [hplace]
  · simp [hplace, beq_eq_false_of_digest_ne hplace]

theorem get?_placed (map : TagMap) (key : SharedTag) :
    (map.placed digest (digest key.tag.hashInput)).get? key = map.get? key := by
  simp only [get?, placed, List.find?_filter, Bool.decide_and, Bool.decide_eq_true,
    digest_and_beq]

theorem placed_insert (map : TagMap) (key : SharedTag) (value : Int64) :
    (map.insert key value).placed digest =
      Function.update (map.placed digest) (digest key.tag.hashInput)
        ((map.placed digest (digest key.tag.hashInput)).insert key value) := by
  funext place
  have hsame := comp_replaceValue (fun tag => decide (digest tag.tag.hashInput = place)) key value
  rw [Function.update_apply]
  split
  next hplace =>
    subst hplace
    simp only [insert, placed, List.any_filter, digest_and_beq]
    split
    next => simp only [List.filter_map, hsame]
    next => simp
  next hplace =>
    unfold insert
    split
    next =>
      -- None of the entries in another place has the key.
      simp only [placed, List.filter_map, hsame, mk.injEq]
      refine (List.map_congr_left ?_).trans (List.map_id _)
      intro entry hentry
      have hplaced : digest entry.1.tag.hashInput = place := by
        simpa using (List.mem_filter.mp hentry).2
      rw [beq_eq_false_of_digest_ne (hplaced ▸ hplace)]
      rfl
    next => simp [placed, Ne.symm hplace]

theorem placed_erase (map : TagMap) (key : SharedTag) :
    (map.erase key).placed digest =
      Function.update (map.placed digest) (digest key.tag.hashInput)
        ((map.placed digest (digest key.tag.hashInput)).erase key) := by
  funext place
  rw [Function.update_apply]
  split
  next hplace =>
    subst hplace
    simp only [placed, erase, List.filter_filter, Bool.and_comm]
  next hplace =>
    simp only [placed, erase, List.filter_filter]
    congr 2
    funext entry
    by_cases hentry : digest entry.1.tag.hashInput = place
    · simp [hentry, beq_eq_false_of_digest_ne (hentry ▸ hplace)]
    · simp [hentry]

variable (digest) in
theorem tagKeeper_seenAs_hashed :
    tagKeeper.SeenAs (hashedKeeper digest) id (placed digest) where
  get?_eq map key := map.get?_placed key
  insert_eq map key value := (map.placed_insert key value).symm
  erase_eq map key := (map.placed_erase key).symm

/-! ## Entries -/

theorem keys_insert (map : TagMap) (key : SharedTag) (value : Int64) :
    (map.insert key value).keys =
      if map.values key.tag.name = none then map.keys ++ [key] else map.keys := by
  unfold insert
  split
  next hany =>
    rw [any_beq_iff] at hany
    rw [if_neg hany, keys, keys, List.map_map]
    exact congrArg (map.entries.map ·) (comp_replaceValue id key value)
  next hany =>
    rw [any_beq_iff, not_not] at hany
    rw [if_pos hany]
    simp [keys]

theorem keys_erase (map : TagMap) (key : SharedTag) :
    (map.erase key).keys = map.keys.filter fun other => !(other == key) := by
  simp [keys, erase, List.filter_map, Function.comp_def]

/-- No two entries have one name. -/
def Distinct (map : TagMap) : Prop := (map.keys.map (·.tag.name)).Nodup

theorem distinct_empty : empty.Distinct := List.nodup_nil

theorem Distinct.after {map : TagMap} (hdistinct : map.Distinct)
    (command : MapCommand SharedTag) : (tagKeeper.after map command).Distinct := by
  cases command with
  | insert key value =>
      simp only [Keeper.after, tagKeeper, Distinct, keys_insert]
      split
      next hnew =>
        rw [values_eq_none_iff] at hnew
        simp only [List.map_append, List.map_cons, List.map_nil, List.nodup_append,
          List.mem_map, List.mem_singleton]
        refine ⟨hdistinct, List.nodup_singleton _, ?_⟩
        rintro _ ⟨other, hother, rfl⟩ _ rfl
        exact hnew other hother
      next => exact hdistinct
  | erase key =>
      simp only [Keeper.after, tagKeeper, Distinct, keys_erase]
      exact hdistinct.sublist (List.filter_sublist.map _)
  | get key => exact hdistinct

/-- Where names are distinct, an entry is its key and the value of its name. -/
theorem mem_entries_iff {map : TagMap} (hdistinct : map.Distinct) {key : SharedTag}
    {value : Int64} :
    (key, value) ∈ map.entries ↔ key ∈ map.keys ∧ map.values key.tag.name = some value := by
  have hvalue : ∀ value, (key, value) ∈ map.entries →
      map.values key.tag.name = some value := by
    intro value hentry
    cases hfound : map.entries.find? fun entry => entry.1.tag.name == key.tag.name with
    | none => simpa using List.find?_eq_none.mp hfound _ hentry
    | some found =>
        have hname : found.1.tag.name = key.tag.name := by simpa using List.find?_some hfound
        rw [Distinct, keys, List.map_map] at hdistinct
        have hsame : found = (key, value) :=
          List.inj_on_of_nodup_map hdistinct (List.mem_of_find?_eq_some hfound) hentry hname
        rw [values, hfound, hsame]
        rfl
  constructor
  · intro hentry
    exact ⟨List.mem_map_of_mem hentry, hvalue value hentry⟩
  · rintro ⟨hkey, hvalues⟩
    obtain ⟨⟨_, held⟩, hentry, rfl⟩ := List.mem_map.mp hkey
    rw [hvalue held hentry, Option.some.injEq] at hvalues
    exact hvalues ▸ hentry

end TagMap

/-- The values by name after some commands on an empty map. -/
def valuesAfter (commands : List (MapCommand SharedTag)) : String → Option Int64 :=
  nameKeeper.run (commands.map .byName) fun _ => none

/-- The tag has made an entry that is still there: it was inserted when its name had no value, and
the name has not been removed since. -/
def MadeEntry (commands : List (MapCommand SharedTag)) (key : SharedTag) : Prop :=
  ∃ before value after, commands = before ++ .insert key value :: after ∧
    valuesAfter before key.tag.name = none ∧
    ∀ other, .erase other ∈ after → other.tag.name ≠ key.tag.name

/-- The last command adds a key if it is an insertion of it, and removes one if it is a removal of
its name. -/
theorem madeEntry_concat_iff {commands : List (MapCommand SharedTag)}
    {command : MapCommand SharedTag} {key : SharedTag} :
    MadeEntry (commands ++ [command]) key ↔
      (MadeEntry commands key ∧ ∀ other, command = .erase other → other.tag.name ≠ key.tag.name) ∨
      ((∃ value, command = .insert key value) ∧ valuesAfter commands key.tag.name = none) := by
  constructor
  · rintro ⟨before, value, after, hcommands, hnew, hkept⟩
    rcases List.eq_nil_or_concat after with rfl | ⟨after, last, rfl⟩
    · obtain ⟨rfl, hlast⟩ := List.append_inj' hcommands rfl
      exact .inr ⟨⟨value, List.head_eq_of_cons_eq hlast⟩, hnew⟩
    · rw [List.concat_eq_append, ← List.cons_append, ← List.append_assoc] at hcommands
      obtain ⟨rfl, hlast⟩ := List.append_inj' hcommands rfl
      obtain rfl := List.head_eq_of_cons_eq hlast
      refine .inl ⟨⟨before, value, after, rfl, hnew, ?_⟩, ?_⟩
      · intro other hother
        exact hkept other (by simp [hother])
      · rintro other rfl
        exact hkept other (by simp)
  · rintro (⟨⟨before, value, after, rfl, hnew, hkept⟩, hlast⟩ | ⟨⟨value, rfl⟩, hnew⟩)
    · refine ⟨before, value, after ++ [command], by simp, hnew, ?_⟩
      intro other hother
      rcases List.mem_append.mp hother with hearlier | hlater
      · exact hkept other hearlier
      · exact hlast other (List.mem_singleton.mp hlater).symm
    · exact ⟨commands, value, [], rfl, hnew, nofun⟩

/-- The map after some commands on an empty one. -/
def mapAfter (commands : List (MapCommand SharedTag)) : TagMap := tagKeeper.run commands .empty

theorem values_mapAfter (commands : List (MapCommand SharedTag)) :
    (mapAfter commands).values = valuesAfter commands :=
  (TagMap.tagKeeper_seenAs_names.run_eq commands .empty).symm

theorem distinct_mapAfter (commands : List (MapCommand SharedTag)) :
    (mapAfter commands).Distinct :=
  Keeper.run_induction TagMap.Distinct TagMap.distinct_empty
    (fun _ command hdistinct => hdistinct.after command) commands

/-- The keys of a map are the tags that made its entries. -/
theorem mem_keys_mapAfter_iff {commands : List (MapCommand SharedTag)} {key : SharedTag} :
    key ∈ (mapAfter commands).keys ↔ MadeEntry commands key := by
  induction commands using List.reverseRecOn with
  | nil =>
      constructor
      · intro hkey
        cases hkey
      · rintro ⟨before, value, after, hcommands, _⟩
        simp at hcommands
  | append_singleton commands command ih =>
      rw [madeEntry_concat_iff, ← ih, mapAfter, Keeper.run_concat, ← mapAfter, ← values_mapAfter]
      cases command with
      | insert inserted value =>
          simp only [Keeper.after, tagKeeper, TagMap.keys_insert, reduceCtorEq, false_implies,
            implies_true, and_true, MapCommand.insert.injEq, exists_and_left, exists_eq']
          split
          next hnew =>
            rw [List.mem_append, List.mem_singleton, eq_comm (a := inserted)]
            refine or_congr_right ⟨?_, And.left⟩
            rintro rfl
            exact ⟨rfl, hnew⟩
          next hheld =>
            rw [or_iff_left]
            rintro ⟨rfl, hnew⟩
            exact hheld hnew
      | erase erased =>
          simp only [Keeper.after, tagKeeper, TagMap.keys_erase, List.mem_filter,
            SharedTag.beq_eq, reduceCtorEq, exists_false, false_and, or_false,
            MapCommand.erase.injEq, forall_eq']
          rw [Bool.not_eq_true', beq_eq_false_iff_ne, ne_comm]
      | get looked => simp [Keeper.after]

/-- A map keyed by tags is a finite map from names, after whatever was done to it. -/
structure KeptByName (commands : List (MapCommand SharedTag)) : Prop where
  /-- All answers are those of a finite map from names, and so depend on the names only. -/
  answers_eq : tagKeeper.answers commands .empty =
    nameKeeper.answers (commands.map .byName) fun _ => none
  /-- They are the same where tags are looked for by what a hash function is fed for them. -/
  answers_hashed : ∀ {δ : Type} [DecidableEq δ] (digest : List UInt8 → δ),
    (hashedKeeper digest).answers commands (fun _ => .empty) = tagKeeper.answers commands .empty
  distinct : (mapAfter commands).Distinct
  /-- The key of an entry is the tag that made the entry; the value is the one last given to the
  name, by whatever tag. -/
  mem_entries_iff : ∀ key value, (key, value) ∈ (mapAfter commands).entries ↔
    MadeEntry commands key ∧ valuesAfter commands key.tag.name = some value

/-- Any run of insertions, removals and look-ups on a map keyed by tags is answered as by a finite
map from names. There is one entry at most for each name, kept under the tag that made it. -/
theorem mapAfter_keptByName (commands : List (MapCommand SharedTag)) : KeptByName commands := by
  refine ⟨?_, ?_, distinct_mapAfter commands, ?_⟩
  · exact (TagMap.tagKeeper_seenAs_names.answers_eq commands .empty).symm
  · intro δ _ digest
    have hhashed := (TagMap.tagKeeper_seenAs_hashed digest).answers_eq commands .empty
    rwa [List.map_congr_left fun command _ => command.map_id, List.map_id'] at hhashed
  · intro key value
    rw [TagMap.mem_entries_iff (distinct_mapAfter commands), mem_keys_mapAfter_iff,
      values_mapAfter]

-- The later tag of the name brings a value, and leaves its brackets behind.
example :
    let round : SharedTag := ⟨7, .defined "group" (some ⟨"(", ")"⟩) []⟩
    let square : SharedTag := ⟨8, .defined "group" (some ⟨"[", "]"⟩) []⟩
    (mapAfter [.insert round 1, .insert square 2]).entries = [(round, 2)] := rfl

end TaggedExpr
