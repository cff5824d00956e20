import Mathlib.Data.List.Induction
import TaggedExpr.Proofs.Copy.Records

/-! # The copiers of a tag

A tag defined by data holds one copier at most for each type: the one that was added last, in the
order in which the copiers that are left were added. It is found by the type of the atom that it is
asked to copy, so it never refuses the atom for its type, which it would do to any other atom before
anything else happens.
-/

namespace TaggedExpr

namespace Copier

/-- The copiers in a row that no later one for the same type takes the place of. -/
def latest : List Copier → List Copier
  | [] => []
  | copier :: later =>
    if later.any fun other => other.accepts == copier.accepts then latest later
    else copier :: latest later

theorem latest_concat (added : List Copier) (copier : Copier) :
    latest (added ++ [copier]) =
      (latest added).filter (fun old => old.accepts != copier.accepts) ++ [copier] := by
  induction added with
  | nil => rfl
  | cons first added ih =>
      rw [List.cons_append, latest, latest, List.any_append, ih]
      by_cases hlater : added.any fun other => other.accepts == first.accepts
      · simp [hlater]
      · by_cases hlast : copier.accepts = first.accepts
        · simp [hlater, hlast]
        · have hkept : first.accepts ≠ copier.accepts := Ne.symm hlast
          simp [hlater, hlast, hkept]

theorem mem_of_mem_latest {added : List Copier} {copier : Copier} (hmem : copier ∈ latest added) :
    copier ∈ added := by
  induction added with
  | nil => cases hmem
  | cons first added ih =>
      rw [latest] at hmem
      split at hmem
      next => exact List.mem_cons_of_mem _ (ih hmem)
      next =>
        rcases List.mem_cons.mp hmem with rfl | hlater
        · exact List.mem_cons_self
        · exact List.mem_cons_of_mem _ (ih hlater)

theorem nodup_latest (added : List Copier) : ((latest added).map (·.accepts)).Nodup := by
  induction added with
  | nil => exact List.nodup_nil
  | cons first added ih =>
      rw [latest]
      split
      next => exact ih
      next hlast =>
        rw [List.map_cons, List.nodup_cons]
        refine ⟨?_, ih⟩
        intro hmem
        obtain ⟨other, hother, htype⟩ := List.mem_map.mp hmem
        apply hlast
        rw [List.any_eq_true]
        exact ⟨other, mem_of_mem_latest hother, by simpa using htype⟩

end Copier

namespace Tag

/-- The tag that is defined without copiers and then given some, one after the other. -/
def withCopiers (name : String) (delimiters : Option Delimiters) (added : List Copier) : Tag :=
  added.foldl (fun tag copier => tag.addCopier copier) (.defined name delimiters [])

variable {name : String} {delimiters : Option Delimiters} {added : List Copier}

theorem withCopiers_concat (name : String) (delimiters : Option Delimiters)
    (added : List Copier) (copier : Copier) :
    withCopiers name delimiters (added ++ [copier]) =
      (withCopiers name delimiters added).addCopier copier :=
  List.foldl_concat ..

/-- Adding copiers changes nothing but the copiers, and leaves the last one for each type. -/
theorem withCopiers_eq (name : String) (delimiters : Option Delimiters) (added : List Copier) :
    withCopiers name delimiters added = .defined name delimiters (Copier.latest added) := by
  induction added using List.reverseRecOn with
  | nil => rfl
  | append_singleton added copier ih =>
      rw [withCopiers_concat, ih, addCopier, Copier.latest_concat]

/-- A copier that is added answers for its type, and for no other. -/
theorem copier?_addCopier (name : String) (delimiters : Option Delimiters) (table : List Copier)
    (copier : Copier) (type : AtomType) :
    ((defined name delimiters table).addCopier copier).copier? type =
      if copier.accepts = type then some copier
      else (defined name delimiters table).copier? type := by
  simp only [addCopier, copier?, List.find?_append, List.find?_filter]
  split
  next htype =>
    subst htype
    have hnone : table.find? (fun old => decide ((old.accepts != copier.accepts) = true ∧
        (old.accepts == copier.accepts) = true)) = none := by
      simp
    rw [hnone]
    simp
  next htype =>
    have hsame : (fun old : Copier => decide ((old.accepts != copier.accepts) = true ∧
        (old.accepts == type) = true)) = fun old => old.accepts == type := by
      funext old
      by_cases hold : old.accepts = type
      · simp [hold, Ne.symm htype]
      · simp [hold]
    rw [hsame]
    simp [htype]

/-- The last copier for a type is the one that is found. -/
theorem copier?_withCopiers (name : String) (delimiters : Option Delimiters)
    (added : List Copier) (type : AtomType) :
    (withCopiers name delimiters added).copier? type =
      added.reverse.find? fun copier => copier.accepts == type := by
  induction added using List.reverseRecOn with
  | nil => rfl
  | append_singleton added copier ih =>
      rw [withCopiers_eq] at ih
      rw [withCopiers_concat, withCopiers_eq, copier?_addCopier, ih, List.reverse_concat,
        List.find?_cons]
      by_cases htype : copier.accepts = type
      · simp [htype]
      · rw [if_neg htype, beq_eq_false_iff_ne.mpr htype]

theorem copier?_withCopiers_eq_some_iff {type : AtomType} {copier : Copier} :
    (withCopiers name delimiters added).copier? type = some copier ↔
      copier.accepts = type ∧ ∃ before after, added = before ++ copier :: after ∧
        ∀ later ∈ after, later.accepts ≠ type := by
  rw [copier?_withCopiers, List.find?_eq_some_iff_append, beq_iff_eq]
  refine and_congr_right fun _ => ?_
  -- What was added after the copier comes before it in the reversed list.
  constructor
  · rintro ⟨after, before, hreverse, hlater⟩
    refine ⟨before.reverse, after.reverse, ?_, by simpa using hlater⟩
    rw [← added.reverse_reverse, hreverse]
    simp
  · rintro ⟨before, after, rfl, hlater⟩
    exact ⟨after.reverse, before.reverse, by simp, by simpa using hlater⟩

theorem copier?_withCopiers_eq_none_iff {type : AtomType} :
    (withCopiers name delimiters added).copier? type = none ↔
      ∀ copier ∈ added, copier.accepts ≠ type := by
  rw [copier?_withCopiers, List.find?_eq_none]
  simp

/-- A tag defined by data looks for its copiers by what they accept. -/
theorem accepts_of_copier?_eq {table : List Copier} {type : AtomType} {copier : Copier}
    (hfound : (defined name delimiters table).copier? type = some copier) :
    copier.accepts = type := by
  simpa using List.find?_some hfound

/-- A failure on record is that of the tag. -/
theorem construct_eq_of_mem_log {tag : Tag} {address : Address} {store : Store}
    {record : LogRecord} {error : CopyError}
    (hrecord : record ∈ (tag.duplicateLeaf address store).log)
    (hevent : record.event = .constructionFailed error) :
    tag.construct (store.read address) = .error error := by
  cases hown : (store.read address).copySelf with
  | ok replica =>
      rw [duplicateLeaf_of_copySelf_ok hown, Replica.log_copied] at hrecord
      cases hrecord
  | error own =>
      cases hconstructed : tag.construct (store.read address) with
      | ok replica =>
          rw [duplicateLeaf_of_construct_ok hown hconstructed, Replica.log_copied] at hrecord
          obtain rfl := List.mem_singleton.mp hrecord
          cases hevent
      | error constructed =>
          rw [duplicateLeaf_of_error hown hconstructed] at hrecord
          obtain ⟨event, hmem, rfl⟩ := List.mem_map.mp hrecord
          simp only [recordOf] at hevent
          subst hevent
          simpa [eq_comm] using hmem

/-- What has become of a tag once copiers were added to it. -/
structure LastAdded (name : String) (delimiters : Option Delimiters) (added : List Copier)
    (tag : Tag) : Prop where
  /-- The copiers that are left are in the order in which each was last added. Nothing else has
  changed. -/
  eq_defined : tag = .defined name delimiters (Copier.latest added)
  nodup : ((Copier.latest added).map (·.accepts)).Nodup
  copier?_eq_some_iff : ∀ type copier, tag.copier? type = some copier ↔
    copier.accepts = type ∧ ∃ before after, added = before ++ copier :: after ∧
      ∀ later ∈ after, later.accepts ≠ type
  copier?_eq_none_iff : ∀ type, tag.copier? type = none ↔ ∀ copier ∈ added, copier.accepts ≠ type
  /-- One more copier goes to the end, in place of one for its type, and changes the answer for no
  other type. -/
  addCopier : ∀ copier,
    tag.addCopier copier = .defined name delimiters
      ((Copier.latest added).filter (fun old => old.accepts != copier.accepts) ++ [copier]) ∧
    ∀ type, (tag.addCopier copier).copier? type =
      if copier.accepts = type then some copier else tag.copier? type
  /-- The copier for the type of an atom accepts the atom. -/
  construct_eq : ∀ atom copier, tag.copier? atom.type = some copier →
    copier.accepts = atom.type ∧ tag.construct atom = copier.copy atom
  /-- So what is recorded about a leaf is that there is no copier, or what the copier itself
  says. -/
  recorded : ∀ address store, ∀ record ∈ (tag.duplicateLeaf address store).log, ∀ error,
    record.event = .constructionFailed error →
      (tag.copier? (store.read address).type = none ∧ error = .unsupported) ∨
      ∃ copier, tag.copier? (store.read address).type = some copier ∧
        copier.copy (store.read address) = .error error

/-- A copier that such a tag finds for an atom is applied to it as it is. -/
theorem construct_withCopiers {atom : Atom} {copier : Copier}
    (hfound : (withCopiers name delimiters added).copier? atom.type = some copier) :
    copier.accepts = atom.type ∧
      (withCopiers name delimiters added).construct atom = copier.copy atom := by
  have haccepts : copier.accepts = atom.type := by
    rw [withCopiers_eq] at hfound
    exact accepts_of_copier?_eq hfound
  refine ⟨haccepts, ?_⟩
  rw [construct_of_copier?_eq_some hfound, Copier.construct_of_type_eq haccepts.symm]

/-- What is recorded of a failure under such a tag does not come from the types. -/
theorem constructionFailed_cases {address : Address} {store : Store} {record : LogRecord}
    {error : CopyError}
    (hrecord : record ∈
      ((withCopiers name delimiters added).duplicateLeaf address store).log)
    (hevent : record.event = .constructionFailed error) :
    ((withCopiers name delimiters added).copier? (store.read address).type = none ∧
      error = .unsupported) ∨
    ∃ copier, (withCopiers name delimiters added).copier? (store.read address).type =
      some copier ∧ copier.copy (store.read address) = .error error := by
  have hfailed := construct_eq_of_mem_log hrecord hevent
  cases hfound : (withCopiers name delimiters added).copier?
      (store.read address).type with
  | none =>
      rw [construct_of_copier?_eq_none hfound, Except.error.injEq] at hfailed
      exact .inl ⟨rfl, hfailed.symm⟩
  | some copier =>
      rw [(construct_withCopiers hfound).2] at hfailed
      exact .inr ⟨copier, rfl, hfailed⟩

end Tag

namespace Copier

/-- Applies a way to copy atoms of one type that may do anything else besides. -/
def constructDoing {m : Type → Type} [Monad m] (accepts : AtomType)
    (copy : Atom → m (Except CopyError Replica)) (atom : Atom) : m (Except CopyError Replica) :=
  if atom.type = accepts then copy atom
  else pure (.error (.typeMismatch accepts.name atom.type.name))

/-- A copier refuses the atoms of all other types, and tells which type it wanted and which it was
given. -/
structure RefusesOthers (copier : Copier) : Prop where
  construct_eq : ∀ atom : Atom, atom.type ≠ copier.accepts →
    copier.construct atom = .error (.typeMismatch copier.accepts.name atom.type.name)
  /-- Its way to copy atoms has no part in this, whatever it might do. -/
  constructDoing_eq : ∀ {m : Type → Type} [Monad m] (copy : Atom → m (Except CopyError Replica))
    (atom : Atom), atom.type ≠ copier.accepts →
      constructDoing copier.accepts copy atom = pure (copier.construct atom)
  /-- If it does nothing else, this is how copiers are applied to all atoms. -/
  constructDoing_pure : ∀ {m : Type → Type} [Monad m] (atom : Atom),
    constructDoing (m := m) copier.accepts (fun atom => pure (copier.copy atom)) atom =
      pure (copier.construct atom)

end Copier

/-- Whatever copiers are added to a tag defined by data, it keeps the last one for each type, in the
order in which these were added, and looks for them by type. None of them ever has to refuse a leaf
that is copied under the tag, although each refuses all atoms but those of its type. -/
theorem copiers_last_wins :
    (∀ (name : String) (delimiters : Option Delimiters) (added : List Copier),
      Tag.LastAdded name delimiters added (Tag.withCopiers name delimiters added)) ∧
    ∀ copier : Copier, copier.RefusesOthers := by
  refine ⟨?_, ?_⟩
  · intro name delimiters added
    refine ⟨Tag.withCopiers_eq name delimiters added, Copier.nodup_latest added,
      fun _ _ => Tag.copier?_withCopiers_eq_some_iff,
      fun _ => Tag.copier?_withCopiers_eq_none_iff, ?_, fun _ _ => Tag.construct_withCopiers,
      fun _ _ _ hrecord _ => Tag.constructionFailed_cases hrecord⟩
    intro copier
    rw [Tag.withCopiers_eq]
    exact ⟨rfl, Tag.copier?_addCopier name delimiters _ copier⟩
  · intro copier
    refine ⟨fun _ => Copier.construct_of_type_ne, ?_, ?_⟩
    · intro m _ copy atom htype
      rw [Copier.constructDoing, if_neg htype, Copier.construct_of_type_ne htype]
    · intro m _ atom
      unfold Copier.constructDoing Copier.construct
      split
      next => rfl
      next => rfl

-- The copier for counters that was added first is gone, and the second stands behind the others.
example : (Copier.latest [.cloning .counter, .cloning .probe,
    .always .counter (.error .unsupported), .cloning .symbol]).map (·.accepts) =
      [.probe, .counter, .symbol] := rfl

end TaggedExpr
