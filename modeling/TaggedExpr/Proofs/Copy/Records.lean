import Mathlib.Data.List.Basic
import TaggedExpr.Proofs.Copy.Isolation

/-! # What copying leaves on record

Every way to copy a leaf that fails is recorded once, and so is the decision to share the leaf after
all. Copying a chain leaves the records of its leaves, in the order of the leaves, so those that
tell of sharing are as many as the leaves that no way could copy.
-/

namespace TaggedExpr

/-! ## One leaf -/

/-- A copy made of a replica, with what is on record about it: the next leaf of the store, or one
that is there already. -/
def Replica.copied (replica : Replica) (store : Store) (log : List LogRecord) : Copied Address :=
  match replica with
  | .fresh atom => ⟨⟨store.size⟩, ⟨store.atoms.push atom⟩, log⟩
  | .shared address => ⟨address, store, log⟩

theorem Replica.copied_eq_place (replica : Replica) (store : Store) (log : List LogRecord) :
    replica.copied store log = ⟨(replica.place store).1, (replica.place store).2, log⟩ := by
  cases replica <;> rfl

@[simp]
theorem Replica.log_copied (replica : Replica) (store : Store) (log : List LogRecord) :
    (replica.copied store log).log = log := by
  rw [copied_eq_place]

namespace Tag

/-- What is recorded about an atom under a tag. -/
def recordOf (tag : Tag) (atom : Atom) (event : CopyEvent) : LogRecord :=
  ⟨tag.name, atom.describe, event⟩

theorem duplicateLeaf_of_copySelf_ok {address : Address} {store : Store} {replica : Replica}
    (hown : (store.read address).copySelf = .ok replica) (tag : Tag) :
    tag.duplicateLeaf address store = replica.copied store [] := by
  simp only [duplicateLeaf, hown, Replica.copied_eq_place]

theorem duplicateLeaf_of_construct_ok {tag : Tag} {address : Address} {store : Store}
    {own : CopyError} {replica : Replica} (hown : (store.read address).copySelf = .error own)
    (hconstructed : tag.construct (store.read address) = .ok replica) :
    tag.duplicateLeaf address store =
      replica.copied store [tag.recordOf (store.read address) (.selfCopyFailed own)] := by
  simp only [duplicateLeaf, hown, hconstructed, Replica.copied_eq_place, recordOf]

theorem duplicateLeaf_of_error {tag : Tag} {address : Address} {store : Store}
    {own constructed : CopyError} (hown : (store.read address).copySelf = .error own)
    (hconstructed : tag.construct (store.read address) = .error constructed) :
    tag.duplicateLeaf address store =
      ⟨address, store, [.selfCopyFailed own, .constructionFailed constructed, .aliased].map
        (tag.recordOf (store.read address))⟩ := by
  simp only [duplicateLeaf, hown, hconstructed, List.map_cons, List.map_nil, recordOf]

theorem construct_eq_of_copier?_eq {first second : Tag} {atom : Atom}
    (hcopier : first.copier? atom.type = second.copier? atom.type) :
    first.construct atom = second.construct atom := by
  simp only [construct, hcopier]

/-- A tag matters to a leaf by its name and by its copier for the type of the leaf. -/
theorem duplicateLeaf_congr {first second : Tag} {address : Address} {store : Store}
    (hname : first.name = second.name)
    (hcopier : first.copier? (store.read address).type = second.copier? (store.read address).type) :
    first.duplicateLeaf address store = second.duplicateLeaf address store := by
  simp only [duplicateLeaf, hname, construct_eq_of_copier?_eq hcopier]

/-- The copy of a leaf as its tag and its atom have it. The first three cases leave no other. -/
structure RecordedCopy (tag : Tag) (address : Address) (store : Store)
    (copy : Copied Address) : Prop where
  /-- The atom's own way works. No tag is asked about anything. -/
  own : ∀ replica, (store.read address).copySelf = .ok replica → copy = replica.copied store [] ∧
    ∀ other : Tag, other.duplicateLeaf address store = copy
  /-- The atom's own way fails and the tag's works. -/
  constructed : ∀ error replica, (store.read address).copySelf = .error error →
    tag.construct (store.read address) = .ok replica →
    copy = replica.copied store [tag.recordOf (store.read address) (.selfCopyFailed error)]
  /-- Both fail. The leaf is shared, and the store stays. -/
  shared : ∀ own constructed, (store.read address).copySelf = .error own →
    tag.construct (store.read address) = .error constructed →
    copy = ⟨address, store, [.selfCopyFailed own, .constructionFailed constructed, .aliased].map
      (tag.recordOf (store.read address))⟩
  /-- The tag's way is its copier for the type of the atom, whose leaf or whose error is given. -/
  construct_eq : ∀ copier, tag.copier? (store.read address).type = some copier →
    tag.construct (store.read address) = copier.construct (store.read address)
  /-- To have no copier is to have no capability. -/
  unsupported : tag.copier? (store.read address).type = none →
    tag.construct (store.read address) = .error .unsupported
  /-- No copier is asked but the one for the type of the atom. -/
  congr : ∀ other : Tag, other.name = tag.name →
    other.copier? (store.read address).type = tag.copier? (store.read address).type →
    other.duplicateLeaf address store = copy
  named : ∀ record ∈ copy.log,
    record.tagName = tag.name ∧ record.leaf = (store.read address).describe
  /-- All but the decision to share is at the level of traces. -/
  level_eq : ∀ record ∈ copy.log,
    record.level = if record.event = .aliased then .debug else .trace

theorem log_duplicateLeaf (tag : Tag) (address : Address) (store : Store) :
    ∃ events, (tag.duplicateLeaf address store).log =
      List.map (tag.recordOf (store.read address)) events := by
  cases hown : (store.read address).copySelf with
  | ok replica => exact ⟨[], by simp [duplicateLeaf_of_copySelf_ok hown]⟩
  | error own =>
      cases hconstructed : tag.construct (store.read address) with
      | ok replica =>
          exact ⟨[.selfCopyFailed own], by simp [duplicateLeaf_of_construct_ok hown hconstructed]⟩
      | error constructed => exact ⟨_, by rw [duplicateLeaf_of_error hown hconstructed]⟩

theorem recordedCopy_duplicateLeaf (tag : Tag) (address : Address) (store : Store) :
    tag.RecordedCopy address store (tag.duplicateLeaf address store) := by
  obtain ⟨events, hevents⟩ := tag.log_duplicateLeaf address store
  refine ⟨?_, ?_, ?_, ?_, ?_, ?_, ?_, ?_⟩
  · intro replica hown
    refine ⟨duplicateLeaf_of_copySelf_ok hown tag, ?_⟩
    intro other
    rw [duplicateLeaf_of_copySelf_ok hown other, duplicateLeaf_of_copySelf_ok hown tag]
  · intro error replica
    exact duplicateLeaf_of_construct_ok
  · intro own constructed
    exact duplicateLeaf_of_error
  · intro copier
    exact construct_of_copier?_eq_some
  · exact construct_of_copier?_eq_none
  · intro other
    exact duplicateLeaf_congr
  · intro record hrecord
    rw [hevents] at hrecord
    obtain ⟨event, _, rfl⟩ := List.mem_map.mp hrecord
    exact ⟨rfl, rfl⟩
  · intro record _
    unfold LogRecord.level
    cases record.event <;> rfl

end Tag

/-! ## Leaf after leaf -/

theorem Except.exists_eq_error_iff {result : Except ε α} :
    (∃ error, result = .error error) ↔ result.isOk = false := by
  cases result <;> simp [Except.isOk, Except.toBool]

namespace Site

theorem resists_iff {site : Site} {store : Store} : site.Resists store ↔
    (store.read site.address).copySelf.isOk = false ∧
      (site.tag.tag.construct (store.read site.address)).isOk = false := by
  rw [← Except.exists_eq_error_iff, ← Except.exists_eq_error_iff]
  exact ⟨fun hresists => ⟨hresists.own, hresists.constructed⟩, fun ⟨hown, hmade⟩ => ⟨hown, hmade⟩⟩

instance (site : Site) (store : Store) : Decidable (site.Resists store) :=
  decidable_of_iff _ resists_iff.symm

/-- What is on record about a leaf depends on the atom, not on the rest of the store. -/
theorem log_duplicate_congr {site : Site} {before after : Store}
    (hread : after.read site.address = before.read site.address) :
    (site.duplicate after).log = (site.duplicate before).log := by
  simp only [duplicate, Tag.duplicateLeaf, hread]
  cases (before.read site.address).copySelf with
  | ok replica => rfl
  | error own => cases site.tag.tag.construct (before.read site.address) <;> rfl

/-- A leaf is recorded as shared once if it resists, and otherwise not at all. -/
theorem countP_log_duplicate (site : Site) (store : Store) :
    (site.duplicate store).log.countP (·.level = .debug) = if site.Resists store then 1 else 0 := by
  simp only [resists_iff]
  unfold duplicate
  cases hown : (store.read site.address).copySelf with
  | ok replica =>
      rw [Tag.duplicateLeaf_of_copySelf_ok hown, Replica.log_copied]
      rfl
  | error own =>
      cases hconstructed : site.tag.tag.construct (store.read site.address) with
      | ok replica =>
          rw [Tag.duplicateLeaf_of_construct_ok hown hconstructed, Replica.log_copied]
          rfl
      | error constructed =>
          rw [Tag.duplicateLeaf_of_error hown hconstructed]
          rfl

end Site

/-- Leaves in the order in which they are copied, each with the store that it is copied in. -/
def visits : List Site → Store → List (Site × Store)
  | [], _ => []
  | site :: sites, store => (site, store) :: visits sites (site.duplicate store).store

theorem map_fst_visits (sites : List Site) (store : Store) :
    (visits sites store).map Prod.fst = sites := by
  induction sites generalizing store with
  | nil => rfl
  | cons site sites ih => simp [visits, ih]

/-- A log holds the records of each visit, in order, and so as many decisions to share as there are
visits to leaves that resist. -/
structure RecordedVisits (visited : List (Site × Store)) (log : List LogRecord) : Prop where
  log_eq : log = visited.flatMap fun visit =>
    (visit.1.tag.tag.duplicateLeaf visit.1.address visit.2).log
  countP_debug : log.countP (·.level = .debug) = visited.countP fun visit =>
    visit.1.Resists visit.2

theorem RecordedVisits.of_log_eq {visited : List (Site × Store)} {log : List LogRecord}
    (hlog : log = visited.flatMap fun visit => (visit.1.duplicate visit.2).log) :
    RecordedVisits visited log := by
  refine ⟨hlog, ?_⟩
  subst hlog
  induction visited with
  | nil => rfl
  | cons visit visited ih =>
      rw [List.flatMap_cons, List.countP_append, ih, visit.1.countP_log_duplicate, List.countP_cons,
        Nat.add_comm]
      simp only [decide_eq_true_eq]

theorem log_duplicateSites (sites : List Site) (store : Store) :
    (duplicateSites sites store).log =
      (visits sites store).flatMap fun visit => (visit.1.duplicate visit.2).log := by
  induction sites generalizing store with
  | nil => rfl
  | cons site sites ih => simp [duplicateSites, visits, ih]

/-- The store that a leaf is copied in has grown from the first one. -/
theorem grows_of_mem_visits {sites : List Site} {store : Store} {visit : Site × Store}
    (hvisit : visit ∈ visits sites store) : store.Grows visit.2 := by
  induction sites generalizing store with
  | nil => cases hvisit
  | cons site sites ih =>
      rcases List.mem_cons.mp hvisit with rfl | hlater
      · exact .refl store
      · exact (site.grows_duplicate store).trans (ih hlater)

/-- Leaves that are there from the start are recorded as if each were copied first. -/
theorem log_duplicateSites_of_holds {sites : List Site} {store : Store}
    (hheld : ∀ site ∈ sites, store.Holds site.address) :
    (duplicateSites sites store).log = sites.flatMap fun site => (site.duplicate store).log := by
  have hvisit : ∀ visit ∈ visits sites store,
      (visit.1.duplicate visit.2).log = (visit.1.duplicate store).log := by
    intro visit hmem
    have hsite : visit.1 ∈ sites := by
      rw [← map_fst_visits sites store]
      exact List.mem_map_of_mem hmem
    exact Site.log_duplicate_congr ((grows_of_mem_visits hmem).read_eq _ (hheld _ hsite))
  calc (duplicateSites sites store).log
    _ = (visits sites store).flatMap fun visit => (visit.1.duplicate visit.2).log :=
        log_duplicateSites sites store
    _ = (visits sites store).flatMap fun visit => (visit.1.duplicate store).log :=
        List.flatMap_congr hvisit
    _ = ((visits sites store).map Prod.fst).flatMap fun site => (site.duplicate store).log :=
        by rw [List.flatMap_map]
    _ = sites.flatMap fun site => (site.duplicate store).log := by rw [map_fst_visits]

/-- The ways to copy a leaf are tried in order and each failure is recorded once. The records of a
chain are those of its leaves in order, each copied under the tag of its own cell. -/
theorem duplicate_recorded :
    (∀ (tag : Tag) (address : Address) (store : Store),
      tag.RecordedCopy address store (tag.duplicateLeaf address store)) ∧
    ∀ (chain : Chain) (store : Store),
      RecordedVisits (visits chain.sites store) (chain.duplicate store).log ∧
      ((∀ address ∈ chain.leaves, store.Holds address) →
        RecordedVisits (chain.sites.map (·, store)) (chain.duplicate store).log) := by
  refine ⟨Tag.recordedCopy_duplicateLeaf, ?_⟩
  intro chain store
  rw [chain.log_duplicate]
  refine ⟨.of_log_eq (log_duplicateSites chain.sites store), ?_⟩
  intro hheld
  apply RecordedVisits.of_log_eq
  rw [log_duplicateSites_of_holds (List.forall_mem_map.mp hheld), List.flatMap_map]

/-- A poisoned register, a probe that does not copy itself, a counter and a number. -/
def reluctantStore : Store :=
  ⟨#[.register 3 true, .probe { text := "p", copying := .fails }, .counter 5, .int64 8]⟩

/-- Each under a tag of its own, the probe and the counter nested: no copier, one that refuses, one
that makes a symbol, and one for another type. -/
def reluctantChain : Chain :=
  let refusing : SharedTag := ⟨7, .defined "probe" none [.always .probe (.error (.failed "no"))]⟩
  let counted : SharedTag :=
    ⟨8, .defined "counter" none [.always .counter (.ok (.fresh (.symbol "five")))]⟩
  let mistaken : SharedTag := ⟨9, .custom "odd" none none none fun _ => some (.cloning .symbol)⟩
  .cons Stock.atom (.leaf ⟨0⟩) <|
    .cons Stock.list (.nested (.cons refusing (.leaf ⟨1⟩) (.last counted (.leaf ⟨2⟩)))) <|
    .last mistaken (.leaf ⟨3⟩)

def reluctantLog : List LogRecord :=
  let register := "Register(Mutex \x7b data: 3, poisoned: true, .. \x7d)"
  let probe := "Probe(\"p\")"
  let poisoned := CopyError.failed "poisoned lock: another task failed inside"
  let mismatch := CopyError.typeMismatch "sexpr_tags::built_in::atoms::Symbol" "i64"
  [⟨"atom", register, .selfCopyFailed poisoned⟩,
    ⟨"atom", register, .constructionFailed .unsupported⟩,
    ⟨"atom", register, .aliased⟩,
    ⟨"probe", probe, .selfCopyFailed (.failed "probe:p")⟩,
    ⟨"probe", probe, .constructionFailed (.failed "no")⟩,
    ⟨"probe", probe, .aliased⟩,
    ⟨"counter", "Counter(5)", .selfCopyFailed .unsupported⟩,
    ⟨"odd", "8", .selfCopyFailed .unsupported⟩,
    ⟨"odd", "8", .constructionFailed mismatch⟩,
    ⟨"odd", "8", .aliased⟩]

/-- Only the counter is copied, by its copier and after its own way failed. The others are recorded
as shared, each after both errors. -/
theorem duplicate_recorded_reluctantChain :
    (∀ address ∈ reluctantChain.leaves, reluctantStore.Holds address) ∧
    (reluctantChain.duplicate reluctantStore).value.leaves = [⟨0⟩, ⟨1⟩, ⟨4⟩, ⟨3⟩] ∧
    (reluctantChain.duplicate reluctantStore).store =
      ⟨reluctantStore.atoms.push (.symbol "five")⟩ ∧
    (reluctantChain.duplicate reluctantStore).log = reluctantLog ∧
    RecordedVisits (reluctantChain.sites.map (·, reluctantStore)) reluctantLog := by
  have hheld : ∀ address ∈ reluctantChain.leaves, reluctantStore.Holds address := by
    unfold Store.Holds
    decide
  have hlog : (reluctantChain.duplicate reluctantStore).log = reluctantLog := by decide
  refine ⟨hheld, rfl, rfl, hlog, ?_⟩
  rw [← hlog]
  exact (duplicate_recorded.2 reluctantChain reluctantStore).2 hheld

end TaggedExpr
