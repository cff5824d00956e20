import TaggedExpr.Proofs.Copy.Records
import TaggedExpr.Proofs.Render.Display

/-! # Copies look alike

A chain is rendered by its cells and by what its leaves display, and not by where the leaves are
kept. So if every way to copy a leaf that works comes up with a leaf that displays the same, a copy
is rendered like its original into every sink. Clones that display the same are such copies, and so
are those that a register makes of itself; a register that cannot be locked is shared, and breaks
off the copy just where it breaks off the original.
-/

namespace TaggedExpr

/-! ## Lists of the same length -/

theorem Chain.isEmpty_outline (chain : Chain) : chain.outline.isEmpty = chain.isEmpty := by
  cases chain with
  | last tag payload => cases payload <;> rfl
  | cons tag payload rest => rfl

theorem Chain.cellCount_outline (chain : Chain) : chain.outline.cellCount = chain.cellCount := by
  cases chain with
  | last tag payload => rfl
  | cons tag payload rest => exact congrArg (· + 1) rest.cellCount_outline

theorem Chain.length_outline (chain : Chain) : chain.outline.length = chain.length := by
  simp only [Chain.length, chain.isEmpty_outline, chain.cellCount_outline]

/-! ## Leaves that are copied alike -/

/-- Whether the leaf of a replica displays the given: a fresh leaf what its atom does, a shared one
what it does in the store, where it must be. -/
def Replica.Displays (store : Store) (shown : Shown) : Replica → Prop
  | .fresh atom => atom.display = shown
  | .shared address => store.Holds address ∧ (store.read address).display = shown

theorem Replica.Displays.mono {before after : Store} (hgrows : before.Grows after) {shown : Shown}
    {replica : Replica} (hdisplays : replica.Displays before shown) :
    replica.Displays after shown := by
  cases replica with
  | fresh atom => exact hdisplays
  | shared address =>
      refine ⟨hgrows.holds hdisplays.1, ?_⟩
      rw [hgrows.read_eq address hdisplays.1]
      exact hdisplays.2

theorem Replica.Displays.place {store : Store} {shown : Shown} {replica : Replica}
    (hdisplays : replica.Displays store shown) :
    (replica.place store).2.Holds (replica.place store).1 ∧
      ((replica.place store).2.read (replica.place store).1).display = shown := by
  cases replica with
  | fresh atom =>
      refine ⟨store.holds_allocate atom, ?_⟩
      exact (congrArg Atom.display (store.read_allocate_self atom)).trans hdisplays
  | shared address => exact hdisplays

namespace Site

/-- A way that is tried on the leaf and succeeds gives a leaf that displays the same. The tag's
copier is tried only if the atom could not copy itself. -/
structure CopiesAlike (site : Site) (store : Store) : Prop where
  own : ∀ replica, (store.read site.address).copySelf = .ok replica →
    replica.Displays store (store.read site.address).display
  constructed : ∀ error replica, (store.read site.address).copySelf = .error error →
    site.tag.tag.construct (store.read site.address) = .ok replica →
    replica.Displays store (store.read site.address).display

theorem CopiesAlike.mono {site : Site} {before after : Store} (hgrows : before.Grows after)
    (hheld : before.Holds site.address) (halike : site.CopiesAlike before) :
    site.CopiesAlike after := by
  have hread := hgrows.read_eq _ hheld
  refine ⟨?_, ?_⟩
  · intro replica hown
    rw [hread] at hown ⊢
    exact (halike.own replica hown).mono hgrows
  · intro error replica hown hconstructed
    rw [hread] at hown hconstructed ⊢
    exact (halike.constructed error replica hown hconstructed).mono hgrows

/-- The copy of a leaf is in the store and displays what its original does. -/
theorem displays_duplicate {site : Site} {store : Store} (hheld : store.Holds site.address)
    (halike : site.CopiesAlike store) :
    (site.duplicate store).store.Holds (site.duplicate store).value ∧
      ((site.duplicate store).store.read (site.duplicate store).value).display =
        (store.read site.address).display := by
  unfold duplicate
  cases hown : (store.read site.address).copySelf with
  | ok replica =>
      rw [Tag.duplicateLeaf_of_copySelf_ok hown, Replica.copied_eq_place]
      exact (halike.own replica hown).place
  | error own =>
      cases hconstructed : site.tag.tag.construct (store.read site.address) with
      | ok replica =>
          rw [Tag.duplicateLeaf_of_construct_ok hown hconstructed, Replica.copied_eq_place]
          exact (halike.constructed own replica hown hconstructed).place
      | error constructed =>
          rw [Tag.duplicateLeaf_of_error hown hconstructed]
          exact ⟨hheld, rfl⟩

end Site

/-- Copies of leaves, made one after the other, display what their originals do. -/
theorem shownAt_duplicateSites {sites : List Site} {store : Store}
    (hheld : ∀ site ∈ sites, store.Holds site.address)
    (halike : ∀ site ∈ sites, site.CopiesAlike store) :
    (duplicateSites sites store).store.shownAt (duplicateSites sites store).value =
      store.shownAt sites := by
  induction sites generalizing store with
  | nil => rfl
  | cons site sites ih =>
      have hgrows := site.grows_duplicate store
      have hheldTail : ∀ later ∈ sites, store.Holds later.address :=
        fun later hlater => hheld later (List.mem_cons_of_mem _ hlater)
      obtain ⟨hcopied, hdisplay⟩ := Site.displays_duplicate (hheld site List.mem_cons_self)
        (halike site List.mem_cons_self)
      -- The copy of the head is there when the others are made, which leave it as it is.
      have hkept := (grows_duplicateSites sites (site.duplicate store).store).read_eq _ hcopied
      have htail := @ih (site.duplicate store).store
        (fun later hlater => hgrows.holds (hheldTail later hlater))
        (fun later hlater => (halike later (List.mem_cons_of_mem _ hlater)).mono hgrows
          (hheldTail later hlater))
      rw [hgrows.shownAt_eq hheldTail] at htail
      simp only [duplicateSites, Store.shownAt, List.map_cons] at htail ⊢
      rw [hkept, hdisplay, htail]

/-! ## Clones and registers -/

/-- An atom that never changes does not copy itself, and a register does so by an equal one. -/
theorem Atom.eq_fresh_of_copySelf {atom : Atom} {replica : Replica}
    (htype : atom.type ∈ AtomType.stock ∨ atom.type = .register)
    (hcopy : atom.copySelf = .ok replica) : replica = .fresh atom := by
  rcases htype with hstock | hregister
  · rw [copySelf_of_mem_stock hstock] at hcopy
    cases hcopy
  · cases atom with
    | register value poisoned =>
        cases poisoned with
        | false =>
            cases hcopy
            rfl
        | true => cases hcopy
    | _ => cases hregister

/-- Every copy is a fresh clone, which displays what the atom does. -/
def Copier.ClonesAlike (copier : Copier) : Prop :=
  ∃ clone : Atom → Atom, copier.ClonesBy clone ∧
    ∀ atom, atom.type = copier.accepts → (clone atom).display = atom.display

theorem Copier.clonesAlike_cloning (type : AtomType) : (Copier.cloning type).ClonesAlike :=
  ⟨id, clonesBy_cloning type, fun _ _ => rfl⟩

theorem Copier.ClonesAlike.displays {copier : Copier} (halike : copier.ClonesAlike) {atom : Atom}
    {replica : Replica} (hconstruct : copier.construct atom = .ok replica) (store : Store) :
    replica.Displays store atom.display := by
  obtain ⟨clone, hclones, hdisplay⟩ := halike
  obtain ⟨htype, rfl⟩ := hclones.of_construct_eq_ok hconstruct
  exact hdisplay atom htype

theorem Site.copiesAlike_of_clonesAlike {site : Site} {store : Store}
    (htype : (store.read site.address).type ∈ AtomType.stock ∨
      (store.read site.address).type = .register)
    (hcopier : ∀ copier, site.tag.tag.copier? (store.read site.address).type = some copier →
      copier.ClonesAlike) : site.CopiesAlike store := by
  refine ⟨?_, ?_⟩
  · intro replica hown
    rw [Atom.eq_fresh_of_copySelf htype hown]
    rfl
  · intro error replica _ hmade
    obtain ⟨copier, hfound, hconstruct⟩ := Tag.exists_copier_of_construct_eq_ok hmade
    exact (hcopier copier hfound).displays hconstruct store

/-! ## Copies of chains -/

/-- A copy and its original are rendered alike into every sink, whatever text it has and whatever
room is left. A path leads to lists of the same length in both, or for the same reason nowhere. -/
structure LooksAlike (chain : Chain) (store : Store) (copy : Copied Chain) : Prop where
  render_eq : ∀ sink, copy.value.render copy.store sink = chain.render store sink
  /-- Nor can the original be told from what it was. -/
  render_original : ∀ sink, chain.render copy.store sink = chain.render store sink
  length_follow : ∀ path,
    (copy.value.follow path).map Chain.length = (chain.follow path).map Chain.length
  isEmpty_follow : ∀ path,
    (copy.value.follow path).map Chain.isEmpty = (chain.follow path).map Chain.isEmpty

variable {chain : Chain} {store : Store}

/-- What does not depend on the leaves is found at the end of a path in a copy as in the
original. -/
theorem map_follow_duplicate {measure : Chain → α}
    (hmeasure : ∀ cell, measure cell.outline = measure cell) (path : Path) :
    ((chain.duplicate store).value.follow path).map measure = (chain.follow path).map measure := by
  obtain ⟨before, _, hcopy⟩ := chain.follow_duplicate store path
  rw [hcopy]
  cases chain.follow path with
  | error error => rfl
  | ok cell =>
      apply congrArg Except.ok
      rw [← hmeasure, cell.outline_duplicate, hmeasure]

theorem looksAlike_duplicate (hheld : ∀ address ∈ chain.leaves, store.Holds address)
    (halike : ∀ site ∈ chain.sites, site.CopiesAlike store) :
    LooksAlike chain store (chain.duplicate store) := by
  have hshown : (chain.duplicate store).store.shownAt (chain.duplicate store).value.sites =
      store.shownAt chain.sites := by
    rw [chain.store_duplicate, chain.sites_duplicate]
    exact shownAt_duplicateSites (List.forall_mem_map.mp hheld) halike
  refine ⟨?_, ?_, map_follow_duplicate Chain.length_outline,
    map_follow_duplicate Chain.isEmpty_outline⟩
  · intro sink
    rw [Chain.render_eq_of_shownAt_eq (chain.outline_duplicate store) hshown]
  · intro sink
    rw [(chain.grows_duplicate store).render_eq hheld]

/-- If every way to copy a leaf that works gives a leaf that displays the same, a copy looks like
its original. So it does, on no further condition, where copiers make clones that display the same,
and the leaves are registers, poisoned or not, and atoms that never change. -/
theorem duplicate_looks_alike (hheld : ∀ address ∈ chain.leaves, store.Holds address) :
    ((∀ site ∈ chain.sites, site.CopiesAlike store) →
      LooksAlike chain store (chain.duplicate store)) ∧
    ((∀ site ∈ chain.sites, (store.read site.address).type ∈ AtomType.stock ∨
        (store.read site.address).type = .register) →
      (∀ site ∈ chain.sites, ∀ type copier, site.tag.tag.copier? type = some copier →
        copier.ClonesAlike) →
      (∀ site ∈ chain.sites, site.CopiesAlike store) ∧
        LooksAlike chain store (chain.duplicate store)) := by
  refine ⟨looksAlike_duplicate hheld, ?_⟩
  intro htype hclones
  have halike : ∀ site ∈ chain.sites, site.CopiesAlike store := by
    intro site hsite
    exact Site.copiesAlike_of_clonesAlike (htype site hsite) fun copier =>
      hclones site hsite _ copier
  exact ⟨halike, looksAlike_duplicate hheld halike⟩

/-- A symbol, a register, a poisoned one, and a text. -/
def brokenStore : Store :=
  ⟨#[.symbol "x", .register 1 false, .register 2 true, .text .owned "s"]⟩

/-- The symbol under a tag that clones symbols, and in a list the two registers and the text. -/
def brokenChain : Chain :=
  let cloned : SharedTag := ⟨7, .defined "symbol" none [.cloning .symbol]⟩
  .cons cloned (.leaf ⟨0⟩) <| .last Stock.list <| .nested <|
    .cons Stock.atom (.leaf ⟨1⟩) <| .cons Stock.atom (.leaf ⟨2⟩) <| .last Stock.string (.leaf ⟨3⟩)

/-- The copy has two new leaves, and breaks off at the same place. -/
theorem duplicate_looks_alike_brokenChain :
    (∀ address ∈ brokenChain.leaves, brokenStore.Holds address) ∧
    (∀ site ∈ brokenChain.sites, (brokenStore.read site.address).type ∈ AtomType.stock ∨
      (brokenStore.read site.address).type = .register) ∧
    (∀ site ∈ brokenChain.sites, ∀ type copier, site.tag.tag.copier? type = some copier →
      copier.ClonesAlike) ∧
    (∀ site ∈ brokenChain.sites, site.CopiesAlike brokenStore) ∧
    (brokenChain.duplicate brokenStore).value.leaves = [⟨4⟩, ⟨5⟩, ⟨2⟩, ⟨3⟩] ∧
    LooksAlike brokenChain brokenStore (brokenChain.duplicate brokenStore) := by
  have hheld : ∀ address ∈ brokenChain.leaves, brokenStore.Holds address := by
    unfold Store.Holds
    decide
  have htype : ∀ site ∈ brokenChain.sites, (brokenStore.read site.address).type ∈ AtomType.stock ∨
      (brokenStore.read site.address).type = .register := by
    intro site hsite
    simp only [brokenChain, Chain.sites, Payload.sitesUnder, List.cons_append, List.nil_append,
      List.mem_cons, List.not_mem_nil, or_false] at hsite
    rcases hsite with rfl | rfl | rfl | rfl
    all_goals decide
  have hclones : ∀ site ∈ brokenChain.sites, ∀ type copier,
      site.tag.tag.copier? type = some copier → copier.ClonesAlike := by
    intro site hsite type copier hfound
    simp only [brokenChain, Chain.sites, Payload.sitesUnder, List.cons_append, List.nil_append,
      List.mem_cons, List.not_mem_nil, or_false] at hsite
    rcases hsite with rfl | rfl | rfl | rfl
    · have hmem := List.mem_of_find?_eq_some hfound
      rw [List.mem_singleton.mp hmem]
      exact Copier.clonesAlike_cloning .symbol
    all_goals cases hfound
  obtain ⟨halike, hlooks⟩ := (duplicate_looks_alike hheld).2 htype hclones
  exact ⟨hheld, htype, hclones, halike, rfl, (duplicate_looks_alike hheld).1 halike⟩

end TaggedExpr
