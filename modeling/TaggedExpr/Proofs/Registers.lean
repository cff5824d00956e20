import TaggedExpr.Proofs.Copy.Isolation
import TaggedExpr.Proofs.Render.Display

/-! # Setting registers in copies

Setting the registers in a chain is setting those among its leaves, one after the other. In a copy
the only old leaves are those that nothing could copy, and a register that does not even copy itself
is poisoned, so that setting it has no effect. A structural copy has the very leaves of its
original.
-/

namespace TaggedExpr

/-- Only a register that can copy itself can be set. -/
theorem Atom.setRegister_of_copySelf_error {atom : Atom} {error : CopyError}
    (hcopy : atom.copySelf = .error error) (value : Int64) : atom.setRegister value = atom := by
  cases atom with
  | register held poisoned =>
      cases poisoned with
      | false => cases hcopy
      | true => rfl
  | _ => rfl

namespace Store

/-- Sets the registers at some addresses, the first one first. -/
def setRegistersAt (value : Int64) (addresses : List Address) (store : Store) : Store :=
  addresses.foldl (fun store address => store.modify address (Atom.setRegister value)) store

@[simp]
theorem setRegistersAt_cons (value : Int64) (address : Address) (addresses : List Address)
    (store : Store) : store.setRegistersAt value (address :: addresses) =
      (store.modify address (Atom.setRegister value)).setRegistersAt value addresses := rfl

theorem setRegistersAt_append (value : Int64) (first second : List Address) (store : Store) :
    store.setRegistersAt value (first ++ second) =
      (store.setRegistersAt value first).setRegistersAt value second :=
  List.foldl_append

@[simp]
theorem size_modify (store : Store) (address : Address) (change : Atom → Atom) :
    (store.modify address change).size = store.size := by
  simp [modify]

@[simp]
theorem size_setRegistersAt (value : Int64) (addresses : List Address) (store : Store) :
    (store.setRegistersAt value addresses).size = store.size := by
  induction addresses generalizing store with
  | nil => rfl
  | cons address addresses ih => simp [ih]

/-- A change that is none at a leaf, or is made elsewhere, leaves it as it is. -/
theorem read_modify_of_imp {store : Store} {address other : Address} {change : Atom → Atom}
    (hkept : address = other → change (store.read other) = store.read other) :
    (store.modify address change).read other = store.read other := by
  rw [modify, read_write]
  split
  next hwritten =>
    obtain ⟨rfl, _⟩ := hwritten
    exact hkept rfl
  next => rfl

/-- Setting registers changes no leaf but registers that can be set, at the given addresses. -/
theorem read_setRegistersAt {value : Int64} {addresses : List Address} {store : Store}
    {address : Address}
    (hkept : address ∈ addresses → (store.read address).setRegister value = store.read address) :
    (store.setRegistersAt value addresses).read address = store.read address := by
  induction addresses generalizing store with
  | nil => rfl
  | cons first addresses ih =>
      have hfirst : (store.modify first (Atom.setRegister value)).read address =
          store.read address :=
        read_modify_of_imp fun heq => hkept (heq ▸ List.mem_cons_self)
      rw [setRegistersAt_cons, ih, hfirst]
      intro hmem
      rw [hfirst]
      exact hkept (List.mem_cons_of_mem _ hmem)

end Store

mutual

theorem Chain.setRegisters_eq (chain : Chain) (value : Int64) (store : Store) :
    chain.setRegisters value store = store.setRegistersAt value chain.leaves := by
  cases chain with
  | last tag payload => exact payload.setRegisters_eq tag value store
  | cons tag payload rest =>
      rw [Chain.setRegisters, payload.setRegisters_eq tag value store,
        rest.setRegisters_eq value, ← Store.setRegistersAt_append]
      simp only [Chain.leaves, Chain.sites, List.map_append]

theorem Payload.setRegisters_eq (payload : Payload) (tag : SharedTag) (value : Int64)
    (store : Store) : payload.setRegisters value store =
      store.setRegistersAt value ((payload.sitesUnder tag).map (·.address)) := by
  cases payload with
  | missing => rfl
  | leaf address => rfl
  | nested chain => exact chain.setRegisters_eq value store

end

/-! ## Through copies -/

variable {chain : Chain} {store : Store}

/-- A leaf of a copy that was there before the copy was made is one that nothing could copy. -/
theorem copySelf_error_of_mem_leaves_duplicate (hcopyable : Copyable chain.sites store)
    {address : Address} (hheld : store.Holds address)
    (hmem : address ∈ (chain.duplicate store).value.leaves) :
    ∃ error, (store.read address).copySelf = .error error := by
  obtain ⟨copied, hcopied, rfl⟩ := List.mem_map.mp hmem
  obtain ⟨index, hindex⟩ := List.mem_iff_getElem?.mp hcopied
  have hlength : index < chain.sites.length := by
    have hbound := (List.getElem?_eq_some_iff.mp hindex).1
    rwa [chain.sites_duplicate, length_duplicateSites] at hbound
  have hplace := duplicate_copiedTo hcopyable (List.getElem?_eq_getElem hlength) hindex
  have hresists := resists_of_holds hplace hheld
  rw [hplace.shared hresists]
  exact hresists.own

/-- Setting the registers of a copy leaves every old leaf as it was. -/
theorem grows_setRegisters_duplicate (hcopyable : Copyable chain.sites store) (value : Int64) :
    store.Grows
      ((chain.duplicate store).value.setRegisters value (chain.duplicate store).store) := by
  have hgrows := chain.grows_duplicate store
  rw [Chain.setRegisters_eq]
  refine ⟨?_, ?_⟩
  · rw [Store.size_setRegistersAt]
    exact hgrows.size_le
  · intro address hheld
    have hread := hgrows.read_eq address hheld
    rw [Store.read_setRegistersAt, hread]
    intro hmem
    obtain ⟨error, hcopy⟩ := copySelf_error_of_mem_leaves_duplicate hcopyable hheld hmem
    rw [hread]
    exact Atom.setRegister_of_copySelf_error hcopy value

/-- What is left of writing through copies of a chain, where the registers of its deep copy, made
in one store, were set in another. -/
structure SetThroughCopies (chain : Chain) (value : Int64) (store written : Store) : Prop where
  /-- No leaf that was there before the copy was made tells. -/
  read_eq : ∀ address, store.Holds address → written.read address = store.read address
  /-- Nor does the text of any chain of such leaves. -/
  render_eq : ∀ older : Chain, (∀ address ∈ older.leaves, store.Holds address) →
    older.render written = older.render store
  /-- Setting the registers of a structural copy, at any time, is setting those of the original. -/
  setRegisters_structuralCopy : ∀ now : Store,
    chain.structuralCopy.setRegisters value now = chain.setRegisters value now

/-- Where copiers clone, however they do it, and atoms that copy themselves make new leaves, setting
the registers of a copy does not show in anything that was there before. -/
theorem setRegisters_through_copies (hheld : ∀ address ∈ chain.leaves, store.Holds address)
    (hown : ∀ site ∈ chain.sites, ∀ replica,
      (store.read site.address).copySelf = .ok replica → replica.IsFresh)
    (hcloning : ∀ site ∈ chain.sites, ∀ type copier, site.tag.tag.copier? type = some copier →
      ∃ clone, copier.ClonesBy clone) (value : Int64) :
    SetThroughCopies chain value store
      ((chain.duplicate store).value.setRegisters value (chain.duplicate store).store) := by
  have hafresh : ∀ site ∈ chain.sites, site.CopiesAfresh store := fun site hsite =>
    Site.copiesAfresh_of_clonesBy (hown site hsite) fun copier => hcloning site hsite _ copier
  have hgrows := grows_setRegisters_duplicate (copyable_sites hheld hafresh) value
  refine ⟨hgrows.read_eq, fun older => hgrows.render_eq, ?_⟩
  intro now
  rw [Chain.setRegisters_eq, Chain.setRegisters_eq, chain.leaves_structuralCopy]

/-- A register twice, under the tag of quoted strings and under a custom tag, whose clones of
counters start again, a counter under the same tag, and a poisoned register nested in a list. -/
def registerChain : Chain :=
  let custom : SharedTag := ⟨8, .custom "cell" (some "<") none (some true) fun _ =>
    some ⟨.counter, fun _ => .ok (.fresh (.counter 0))⟩⟩
  .cons Stock.string (.leaf ⟨0⟩) <| .cons custom (.leaf ⟨0⟩) <| .cons custom (.leaf ⟨2⟩) <|
    .last Stock.list <| .nested <| .last Stock.atom (.leaf ⟨1⟩)

def registerStore : Store := ⟨#[.register 1 false, .register 2 true, .counter 5]⟩

/-- The copy shares the poisoned register, which keeps its value; the two copies of the other are
set. The clone of the counter differs from it. -/
theorem setRegisters_through_copies_registerChain :
    (∀ address ∈ registerChain.leaves, registerStore.Holds address) ∧
    (∀ site ∈ registerChain.sites, ∀ replica,
      (registerStore.read site.address).copySelf = .ok replica → replica.IsFresh) ∧
    (∀ site ∈ registerChain.sites, ∀ type copier, site.tag.tag.copier? type = some copier →
      ∃ clone, copier.ClonesBy clone) ∧
    (registerChain.duplicate registerStore).value.leaves = [⟨3⟩, ⟨4⟩, ⟨5⟩, ⟨1⟩] ∧
    (registerChain.duplicate registerStore).value.setRegisters 9
      (registerChain.duplicate registerStore).store =
      ⟨#[.register 1 false, .register 2 true, .counter 5, .register 9 false, .register 9 false,
        .counter 0]⟩ ∧
    SetThroughCopies registerChain 9 registerStore
      ((registerChain.duplicate registerStore).value.setRegisters 9
        (registerChain.duplicate registerStore).store) := by
  have hheld : ∀ address ∈ registerChain.leaves, registerStore.Holds address := by
    unfold Store.Holds
    decide
  have hsites : ∀ site ∈ registerChain.sites,
      (∀ replica, (registerStore.read site.address).copySelf = .ok replica → replica.IsFresh) ∧
      ∀ type copier, site.tag.tag.copier? type = some copier → ∃ clone, copier.ClonesBy clone := by
    intro site hsite
    simp only [registerChain, Chain.sites, Payload.sitesUnder, List.cons_append, List.nil_append,
      List.mem_cons, List.not_mem_nil, or_false] at hsite
    rcases hsite with rfl | rfl | rfl | rfl
    all_goals refine ⟨fun _ => Atom.isFresh_of_copySelf nofun, ?_⟩
    all_goals rintro type copier ⟨⟩
    all_goals exact ⟨_, rfl⟩
  have hown := fun site hsite => (hsites site hsite).1
  have hcloning := fun site hsite => (hsites site hsite).2
  exact ⟨hheld, hown, hcloning, rfl, rfl, setRegisters_through_copies hheld hown hcloning 9⟩

end TaggedExpr
