import TaggedExpr.Proofs.Copy.Positions
import TaggedExpr.Proofs.Registers

/-! # The registers that are set

Setting the registers of a chain gives the value to every register that works and is held by some
cell of the chain, at whatever depth and however often, and to nothing else. So only the last of
several settings of one chain counts, and settings to one value can be made in any order.
-/

namespace TaggedExpr

/-! ## Leaves by paths -/

namespace Chain

/-- Some cell of the chain, at whatever depth, holds the leaf. -/
def Reaches (chain : Chain) (address : Address) : Prop :=
  ∃ path cell, chain.follow path = .ok cell ∧ cell.payload = .leaf address

variable {chain inner : Chain} {address : Address}

theorem reaches_of_payload_eq_leaf (hleaf : chain.payload = .leaf address) :
    chain.Reaches address :=
  ⟨[], chain, rfl, hleaf⟩

theorem Reaches.of_payload_eq_nested (hnested : chain.payload = .nested inner)
    (hreaches : inner.Reaches address) : chain.Reaches address := by
  obtain ⟨path, cell, hcell, hleaf⟩ := hreaches
  refine ⟨.into :: path, cell, ?_, hleaf⟩
  simpa only [follow, step, hnested] using hcell

theorem Reaches.of_rest {tag : SharedTag} {payload : Payload} (hreaches : chain.Reaches address) :
    (Chain.cons tag payload chain).Reaches address := by
  obtain ⟨path, cell, hcell, hleaf⟩ := hreaches
  exact ⟨.along 1 :: path, cell, hcell, hleaf⟩

/-- A path to a cell with a leaf leads to a site. -/
theorem Reaches.mem_leaves (hreaches : chain.Reaches address) : address ∈ chain.leaves := by
  obtain ⟨path, cell, hcell, hleaf⟩ := hreaches
  obtain ⟨before, hsites, _⟩ := chain.follow_duplicate .empty path
  obtain ⟨after, hchain⟩ := hsites cell hcell
  obtain ⟨others, hheld⟩ := cell.exists_sites_eq_append
  rw [leaves, hchain, hheld, hleaf]
  simp [Payload.sitesUnder]

end Chain

mutual

theorem Chain.reaches_of_mem_sites {chain : Chain} {site : Site} (hsite : site ∈ chain.sites) :
    chain.Reaches site.address := by
  cases chain with
  | last tag payload => exact Payload.reaches_of_mem_sitesUnder rfl hsite
  | cons tag payload rest =>
      rcases List.mem_append.mp hsite with hheld | hlater
      · exact Payload.reaches_of_mem_sitesUnder rfl hheld
      · exact (Chain.reaches_of_mem_sites hlater).of_rest

theorem Payload.reaches_of_mem_sitesUnder {chain : Chain} {payload : Payload} {tag : SharedTag}
    {site : Site} (hpayload : chain.payload = payload) (hsite : site ∈ payload.sitesUnder tag) :
    chain.Reaches site.address := by
  cases payload with
  | missing => cases hsite
  | leaf address =>
      obtain rfl := List.mem_singleton.mp hsite
      exact Chain.reaches_of_payload_eq_leaf hpayload
  | nested inner => exact (Chain.reaches_of_mem_sites hsite).of_payload_eq_nested hpayload

end

theorem Chain.mem_leaves_iff_reaches {chain : Chain} {address : Address} :
    address ∈ chain.leaves ↔ chain.Reaches address := by
  constructor
  · intro hmem
    obtain ⟨site, hsite, rfl⟩ := List.mem_map.mp hmem
    exact Chain.reaches_of_mem_sites hsite
  · exact Chain.Reaches.mem_leaves

/-! ## Contents after setting -/

theorem Atom.setRegister_setRegister (atom : Atom) (value later : Int64) :
    (atom.setRegister value).setRegister later = atom.setRegister later := by
  cases atom with
  | register held poisoned => cases poisoned <;> rfl
  | _ => rfl

/-- Only a register that works is changed. -/
theorem Atom.setRegister_of_ne {atom : Atom} (hne : ∀ held, atom ≠ .register held false)
    (value : Int64) : atom.setRegister value = atom := by
  cases atom with
  | register held poisoned =>
      cases poisoned with
      | false => exact absurd rfl (hne held)
      | true => rfl
  | _ => rfl

namespace Store

/-- What is at each address is all that there is to a store. -/
theorem eq_of_read_eq {first second : Store} (hsize : first.size = second.size)
    (hread : ∀ address, first.read address = second.read address) : first = second := by
  obtain ⟨atoms⟩ := first
  obtain ⟨atoms'⟩ := second
  congr 1
  apply Array.ext hsize
  intro index hfirst hsecond
  have hindex := hread ⟨index⟩
  simpa [read, hfirst, hsecond] using hindex

theorem read_modify_setRegister (store : Store) (first address : Address) (value : Int64) :
    (store.modify first (Atom.setRegister value)).read address =
      if address = first then (store.read address).setRegister value else store.read address := by
  by_cases hsame : address = first
  · subst hsame
    rw [if_pos rfl, modify, read_write]
    split
    next => rfl
    next hheld =>
      -- There is nothing at the address, which reads as no register.
      have hbeyond : store.read address = default := by
        have hindex : ¬ address.index < store.atoms.size := fun hlt => hheld ⟨rfl, hlt⟩
        simp [read, hindex]
      rw [hbeyond]
      rfl
  · rw [if_neg hsame, modify, store.read_write_of_ne (Ne.symm hsame)]

/-- Setting registers is done once, however often an address is given. -/
theorem read_setRegistersAt_eq (value : Int64) (addresses : List Address) (store : Store)
    (address : Address) : (store.setRegistersAt value addresses).read address =
      if address ∈ addresses then (store.read address).setRegister value
      else store.read address := by
  induction addresses generalizing store with
  | nil => rfl
  | cons first addresses ih =>
      rw [setRegistersAt_cons, ih, read_modify_setRegister]
      by_cases hfirst : address = first
      · simp [hfirst, Atom.setRegister_setRegister]
      · simp [hfirst]

end Store

namespace Chain

theorem read_setRegisters (chain : Chain) (value : Int64) (store : Store) (address : Address) :
    (chain.setRegisters value store).read address =
      if address ∈ chain.leaves then (store.read address).setRegister value
      else store.read address := by
  rw [chain.setRegisters_eq, Store.read_setRegistersAt_eq]

theorem size_setRegisters (chain : Chain) (value : Int64) (store : Store) :
    (chain.setRegisters value store).size = store.size := by
  rw [chain.setRegisters_eq, Store.size_setRegistersAt]

theorem setRegisters_setRegisters (chain : Chain) (value later : Int64) (store : Store) :
    chain.setRegisters later (chain.setRegisters value store) = chain.setRegisters later store := by
  apply Store.eq_of_read_eq
  · simp only [size_setRegisters]
  · intro address
    simp only [read_setRegisters]
    split
    next => exact Atom.setRegister_setRegister ..
    next => rfl

theorem setRegisters_comm (first second : Chain) (value : Int64) (store : Store) :
    first.setRegisters value (second.setRegisters value store) =
      second.setRegisters value (first.setRegisters value store) := by
  apply Store.eq_of_read_eq
  · simp only [size_setRegisters]
  · intro address
    simp only [read_setRegisters]
    -- What both chains hold is set to the value twice, in either order.
    by_cases hfirst : address ∈ first.leaves
    · by_cases hsecond : address ∈ second.leaves
      · rw [if_pos hfirst, if_pos hsecond, if_pos hsecond, if_pos hfirst]
      · rw [if_pos hfirst, if_neg hsecond, if_neg hsecond, if_pos hfirst]
    · rw [if_neg hfirst, if_neg hfirst]

end Chain

/-- After the registers of a chain were set, those that the chain reaches and that work hold the
value, and no other leaf has changed. -/
structure RegistersSet (chain : Chain) (value : Int64) (before after : Store) : Prop where
  size_eq : after.size = before.size
  read_reached : ∀ address held, chain.Reaches address →
    before.read address = .register held false → after.read address = .register value false
  read_other : ∀ address,
    ¬ (chain.Reaches address ∧ ∃ held, before.read address = .register held false) →
      after.read address = before.read address

theorem Chain.registersSet (chain : Chain) (value : Int64) (store : Store) :
    RegistersSet chain value store (chain.setRegisters value store) := by
  refine ⟨chain.size_setRegisters value store, ?_, ?_⟩
  · intro address held hreaches hregister
    rw [chain.read_setRegisters, if_pos (mem_leaves_iff_reaches.mpr hreaches), hregister]
    rfl
  · intro address hother
    rw [chain.read_setRegisters]
    split
    next hmem =>
      apply Atom.setRegister_of_ne
      intro held hregister
      exact hother ⟨mem_leaves_iff_reaches.mp hmem, held, hregister⟩
    next => rfl

/-- Setting the registers of a chain sets just those that it reaches and that work. Of settings of
one chain the last one counts, be it the same again, and settings of two chains to one value can be
made in any order. -/
theorem setRegisters_sets_reached :
    (∀ (chain : Chain) (value : Int64) (store : Store),
      RegistersSet chain value store (chain.setRegisters value store)) ∧
    (∀ (chain : Chain) (value later : Int64) (store : Store),
      chain.setRegisters later (chain.setRegisters value store) =
        chain.setRegisters later store) ∧
    ∀ (first second : Chain) (value : Int64) (store : Store),
      first.setRegisters value (second.setRegisters value store) =
        second.setRegisters value (first.setRegisters value store) :=
  ⟨Chain.registersSet, Chain.setRegisters_setRegisters, Chain.setRegisters_comm⟩

end TaggedExpr
