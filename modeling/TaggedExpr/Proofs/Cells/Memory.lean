import Mathlib.Data.Set.BooleanAlgebra
import Mathlib.Order.CompletePartialOrder
import TaggedExpr.Chain

/-! # Cells in memory

A chain is a value, but what it stands for is made of cells that are linked to each other, and a
cell that is changed in place changes for all that are linked to it. Here cells are kept in slots
and linked by them. A chain lies in memory if its cells do, each in a slot that serves no other of
them. The slots in use are its region, and chains whose regions are disjoint have no cell in common.
-/

namespace TaggedExpr

/-- Where a cell is kept. -/
structure Slot where
  index : Nat
deriving DecidableEq, Repr

/-- What a cell in memory holds. A nested chain is known by its first cell. -/
inductive Content where
  | missing
  | leaf (address : Address)
  | nested (first : Slot)

/-- A cell and its link to the next one, if there is any. -/
structure Cell where
  tag : SharedTag
  content : Content
  next? : Option Slot

/-- The cells that were ever made, by slot. -/
structure Memory where
  cells : List Cell := []

namespace Memory

def size (memory : Memory) : Nat := memory.cells.length

def cell? (memory : Memory) (slot : Slot) : Option Cell := memory.cells[slot.index]?

/-- Makes a cell in a new slot. -/
def make (memory : Memory) (cell : Cell) : Slot × Memory :=
  (⟨memory.size⟩, ⟨memory.cells ++ [cell]⟩)

/-- Changes the cell in a slot. -/
def set (memory : Memory) (slot : Slot) (cell : Cell) : Memory :=
  ⟨memory.cells.set slot.index cell⟩

theorem lt_size_of_cell? {memory : Memory} {slot : Slot} {cell : Cell}
    (hcell : memory.cell? slot = some cell) : slot.index < memory.size :=
  (List.getElem?_eq_some_iff.mp hcell).1

/-- A slot holds one cell. -/
theorem cell?_inj {memory : Memory} {slot : Slot} {first second : SharedTag}
    {content other : Content} {next? after? : Option Slot}
    (hfirst : memory.cell? slot = some ⟨first, content, next?⟩)
    (hsecond : memory.cell? slot = some ⟨second, other, after?⟩) :
    first = second ∧ content = other ∧ next? = after? :=
  Cell.mk.inj (Option.some.inj (hfirst.symm.trans hsecond))

theorem cell?_make (memory : Memory) (cell : Cell) :
    (memory.make cell).2.cell? (memory.make cell).1 = some cell := by
  simp [make, cell?, size]

theorem cell?_set {memory : Memory} {slot : Slot} {old : Cell} (hold : memory.cell? slot = some old)
    (cell : Cell) : (memory.set slot cell).cell? slot = some cell := by
  simp only [cell?, set]
  rw [List.getElem?_set_self (lt_size_of_cell? hold)]

theorem cell?_set_of_ne (memory : Memory) {slot other : Slot} (hne : other ≠ slot) (cell : Cell) :
    (memory.set slot cell).cell? other = memory.cell? other := by
  have hindex : slot.index ≠ other.index := by
    intro heq
    apply hne
    cases other
    cases slot
    exact congrArg Slot.mk heq.symm
  exact List.getElem?_set_ne hindex

/-- The cells of one memory are still there in another, unchanged. -/
def Grows (before after : Memory) : Prop := before.cells <+: after.cells

namespace Grows

theorem refl (memory : Memory) : Grows memory memory := List.prefix_rfl

theorem trans {first second third : Memory} (hfirst : Grows first second)
    (hsecond : Grows second third) : Grows first third :=
  List.IsPrefix.trans hfirst hsecond

theorem make (memory : Memory) (cell : Cell) : Grows memory (memory.make cell).2 :=
  List.prefix_append memory.cells [cell]

theorem size_le {before after : Memory} (hgrows : Grows before after) :
    before.size ≤ after.size :=
  List.IsPrefix.length_le hgrows

theorem cell?_eq {before after : Memory} (hgrows : Grows before after) {slot : Slot}
    (hused : slot.index < before.size) : after.cell? slot = before.cell? slot := by
  obtain ⟨later, hlater⟩ := hgrows
  simp only [cell?, ← hlater]
  exact List.getElem?_append_left hused

end Grows

end Memory

/-! ## Chains in memory -/

mutual

/-- The chain lies in memory, its first cell in the slot and all its cells in the region. -/
def Chain.LiesAt (memory : Memory) : Chain → Slot → Set Slot → Prop
  | .last tag payload, slot, region => ∃ content inner,
    memory.cell? slot = some ⟨tag, content, none⟩ ∧ payload.HeldAs memory content inner ∧
      slot ∉ inner ∧ region = insert slot inner
  | .cons tag payload rest, slot, region => ∃ content inner next others,
    memory.cell? slot = some ⟨tag, content, some next⟩ ∧ payload.HeldAs memory content inner ∧
      rest.LiesAt memory next others ∧ slot ∉ inner ∧ slot ∉ others ∧ Disjoint inner others ∧
      region = insert slot (inner ∪ others)

/-- The content of a cell is the payload, and the cells nested in it are in the region. -/
def Payload.HeldAs (memory : Memory) : Payload → Content → Set Slot → Prop
  | .missing, content, region => content = .missing ∧ region = ∅
  | .leaf address, content, region => content = .leaf address ∧ region = ∅
  | .nested chain, content, region => ∃ first, content = .nested first ∧
    chain.LiesAt memory first region

end

mutual

/-- What happens outside its region does not matter to a chain. -/
theorem Chain.LiesAt.congr {chain : Chain} {before after : Memory} {slot : Slot}
    {region : Set Slot} (hlies : chain.LiesAt before slot region)
    (hsame : ∀ other ∈ region, after.cell? other = before.cell? other) :
    chain.LiesAt after slot region := by
  cases chain with
  | last tag payload =>
      obtain ⟨content, inner, hcell, hheld, hslot, rfl⟩ := hlies
      refine ⟨content, inner, ?_, ?_, hslot, rfl⟩
      · rw [hsame slot (Set.mem_insert slot inner), hcell]
      · exact Payload.HeldAs.congr hheld fun other hmem =>
          hsame other (Set.mem_insert_of_mem _ hmem)
  | cons tag payload rest =>
      obtain ⟨content, inner, next, others, hcell, hheld, hrest, hslot, hslot', hdisjoint, rfl⟩ :=
        hlies
      refine ⟨content, inner, next, others, ?_, ?_, ?_, hslot, hslot', hdisjoint, rfl⟩
      · rw [hsame slot (Set.mem_insert slot _), hcell]
      · exact Payload.HeldAs.congr hheld fun other hmem =>
          hsame other (Set.mem_insert_of_mem _ (Set.mem_union_left _ hmem))
      · exact Chain.LiesAt.congr hrest fun other hmem =>
          hsame other (Set.mem_insert_of_mem _ (Set.mem_union_right _ hmem))

theorem Payload.HeldAs.congr {payload : Payload} {before after : Memory} {content : Content}
    {region : Set Slot} (hheld : payload.HeldAs before content region)
    (hsame : ∀ other ∈ region, after.cell? other = before.cell? other) :
    payload.HeldAs after content region := by
  cases payload with
  | missing => exact hheld
  | leaf address => exact hheld
  | nested chain =>
      obtain ⟨first, hcontent, hlies⟩ := hheld
      exact ⟨first, hcontent, Chain.LiesAt.congr hlies hsame⟩

end

mutual

theorem Chain.LiesAt.lt_size {chain : Chain} {memory : Memory} {slot : Slot} {region : Set Slot}
    (hlies : chain.LiesAt memory slot region) {other : Slot} (hmem : other ∈ region) :
    other.index < memory.size := by
  cases chain with
  | last tag payload =>
      obtain ⟨content, inner, hcell, hheld, _, rfl⟩ := hlies
      rcases hmem with rfl | hinner
      · exact Memory.lt_size_of_cell? hcell
      · exact Payload.HeldAs.lt_size hheld hinner
  | cons tag payload rest =>
      obtain ⟨content, inner, next, others, hcell, hheld, hrest, _, _, _, rfl⟩ := hlies
      rcases hmem with rfl | hinner | hothers
      · exact Memory.lt_size_of_cell? hcell
      · exact Payload.HeldAs.lt_size hheld hinner
      · exact Chain.LiesAt.lt_size hrest hothers

theorem Payload.HeldAs.lt_size {payload : Payload} {memory : Memory} {content : Content}
    {region : Set Slot} (hheld : payload.HeldAs memory content region) {other : Slot}
    (hmem : other ∈ region) : other.index < memory.size := by
  cases payload with
  | missing =>
      obtain ⟨_, rfl⟩ := hheld
      exact absurd hmem (Set.notMem_empty other)
  | leaf address =>
      obtain ⟨_, rfl⟩ := hheld
      exact absurd hmem (Set.notMem_empty other)
  | nested chain =>
      obtain ⟨first, _, hlies⟩ := hheld
      exact Chain.LiesAt.lt_size hlies hmem

end

theorem Chain.LiesAt.grows {chain : Chain} {before after : Memory} {slot : Slot}
    {region : Set Slot} (hlies : chain.LiesAt before slot region) (hgrows : before.Grows after) :
    chain.LiesAt after slot region :=
  hlies.congr fun _ hmem => hgrows.cell?_eq (hlies.lt_size hmem)

theorem Payload.HeldAs.grows {payload : Payload} {before after : Memory} {content : Content}
    {region : Set Slot} (hheld : payload.HeldAs before content region)
    (hgrows : before.Grows after) : payload.HeldAs after content region :=
  hheld.congr fun _ hmem => hgrows.cell?_eq (hheld.lt_size hmem)

/-! ## Making the cells of a chain -/

mutual

/-- Makes the cells of a chain: first what is nested in them, in order, then the cells themselves,
from the last one back. -/
def Chain.layOut : Chain → Memory → Slot × Memory
  | .last tag payload, memory =>
    let held := payload.layOut memory
    held.2.make ⟨tag, held.1, none⟩
  | .cons tag payload rest, memory =>
    let held := payload.layOut memory
    let linked := rest.layOut held.2
    linked.2.make ⟨tag, held.1, some linked.1⟩

/-- Makes the cells nested in a payload. -/
def Payload.layOut : Payload → Memory → Content × Memory
  | .missing, memory => (.missing, memory)
  | .leaf address, memory => (.leaf address, memory)
  | .nested chain, memory =>
    let linked := chain.layOut memory
    (.nested linked.1, linked.2)

end

/-- The slot that the next cell is made in is not among those in use. -/
theorem Memory.make_notMem {memory : Memory} {region : Set Slot}
    (hused : ∀ slot ∈ region, slot.index < memory.size) (cell : Cell) :
    (memory.make cell).1 ∉ region :=
  fun hmem => Nat.lt_irrefl _ (hused _ hmem)

/-- All slots of the region are new to a memory. -/
def Memory.IsNew (memory : Memory) (region : Set Slot) : Prop :=
  ∀ slot ∈ region, memory.size ≤ slot.index

theorem Memory.IsNew.disjoint {memory : Memory} {old new : Set Slot} (hnew : memory.IsNew new)
    (hold : ∀ slot ∈ old, slot.index < memory.size) : Disjoint old new := by
  rw [Set.disjoint_left]
  intro slot hmem hmem'
  exact Nat.not_lt_of_le (hnew slot hmem') (hold slot hmem)

theorem Memory.IsNew.mono {before after : Memory} {region : Set Slot} (hnew : after.IsNew region)
    (hgrows : before.Grows after) : before.IsNew region :=
  fun slot hmem => Nat.le_trans hgrows.size_le (hnew slot hmem)

mutual

theorem Chain.grows_layOut (chain : Chain) (memory : Memory) :
    memory.Grows (chain.layOut memory).2 := by
  cases chain with
  | last tag payload => exact (payload.grows_layOut memory).trans (.make _ _)
  | cons tag payload rest =>
      exact (payload.grows_layOut memory).trans ((rest.grows_layOut _).trans (.make _ _))

theorem Payload.grows_layOut (payload : Payload) (memory : Memory) :
    memory.Grows (payload.layOut memory).2 := by
  cases payload with
  | missing => exact .refl memory
  | leaf address => exact .refl memory
  | nested chain => exact chain.grows_layOut memory

end

mutual

/-- A chain that is laid out lies in memory, in new slots only. -/
theorem Chain.liesAt_layOut (chain : Chain) (memory : Memory) :
    ∃ region, memory.IsNew region ∧
      chain.LiesAt (chain.layOut memory).2 (chain.layOut memory).1 region := by
  cases chain with
  | last tag payload =>
      obtain ⟨inner, hnew, hheld⟩ := payload.heldAs_layOut memory
      have hmade := Memory.Grows.make (payload.layOut memory).2
        ⟨tag, (payload.layOut memory).1, none⟩
      refine ⟨_, ?_, _, inner, Memory.cell?_make _ _, hheld.grows hmade,
        Memory.make_notMem (fun _ => hheld.lt_size) _, rfl⟩
      rintro slot (rfl | hinner)
      · exact (payload.grows_layOut memory).size_le
      · exact hnew slot hinner
  | cons tag payload rest =>
      obtain ⟨inner, hnew, hheld⟩ := payload.heldAs_layOut memory
      obtain ⟨others, hnewer, hrest⟩ := rest.liesAt_layOut (payload.layOut memory).2
      have hgrows := rest.grows_layOut (payload.layOut memory).2
      have hmade := Memory.Grows.make (rest.layOut (payload.layOut memory).2).2
        ⟨tag, (payload.layOut memory).1, some (rest.layOut (payload.layOut memory).2).1⟩
      -- What is nested in the payload is older than the rest, and both than the cell itself.
      have hlater := hheld.grows hgrows
      refine ⟨_, ?_, _, inner, _, others, Memory.cell?_make _ _, hheld.grows (hgrows.trans hmade),
        hrest.grows hmade, Memory.make_notMem (fun _ => hlater.lt_size) _,
        Memory.make_notMem (fun _ => hrest.lt_size) _,
        hnewer.disjoint fun _ => hheld.lt_size, rfl⟩
      rintro slot (rfl | hinner | hothers)
      · exact ((payload.grows_layOut memory).trans hgrows).size_le
      · exact hnew slot hinner
      · exact hnewer.mono (payload.grows_layOut memory) slot hothers

/-- A payload that is laid out is held in memory, what is nested in it in new slots only. -/
theorem Payload.heldAs_layOut (payload : Payload) (memory : Memory) :
    ∃ region, memory.IsNew region ∧
      payload.HeldAs (payload.layOut memory).2 (payload.layOut memory).1 region := by
  cases payload with
  | missing => exact ⟨∅, nofun, rfl, rfl⟩
  | leaf address => exact ⟨∅, nofun, rfl, rfl⟩
  | nested chain =>
      obtain ⟨region, hnew, hlies⟩ := chain.liesAt_layOut memory
      exact ⟨region, hnew, _, rfl, hlies⟩

end

end TaggedExpr
