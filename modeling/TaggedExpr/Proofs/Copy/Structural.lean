import TaggedExpr.Proofs.Cells.Clone
import TaggedExpr.Proofs.Cells.Run
import TaggedExpr.Proofs.Copy.Positions
import TaggedExpr.Proofs.Store
import TaggedExpr.Render.Basic
import TaggedExpr.Stock

/-! # Structural copies

A structural copy shares every leaf with its original and no cell. So a leaf that is written to
shows in both, and they are rendered alike from then on; but a cell that is edited in the one is not
seen by the other, which keeps its cells, and all that they hold, as they were.
-/

namespace TaggedExpr

/-- The copy has the cells of the chain anew, with the same tags, and its very leaves, each in its
place. Whatever has been written to leaves since, the two are rendered alike into every sink. -/
structure SharesLeaves (chain copy : Chain) : Prop where
  outline_eq : copy.outline = chain.outline
  sites_eq : copy.sites = chain.sites
  render_eq : ∀ (store : Store) (writes : List (Address × Atom)) (sink : Sink),
    copy.render (store.writeAll writes) sink = chain.render (store.writeAll writes) sink

theorem Chain.sharesLeaves_structuralCopy (chain : Chain) :
    SharesLeaves chain chain.structuralCopy := by
  refine ⟨chain.outline_structuralCopy, chain.sites_structuralCopy, ?_⟩
  intro store writes sink
  have heq : chain.structuralCopy = chain :=
    Chain.eq_of_outline_eq chain.outline_structuralCopy chain.sites_structuralCopy
  rw [heq]

/-- Two chains lie in memory at their slots, the second in the given region, and no edits of the
first, however many, have to do with the second: they can be made if the chain as such can be edited
so, they have the same effect on it as there, and the second keeps each of its cells. -/
structure Memory.EditsApart (memory : Memory) (edited : Chain) (root : Slot) (kept : Chain)
    (place : Slot) (region : Set Slot) : Prop where
  possible : ∀ edits result, edited.editAll edits = .ok result →
    ∃ after, memory.RunsTo root edits after
  result : ∀ edits after, memory.RunsTo root edits after →
    ∃ result cells, edited.editAll edits = .ok result ∧ result.LiesAt after root cells ∧
      Disjoint cells region ∧ kept.LiesAt after place region
  cell?_eq : ∀ edits after, memory.RunsTo root edits after → ∀ slot ∈ region,
    after.cell? slot = memory.cell? slot

theorem Memory.editsApart_of_disjoint {memory : Memory} {edited kept : Chain} {root place : Slot}
    {own region : Set Slot} (hedited : edited.LiesAt memory root own)
    (hkept : kept.LiesAt memory place region) (hdisjoint : Disjoint own region) :
    memory.EditsApart edited root kept place region := by
  have hsame : ∀ edits after, memory.RunsTo root edits after → ∀ slot ∈ region,
      after.cell? slot = memory.cell? slot := by
    intro edits after hruns slot hmem
    obtain ⟨_, _, hreplaces⟩ := hedited.replaces_of_runsTo hruns
    exact hreplaces.kept slot (Set.disjoint_right.mp hdisjoint hmem) (hkept.lt_size hmem)
  refine ⟨fun edits result => hedited.exists_runsTo, ?_, hsame⟩
  intro edits after hruns
  obtain ⟨result, hresult, hreplaces⟩ := hedited.replaces_of_runsTo hruns
  obtain ⟨cells, hlies, hcells⟩ := hreplaces.lies
  exact ⟨result, cells, hresult, hlies,
    disjoint_of_old_or_new hcells (fun _ => hkept.lt_size) hdisjoint,
    hkept.congr (hsame edits after hruns)⟩

/-- The cells of a chain have been copied in memory: where the copy begins, the cells that it has,
and the memory after that. -/
structure Memory.CopiedApart (memory : Memory) (chain : Chain) (slot : Slot) (region : Set Slot)
    (copy : Slot) (cells : Set Slot) (after : Memory) : Prop where
  /-- Copying the cells has this result and no other. -/
  clonesTo_iff : ∀ result, memory.ClonesTo slot result ↔ result = (copy, after)
  grows : memory.Grows after
  disjoint : Disjoint region cells
  /-- The chain is where it was. -/
  liesAt : chain.LiesAt after slot region
  /-- The copy lies in cells of its own. -/
  copy_liesAt : chain.structuralCopy.LiesAt after copy cells
  /-- Edits of the copy have nothing to do with the chain. -/
  copy_editsApart : after.EditsApart chain.structuralCopy copy chain slot region
  /-- Nor have edits of the chain with the copy. -/
  editsApart : after.EditsApart chain slot chain.structuralCopy copy cells

/-- The structural copy of a chain shares its leaves. Wherever the chain lies in memory, copying its
cells gives the one result, in which the two are apart. -/
theorem structuralCopy_in_step {chain : Chain} {memory : Memory} {slot : Slot} {region : Set Slot}
    (hlies : chain.LiesAt memory slot region) :
    SharesLeaves chain chain.structuralCopy ∧
    ∃ copy cells after, memory.CopiedApart chain slot region copy cells after := by
  obtain ⟨cells, hnew, hcopy⟩ := chain.structuralCopy.liesAt_layOut memory
  have hgrows := chain.structuralCopy.grows_layOut memory
  have hdisjoint : Disjoint region cells := hnew.disjoint fun _ => hlies.lt_size
  have hstill := hlies.grows hgrows
  exact ⟨chain.sharesLeaves_structuralCopy, _, cells, _, fun _ => hlies.clonesTo_iff, hgrows,
    hdisjoint, hstill, hcopy, Memory.editsApart_of_disjoint hcopy hstill hdisjoint.symm,
    Memory.editsApart_of_disjoint hstill hcopy hdisjoint⟩

/-- A list of an atom and a symbol. -/
def pairChain : Chain :=
  .last Stock.list (.nested (.cons Stock.atom (.leaf ⟨0⟩) (.last Stock.symbol (.leaf ⟨1⟩))))

/-- The cells of the list and of its items, the last one first. -/
def pairMemory : Memory :=
  ⟨[⟨Stock.symbol, .leaf ⟨1⟩, none⟩, ⟨Stock.atom, .leaf ⟨0⟩, some ⟨0⟩⟩,
    ⟨Stock.list, .nested ⟨1⟩, none⟩]⟩

def pairRegion : Set Slot := {⟨2⟩, ⟨1⟩, ⟨0⟩}

theorem structuralCopy_in_step_pairChain :
    pairChain.LiesAt pairMemory ⟨2⟩ pairRegion ∧
    SharesLeaves pairChain pairChain.structuralCopy ∧
    ∃ copy cells after, pairMemory.CopiedApart pairChain ⟨2⟩ pairRegion copy cells after := by
  have hlies : pairChain.LiesAt pairMemory ⟨2⟩ pairRegion := by
    refine ⟨.nested ⟨1⟩, {⟨1⟩, ⟨0⟩}, rfl, ⟨⟨1⟩, rfl, .leaf ⟨0⟩, ∅, ⟨0⟩, {⟨0⟩}, rfl, ⟨rfl, rfl⟩,
      ⟨.leaf ⟨1⟩, ∅, rfl, ⟨rfl, rfl⟩, ?_, ?_⟩, ?_, ?_, ?_, ?_⟩, ?_, ?_⟩
    all_goals simp [pairRegion]
  exact ⟨hlies, structuralCopy_in_step hlies⟩

end TaggedExpr
