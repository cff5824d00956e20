import TaggedExpr.Copy.Duplicate
import TaggedExpr.Proofs.Cells.Memory

/-! # Copying cells in memory

A structural copy is made from the cells that lie in memory: along the chain the contents are
copied, in order, nested cells with them, then the cells are made, from the last one back. Wherever
a chain lies, this ends, in one way only, and amounts to making the cells of its structural copy
anew.
-/

namespace TaggedExpr

namespace Memory

mutual

/-- Copying the cells from a slot on gives the slot of the copy, and the memory with it. -/
inductive ClonesTo : Memory → Slot → Slot × Memory → Prop where
  | last {memory : Memory} {slot : Slot} {tag : SharedTag} {content : Content}
      {held : Content × Memory} (hcell : memory.cell? slot = some ⟨tag, content, none⟩)
      (hheld : ContentClonesTo memory content held) :
      ClonesTo memory slot (held.2.make ⟨tag, held.1, none⟩)
  | cons {memory : Memory} {slot next : Slot} {tag : SharedTag} {content : Content}
      {held : Content × Memory} {linked : Slot × Memory}
      (hcell : memory.cell? slot = some ⟨tag, content, some next⟩)
      (hheld : ContentClonesTo memory content held) (hlinked : ClonesTo held.2 next linked) :
      ClonesTo memory slot (linked.2.make ⟨tag, held.1, some linked.1⟩)

/-- Copying a content shares a leaf and copies the cells of a nested chain. -/
inductive ContentClonesTo : Memory → Content → Content × Memory → Prop where
  | missing {memory : Memory} : ContentClonesTo memory .missing (.missing, memory)
  | leaf {memory : Memory} {address : Address} :
      ContentClonesTo memory (.leaf address) (.leaf address, memory)
  | nested {memory : Memory} {first : Slot} {linked : Slot × Memory}
      (hlinked : ClonesTo memory first linked) :
      ContentClonesTo memory (.nested first) (.nested linked.1, linked.2)

end

end Memory

mutual

theorem Chain.LiesAt.clonesTo {chain : Chain} {memory : Memory} {slot : Slot} {region : Set Slot}
    (hlies : chain.LiesAt memory slot region) :
    memory.ClonesTo slot (chain.structuralCopy.layOut memory) := by
  cases chain with
  | last tag payload =>
      obtain ⟨content, inner, hcell, hheld, _⟩ := hlies
      exact .last hcell (Payload.HeldAs.clonesTo hheld)
  | cons tag payload rest =>
      obtain ⟨content, inner, next, others, hcell, hheld, hrest, _⟩ := hlies
      have hgrows := payload.structuralCopy.grows_layOut memory
      exact .cons hcell (Payload.HeldAs.clonesTo hheld) (Chain.LiesAt.clonesTo (hrest.grows hgrows))

theorem Payload.HeldAs.clonesTo {payload : Payload} {memory : Memory} {content : Content}
    {region : Set Slot} (hheld : payload.HeldAs memory content region) :
    memory.ContentClonesTo content (payload.structuralCopy.layOut memory) := by
  cases payload with
  | missing =>
      obtain ⟨rfl, _⟩ := hheld
      exact .missing
  | leaf address =>
      obtain ⟨rfl, _⟩ := hheld
      exact .leaf
  | nested chain =>
      obtain ⟨first, rfl, hlies⟩ := hheld
      exact .nested (Chain.LiesAt.clonesTo hlies)

end

mutual

theorem Chain.LiesAt.eq_of_clonesTo {chain : Chain} {memory : Memory} {slot : Slot}
    {region : Set Slot} (hlies : chain.LiesAt memory slot region) {result : Slot × Memory}
    (hclones : memory.ClonesTo slot result) : result = chain.structuralCopy.layOut memory := by
  cases chain with
  | last tag payload =>
      obtain ⟨content, inner, hcell, hheld, _⟩ := hlies
      cases hclones with
      | last hcell' hheld' =>
          obtain ⟨rfl, rfl, _⟩ := Memory.cell?_inj hcell' hcell
          rw [Payload.HeldAs.eq_of_clonesTo hheld hheld']
          rfl
      | cons hcell' hheld' hlinked' =>
          obtain ⟨_, _, hnext⟩ := Memory.cell?_inj hcell' hcell
          cases hnext
  | cons tag payload rest =>
      obtain ⟨content, inner, next, others, hcell, hheld, hrest, _⟩ := hlies
      cases hclones with
      | last hcell' hheld' =>
          obtain ⟨_, _, hnext⟩ := Memory.cell?_inj hcell' hcell
          cases hnext
      | cons hcell' hheld' hlinked' =>
          obtain ⟨rfl, rfl, hnext⟩ := Memory.cell?_inj hcell' hcell
          cases hnext
          have hgrows := payload.structuralCopy.grows_layOut memory
          cases Payload.HeldAs.eq_of_clonesTo hheld hheld'
          rw [Chain.LiesAt.eq_of_clonesTo (hrest.grows hgrows) hlinked']
          rfl

theorem Payload.HeldAs.eq_of_clonesTo {payload : Payload} {memory : Memory} {content : Content}
    {region : Set Slot} (hheld : payload.HeldAs memory content region) {result : Content × Memory}
    (hclones : memory.ContentClonesTo content result) :
    result = payload.structuralCopy.layOut memory := by
  cases payload with
  | missing =>
      obtain ⟨rfl, _⟩ := hheld
      cases hclones
      rfl
  | leaf address =>
      obtain ⟨rfl, _⟩ := hheld
      cases hclones
      rfl
  | nested chain =>
      obtain ⟨first, rfl, hlies⟩ := hheld
      cases hclones with
      | nested hlinked =>
          rw [Chain.LiesAt.eq_of_clonesTo hlies hlinked]
          rfl

end

theorem Chain.LiesAt.clonesTo_iff {chain : Chain} {memory : Memory} {slot : Slot}
    {region : Set Slot} (hlies : chain.LiesAt memory slot region) {result : Slot × Memory} :
    memory.ClonesTo slot result ↔ result = chain.structuralCopy.layOut memory := by
  constructor
  · exact hlies.eq_of_clonesTo
  · rintro rfl
    exact hlies.clonesTo

end TaggedExpr
