import TaggedExpr.Proofs.Cells.Memory

/-! # Editing a cell in memory

An edit changes one cell in place: the cell it is made at gets another payload, or the last cell
after it a link. Where a chain lies in memory this comes to the same as editing the chain, and no
cell outside the region of the chain is changed. Whatever replaces a part of a chain where it lies
replaces the chain accordingly.
-/

namespace TaggedExpr

/-- A change at a cell of a chain. -/
inductive CellEdit where
  | setPayload (payload : Payload)
  | overwritePayload (payload : Payload)
  | push (tag : SharedTag) (payload : Payload)
  | append (tail : Chain)

def CellEdit.apply : CellEdit → Chain → Chain
  | .setPayload payload, chain => chain.setPayload payload
  | .overwritePayload payload, chain => chain.overwritePayload payload
  | .push tag payload, chain => chain.push tag payload
  | .append tail, chain => chain.append tail

namespace Memory

@[simp]
theorem size_set (memory : Memory) (slot : Slot) (cell : Cell) :
    (memory.set slot cell).size = memory.size :=
  List.length_set

/-- The last cell of the chain that goes on from a slot. -/
inductive EndsAt (memory : Memory) : Slot → Slot → Prop where
  | here {slot : Slot} {tag : SharedTag} {content : Content}
      (hcell : memory.cell? slot = some ⟨tag, content, none⟩) : EndsAt memory slot slot
  | along {slot next last : Slot} {tag : SharedTag} {content : Content}
      (hcell : memory.cell? slot = some ⟨tag, content, some next⟩)
      (hends : EndsAt memory next last) : EndsAt memory slot last

/-- The memory after a payload was put into a cell. -/
def putPayload (memory : Memory) (slot : Slot) (payload : Payload) (tag : SharedTag)
    (next? : Option Slot) : Memory :=
  (payload.layOut memory).2.set slot ⟨tag, (payload.layOut memory).1, next?⟩

/-- The memory after a tail was linked to a cell. -/
def putTail (memory : Memory) (slot : Slot) (tail : Chain) (tag : SharedTag) (content : Content) :
    Memory :=
  (tail.layOut memory).2.set slot ⟨tag, content, some (tail.layOut memory).1⟩

/-- Editing at the cell in a slot. -/
inductive EditsTo (memory : Memory) (slot : Slot) : CellEdit → Memory → Prop where
  | setPayload {payload : Payload} {tag : SharedTag} {content : Content} {next? : Option Slot}
      (hcell : memory.cell? slot = some ⟨tag, content, next?⟩) :
      EditsTo memory slot (.setPayload payload) (memory.putPayload slot payload tag next?)
  | overwriteMissing {payload : Payload} {tag : SharedTag} {next? : Option Slot}
      (hcell : memory.cell? slot = some ⟨tag, .missing, next?⟩) :
      EditsTo memory slot (.overwritePayload payload) memory
  | overwrite {payload : Payload} {tag : SharedTag} {content : Content} {next? : Option Slot}
      (hcell : memory.cell? slot = some ⟨tag, content, next?⟩) (hcontent : content ≠ .missing) :
      EditsTo memory slot (.overwritePayload payload) (memory.putPayload slot payload tag next?)
  | append {tail : Chain} {last : Slot} {tag : SharedTag} {content : Content}
      (hends : memory.EndsAt slot last) (hcell : memory.cell? last = some ⟨tag, content, none⟩) :
      EditsTo memory slot (.append tail) (memory.putTail last tail tag content)
  | push {tag : SharedTag} {payload : Payload} {later : Memory}
      (happends : EditsTo memory slot (.append (.last tag payload)) later) :
      EditsTo memory slot (.push tag payload) later

end Memory

/-! ## What an edit makes of a chain -/

/-- Where a chain lay in a region of the first memory, this chain lies in the second, in cells of
that region and new ones. No other cell has changed. -/
structure Chain.Replaces (chain : Chain) (before after : Memory) (slot : Slot)
    (region : Set Slot) : Prop where
  lies : ∃ cells, chain.LiesAt after slot cells ∧
    ∀ other ∈ cells, other ∈ region ∨ before.size ≤ other.index
  kept : ∀ other, other ∉ region → other.index < before.size →
    after.cell? other = before.cell? other
  size_le : before.size ≤ after.size

/-- Where the cell in a slot held a payload, with cells in a region, it holds this payload in the
second memory, as the given content. Of the other cells none has changed. -/
structure Payload.Replaces (payload : Payload) (before after : Memory) (slot : Slot)
    (content : Content) (region : Set Slot) : Prop where
  held : ∃ cells, payload.HeldAs after content cells ∧
    ∀ other ∈ cells, other ∈ region ∨ before.size ≤ other.index
  kept : ∀ other, other ≠ slot → other ∉ region → other.index < before.size →
    after.cell? other = before.cell? other
  size_le : before.size ≤ after.size

section Parts

variable {before after : Memory} {slot : Slot} {region cells : Set Slot}

theorem notMem_of_old_or_new (hcells : ∀ other ∈ cells, other ∈ region ∨ before.size ≤ other.index)
    (hold : slot.index < before.size) (hslot : slot ∉ region) : slot ∉ cells := by
  intro hmem
  rcases hcells slot hmem with hregion | hnew
  · exact hslot hregion
  · exact Nat.not_lt_of_le hnew hold

/-- Cells that were there before and apart from a region are apart from what took its place. -/
theorem disjoint_of_old_or_new {others : Set Slot}
    (hcells : ∀ other ∈ cells, other ∈ region ∨ before.size ≤ other.index)
    (hold : ∀ other ∈ others, other.index < before.size) (hdisjoint : Disjoint region others) :
    Disjoint cells others := by
  rw [Set.disjoint_right]
  intro other hmem
  exact notMem_of_old_or_new hcells (hold other hmem) (Set.disjoint_right.mp hdisjoint hmem)

/-- A chain whose first cell comes to hold another payload. What is nested in the payload may lie in
new cells, or in those of the old one. -/
theorem Chain.LiesAt.exists_head {chain : Chain} (hlies : chain.LiesAt before slot region) :
    ∃ content inner next?, before.cell? slot = some ⟨chain.tag, content, next?⟩ ∧
      chain.payload.HeldAs before content inner ∧ slot ∉ inner ∧
      ∀ after payload content', after.cell? slot = some ⟨chain.tag, content', next?⟩ →
        payload.Replaces before after slot content' inner →
        (chain.setPayload payload).Replaces before after slot region := by
  cases chain with
  | last tag payload =>
      obtain ⟨content, inner, hcell, hheld, hslot, rfl⟩ := hlies
      refine ⟨content, inner, none, hcell, hheld, hslot, ?_⟩
      rintro after payload' content' hcell' ⟨⟨cells, hheld', hcells⟩, hkept, hsize⟩
      have hnot := notMem_of_old_or_new hcells (Memory.lt_size_of_cell? hcell) hslot
      refine ⟨⟨insert slot cells, ⟨content', cells, hcell', hheld', hnot, rfl⟩, ?_⟩, ?_, hsize⟩
      · rintro other (rfl | hmem)
        · exact .inl (Set.mem_insert _ _)
        · exact (hcells other hmem).imp_left (Set.mem_insert_of_mem _)
      · intro other hother
        simp only [Set.mem_insert_iff, not_or] at hother
        exact hkept other hother.1 hother.2
  | cons tag payload rest =>
      obtain ⟨content, inner, next, others, hcell, hheld, hrest, hslot, hslot', hdisjoint, rfl⟩ :=
        hlies
      refine ⟨content, inner, some next, hcell, hheld, hslot, ?_⟩
      rintro after payload' content' hcell' ⟨⟨cells, hheld', hcells⟩, hkept, hsize⟩
      have hnot := notMem_of_old_or_new hcells (Memory.lt_size_of_cell? hcell) hslot
      have hrest' : rest.LiesAt after next others := by
        apply hrest.congr
        intro other hmem
        refine hkept other ?_ (Set.disjoint_right.mp hdisjoint hmem) (hrest.lt_size hmem)
        rintro rfl
        exact hslot' hmem
      have hapart : Disjoint cells others :=
        disjoint_of_old_or_new hcells (fun _ => hrest.lt_size) hdisjoint
      refine ⟨⟨insert slot (cells ∪ others), ⟨content', cells, next, others, hcell', hheld', hrest',
        hnot, hslot', hapart, rfl⟩, ?_⟩, ?_, hsize⟩
      · rintro other (rfl | hmem | hmem)
        · exact .inl (Set.mem_insert _ _)
        · exact (hcells other hmem).imp_left fun hinner =>
            Set.mem_insert_of_mem _ (Set.mem_union_left _ hinner)
        · exact .inl (Set.mem_insert_of_mem _ (Set.mem_union_right _ hmem))
      · intro other hother
        simp only [Set.mem_insert_iff, Set.mem_union, not_or] at hother
        exact hkept other hother.1 hother.2.1

/-- A chain in which the cells after the first are replaced. -/
theorem Chain.LiesAt.exists_rest {tag : SharedTag} {payload : Payload} {rest : Chain}
    (hlies : (Chain.cons tag payload rest).LiesAt before slot region) :
    ∃ content next others, before.cell? slot = some ⟨tag, content, some next⟩ ∧
      rest.LiesAt before next others ∧
      ∀ after rest', rest'.Replaces before after next others →
        (Chain.cons tag payload rest').Replaces before after slot region := by
  obtain ⟨content, inner, next, others, hcell, hheld, hrest, hslot, hslot', hdisjoint, rfl⟩ := hlies
  refine ⟨content, next, others, hcell, hrest, ?_⟩
  rintro after rest' ⟨⟨cells, hlies', hcells⟩, hkept, hsize⟩
  have hold := Memory.lt_size_of_cell? hcell
  have hnot := notMem_of_old_or_new hcells hold hslot'
  have hcell' : after.cell? slot = some ⟨tag, content, some next⟩ :=
    (hkept slot hslot' hold).trans hcell
  have hheld' : payload.HeldAs after content inner := by
    apply hheld.congr
    intro other hmem
    exact hkept other (Set.disjoint_left.mp hdisjoint hmem) (hheld.lt_size hmem)
  have hapart : Disjoint cells inner :=
    disjoint_of_old_or_new hcells (fun _ => hheld.lt_size) hdisjoint.symm
  refine ⟨⟨insert slot (inner ∪ cells), ⟨content, inner, next, cells, hcell', hheld', hlies', hslot,
    hnot, hapart.symm, rfl⟩, ?_⟩, ?_, hsize⟩
  · rintro other (rfl | hmem | hmem)
    · exact .inl (Set.mem_insert _ _)
    · exact .inl (Set.mem_insert_of_mem _ (Set.mem_union_left _ hmem))
    · exact (hcells other hmem).imp_left fun hothers =>
        Set.mem_insert_of_mem _ (Set.mem_union_right _ hothers)
  · intro other hother
    simp only [Set.mem_insert_iff, Set.mem_union, not_or] at hother
    exact hkept other hother.2.2

end Parts

/-! ## Edits at the first cell -/

section First

variable {chain : Chain} {before after : Memory} {slot : Slot} {region : Set Slot}

theorem Chain.Replaces.refl (hlies : chain.LiesAt before slot region) :
    chain.Replaces before before slot region :=
  ⟨⟨region, hlies, fun _ hmem => .inl hmem⟩, fun _ _ _ => rfl, Nat.le_refl _⟩

theorem Payload.HeldAs.isMissing_iff {payload : Payload} {content : Content}
    (hheld : payload.HeldAs before content region) :
    payload.isMissing = true ↔ content = .missing := by
  cases payload with
  | missing => exact ⟨fun _ => hheld.1, fun _ => rfl⟩
  | leaf address =>
      obtain ⟨rfl, _⟩ := hheld
      exact ⟨nofun, nofun⟩
  | nested chain =>
      obtain ⟨first, rfl, _⟩ := hheld
      exact ⟨nofun, nofun⟩

theorem ne_of_isNew {cells : Set Slot} (hnew : before.IsNew cells) (hold : slot.index < before.size)
    {other : Slot} (hmem : other ∈ cells) : other ≠ slot := by
  rintro rfl
  exact Nat.not_lt_of_le (hnew other hmem) hold

theorem Chain.LiesAt.replaces_putPayload {tag : SharedTag} {content : Content}
    {next? : Option Slot} (hlies : chain.LiesAt before slot region)
    (hcell : before.cell? slot = some ⟨tag, content, next?⟩) (payload : Payload) :
    (chain.setPayload payload).Replaces before (before.putPayload slot payload tag next?) slot
      region := by
  obtain ⟨content', inner, next?', hcell', _, _, hclose⟩ := hlies.exists_head
  obtain ⟨htag, _, rfl⟩ := Memory.cell?_inj hcell' hcell
  obtain ⟨cells, hnew, hheld⟩ := payload.heldAs_layOut before
  have hgrows := payload.grows_layOut before
  have hold := Memory.lt_size_of_cell? hcell
  have hthere := (hgrows.cell?_eq hold).trans hcell
  refine hclose _ payload (payload.layOut before).1 ?_ ⟨⟨cells, ?_, ?_⟩, ?_, ?_⟩
  · rw [htag]
    exact Memory.cell?_set hthere _
  · apply hheld.congr
    intro other hmem
    exact Memory.cell?_set_of_ne _ (ne_of_isNew hnew hold hmem) _
  · exact fun other hmem => .inr (hnew other hmem)
  · intro other hne _ hused
    exact (Memory.cell?_set_of_ne _ hne _).trans (hgrows.cell?_eq hused)
  · rw [Memory.putPayload, Memory.size_set]
    exact hgrows.size_le

/-- A tail that is linked to a last cell lies in new cells after it. -/
theorem Chain.LiesAt.replaces_putTail_last {tag : SharedTag} {payload : Payload}
    {content : Content} (hlies : (Chain.last tag payload).LiesAt before slot region)
    (hcell : before.cell? slot = some ⟨tag, content, none⟩) (tail : Chain) :
    (Chain.cons tag payload tail).Replaces before (before.putTail slot tail tag content) slot
      region := by
  obtain ⟨content', inner, hcell', hheld, hslot, rfl⟩ := hlies
  obtain ⟨_, rfl, _⟩ := Memory.cell?_inj hcell' hcell
  obtain ⟨cells, hnew, htail⟩ := tail.liesAt_layOut before
  have hgrows := tail.grows_layOut before
  have hold := Memory.lt_size_of_cell? hcell
  have hthere := (hgrows.cell?_eq hold).trans hcell
  have hkept : ∀ other, other ≠ slot → other.index < before.size →
      (before.putTail slot tail tag content').cell? other = before.cell? other :=
    fun other hne hused => (Memory.cell?_set_of_ne _ hne _).trans (hgrows.cell?_eq hused)
  have hheld' : payload.HeldAs (before.putTail slot tail tag content') content' inner := by
    apply hheld.congr
    intro other hmem
    exact hkept other (fun heq => hslot (heq ▸ hmem)) (hheld.lt_size hmem)
  have htail' :
      tail.LiesAt (before.putTail slot tail tag content') (tail.layOut before).1 cells := by
    apply htail.congr
    intro other hmem
    exact Memory.cell?_set_of_ne _ (ne_of_isNew hnew hold hmem) _
  have hnot : slot ∉ cells := fun hmem => ne_of_isNew hnew hold hmem rfl
  refine ⟨⟨insert slot (inner ∪ cells), ⟨content', inner, _, cells, Memory.cell?_set hthere _,
    hheld', htail', hslot, hnot, hnew.disjoint fun _ => hheld.lt_size, rfl⟩, ?_⟩, ?_, ?_⟩
  · rintro other (rfl | hmem | hmem)
    · exact .inl (Set.mem_insert _ _)
    · exact .inl (Set.mem_insert_of_mem _ hmem)
    · exact .inr (hnew other hmem)
  · intro other hother hused
    exact hkept other (fun heq => hother (heq ▸ Set.mem_insert _ _)) hused
  · rw [Memory.putTail, Memory.size_set]
    exact hgrows.size_le

/-- A tail that is linked to the last cell goes on from every cell before it. -/
theorem Chain.LiesAt.replaces_putTail {chain : Chain} {slot last : Slot} {region : Set Slot}
    {tag : SharedTag} {content : Content} (hlies : chain.LiesAt before slot region)
    (hends : before.EndsAt slot last) (hcell : before.cell? last = some ⟨tag, content, none⟩)
    (tail : Chain) :
    (chain.append tail).Replaces before (before.putTail last tail tag content) slot region := by
  cases chain with
  | last tag' payload =>
      have ⟨_, _, hcell', _⟩ := hlies
      cases hends with
      | here _ =>
          obtain ⟨rfl, _, _⟩ := Memory.cell?_inj hcell' hcell
          exact hlies.replaces_putTail_last hcell tail
      | along hnext _ =>
          obtain ⟨_, _, hlink⟩ := Memory.cell?_inj hnext hcell'
          cases hlink
  | cons tag' payload rest =>
      obtain ⟨_, next, others, hcell', hrest, hclose⟩ := hlies.exists_rest
      cases hends with
      | here hnone =>
          obtain ⟨_, _, hlink⟩ := Memory.cell?_inj hnone hcell'
          cases hlink
      | along hnext hends =>
          obtain ⟨_, _, hlink⟩ := Memory.cell?_inj hnext hcell'
          cases hlink
          exact hclose _ _ (Chain.LiesAt.replaces_putTail hrest hends hcell tail)

theorem Chain.LiesAt.exists_endsAt {chain : Chain} {slot : Slot} {region : Set Slot}
    (hlies : chain.LiesAt before slot region) :
    ∃ last tag content, before.EndsAt slot last ∧
      before.cell? last = some ⟨tag, content, none⟩ := by
  cases chain with
  | last tag payload =>
      obtain ⟨content, _, hcell, _⟩ := hlies
      exact ⟨slot, tag, content, .here hcell, hcell⟩
  | cons tag payload rest =>
      obtain ⟨_, next, others, hcell, hrest, _⟩ := hlies.exists_rest
      obtain ⟨last, tag', content', hends, hlast⟩ := Chain.LiesAt.exists_endsAt hrest
      exact ⟨last, tag', content', .along hcell hends, hlast⟩

/-- An edit in memory comes to the same as the edit of the chain. -/
theorem Chain.LiesAt.replaces_of_editsTo {edit : CellEdit} (hlies : chain.LiesAt before slot region)
    (hedits : before.EditsTo slot edit after) :
    (edit.apply chain).Replaces before after slot region := by
  induction hedits with
  | setPayload hcell => exact hlies.replaces_putPayload hcell _
  | overwriteMissing hcell =>
      obtain ⟨content, _, _, hcell', hheld, _⟩ := hlies.exists_head
      obtain ⟨_, rfl, _⟩ := Memory.cell?_inj hcell' hcell
      rw [CellEdit.apply, Chain.overwritePayload, if_pos (hheld.isMissing_iff.mpr rfl)]
      exact .refl hlies
  | overwrite hcell hcontent =>
      obtain ⟨content, _, _, hcell', hheld, _⟩ := hlies.exists_head
      obtain ⟨_, rfl, _⟩ := Memory.cell?_inj hcell' hcell
      rw [CellEdit.apply, Chain.overwritePayload,
        if_neg fun hmissing => hcontent (hheld.isMissing_iff.mp hmissing)]
      exact hlies.replaces_putPayload hcell _
  | append hends hcell => exact hlies.replaces_putTail hends hcell _
  | push _ ih => exact ih

/-- Every edit can be made where a chain lies. -/
theorem Chain.LiesAt.exists_editsTo (hlies : chain.LiesAt before slot region) (edit : CellEdit) :
    ∃ after, before.EditsTo slot edit after := by
  obtain ⟨content, _, next?, hcell, _⟩ := hlies.exists_head
  obtain ⟨last, tag, content', hends, hlast⟩ := hlies.exists_endsAt
  cases edit with
  | setPayload payload => exact ⟨_, .setPayload hcell⟩
  | overwritePayload payload =>
      by_cases hcontent : content = .missing
      · subst hcontent
        exact ⟨_, .overwriteMissing hcell⟩
      · exact ⟨_, .overwrite hcell hcontent⟩
  | push tag payload => exact ⟨_, .push (.append hends hlast)⟩
  | append tail => exact ⟨_, .append hends hlast⟩

end First

end TaggedExpr
