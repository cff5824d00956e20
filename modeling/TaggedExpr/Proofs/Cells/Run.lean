import TaggedExpr.Chain
import TaggedExpr.Proofs.Cells.Edit
import TaggedExpr.Proofs.Chain.Moves

/-! # Editing along paths in memory

A cell is found in memory by following links, and all who find it see its changes. For a chain that
lies in memory a run of edits, each at the end of a path, comes to the same as editing the chain,
and leaves every cell outside the region of the chain as it was.
-/

namespace TaggedExpr

/-- Edits one after the other, each at the end of a path. All of the paths must lead somewhere. -/
def Chain.editAll : List (Path × CellEdit) → Chain → Except PathError Chain
  | [], chain => .ok chain
  | (path, edit) :: edits, chain => match chain.editAt edit.apply path with
    | .ok edited => edited.editAll edits
    | .error error => .error error

namespace Memory

/-- The slot some cells further along the chain. -/
def along? (memory : Memory) : Nat → Slot → Option Slot
  | 0, slot => some slot
  | count + 1, slot => match memory.cell? slot with
    | some ⟨_, _, some next⟩ => memory.along? count next
    | _ => none

def step? (memory : Memory) (slot : Slot) : Step → Option Slot
  | .along count => memory.along? count slot
  | .into => match memory.cell? slot with
    | some ⟨_, .nested first, _⟩ => some first
    | _ => none

/-- The slot at the end of a path. -/
def locate? (memory : Memory) : Path → Slot → Option Slot
  | [], slot => some slot
  | step :: path, slot => match memory.step? slot step with
    | some next => memory.locate? path next
    | none => none

/-- Editing one after the other, each at the end of a path from the same slot. -/
inductive RunsTo (root : Slot) : Memory → List (Path × CellEdit) → Memory → Prop where
  | nil {memory : Memory} : RunsTo root memory [] memory
  | cons {memory next later : Memory} {path : Path} {edit : CellEdit} {slot : Slot}
      {edits : List (Path × CellEdit)} (hlocate : memory.locate? path root = some slot)
      (hedits : memory.EditsTo slot edit next) (hruns : RunsTo root next edits later) :
      RunsTo root memory ((path, edit) :: edits) later

end Memory

/-! ## Edits along paths -/

/-- Where a path leads nowhere there is nothing to be edited, for the same reason. -/
theorem Chain.editAt_of_follow_eq_error {chain : Chain} {path : Path} {error : PathError}
    (hfollow : chain.follow path = .error error) (change : Chain → Chain) :
    chain.editAt change path = .error error := by
  rw [editAt_eq, ← follow_eq_walk, hfollow]
  rfl

section Paths

variable {chain part : Chain} {before after : Memory} {slot place : Slot} {region : Set Slot}

theorem Chain.LiesAt.along?_of_none {count : Nat} (hlies : chain.LiesAt before slot region)
    (hdrop : chain.drop? count = none) : before.along? count slot = none := by
  induction count generalizing chain slot region with
  | zero => cases hdrop
  | succ count ih =>
      cases chain with
      | last tag payload =>
          obtain ⟨content, _, hcell, _⟩ := hlies
          simp only [Memory.along?, hcell]
      | cons tag payload rest =>
          obtain ⟨_, next, others, hcell, hrest, _⟩ := hlies.exists_rest
          simp only [Memory.along?, hcell]
          exact ih hrest hdrop

/-- Some cells on there is in memory what there is in the chain, and what replaces it there replaces
the chain as an edit some cells on does. -/
theorem Chain.LiesAt.along?_of_some {count : Nat} (hlies : chain.LiesAt before slot region)
    (hdrop : chain.drop? count = some part) :
    ∃ place inner, before.along? count slot = some place ∧ part.LiesAt before place inner ∧
      ∀ change after edited, change part = .ok edited →
        edited.Replaces before after place inner →
        ∃ whole, chain.editAfter change count = .ok whole ∧
          whole.Replaces before after slot region := by
  induction count generalizing chain slot region with
  | zero =>
      cases hdrop
      exact ⟨slot, region, rfl, hlies, fun _ _ edited hchange hreplaces =>
        ⟨edited, hchange, hreplaces⟩⟩
  | succ count ih =>
      cases chain with
      | last tag payload => cases hdrop
      | cons tag payload rest =>
          obtain ⟨_, next, others, hcell, hrest, hclose⟩ := hlies.exists_rest
          obtain ⟨place, inner, halong, hpart, hinner⟩ := ih hrest hdrop
          refine ⟨place, inner, ?_, hpart, ?_⟩
          · simp only [Memory.along?, hcell]
            exact halong
          · intro change after edited hchange hreplaces
            obtain ⟨whole, hwhole, hrest'⟩ := hinner change after edited hchange hreplaces
            refine ⟨.cons tag payload whole, ?_, hclose after whole hrest'⟩
            rw [Chain.editAfter, hwhole, Except.map]

theorem Payload.HeldAs.eq_nested {payload : Payload} {content : Content} {first : Slot}
    (hheld : payload.HeldAs before content region) (hcontent : content = .nested first) :
    ∃ inner, payload = .nested inner ∧ inner.LiesAt before first region := by
  cases payload with
  | missing => cases hheld.1.symm.trans hcontent
  | leaf address => cases hheld.1.symm.trans hcontent
  | nested inner =>
      obtain ⟨first', hcontent', hlies⟩ := hheld
      cases hcontent'.symm.trans hcontent
      exact ⟨inner, rfl, hlies⟩

theorem Chain.LiesAt.locate?_of_error {path : Path} {error : PathError}
    (hlies : chain.LiesAt before slot region) (hfollow : chain.follow path = .error error) :
    before.locate? path slot = none := by
  induction path generalizing chain slot region with
  | nil => cases hfollow
  | cons step path ih =>
      cases step with
      | along count =>
          simp only [Chain.follow, Chain.step] at hfollow
          simp only [Memory.locate?, Memory.step?]
          cases hdrop : chain.drop? count with
          | none => simp only [hlies.along?_of_none hdrop]
          | some part =>
              obtain ⟨place, inner, halong, hpart, _⟩ := hlies.along?_of_some hdrop
              simp only [hdrop] at hfollow
              simp only [halong]
              exact ih hpart hfollow
      | into =>
          obtain ⟨content, inner, next?, hcell, hheld, _⟩ := hlies.exists_head
          simp only [Chain.follow, Chain.step] at hfollow
          simp only [Memory.locate?, Memory.step?, hcell]
          cases content with
          | missing => rfl
          | leaf address => rfl
          | nested first =>
              obtain ⟨nested, hpayload, hnested⟩ := hheld.eq_nested rfl
              simp only [hpayload] at hfollow
              exact ih hnested hfollow

/-- A path leads in memory to where it leads in the chain, and what replaces the cell there replaces
the chain as its edit along the path does. -/
theorem Chain.LiesAt.locate?_of_ok {path : Path} (hlies : chain.LiesAt before slot region)
    (hfollow : chain.follow path = .ok part) :
    ∃ place inner, before.locate? path slot = some place ∧ part.LiesAt before place inner ∧
      ∀ (change : Chain → Chain) after, (change part).Replaces before after place inner →
        ∃ whole, chain.editAt change path = .ok whole ∧
          whole.Replaces before after slot region := by
  induction path generalizing chain slot region with
  | nil =>
      cases hfollow
      exact ⟨slot, region, rfl, hlies, fun change _ hreplaces => ⟨change part, rfl, hreplaces⟩⟩
  | cons step path ih =>
      cases step with
      | along count =>
          simp only [Chain.follow, Chain.step] at hfollow
          cases hdrop : chain.drop? count with
          | none =>
              simp only [hdrop] at hfollow
              cases hfollow
          | some later =>
              simp only [hdrop] at hfollow
              obtain ⟨first, others, halong, hlater, houter⟩ := hlies.along?_of_some hdrop
              obtain ⟨place, inner, hlocate, hpart, hinner⟩ := ih hlater hfollow
              refine ⟨place, inner, ?_, hpart, ?_⟩
              · simp only [Memory.locate?, Memory.step?, halong]
                exact hlocate
              · intro change after hreplaces
                obtain ⟨edited, hedited, hlater'⟩ := hinner change after hreplaces
                exact houter _ after edited hedited hlater'
      | into =>
          obtain ⟨content, nestedRegion, next?, hcell, hheld, hslot, hclose⟩ := hlies.exists_head
          simp only [Chain.follow, Chain.step] at hfollow
          cases hpayload : chain.payload with
          | missing =>
              simp only [hpayload] at hfollow
              cases hfollow
          | leaf address =>
              simp only [hpayload] at hfollow
              cases hfollow
          | nested nested =>
              simp only [hpayload] at hfollow hheld
              obtain ⟨first, rfl, hnested⟩ := hheld
              obtain ⟨place, inner, hlocate, hpart, hinner⟩ := ih hnested hfollow
              refine ⟨place, inner, ?_, hpart, ?_⟩
              · simp only [Memory.locate?, Memory.step?, hcell]
                exact hlocate
              · intro change after hreplaces
                obtain ⟨edited, hedited, hlies', hkept, hsize⟩ := hinner change after hreplaces
                have hold := Memory.lt_size_of_cell? hcell
                obtain ⟨cells, hcells, hwithin⟩ := hlies'
                refine ⟨chain.setPayload (.nested edited), ?_, hclose after (.nested edited)
                  (.nested first) ((hkept slot hslot hold).trans hcell)
                  ⟨⟨cells, ⟨first, rfl, hcells⟩, hwithin⟩, fun other _ => hkept other, hsize⟩⟩
                simp only [Chain.editAt, hpayload, hedited, Except.map]

end Paths

/-! ## Runs of edits -/

section Runs

variable {chain edited : Chain} {before after : Memory} {root : Slot} {region : Set Slot}
  {edits : List (Path × CellEdit)}

theorem Chain.Replaces.trans {first second third : Memory} {slot : Slot} {middle : Set Slot}
    (hwithin : ∀ other ∈ middle, other ∈ region ∨ first.size ≤ other.index)
    (hfirst : chain.Replaces first second slot region)
    (hsecond : edited.Replaces second third slot middle) :
    edited.Replaces first third slot region := by
  obtain ⟨cells, hlies, hcells⟩ := hsecond.lies
  refine ⟨⟨cells, hlies, ?_⟩, ?_, Nat.le_trans hfirst.size_le hsecond.size_le⟩
  · intro other hmem
    rcases hcells other hmem with hmiddle | hnew
    · exact hwithin other hmiddle
    · exact .inr (Nat.le_trans hfirst.size_le hnew)
  · intro other hother hused
    have hnot : other ∉ middle := by
      intro hmem
      rcases hwithin other hmem with hregion | hnew
      · exact hother hregion
      · exact Nat.not_lt_of_le hnew hused
    rw [hsecond.kept other hnot (Nat.lt_of_lt_of_le hused hfirst.size_le),
      hfirst.kept other hother hused]

/-- A run of edits in memory comes to the same as the edits of the chain. -/
theorem Chain.LiesAt.replaces_of_runsTo (hlies : chain.LiesAt before root region)
    (hruns : before.RunsTo root edits after) :
    ∃ edited, chain.editAll edits = .ok edited ∧ edited.Replaces before after root region := by
  induction hruns generalizing chain region with
  | nil => exact ⟨chain, rfl, .refl hlies⟩
  | @cons _ _ _ path edit _ _ hlocate hedits _ ih =>
      cases hfollow : chain.follow path with
      | error error =>
          rw [hlies.locate?_of_error hfollow] at hlocate
          cases hlocate
      | ok part =>
          obtain ⟨place, inner, hplace, hpart, hclose⟩ := hlies.locate?_of_ok hfollow
          cases hplace.symm.trans hlocate
          obtain ⟨whole, hwhole, hreplaces⟩ :=
            hclose edit.apply _ (hpart.replaces_of_editsTo hedits)
          obtain ⟨cells, hcells, hwithin⟩ := hreplaces.lies
          obtain ⟨edited, hedited, hlater⟩ := ih hcells
          refine ⟨edited, ?_, hreplaces.trans hwithin hlater⟩
          simp only [Chain.editAll, hwhole, hedited]

/-- What can be edited can be edited in memory. -/
theorem Chain.LiesAt.exists_runsTo (hlies : chain.LiesAt before root region)
    (hedited : chain.editAll edits = .ok edited) : ∃ after, before.RunsTo root edits after := by
  induction edits generalizing chain before region with
  | nil => exact ⟨before, .nil⟩
  | cons step edits ih =>
      obtain ⟨path, edit⟩ := step
      cases hfollow : chain.follow path with
      | error error =>
          simp only [Chain.editAll, Chain.editAt_of_follow_eq_error hfollow] at hedited
          cases hedited
      | ok part =>
          obtain ⟨place, inner, hplace, hpart, hclose⟩ := hlies.locate?_of_ok hfollow
          obtain ⟨next, hnext⟩ := hpart.exists_editsTo edit
          obtain ⟨whole, hwhole, hreplaces⟩ := hclose edit.apply _ (hpart.replaces_of_editsTo hnext)
          obtain ⟨cells, hcells, _⟩ := hreplaces.lies
          simp only [Chain.editAll, hwhole] at hedited
          obtain ⟨after, hafter⟩ := ih hcells hedited
          exact ⟨after, .cons hplace hnext hafter⟩

end Runs

end TaggedExpr
