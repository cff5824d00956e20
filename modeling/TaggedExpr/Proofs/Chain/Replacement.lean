import TaggedExpr.Proofs.Chain.Moves
import TaggedExpr.Stock

/-! # Replacing a payload in a tree

Where the payload of a cell is replaced, the cells that are reached without going through the
payload stay, and so does what they hold, but for the nested chains around the replaced payload. No
cell knows which of two others had its payload replaced first, unless one of these is in the other's
payload.
-/

namespace TaggedExpr

namespace Chain

def setAfter (payload : Payload) : List Move → Chain → Chain := changeAfter (setPayload payload)

/-- Replaces the payload of the cell that some moves lead to, and gives the old one. -/
def exchange (payload : Payload) : List Move → Chain → Except PathError (Payload × Chain)
  | [], chain => .ok (chain.payload, chain.setPayload payload)
  | move :: moves, chain => (chain.move move).bind fun part =>
    (exchange payload moves part).map fun (old, changed) => (old, chain.putBack move changed)

def exchangeAt (payload : Payload) (path : Path) : Chain → Except PathError (Payload × Chain) :=
  exchange payload path.moves

section Rows

variable {chain cell : Chain} {move : Move} {moves : List Move}

theorem exchange_eq (payload : Payload) (moves : List Move) (chain : Chain) :
    chain.exchange payload moves =
      (chain.walk moves).map fun cell => (cell.payload, chain.setAfter payload moves) := by
  induction moves generalizing chain with
  | nil => rfl
  | cons move moves ih =>
      cases hmove : chain.move move with
      | error error =>
          rw [exchange, hmove, walk_cons_of_error hmove]
          rfl
      | ok part =>
          rw [setAfter, changeAfter_cons_of_ok hmove, walk_cons_of_ok hmove, exchange, hmove,
            Except.bind, ih]
          cases part.walk moves <;> rfl

theorem setAfter_setAfter (first second : Payload) (moves : List Move) (chain : Chain) :
    (chain.setAfter first moves).setAfter second moves = chain.setAfter second moves := by
  rw [setAfter, setAfter, changeAfter_changeAfter]
  congr 1
  funext cell
  exact setPayload_setPayload first second cell

theorem setAfter_payload (hcell : chain.walk moves = .ok cell) :
    chain.setAfter cell.payload moves = chain :=
  (changeAfter_congr hcell cell.setPayload_payload).trans (chain.changeAfter_id moves)

/-! ## What stays -/

theorem tag_setAfter (payload : Payload) (moves : List Move) (chain : Chain) :
    (chain.setAfter payload moves).tag = chain.tag := by
  cases moves with
  | nil => exact tag_setPayload payload chain
  | cons move moves =>
      cases hmove : chain.move move with
      | error error => rw [setAfter, changeAfter_cons_of_error hmove]
      | ok part => rw [setAfter, changeAfter_cons_of_ok hmove, tag_putBack]

theorem cellCount_setAfter (payload : Payload) (moves : List Move) (chain : Chain) :
    (chain.setAfter payload moves).cellCount = chain.cellCount := by
  induction moves generalizing chain with
  | nil => exact cellCount_setPayload payload chain
  | cons move moves ih =>
      cases hmove : chain.move move with
      | error error => rw [setAfter, changeAfter_cons_of_error hmove]
      | ok part =>
          rw [setAfter, changeAfter_cons_of_ok hmove]
          exact cellCount_putBack hmove (ih part)

theorem payload_setAfter_next (payload : Payload) (moves : List Move) (chain : Chain) :
    (chain.setAfter payload (.next :: moves)).payload = chain.payload := by
  cases hmove : chain.move .next with
  | error error => rw [setAfter, changeAfter_cons_of_error hmove]
  | ok part => rw [setAfter, changeAfter_cons_of_ok hmove, payload_putBack_next]

theorem payload_setAfter_into {inner : Chain} (hinner : chain.move .into = .ok inner)
    (payload : Payload) (moves : List Move) :
    (chain.setAfter payload (.into :: moves)).payload = .nested (inner.setAfter payload moves) := by
  rw [setAfter, changeAfter_cons_of_ok hinner]
  exact payload_setPayload _ chain

/-- Off the way, and not in the replaced payload, everything is as it was. -/
theorem walk_setAfter_of_apart {place : List Move} (payload : Payload) (hoff : ¬ place <+: moves)
    (houtside : ¬ moves ++ [.into] <+: place) :
    (chain.setAfter payload moves).walk place = chain.walk place := by
  induction moves generalizing chain place with
  | nil =>
      cases place with
      | nil => exact absurd List.prefix_rfl hoff
      | cons other place =>
          -- The place is after the cell, as it is not in its payload.
          cases other with
          | next => rw [setAfter, changeAfter, walk, move_next_setPayload, walk]
          | into => exact absurd ⟨place, rfl⟩ houtside
  | cons move moves ih =>
      cases place with
      | nil => exact absurd List.nil_prefix hoff
      | cons other place =>
          cases hmove : chain.move move with
          | error error => rw [setAfter, changeAfter_cons_of_error hmove]
          | ok part =>
              rw [setAfter, changeAfter_cons_of_ok hmove]
              by_cases hother : other = move
              · subst hother
                rw [walk_cons_of_ok (move_putBack hmove _), walk_cons_of_ok hmove]
                apply ih
                · exact fun h => hoff (List.cons_prefix_cons.mpr ⟨rfl, h⟩)
                · exact fun h => houtside (List.cons_prefix_cons.mpr ⟨rfl, h⟩)
              · rw [walk, move_putBack_of_ne hother, walk]

/-- What replacing a payload keeps of all that is on the way to it, it keeps everywhere outside
that payload. -/
theorem map_walk_setAfter {α : Type} {place : List Move} (view : Chain → α) (payload : Payload)
    (hkept : ∀ rest, place ++ rest = moves → ∀ part,
      view (Chain.setAfter payload rest part) = view part)
    (houtside : ¬ moves ++ [.into] <+: place) :
    ((chain.setAfter payload moves).walk place).map view = (chain.walk place).map view := by
  by_cases hon : place <+: moves
  · obtain ⟨rest, rfl⟩ := hon
    rw [setAfter, walk_changeAfter_append]
    cases chain.walk place with
    | error error => rfl
    | ok part => exact congrArg Except.ok (hkept rest rfl part)
  · rw [walk_setAfter_of_apart payload hon houtside]

/-! ## Two cells -/

theorem setAfter_next_setPayload (first second : Payload) (moves : List Move) (chain : Chain) :
    (chain.setPayload first).setAfter second (.next :: moves) =
      (chain.setAfter second (.next :: moves)).setPayload first := by
  cases hmove : chain.move .next with
  | error error =>
      have hlater := (move_next_setPayload first chain).trans hmove
      rw [setAfter, changeAfter_cons_of_error hmove, changeAfter_cons_of_error hlater]
  | ok part =>
      have hlater := (move_next_setPayload first chain).trans hmove
      rw [setAfter, changeAfter_cons_of_ok hmove, changeAfter_cons_of_ok hlater,
        putBack_next_setPayload]

/-- Payloads of two cells can be replaced in either order, if neither cell is in the other's. -/
theorem setAfter_comm {others : List Move} (first second : Payload) (hne : others ≠ moves)
    (houtside : ¬ moves ++ [.into] <+: others) (hothers : ¬ others ++ [.into] <+: moves)
    (chain : Chain) :
    (chain.setAfter first moves).setAfter second others =
      (chain.setAfter second others).setAfter first moves := by
  induction moves generalizing chain others with
  | nil =>
      cases others with
      | nil => exact absurd rfl hne
      | cons other others =>
          cases other with
          | next => exact chain.setAfter_next_setPayload first second others
          | into => exact absurd ⟨others, rfl⟩ houtside
  | cons move moves ih =>
      cases others with
      | nil =>
          cases move with
          | next => exact (chain.setAfter_next_setPayload second first moves).symm
          | into => exact absurd ⟨moves, rfl⟩ hothers
      | cons other others =>
          by_cases hother : other = move
          · subst hother
            cases hmove : chain.move other with
            | error error => simp only [setAfter, changeAfter_cons_of_error hmove]
            | ok part =>
                have hne' : others ≠ moves := fun h => hne (congrArg (List.cons other) h)
                have hcomm := ih hne' (fun h => houtside (List.cons_prefix_cons.mpr ⟨rfl, h⟩))
                  (fun h => hothers (List.cons_prefix_cons.mpr ⟨rfl, h⟩)) part
                simp only [setAfter, changeAfter_cons_of_ok hmove,
                  changeAfter_cons_of_ok (move_putBack hmove _), putBack_putBack] at hcomm ⊢
                rw [hcomm]
          · -- The moves part here.
            exact chain.changeAfter_comm_of_ne hother _ _ moves others

end Rows

/-- An exchange gives back the payload that is there, and replaces it. -/
theorem exchangeAt_eq_map (payload : Payload) (path : Path) (chain : Chain) :
    chain.exchangeAt payload path = ((chain.follow path).map Chain.payload).map fun old =>
      (old, chain.setAfter payload path.moves) := by
  rw [exchangeAt, exchange_eq, follow_eq_walk]
  cases chain.walk path.moves <;> rfl

end Chain

/-- The tree after the payload of one cell has been exchanged for another, against the tree before
it. -/
structure ExchangedAt (chain : Chain) (path : Path) (payload : Payload) (cell whole : Chain) :
    Prop where
  /-- What is given back is the payload that was there. -/
  exchangeAt_eq : chain.exchangeAt payload path = .ok (cell.payload, whole)
  editAt_eq : chain.editAt (·.setPayload payload) path = .ok whole
  follow_eq : whole.follow path = .ok (cell.setPayload payload)
  /-- Outside the replaced payload there are the same cells as before. -/
  outside : ∀ place : Path, ¬ place.Enters path →
    (whole.follow place).map (fun part => (part.tag, part.cellCount)) =
      (chain.follow place).map fun part => (part.tag, part.cellCount)
  /-- Around the cell there are nested chains as before. -/
  around : ∀ place, path.Enters place → ∃ part inner changed changedInner,
    chain.follow place = .ok part ∧ part.payload = .nested inner ∧
    whole.follow place = .ok changed ∧ changed.payload = .nested changedInner
  elsewhere : ∀ place : Path, ¬ place.Enters path → ¬ path.Enters place →
    place.moves ≠ path.moves →
    (whole.follow place).map Chain.payload = (chain.follow place).map Chain.payload
  restored : whole.exchangeAt cell.payload path = .ok (payload, chain)
  /-- Overwriting does the same, but not where nothing is to be overwritten. -/
  overwritten : chain.editAt (·.overwritePayload payload) path =
    .ok (if cell.payload.isMissing then chain else whole)
  /-- In either order, two exchanges at cells that are not in each other's payload give back what
  they would give back alone, and lead to one tree. -/
  commutes : ∀ (other : Path) (otherPayload : Payload) (otherCell : Chain),
    chain.follow other = .ok otherCell → other.moves ≠ path.moves → ¬ other.Enters path →
    ¬ path.Enters other → ∃ otherWhole both,
      whole.exchangeAt otherPayload other = .ok (otherCell.payload, both) ∧
      chain.exchangeAt otherPayload other = .ok (otherCell.payload, otherWhole) ∧
      otherWhole.exchangeAt payload path = .ok (cell.payload, both)

section Exchanges

variable {chain cell : Chain} {path : Path}

theorem Chain.around_setAfter (hcell : chain.follow path = .ok cell) (payload : Payload)
    {place : Path} (henters : path.Enters place) : ∃ part inner changed changedInner,
      chain.follow place = .ok part ∧ part.payload = .nested inner ∧
      (chain.setAfter payload path.moves).follow place = .ok changed ∧
      changed.payload = .nested changedInner := by
  obtain ⟨rest, hpath⟩ := henters
  rw [List.append_assoc, List.singleton_append] at hpath
  rw [follow_eq_walk, ← hpath, walk_append] at hcell
  simp only [follow_eq_walk, ← hpath, setAfter, walk_changeAfter_append]
  cases hplace : chain.walk place.moves with
  | error error => rw [hplace] at hcell; cases hcell
  | ok part =>
      cases hmove : part.move .into with
      | error error =>
          rw [hplace, Except.bind, walk_cons_of_error hmove] at hcell
          cases hcell
      | ok inner =>
          exact ⟨part, inner, _, _, rfl, move_into_eq_ok_iff.mp hmove, rfl,
            payload_setAfter_into hmove payload rest⟩

theorem Chain.map_payload_setAfter {place : Path} (payload : Payload)
    (houtside : ¬ place.Enters path) (haround : ¬ path.Enters place)
    (hne : place.moves ≠ path.moves) (chain : Chain) :
    ((chain.setAfter payload path.moves).follow place).map Chain.payload =
      (chain.follow place).map Chain.payload := by
  rw [follow_eq_walk, follow_eq_walk]
  refine map_walk_setAfter _ payload ?_ houtside
  intro rest hrest part
  -- The place is on the way, and there the way goes on to the next cell.
  cases rest with
  | nil => exact absurd (place.moves.append_nil.symm.trans hrest) hne
  | cons move rest =>
      cases move with
      | next => exact part.payload_setAfter_next payload rest
      | into => exact absurd ⟨rest, by rw [List.append_assoc]; exact hrest⟩ haround

theorem Chain.editAt_overwritePayload (hcell : chain.follow path = .ok cell) (payload : Payload) :
    chain.editAt (·.overwritePayload payload) path =
      .ok (if cell.payload.isMissing then chain else chain.setAfter payload path.moves) := by
  rw [follow_eq_walk] at hcell
  rw [editAt_eq, hcell]
  cases hmissing : cell.payload.isMissing with
  | true =>
      have hsame : cell.overwritePayload payload = id cell := if_pos hmissing
      rw [changeAfter_congr hcell hsame, changeAfter_id]
      rfl
  | false =>
      have hsame : cell.overwritePayload payload = cell.setPayload payload :=
        if_neg (Bool.eq_false_iff.mp hmissing)
      rw [changeAfter_congr hcell hsame]
      rfl

theorem Chain.exchangedAt (hcell : chain.follow path = .ok cell) (payload : Payload) :
    ExchangedAt chain path payload cell (chain.setAfter payload path.moves) := by
  have hwalk : chain.walk path.moves = .ok cell := (chain.follow_eq_walk path).symm.trans hcell
  have hfollow : (chain.setAfter payload path.moves).follow path = .ok (cell.setPayload payload) :=
    ((chain.setAfter payload path.moves).follow_eq_walk path).trans
      (walk_changeAfter hwalk (setPayload payload))
  refine ⟨?_, ?_, hfollow, ?_, ?_, ?_, ?_, ?_, ?_⟩
  · rw [exchangeAt_eq_map, hcell]
    rfl
  · rw [editAt_eq, hwalk]
    rfl
  · intro place houtside
    rw [follow_eq_walk, follow_eq_walk]
    refine map_walk_setAfter _ payload ?_ houtside
    intro rest _ part
    rw [tag_setAfter, cellCount_setAfter]
  · intro place henters
    exact around_setAfter hcell payload henters
  · intro place houtside haround hne
    exact map_payload_setAfter payload houtside haround hne chain
  · rw [exchangeAt_eq_map, hfollow, setAfter_setAfter, setAfter_payload hwalk]
    simp [Except.map]
  · exact editAt_overwritePayload hcell payload
  · intro other otherPayload otherCell hother hne houtside haround
    have hkept := map_payload_setAfter payload houtside haround hne chain
    have hkept' := map_payload_setAfter otherPayload haround houtside hne.symm chain
    have hcomm := setAfter_comm payload otherPayload hne houtside haround chain
    refine ⟨chain.setAfter otherPayload other.moves,
      (chain.setAfter payload path.moves).setAfter otherPayload other.moves, ?_, ?_, ?_⟩
    · rw [exchangeAt_eq_map, hkept, hother]
      rfl
    · rw [exchangeAt_eq_map, hother]
      rfl
    · rw [exchangeAt_eq_map, hkept', hcell, hcomm]
      rfl

/-- Wherever in a tree a payload is exchanged for another, the old one is given back, with which the
tree can be restored, and nothing else in the tree has changed. -/
theorem payload_exchanged_locally (hcell : chain.follow path = .ok cell) (payload : Payload) :
    ∃ whole, ExchangedAt chain path payload cell whole :=
  ⟨_, Chain.exchangedAt hcell payload⟩

end Exchanges

/-- A leaf, a nested chain of a leaf and an empty cell, and an empty cell. -/
def branchingChain : Chain :=
  .cons Stock.atom (.leaf ⟨0⟩) <|
    .cons Stock.list (.nested (.cons Stock.atom (.leaf ⟨1⟩) (.last Stock.atom .missing))) <|
      .last Stock.vector .missing

/-- To the empty cell in the nested chain. -/
def nestedPath : Path := [.along 1, .into, .along 1]

/-- The cell before it is not in its payload, and the cell that holds both of them is around it. -/
theorem payload_exchanged_locally_branchingChain :
    branchingChain.follow nestedPath = .ok (.last Stock.atom .missing) ∧
    (∃ whole, ExchangedAt branchingChain nestedPath (.leaf ⟨0⟩) (.last Stock.atom .missing) whole) ∧
    ¬ Path.Enters [.along 1, .into] nestedPath ∧ ¬ nestedPath.Enters [.along 1, .into] ∧
    nestedPath.Enters [.along 1] :=
  ⟨rfl, payload_exchanged_locally rfl _, by decide, by decide, by decide⟩

end TaggedExpr
