import TaggedExpr.Chain

/-! # Moves

A path is a row of moves, each to the next cell or into a nested chain. What a move leads to can be
taken out, and something else put in its place, which makes a lens of every move. The lenses of
different moves are independent. Rows of moves lead to single cells, and to edit at the end of a
path is to change what is there and to put everything on the way back in its place.
-/

namespace TaggedExpr

/-- The shortest steps: to the next cell, or into the nested chain of a cell. -/
inductive Move where
  | next
  | into
deriving DecidableEq, Repr

def Step.moves : Step → List Move
  | .along count => List.replicate count .next
  | .into => [.into]

namespace Path

/-- Paths with the same moves are paths to the same cell. -/
def moves (path : Path) : List Move := path.flatMap Step.moves

theorem moves_cons (step : Step) (path : Path) : moves (step :: path) = step.moves ++ path.moves :=
  List.flatMap_cons

/-- The path leads through the payload of the cell at a place. -/
def Enters (path place : Path) : Prop := place.moves ++ [.into] <+: path.moves

instance (path place : Path) : Decidable (path.Enters place) :=
  inferInstanceAs (Decidable (_ <+: _))

end Path

namespace Chain

/-! ## Single moves -/

def move : Move → Chain → Except PathError Chain
  | .next, .last _ _ => .error .pastEnd
  | .next, .cons _ _ rest => .ok rest
  | .into, chain => match chain.payload with
    | .nested inner => .ok inner
    | _ => .error .notNested

/-- Puts something in the place of what a move leads to. -/
def putBack : Move → Chain → Chain → Chain
  | .next, .last tag payload, _ => .last tag payload
  | .next, .cons tag payload _, part => .cons tag payload part
  | .into, chain, part => chain.setPayload (.nested part)

section Moves

variable {chain part : Chain} {move : Move}

@[simp]
theorem tag_setPayload (payload : Payload) (chain : Chain) :
    (chain.setPayload payload).tag = chain.tag := by
  cases chain <;> rfl

@[simp]
theorem payload_setPayload (payload : Payload) (chain : Chain) :
    (chain.setPayload payload).payload = payload := by
  cases chain <;> rfl

@[simp]
theorem cellCount_setPayload (payload : Payload) (chain : Chain) :
    (chain.setPayload payload).cellCount = chain.cellCount := by
  cases chain <;> rfl

@[simp]
theorem setPayload_setPayload (first second : Payload) (chain : Chain) :
    (chain.setPayload first).setPayload second = chain.setPayload second := by
  cases chain <;> rfl

@[simp]
theorem setPayload_payload (chain : Chain) : chain.setPayload chain.payload = chain := by
  cases chain <;> rfl

theorem move_into_eq_ok_iff : chain.move .into = .ok part ↔ chain.payload = .nested part := by
  rw [Chain.move]
  cases chain.payload with
  | missing => exact ⟨nofun, nofun⟩
  | leaf address => exact ⟨nofun, nofun⟩
  | nested inner => simp

/-- What was put somewhere is found there. -/
theorem move_putBack (hpart : chain.move move = .ok part) (changed : Chain) :
    (chain.putBack move changed).move move = .ok changed := by
  cases move with
  | next =>
      cases chain with
      | last tag payload => cases hpart
      | cons tag payload rest => rfl
  | into => exact move_into_eq_ok_iff.mpr (payload_setPayload _ chain)

/-- To put back what is there changes nothing. -/
theorem putBack_part (hpart : chain.move move = .ok part) : chain.putBack move part = chain := by
  cases move with
  | next =>
      cases chain with
      | last tag payload => cases hpart
      | cons tag payload rest =>
          cases hpart
          rfl
  | into => rw [putBack, ← move_into_eq_ok_iff.mp hpart, setPayload_payload]

theorem putBack_putBack (first second : Chain) :
    (chain.putBack move first).putBack move second = chain.putBack move second := by
  cases move with
  | next => cases chain <;> rfl
  | into => exact setPayload_setPayload (.nested first) (.nested second) chain

/-- What one move leads to is not what the other does. -/
theorem move_putBack_of_ne {other : Move} (hne : other ≠ move) (chain changed : Chain) :
    (chain.putBack move changed).move other = chain.move other := by
  cases move with
  | next =>
      cases other with
      | next => exact absurd rfl hne
      | into => cases chain <;> rfl
  | into =>
      cases other with
      | next => cases chain <;> rfl
      | into => exact absurd rfl hne

theorem putBack_comm {other : Move} (hne : other ≠ move) (first second : Chain) :
    (chain.putBack move first).putBack other second =
      (chain.putBack other second).putBack move first := by
  cases move with
  | next =>
      cases other with
      | next => exact absurd rfl hne
      | into => cases chain <;> rfl
  | into =>
      cases other with
      | next => cases chain <;> rfl
      | into => exact absurd rfl hne

theorem tag_putBack (changed : Chain) : (chain.putBack move changed).tag = chain.tag := by
  cases move with
  | next => cases chain <;> rfl
  | into => exact tag_setPayload _ chain

theorem cellCount_putBack (hpart : chain.move move = .ok part) {changed : Chain}
    (hcount : changed.cellCount = part.cellCount) :
    (chain.putBack move changed).cellCount = chain.cellCount := by
  cases move with
  | next =>
      cases chain with
      | last tag payload => rfl
      | cons tag payload rest =>
          cases hpart
          simp only [putBack, cellCount, hcount]
  | into => exact cellCount_setPayload _ chain

theorem payload_putBack_next (changed : Chain) :
    (chain.putBack .next changed).payload = chain.payload := by
  cases chain <;> rfl

/-- The payload of a cell and what comes after the cell are independent. -/
theorem move_next_setPayload (payload : Payload) (chain : Chain) :
    (chain.setPayload payload).move .next = chain.move .next := by
  cases chain <;> rfl

theorem putBack_next_setPayload (payload : Payload) (chain changed : Chain) :
    (chain.setPayload payload).putBack .next changed =
      (chain.putBack .next changed).setPayload payload := by
  cases chain <;> rfl

end Moves

/-! ## Moves in a row -/

def walk : List Move → Chain → Except PathError Chain
  | [], chain => .ok chain
  | move :: moves, chain => (chain.move move).bind (walk moves)

/-- Changes the cell that some moves lead to, if there is one. -/
def changeAfter (change : Chain → Chain) : List Move → Chain → Chain
  | [], chain => change chain
  | move :: moves, chain => match chain.move move with
    | .ok part => chain.putBack move (changeAfter change moves part)
    | .error _ => chain

section Rows

variable {chain cell part : Chain} {move : Move} {moves : List Move}

theorem walk_cons_of_ok (hpart : chain.move move = .ok part) (moves : List Move) :
    chain.walk (move :: moves) = part.walk moves := by
  rw [walk, hpart]
  rfl

theorem walk_cons_of_error {error : PathError} (herror : chain.move move = .error error)
    (moves : List Move) : chain.walk (move :: moves) = .error error := by
  rw [walk, herror]
  rfl

theorem walk_append (place rest : List Move) (chain : Chain) :
    chain.walk (place ++ rest) = (chain.walk place).bind (walk rest) := by
  induction place generalizing chain with
  | nil => rfl
  | cons move place ih =>
      cases hmove : chain.move move with
      | error error =>
          rw [List.cons_append, walk_cons_of_error hmove, walk_cons_of_error hmove]
          rfl
      | ok part => rw [List.cons_append, walk_cons_of_ok hmove, walk_cons_of_ok hmove, ih]

theorem changeAfter_cons_of_ok (hpart : chain.move move = .ok part) (change : Chain → Chain)
    (moves : List Move) : chain.changeAfter change (move :: moves) =
      chain.putBack move (part.changeAfter change moves) := by
  simp only [changeAfter, hpart]

theorem changeAfter_cons_of_error {error : PathError} (herror : chain.move move = .error error)
    (change : Chain → Chain) (moves : List Move) :
    chain.changeAfter change (move :: moves) = chain := by
  simp only [changeAfter, herror]

/-! ## Changing a cell -/

/-- At every place on the way the change is one of what is there. -/
theorem walk_changeAfter_append (change : Chain → Chain) (place rest : List Move)
    (chain : Chain) : (chain.changeAfter change (place ++ rest)).walk place =
      (chain.walk place).map (changeAfter change rest) := by
  induction place generalizing chain with
  | nil => rfl
  | cons move place ih =>
      cases hmove : chain.move move with
      | error error =>
          rw [List.cons_append, changeAfter_cons_of_error hmove, walk_cons_of_error hmove]
          rfl
      | ok part =>
          rw [List.cons_append, changeAfter_cons_of_ok hmove, walk_cons_of_ok hmove,
            walk_cons_of_ok (move_putBack hmove _), ih]

theorem walk_changeAfter (hcell : chain.walk moves = .ok cell) (change : Chain → Chain) :
    (chain.changeAfter change moves).walk moves = .ok (change cell) := by
  have hthere := chain.walk_changeAfter_append change moves []
  rwa [List.append_nil, hcell] at hthere

theorem changeAfter_congr {first second : Chain → Chain} (hcell : chain.walk moves = .ok cell)
    (hsame : first cell = second cell) :
    chain.changeAfter first moves = chain.changeAfter second moves := by
  induction moves generalizing chain with
  | nil =>
      cases hcell
      exact hsame
  | cons move moves ih =>
      cases hmove : chain.move move with
      | error error => rw [walk_cons_of_error hmove] at hcell; cases hcell
      | ok part =>
          rw [walk_cons_of_ok hmove] at hcell
          rw [changeAfter_cons_of_ok hmove, changeAfter_cons_of_ok hmove, ih hcell]

theorem changeAfter_id (moves : List Move) (chain : Chain) :
    chain.changeAfter id moves = chain := by
  induction moves generalizing chain with
  | nil => rfl
  | cons move moves ih =>
      cases hmove : chain.move move with
      | error error => exact changeAfter_cons_of_error hmove id moves
      | ok part => rw [changeAfter_cons_of_ok hmove, ih, putBack_part hmove]

theorem changeAfter_changeAfter (first second : Chain → Chain) (moves : List Move)
    (chain : Chain) : (chain.changeAfter first moves).changeAfter second moves =
      chain.changeAfter (second ∘ first) moves := by
  induction moves generalizing chain with
  | nil => rfl
  | cons move moves ih =>
      cases hmove : chain.move move with
      | error error => simp only [changeAfter_cons_of_error hmove]
      | ok part =>
          rw [changeAfter_cons_of_ok hmove, changeAfter_cons_of_ok hmove,
            changeAfter_cons_of_ok (move_putBack hmove _), putBack_putBack, ih]

/-- Where two rows begin with different moves, neither change touches what the other one does. -/
theorem changeAfter_comm_of_ne {other : Move} (hne : other ≠ move) (first second : Chain → Chain)
    (moves others : List Move) (chain : Chain) :
    (chain.changeAfter first (move :: moves)).changeAfter second (other :: others) =
      (chain.changeAfter second (other :: others)).changeAfter first (move :: moves) := by
  cases hmove : chain.move move with
  | error error =>
      rw [changeAfter_cons_of_error hmove]
      cases hother : chain.move other with
      | error error => rw [changeAfter_cons_of_error hother, changeAfter_cons_of_error hmove]
      | ok held =>
          have hlater :=
            (move_putBack_of_ne hne.symm chain (held.changeAfter second others)).trans hmove
          rw [changeAfter_cons_of_ok hother, changeAfter_cons_of_error hlater]
  | ok part =>
      have hkept := move_putBack_of_ne hne chain (part.changeAfter first moves)
      rw [changeAfter_cons_of_ok hmove]
      cases hother : chain.move other with
      | error error =>
          rw [changeAfter_cons_of_error hother, changeAfter_cons_of_ok hmove,
            changeAfter_cons_of_error (hkept.trans hother)]
      | ok held =>
          have hlater :=
            (move_putBack_of_ne hne.symm chain (held.changeAfter second others)).trans hmove
          rw [changeAfter_cons_of_ok hother, changeAfter_cons_of_ok hlater,
            changeAfter_cons_of_ok (hkept.trans hother), putBack_comm hne]

end Rows

/-! ## Paths -/

theorem walk_along (count : Nat) (moves : List Move) (chain : Chain) :
    chain.walk (List.replicate count .next ++ moves) = match chain.drop? count with
      | some part => part.walk moves
      | none => .error .pastEnd := by
  induction count generalizing chain with
  | zero => rfl
  | succ count ih =>
      cases chain with
      | last tag payload => rfl
      | cons tag payload rest => exact ih rest

theorem follow_eq_walk (path : Path) (chain : Chain) :
    chain.follow path = chain.walk path.moves := by
  induction path generalizing chain with
  | nil => rfl
  | cons step path ih =>
      cases step with
      | along count =>
          rw [Path.moves_cons, Step.moves, walk_along, follow, Chain.step]
          cases chain.drop? count with
          | none => rfl
          | some part => exact ih part
      | into =>
          rw [Path.moves_cons, Step.moves, List.singleton_append, walk, follow,
            Chain.step, Chain.move]
          cases chain.payload with
          | missing => rfl
          | leaf address => rfl
          | nested inner => exact ih inner

/-- Editing at the end of a path is changing the cell there, or fails as following it does. -/
theorem editAt_eq (change : Chain → Chain) (path : Path) (chain : Chain) :
    chain.editAt change path =
      (chain.walk path.moves).map fun _ => chain.changeAfter change path.moves := by
  induction path generalizing chain with
  | nil => rfl
  | cons step path ih =>
      cases step with
      | along count =>
          rw [editAt, Path.moves_cons, Step.moves]
          induction count generalizing chain with
          | zero => exact ih chain
          | succ count ihCount =>
              cases chain with
              | last tag payload => rfl
              | cons tag payload rest =>
                  rw [editAfter, ihCount rest, List.replicate_succ, List.cons_append,
                    walk_cons_of_ok rfl, changeAfter_cons_of_ok rfl]
                  cases rest.walk _ <;> rfl
      | into =>
          rw [editAt, Path.moves_cons, Step.moves, List.singleton_append]
          cases hpayload : chain.payload with
          | missing => simp only [walk, Chain.move, hpayload]; rfl
          | leaf address => simp only [walk, Chain.move, hpayload]; rfl
          | nested inner =>
              have hinner := move_into_eq_ok_iff.mpr hpayload
              rw [walk_cons_of_ok hinner, changeAfter_cons_of_ok hinner]
              simp only [ih]
              cases inner.walk _ <;> rfl

end Chain

end TaggedExpr
