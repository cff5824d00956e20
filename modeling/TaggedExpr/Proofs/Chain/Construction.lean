import TaggedExpr.Proofs.Chain.Sequence

/-! # Building chains

A chain is built from single cells, or linked from several, and is then worked on at one of its
cells, which adding to the chain moves on to the first of the added cells. What is built stands for
the sequence that comes of the same operations on sequences, where what is added goes to the end,
wherever the cell at hand is.
-/

namespace TaggedExpr

namespace Chain

/-- Links a tail to the last cell. With the chain comes how far the first cell of the tail is from
the first cell of the chain. -/
def attach : Chain → Chain → Chain × Nat
  | .last tag payload, tail => (.cons tag payload tail, 1)
  | .cons tag payload rest, tail =>
    let (linked, distance) := rest.attach tail
    (.cons tag payload linked, distance + 1)

theorem attach_eq (chain tail : Chain) :
    chain.attach tail = (chain.append tail, chain.cellCount) := by
  cases chain with
  | last tag payload => rfl
  | cons tag payload rest => rw [attach, attach_eq rest tail, append, cellCount]

end Chain

/-! ## The operations -/

/-- How a chain is built. After each operation one of its cells is at hand, the first one to begin
with: it is what later operations are made at. -/
inductive Construction where
  | new (tag : SharedTag) (payload : Payload)
  | empty (tag : SharedTag)
  | list (cells : List (SharedTag × Payload))
  /-- Goes back to the first cell. -/
  | toHead (before : Construction)
  /-- Goes on to the next cell, if there is one. -/
  | toNext (before : Construction)
  | setPayload (before : Construction) (payload : Payload)
  /-- Adds a cell to the end and takes it up. -/
  | push (before : Construction) (tag : SharedTag) (payload : Payload)
  /-- Adds a chain, built on its own, to the end and takes up its first cell. -/
  | append (before tail : Construction)

/-- What is added to the end of a chain. -/
inductive Addition where
  | cell (tag : SharedTag) (payload : Payload)
  | chain (tail : Construction)

/-- A chain, and how many cells there are before the one at hand. -/
structure Handle where
  chain : Chain
  place : Nat

/-- A sequence of cells, and how many there are before the one at hand. -/
structure Sequence where
  cells : List (SharedTag × Payload)
  place : Nat

/-- The sequence that a chain stands for. -/
def Handle.sequence (handle : Handle) : Sequence := ⟨handle.chain.toList, handle.place⟩

namespace Handle

/-- Makes a change at the cell at hand, and goes on as far as the change says. -/
def change (operation : Chain → Chain × Nat) (handle : Handle) : Option Handle :=
  match handle.chain.drop? handle.place,
    handle.chain.editAfter (fun part => .ok (operation part).1) handle.place with
  | some part, .ok chain => some ⟨chain, handle.place + (operation part).2⟩
  | _, _ => none

def toNext (handle : Handle) : Option Handle :=
  match handle.chain.drop? (handle.place + 1) with
  | some _ => some { handle with place := handle.place + 1 }
  | none => none

def setPayload (payload : Payload) : Handle → Option Handle :=
  change fun part => (part.setPayload payload, 0)

def append (tail : Chain) : Handle → Option Handle := change (·.attach tail)

end Handle

namespace Sequence

def toNext (sequence : Sequence) : Option Sequence :=
  if sequence.place + 1 < sequence.cells.length then
    some { sequence with place := sequence.place + 1 }
  else none

def setPayload (payload : Payload) (sequence : Sequence) : Sequence :=
  { sequence with cells := sequence.cells.modify sequence.place fun cell => (cell.1, payload) }

def append (tail : List (SharedTag × Payload)) (sequence : Sequence) : Sequence :=
  ⟨sequence.cells ++ tail, sequence.cells.length⟩

end Sequence

namespace Construction

/-- The construction of a chain. It breaks off at a list of no cells and past the last cell. -/
def run : Construction → Option Handle
  | .new tag payload => some ⟨.last tag payload, 0⟩
  | .empty tag => some ⟨.last tag .missing, 0⟩
  | .list cells => (Chain.link cells).map (⟨·, 0⟩)
  | .toHead before => before.run.map fun handle => { handle with place := 0 }
  | .toNext before => before.run.bind Handle.toNext
  | .setPayload before payload => before.run.bind (Handle.setPayload payload)
  | .push before tag payload => before.run.bind (Handle.append (.last tag payload))
  | .append before tail =>
    before.run.bind fun handle => tail.run.bind fun added => handle.append added.chain

/-- What a construction comes to for sequences. -/
def sequence : Construction → Option Sequence
  | .new tag payload => some ⟨[(tag, payload)], 0⟩
  | .empty tag => some ⟨[(tag, .missing)], 0⟩
  | .list cells => if cells = [] then none else some ⟨cells, 0⟩
  | .toHead before => before.sequence.map fun sequence => { sequence with place := 0 }
  | .toNext before => before.sequence.bind Sequence.toNext
  | .setPayload before payload => before.sequence.map (Sequence.setPayload payload)
  | .push before tag payload => before.sequence.map (Sequence.append [(tag, payload)])
  | .append before tail =>
    before.sequence.bind fun sequence => tail.sequence.map fun added => sequence.append added.cells

def add (before : Construction) : Addition → Construction
  | .cell tag payload => before.push tag payload
  | .chain tail => before.append tail

/-- Adds one thing after the other, each at the cell that was taken up before. -/
def grow (before : Construction) (additions : List Addition) : Construction :=
  additions.foldl add before

end Construction

namespace Addition

def run : Addition → Option Chain
  | .cell tag payload => some (.last tag payload)
  | .chain tail => tail.run.map (·.chain)

def cells : Addition → Option (List (SharedTag × Payload))
  | .cell tag payload => some [(tag, payload)]
  | .chain tail => tail.sequence.map (·.cells)

end Addition

/-! ## One operation on both sides -/

namespace Handle

variable {handle : Handle}

theorem sequence_toNext (handle : Handle) :
    handle.toNext.map Handle.sequence = handle.sequence.toNext := by
  have hlist := handle.chain.toList_drop? (handle.place + 1)
  simp only [toNext, Sequence.toNext, sequence, Chain.length_toList]
  by_cases hnext : handle.place + 1 < handle.chain.cellCount
  · obtain ⟨part, hpart, _⟩ := Chain.exists_drop?_of_lt hnext
    rw [hpart, if_pos hnext]
    rfl
  · rw [if_neg hnext, Option.map_eq_none_iff] at hlist
    rw [hlist, if_neg hnext]
    rfl

theorem exists_change_eq {part : Chain} (hpart : handle.chain.drop? handle.place = some part)
    (operation : Chain → Chain × Nat) :
    ∃ chain, handle.change operation = some ⟨chain, handle.place + (operation part).2⟩ ∧
      chain.toList = handle.chain.toList.take handle.place ++ (operation part).1.toList := by
  obtain ⟨chain, hedit, hlist⟩ := Chain.exists_editAfter_eq_ok hpart fun part => (operation part).1
  refine ⟨chain, ?_, hlist⟩
  simp only [change, hpart, hedit]

/-- A chain is added after the last cell, and its first cell is where the sequence ended before. -/
theorem sequence_append (hplace : handle.place < handle.chain.cellCount) (tail : Chain) :
    (handle.append tail).map Handle.sequence = some (handle.sequence.append tail.toList) := by
  obtain ⟨part, hpart, hrest⟩ := Chain.exists_drop?_of_lt hplace
  obtain ⟨chain, hchange, hlist⟩ := exists_change_eq hpart (·.attach tail)
  -- From the cell at hand it is as far to the end as there are cells left.
  have hcount : part.cellCount = handle.chain.cellCount - handle.place := by
    rw [← Chain.length_toList, hrest, List.length_drop, Chain.length_toList]
  rw [Chain.attach_eq, Chain.toList_append, hrest, ← List.append_assoc,
    List.take_append_drop] at hlist
  rw [append, hchange, Chain.attach_eq]
  simp only [Option.map_some, sequence, Sequence.append, hlist, Chain.length_toList]
  congr 2
  omega

theorem sequence_setPayload (hplace : handle.place < handle.chain.cellCount)
    (payload : Payload) : (handle.setPayload payload).map Handle.sequence =
      some (handle.sequence.setPayload payload) := by
  obtain ⟨part, hpart, hrest⟩ := Chain.exists_drop?_of_lt hplace
  obtain ⟨chain, hchange, hlist⟩ := exists_change_eq hpart fun part => (part.setPayload payload, 0)
  rw [Chain.toList_setPayload, hrest, ← List.modify_eq_take_drop] at hlist
  rw [setPayload, hchange]
  simp only [Option.map_some, sequence, Sequence.setPayload, hlist, Nat.add_zero]

end Handle

/-! ## Whole constructions -/

namespace Construction

/-- There always is a cell at hand. -/
theorem place_lt_of_sequence_eq {construction : Construction} {sequence : Sequence}
    (hsequence : construction.sequence = some sequence) :
    sequence.place < sequence.cells.length := by
  induction construction generalizing sequence with
  | new tag payload =>
      cases hsequence
      exact Nat.one_pos
  | empty tag =>
      cases hsequence
      exact Nat.one_pos
  | list cells =>
      simp only [Construction.sequence] at hsequence
      split at hsequence
      next => cases hsequence
      next hcells =>
        cases hsequence
        exact List.length_pos_iff.mpr hcells
  | toHead before ih =>
      obtain ⟨earlier, hearlier, rfl⟩ := Option.map_eq_some_iff.mp hsequence
      have hlt := ih hearlier
      exact Nat.zero_lt_of_lt hlt
  | toNext before ih =>
      obtain ⟨earlier, hearlier, hnext⟩ := Option.bind_eq_some_iff.mp hsequence
      simp only [Sequence.toNext] at hnext
      split at hnext
      next hlt =>
        cases hnext
        exact hlt
      next => cases hnext
  | setPayload before payload ih =>
      obtain ⟨earlier, hearlier, rfl⟩ := Option.map_eq_some_iff.mp hsequence
      simpa [Sequence.setPayload] using ih hearlier
  | push before tag payload ih =>
      obtain ⟨earlier, hearlier, rfl⟩ := Option.map_eq_some_iff.mp hsequence
      simp [Sequence.append]
  | append before tail ih ihTail =>
      obtain ⟨earlier, hearlier, hadded⟩ := Option.bind_eq_some_iff.mp hsequence
      obtain ⟨added, htail, rfl⟩ := Option.map_eq_some_iff.mp hadded
      have hpos := ihTail htail
      simp only [Sequence.append, List.length_append]
      omega

theorem place_lt_of_map_run_eq {construction : Construction} {handle : Handle}
    (hmap : construction.run.map Handle.sequence = construction.sequence)
    (hrun : construction.run = some handle) : handle.place < handle.chain.cellCount := by
  rw [hrun] at hmap
  have hlt := place_lt_of_sequence_eq hmap.symm
  rwa [Handle.sequence, Chain.length_toList] at hlt

/-- What is built stands for the sequence that the construction comes to. -/
theorem map_run (construction : Construction) :
    construction.run.map Handle.sequence = construction.sequence := by
  induction construction with
  | new tag payload => rfl
  | empty tag => rfl
  | list cells =>
      rw [run, Chain.link_eq_ofList?, Construction.sequence]
      cases cells with
      | nil => rfl
      | cons cell cells => simp [Chain.ofList?, Handle.sequence]
  | toHead before ih =>
      rw [run, Construction.sequence, ← ih, Option.map_map, Option.map_map]
      rfl
  | toNext before ih =>
      rw [run, Construction.sequence, ← ih]
      cases before.run with
      | none => rfl
      | some handle => exact handle.sequence_toNext
  | setPayload before payload ih =>
      rw [run, Construction.sequence, ← ih]
      cases hbefore : before.run with
      | none => rfl
      | some handle =>
          exact Handle.sequence_setPayload (place_lt_of_map_run_eq ih hbefore) payload
  | push before tag payload ih =>
      rw [run, Construction.sequence, ← ih]
      cases hbefore : before.run with
      | none => rfl
      | some handle => exact Handle.sequence_append (place_lt_of_map_run_eq ih hbefore) _
  | append before tail ih ihTail =>
      rw [run, Construction.sequence, ← ih, ← ihTail]
      cases hbefore : before.run with
      | none => rfl
      | some handle =>
          cases tail.run with
          | none => rfl
          | some added => exact Handle.sequence_append (place_lt_of_map_run_eq ih hbefore) _

theorem place_lt {construction : Construction} {handle : Handle}
    (hrun : construction.run = some handle) : handle.place < handle.chain.cellCount :=
  place_lt_of_map_run_eq construction.map_run hrun

end Construction

/-! ## Adding to a chain -/

theorem Addition.map_run (addition : Addition) :
    addition.run.map Chain.toList = addition.cells := by
  cases addition with
  | cell tag payload => rfl
  | chain tail =>
      rw [run, cells, ← tail.map_run, Option.map_map, Option.map_map]
      rfl

namespace Construction

/-- What is added comes after all cells that there are, and is taken up. -/
theorem sequence_add (before : Construction) (addition : Addition) :
    (before.add addition).sequence =
      before.sequence.bind fun sequence => addition.cells.map sequence.append := by
  cases addition with
  | cell tag payload =>
      rw [add, Construction.sequence]
      cases before.sequence <;> rfl
  | chain tail =>
      simp only [add, Construction.sequence, Addition.cells, Option.map_map]
      rfl

/-- The cells that there are after adding to a chain do not depend on the cell at hand before. -/
theorem cells_add (before : Construction) (addition : Addition) :
    (before.add addition).sequence.map (·.cells) =
      (before.sequence.map (·.cells)).bind fun cells => addition.cells.map (cells ++ ·) := by
  rw [sequence_add]
  cases before.sequence with
  | none => rfl
  | some sequence => cases addition.cells <;> rfl

theorem cells_grow {first second : Construction}
    (hcells : first.sequence.map (·.cells) = second.sequence.map (·.cells))
    (additions : List Addition) :
    (first.grow additions).sequence.map (·.cells) =
      (second.grow additions).sequence.map (·.cells) := by
  induction additions generalizing first second with
  | nil => exact hcells
  | cons addition additions ih =>
      apply ih
      rw [cells_add, cells_add, hcells]

/-- The chain that is built is the same if the cells are. -/
theorem chain_run_eq {first second : Construction}
    (hcells : first.sequence.map (·.cells) = second.sequence.map (·.cells)) :
    first.run.map (·.chain) = second.run.map (·.chain) := by
  rw [← first.map_run, ← second.map_run, Option.map_map, Option.map_map] at hcells
  apply Option.map_injective Chain.toList_injective
  rw [Option.map_map, Option.map_map]
  exact hcells

/-- What is at hand after adding to a chain is what was added, and nothing else. -/
theorem drop?_of_add {before : Construction} {addition : Addition} {added : Chain}
    {handle : Handle} (hadded : addition.run = some added)
    (hrun : (before.add addition).run = some handle) :
    handle.chain.drop? handle.place = some added := by
  have hsequence := (before.add addition).map_run
  rw [hrun, sequence_add, ← addition.map_run, hadded] at hsequence
  obtain ⟨earlier, _, hcells⟩ := Option.bind_eq_some_iff.mp hsequence.symm
  simp only [Option.map_some, Option.some.injEq, Handle.sequence, Sequence.append,
    Sequence.mk.injEq] at hcells
  obtain ⟨part, hpart, hrest⟩ := Chain.exists_drop?_of_lt (place_lt hrun)
  rw [← hcells.1, ← hcells.2, List.drop_left] at hrest
  rw [hpart, Chain.toList_injective hrest]

end Construction

/-- Whatever is built from single and linked cells by adding to the end and replacing payloads, at
whichever cell, stands for the sequence that is built in the same way, and every part of it for its
part of the sequence. What was added last is at hand as it was, and what is added there comes to the
end of the whole, as if it were added at the first cell. -/
theorem construction_stands_for_sequence (construction : Construction) :
    construction.run.map Handle.sequence = construction.sequence ∧
    (∀ handle, construction.run = some handle → handle.place < handle.chain.cellCount ∧
      ∀ count < handle.chain.cellCount, ∃ part, handle.chain.drop? count = some part ∧
        part.ReadsAs (handle.chain.toList.drop count)) ∧
    (∀ addition added handle, addition.run = some added →
      (construction.add addition).run = some handle →
      handle.chain.drop? handle.place = some added) ∧
    ∀ additions, (construction.grow additions).run.map (·.chain) =
      (construction.toHead.grow additions).run.map (·.chain) := by
  refine ⟨construction.map_run, ?_, ?_, ?_⟩
  · intro handle hrun
    refine ⟨Construction.place_lt hrun, ?_⟩
    intro count hcount
    obtain ⟨part, hpart, hrest⟩ := Chain.exists_drop?_of_lt hcount
    refine ⟨part, hpart, ?_⟩
    rw [← hrest]
    exact part.readsAs_toList
  · intro addition added handle hadded hrun
    exact Construction.drop?_of_add hadded hrun
  · intro additions
    apply Construction.chain_run_eq
    apply Construction.cells_grow
    rw [Construction.sequence, Option.map_map]
    rfl

-- A cell pushed where a chain was appended comes after the whole chain, and is at hand then.
example (tag : SharedTag) (first second third : Payload) :
    (((Construction.new tag first).append (.list [(tag, second)])).push tag third).run =
      some ⟨.cons tag first (.cons tag second (.last tag third)), 2⟩ := rfl

end TaggedExpr
