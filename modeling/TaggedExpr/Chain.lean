import TaggedExpr.Atom.Text
import TaggedExpr.Tag

/-! # Chains of tagged cells

An expression is a chain of cells. Each cell has a tag and a payload, which is missing, a leaf, or
a chain of its own. A chain is never empty: what counts as the empty list is a single cell without
a payload.
-/

namespace TaggedExpr

mutual

/-- A cell and the cells after it, if any. -/
inductive Chain where
  | last (tag : SharedTag) (payload : Payload)
  | cons (tag : SharedTag) (payload : Payload) (rest : Chain)

/-- What a cell holds. A leaf is shared, a nested chain belongs to the cell. -/
inductive Payload where
  | missing
  | leaf (address : Address)
  | nested (chain : Chain)

end

namespace Payload

def chain? : Payload → Option Chain
  | .nested chain => some chain
  | _ => none

def leaf? : Payload → Option Address
  | .leaf address => some address
  | _ => none

def isMissing : Payload → Bool
  | .missing => true
  | _ => false

end Payload

namespace Chain

def tag : Chain → SharedTag
  | .last tag _ => tag
  | .cons tag _ _ => tag

def payload : Chain → Payload
  | .last _ payload => payload
  | .cons _ payload _ => payload

def rest? : Chain → Option Chain
  | .last _ _ => none
  | .cons _ _ rest => some rest

def setPayload (payload : Payload) : Chain → Chain
  | .last tag _ => .last tag payload
  | .cons tag _ rest => .cons tag payload rest

/-- Replaces the payload of the first cell unless it is missing. -/
def overwritePayload (payload : Payload) (chain : Chain) : Chain :=
  if chain.payload.isMissing then chain else chain.setPayload payload

/-- Links a first cell and the cells after it. -/
def ofCells (tag : SharedTag) (payload : Payload) : List (SharedTag × Payload) → Chain
  | [] => .last tag payload
  | (next, held) :: cells => .cons tag payload (ofCells next held cells)

/-- Links cells in order; no cells make no chain. -/
def ofList? : List (SharedTag × Payload) → Option Chain
  | [] => none
  | (tag, payload) :: cells => some (ofCells tag payload cells)

def toList : Chain → List (SharedTag × Payload)
  | .last tag payload => [(tag, payload)]
  | .cons tag payload rest => (tag, payload) :: rest.toList

/-- Every cell with what comes after it, in order. -/
def suffixes : Chain → List Chain
  | .last tag payload => [.last tag payload]
  | .cons tag payload rest => .cons tag payload rest :: rest.suffixes

def cellCount : Chain → Nat
  | .last _ _ => 1
  | .cons _ _ rest => rest.cellCount + 1

/-- Whether the chain stands for the empty list. -/
def isEmpty : Chain → Bool
  | .last _ payload => payload.isMissing
  | .cons _ _ _ => false

/-- The number of items of the list that the chain stands for. -/
def length (chain : Chain) : Nat := if chain.isEmpty then 0 else chain.cellCount

def append : Chain → Chain → Chain
  | .last tag payload, tail => .cons tag payload tail
  | .cons tag payload rest, tail => .cons tag payload (rest.append tail)

def push (chain : Chain) (tag : SharedTag) (payload : Payload) : Chain :=
  chain.append (.last tag payload)

/-- What is left after a number of cells; none if the chain ends before. -/
def drop? : Nat → Chain → Option Chain
  | 0, chain => some chain
  | _ + 1, .last _ _ => none
  | count + 1, .cons _ _ rest => rest.drop? count

@[simp]
theorem toList_append (chain tail : Chain) :
    (chain.append tail).toList = chain.toList ++ tail.toList := by
  cases chain with
  | last tag payload => rfl
  | cons tag payload rest => simp [append, toList, rest.toList_append tail]

@[simp]
theorem length_toList (chain : Chain) : chain.toList.length = chain.cellCount := by
  cases chain with
  | last tag payload => rfl
  | cons tag payload rest => simp [cellCount, toList, rest.length_toList]

@[simp]
theorem toList_ofCells (tag : SharedTag) (payload : Payload) (cells : List (SharedTag × Payload)) :
    (ofCells tag payload cells).toList = (tag, payload) :: cells := by
  induction cells generalizing tag payload with
  | nil => rfl
  | cons cell cells ih => simp [ofCells, toList, ih]

end Chain

/-! ## Paths into a chain

A path leads from the first cell of a chain to another cell, along chains and into nested ones.
The cell at its end is looked at or edited together with the cells after it.
-/

/-- One stretch of a path: over some cells to a later one, or into the nested chain of the cell. -/
inductive Step where
  | along (count : Nat)
  | into
deriving DecidableEq, Repr

abbrev Path := List Step

/-- Why a path leads nowhere. -/
inductive PathError where
  | pastEnd
  | notNested
deriving DecidableEq, Repr

namespace Chain

def step : Step → Chain → Except PathError Chain
  | .along count, chain => match chain.drop? count with
    | some rest => .ok rest
    | none => .error .pastEnd
  | .into, chain => match chain.payload with
    | .nested inner => .ok inner
    | _ => .error .notNested

def follow : Path → Chain → Except PathError Chain
  | [], chain => .ok chain
  | step :: path, chain => match chain.step step with
    | .ok next => next.follow path
    | .error error => .error error

/-- Edits what is left after a number of cells. -/
def editAfter (edit : Chain → Except PathError Chain) : Nat → Chain → Except PathError Chain
  | 0, chain => edit chain
  | _ + 1, .last _ _ => .error .pastEnd
  | count + 1, .cons tag payload rest => (rest.editAfter edit count).map (.cons tag payload)

/-- Edits at the end of a path. -/
def editAt (edit : Chain → Chain) : Path → Chain → Except PathError Chain
  | [], chain => .ok (edit chain)
  | .along count :: path, chain => chain.editAfter (editAt edit path) count
  | .into :: path, chain => match chain.payload with
    | .nested inner => (editAt edit path inner).map fun edited => chain.setPayload (.nested edited)
    | _ => .error .notNested

end Chain

/-! ## Setting registers

Every register in a chain, at any depth, is given a value. Leaves that are no registers, and
poisoned registers, stay as they are.
-/

mutual

/-- Sets the registers in a chain. -/
def Chain.setRegisters (value : Int64) : Chain → Store → Store
  | .last _ payload, store => payload.setRegisters value store
  | .cons _ payload rest, store => rest.setRegisters value (payload.setRegisters value store)

def Payload.setRegisters (value : Int64) : Payload → Store → Store
  | .missing, store => store
  | .leaf address, store => store.modify address (Atom.setRegister value)
  | .nested chain, store => chain.setRegisters value store

end

/-! ## Chains for a diagnosis

The structure of a chain down to its leaves, in the notation of records.
-/

mutual

/-- A cell and the cells after it. -/
def Chain.describe (store : Store) : Chain → String
  | .last tag payload =>
    describeRecord "ConsCell"
      [("tag", tag.tag.describe), ("value", payload.describe store), ("next", "None")]
  | .cons tag payload rest =>
    describeRecord "ConsCell"
      [("tag", tag.tag.describe), ("value", payload.describe store),
        ("next", "Some(" ++ rest.describe store ++ ")")]

def Payload.describe (store : Store) : Payload → String
  | .missing => "None"
  | .leaf address => "Some(Leaf(" ++ (store.read address).describe ++ "))"
  | .nested chain => "Some(Cell(" ++ chain.describe store ++ "))"

end

end TaggedExpr
