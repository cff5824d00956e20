import TaggedExpr.Chain
import TaggedExpr.Copy.Duplicate
import TaggedExpr.Render.Basic
import TaggedExpr.Stock
import TaggedExpr.Tag

/-! # The state of a session

Variables hold tags and payloads. A command that fails keeps what it had done before, so a failure
carries the state along.
-/

namespace TaggedExpr

inductive Session.Fault where
  | badInput
  | noTag
  | noVariable
  | noPath
  | notCell
  | notLeaf
  | emptyChain
  | immutable
  | panic (message : String)
  | uncopied (error : CopyError)
deriving DecidableEq, Repr

inductive Session.Binding where
  | tag (shared : SharedTag)
  | payload (payload : Payload)

/-- Variables, leaves and the tag map; the number of the next tag; the leaves in the order in
which they were first shown; and what the command in progress has recorded. -/
structure Session where
  store : Store := .empty
  nextTag : Nat := Stock.tags.length
  bindings : List (String × Session.Binding) := []
  map : TagMap := .empty
  seen : Array Address := #[]
  log : List LogRecord := []

namespace Session

/-- A part of a command. It may fail, and its effects up to there remain. -/
abbrev Action := EStateM Fault Session

namespace Fault

/-- A tag needs a name. -/
def unnamedTag : Fault := .panic "Tag name must be non-empty"

/-- A text was wanted whole, but some leaf did not display in full. -/
def brokenText : Fault := .panic "a Display implementation returned an error unexpectedly: Error"

/-- A text was laid out in a field, but some leaf did not display in full. -/
def brokenLayout : Fault :=
  .panic ("a formatting trait implementation returned an error when the underlying stream " ++
    "did not: Error")

/-- A field was wanted that goes beyond its limits. -/
def excessiveField : Fault := .panic "Formatting argument out of range"

/-- A path led nowhere. -/
def ofPathError : PathError → Fault
  | .pastEnd => .noPath
  | .notNested => .notCell

end Fault

/-- A part that could not be read is a fault where it is needed. -/
def require (part : Option α) : Action α :=
  match part with
  | some value => pure value
  | none => throw .badInput

/-! ## Variables -/

/-- Stores something in a variable, in place of what was there. -/
def assign (variableName : String) (binding : Binding) : Action Unit :=
  modify fun session =>
    { session with
      bindings := (variableName, binding) :: session.bindings.filter (·.1 != variableName) }

def unassign (variableName : String) : Action Unit :=
  modify fun session =>
    { session with bindings := session.bindings.filter (·.1 != variableName) }

def heldTag (variableName : String) : Action SharedTag := do
  match (← get).bindings.lookup variableName with
  | some (.tag shared) => pure shared
  | _ => throw .noTag

def held (variableName : String) : Action Payload := do
  match (← get).bindings.lookup variableName with
  | some (.payload payload) => pure payload
  | _ => throw .noVariable

/-- The payload in a variable. Whatever was in the variable is gone afterwards. -/
def takeOut (variableName : String) : Action Payload := do
  let binding? := (← get).bindings.lookup variableName
  unassign variableName
  match binding? with
  | some (.payload payload) => pure payload
  | _ => throw .noVariable

def heldChain (variableName : String) : Action Chain := do
  match ← held variableName with
  | .nested chain => pure chain
  | _ => throw .notCell

/-! ## The store -/

/-- Runs something that needs the store and may put leaves there. -/
def withStore (change : Store → α × Store) : Action α :=
  modifyGet fun session =>
    let (value, store) := change session.store
    (value, { session with store })

/-- Keeps the leaves of a copy and its records. -/
def record (copy : Store → Copied α) : Action α :=
  modifyGet fun session =>
    let copied := copy session.store
    (copied.value, { session with store := copied.store, log := session.log ++ copied.log })

def readAtom (address : Address) : Action Atom := do
  pure ((← get).store.read address)

/-- A number for a new tag. -/
def share (tag : Tag) : Action SharedTag :=
  modifyGet fun session =>
    (⟨session.nextTag, tag⟩, { session with nextTag := session.nextTag + 1 })

end Session

end TaggedExpr
