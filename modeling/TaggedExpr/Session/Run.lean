import TaggedExpr.Session.Command

/-! # Running a session

Carries out commands one after the other. A command that fails does not stop the ones after it,
and what it did before it failed remains.
-/

namespace TaggedExpr.Session

inductive Command where
  | tag (command : TagCommand)
  | text (command : TextCommand)
  | cell (command : CellCommand)
  | copy (command : CopyCommand)
  | leaf (command : LeafCommand)
  | demo
  | unknown

/-- A command and what it says about its outcome. -/
structure Request where
  command : Command
  options : Options := {}

def Request.carryOut (request : Request) : Action Answer :=
  match request.command with
  | .tag command => command.carryOut request.options
  | .text command => command.carryOut request.options
  | .cell command => command.carryOut request.options
  | .copy command => command.carryOut request.options
  | .leaf command => command.carryOut request.options
  | .demo => pure (.demo Demo.output)
  | .unknown => throw .badInput

/-- Carries out one command and collects what was recorded on the way. -/
def reply (request : Request) (session : Session) : Reply × Session :=
  match request.carryOut { session with log := [] } with
  | .ok answer session => (⟨.ok answer, session.log⟩, session)
  | .error fault session => (⟨.error fault, session.log⟩, session)

/-- The replies to a list of commands in a given state. -/
def runFrom (session : Session) : List Request → List Reply
  | [] => []
  | request :: requests =>
    let (answer, session) := reply request session
    answer :: runFrom session requests

/-- The replies to a list of commands, starting with nothing. -/
def run (requests : List Request) : List Reply := runFrom {} requests

end TaggedExpr.Session
