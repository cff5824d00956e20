import TaggedExpr.Demo
import TaggedExpr.Session.State
import TaggedExpr.Session.Term

/-! # Evaluating terms

Parts are evaluated in the order in which they are written. New leaves and tags come into being on
the way, and what is taken out of a variable is gone even if a later part fails.
-/

namespace TaggedExpr.Session

/-- The steps of a path up to the first that could not be read. -/
def legible : List (Option Step) → Path
  | some step :: steps => step :: legible steps
  | _ => []

/-- The variable and the path of a place that exists. -/
def PlaceTerm.locate : PlaceTerm → Action (String × Path)
  | .malformed => throw .badInput
  | .within variableName steps => do
    let chain ← heldChain variableName
    match chain.follow (legible steps) with
    | .error error => throw (.ofPathError error)
    | .ok _ =>
      if steps.all Option.isSome then pure (variableName, legible steps) else throw .badInput

/-- The cell at a place, with the cells after it. -/
def PlaceTerm.cell (place : PlaceTerm) : Action Chain := do
  let (variableName, path) ← place.locate
  match (← heldChain variableName).follow path with
  | .ok chain => pure chain
  | .error error => throw (.ofPathError error)

/-- Edits the cell at a place. -/
def PlaceTerm.edit (place : PlaceTerm) (change : Chain → Chain) : Action Unit := do
  let (variableName, path) ← place.locate
  match (← heldChain variableName).editAt change path with
  | .ok chain => assign variableName (.payload (.nested chain))
  | .error error => throw (.ofPathError error)

/-- The leaf that a payload must be. -/
def leafOf : Payload → Action Address
  | .leaf address => pure address
  | _ => throw .notLeaf

def LeafTerm.evaluate : LeafTerm → Action Address
  | .inVariable variableName => do leafOf (← held variableName)
  | .payloadOf place => do leafOf (← place.cell).payload
  | .fresh atom => withStore fun store => store.allocate atom
  | .malformed => throw .badInput

/-- A copier that gives an existing leaf gives that same one every time. Registers cannot be
cloned. -/
def CopierTerm.evaluate : CopierTerm → Action Copier
  | .malformed => throw .badInput
  | .copier type .clone => if type.isCloneable then pure (.cloning type) else throw .badInput
  | .copier type (.give leaf) => do pure (.always type (.ok (.shared (← leaf.evaluate))))
  | .copier type (.refuse error) => pure (.always type (.error error))
  | .copier _ .malformed => throw .badInput

/-- Adds copiers to a tag, one after the other. -/
def addCopiers : List CopierTerm → Tag → Action Tag
  | [], tag => pure tag
  | term :: terms, tag => do
    let copier ← term.evaluate
    addCopiers terms (tag.addCopier copier)

def TagTerm.evaluate : TagTerm → Action SharedTag
  | .inVariable variableName => heldTag variableName
  | .stock name =>
    match Stock.lookup? name with
    | some shared => pure shared
    | none => throw .noTag
  | .defined name delimiters copiers => do
    match Tag.define? name delimiters with
    | none => throw .unnamedTag
    | some tag => share (← addCopiers copiers tag)
  | .custom name opening closing forced =>
    share (.custom name opening closing forced fun _ => none)
  | .malformed => throw .badInput

/-- The types of the leaves that can be written as bare atoms: texts, characters, and the integers
that have no tag of their own. -/
def isBareType : AtomType → Bool
  | .character | .text _ | .int32 | .word32 | .word64 => true
  | _ => false

mutual

def PayloadTerm.evaluate : PayloadTerm → Action Payload
  | .missing => pure .missing
  | .leaf leaf => do pure (.leaf (← leaf.evaluate))
  | .take variableName => takeOut variableName
  | .expression expression => do pure (.nested (← expression.evaluate))
  | .malformed => throw .badInput

def ExpressionTerm.evaluate : ExpressionTerm → Action Chain
  | .list items => do pure (Stock.listCell (← evaluateItems items))
  | .vector items => do pure (Stock.vectorCell (← evaluateItems items))
  | .symbol name => withStore (Stock.symbolCell name)
  | .number value => withStore (Stock.numberCell value)
  | .float bits => withStore (Stock.floatCell bits)
  | .boolean value => withStore (Stock.booleanCell value)
  | .string text => withStore (Stock.stringCell text)
  | .atom atom =>
    if isBareType atom.type then withStore (Stock.atomCell atom) else throw .badInput
  | .cell tag payload => do
    let shared ← tag.evaluate
    pure (.last shared (← payload.evaluate))
  | .empty tag => do pure (.last (← tag.evaluate) .missing)
  | .chain cells => do
    match Chain.ofList? (← evaluateCells cells) with
    | some chain => pure chain
    | none => throw .emptyChain
  | .take variableName => do
    match ← takeOut variableName with
    | .nested chain => pure chain
    | _ => throw .notCell
  | .demo register => do
    let shared ← register.evaluate
    withStore (Demo.expression shared)
  | .malformed => throw .badInput

def evaluateItems : List ExpressionTerm → Action (List Chain)
  | [] => pure []
  | item :: items => do
    let chain ← item.evaluate
    pure (chain :: (← evaluateItems items))

def evaluateCells : List (TagTerm × PayloadTerm) → Action (List (SharedTag × Payload))
  | [] => pure []
  | (tag, payload) :: cells => do
    let shared ← tag.evaluate
    let value ← payload.evaluate
    pure ((shared, value) :: (← evaluateCells cells))

end

def ViewedTerm.evaluate : ViewedTerm → Action Payload
  | .inVariable variableName => held variableName
  | .payloadOf place => do pure (← place.cell).payload
  | .given payload => payload.evaluate

end TaggedExpr.Session
