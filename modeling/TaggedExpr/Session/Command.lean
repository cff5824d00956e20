import TaggedExpr.Atom.Literal
import TaggedExpr.Session.Answer

/-! # Commands

What a session can be asked to do, in five families, and how each command is carried out.
-/

namespace TaggedExpr.Session

/-! ## Commands on tags

Looking at tags, comparing them, and using them as keys of the session's map. A part that is
missing in the command is one that could not be read.
-/

inductive TagCommand where
  | info (tag : TagTerm)
  | pair (first second : TagTerm)
  | compare (first second : TagTerm)
  | lookup (name : Option String)
  | copierFor (tag : TagTerm) (type : Option AtomType)
  | mapInsert (tag : TagTerm) (value : Option Int64)
  | mapErase (tag : TagTerm)
  | mapGet (tag : TagTerm)

/-- A new tag defined by data, not one that is shared already. -/
def TagTerm.evaluateDefinition : TagTerm → Action Tag
  | .defined name delimiters copiers => do
    pure (← (TagTerm.defined name delimiters copiers).evaluate).tag
  | _ => throw .badInput

def pairOf (first second : Tag) : TagPair where
  equal := first == second
  hashes := (first.hashInput, second.hashInput)
  displayed := (first.name, second.name)
  sameDelimiters := first.delimiters? == second.delimiters?
  delimiters := describeOption (first.delimiters?.map (·.describe))
  copyEqual := first == first
  copy := first.describe

/-- Puts another map in place of the session's, and answers what a key had in the old one. -/
def replaceMap (key : SharedTag) (change : TagMap → TagMap) : Action Answer := do
  let map := (← get).map
  modify fun session => { session with map := change map }
  pure (.map (map.get? key) (change map).sorted)

def TagCommand.carryOut (options : Options) : TagCommand → Action Answer
  | .info tag => do
    let shared ← tag.evaluate
    options.keep (.tag shared)
    pure (.tag shared.tag)
  | .pair first second => do
    let first ← first.evaluateDefinition
    pure (.tagPair (pairOf first (← second.evaluateDefinition)))
  | .compare first second => do
    let first ← first.evaluate
    let second ← second.evaluate
    pure (.tagsCompared (first == second) (first.identity == second.identity)
      (first.tag.hashInput == second.tag.hashInput))
  | .lookup name => do
    match Stock.lookup? (← require name) with
    | some shared => pure (.tag shared.tag)
    | none => pure .nothing
  | .copierFor tag type => do
    let shared ← tag.evaluate
    match shared.tag.copier? (← require type) with
    | some copier => pure (.copier copier)
    | none => pure .nothing
  | .mapInsert tag value => do
    let shared ← tag.evaluate
    let value ← require value
    replaceMap shared fun map => map.insert shared value
  | .mapErase tag => do
    let shared ← tag.evaluate
    replaceMap shared fun map => map.erase shared
  | .mapGet tag => do
    let shared ← tag.evaluate
    match (← get).map.get? shared with
    | some value => pure (.integer value)
    | none => pure .nothing

/-! ## Commands for text

Writing payloads and chains to a sink, displaying and describing them, and laying them out in a
field.
-/

section Text

open Text

/-- Something that has a text. -/
inductive Subject where
  | tag (tag : TagTerm)
  | cell (place : PlaceTerm)
  | payload (payload : ViewedTerm)

/-- The sink to write to: the text that it holds already, and the room in it if that is limited. -/
structure SinkTerm where
  before : Option String := some ""
  room : Option (Option Nat) := some none

inductive TextCommand where
  | write (tag : TagTerm) (sink : SinkTerm) (payload : ViewedTerm)
  | toText (tag : TagTerm) (payload : ViewedTerm)
  | render (place : PlaceTerm) (sink : SinkTerm)
  | display (subject : Subject)
  | describe (subject : Subject)
  | layOut (subject : Subject) (field : Option Field)

def SinkTerm.evaluate (term : SinkTerm) : Action Sink := do
  let text ← require term.before
  pure ⟨text, ← require term.room⟩

/-- What displays something in a field. A missing payload has no text at all. -/
def displayer : Subject → Action (Option (Field → Outcome × String))
  | .tag tag => do
    let shared ← tag.evaluate
    pure (some fun _ => (.done, shared.tag.name))
  | .cell place => do
    let chain ← place.cell
    let store := (← get).store
    pure (some fun _ => (chain.render store).run)
  | .payload payload => do
    let payload ← payload.evaluate
    let store := (← get).store
    if payload.isMissing then pure none
    else pure (some fun field => (payload.displayIn store field).run)

/-- The description of something; a missing payload has one, too. -/
def described : Subject → Action String
  | .tag tag => do pure (← tag.evaluate).tag.describe
  | .cell place => do
    let chain ← place.cell
    pure (chain.describe (← get).store)
  | .payload payload => do
    let payload ← payload.evaluate
    pure (payload.describe (← get).store)

/-- A text laid out in a field. When a leaf fails, it is the layout that breaks. -/
def laidOut : Outcome × String → Action Answer
  | (.done, text) => pure (.text text false)
  | (.failed, _) => throw .brokenLayout
  | (.panicked, _) => throw .brokenText

def TextCommand.carryOut (options : Options) : TextCommand → Action Answer
  | .write tag sink payload => do
    let shared ← tag.evaluate
    let sink ← sink.evaluate
    let payload ← payload.evaluate
    let (text, failed) ← written (payload.renderUnder (← get).store shared.tag sink)
    pure (.text text failed)
  | .toText tag payload => do
    let shared ← tag.evaluate
    let payload ← payload.evaluate
    answerText (payload.renderUnder (← get).store shared.tag).run
  | .render place sink => do
    let chain ← place.cell
    let sink ← sink.evaluate
    let (text, failed) ← written (chain.render (← get).store sink)
    if options.brief then pure (.shown (excerpt text failed)) else pure (.text text failed)
  | .display subject => do
    match ← displayer subject with
    | some displayIn => answerText (displayIn .plain)
    | none => pure .nothing
  | .describe subject => do pure (.text (← described subject) false)
  | .layOut subject field => do
    match ← displayer subject with
    | some displayIn =>
      let field ← require field
      if field.isWithinLimit then laidOut (displayIn field) else throw .excessiveField
    | none => pure .nothing

end Text

/-! ## Commands on cells

Building chains, looking at them, and editing them in their variables.
-/

inductive CellCommand where
  | define (payload : PayloadTerm)
  | view (payload : ViewedTerm)
  | info (place : PlaceTerm)
  | length (place : PlaceTerm)
  | push (tag : TagTerm) (payload : PayloadTerm) (place : PlaceTerm)
  | fill (tag : TagTerm) (times : Option Nat) (payload : PayloadTerm) (place : PlaceTerm)
  | append (tail : ExpressionTerm) (place : PlaceTerm)
  | wrap (tag : TagTerm) (variableName : Option String) (times : Option Nat)
  | setPayload (payload : PayloadTerm) (place : PlaceTerm)
  | overwritePayload (payload : PayloadTerm) (place : PlaceTerm)
  | drop (variableName : Option String)

/-- Adds a tail to the chain at a place, and answers the head of what was added. -/
def appendAt (place : PlaceTerm) (tail : Chain) : Action Head := do
  place.edit (·.append tail)
  pure (headOf tail)

/-- Pushes a cell a number of times with a payload built anew each time, and answers the head of
the last. -/
def fillAt (shared : SharedTag) (payload : PayloadTerm) (place : PlaceTerm) :
    Nat → Option Head → Action (Option Head)
  | 0, last => pure last
  | times + 1, _ => do
    let value ← payload.evaluate
    let head ← appendAt place (.last shared value)
    fillAt shared payload place times (some head)

/-- A payload inside a number of cells with a tag, one around the other. -/
def wrapped (shared : SharedTag) (payload : Payload) : Nat → Payload
  | 0 => payload
  | times + 1 => wrapped shared (.nested (.last shared payload)) times

def CellCommand.carryOut (options : Options) : CellCommand → Action Answer
  | .define payload => do pure (.shown (← options.showAndKeep (← payload.evaluate)))
  | .view payload => do pure (.shown (← options.showing (← payload.evaluate)))
  | .info place => do pure (.cell (← place.cell))
  | .length place => do
    let chain ← place.cell
    pure (.length chain.length chain.isEmpty)
  | .push tag payload place => do
    let shared ← tag.evaluate
    let value ← payload.evaluate
    let head ← appendAt place (.last shared value)
    pure (.added (← options.showRoot place) (some head))
  | .fill tag times payload place => do
    let shared ← tag.evaluate
    let head ← fillAt shared payload place (← require times) none
    pure (.added (← options.showRoot place) head)
  | .append tail place => do
    let tail ← tail.evaluate
    let head ← appendAt place tail
    pure (.added (← options.showRoot place) (some head))
  | .wrap tag variableName times => do
    let shared ← tag.evaluate
    let variableName ← require variableName
    let payload ← takeOut variableName
    let payload := wrapped shared payload (← require times)
    let showing ← options.showing payload
    assign variableName (.payload payload)
    pure (.shown showing)
  | .setPayload payload place => do
    let value ← payload.evaluate
    let old := (← place.cell).payload
    place.edit (·.setPayload value)
    let oldShowing ← options.showAndKeep old
    pure (.replaced (← options.showRoot place) oldShowing)
  | .overwritePayload payload place => do
    let value ← payload.evaluate
    if value.isMissing then throw .badInput
    let old := (← place.cell).payload
    place.edit (·.overwritePayload value)
    pure (.overwritten (← options.showRoot place) (!old.isMissing))
  | .drop variableName => do
    discard (takeOut (← require variableName))
    pure .nothing

/-! ## Commands for copies

Copying chains, payloads and single leaves. The source of a payload or of a leaf is shown before it
is copied, so that it has its number before the copy; if it cannot be shown there is no copy.
-/

inductive CopyCommand where
  | duplicate (place : PlaceTerm)
  | structuralCopy (place : PlaceTerm)
  | duplicateUnder (tag : TagTerm) (payload : ViewedTerm)
  | duplicateLeaf (tag : TagTerm) (leaf : LeafTerm)
  | copySelf (leaf : LeafTerm)
  | construct (leaf : LeafTerm) (copier : CopierTerm)

/-- The leaf of a copy of an atom, or why there is none. -/
def answerReplica (options : Options) : Except CopyError Replica → Action Answer
  | .error error => throw (.uncopied error)
  | .ok replica => do
    let address ← withStore fun store => replica.place store
    pure (.shown (← options.showAndKeep (.leaf address)))

def CopyCommand.carryOut (options : Options) : CopyCommand → Action Answer
  | .duplicate place => do
    let chain ← place.cell
    let copy ← record fun store => chain.duplicate store
    pure (.shown (← options.showAndKeep (.nested copy)))
  | .structuralCopy place => do
    let chain ← place.cell
    pure (.shown (← options.showAndKeep (.nested chain.structuralCopy)))
  | .duplicateUnder tag payload => do
    let shared ← tag.evaluate
    let payload ← payload.evaluate
    discard (options.showing payload)
    let copy ← record fun store => payload.duplicateUnder shared.tag store
    pure (.shown (← options.showAndKeep copy))
  | .duplicateLeaf tag leaf => do
    let shared ← tag.evaluate
    let address ← leaf.evaluate
    let source ← view (.leaf address)
    let copy ← record fun store => shared.tag.duplicateLeaf address store
    pure (.duplicatedLeaf source (← options.showAndKeep (.leaf copy)))
  | .copySelf leaf => do
    let address ← leaf.evaluate
    discard (view (.leaf address))
    answerReplica options (← readAtom address).copySelf
  | .construct leaf copier => do
    let address ← leaf.evaluate
    discard (view (.leaf address))
    let copier ← copier.evaluate
    answerReplica options (copier.construct (← readAtom address))

/-! ## Commands on leaves

Comparing leaves, changing those that can change, and looking at their contents as a given type.
-/

inductive LeafCommand where
  | compare (first second : LeafTerm)
  | set (leaf : LeafTerm) (text : Option String)
  | poison (leaf : LeafTerm)
  | setRegisters (place : PlaceTerm) (value : Option Int64)
  | contents (type : Option AtomType) (payload : ViewedTerm)
  | downcast (type : Option AtomType) (leaf : LeafTerm)
  | compareSymbols (first second : Option String)

def writeAndView (address : Address) (atom : Atom) : Action Answer := do
  modify fun session => { session with store := session.store.write address atom }
  pure (.view (← view (.leaf address)))

/-- The contents of a payload that must be a leaf of a type. -/
def contentsOf (type : AtomType) (payload : Payload) : Action Answer := do
  let store := (← get).store
  match payload with
  | .missing => pure .nothing
  | .nested chain => throw (.panic ("Cell(" ++ chain.describe store ++ ") is not a leaf"))
  | .leaf address =>
    let atom := store.read address
    if atom.type = type then pure (.contents atom.describe type)
    else throw (.panic (atom.describe ++ " is not a " ++ type.name))

def LeafCommand.carryOut (options : Options) : LeafCommand → Action Answer
  | .compare first second => do
    let first ← first.evaluate
    let second ← second.evaluate
    let sameType := (← readAtom first).type == (← readAtom second).type
    pure (.leavesCompared (first == second) sameType)
  | .set leaf text => do
    let address ← leaf.evaluate
    match (← readAtom address).set (← require text) with
    | .immutable => throw .immutable
    | .illegible => throw .badInput
    | .changed atom => writeAndView address atom
  | .poison leaf => do
    let address ← leaf.evaluate
    writeAndView address (← require (← readAtom address).poison?)
  | .setRegisters place value => do
    let chain ← place.cell
    let value ← require value
    modify fun session => { session with store := chain.setRegisters value session.store }
    pure (.shown (← options.showRoot place))
  | .contents type payload => do
    let type ← require type
    contentsOf type (← payload.evaluate)
  | .downcast type leaf => do
    let type ← require type
    let atom ← readAtom (← leaf.evaluate)
    if atom.type = type then pure (.description atom.describe) else pure .nothing
  | .compareSymbols first second => do
    let first ← require first
    let second ← require second
    pure (.symbolsCompared (first == second) (Ord.compare first second) first
      (Atom.symbol first).describe)

end TaggedExpr.Session
