import TaggedExpr.Session.Evaluate

/-! # Answers

What a session answers to a command, before it is encoded.
-/

namespace TaggedExpr

/-! ## Views

What a session shows of a payload. Leaves are numbered in the order in which they are first shown,
so that a reader can tell which of them are the same one.
-/

/-- A payload as it is shown: nothing, a leaf with its number, type and text, or the tag names and
payloads of a chain. -/
inductive Session.View where
  | nothing
  | leaf (number : Nat) (type : AtomType) (shown : Shown)
  | chain (cells : List (String × Session.View))

/-- A payload in full, or the length of its text with both ends of it, and whether the text broke
off because a leaf failed. There is no excerpt of a missing payload. -/
inductive Session.Showing where
  | full (view : Session.View)
  | excerpt (length : Nat) (first last : String) (failed : Bool)
  | nothing

namespace Session

/-- The number of a leaf, and the leaves seen so far with this one among them. -/
def number (address : Address) (seen : Array Address) : Nat × Array Address :=
  match seen.findIdx? (· == address) with
  | some index => (index, seen)
  | none => (seen.size, seen.push address)

end Session

mutual

/-- The cells of a chain as they are shown. -/
def Chain.view (store : Store) :
    Chain → Array Address → List (String × Session.View) × Array Address
  | .last tag payload, seen =>
    let (view, seen) := payload.view store seen
    ([(tag.tag.name, view)], seen)
  | .cons tag payload rest, seen =>
    let (view, seen) := payload.view store seen
    let (views, seen) := rest.view store seen
    ((tag.tag.name, view) :: views, seen)

def Payload.view (store : Store) : Payload → Array Address → Session.View × Array Address
  | .missing, seen => (.nothing, seen)
  | .leaf address, seen =>
    let (number, seen) := Session.number address seen
    (.leaf number (store.read address).type (store.read address).display, seen)
  | .nested chain, seen =>
    let (views, seen) := chain.view store seen
    (.chain views, seen)

end

namespace Session

def view (payload : Payload) : Action View :=
  modifyGet fun session =>
    let (view, seen) := payload.view session.store session.seen
    (view, { session with seen })

/-- The characters of a text at each end that an excerpt keeps. -/
def excerptLength : Nat := 40

/-- Both ends of a text; a short one is shown twice. -/
def excerpt (text : String) (failed : Bool) : Showing :=
  let characters := text.toList
  .excerpt text.length (String.ofList (characters.take excerptLength))
    (String.ofList (characters.drop (text.length - excerptLength))) failed

/-- A text as far as it was written, and whether it broke off. After a panic there is none. -/
def writtenText (written : Outcome × String) : Action (String × Bool) :=
  match written.1 with
  | .done => pure (written.2, false)
  | .failed => pure (written.2, true)
  | .panicked => throw .brokenText

/-- A text that must be whole. -/
def wholeText (written : Outcome × String) : Action String :=
  match written.1 with
  | .done => pure written.2
  | _ => throw .brokenText

/-- Shows a payload, in brief if that is wanted. -/
def showPayload (brief : Bool) (payload : Payload) : Action Showing := do
  if brief then
    if payload.isMissing then pure .nothing
    else
      let (text, failed) ← writtenText (payload.displayIn (← get).store .plain).run
      pure (excerpt text failed)
  else pure (.full (← view payload))

/-! ## Kinds of answers -/

/-- The first cell of a chain: the name of its tag, and the length of the list that it starts. -/
structure Head where
  tagName : String
  length : Nat
  isEmpty : Bool

/-- The head of a chain. -/
def headOf (chain : Chain) : Head := ⟨chain.tag.tag.name, chain.length, chain.isEmpty⟩

/-- Two tags beside each other. -/
structure TagPair where
  equal : Bool
  hashes : List UInt8 × List UInt8
  displayed : String × String
  sameDelimiters : Bool
  delimiters : String
  copyEqual : Bool
  copy : String

inductive Answer where
  | nothing
  | tag (tag : Tag)
  | tagPair (pair : TagPair)
  | tagsCompared (equal same hashEqual : Bool)
  | copier (copier : Copier)
  | map (old : Option Int64) (entries : List (SharedTag × Int64))
  | integer (value : Int64)
  | text (text : String) (failed : Bool)
  | shown (showing : Showing)
  | cell (chain : Chain)
  | length (length : Nat) (isEmpty : Bool)
  | added (root : Showing) (new : Option Head)
  | replaced (root old : Showing)
  | overwritten (root : Showing) (done : Bool)
  | duplicatedLeaf (source : View) (copy : Showing)
  | leavesCompared (same sameType : Bool)
  | view (view : View)
  | contents (description : String) (type : AtomType)
  | description (text : String)
  | symbolsCompared (equal : Bool) (order : Ordering) (first description : String)
  | demo (output : String)

/-- The outcome of a command and what was recorded while it was carried out. -/
structure Reply where
  outcome : Except Fault Answer
  log : List LogRecord

/-! ## Putting answers together

How the outcome of a command is shown, and where it is kept.
-/

/-- What a command says about its outcome: the variable that keeps it, if there is one and its name
could be read, and whether it is shown in brief. -/
structure Options where
  target : Option (Option String) := some none
  brief : Bool := false

/-- Keeps an outcome in a variable, if one is named. -/
def Options.keep (options : Options) (binding : Binding) : Action Unit := do
  match ← require options.target with
  | some variableName => assign variableName binding
  | none => pure ()

def Options.showing (options : Options) (payload : Payload) : Action Showing :=
  showPayload options.brief payload

def Options.showAndKeep (options : Options) (payload : Payload) : Action Showing := do
  let showing ← options.showing payload
  options.keep (.payload payload)
  pure showing

/-- Shows the chain at the head of a place. -/
def Options.showRoot (options : Options) : PlaceTerm → Action Showing
  | .malformed => throw .badInput
  | .within variableName _ => do options.showing (← held variableName)

/-- What is in a sink after it was written to. -/
def written (result : Outcome × Sink) : Action (String × Bool) :=
  writtenText (result.1, result.2.text)

/-- A text that was wanted whole. -/
def answerText (written : Outcome × String) : Action Answer := do
  pure (.text (← wholeText written) false)

end Session

end TaggedExpr
