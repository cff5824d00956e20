import TaggedExpr.Copy.Copier
import TaggedExpr.Text.Quoted

/-! # Tags

A tag says how the payload of a cell is written and which copiers are known for its leaves. Tags
are the same key if and only if they have the same name, whatever else they hold.
-/

namespace TaggedExpr

/-- The symbols around a bracketed group. -/
structure Delimiters where
  opening : String
  closing : String
deriving DecidableEq, Repr

/-- A tag defined by data, the tag of quoted strings, or a custom tag. The two symbols of a custom
tag are independent of each other, it may insist on whether it brackets its payload, and it may
answer with any copier for any type. -/
inductive Tag where
  | defined (name : String) (delimiters : Option Delimiters) (copiers : List Copier)
  | quoted
  | custom (name : String) (opening closing : Option String) (forced : Option Bool)
      (copierFor : AtomType → Option Copier)

namespace Tag

/-- A tag defined by data, without copiers. There is none without a name. -/
def define? (name : String) (delimiters : Option Delimiters) : Option Tag :=
  if name = "" then none else some (.defined name delimiters [])

def name : Tag → String
  | .defined name _ _ => name
  | .quoted => "string"
  | .custom name _ _ _ _ => name

def delimiters? : Tag → Option Delimiters
  | .defined _ delimiters _ => delimiters
  | _ => none

def opening? : Tag → Option String
  | .defined _ delimiters _ => delimiters.map (·.opening)
  | .quoted => none
  | .custom _ opening _ _ _ => opening

def closing? : Tag → Option String
  | .defined _ delimiters _ => delimiters.map (·.closing)
  | .quoted => none
  | .custom _ _ closing _ _ => closing

/-- Whether payloads are written as a bracketed group. A tag with an opening symbol does so unless
it insists otherwise. -/
def brackets : Tag → Bool
  | .custom _ opening _ forced _ => forced.getD opening.isSome
  | tag => tag.opening?.isSome

/-- The copier for atoms of a type, if the tag knows one. -/
def copier? : Tag → AtomType → Option Copier
  | .defined _ _ copiers, type => copiers.find? fun copier => copier.accepts == type
  | .quoted, _ => none
  | .custom _ _ _ _ copierFor, type => copierFor type

/-- Adds a copier at the end, in place of an earlier one for the same type. Only a tag defined by
data can hold copiers. -/
def addCopier (copier : Copier) : Tag → Tag
  | .defined name delimiters copiers =>
    .defined name delimiters (copiers.filter (fun old => old.accepts != copier.accepts) ++ [copier])
  | tag => tag

/-- What a hash function is fed for a tag: the name, ended by a byte that no name contains. -/
def hashInput (tag : Tag) : List UInt8 := tag.name.toUTF8.data.toList ++ [0xff]

instance : BEq Tag := ⟨fun first second => first.name == second.name⟩

theorem beq_iff_name_eq {first second : Tag} :
    (first == second) = true ↔ first.name = second.name := by
  show (first.name == second.name) = true ↔ _
  exact beq_iff_eq

end Tag

/-- A tag together with its identity. Sharing a tag keeps the identity; equal names do not make it
equal. -/
structure SharedTag where
  identity : Nat
  tag : Tag

instance : BEq SharedTag := ⟨fun first second => first.tag == second.tag⟩

/-! ## Maps keyed by tags

A finite map from tags to integers. Tags of one name are one key, and the tag that made an entry
stays its key when the value is replaced.
-/

/-- Entries in the order in which they were made, no two of one name. -/
structure TagMap where
  entries : List (SharedTag × Int64) := []

namespace TagMap

def empty : TagMap := {}

def get? (map : TagMap) (key : SharedTag) : Option Int64 :=
  (map.entries.find? fun entry => entry.1 == key).map (·.2)

/-- Replaces the value of a key, or makes an entry for it. -/
def insert (map : TagMap) (key : SharedTag) (value : Int64) : TagMap :=
  if map.entries.any fun entry => entry.1 == key then
    ⟨map.entries.map fun entry => if entry.1 == key then (entry.1, value) else entry⟩
  else ⟨map.entries ++ [(key, value)]⟩

def erase (map : TagMap) (key : SharedTag) : TagMap :=
  ⟨map.entries.filter fun entry => !(entry.1 == key)⟩

/-- The entries by the names of their keys, in the order of code points. -/
def sorted (map : TagMap) : List (SharedTag × Int64) :=
  map.entries.mergeSort fun first second => first.1.tag.name ≤ second.1.tag.name

end TagMap

/-! ## Tags for a diagnosis

All that a tag holds, in the notation of records.
-/

section Describe

open Text

/-- Fields of a record, with their names. -/
def describeRecord (name : String) (fields : List (String × String)) : String :=
  name ++ " \x7b " ++
    ", ".intercalate (fields.map fun (label, text) => label ++ ": " ++ text) ++ " \x7d"

/-- Something that may be missing. -/
def describeOption : Option String → String
  | none => "None"
  | some text => "Some(" ++ text ++ ")"

def Delimiters.describe (delimiters : Delimiters) : String :=
  describeRecord "Delimiters"
    [("open", quoted delimiters.opening), ("close", quoted delimiters.closing)]

def Copier.describe (copier : Copier) : String :=
  "CopyConstructor(" ++ quoted copier.accepts.name ++ ")"

def CopyError.describe : CopyError → String
  | .unsupported => "Unsupported"
  | .typeMismatch expected found =>
    describeRecord "TypeMismatch" [("expected", quoted expected), ("found", quoted found)]
  | .failed message => "Failed(" ++ quoted message ++ ")"

def Tag.describe : Tag → String
  | .defined name delimiters copiers =>
    describeRecord "Tag" [("name", Text.quoted name),
      ("delimiters", describeOption (delimiters.map (·.describe))),
      ("copiers", "[" ++ ", ".intercalate (copiers.map (·.describe)) ++ "]")]
  | .quoted => "Quoted"
  | .custom name _ _ none _ => "Custom(" ++ Text.quoted name ++ ")"
  | .custom name _ _ (some forced) _ =>
    "Forced(Custom(" ++ Text.quoted name ++ "), " ++ (if forced then "true" else "false") ++ ")"

end Describe

end TaggedExpr
