import TaggedExpr.Render.Sink

/-! # Atoms

The contents of the leaves of an expression. Most atoms never change once they are made; counters,
registers and probes can be written to after they have been shared. What a type is that is defined
elsewhere shows in its behaviour only, so its atoms are kept as the answers that they give.
-/

namespace TaggedExpr

/-- How the characters of a text are held. It shows in the name of the type only. -/
inductive TextForm where
  | owned
  | borrowed
  | boxed
deriving DecidableEq, Repr

/-- A type that is defined elsewhere. Two types may have the same name. -/
structure ForeignType where
  key : Nat
  name : String
deriving DecidableEq, Repr

/-- The types that an atom can have. -/
inductive AtomType where
  | int32
  | int64
  | word32
  | word64
  | float32
  | float64
  | boolean
  | character
  | text (form : TextForm)
  | symbol
  | counter
  | register
  | probe
  | foreign (type : ForeignType)
deriving DecidableEq, Repr

namespace AtomType

/-- The types whose atoms never change once they are made. -/
def stock : List AtomType :=
  [.int32, .int64, .word32, .word64, .float32, .float64, .boolean, .character, .text .owned,
    .text .borrowed, .text .boxed, .symbol]

/-- Every type that is not defined elsewhere, once. -/
def all : List AtomType := stock ++ [.counter, .register, .probe]

def label : AtomType → String
  | .int32 => "i32"
  | .int64 => "i64"
  | .word32 => "u32"
  | .word64 => "u64"
  | .float32 => "f32"
  | .float64 => "f64"
  | .boolean => "bool"
  | .character => "char"
  | .text .owned => "String"
  | .text .borrowed => "str"
  | .text .boxed => "Box<str>"
  | .symbol => "Symbol"
  | .counter => "counter"
  | .register => "register"
  | .probe => "probe"
  | .foreign type => type.name

/-- The full name of a type in messages: its label, or its path where it has one. -/
def name : AtomType → String
  | .text .owned => "alloc::string::String"
  | .text .borrowed => "&str"
  | .text .boxed => "alloc::boxed::Box<str>"
  | .symbol => "sexpr_tags::built_in::atoms::Symbol"
  | .counter => "oracle_driver::demo::driver::Counter"
  | .register => "oracle_driver::demo::Register"
  | .probe => "oracle_driver::demo::driver::Probe"
  | type => type.label

def ofLabel? (label : String) : Option AtomType :=
  all.find? fun type => type.label == label

end AtomType

/-- What a probe does when it is asked for a copy of itself. -/
inductive ProbeCopy where
  | cannot
  | same
  | asText
  | fails
  | mismatches
deriving DecidableEq, Repr

/-- How far a probe gets when it writes its text. -/
inductive ProbeDisplay where
  | whole
  | refused
  | brokenOff
deriving DecidableEq, Repr

/-- An atom whose failures can be chosen, to test what is done about them. -/
structure Probe where
  text : String
  copying : ProbeCopy := .cannot
  showing : ProbeDisplay := .whole
deriving DecidableEq, Repr

/-- Where a leaf is kept. Two leaves are the same one if and only if their addresses are equal. -/
@[ext]
structure Address where
  index : Nat
deriving DecidableEq, Repr

/-- Why a way to copy an atom did not give a copy. -/
inductive CopyError where
  | unsupported
  | typeMismatch (expected found : String)
  | failed (message : String)
deriving DecidableEq, Repr

/-- What an atom of a type that is defined elsewhere shows of itself: its type, what it displays,
and what it says for a diagnosis. -/
structure Face where
  type : ForeignType
  shown : Shown
  description : String
deriving DecidableEq, Repr

mutual

/-- The contents of a leaf. Floating-point numbers are kept as their bits, which tells apart all
NaNs. A register is poisoned once a task has failed while holding its lock. -/
inductive Atom where
  | int32 (value : Int32)
  | int64 (value : Int64)
  | word32 (value : UInt32)
  | word64 (value : UInt64)
  | float32 (bits : UInt32)
  | float64 (bits : UInt64)
  | boolean (value : Bool)
  | character (value : Char)
  | text (form : TextForm) (value : String)
  | symbol (name : String)
  | counter (value : Int64)
  | register (value : Int64) (poisoned : Bool)
  | probe (device : Probe)
  | foreign (face : Face) (copying : SelfCopy)

/-- What a way to copy gave: an atom for a leaf of its own, or an existing leaf to share. -/
inductive Replica where
  | fresh (atom : Atom)
  | shared (address : Address)

/-- What an atom answers when it is asked for a copy of itself. -/
inductive SelfCopy where
  | refused (error : CopyError)
  | given (replica : Replica)

end

deriving instance DecidableEq, Repr for Atom, Replica, SelfCopy

instance : Inhabited Atom := ⟨.boolean false⟩

namespace Atom

def type : Atom → AtomType
  | .int32 _ => .int32
  | .int64 _ => .int64
  | .word32 _ => .word32
  | .word64 _ => .word64
  | .float32 _ => .float32
  | .float64 _ => .float64
  | .boolean _ => .boolean
  | .character _ => .character
  | .text form _ => .text form
  | .symbol _ => .symbol
  | .counter _ => .counter
  | .register _ _ => .register
  | .probe _ => .probe
  | .foreign face _ => .foreign face.type

/-- The atom after a register's value has been set. A poisoned register cannot be locked, so it
keeps its value, and so does every other atom. -/
def setRegister (value : Int64) : Atom → Atom
  | .register _ false => .register value false
  | atom => atom

/-- The atom after a task has failed while holding its lock; only registers have one. -/
def poison? : Atom → Option Atom
  | .register value _ => some (.register value true)
  | _ => none

end Atom

end TaggedExpr
