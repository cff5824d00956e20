import TaggedExpr.Chain

/-! # Stock tags

The tags that expressions are usually built with. Each has an identity of its own, and all others
are numbered after them.
-/

namespace TaggedExpr.Stock

/-- A stock tag defined by data. -/
def named (identity : Nat) (name : String) (delimiters : Option Delimiters) : SharedTag :=
  ⟨identity, .defined name delimiters []⟩

def list : SharedTag := named 0 "list" (some ⟨"(", ")"⟩)

def vector : SharedTag := named 1 "vector" (some ⟨"[", "]"⟩)

/-- Any leaf that has no tag of its own. -/
def atom : SharedTag := named 2 "atom" none

def symbol : SharedTag := named 3 "symbol" none

def number : SharedTag := named 4 "number" none

def boolean : SharedTag := named 5 "boolean" none

/-- A leaf written in quotes. -/
def string : SharedTag := ⟨6, .quoted⟩

/-- All of them, in the order of their identities. -/
def tags : List SharedTag := [list, vector, atom, symbol, number, boolean, string]

def lookup? (name : String) : Option SharedTag := tags.find? fun shared => shared.tag.name == name

/-! ## Building expressions

Single cells for leaves of the usual types, each leaf new in the store, and groups of what was
built before.
-/

def leafCell (tag : SharedTag) (atom : Atom) (store : Store) : Chain × Store :=
  let (address, store) := store.allocate atom
  (.last tag (.leaf address), store)

def symbolCell (name : String) : Store → Chain × Store := leafCell symbol (.symbol name)

def numberCell (value : Int64) : Store → Chain × Store := leafCell number (.int64 value)

/-- A floating-point number has the same tag as an integer. -/
def floatCell (bits : UInt64) : Store → Chain × Store := leafCell number (.float64 bits)

def booleanCell (value : Bool) : Store → Chain × Store := leafCell boolean (.boolean value)

def stringCell (text : String) : Store → Chain × Store := leafCell string (.text .owned text)

def atomCell (value : Atom) : Store → Chain × Store := leafCell atom value

/-- One cell around the cells of all items in order. An item that is a chain of several cells is
spliced, and without items the payload is missing. -/
def group (tag : SharedTag) : List Chain → Chain
  | [] => .last tag .missing
  | first :: others => .last tag (.nested (others.foldl Chain.append first))

def listCell (items : List Chain) : Chain := group list items

def vectorCell (items : List Chain) : Chain := group vector items

end TaggedExpr.Stock
