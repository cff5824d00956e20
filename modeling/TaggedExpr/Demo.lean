import TaggedExpr.Chain
import TaggedExpr.Copy.Duplicate
import TaggedExpr.Render.Basic
import TaggedExpr.Stock

/-! # The demonstration

A small expression with one register shows the difference between a copy and a share: writing
through a deep copy leaves the expression alone, writing through a structural copy does not.
-/

namespace TaggedExpr.Demo

open Stock

/-- The expression `(let [x 1] (print "x =" x r0))`, with its register under the given tag. -/
def expression (register : SharedTag) (store : Store) : Chain × Store :=
  let (register, store) := leafCell register (.register 0 false) store
  let (letName, store) := symbolCell "let" store
  let (bound, store) := symbolCell "x" store
  let (one, store) := numberCell 1 store
  let (printName, store) := symbolCell "print" store
  let (label, store) := stringCell "x =" store
  let (used, store) := symbolCell "x" store
  (listCell [letName, vectorCell [bound, one], listCell [printName, label, used, register]], store)

/-- The colours of the lines, as terminals number them. -/
inductive Colour where
  | green
  | yellow
  | blue
deriving DecidableEq, Repr

def Colour.code : Colour → String
  | .green => "32"
  | .yellow => "33"
  | .blue => "34"

/-- A line of text in a colour, which is reset at its end. -/
def Colour.paint (colour : Colour) (text : String) : String :=
  "\x1b[" ++ colour.code ++ "m" ++ text ++ "\x1b[0m\n"

def shown (store : Store) (chain : Chain) : String := (chain.render store).run.2

def output : String :=
  let (expression, store) := expression ⟨tags.length, .defined "register" none []⟩ .empty
  let copy := expression.duplicate store
  let shared := expression.structuralCopy
  let store := copy.value.setRegisters 42 copy.store
  let written := shared.setRegisters 7 store
  Colour.blue.paint ("original:  " ++ shown store expression) ++
    Colour.green.paint ("duplicate: " ++ shown store copy.value) ++
    Colour.yellow.paint ("after writing through a structural clone: " ++ shown written expression)

end TaggedExpr.Demo
