/-! # Laying text out in a field

A field says how wide a piece of text should be at least, where the text stands in it and what
fills the rest. Numbers and words follow different rules: only words are cut, and only numbers are
filled with zeros after their sign.
-/

namespace TaggedExpr.Text

inductive Alignment where
  | left
  | centre
  | right
deriving DecidableEq, Repr

/-- A request for layout; all widths count characters. The default asks for nothing. -/
structure Field where
  fill : Char := ' '
  alignment : Option Alignment := none
  /-- Non-negative numbers carry a plus sign. -/
  plus : Bool := false
  /-- Numbers are filled with zeros between the sign and the digits. -/
  zeroFilled : Bool := false
  width : Option Nat := none
  /-- The most characters of a word, or the decimal places of a fraction. -/
  precision : Option Nat := none
deriving DecidableEq, Repr

namespace Field

/-- The field that leaves every text as it is. -/
def plain : Field := {}

def limit : Nat := 65535

def isWithinLimit (field : Field) : Bool :=
  field.width.all (· ≤ limit) && field.precision.all (· ≤ limit)

example : isWithinLimit { width := some 65535 } = true ∧
    isWithinLimit { width := some 65536 } = false := by decide

/-- Fills a text up to a width. The odd character of a centred text goes to its right. -/
def fillTo (fill : Char) (alignment : Alignment) (width : Nat) (text : String) : String :=
  let missing := width - text.length
  let before := match alignment with
    | .left => 0
    | .centre => missing / 2
    | .right => missing
  String.ofList (List.replicate before fill) ++ text ++
    String.ofList (List.replicate (missing - before) fill)

/-- A word: cut to the precision, then filled, by default on its right. -/
def word (field : Field) (text : String) : String :=
  let text := match field.precision with
    | none => text
    | some most => String.ofList (text.toList.take most)
  fillTo field.fill (field.alignment.getD .left) (field.width.getD 0) text

/-- The sign that a number shows. -/
def sign (field : Field) (negative : Bool) : String :=
  if negative then "-" else if field.plus then "+" else ""

/-- A number: its sign and digits filled together, by default on the left, or filled with zeros
between the two. -/
def number (field : Field) (sign digits : String) : String :=
  let width := field.width.getD 0
  if field.zeroFilled then
    sign ++ fillTo '0' .right (width - sign.length) digits
  else
    fillTo field.fill (field.alignment.getD .right) width (sign ++ digits)

example : word { width := some 4, precision := some 2 } "word" = "wo  " := by decide +kernel

example : number { zeroFilled := true, width := some 6 } "-" "42" = "-00042" := by decide +kernel

theorem fillTo_zero (fill : Char) (alignment : Alignment) (text : String) :
    fillTo fill alignment 0 text = text := by
  cases alignment <;> simp [fillTo]

theorem word_plain (text : String) : plain.word text = text := by
  simp [word, plain, fillTo_zero]

end Field

end TaggedExpr.Text
