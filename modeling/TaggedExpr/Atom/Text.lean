import TaggedExpr.Atom.Basic
import TaggedExpr.Decimal
import TaggedExpr.Text.Field
import TaggedExpr.Text.Quoted

/-! # The text of an atom

An atom is displayed for a reader, in a field where it takes one, and described for a diagnosis.
Displaying may break off part of the way; describing never does.
-/

namespace TaggedExpr

open Decimal Text

/-- Displayed numbers never have an exponent, and whole numbers no point. -/
def displayStyle : NumberStyle := ⟨false, none⟩

/-- Described numbers always show that they are fractions, and have an exponent below `1e-4` and
from `1e16` on. -/
def describeStyle : NumberStyle := ⟨true, some (-4, 16)⟩

example : displayStyle.layout ⟨1, 16⟩ = "10000000000000000" := by decide +kernel

example : describeStyle.layout ⟨1, 16⟩ = "1e16" := by decide +kernel

example : describeStyle.layout ⟨1, -4⟩ = "0.0001" ∧ describeStyle.layout ⟨1, -5⟩ = "1e-5" := by
  decide +kernel

/-- A floating-point number in a field. The precision counts decimal places of the exact value;
without one, the shortest digits are taken. NaN has no sign. -/
def displayFloat (format : BinaryFormat) (bits : Nat) (field : Field) : String :=
  match format.decode bits with
  | .nan => field.number "" "NaN"
  | .infinite negative => field.number (field.sign negative) "inf"
  | .finite negative mantissa exponent =>
    field.number (field.sign negative) <|
      match field.precision with
      | none => displayStyle.layout (shortest format mantissa exponent)
      | some places => fixedText (inPlaces mantissa exponent places) places

def describeFloat (format : BinaryFormat) (bits : Nat) : String :=
  match format.decode bits with
  | .nan => "NaN"
  | .infinite negative => Field.plain.sign negative ++ "inf"
  | .finite negative mantissa exponent =>
    Field.plain.sign negative ++ describeStyle.layout (shortest format mantissa exponent)

/-- An integer in a field; precision means nothing to it. -/
def displayInteger (value : Int) (field : Field) : String :=
  field.number (field.sign (value < 0)) (digitText value.natAbs)

example : describeFloat .double 1 = "5e-324" ∧ displayFloat .single 0x3dcccccd .plain = "0.1" := by
  decide +kernel

namespace Atom

/-- What the atom displays in a field. Symbols, the atoms that can change and those of types that
are defined elsewhere pay no heed to the field. A poisoned register fails before it writes. -/
def displayIn (field : Field) : Atom → Shown
  | .int32 value => ⟨displayInteger value.toInt field, .done⟩
  | .int64 value => ⟨displayInteger value.toInt field, .done⟩
  | .word32 value => ⟨displayInteger value.toNat field, .done⟩
  | .word64 value => ⟨displayInteger value.toNat field, .done⟩
  | .float32 bits => ⟨displayFloat .single bits.toNat field, .done⟩
  | .float64 bits => ⟨displayFloat .double bits.toNat field, .done⟩
  | .boolean value => ⟨field.word (if value then "true" else "false"), .done⟩
  | .character value => ⟨field.word (String.singleton value), .done⟩
  | .text _ value => ⟨field.word value, .done⟩
  | .symbol name => ⟨name, .done⟩
  | .counter value => ⟨toString value.toInt, .done⟩
  | .register _ true => ⟨"", .failed⟩
  | .register value false => ⟨"r" ++ toString value.toInt, .done⟩
  | .probe device =>
    match device.showing with
    | .whole => ⟨device.text, .done⟩
    | .refused => ⟨"", .failed⟩
    | .brokenOff => ⟨device.text, .failed⟩
  | .foreign face _ => face.shown

def display (atom : Atom) : Shown := atom.displayIn .plain

def describe : Atom → String
  | .int32 value => toString value.toInt
  | .int64 value => toString value.toInt
  | .word32 value => toString value.toNat
  | .word64 value => toString value.toNat
  | .float32 bits => describeFloat .single bits.toNat
  | .float64 bits => describeFloat .double bits.toNat
  | .boolean value => if value then "true" else "false"
  | .character value => quotedChar value
  | .text _ value => quoted value
  | .symbol name => "Symbol(" ++ quoted name ++ ")"
  | .counter value => "Counter(" ++ toString value.toInt ++ ")"
  | .register value poisoned =>
    "Register(Mutex \x7b data: " ++ toString value.toInt ++ ", poisoned: " ++
      (if poisoned then "true" else "false") ++ ", .. \x7d)"
  | .probe device => "Probe(" ++ quoted device.text ++ ")"
  | .foreign face _ => face.description

end Atom

end TaggedExpr
