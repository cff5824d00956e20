import TaggedExpr.Atom.Basic

/-! # Reading atoms

An atom of a given type from its written form. Integers are decimal with an optional sign, and a
sign that is negative is read for signed types only; floating-point numbers are given by their
bits in hexadecimal.
-/

namespace TaggedExpr

/-- The value of a digit in either case, below the given base. -/
def digitValue? (base : Nat) (c : Char) : Option Nat :=
  let value? :=
    if '0' ≤ c ∧ c ≤ '9' then some (c.toNat - '0'.toNat)
    else if 'a' ≤ c ∧ c ≤ 'z' then some (c.toNat - 'a'.toNat + 10)
    else if 'A' ≤ c ∧ c ≤ 'Z' then some (c.toNat - 'A'.toNat + 10)
    else none
  value?.filter (· < base)

/-- The number that a run of digits stands for; there must be at least one. -/
def readDigits? (base : Nat) : List Char → Option Nat
  | [] => none
  | digits => digits.foldlM (fun n c => (digitValue? base c).map (base * n + ·)) 0

/-- A natural number below `limit`, with an optional plus sign. -/
def readNat? (base limit : Nat) (text : String) : Option Nat :=
  let digits := match text.toList with
    | '+' :: rest => rest
    | digits => digits
  (readDigits? base digits).filter (· < limit)

/-- A decimal integer `n` with `-limit ≤ n < limit`. -/
def readInt? (limit : Nat) (text : String) : Option Int :=
  match text.toList with
  | '-' :: rest => ((readDigits? 10 rest).filter (· ≤ limit)).map fun n => -(n : Int)
  | _ => (readNat? 10 limit text).map Int.ofNat

def readInt64? (text : String) : Option Int64 := (readInt? (Int64.size / 2) text).map Int64.ofInt

/-- The bits of a floating-point number of 64 bits. -/
def readBits64? (text : String) : Option UInt64 := (readNat? 16 UInt64.size text).map UInt64.ofNat

/-- An atom of the given type from its written form. A character is a text of one, a probe starts
out without any capability, and a type that is defined elsewhere has no written form. -/
def Atom.read? (type : AtomType) (text : String) : Option Atom :=
  match type with
  | .int32 => (readInt? (Int32.size / 2) text).map fun n => .int32 (Int32.ofInt n)
  | .int64 => (readInt64? text).map .int64
  | .word32 => (readNat? 10 UInt32.size text).map fun n => .word32 (UInt32.ofNat n)
  | .word64 => (readNat? 10 UInt64.size text).map fun n => .word64 (UInt64.ofNat n)
  | .float32 => (readNat? 16 UInt32.size text).map fun n => .float32 (UInt32.ofNat n)
  | .float64 => (readBits64? text).map .float64
  | .boolean => if text = "true" then some (.boolean true)
    else if text = "false" then some (.boolean false) else none
  | .character =>
    match text.toList with
    | [c] => some (.character c)
    | _ => none
  | .text form => some (.text form text)
  | .symbol => some (.symbol text)
  | .counter => (readInt64? text).map .counter
  | .register => (readInt64? text).map fun n => .register n false
  | .probe => some (.probe { text })
  | .foreign _ => none

/-- Writes to an atom that can change: a counter and a register are given a new number, a probe a
new text. -/
inductive Atom.Written where
  | immutable
  | illegible
  | changed (atom : Atom)
deriving DecidableEq, Repr

/-- The atom after it was set to the written form. A poisoned register stays as it was. -/
def Atom.set (text : String) : Atom → Atom.Written
  | .counter _ => (readInt64? text).elim .illegible fun n => .changed (.counter n)
  | .register value poisoned =>
    (readInt64? text).elim .illegible fun n =>
      .changed (Atom.setRegister n (.register value poisoned))
  | .probe device => .changed (.probe { device with text })
  | _ => .immutable

end TaggedExpr
