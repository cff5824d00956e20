import Mathlib.Tactic.SplitIfs
import TaggedExpr.Atom.Literal
import TaggedExpr.Text.Quoted

/-! # Reading escapes

A character in a quoted text is written as itself, by a letter after a backslash, or by its code
point in hexadecimal. Each of these forms can be read back, which is all that is needed of them: it
does not matter which characters are thought to have a visible form.
-/

namespace TaggedExpr

/-! ## Hexadecimal digits -/

theorem digitValue?_digitChar {n : Nat} (hn : n < 16) : digitValue? 16 n.digitChar = some n := by
  decide +revert

theorem readDigits?_append_singleton {base : Nat} {digits : List Char} {c : Char} {n d : Nat}
    (hdigits : readDigits? base digits = some n) (hc : digitValue? base c = some d) :
    readDigits? base (digits ++ [c]) = some (base * n + d) := by
  cases digits with
  | nil => cases hdigits
  | cons first digits =>
      simp only [readDigits?, List.cons_append] at hdigits ⊢
      rw [← List.cons_append, List.foldlM_append, hdigits]
      simp [hc]

theorem readDigits?_toDigits (n : Nat) : readDigits? 16 (Nat.toDigits 16 n) = some n := by
  induction n using Nat.base_induction 16 (by decide) with
  | single d hd =>
      rw [Nat.toDigits_of_lt_base hd]
      simp [readDigits?, digitValue?_digitChar hd]
  | digit n d hd hn ih =>
      rw [← Nat.toDigits_append_toDigits (by decide) hn hd, Nat.toDigits_of_lt_base hd]
      exact readDigits?_append_singleton ih (digitValue?_digitChar hd)

/-- The brace that ends a code point is none of its digits. -/
theorem brace_not_mem_toDigits (n : Nat) : '\x7d' ∉ Nat.toDigits 16 n := by
  have hdigit (d : Nat) (hd : d < 16) : '\x7d' ∉ [d.digitChar] := by decide +revert
  induction n using Nat.base_induction 16 (by decide) with
  | single d hd =>
      rw [Nat.toDigits_of_lt_base hd]
      exact hdigit d hd
  | digit n d hd hn ih =>
      rw [← Nat.toDigits_append_toDigits (by decide) hn hd, Nat.toDigits_of_lt_base hd,
        List.mem_append]
      exact not_or.mpr ⟨ih, hdigit d hd⟩

namespace Text

/-! ## The forms of a character -/

/-- What the letter after a backslash stands for. -/
def shortEscape? : Char → Option Char
  | '"' => some '"'
  | '\\' => some '\\'
  | 'n' => some '\n'
  | 'r' => some '\r'
  | 't' => some '\t'
  | '0' => some '\x00'
  | _ => none

/-- The forms that a character may have between double quotes. -/
inductive Form (c : Char) : List Char → Prop where
  | itself (hquote : c ≠ '"') (hbackslash : c ≠ '\\') : Form c [c]
  | short (letter : Char) (hletter : shortEscape? letter = some c) : Form c ['\\', letter]
  | codePoint : Form c (codePointEscape c)

/-- Every character is written in one of its forms. -/
theorem form_escape (c : Char) : Form c (escape '"' c) := by
  have hitself (hmark : ¬ (c = '"' ∨ c = '\\')) : Form c [c] :=
    .itself (fun h => hmark (.inl h)) (fun h => hmark (.inr h))
  unfold escape
  split_ifs with hmark hline hreturn htab hnull hvisible hinvisible
  · rcases hmark with rfl | rfl
    · exact .short '"' rfl
    · exact .short '\\' rfl
  · exact hline ▸ .short 'n' rfl
  · exact hreturn ▸ .short 'r' rfl
  · exact htab ▸ .short 't' rfl
  · exact hnull ▸ .short '0' rfl
  · exact hitself hmark
  · exact .codePoint
  · exact hitself hmark

end Text

end TaggedExpr
