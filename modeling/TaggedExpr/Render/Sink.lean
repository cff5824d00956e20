/-! # Sinks

Text is written to a sink piece by piece. A sink may have room for a limited number of characters:
a piece that is too long is cut and the write fails, and writing stops at the first failure.
-/

namespace TaggedExpr

/-- The text written so far, and how many more characters are taken; no number means no limit. -/
structure Sink where
  text : String := ""
  room : Option Nat := none
deriving DecidableEq, Repr

/-- How writing ended. A failure is reported to the caller; a panic is not. -/
inductive Outcome where
  | done
  | failed
  | panicked
deriving DecidableEq, Repr

/-- A stretch of text, and how writing it ended. After a failure or a panic it is what was written
until then. -/
structure Shown where
  text : String
  ending : Outcome := .done
deriving DecidableEq, Repr

namespace Shown

def complete (shown : Shown) : Bool := shown.ending == .done

end Shown

/-- An action on a sink. -/
abbrev Writer := Sink → Outcome × Sink

namespace Writer

/-- Ends in the given way without writing. -/
def stop (outcome : Outcome) : Writer := fun sink => (outcome, sink)

def skip : Writer := stop .done

def panic : Writer := stop .panicked

/-- Writes one piece. A piece that fills the room exactly is no failure. -/
def put (piece : String) : Writer := fun sink =>
  match sink.room with
  | none => (.done, ⟨sink.text ++ piece, none⟩)
  | some room =>
    if piece.length ≤ room then (.done, ⟨sink.text ++ piece, some (room - piece.length)⟩)
    else (.failed, ⟨sink.text ++ String.ofList (piece.toList.take room), some 0⟩)

/-- One action after another; the second takes place only if the first is done. -/
@[inline]
def andThen (first second : Writer) : Writer := fun sink =>
  match first sink with
  | (.done, sink) => second sink
  | stopped => stopped

/-- What the action writes to an empty sink without a limit. -/
def run (writer : Writer) : Outcome × String :=
  let (outcome, sink) := writer {}
  (outcome, sink.text)

theorem skip_andThen (second : Writer) : skip.andThen second = second := rfl

theorem andThen_skip (first : Writer) : first.andThen skip = first := by
  funext sink
  unfold andThen
  rcases first sink with ⟨_ | _ | _, _⟩ <;> rfl

theorem andThen_assoc (first second third : Writer) :
    (first.andThen second).andThen third = first.andThen (second.andThen third) := by
  funext sink
  unfold andThen
  rcases first sink with ⟨_ | _ | _, _⟩ <;> rfl

end Writer

/-- Writes a stretch of text and ends as it did. -/
def Shown.write (shown : Shown) : Writer :=
  (Writer.put shown.text).andThen (.stop shown.ending)

end TaggedExpr
