import TaggedExpr.Proofs.Render.Pieces

/-! # Rendering into little room

What rendering writes to an empty sink without a limit decides what it does to every other sink. It
only ever adds to the text that is there, and where room is short it adds exactly the characters
that there is room for and fails, wherever in the expression the cut may fall.
-/

namespace TaggedExpr

open Shown

namespace Writer

/-- The writer adds one and the same text to every sink, as far as there is room for it. -/
structure Truncates (writer : Writer) : Prop where
  unlimited : ∀ before, writer ⟨before, none⟩ =
    (writer.run.1, ⟨before ++ writer.run.2, none⟩)
  /-- A text that fits, exactly or with room left, is added whole, and the outcome is the same as
  without a limit. -/
  fits : ∀ before room, writer.run.2.length ≤ room → writer ⟨before, some room⟩ =
    (writer.run.1, ⟨before ++ writer.run.2, some (room - writer.run.2.length)⟩)
  /-- Any other text is cut and fails, even if it would have ended in a panic later on. -/
  cut : ∀ before room, room < writer.run.2.length → writer ⟨before, some room⟩ =
    (.failed, ⟨before ++ String.ofList (writer.run.2.toList.take room), some 0⟩)

theorem truncates_write (shown : Shown) : shown.write.Truncates := by
  have hrun := shown.run_write
  refine ⟨?_, ?_, ?_⟩
  · intro before
    rw [hrun]
    exact write_unlimited shown before
  · intro before room hfits
    rw [hrun] at hfits ⊢
    exact write_of_le hfits before
  · intro before room hcut
    rw [hrun] at hcut ⊢
    exact write_of_lt hcut before

end Writer

/-- Writing a payload under any tag, or rendering a chain, adds to a sink the text that it writes to
an empty one, cut to the room of the sink. -/
theorem render_truncates (store : Store) :
    (∀ (tag : Tag) (payload : Payload), (payload.renderUnder store tag).Truncates) ∧
    ∀ chain : Chain, (chain.render store).Truncates := by
  refine ⟨?_, ?_⟩
  · intro tag payload
    rw [payload.renderUnder_eq_write store tag]
    exact Writer.truncates_write _
  · intro chain
    rw [chain.render_eq_write store]
    exact Writer.truncates_write _

end TaggedExpr
