import TaggedExpr.Render.Sink

/-! # Joining stretches of text

Writing one stretch of text after another is writing a single one: their texts joined, as far as
the first that breaks off, with its ending. This holds of every sink, so what a writer built from
stretches does to a sink with little room is known from what it writes where there is no limit.
-/

namespace TaggedExpr

namespace Shown

/-- A stretch that comes to its end. -/
def whole (text : String) : Shown := ⟨text, .done⟩

/-- One stretch, then another if the first comes to its end. -/
def followedBy (first second : Shown) : Shown :=
  match first.ending with
  | .done => ⟨first.text ++ second.text, second.ending⟩
  | _ => first

/-- Stretches in a row, up to and with the first that breaks off. -/
def joined (pieces : List Shown) : Shown :=
  let before := String.join ((pieces.takeWhile (·.complete)).map (·.text))
  match pieces.find? (!·.complete) with
  | none => ⟨before, .done⟩
  | some broken => ⟨before ++ broken.text, broken.ending⟩

example : joined [whole "a", ⟨"b", .failed⟩, ⟨"c", .panicked⟩] = ⟨"ab", .failed⟩ := by
  decide +kernel

@[simp]
theorem whole_followedBy (text : String) (second : Shown) :
    (whole text).followedBy second = ⟨text ++ second.text, second.ending⟩ := rfl

theorem followedBy_of_ending_ne {first : Shown} (hending : first.ending ≠ .done)
    (second : Shown) : first.followedBy second = first := by
  unfold followedBy
  split
  next hdone => exact absurd hdone hending
  next => rfl

theorem followedBy_assoc (first second third : Shown) :
    (first.followedBy second).followedBy third = first.followedBy (second.followedBy third) := by
  obtain ⟨text, ending⟩ := first
  cases ending with
  | done =>
      obtain ⟨text', ending'⟩ := second
      cases ending' with
      | done => simp [followedBy, String.append_assoc]
      | failed => rfl
      | panicked => rfl
  | failed => rfl
  | panicked => rfl

@[simp]
theorem joined_nil : joined [] = whole "" := rfl

theorem joined_cons (piece : Shown) (pieces : List Shown) :
    joined (piece :: pieces) = piece.followedBy (joined pieces) := by
  obtain ⟨text, ending⟩ := piece
  cases ending with
  | done =>
      have hcomplete : (⟨text, .done⟩ : Shown).complete = true := rfl
      simp only [joined, followedBy, List.takeWhile_cons, List.find?_cons, hcomplete,
        Bool.not_true, if_true, List.map_cons, String.join_cons]
      cases pieces.find? (!·.complete) with
      | none => rfl
      | some broken => simp [String.append_assoc]
  | failed => simp [joined, followedBy, complete]
  | panicked => simp [joined, followedBy, complete]

theorem joined_append (first second : List Shown) :
    joined (first ++ second) = (joined first).followedBy (joined second) := by
  induction first with
  | nil => simp
  | cons piece pieces ih =>
      rw [List.cons_append, joined_cons, joined_cons, ih, followedBy_assoc]

@[simp]
theorem joined_singleton (piece : Shown) : joined [piece] = piece := by
  obtain ⟨text, ending⟩ := piece
  rw [joined_cons]
  cases ending <;> simp [followedBy, whole]

end Shown

namespace Writer

theorem put_unlimited (piece text : String) :
    put piece ⟨text, none⟩ = (.done, ⟨text ++ piece, none⟩) := rfl

theorem put_of_le {piece : String} {room : Nat} (hfits : piece.length ≤ room) (text : String) :
    put piece ⟨text, some room⟩ = (.done, ⟨text ++ piece, some (room - piece.length)⟩) :=
  if_pos hfits

theorem put_of_lt {piece : String} {room : Nat} (hcut : room < piece.length) (text : String) :
    put piece ⟨text, some room⟩ =
      (.failed, ⟨text ++ String.ofList (piece.toList.take room), some 0⟩) :=
  if_neg (Nat.not_le_of_lt hcut)

theorem andThen_of_done {first : Writer} {sink next : Sink} (hfirst : first sink = (.done, next))
    (second : Writer) : first.andThen second sink = second next := by
  simp only [andThen, hfirst]

theorem andThen_of_ne {first : Writer} {sink next : Sink} {outcome : Outcome}
    (hfirst : first sink = (outcome, next)) (hne : outcome ≠ .done) (second : Writer) :
    first.andThen second sink = (outcome, next) := by
  cases outcome with
  | done => exact absurd rfl hne
  | failed => simp only [andThen, hfirst]
  | panicked => simp only [andThen, hfirst]

theorem stop_andThen {outcome : Outcome} (hne : outcome ≠ .done) (second : Writer) :
    (stop outcome).andThen second = stop outcome := by
  funext sink
  exact andThen_of_ne rfl hne second

/-- Writing a text in two parts is writing it at once, wherever the room ends. -/
theorem put_append (first second : String) :
    put (first ++ second) = (put first).andThen (put second) := by
  funext ⟨text, room⟩
  cases room with
  | none =>
      rw [andThen_of_done (put_unlimited first text), put_unlimited, put_unlimited,
        String.append_assoc]
  | some room =>
      have hlength : (first ++ second).length = first.length + second.length :=
        String.length_append first second
      by_cases hfirst : first.length ≤ room
      · rw [andThen_of_done (put_of_le hfirst text)]
        by_cases hsecond : second.length ≤ room - first.length
        · rw [put_of_le (by omega), put_of_le hsecond, String.append_assoc, hlength, Nat.sub_sub]
        · -- The cut is in the second part.
          have hall : first.toList.take room = first.toList := List.take_of_length_le hfirst
          rw [put_of_lt (by omega), put_of_lt (by omega), String.toList_append, List.take_append,
            hall, String.ofList_append, String.ofList_toList, String.append_assoc]
          rfl
      · rw [andThen_of_ne (put_of_lt (by omega) text) nofun, put_of_lt (by omega),
          String.toList_append, List.take_append_of_le_length (Nat.le_of_not_le hfirst)]

theorem put_empty : put "" = skip := by
  funext ⟨text, room⟩
  cases room with
  | none => rw [put_unlimited, String.append_empty]; rfl
  | some room => rw [put_of_le (Nat.zero_le room), String.append_empty]; rfl

theorem put_eq_write (text : String) : put text = (Shown.whole text).write :=
  (andThen_skip (put text)).symm

/-- Ending without writing is writing an empty stretch. -/
theorem stop_eq_write (outcome : Outcome) : stop outcome = (⟨"", outcome⟩ : Shown).write := by
  rw [Shown.write, put_empty, skip_andThen]

end Writer

namespace Shown

open Writer

/-- Writing stretches one after the other is writing the joined stretch. -/
theorem write_followedBy (first second : Shown) :
    (first.followedBy second).write = first.write.andThen second.write := by
  obtain ⟨text, ending⟩ := first
  by_cases hending : ending = .done
  · subst hending
    rw [← whole, ← put_eq_write, whole_followedBy, write, write, put_append, andThen_assoc]
  · rw [followedBy_of_ending_ne hending, write, andThen_assoc, stop_andThen hending]

/-- Where there is no limit, the whole stretch is written and nothing else changes. -/
theorem write_unlimited (shown : Shown) (before : String) :
    shown.write ⟨before, none⟩ = (shown.ending, ⟨before ++ shown.text, none⟩) := rfl

theorem run_write (shown : Shown) : shown.write.run = (shown.ending, shown.text) := by
  simp [Writer.run, write_unlimited]

theorem write_of_le {shown : Shown} {room : Nat} (hfits : shown.text.length ≤ room)
    (before : String) : shown.write ⟨before, some room⟩ =
      (shown.ending, ⟨before ++ shown.text, some (room - shown.text.length)⟩) := by
  rw [write, andThen_of_done (put_of_le hfits before), stop]

/-- A stretch that does not fit is cut, whatever its own ending would have been. -/
theorem write_of_lt {shown : Shown} {room : Nat} (hcut : room < shown.text.length)
    (before : String) : shown.write ⟨before, some room⟩ =
      (.failed, ⟨before ++ String.ofList (shown.text.toList.take room), some 0⟩) := by
  rw [write, andThen_of_ne (put_of_lt hcut before) nofun]

end Shown

end TaggedExpr
