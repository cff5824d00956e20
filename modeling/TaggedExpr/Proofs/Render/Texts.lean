import TaggedExpr.Proofs.Render.Pieces

/-! # Whole texts

Who asks for the text of something has it written to an empty sink without a limit, and gets none
unless writing comes to its end. Writers in a row have a text if each of them has one, and then it
is theirs joined.
-/

namespace TaggedExpr

/-- The text that is written where there is no limit. There is none after a failure or a panic: what
was written until then is lost. -/
def Writer.text? (writer : Writer) : Option String :=
  match writer.run with
  | (.done, text) => some text
  | _ => none

namespace Shown

theorem text?_write (shown : Shown) :
    shown.write.text? = if shown.ending = .done then some shown.text else none := by
  rw [Writer.text?, run_write]
  cases shown.ending <;> rfl

theorem text?_write_followedBy (first second : Shown) :
    (first.followedBy second).write.text? =
      first.write.text?.bind fun before => second.write.text?.map (before ++ ·) := by
  simp only [text?_write]
  obtain ⟨text, ending⟩ := first
  cases ending with
  | done => by_cases hsecond : second.ending = .done <;> simp [followedBy, hsecond]
  | failed => rfl
  | panicked => rfl

end Shown

namespace Writer

/-- The writer adds one stretch of text to every sink, as far as there is room for it. -/
def Appends (writer : Writer) : Prop := ∃ shown : Shown, writer = shown.write

theorem appends_put (piece : String) : (put piece).Appends := ⟨_, put_eq_write piece⟩

theorem appends_skip : skip.Appends := ⟨_, stop_eq_write .done⟩

theorem Appends.andThen {first second : Writer} (hfirst : first.Appends)
    (hsecond : second.Appends) : (first.andThen second).Appends := by
  obtain ⟨shown, rfl⟩ := hfirst
  obtain ⟨later, rfl⟩ := hsecond
  exact ⟨shown.followedBy later, (shown.write_followedBy later).symm⟩

@[simp]
theorem text?_put (piece : String) : (put piece).text? = some piece := by
  rw [put_eq_write, Shown.text?_write]
  rfl

@[simp]
theorem text?_skip : skip.text? = some "" := rfl

theorem text?_andThen {first second : Writer} (hfirst : first.Appends) (hsecond : second.Appends) :
    (first.andThen second).text? =
      first.text?.bind fun before => second.text?.map (before ++ ·) := by
  obtain ⟨shown, rfl⟩ := hfirst
  obtain ⟨later, rfl⟩ := hsecond
  rw [← Shown.write_followedBy, Shown.text?_write_followedBy]

/-! ## Writers in a row -/

/-- Writers one after the other, with a space between one and the next. -/
def withSpaces : List Writer → Writer
  | [] => skip
  | [writer] => writer
  | writer :: next :: writers =>
    writer.andThen ((put " ").andThen (withSpaces (next :: writers)))

/-- Two writers with a space between them are as good as one. -/
theorem withSpaces_andThen_cons (first second : Writer) (writers : List Writer) :
    withSpaces (first.andThen ((put " ").andThen second) :: writers) =
      withSpaces (first :: second :: writers) := by
  cases writers with
  | nil => rfl
  | cons writer writers => rw [withSpaces, withSpaces, withSpaces, andThen_assoc, andThen_assoc]

theorem withSpaces_map_put (texts : List String) :
    withSpaces (texts.map put) = put (" ".intercalate texts) := by
  induction texts with
  | nil => exact put_empty.symm
  | cons text texts ih =>
      cases texts with
      | nil => rw [String.intercalate_singleton]; rfl
      | cons next texts =>
          rw [String.intercalate_cons_cons, put_append, put_append, andThen_assoc, ← ih]
          rfl

theorem appends_withSpaces {writers : List Writer} (hwriters : ∀ writer ∈ writers, writer.Appends) :
    (withSpaces writers).Appends := by
  induction writers with
  | nil => exact appends_skip
  | cons writer writers ih =>
      have hfirst := hwriters writer List.mem_cons_self
      have hrest := ih fun later hlater => hwriters later (List.mem_cons_of_mem _ hlater)
      cases writers with
      | nil => exact hfirst
      | cons next writers => exact hfirst.andThen ((appends_put " ").andThen hrest)

/-- The text of writers in a row is their texts with spaces between them. -/
theorem text?_withSpaces {writers : List Writer} (hwriters : ∀ writer ∈ writers, writer.Appends) :
    (withSpaces writers).text? = (writers.mapM text?).map (" ".intercalate ·) := by
  induction writers with
  | nil => simp [withSpaces]
  | cons writer writers ih =>
      have hfirst := hwriters writer List.mem_cons_self
      have hlater : ∀ later ∈ writers, later.Appends :=
        fun later hlater => hwriters later (List.mem_cons_of_mem _ hlater)
      cases writers with
      | nil => cases hwriter : writer.text? <;> simp [withSpaces, hwriter]
      | cons next writers =>
          have hrest := appends_withSpaces hlater
          rw [withSpaces, text?_andThen hfirst ((appends_put " ").andThen hrest),
            text?_andThen (appends_put " ") hrest, ih hlater, text?_put]
          simp only [List.mapM_cons]
          cases writer.text? with
          | none => rfl
          | some text =>
              cases next.text? with
              | none => rfl
              | some nextText =>
                  cases writers.mapM text? with
                  | none => rfl
                  | some texts => simp [String.append_assoc]

end Writer

/-! ## Expressions -/

theorem Chain.appends_render (store : Store) (chain : Chain) : (chain.render store).Appends :=
  ⟨_, chain.render_eq_write store⟩

end TaggedExpr
