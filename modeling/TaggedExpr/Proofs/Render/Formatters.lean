import TaggedExpr.Proofs.Render.Texts
import TaggedExpr.Stock

/-! # Formatters

A payload can be asked for its text in several ways: its tag writes it, it displays itself, or the
chain in it does. What displays itself is handed a formatter, which carries a field, and may pass
the formatter on in place of a sink. So the field could reach leaves that it is not meant for. It
does not: whoever writes a leaf inside a chain starts a new formatter without a field.
-/

namespace TaggedExpr

open Text

/-- What something is written to: a sink itself, or a formatter in front of it. -/
inductive Outlet where
  | sink
  | formatter (field : Field)

/-- Something that can be written to any outlet. -/
abbrev Printer := Outlet → Writer

namespace Printer

/-- Writes one piece. A formatter passes it on as it is. -/
def put (piece : String) : Printer := fun _ => .put piece

def skip : Printer := fun _ => .skip

def panic : Printer := fun _ => .panic

/-- One after the other, to the same outlet. -/
def andThen (first second : Printer) : Printer := fun outlet =>
  (first outlet).andThen (second outlet)

/-- The text that is written straight to a sink without a limit. There is none after a failure or a
panic. -/
def toText? (printer : Printer) : Option String := (printer .sink).text?

end Printer

/-- Something that can display itself through a formatter with any field. -/
abbrev Displayer := Field → Writer

namespace Displayer

/-- Written to an outlet in a field: a new formatter takes the place of one that is there. -/
def printedIn (field : Field) (displayer : Displayer) : Printer := fun _ => displayer field

/-- The text in a field. There is none after a failure or a panic. -/
def format? (field : Field) (displayer : Displayer) : Option String :=
  (displayer.printedIn field).toText?

def toText? (displayer : Displayer) : Option String := displayer.format? .plain

end Displayer

/-- How the atoms of all types display themselves. What a type makes of a field is its own
affair. -/
structure AtomDisplay where
  shownIn : Field → Atom → Shown
  shownIn_plain : ∀ atom, shownIn .plain atom = atom.display

namespace AtomDisplay

def standard : AtomDisplay := ⟨Atom.displayIn, fun _ => rfl⟩

def displayer (display : AtomDisplay) (atom : Atom) : Displayer := fun field =>
  (display.shownIn field atom).write

theorem displayer_plain (display : AtomDisplay) (atom : Atom) :
    display.displayer atom .plain = atom.display.write :=
  congrArg Shown.write (display.shownIn_plain atom)

theorem toText?_displayer (display : AtomDisplay) (atom : Atom) :
    (display.displayer atom).toText? = atom.display.write.text? :=
  congrArg Writer.text? (display.displayer_plain atom)

end AtomDisplay

/-! ## Writing to outlets -/

namespace Tag

/-- Writes a leaf, through a formatter of its own. The tag of quoted strings asks for its text
first. -/
def printLeaf (tag : Tag) (leaf : Displayer) : Printer :=
  match tag with
  | .quoted => match leaf.toText? with
    | some text => .put (Text.quoted text)
    | none => .panic
  | _ => leaf.printedIn .plain

/-- Writes something between the symbols of a tag that brackets. -/
def printAround (tag : Tag) (inner : Printer) : Printer :=
  if tag.brackets then
    (Printer.put (tag.opening?.getD "")).andThen (inner.andThen (.put (tag.closing?.getD "")))
  else inner

end Tag

mutual

/-- Writes the cells of a chain, all of them to the outlet that the chain was given. -/
def Chain.print (display : AtomDisplay) (store : Store) : Chain → Printer
  | .last tag payload => payload.printUnder display store tag.tag
  | .cons tag payload rest =>
    (payload.printUnder display store tag.tag).andThen
      ((Printer.put " ").andThen (rest.print display store))

/-- Writes a payload as the given tag has it. -/
def Payload.printUnder (display : AtomDisplay) (store : Store) (tag : Tag) : Payload → Printer
  | .missing => if tag.brackets then tag.printAround .skip else .put missingText
  | .leaf address => tag.printAround (tag.printLeaf (display.displayer (store.read address)))
  | .nested chain => tag.printAround (chain.print display store)

end

/-- A chain displays itself by writing to the formatter. -/
def Chain.displayer (display : AtomDisplay) (store : Store) (chain : Chain) : Displayer :=
  fun field => chain.print display store (.formatter field)

/-- A nested chain is given the formatter to write to, a leaf to display itself through. -/
def Payload.displayer (display : AtomDisplay) (store : Store) : Payload → Displayer
  | .missing => fun _ => .skip
  | .leaf address => display.displayer (store.read address)
  | .nested chain => chain.displayer display store

/-! ## No outlet makes a difference -/

namespace Tag

theorem printLeaf_eq_writeLeaf (tag : Tag) (display : AtomDisplay) (atom : Atom)
    (outlet : Outlet) : tag.printLeaf (display.displayer atom) outlet = tag.writeLeaf atom := by
  cases tag with
  | quoted =>
      -- The text that is asked for first is there just if the leaf displays all of itself.
      simp only [printLeaf, writeLeaf, display.toText?_displayer, Shown.text?_write, Shown.complete,
        beq_iff_eq]
      by_cases hdone : atom.display.ending = .done
      · rw [if_pos hdone, if_pos hdone]
        rfl
      · rw [if_neg hdone, if_neg hdone]
        rfl
  | defined => exact display.displayer_plain atom
  | custom => exact display.displayer_plain atom

theorem printAround_eq (tag : Tag) {inner : Printer} {writer : Writer} {outlet : Outlet}
    (hinner : inner outlet = writer) :
    tag.printAround inner outlet = if tag.brackets then tag.enclose writer else writer := by
  subst hinner
  unfold printAround
  split
  next => rfl
  next => rfl

end Tag

mutual

/-- Writing a chain to an outlet is rendering it, whatever field the outlet carries. -/
theorem Chain.print_eq_render (display : AtomDisplay) (store : Store) (chain : Chain)
    (outlet : Outlet) : chain.print display store outlet = chain.render store := by
  cases chain with
  | last tag payload => exact payload.printUnder_eq_renderUnder display store tag.tag outlet
  | cons tag payload rest =>
      rw [Chain.print, Printer.andThen, Printer.andThen, Chain.render,
        payload.printUnder_eq_renderUnder display store tag.tag outlet,
        rest.print_eq_render display store outlet]
      rfl

theorem Payload.printUnder_eq_renderUnder (display : AtomDisplay) (store : Store) (tag : Tag)
    (payload : Payload) (outlet : Outlet) :
    payload.printUnder display store tag outlet = payload.renderUnder store tag := by
  cases payload with
  | missing =>
      rw [Payload.printUnder, Payload.renderUnder]
      split
      next hbrackets => rw [tag.printAround_eq rfl, if_pos hbrackets]; rfl
      next => rfl
  | leaf address =>
      exact tag.printAround_eq (tag.printLeaf_eq_writeLeaf display (store.read address) outlet)
  | nested chain => exact tag.printAround_eq (chain.print_eq_render display store outlet)

end

/-- A tag that neither brackets nor quotes leaves it to the payload how it is written. -/
theorem Payload.renderUnder_eq_displayIn {payload : Payload} (hpresent : payload.isMissing = false)
    {tag : Tag} (hbrackets : tag.brackets = false) (hplain : tag ≠ .quoted) (store : Store) :
    payload.renderUnder store tag = payload.displayIn store .plain := by
  cases payload with
  | missing => cases hpresent
  | leaf address =>
      rw [renderUnder, hbrackets]
      cases tag with
      | quoted => exact absurd rfl hplain
      | defined => rfl
      | custom => rfl
  | nested chain => rw [renderUnder, hbrackets]; rfl

theorem Payload.displayer_plain (display : AtomDisplay) (store : Store) (payload : Payload) :
    payload.displayer display store .plain = payload.displayIn store .plain := by
  cases payload with
  | missing => rfl
  | leaf address => exact display.displayer_plain (store.read address)
  | nested chain => exact chain.print_eq_render display store (.formatter .plain)

theorem Payload.displayer_standard (store : Store) (payload : Payload) (field : Field) :
    payload.displayer .standard store field = payload.displayIn store field := by
  cases payload with
  | missing => rfl
  | leaf address => rfl
  | nested chain => exact chain.print_eq_render .standard store (.formatter field)

/-! ## All texts of a payload -/

/-- A payload is written by a tag as it displays itself. -/
structure WrittenAsDisplayed (display : AtomDisplay) (store : Store) (payload : Payload)
    (tag : Tag) : Prop where
  /-- Both have the same effect on every sink, with or without a formatter in front of it. -/
  print_eq : ∀ outlet, payload.printUnder display store tag outlet =
    (payload.displayer display store).printedIn .plain outlet
  /-- Either both have a text, and then the same, or neither has one. -/
  toText?_eq : (payload.printUnder display store tag).toText? =
    (payload.displayer display store).toText?
  renderUnder_eq : payload.renderUnder store tag = payload.displayIn store .plain

/-- All ways to write a chain come to the same, in whatever field. -/
structure WrittenAlike (display : AtomDisplay) (store : Store) (chain : Chain) : Prop where
  print_eq : ∀ outlet, chain.print display store outlet = chain.render store
  /-- Among others, under the tag of quoted strings. -/
  printUnder_eq : ∀ tag : Tag, tag.brackets = false → ∀ outlet,
    (Payload.nested chain).printUnder display store tag outlet = chain.render store
  displayer_eq : ∀ field, chain.displayer display store field = chain.render store
  payload_displayer_eq : ∀ field,
    (Payload.nested chain).displayer display store field = chain.render store
  toText?_eq : ∀ tag : Tag, tag.brackets = false →
    ((Payload.nested chain).printUnder display store tag).toText? =
      (chain.displayer display store).toText?
  format?_eq : ∀ field,
    (chain.displayer display store).format? field = (chain.displayer display store).toText? ∧
    ((Payload.nested chain).displayer display store).format? field =
      (chain.displayer display store).toText?

theorem Payload.writtenAsDisplayed {payload : Payload} (hpresent : payload.isMissing = false)
    {tag : Tag} (hbrackets : tag.brackets = false) (hplain : tag ≠ .quoted)
    (display : AtomDisplay) (store : Store) : WrittenAsDisplayed display store payload tag := by
  have hrender := renderUnder_eq_displayIn hpresent hbrackets hplain store
  have hprint : ∀ outlet, payload.printUnder display store tag outlet =
      (payload.displayer display store).printedIn .plain outlet := by
    intro outlet
    rw [payload.printUnder_eq_renderUnder, hrender, ← payload.displayer_plain display]
    rfl
  exact ⟨hprint, congrArg Writer.text? (hprint .sink), hrender⟩

theorem Chain.writtenAlike (display : AtomDisplay) (store : Store) (chain : Chain) :
    WrittenAlike display store chain := by
  have hprint := chain.print_eq_render display store
  have hdisplayer : ∀ field, chain.displayer display store field = chain.render store :=
    fun field => hprint (.formatter field)
  have hunder : ∀ tag : Tag, tag.brackets = false → ∀ outlet,
      (Payload.nested chain).printUnder display store tag outlet = chain.render store := by
    intro tag hbrackets outlet
    rw [Payload.printUnder, tag.printAround_eq (hprint outlet), hbrackets]
    rfl
  have htext : ∀ {writer : Writer}, writer = chain.render store →
      writer.text? = (chain.displayer display store).toText? := by
    rintro _ rfl
    exact congrArg Writer.text? (hdisplayer .plain).symm
  refine ⟨hprint, hunder, hdisplayer, hdisplayer, ?_, ?_⟩
  · intro tag hbrackets
    exact htext (hunder tag hbrackets .sink)
  · intro field
    exact ⟨htext (hdisplayer field), htext (hdisplayer field)⟩

/-- A tag that neither brackets nor quotes writes a payload as the payload displays itself. For a
nested chain no way to write or display it makes a difference, and neither does a field, whatever
the leaves inside it would make of one. All this is about what is rendered and displayed. -/
theorem texts_agree (display : AtomDisplay) (store : Store) :
    (∀ (payload : Payload) (tag : Tag), payload.isMissing = false → tag.brackets = false →
      tag ≠ .quoted → WrittenAsDisplayed display store payload tag) ∧
    (∀ chain, WrittenAlike display store chain) ∧
    (∀ payload tag outlet, Payload.printUnder display store tag payload outlet =
      payload.renderUnder store tag) ∧
    ∀ payload field, Payload.displayer .standard store payload field =
      payload.displayIn store field := by
  refine ⟨?_, Chain.writtenAlike display store, ?_, Payload.displayer_standard store⟩
  · intro payload tag hpresent hbrackets hplain
    exact Payload.writtenAsDisplayed hpresent hbrackets hplain display store
  · intro payload tag outlet
    exact payload.printUnder_eq_renderUnder display store tag outlet

def wordStore : Store := ⟨#[.text .owned "word"]⟩

/-- Cuts a word to two characters, and puts two more in front of them. -/
def narrowField : Field :=
  { fill := '*', alignment := some .right, width := some 4, precision := some 2 }

/-- The field shows in the word, but not in a chain that holds it. -/
theorem texts_agree_word :
    WrittenAsDisplayed .standard wordStore (.leaf ⟨0⟩) Stock.atom.tag ∧
    ((Payload.leaf ⟨0⟩).displayer .standard wordStore).format? narrowField = some "**wo" ∧
    ((Chain.last Stock.atom (.leaf ⟨0⟩)).displayer .standard wordStore).format? narrowField =
      some "word" := by
  obtain ⟨hpayloads, hchains, _⟩ := texts_agree .standard wordStore
  refine ⟨hpayloads _ _ rfl rfl nofun, by decide +kernel, ?_⟩
  exact ((hchains _).format?_eq narrowField).1.trans (by decide +kernel)

end TaggedExpr
