import TaggedExpr.Atom.Text
import TaggedExpr.Chain
import TaggedExpr.Render.Sink

/-! # Writing expressions

Each payload is written by the tag of its cell, and cells are separated by a space. A tag that
brackets writes its symbols around the payload, even if it is missing. Any other tag writes a
nested chain in line, as if its cells stood in the chain around it.
-/

namespace TaggedExpr

open Text

/-- What stands for a missing payload outside brackets. -/
def missingText : String := "null"

namespace Tag

/-- Writes a leaf. The tag of quoted strings needs the whole text before it can write any of it,
and panics if there is none. -/
def writeLeaf (tag : Tag) (atom : Atom) : Writer :=
  match tag with
  | .quoted => if atom.display.complete then .put (Text.quoted atom.display.text) else .panic
  | _ => atom.display.write

/-- Writes something between the symbols of a tag; a symbol that it lacks is left out. -/
def enclose (tag : Tag) (inner : Writer) : Writer :=
  (Writer.put (tag.opening?.getD "")).andThen (inner.andThen (.put (tag.closing?.getD "")))

end Tag

mutual

/-- Writes the cells of a chain. -/
def Chain.render (store : Store) : Chain → Writer
  | .last tag payload => payload.renderUnder store tag.tag
  | .cons tag payload rest =>
    (payload.renderUnder store tag.tag).andThen ((Writer.put " ").andThen (rest.render store))

/-- Writes a payload as the given tag has it. -/
def Payload.renderUnder (store : Store) (tag : Tag) : Payload → Writer
  | .missing => if tag.brackets then tag.enclose .skip else .put missingText
  | .leaf address =>
    if tag.brackets then tag.enclose (tag.writeLeaf (store.read address))
    else tag.writeLeaf (store.read address)
  | .nested chain => if tag.brackets then tag.enclose (chain.render store) else chain.render store

end

/-- A chain and one at its end are written with a space between them. -/
theorem Chain.render_append (store : Store) (chain tail : Chain) :
    (chain.append tail).render store =
      (chain.render store).andThen ((Writer.put " ").andThen (tail.render store)) := by
  cases chain with
  | last tag payload => rfl
  | cons tag payload rest =>
      rw [append, render, rest.render_append store tail, render, Writer.andThen_assoc,
        Writer.andThen_assoc]

/-- Displays a payload by itself, under no tag. A nested chain takes no notice of the field. -/
def Payload.displayIn (store : Store) (field : Field) : Payload → Writer
  | .missing => .skip
  | .leaf address => ((store.read address).displayIn field).write
  | .nested chain => chain.render store

end TaggedExpr
