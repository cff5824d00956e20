import TaggedExpr.Proofs.Render.Joining
import TaggedExpr.Render.Basic

/-! # The pieces of an expression

What rendering writes, told without a sink: a chain is the list of its pieces, among them those of
leaves that break off or panic. Rendering writes the pieces in order and ends as the first that does
not come to its end, or well if there is none.
-/

namespace TaggedExpr

open Shown Writer

namespace Tag

/-- A leaf is what it displays. As a quoted string it is the quotation of that, and a panic if there
is not all of it to be quoted. -/
def leafPiece (tag : Tag) (atom : Atom) : Shown :=
  match tag with
  | .quoted =>
    if atom.display.complete then .whole (Text.quoted atom.display.text) else ⟨"", .panicked⟩
  | _ => atom.display

/-- The symbols of a tag around some pieces. A symbol that the tag lacks is no piece. -/
def enclosed (tag : Tag) (inner : List Shown) : List Shown :=
  (tag.opening?.map whole).toList ++ (inner ++ (tag.closing?.map whole).toList)

/-- The pieces of a payload that is not missing, given those inside it. -/
def around (tag : Tag) (inner : List Shown) : List Shown :=
  if tag.brackets then tag.enclosed inner else inner

end Tag

/-- Pieces with a space between those of one cell and the next. -/
def spaced (cells : List (List Shown)) : List Shown := [whole " "].intercalate cells

mutual

/-- The pieces of each cell of a chain. -/
def Chain.cellPieces (store : Store) : Chain → List (List Shown)
  | .last tag payload => [payload.piecesUnder store tag.tag]
  | .cons tag payload rest => payload.piecesUnder store tag.tag :: rest.cellPieces store

/-- The pieces of a payload as the given tag has it. -/
def Payload.piecesUnder (store : Store) (tag : Tag) : Payload → List Shown
  | .missing => if tag.brackets then tag.enclosed [] else [whole missingText]
  | .leaf address => tag.around [tag.leafPiece (store.read address)]
  | .nested chain => tag.around (spaced (chain.cellPieces store))

end

/-- The pieces of a chain. -/
def Chain.pieces (store : Store) (chain : Chain) : List Shown := spaced (chain.cellPieces store)

theorem Chain.pieces_cons (store : Store) (tag : SharedTag) (payload : Payload) (rest : Chain) :
    (Chain.cons tag payload rest).pieces store =
      payload.piecesUnder store tag.tag ++ ([whole " "] ++ rest.pieces store) := by
  cases rest <;> simp [Chain.pieces, Chain.cellPieces, spaced, List.intercalate]

theorem write_joined_symbol (symbol : Option String) :
    (joined (symbol.map whole).toList).write = put (symbol.getD "") := by
  cases symbol with
  | none => exact (put_eq_write "").symm
  | some text =>
      rw [put_eq_write]
      exact congrArg write (joined_singleton (whole text))

namespace Tag

theorem writeLeaf_eq_write (tag : Tag) (atom : Atom) :
    tag.writeLeaf atom = (tag.leafPiece atom).write := by
  cases tag with
  | quoted =>
      simp only [writeLeaf, leafPiece]
      split
      next => exact put_eq_write _
      next => exact stop_eq_write .panicked
  | defined => rfl
  | custom => rfl

theorem enclose_eq_write (tag : Tag) (inner : List Shown) :
    tag.enclose (joined inner).write = (joined (tag.enclosed inner)).write := by
  rw [enclose, enclosed, joined_append, write_followedBy, joined_append, write_followedBy,
    write_joined_symbol, write_joined_symbol]

theorem ite_enclose_eq_write (tag : Tag) (inner : List Shown) :
    (if tag.brackets then tag.enclose (joined inner).write else (joined inner).write) =
      (joined (tag.around inner)).write := by
  unfold around
  split
  next => exact tag.enclose_eq_write inner
  next => rfl

end Tag

mutual

theorem Chain.render_eq_write (store : Store) (chain : Chain) :
    chain.render store = (joined (chain.pieces store)).write := by
  cases chain with
  | last tag payload =>
      have hpayload := payload.renderUnder_eq_write store tag.tag
      simpa [Chain.render, Chain.pieces, Chain.cellPieces, spaced, List.intercalate] using hpayload
  | cons tag payload rest =>
      -- Both sides are the payload, a space, and the rest, joined by the laws of writing.
      rw [Chain.render, Chain.pieces_cons, joined_append, write_followedBy, joined_append,
        write_followedBy, payload.renderUnder_eq_write store tag.tag, rest.render_eq_write store,
        joined_singleton, put_eq_write]

theorem Payload.renderUnder_eq_write (store : Store) (tag : Tag) (payload : Payload) :
    payload.renderUnder store tag = (joined (payload.piecesUnder store tag)).write := by
  cases payload with
  | missing =>
      simp only [Payload.renderUnder, Payload.piecesUnder]
      split
      next =>
        rw [← tag.enclose_eq_write, joined_nil, ← put_eq_write, put_empty]
      next => rw [joined_singleton, put_eq_write]
  | leaf address =>
      rw [Payload.renderUnder, Payload.piecesUnder, ← tag.ite_enclose_eq_write, joined_singleton,
        tag.writeLeaf_eq_write]
  | nested chain =>
      rw [Payload.renderUnder, Payload.piecesUnder, ← tag.ite_enclose_eq_write,
        chain.render_eq_write store, Chain.pieces]

end

/-- Rendering a chain is writing its pieces, whatever the sink: as long as there is room, the text
of the pieces up to and with the first that does not come to its end is added, and the outcome is
how that one ended. -/
theorem render_eq_pieces (store : Store) (chain : Chain) :
    chain.render store = (joined (chain.pieces store)).write ∧
    ∀ before, chain.render store ⟨before, none⟩ =
      ((joined (chain.pieces store)).ending,
        ⟨before ++ (joined (chain.pieces store)).text, none⟩) := by
  have hwrite := chain.render_eq_write store
  refine ⟨hwrite, ?_⟩
  intro before
  rw [hwrite, write_unlimited]

end TaggedExpr
