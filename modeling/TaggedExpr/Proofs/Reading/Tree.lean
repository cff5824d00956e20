import TaggedExpr.Proofs.Chain.Grouping

/-! # Trees of symbols and strings

The expressions built from symbols and strings by the stock groups, as trees. A tree is built leaf
by leaf, and what it renders to depends on the tree alone: not on the store that it was built in,
and not on leaves that were made later.
-/

namespace TaggedExpr

/-- The characters that separate, group or quote. -/
def isMark (c : Char) : Bool := c ∈ [' ', '(', ')', '[', ']', '"']

/-- Whether a name can stand between others: it is not empty and has no marks in it. -/
def isPlain (name : String) : Bool := name != "" && name.toList.all (!isMark ·)

structure PlainName where
  text : String
  isPlain_text : isPlain text = true

/-- What can be built from symbols and strings: a list or a vector, with its items, is a group. -/
inductive Tree where
  | group (bracket : Bracket) (items : List Tree)
  | symbol (name : PlainName)
  | string (text : String)

namespace Tree

/-- What a tree reads like. -/
def text : Tree → String
  | .group bracket items => bracket.opening ++ " ".intercalate (texts items) ++ bracket.closing
  | .symbol name => name.text
  | .string text => Text.quoted text
where
  texts : List Tree → List String
    | [] => []
    | item :: items => item.text :: texts items

/-- The tree as an expression to build. -/
def expression : Tree → Stock.Expression
  | .group bracket items => .group bracket (expressions items)
  | .symbol name => .single (.symbol name.text)
  | .string text => .single (.string text)
where
  expressions : List Tree → List Stock.Expression
    | [] => []
    | item :: items => item.expression :: expressions items

/-- Builds the tree, its leaves in order. -/
def build (tree : Tree) : Store → Chain × Store := tree.expression.build

/-- How rendering the expression of a tree ends, and the text that it gives. -/
def rendered (tree : Tree) (store : Store) : Outcome × String :=
  ((tree.build store).1.render (tree.build store).2).run

end Tree

/-! ## Rendering groups -/

open Writer

/-- A group of chains that each write a text, under a tag that brackets, writes the texts with
spaces between them and the symbols of the tag around them. -/
theorem render_group {store : Store} {tag : SharedTag} {name : String} {delimiters : Delimiters}
    {copiers : List Copier} (htag : tag.tag = .defined name (some delimiters) copiers)
    {chains : List Chain} {texts : List String}
    (hchains : chains.map (·.render store) = texts.map put) :
    (Stock.group tag chains).render store =
      put (delimiters.opening ++ " ".intercalate texts ++ delimiters.closing) := by
  rw [(groups_group htag chains).render_eq, hchains, withSpaces_map_put, String.append_assoc,
    put_append, put_append]

theorem Bracket.render_group (bracket : Bracket) {store : Store} {chains : List Chain}
    {texts : List String} (hchains : chains.map (·.render store) = texts.map put) :
    (bracket.group chains).render store =
      put (bracket.opening ++ " ".intercalate texts ++ bracket.closing) := by
  cases bracket with
  | round =>
      have htag : Stock.list.tag = .defined "list" (some ⟨"(", ")"⟩) [] := rfl
      exact TaggedExpr.render_group htag hchains
  | square =>
      have htag : Stock.vector.tag = .defined "vector" (some ⟨"[", "]"⟩) [] := rfl
      exact TaggedExpr.render_group htag hchains

/-! ## Rendering trees -/

/-- A cell with a new leaf is rendered as its atom is written, also after more leaves were made. -/
theorem render_leafCell {tag : SharedTag} {atom : Atom} {store later : Store}
    (hlater : (Stock.leafCell tag atom store).2.Grows later)
    (hbrackets : tag.tag.brackets = false) :
    (Stock.leafCell tag atom store).1.render later = tag.tag.writeLeaf atom := by
  have hread : later.read (store.allocate atom).1 = atom := by
    rw [hlater.read_eq _ (store.holds_allocate atom)]
    exact store.read_allocate_self atom
  simp only [Stock.leafCell, Chain.render, Payload.renderUnder, hbrackets, hread]
  rfl

namespace Tree

open Stock.Expression.build (buildAll)

mutual

/-- The expression of a tree writes the text of the tree, also after more leaves were made. -/
theorem render_build (tree : Tree) {store later : Store}
    (hlater : (tree.build store).2.Grows later) :
    (tree.build store).1.render later = put tree.text := by
  cases tree with
  | group bracket items => exact bracket.render_group (render_buildAll items hlater)
  | symbol name =>
      show (Stock.leafCell Stock.symbol (.symbol name.text) store).1.render later = _
      rw [render_leafCell hlater rfl]
      exact (put_eq_write name.text).symm
  | string text =>
      have hdisplay : (Atom.text .owned text).display = ⟨text, .done⟩ :=
        congrArg (Shown.mk · .done) (Text.Field.word_plain text)
      show (Stock.leafCell Stock.string (.text .owned text) store).1.render later = _
      rw [render_leafCell hlater rfl]
      simp only [Stock.string, Tag.writeLeaf, hdisplay]
      rfl

theorem render_buildAll (items : List Tree) {store later : Store}
    (hlater : (buildAll (expression.expressions items) store).2.Grows later) :
    (buildAll (expression.expressions items) store).1.map (·.render later) =
      (text.texts items).map put := by
  cases items with
  | nil => rfl
  | cons item items =>
      have hgrows := Stock.Expression.grows_buildAll (expression.expressions items)
      have hitem := render_build item ((hgrows _).trans hlater)
      rw [build] at hitem
      rw [expression.expressions, buildAll, List.map_cons, hitem, render_buildAll items hlater]
      rfl

end

theorem rendered_eq (tree : Tree) (store : Store) : tree.rendered store = (.done, tree.text) := by
  rw [rendered, tree.render_build (.refl _)]
  simp [run, put]

end Tree

end TaggedExpr
