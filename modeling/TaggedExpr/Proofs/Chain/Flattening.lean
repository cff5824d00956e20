import TaggedExpr.Proofs.Copy.Sites
import TaggedExpr.Render.Basic
import TaggedExpr.Stock

/-! # Chains in line

A tag that does not bracket has a nested chain written as if its cells stood in the chain around it.
So they might as well stand there: putting them there, at all depths, gives a chain that is rendered
alike and has no chains nested but under tags that bracket.
-/

namespace TaggedExpr

mutual

/-- The chain with the cells of nested chains in place of the cells that hold these, at all depths,
except under tags that bracket. -/
def Chain.flatten : Chain → Chain
  | .last tag payload => payload.flattenUnder tag
  | .cons tag payload rest => (payload.flattenUnder tag).append rest.flatten

/-- What takes the place of a cell with a tag and a payload. -/
def Payload.flattenUnder (tag : SharedTag) : Payload → Chain
  | .missing => .last tag .missing
  | .leaf address => .last tag (.leaf address)
  | .nested chain =>
    if tag.tag.brackets then .last tag (.nested chain.flatten) else chain.flatten

end

mutual

/-- No chain is nested, at any depth, except under tags that bracket. -/
def Chain.IsFlat : Chain → Prop
  | .last tag payload => payload.IsFlatUnder tag.tag
  | .cons tag payload rest => payload.IsFlatUnder tag.tag ∧ rest.IsFlat

def Payload.IsFlatUnder (tag : Tag) : Payload → Prop
  | .missing => True
  | .leaf _ => True
  | .nested chain => tag.brackets = true ∧ chain.IsFlat

end

namespace Chain

/-- A chain inside cells with some tags, the first one outermost. -/
def wrapIn (tags : List SharedTag) (chain : Chain) : Chain :=
  tags.foldr (fun tag inner => .last tag (.nested inner)) chain

theorem isFlat_append {chain tail : Chain} (hchain : chain.IsFlat) (htail : tail.IsFlat) :
    (chain.append tail).IsFlat := by
  cases chain with
  | last tag payload => exact ⟨hchain, htail⟩
  | cons tag payload rest => exact ⟨hchain.1, isFlat_append hchain.2 htail⟩

/-- Flattening goes cell by cell. -/
theorem toList_flatten (chain : Chain) : chain.flatten.toList =
    chain.toList.flatMap fun cell => (cell.2.flattenUnder cell.1).toList := by
  cases chain with
  | last tag payload => simp [flatten, toList]
  | cons tag payload rest => simp [flatten, toList, rest.toList_flatten]

end Chain

mutual

theorem Chain.isFlat_flatten (chain : Chain) : chain.flatten.IsFlat := by
  cases chain with
  | last tag payload => exact payload.isFlat_flattenUnder tag
  | cons tag payload rest =>
      exact Chain.isFlat_append (payload.isFlat_flattenUnder tag) rest.isFlat_flatten

theorem Payload.isFlat_flattenUnder (payload : Payload) (tag : SharedTag) :
    (payload.flattenUnder tag).IsFlat := by
  cases payload with
  | missing => trivial
  | leaf address => trivial
  | nested chain =>
      rw [Payload.flattenUnder]
      split
      next hbrackets => exact ⟨hbrackets, chain.isFlat_flatten⟩
      next => exact chain.isFlat_flatten

end

mutual

/-- A chain that is flat already stays as it is. -/
theorem Chain.flatten_of_isFlat {chain : Chain} (hflat : chain.IsFlat) : chain.flatten = chain := by
  cases chain with
  | last tag payload => exact Payload.flattenUnder_of_isFlatUnder hflat
  | cons tag payload rest =>
      rw [Chain.flatten, Payload.flattenUnder_of_isFlatUnder hflat.1,
        Chain.flatten_of_isFlat hflat.2]
      rfl

theorem Payload.flattenUnder_of_isFlatUnder {payload : Payload} {tag : SharedTag}
    (hflat : payload.IsFlatUnder tag.tag) : payload.flattenUnder tag = .last tag payload := by
  cases payload with
  | missing => rfl
  | leaf address => rfl
  | nested chain =>
      rw [Payload.flattenUnder, if_pos hflat.1, Chain.flatten_of_isFlat hflat.2]

end

mutual

/-- The leaves stay in their order, each in a cell with the same tag. -/
theorem Chain.sites_flatten (chain : Chain) : chain.flatten.sites = chain.sites := by
  cases chain with
  | last tag payload => exact payload.sites_flattenUnder tag
  | cons tag payload rest =>
      rw [Chain.flatten, Chain.sites_append, payload.sites_flattenUnder tag, rest.sites_flatten,
        Chain.sites]

theorem Payload.sites_flattenUnder (payload : Payload) (tag : SharedTag) :
    (payload.flattenUnder tag).sites = payload.sitesUnder tag := by
  cases payload with
  | missing => rfl
  | leaf address => rfl
  | nested chain =>
      rw [Payload.flattenUnder]
      split
      next => exact chain.sites_flatten
      next => exact chain.sites_flatten

end

mutual

theorem Chain.render_flatten (store : Store) (chain : Chain) :
    chain.flatten.render store = chain.render store := by
  cases chain with
  | last tag payload => exact payload.render_flattenUnder store tag
  | cons tag payload rest =>
      -- The cells that take the place of the first one are followed by the space that followed it.
      rw [Chain.flatten, Chain.render_append, payload.render_flattenUnder store tag,
        rest.render_flatten store, Chain.render]

theorem Payload.render_flattenUnder (store : Store) (payload : Payload) (tag : SharedTag) :
    (payload.flattenUnder tag).render store = payload.renderUnder store tag.tag := by
  cases payload with
  | missing => rfl
  | leaf address => rfl
  | nested chain =>
      rw [Payload.flattenUnder, Payload.renderUnder]
      split
      next hbrackets =>
        rw [Chain.render, Payload.renderUnder, if_pos hbrackets, chain.render_flatten store]
      next => exact chain.render_flatten store

end

theorem Chain.flatten_wrapIn {tags : List SharedTag}
    (hinline : ∀ tag ∈ tags, tag.tag.brackets = false) (chain : Chain) :
    (chain.wrapIn tags).flatten = chain.flatten := by
  induction tags with
  | nil => rfl
  | cons tag tags ih =>
      have htag : ¬ tag.tag.brackets = true := by simp [hinline tag List.mem_cons_self]
      rw [wrapIn, List.foldr_cons, ← wrapIn, flatten, Payload.flattenUnder, if_neg htag]
      exact ih fun later hlater => hinline later (List.mem_cons_of_mem _ hlater)

/-- What flattening makes of a chain. -/
structure Flattened (chain flat : Chain) : Prop where
  /-- Each cell stays, with its nested chain flattened, or has the cells of that chain in its
  place. -/
  toList_eq : flat.toList =
    chain.toList.flatMap fun cell => (cell.2.flattenUnder cell.1).toList
  isFlat : flat.IsFlat
  eq_of_isFlat : chain.IsFlat → flat = chain
  sites_eq : flat.sites = chain.sites
  /-- In every sink, the same is written and the outcome is the same. -/
  render_eq : ∀ store, flat.render store = chain.render store

/-- A chain is rendered as its flattening is, whatever the sink. So it does not show in which chains
the cells stood that are written in line, nor in how many cells a chain was wrapped. -/
theorem flatten_rendered_alike :
    (∀ chain : Chain, Flattened chain chain.flatten) ∧
    (∀ first second : Chain, first.flatten = second.flatten →
      ∀ store, first.render store = second.render store) ∧
    ∀ tags : List SharedTag, (∀ tag ∈ tags, tag.tag.brackets = false) →
      ∀ (chain : Chain) store, (chain.wrapIn tags).render store = chain.render store := by
  have hsame : ∀ first second : Chain, first.flatten = second.flatten →
      ∀ store, first.render store = second.render store := by
    intro first second hflatten store
    rw [← first.render_flatten store, hflatten, second.render_flatten store]
  refine ⟨?_, hsame, ?_⟩
  · intro chain
    exact ⟨chain.toList_flatten, chain.isFlat_flatten, Chain.flatten_of_isFlat,
      chain.sites_flatten, fun store => chain.render_flatten store⟩
  · intro tags hinline chain
    exact hsame _ _ (Chain.flatten_wrapIn hinline chain)

/-- A leaf and a list with a quoted leaf in it, both inside a cell of quoted strings, and after that
a cell without a payload. The list stands in cells of a custom tag that has symbols and does not
write them. -/
def bundledChain : Chain :=
  let silent : SharedTag := ⟨7, .custom "silent" (some "<") (some ">") (some false) fun _ => none⟩
  let listed : Chain := .last Stock.list (.nested (.last Stock.string (.leaf ⟨1⟩)))
  .cons Stock.string
    (.nested (.cons Stock.atom (.leaf ⟨0⟩) (.last silent (.nested (listed.wrapIn [silent]))))) <|
  .last Stock.symbol .missing

/-- The three cells end up side by side, and wrapping the whole does not show either. -/
theorem flatten_rendered_alike_bundledChain :
    let tags := [Stock.symbol, Stock.string, Stock.symbol]
    bundledChain.flatten = .cons Stock.atom (.leaf ⟨0⟩) (.cons Stock.list
      (.nested (.last Stock.string (.leaf ⟨1⟩))) (.last Stock.symbol .missing)) ∧
    (∀ tag ∈ tags, tag.tag.brackets = false) ∧
    ∀ store, (bundledChain.wrapIn tags).render store = bundledChain.flatten.render store := by
  have hinline : ∀ tag ∈ [Stock.symbol, Stock.string, Stock.symbol],
      tag.tag.brackets = false := by decide
  refine ⟨rfl, hinline, ?_⟩
  intro store
  rw [(flatten_rendered_alike.1 bundledChain).render_eq store]
  exact flatten_rendered_alike.2.2 _ hinline bundledChain store

end TaggedExpr
