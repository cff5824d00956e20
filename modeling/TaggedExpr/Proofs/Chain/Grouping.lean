import TaggedExpr.Proofs.Copy.Sites
import TaggedExpr.Proofs.Render.Texts
import TaggedExpr.Proofs.Store
import TaggedExpr.Stock

/-! # Groups

Grouping puts the cells of all items into one nested chain, in order and unchanged, however many of
them an item has. So a group is written as its items are, one after the other with a space between
them, inside the symbols of its tag, and has a text if each of its items has one. What is built by
grouping, from single cells on, is an expression; its leaves are made one after the other.
-/

namespace TaggedExpr

open Writer

/-! ## Appending items one after the other -/

namespace Chain

theorem toList_foldl_append (first : Chain) (others : List Chain) :
    (others.foldl append first).toList = first.toList ++ others.flatMap toList := by
  induction others generalizing first with
  | nil => simp
  | cons chain others ih => simp [ih]

theorem sites_foldl_append (first : Chain) (others : List Chain) :
    (others.foldl append first).sites = first.sites ++ others.flatMap sites := by
  induction others generalizing first with
  | nil => simp
  | cons chain others ih => simp [ih, sites_append]

theorem render_foldl_append (store : Store) (first : Chain) (others : List Chain) :
    (others.foldl append first).render store =
      withSpaces ((first :: others).map (·.render store)) := by
  induction others generalizing first with
  | nil => rfl
  | cons chain others ih =>
      -- The first two chains become one, which is written as they are with a space between them.
      rw [List.foldl_cons, ih, List.map_cons, render_append, withSpaces_andThen_cons]
      rfl

end Chain

/-! ## Groups -/

namespace Stock

theorem toList_group (tag : SharedTag) (items : List Chain) :
    (group tag items).toList = [(tag, (group tag items).payload)] := by
  cases items <;> rfl

theorem payload_group_eq_missing_iff {tag : SharedTag} {items : List Chain} :
    (group tag items).payload = .missing ↔ items = [] := by
  cases items with
  | nil => exact ⟨fun _ => rfl, fun _ => rfl⟩
  | cons first others => exact ⟨nofun, nofun⟩

theorem exists_payload_group_eq_nested {items : List Chain} (hitems : items ≠ [])
    (tag : SharedTag) : ∃ contents, (group tag items).payload = .nested contents ∧
      contents.toList = items.flatMap Chain.toList := by
  cases items with
  | nil => exact absurd rfl hitems
  | cons first others => exact ⟨_, rfl, first.toList_foldl_append others⟩

theorem sites_group (tag : SharedTag) (items : List Chain) :
    (group tag items).sites = items.flatMap Chain.sites := by
  cases items with
  | nil => rfl
  | cons first others => exact first.sites_foldl_append others

theorem render_group {tag : SharedTag} (hbrackets : tag.tag.brackets = true) (items : List Chain)
    (store : Store) : (group tag items).render store =
      tag.tag.enclose (withSpaces (items.map (·.render store))) := by
  cases items with
  | nil =>
      simp only [group, Chain.render, Payload.renderUnder, hbrackets, if_true]
      rfl
  | cons first others =>
      simp only [group, Chain.render, Payload.renderUnder, hbrackets, if_true]
      rw [first.render_foldl_append store others]

end Stock

/-- What grouping makes of items, under a tag that writes the given symbols. -/
structure Groups (tag : SharedTag) (delimiters : Delimiters) (items : List Chain)
    (whole : Chain) : Prop where
  /-- The group is a single cell. -/
  toList_eq : whole.toList = [(tag, whole.payload)]
  payload_eq_missing_iff : whole.payload = .missing ↔ items = []
  /-- The cells of an item that is a chain are spliced, with all that they hold. -/
  nested : items ≠ [] → ∃ contents, whole.payload = .nested contents ∧
    contents.toList = items.flatMap Chain.toList
  sites_eq : whole.sites = items.flatMap Chain.sites
  /-- In every sink, and also if some item does not come to its end. -/
  render_eq : ∀ store, whole.render store = (put delimiters.opening).andThen
    ((withSpaces (items.map (·.render store))).andThen (put delimiters.closing))
  text?_eq : ∀ store, (whole.render store).text? =
    (items.mapM fun item : Chain => (item.render store).text?).map fun texts =>
      delimiters.opening ++ " ".intercalate texts ++ delimiters.closing

theorem text?_between (opening closing : String) {inner : Writer} (hinner : inner.Appends) :
    ((put opening).andThen (inner.andThen (put closing))).text? =
      inner.text?.map fun text => opening ++ text ++ closing := by
  have hclosing := appends_put closing
  rw [text?_andThen (appends_put opening) (hinner.andThen hclosing), text?_andThen hinner hclosing,
    text?_put, text?_put]
  cases inner.text? <;> simp [String.append_assoc]

theorem groups_group {tag : SharedTag} {name : String} {delimiters : Delimiters}
    {copiers : List Copier} (htag : tag.tag = .defined name (some delimiters) copiers)
    (items : List Chain) : Groups tag delimiters items (Stock.group tag items) := by
  have hbrackets : tag.tag.brackets = true := by
    rw [htag]
    rfl
  have hrender : ∀ store, (Stock.group tag items).render store = (put delimiters.opening).andThen
      ((withSpaces (items.map (·.render store))).andThen (put delimiters.closing)) := by
    intro store
    rw [Stock.render_group hbrackets, htag]
    rfl
  refine ⟨Stock.toList_group tag items, Stock.payload_group_eq_missing_iff,
    fun hitems => Stock.exists_payload_group_eq_nested hitems tag, Stock.sites_group tag items,
    hrender, ?_⟩
  intro store
  have hitems : ∀ writer ∈ items.map (·.render store), writer.Appends := by
    intro writer hwriter
    obtain ⟨item, _, rfl⟩ := List.mem_map.mp hwriter
    exact item.appends_render store
  rw [hrender, text?_between _ _ (appends_withSpaces hitems), text?_withSpaces hitems,
    List.mapM_map, Option.map_map]
  rfl

theorem Chain.text?_render_append (store : Store) (chain tail : Chain) :
    ((chain.append tail).render store).text? =
      (chain.render store).text?.bind fun before =>
        (tail.render store).text?.map fun text => before ++ " " ++ text := by
  have htail := tail.appends_render store
  rw [chain.render_append, text?_andThen (chain.appends_render store)
    ((appends_put " ").andThen htail), text?_andThen (appends_put " ") htail, text?_put]
  cases (chain.render store).text? with
  | none => rfl
  | some before => cases (tail.render store).text? <;> simp [String.append_assoc]

/-- Listing items puts their cells between round brackets, as a vector between square ones, and
writes them with spaces between them. So does appending, for two chains and without brackets. -/
theorem grouping_concatenates :
    (∀ items, Groups Stock.list ⟨"(", ")"⟩ items (Stock.listCell items)) ∧
    (∀ items, Groups Stock.vector ⟨"[", "]"⟩ items (Stock.vectorCell items)) ∧
    ∀ (chain tail : Chain) (store : Store),
      (chain.append tail).toList = chain.toList ++ tail.toList ∧
      (chain.append tail).render store =
        (chain.render store).andThen ((put " ").andThen (tail.render store)) ∧
      ((chain.append tail).render store).text? =
        (chain.render store).text?.bind fun before =>
          (tail.render store).text?.map fun text => before ++ " " ++ text := by
  have hlist : Stock.list.tag = .defined "list" (some ⟨"(", ")"⟩) [] := rfl
  have hvector : Stock.vector.tag = .defined "vector" (some ⟨"[", "]"⟩) [] := rfl
  refine ⟨groups_group hlist, groups_group hvector, ?_⟩
  intro chain tail store
  exact ⟨chain.toList_append tail, chain.render_append store tail,
    chain.text?_render_append store tail⟩

-- An item of two cells and an empty list as an item: the first is spliced, the second is not.
example (first second : Payload) :
    (Stock.listCell [.cons Stock.atom first (.last Stock.atom second), Stock.listCell []]).payload =
      .nested (.cons Stock.atom first (.cons Stock.atom second (.last Stock.list .missing))) := rfl

/-! ## Building by groups -/

/-- The two kinds of stock groups. -/
inductive Bracket where
  | round
  | square
deriving DecidableEq, Repr

namespace Bracket

def opening : Bracket → String
  | .round => "("
  | .square => "["

def closing : Bracket → String
  | .round => ")"
  | .square => "]"

def group : Bracket → List Chain → Chain
  | .round => Stock.listCell
  | .square => Stock.vectorCell

theorem sites_group (bracket : Bracket) (items : List Chain) :
    (bracket.group items).sites = items.flatMap Chain.sites := by
  cases bracket with
  | round => exact Stock.sites_group Stock.list items
  | square => exact Stock.sites_group Stock.vector items

end Bracket

/-- An atom that never changes. -/
structure StockAtom where
  value : Atom
  type_mem : value.type ∈ AtomType.stock := by simp [Atom.type, AtomType.stock]

namespace Stock

/-- A single cell with a new leaf. -/
inductive Single where
  | symbol (name : String)
  | number (value : Int64)
  | float (bits : UInt64)
  | boolean (value : Bool)
  | string (text : String)
  | atom (made : StockAtom)

def Single.build : Single → Store → Chain × Store
  | .symbol name => symbolCell name
  | .number value => numberCell value
  | .float bits => floatCell bits
  | .boolean value => booleanCell value
  | .string text => stringCell text
  | .atom made => atomCell made.value

/-- What can be built from single cells by grouping: a list or a vector, with its items, is a
group. -/
inductive Expression where
  | single (cell : Single)
  | group (bracket : Bracket) (items : List Expression)

/-- Builds an expression, its leaves in order. -/
def Expression.build : Expression → Store → Chain × Store
  | .single cell, store => cell.build store
  | .group bracket items, store =>
    let (chains, store) := buildAll items store
    (bracket.group chains, store)
where
  buildAll : List Expression → Store → List Chain × Store
    | [], store => ([], store)
    | item :: items, store =>
      let (chain, store) := item.build store
      let (chains, store) := buildAll items store
      (chain :: chains, store)

theorem grows_leafCell (tag : SharedTag) (atom : Atom) (store : Store) :
    store.Grows (leafCell tag atom store).2 :=
  .allocate store atom

theorem Single.exists_build_eq (cell : Single) : ∃ tag ∈ tags, ∃ atom : StockAtom,
    ∀ store, cell.build store = leafCell tag atom.value store := by
  cases cell with
  | symbol name => exact ⟨Stock.symbol, by simp [tags], { value := .symbol name }, fun _ => rfl⟩
  | number value => exact ⟨Stock.number, by simp [tags], { value := .int64 value }, fun _ => rfl⟩
  | float bits => exact ⟨Stock.number, by simp [tags], { value := .float64 bits }, fun _ => rfl⟩
  | boolean value =>
      exact ⟨Stock.boolean, by simp [tags], { value := .boolean value }, fun _ => rfl⟩
  | string text =>
      exact ⟨Stock.string, by simp [tags], { value := .text .owned text }, fun _ => rfl⟩
  | atom made => exact ⟨Stock.atom, by simp [tags], made, fun _ => rfl⟩

namespace Expression

mutual

/-- Building makes leaves and leaves alone those that there are. -/
theorem grows_build (expression : Expression) (store : Store) :
    store.Grows (expression.build store).2 := by
  cases expression with
  | single cell =>
      obtain ⟨tag, _, atom, hbuild⟩ := cell.exists_build_eq
      rw [build, hbuild]
      exact grows_leafCell ..
  | group bracket items => exact grows_buildAll items store

theorem grows_buildAll (items : List Expression) (store : Store) :
    store.Grows (build.buildAll items store).2 := by
  cases items with
  | nil => exact .refl store
  | cons item items => exact (grows_build item store).trans (grows_buildAll items _)

end

end Expression

end Stock

end TaggedExpr
