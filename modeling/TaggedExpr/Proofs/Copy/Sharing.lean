import TaggedExpr.Proofs.Chain.Grouping
import TaggedExpr.Proofs.Copy.Positions
import TaggedExpr.Proofs.Copy.Records

/-! # Copies that share everything

Where no way to copy a leaf works, at any place in a chain, a deep copy does what a structural copy
does: it has cells of its own, and shares every leaf. So it is with all that is built from stock
atoms in the stock way, since no stock atom copies itself and no stock tag has copiers.
-/

namespace TaggedExpr

/-! ## Leaves that resist -/

theorem Site.duplicate_of_resists {site : Site} {store : Store} (hresists : site.Resists store) :
    (site.duplicate store).value = site.address ∧ (site.duplicate store).store = store := by
  obtain ⟨⟨own, hown⟩, constructed, hconstructed⟩ := hresists
  rw [Site.duplicate, Tag.duplicateLeaf_of_error hown hconstructed]
  exact ⟨rfl, rfl⟩

theorem duplicateSites_of_resists {sites : List Site} {store : Store}
    (hresists : ∀ site ∈ sites, site.Resists store) :
    (duplicateSites sites store).value = sites ∧ (duplicateSites sites store).store = store := by
  induction sites with
  | nil => exact ⟨rfl, rfl⟩
  | cons site sites ih =>
      obtain ⟨haddress, hstore⟩ := Site.duplicate_of_resists (hresists site List.mem_cons_self)
      obtain ⟨hothers, hlater⟩ :=
        ih fun later hlater => hresists later (List.mem_cons_of_mem _ hlater)
      simp only [duplicateSites, haddress, hstore, hothers, hlater, and_self]

/-- A deep copy of a chain that is no different from a structural one. -/
structure SharesAll (chain : Chain) (store : Store) (copy : Copied Chain) : Prop where
  value_eq : copy.value = chain.structuralCopy
  outline_eq : copy.value.outline = chain.outline
  /-- At every position there is the very leaf of the original, in a cell with the same tag. -/
  sites_eq : copy.value.sites = chain.sites
  /-- No leaf is made. -/
  store_eq : copy.store = store

theorem Chain.sharesAll_duplicate {chain : Chain} {store : Store}
    (hresists : ∀ site ∈ chain.sites, site.Resists store) :
    SharesAll chain store (chain.duplicate store) := by
  obtain ⟨hvalue, hstore⟩ := duplicateSites_of_resists hresists
  have hsites : (chain.duplicate store).value.sites = chain.sites :=
    (chain.sites_duplicate store).trans hvalue
  have houtline := chain.outline_duplicate store
  refine ⟨?_, houtline, hsites, (chain.store_duplicate store).trans hstore⟩
  exact Chain.eq_of_outline_eq (houtline.trans chain.outline_structuralCopy.symm)
    (hsites.trans chain.sites_structuralCopy.symm)

/-! ## Stock atoms under stock tags -/

theorem Stock.copier?_of_mem_tags {shared : SharedTag} (htag : shared ∈ Stock.tags)
    (type : AtomType) : shared.tag.copier? type = none := by
  simp only [tags, List.mem_cons, List.not_mem_nil, or_false] at htag
  rcases htag with rfl | rfl | rfl | rfl | rfl | rfl | rfl
  all_goals rfl

/-- At a place of a chain there is a stock atom under a stock tag. -/
structure Site.IsStock (site : Site) (store : Store) : Prop where
  tag_mem : site.tag ∈ Stock.tags
  holds : store.Holds site.address
  type_mem : (store.read site.address).type ∈ AtomType.stock

namespace Site.IsStock

/-- A leaf that keeps its type goes on to resist, whatever is written to it. -/
theorem resists_of_type_eq {site : Site} {before now : Store} (hstock : site.IsStock before)
    (htype : (now.read site.address).type = (before.read site.address).type) :
    site.Resists now := by
  have hcopier := Stock.copier?_of_mem_tags hstock.tag_mem (now.read site.address).type
  exact ⟨⟨_, Atom.copySelf_of_mem_stock (htype ▸ hstock.type_mem)⟩, _,
    Tag.construct_of_copier?_eq_none hcopier⟩

theorem mono {site : Site} {before after : Store} (hgrows : before.Grows after)
    (hstock : site.IsStock before) : site.IsStock after := by
  refine ⟨hstock.tag_mem, hgrows.holds hstock.holds, ?_⟩
  rw [hgrows.read_eq _ hstock.holds]
  exact hstock.type_mem

theorem leafCell {tag : SharedTag} (htag : tag ∈ Stock.tags) (atom : StockAtom) (store : Store) :
    ∀ site ∈ (Stock.leafCell tag atom.value store).1.sites,
      site.IsStock (Stock.leafCell tag atom.value store).2 := by
  intro site hsite
  obtain rfl := List.mem_singleton.mp hsite
  refine ⟨htag, store.holds_allocate atom.value, ?_⟩
  show ((store.allocate atom.value).2.read (store.allocate atom.value).1).type ∈ AtomType.stock
  rw [store.read_allocate_self]
  exact atom.type_mem

end Site.IsStock

namespace Stock.Expression

mutual

/-- Whatever is built in the stock way has stock atoms under stock tags. -/
theorem isStock_of_mem_build (expression : Expression) (store : Store) :
    ∀ site ∈ (expression.build store).1.sites, site.IsStock (expression.build store).2 := by
  cases expression with
  | single cell =>
      obtain ⟨tag, htag, atom, hbuild⟩ := cell.exists_build_eq
      rw [build, hbuild]
      exact .leafCell htag atom store
  | group bracket items =>
      rw [build, bracket.sites_group]
      exact isStock_of_mem_buildAll items store

theorem isStock_of_mem_buildAll (items : List Expression) (store : Store) :
    ∀ site ∈ (build.buildAll items store).1.flatMap Chain.sites,
      site.IsStock (build.buildAll items store).2 := by
  cases items with
  | nil => nofun
  | cons item items =>
      rw [build.buildAll, List.flatMap_cons, List.forall_mem_append]
      refine ⟨?_, isStock_of_mem_buildAll items _⟩
      intro site hsite
      -- The leaves of the first item are still there when the others have been built.
      exact (isStock_of_mem_build item store site hsite).mono (grows_buildAll items _)

end

end Stock.Expression

/-- If every leaf of a chain resists being copied, its deep copy is its structural copy. So it is
with whatever was built in the stock way, as long as its leaves have not changed their types. -/
theorem duplicate_coincides :
    (∀ (chain : Chain) (store : Store), (∀ site ∈ chain.sites, site.Resists store) →
      SharesAll chain store (chain.duplicate store)) ∧
    ∀ (expression : Stock.Expression) (before now : Store),
      (∀ address ∈ (expression.build before).1.leaves,
        (now.read address).type = ((expression.build before).2.read address).type) →
      SharesAll (expression.build before).1 now ((expression.build before).1.duplicate now) := by
  refine ⟨fun _ _ => Chain.sharesAll_duplicate, ?_⟩
  intro expression before now htypes
  apply Chain.sharesAll_duplicate
  intro site hsite
  have hbuilt := expression.isStock_of_mem_build before site hsite
  apply hbuilt.resists_of_type_eq
  exact htypes _ (List.mem_map_of_mem hsite)

/-- A poisoned register, a counter, a probe that fails to copy itself, and a number. -/
def stubbornStore : Store :=
  ⟨#[.register 3 true, .counter 5, .probe { text := "p", copying := .fails }, .int64 8]⟩

/-- The register twice, then, nested, the counter without a copier, the probe with one that refuses,
and the number with one that is for counters. -/
def stubbornChain : Chain :=
  let refusing : SharedTag := ⟨7, .defined "probe" none [.always .probe (.error (.failed "no"))]⟩
  let mistaken : SharedTag := ⟨8, .custom "odd" none none none fun _ => some (.cloning .counter)⟩
  .cons Stock.atom (.leaf ⟨0⟩) <| .cons Stock.symbol (.leaf ⟨0⟩) <| .last Stock.vector <| .nested <|
    .cons Stock.atom (.leaf ⟨1⟩) <| .cons refusing (.leaf ⟨2⟩) (.last mistaken (.leaf ⟨3⟩))

/-- The vector of a character and of a list of a symbol. -/
def stockExpression : Stock.Expression :=
  .group .square
    [.single (.atom { value := .character 'c' }), .group .round [.single (.symbol "s")]]

/-- All leaves of the stubborn chain are shared, and so are those of the vector, which is built in
the same store. -/
theorem duplicate_coincides_stubbornChain :
    (∀ site ∈ stubbornChain.sites, site.Resists stubbornStore) ∧
    SharesAll stubbornChain stubbornStore (stubbornChain.duplicate stubbornStore) ∧
    (stockExpression.build stubbornStore).1.leaves = [⟨4⟩, ⟨5⟩] ∧
    SharesAll (stockExpression.build stubbornStore).1 (stockExpression.build stubbornStore).2
      ((stockExpression.build stubbornStore).1.duplicate
        (stockExpression.build stubbornStore).2) := by
  have hresists : ∀ site ∈ stubbornChain.sites, site.Resists stubbornStore := by decide
  exact ⟨hresists, duplicate_coincides.1 stubbornChain stubbornStore hresists, rfl,
    duplicate_coincides.2 stockExpression stubbornStore _ fun _ _ => rfl⟩

end TaggedExpr
