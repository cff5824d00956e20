import TaggedExpr.Proofs.Copy.Positions
import TaggedExpr.Proofs.Store
import TaggedExpr.Render.Basic

/-! # What rendering shows

Of a leaf, rendering shows what it displays, and of the address nothing. So chains of the same cells
are rendered alike if their leaves, place by place, display the same, even if no two of them are
kept at one address, or in one store.
-/

namespace TaggedExpr

/-- What the leaves at some places display, in order. -/
def Store.shownAt (store : Store) (sites : List Site) : List Shown :=
  sites.map fun site => (store.read site.address).display

theorem Store.shownAt_append (store : Store) (first second : List Site) :
    store.shownAt (first ++ second) = store.shownAt first ++ store.shownAt second :=
  List.map_append

theorem Tag.writeLeaf_congr {first second : Atom} (hdisplay : first.display = second.display)
    (tag : Tag) : tag.writeLeaf first = tag.writeLeaf second := by
  simp only [Tag.writeLeaf, hdisplay]

mutual

/-- Chains of the same cells whose leaves display the same are rendered alike. -/
theorem Chain.render_eq_of_shownAt_eq {first second : Chain} {before after : Store}
    (houtline : first.outline = second.outline)
    (hshown : before.shownAt first.sites = after.shownAt second.sites) :
    first.render before = second.render after := by
  cases first with
  | last tag payload =>
      cases second with
      | last tag' payload' =>
          simp only [Chain.outline, Chain.last.injEq] at houtline
          obtain ⟨rfl, hpayload⟩ := houtline
          exact Payload.renderUnder_eq_of_shownAt_eq tag hpayload hshown tag.tag
      | cons tag' payload' rest' => cases houtline
  | cons tag payload rest =>
      cases second with
      | last tag' payload' => cases houtline
      | cons tag' payload' rest' =>
          simp only [Chain.outline, Chain.cons.injEq] at houtline
          obtain ⟨rfl, hpayload, hrest⟩ := houtline
          -- The leaves of the payload are as many on both sides, so the list falls into the same
          -- two parts.
          rw [Chain.sites, Chain.sites, Store.shownAt_append, Store.shownAt_append] at hshown
          obtain ⟨hheld, hothers⟩ := List.append_inj hshown (by
            simpa [Store.shownAt] using Payload.length_sitesUnder_eq hpayload tag)
          rw [Chain.render, Chain.render,
            Payload.renderUnder_eq_of_shownAt_eq tag hpayload hheld tag.tag,
            Chain.render_eq_of_shownAt_eq hrest hothers]

theorem Payload.renderUnder_eq_of_shownAt_eq {first second : Payload} {before after : Store}
    (holder : SharedTag) (houtline : first.outline = second.outline)
    (hshown : before.shownAt (first.sitesUnder holder) = after.shownAt (second.sitesUnder holder))
    (tag : Tag) : first.renderUnder before tag = second.renderUnder after tag := by
  cases first with
  | missing =>
      cases second with
      | missing => rfl
      | leaf address => cases houtline
      | nested chain => cases houtline
  | leaf address =>
      cases second with
      | missing => cases houtline
      | leaf address' =>
          have hdisplay := List.head_eq_of_cons_eq hshown
          simp only [Payload.renderUnder, Tag.writeLeaf_congr hdisplay]
      | nested chain => cases houtline
  | nested chain =>
      cases second with
      | missing => cases houtline
      | leaf address => cases houtline
      | nested chain' =>
          simp only [Payload.outline, Payload.nested.injEq] at houtline
          simp only [Payload.renderUnder, Chain.render_eq_of_shownAt_eq houtline hshown]

end

/-- Leaves that were there before display what they did. -/
theorem Store.Grows.shownAt_eq {before after : Store} (hgrows : before.Grows after)
    {sites : List Site} (hheld : ∀ site ∈ sites, before.Holds site.address) :
    after.shownAt sites = before.shownAt sites := by
  apply List.map_congr_left
  intro site hsite
  rw [hgrows.read_eq _ (hheld site hsite)]

/-- New leaves do not show in a chain that was there before. -/
theorem Store.Grows.render_eq {before after : Store} (hgrows : before.Grows after) {chain : Chain}
    (hheld : ∀ address ∈ chain.leaves, before.Holds address) :
    chain.render after = chain.render before := by
  apply Chain.render_eq_of_shownAt_eq rfl
  exact hgrows.shownAt_eq (List.forall_mem_map.mp hheld)

end TaggedExpr
