import TaggedExpr.Proofs.Copy.Sites
import TaggedExpr.Proofs.Store
import TaggedExpr.Stock

/-! # Copies are isolated

As long as the ways to copy a leaf make new leaves, a copy shares with its original those leaves
only that nothing could copy. Every other leaf of the copy is new and stands at one position, even
where the original has one leaf at several. So writing through the one tree shows in the other at
the shared leaves alone.
-/

namespace TaggedExpr

/-- Whether a replica takes a new leaf. -/
def Replica.IsFresh (replica : Replica) : Prop := ∃ atom, replica = .fresh atom

theorem Replica.grows_place (replica : Replica) (store : Store) :
    store.Grows (replica.place store).2 := by
  cases replica with
  | fresh atom => exact .allocate store atom
  | shared address => exact .refl store

/-- An atom of a type that is not defined elsewhere, such as a register, makes a new leaf when it
copies itself. -/
theorem Atom.isFresh_of_copySelf {atom : Atom} {replica : Replica}
    (hknown : ∀ type, atom.type ≠ .foreign type) (hcopy : atom.copySelf = .ok replica) :
    replica.IsFresh := by
  unfold Atom.copySelf at hcopy
  split at hcopy
  case h_1 => cases hcopy; exact ⟨_, rfl⟩
  case h_3 device =>
    split at hcopy
    all_goals cases hcopy
    all_goals exact ⟨_, rfl⟩
  case h_5 face replica => exact absurd rfl (hknown face.type)
  all_goals cases hcopy

namespace Site

/-- Both ways to copy the leaf fail. -/
structure Resists (site : Site) (store : Store) : Prop where
  own : ∃ error, (store.read site.address).copySelf = .error error
  constructed : ∃ error, site.tag.tag.construct (store.read site.address) = .error error

/-- A way that is tried on the leaf and succeeds gives a new leaf. The tag's copier is tried only
if the atom could not copy itself. -/
structure CopiesAfresh (site : Site) (store : Store) : Prop where
  own : ∀ replica, (store.read site.address).copySelf = .ok replica → replica.IsFresh
  constructed : ∀ error replica, (store.read site.address).copySelf = .error error →
    site.tag.tag.construct (store.read site.address) = .ok replica → replica.IsFresh

/-- Cloning makes new leaves, so a tag that knows no other copiers needs to be asked only about
atoms that copy themselves. -/
theorem copiesAfresh_of_clonesBy {site : Site} {store : Store}
    (hown : ∀ replica, (store.read site.address).copySelf = .ok replica → replica.IsFresh)
    (hcopier : ∀ copier, site.tag.tag.copier? (store.read site.address).type = some copier →
      ∃ clone, copier.ClonesBy clone) : site.CopiesAfresh store := by
  refine ⟨hown, ?_⟩
  intro error replica _ hmade
  obtain ⟨copier, hfound, hconstruct⟩ := Tag.exists_copier_of_construct_eq_ok hmade
  obtain ⟨clone, hclones⟩ := hcopier copier hfound
  exact ⟨_, (hclones.of_construct_eq_ok hconstruct).2⟩

theorem resists_congr (site : Site) {before after : Store}
    (hread : after.read site.address = before.read site.address) :
    site.Resists after ↔ site.Resists before := by
  constructor
  · rintro ⟨hown, hconstructed⟩
    exact ⟨hread ▸ hown, hread ▸ hconstructed⟩
  · rintro ⟨hown, hconstructed⟩
    exact ⟨hread ▸ hown, hread ▸ hconstructed⟩

theorem CopiesAfresh.congr {site : Site} {before after : Store}
    (hread : after.read site.address = before.read site.address)
    (hafresh : site.CopiesAfresh before) : site.CopiesAfresh after := by
  refine ⟨?_, ?_⟩
  · rw [hread]
    exact hafresh.own
  · rw [hread]
    exact hafresh.constructed

theorem grows_duplicate (site : Site) (store : Store) :
    store.Grows (site.duplicate store).store := by
  simp only [duplicate, Tag.duplicateLeaf]
  cases (store.read site.address).copySelf with
  | ok replica => exact replica.grows_place store
  | error own =>
      cases site.tag.tag.construct (store.read site.address) with
      | ok replica => exact replica.grows_place store
      | error constructed => exact .refl store

/-- Copying one leaf either shares it and leaves the store alone, because nothing could copy it, or
puts a single new leaf at the end of the store. -/
theorem duplicate_cases {site : Site} {store : Store} (hafresh : site.CopiesAfresh store) :
    (site.Resists store ∧ (site.duplicate store).value = site.address ∧
      (site.duplicate store).store = store) ∨
    (¬ site.Resists store ∧ ∃ atom, (site.duplicate store).value = (store.allocate atom).1 ∧
      (site.duplicate store).store = (store.allocate atom).2) := by
  simp only [duplicate, Tag.duplicateLeaf]
  -- The cases are the ways in the order in which they are tried.
  cases hown : (store.read site.address).copySelf with
  | ok replica =>
      obtain ⟨atom, rfl⟩ := hafresh.own replica hown
      refine .inr ⟨?_, atom, rfl, rfl⟩
      rintro ⟨⟨error, herror⟩, _⟩
      rw [hown] at herror
      cases herror
  | error own =>
      cases hconstructed : site.tag.tag.construct (store.read site.address) with
      | ok replica =>
          obtain ⟨atom, rfl⟩ := hafresh.constructed own replica hown hconstructed
          refine .inr ⟨?_, atom, rfl, rfl⟩
          rintro ⟨_, error, herror⟩
          rw [hconstructed] at herror
          cases herror
      | error constructed => exact .inl ⟨⟨⟨own, hown⟩, ⟨constructed, hconstructed⟩⟩, rfl, rfl⟩

theorem address_duplicate_of_resists {site : Site} {store : Store}
    (hafresh : site.CopiesAfresh store) (hresists : site.Resists store) :
    (site.duplicate store).value = site.address := by
  rcases duplicate_cases hafresh with ⟨_, haddress, _⟩ | ⟨hnot, _⟩
  · exact haddress
  · exact absurd hresists hnot

theorem not_holds_duplicate_of_not_resists {site : Site} {store : Store}
    (hafresh : site.CopiesAfresh store) (hresists : ¬ site.Resists store) :
    ¬ store.Holds (site.duplicate store).value := by
  rcases duplicate_cases hafresh with ⟨hyes, _⟩ | ⟨_, atom, haddress, _⟩
  · exact absurd hyes hresists
  · rw [haddress]
    exact Nat.lt_irrefl _

theorem holds_duplicate {site : Site} {store : Store} (hafresh : site.CopiesAfresh store)
    (hheld : store.Holds site.address) :
    (site.duplicate store).store.Holds (site.duplicate store).value := by
  rcases duplicate_cases hafresh with ⟨_, haddress, hstore⟩ | ⟨_, atom, haddress, hstore⟩
  · rw [haddress, hstore]
    exact hheld
  · rw [haddress, hstore]
    exact store.holds_allocate atom

end Site

/-! ## Copying the leaves one after the other -/

theorem grows_duplicateSites (sites : List Site) (store : Store) :
    store.Grows (duplicateSites sites store).store := by
  induction sites generalizing store with
  | nil => exact .refl store
  | cons site sites ih => exact (site.grows_duplicate store).trans (ih _)

/-- Copying a chain changes no leaf that was there before. -/
theorem Chain.grows_duplicate (chain : Chain) (store : Store) :
    store.Grows (chain.duplicate store).store := by
  rw [chain.store_duplicate]
  exact grows_duplicateSites _ _

/-- Each of the leaves is in the store, and its copies are new leaves. -/
def Copyable (sites : List Site) (store : Store) : Prop :=
  ∀ site ∈ sites, store.Holds site.address ∧ site.CopiesAfresh store

theorem Copyable.mono {sites : List Site} {before after : Store} (hgrows : before.Grows after)
    (hcopyable : Copyable sites before) : Copyable sites after := by
  intro site hsite
  obtain ⟨hheld, hafresh⟩ := hcopyable site hsite
  exact ⟨hgrows.holds hheld, hafresh.congr (hgrows.read_eq _ hheld)⟩

/-- What was copied before does not change how a leaf is copied. -/
theorem Copyable.resists_iff {sites : List Site} {before after : Store}
    (hgrows : before.Grows after) (hcopyable : Copyable sites before) {site : Site}
    (hsite : site ∈ sites) : site.Resists after ↔ site.Resists before :=
  site.resists_congr (hgrows.read_eq _ (hcopyable site hsite).1)

theorem Copyable.tail {site : Site} {sites : List Site} {store : Store}
    (hcopyable : Copyable (site :: sites) store) : Copyable sites store :=
  fun later hlater => hcopyable later (List.mem_cons_of_mem _ hlater)

/-- Where a leaf stands after copying, compared with where it stood before: the same leaf if nothing
could copy it, else a leaf that there was not before. -/
structure Site.CopiedTo (site copied : Site) (before after : Store) : Prop where
  tag_eq : copied.tag = site.tag
  holds : after.Holds copied.address
  shared : site.Resists before → copied.address = site.address
  fresh : ¬ site.Resists before → ¬ before.Holds copied.address

theorem Site.duplicate_copiedTo {site : Site} {store : Store} (hheld : store.Holds site.address)
    (hafresh : site.CopiesAfresh store) :
    site.CopiedTo ⟨site.tag, (site.duplicate store).value⟩ store (site.duplicate store).store :=
  ⟨rfl, holds_duplicate hafresh hheld, address_duplicate_of_resists hafresh,
    not_holds_duplicate_of_not_resists hafresh⟩

theorem duplicateSites_copiedTo {sites : List Site} {store : Store}
    (hcopyable : Copyable sites store) {index : Nat} {site copied : Site}
    (hsite : sites[index]? = some site)
    (hcopied : (duplicateSites sites store).value[index]? = some copied) :
    site.CopiedTo copied store (duplicateSites sites store).store := by
  induction sites generalizing store index with
  | nil => simp at hsite
  | cons head sites ih =>
      obtain ⟨hheld, hafresh⟩ := hcopyable head List.mem_cons_self
      have hgrows := head.grows_duplicate store
      cases index with
      | zero =>
          -- The copy of the head is made first, and no later copy takes it away.
          simp only [List.getElem?_cons_zero, Option.some.injEq] at hsite
          simp only [duplicateSites, List.getElem?_cons_zero, Option.some.injEq] at hcopied
          subst hsite hcopied
          have hplace := head.duplicate_copiedTo hheld hafresh
          exact { hplace with holds := (grows_duplicateSites sites _).holds hplace.holds }
      | succ index =>
          -- The induction hypothesis speaks of the store that the head left behind, in which the
          -- site resists just if it did before.
          simp only [List.getElem?_cons_succ] at hsite
          simp only [duplicateSites, List.getElem?_cons_succ] at hcopied
          have hplace := ih (hcopyable.tail.mono hgrows) hsite hcopied
          have hresists := hcopyable.tail.resists_iff hgrows (List.mem_of_getElem? hsite)
          refine ⟨hplace.tag_eq, hplace.holds, ?_, ?_⟩
          · intro hyes
            exact hplace.shared (hresists.mpr hyes)
          · intro hno hheld
            exact hplace.fresh (fun hyes => hno (hresists.mp hyes)) (hgrows.holds hheld)

/-- The copy of the first leaf is not made anew for a later one: a later copy that is shared was
there before, and a later copy that is new was not there when the first one was. -/
theorem duplicateSites_ne_head {head : Site} {sites : List Site} {store : Store}
    (hcopyable : Copyable (head :: sites) store) {index : Nat} {site copied : Site}
    (hsite : sites[index]? = some site)
    (hcopied : (duplicateSites sites (head.duplicate store).store).value[index]? = some copied)
    (hresists : ¬ head.Resists store ∨ ¬ site.Resists store) :
    copied.address ≠ (head.duplicate store).value := by
  obtain ⟨hheld, hafresh⟩ := hcopyable head List.mem_cons_self
  have hgrows := head.grows_duplicate store
  have hhead := head.duplicate_copiedTo hheld hafresh
  have hplace := duplicateSites_copiedTo (hcopyable.tail.mono hgrows) hsite hcopied
  have hiff := hcopyable.tail.resists_iff hgrows (List.mem_of_getElem? hsite)
  intro haddress
  by_cases hlater : site.Resists store
  · have hshared : copied.address = site.address := hplace.shared (hiff.mpr hlater)
    have hold : store.Holds site.address := (hcopyable.tail site (List.mem_of_getElem? hsite)).1
    apply hhead.fresh (hresists.resolve_right (not_not_intro hlater))
    rw [← haddress, hshared]
    exact hold
  · apply hplace.fresh (fun hyes => hlater (hiff.mp hyes))
    rw [haddress]
    exact hhead.holds

/-- A new leaf is at no other position among the copies. -/
theorem duplicateSites_index_eq {sites : List Site} {store : Store}
    (hcopyable : Copyable sites store) {index other : Nat} {site copied copiedOther : Site}
    (hsite : sites[index]? = some site) (hresists : ¬ site.Resists store)
    (hcopied : (duplicateSites sites store).value[index]? = some copied)
    (hother : (duplicateSites sites store).value[other]? = some copiedOther)
    (haddress : copiedOther.address = copied.address) : other = index := by
  induction sites generalizing store index other with
  | nil => simp at hsite
  | cons head sites ih =>
      have hgrows := head.grows_duplicate store
      cases index with
      | zero =>
          simp only [List.getElem?_cons_zero, Option.some.injEq] at hsite
          simp only [duplicateSites, List.getElem?_cons_zero, Option.some.injEq] at hcopied
          subst hsite hcopied
          cases other with
          | zero => rfl
          | succ other =>
              simp only [duplicateSites, List.getElem?_cons_succ] at hother
              obtain ⟨siteOther, hsiteOther⟩ : ∃ siteOther, sites[other]? = some siteOther := by
                have hlength := (List.getElem?_eq_some_iff.mp hother).1
                rw [length_duplicateSites] at hlength
                exact ⟨_, List.getElem?_eq_getElem hlength⟩
              exact absurd haddress
                (duplicateSites_ne_head hcopyable hsiteOther hother (.inl hresists))
      | succ index =>
          simp only [List.getElem?_cons_succ] at hsite
          simp only [duplicateSites, List.getElem?_cons_succ] at hcopied
          cases other with
          | zero =>
              simp only [duplicateSites, List.getElem?_cons_zero, Option.some.injEq] at hother
              subst hother
              exact absurd haddress.symm
                (duplicateSites_ne_head hcopyable hsite hcopied (.inr hresists))
          | succ other =>
              simp only [duplicateSites, List.getElem?_cons_succ] at hother
              have hiff := hcopyable.tail.resists_iff hgrows (List.mem_of_getElem? hsite)
              rw [ih (hcopyable.tail.mono hgrows) hsite (fun hyes => hresists (hiff.mp hyes))
                hcopied hother]

/-! ## Isolation of a copy -/

theorem exists_write_of_read_ne {store : Store} {writes : List (Address × Atom)}
    {address : Address} (hne : (store.writeAll writes).read address ≠ store.read address) :
    ∃ write ∈ writes, write.1 = address := by
  apply Classical.byContradiction
  intro hnone
  apply hne
  apply store.read_writeAll_of_not_mem
  intro write hwrite heq
  exact hnone ⟨write, hwrite, heq⟩

/-- How far a copy is isolated from its original. Positions of leaves are counted in order, through
all nested chains; the equal outlines make one number the same place in both. -/
structure IsolatedCopy (chain : Chain) (store : Store) (copy : Copied Chain) : Prop where
  /-- Copying changes no leaf that was there before. -/
  grows : store.Grows copy.store
  outline_eq : copy.value.outline = chain.outline
  /-- A leaf that resisted is shared, any other is new. -/
  copiedTo : ∀ (index : Nat) (site : Site), chain.sites[index]? = some site →
    ∃ copied, copy.value.sites[index]? = some copied ∧ site.CopiedTo copied store copy.store
  /-- A new leaf is at one position of the copy. -/
  index_eq : ∀ (index other : Nat) (site copied copiedOther : Site),
    chain.sites[index]? = some site → ¬ site.Resists store →
    copy.value.sites[index]? = some copied → copy.value.sites[other]? = some copiedOther →
    copiedOther.address = copied.address → other = index
  /-- Writing to leaves of the copy, at any later time, changes a leaf of the original only if that
  has a position where it resisted. -/
  written_through_copy : ∀ (now : Store) (writes : List (Address × Atom)),
    (∀ write ∈ writes, write.1 ∈ copy.value.leaves) → ∀ address ∈ chain.leaves,
    (now.writeAll writes).read address ≠ now.read address →
    ∃ site ∈ chain.sites, site.address = address ∧ site.Resists store
  /-- Writing to leaves of the original changes the leaf at a position of the copy only if the
  original's leaf at that position resisted, and is the same one. -/
  written_through_original : ∀ (now : Store) (writes : List (Address × Atom)),
    (∀ write ∈ writes, write.1 ∈ chain.leaves) → ∀ (index : Nat) (site copied : Site),
    chain.sites[index]? = some site → copy.value.sites[index]? = some copied →
    (now.writeAll writes).read copied.address ≠ now.read copied.address →
    site.Resists store ∧ copied.address = site.address

variable {chain : Chain} {store : Store}

theorem copyable_sites (hheld : ∀ address ∈ chain.leaves, store.Holds address)
    (hafresh : ∀ site ∈ chain.sites, site.CopiesAfresh store) : Copyable chain.sites store :=
  fun site hsite => ⟨hheld _ (List.mem_map_of_mem hsite), hafresh site hsite⟩

theorem resists_of_holds {site copied : Site} {before after : Store}
    (hplace : site.CopiedTo copied before after) (hheld : before.Holds copied.address) :
    site.Resists before :=
  Classical.byContradiction fun hno => hplace.fresh hno hheld

theorem duplicate_copiedTo (hcopyable : Copyable chain.sites store) {index : Nat}
    {site copied : Site} (hsite : chain.sites[index]? = some site)
    (hcopied : (chain.duplicate store).value.sites[index]? = some copied) :
    site.CopiedTo copied store (chain.duplicate store).store := by
  rw [chain.sites_duplicate] at hcopied
  rw [chain.store_duplicate]
  exact duplicateSites_copiedTo hcopyable hsite hcopied

/-- If every way to copy a leaf of a chain makes a new leaf whenever it works, the copy of the chain
is isolated from it, whatever leaves the chain has in common with itself. -/
theorem duplicate_isolated (hheld : ∀ address ∈ chain.leaves, store.Holds address)
    (hafresh : ∀ site ∈ chain.sites, site.CopiesAfresh store) :
    IsolatedCopy chain store (chain.duplicate store) := by
  have hcopyable := copyable_sites hheld hafresh
  have hlength : (chain.duplicate store).value.sites.length = chain.sites.length := by
    rw [chain.sites_duplicate, length_duplicateSites]
  refine ⟨chain.grows_duplicate store, chain.outline_duplicate store, ?_, ?_, ?_, ?_⟩
  · intro index site hsite
    have hindex := hlength ▸ (List.getElem?_eq_some_iff.mp hsite).1
    exact ⟨_, List.getElem?_eq_getElem hindex,
      duplicate_copiedTo hcopyable hsite (List.getElem?_eq_getElem hindex)⟩
  · intro index other site copied copiedOther hsite hresists hcopied hother haddress
    rw [chain.sites_duplicate] at hcopied hother
    exact duplicateSites_index_eq hcopyable hsite hresists hcopied hother haddress
  · intro now writes hwrites address haddress hne
    obtain ⟨write, hwrite, rfl⟩ := exists_write_of_read_ne hne
    obtain ⟨copied, hcopied, heq⟩ := List.mem_map.mp (hwrites write hwrite)
    obtain ⟨index, hindex⟩ := List.mem_iff_getElem?.mp hcopied
    -- The leaf of the copy that was written to is one of the original, so it was there before.
    have hsite := List.getElem?_eq_getElem (hlength ▸ (List.getElem?_eq_some_iff.mp hindex).1)
    have hplace := duplicate_copiedTo hcopyable hsite hindex
    have hresists := resists_of_holds hplace (heq ▸ hheld _ haddress)
    exact ⟨_, List.mem_of_getElem? hsite, (hplace.shared hresists).symm.trans heq, hresists⟩
  · intro now writes hwrites index site copied hsite hcopied hne
    obtain ⟨write, hwrite, heq⟩ := exists_write_of_read_ne hne
    have hplace := duplicate_copiedTo hcopyable hsite hcopied
    have hresists := resists_of_holds hplace (heq ▸ hheld _ (hwrites write hwrite))
    exact ⟨hresists, hplace.shared hresists⟩

/-- A counter, a register and a symbol. -/
def mixedStore : Store := ⟨#[.counter 5, .register 1 false, .symbol "x"]⟩

/-- The counter twice, under a tag that clones counters, then the register and the symbol, nested
and under tags without copiers. -/
def mixedChain : Chain :=
  let counted : SharedTag := ⟨7, .defined "counter" none [.cloning .counter]⟩
  .cons counted (.leaf ⟨0⟩) <| .cons counted (.leaf ⟨0⟩) <| .last Stock.list <| .nested <|
    .cons Stock.atom (.leaf ⟨1⟩) (.last Stock.symbol (.leaf ⟨2⟩))

/-- Of the leaves of the mixed chain only the symbol is shared, and the counter is copied twice. -/
theorem duplicate_isolated_mixedChain :
    (∀ address ∈ mixedChain.leaves, mixedStore.Holds address) ∧
    (∀ site ∈ mixedChain.sites, site.CopiesAfresh mixedStore) ∧
    (mixedChain.duplicate mixedStore).value.leaves = [⟨3⟩, ⟨4⟩, ⟨5⟩, ⟨2⟩] ∧
    IsolatedCopy mixedChain mixedStore (mixedChain.duplicate mixedStore) := by
  have hheld : ∀ address ∈ mixedChain.leaves, mixedStore.Holds address := by
    unfold Store.Holds
    decide
  have hafresh : ∀ site ∈ mixedChain.sites, site.CopiesAfresh mixedStore := by
    intro site hsite
    simp only [mixedChain, Chain.sites, Payload.sitesUnder, List.cons_append, List.nil_append,
      List.mem_cons, List.not_mem_nil, or_false] at hsite
    rcases hsite with rfl | rfl | rfl | rfl
    all_goals refine Site.copiesAfresh_of_clonesBy (fun _ => Atom.isFresh_of_copySelf nofun) ?_
    all_goals rintro copier ⟨⟩
    all_goals exact ⟨_, rfl⟩
  exact ⟨hheld, hafresh, rfl, duplicate_isolated hheld hafresh⟩

end TaggedExpr
