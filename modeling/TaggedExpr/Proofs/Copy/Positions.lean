import TaggedExpr.Chain
import TaggedExpr.Proofs.Copy.Sites

/-! # Copies, position by position

The cell that a path leads to in a copy is the copy of the cell that it leads to in the original,
made after the leaves before it were copied. With that the copy is known in full: an outline and the
leaves in order belong to one chain only. The same copy comes out when the cells are copied one
after the other, collected, and linked from the last one back.
-/

namespace TaggedExpr

/-! ## Outline and leaves determine a chain -/

mutual

theorem Chain.length_sites_outline (chain : Chain) :
    chain.outline.sites.length = chain.sites.length := by
  cases chain with
  | last tag payload => exact payload.length_sitesUnder_outline tag
  | cons tag payload rest =>
      simp only [Chain.outline, Chain.sites, List.length_append]
      rw [payload.length_sitesUnder_outline tag, rest.length_sites_outline]

theorem Payload.length_sitesUnder_outline (payload : Payload) (tag : SharedTag) :
    (payload.outline.sitesUnder tag).length = (payload.sitesUnder tag).length := by
  cases payload with
  | missing => rfl
  | leaf address => rfl
  | nested chain => exact chain.length_sites_outline

end

theorem Payload.length_sitesUnder_eq {first second : Payload}
    (houtline : first.outline = second.outline) (tag : SharedTag) :
    (first.sitesUnder tag).length = (second.sitesUnder tag).length := by
  rw [← first.length_sitesUnder_outline tag, houtline, second.length_sitesUnder_outline tag]

mutual

theorem Chain.eq_of_outline_eq {first second : Chain} (houtline : first.outline = second.outline)
    (hsites : first.sites = second.sites) : first = second := by
  cases first with
  | last tag payload =>
      cases second with
      | last tag' payload' =>
          simp only [Chain.outline, Chain.last.injEq] at houtline
          obtain ⟨rfl, hpayload⟩ := houtline
          rw [Payload.eq_of_outline_eq tag hpayload hsites]
      | cons tag' payload' rest' => cases houtline
  | cons tag payload rest =>
      cases second with
      | last tag' payload' => cases houtline
      | cons tag' payload' rest' =>
          simp only [Chain.outline, Chain.cons.injEq] at houtline
          obtain ⟨rfl, hpayload, hrest⟩ := houtline
          -- The leaves of the payload are as many on both sides, so the list falls into the same
          -- two parts.
          obtain ⟨hheld, hothers⟩ :=
            List.append_inj hsites (Payload.length_sitesUnder_eq hpayload tag)
          rw [Payload.eq_of_outline_eq tag hpayload hheld, Chain.eq_of_outline_eq hrest hothers]

theorem Payload.eq_of_outline_eq {first second : Payload} (tag : SharedTag)
    (houtline : first.outline = second.outline)
    (hsites : first.sitesUnder tag = second.sitesUnder tag) : first = second := by
  cases first with
  | missing =>
      cases second with
      | missing => rfl
      | leaf address => cases houtline
      | nested chain => cases houtline
  | leaf address =>
      cases second with
      | missing => cases houtline
      | leaf address' =>
          simp only [Payload.sitesUnder, List.cons.injEq, Site.mk.injEq] at hsites
          rw [hsites.1.2]
      | nested chain => cases houtline
  | nested chain =>
      cases second with
      | missing => cases houtline
      | leaf address => cases houtline
      | nested chain' =>
          simp only [Payload.outline, Payload.nested.injEq] at houtline
          rw [Chain.eq_of_outline_eq houtline hsites]

end

/-! ## Paths in a copy -/

/-- The store after some leaves have been copied, one after the other. -/
def storeAfter (sites : List Site) (store : Store) : Store := (duplicateSites sites store).store

theorem storeAfter_append (first second : List Site) (store : Store) :
    storeAfter (first ++ second) store = storeAfter second (storeAfter first store) := by
  rw [storeAfter, duplicateSites_append]
  rfl

theorem Payload.store_duplicateUnder (payload : Payload) (tag : SharedTag) (store : Store) :
    (payload.duplicateUnder tag.tag store).store =
      storeAfter (payload.sitesUnder tag) store :=
  congrArg Copied.store (payload.duplicateUnder_sites tag store)

/-- Some cells on, there is the copy of what is there in the original, and nothing if that has come
to its end. -/
theorem Chain.drop?_duplicate (chain : Chain) (store : Store) (count : Nat) :
    ∃ before, (∀ rest, chain.drop? count = some rest → chain.sites = before ++ rest.sites) ∧
      (chain.duplicate store).value.drop? count =
        (chain.drop? count).map fun rest => (rest.duplicate (storeAfter before store)).value := by
  induction count generalizing chain store with
  | zero =>
      refine ⟨[], ?_, rfl⟩
      rintro rest ⟨⟩
      rfl
  | succ count ih =>
      cases chain with
      | last tag payload => exact ⟨[], nofun, rfl⟩
      | cons tag payload rest =>
          obtain ⟨before, hsites, hcopy⟩ := ih rest (payload.duplicateUnder tag.tag store).store
          refine ⟨payload.sitesUnder tag ++ before, ?_, ?_⟩
          · intro later hlater
            rw [Chain.sites, hsites later hlater, List.append_assoc]
          · rw [storeAfter_append, ← payload.store_duplicateUnder]
            exact hcopy

theorem Chain.payload_duplicate (chain : Chain) (store : Store) :
    (chain.duplicate store).value.payload =
      (chain.payload.duplicateUnder chain.tag.tag store).value := by
  cases chain <;> rfl

theorem Chain.exists_sites_eq_append (chain : Chain) :
    ∃ after, chain.sites = chain.payload.sitesUnder chain.tag ++ after := by
  cases chain with
  | last tag payload => exact ⟨[], (List.append_nil _).symm⟩
  | cons tag payload rest => exact ⟨rest.sites, rfl⟩

/-- One step leads in a copy to the copy of what it leads to in the original. -/
theorem Chain.step_duplicate (chain : Chain) (store : Store) (step : Step) :
    ∃ before, (∀ next, chain.step step = .ok next →
        ∃ after, chain.sites = before ++ (next.sites ++ after)) ∧
      (chain.duplicate store).value.step step =
        (chain.step step).map fun next => (next.duplicate (storeAfter before store)).value := by
  cases step with
  | along count =>
      obtain ⟨before, hsites, hcopy⟩ := chain.drop?_duplicate store count
      refine ⟨before, ?_, ?_⟩
      · intro next hnext
        simp only [Chain.step] at hnext
        cases hfound : chain.drop? count with
        | none => simp [hfound] at hnext
        | some rest =>
            simp only [hfound, Except.ok.injEq] at hnext
            subst hnext
            exact ⟨[], by rw [hsites rest hfound, List.append_nil]⟩
      · simp only [Chain.step, hcopy]
        cases chain.drop? count <;> rfl
  | into =>
      refine ⟨[], ?_, ?_⟩
      · intro next hnext
        obtain ⟨after, hsites⟩ := chain.exists_sites_eq_append
        simp only [Chain.step] at hnext
        cases hpayload : chain.payload with
        | missing => simp [hpayload] at hnext
        | leaf address => simp [hpayload] at hnext
        | nested inner =>
            simp only [hpayload, Except.ok.injEq] at hnext
            subst hnext
            exact ⟨after, by rw [hsites, hpayload]; rfl⟩
      · simp only [Chain.step, chain.payload_duplicate]
        cases chain.payload <;> rfl

/-- A path leads in a copy to the copy of the cell that it leads to in the original, made when the
leaves before that cell had been copied; it leads nowhere if it leads nowhere in the original. -/
theorem Chain.follow_duplicate (chain : Chain) (store : Store) (path : Path) :
    ∃ before, (∀ cell, chain.follow path = .ok cell →
        ∃ after, chain.sites = before ++ (cell.sites ++ after)) ∧
      (chain.duplicate store).value.follow path =
        (chain.follow path).map fun cell => (cell.duplicate (storeAfter before store)).value := by
  induction path generalizing chain store with
  | nil =>
      refine ⟨[], ?_, rfl⟩
      rintro cell ⟨⟩
      exact ⟨[], (List.append_nil _).symm⟩
  | cons step path ih =>
      obtain ⟨before, hsites, hcopy⟩ := chain.step_duplicate store step
      simp only [Chain.follow, hcopy]
      cases hstep : chain.step step with
      | error error => exact ⟨[], nofun, rfl⟩
      | ok next =>
          obtain ⟨later, hlater, hfollow⟩ := ih next (storeAfter before store)
          obtain ⟨after, hsplit⟩ := hsites next hstep
          refine ⟨before ++ later, ?_, ?_⟩
          · intro cell hcell
            obtain ⟨others, hcellSites⟩ := hlater cell hcell
            exact ⟨others ++ after, by rw [hsplit, hcellSites]; simp⟩
          · rw [storeAfter_append]
            exact hfollow

/-! ## Collecting and linking -/

/-- Copies the payloads of cells, one after the other. -/
def collectCopies : List (SharedTag × Payload) → Store → Copied (List (SharedTag × Payload))
  | [], store => ⟨[], store, []⟩
  | (tag, payload) :: cells, store =>
    let copy := payload.duplicateUnder tag.tag store
    let others := collectCopies cells copy.store
    ⟨(tag, copy.value) :: others.value, others.store, copy.log ++ others.log⟩

/-- Puts a cell before the chain that is linked already, if there is any. -/
def Chain.linkBefore (linked : Option Chain) (cell : SharedTag × Payload) : Chain :=
  match linked with
  | none => .last cell.1 cell.2
  | some rest => .cons cell.1 cell.2 rest

/-- Links cells, from the last one back to the first. There is no chain without cells. -/
def Chain.link (cells : List (SharedTag × Payload)) : Option Chain :=
  cells.reverse.foldl (fun linked cell => some (Chain.linkBefore linked cell)) none

@[simp]
theorem Chain.link_cons (cell : SharedTag × Payload) (cells : List (SharedTag × Payload)) :
    Chain.link (cell :: cells) = some (Chain.linkBefore (Chain.link cells) cell) := by
  simp [Chain.link]

/-- Linking back to front gives the chain that a list of cells stands for. -/
theorem Chain.link_eq_ofList? (cells : List (SharedTag × Payload)) :
    Chain.link cells = Chain.ofList? cells := by
  induction cells with
  | nil => rfl
  | cons cell cells ih =>
      rw [Chain.link_cons, ih]
      cases cells <;> rfl

theorem Chain.ofList?_toList (chain : Chain) : Chain.ofList? chain.toList = some chain := by
  cases chain with
  | last tag payload => rfl
  | cons tag payload rest =>
      have hrest := rest.ofList?_toList
      cases rest with
      | last tag' payload' => rfl
      | cons tag' payload' rest' =>
          simp only [toList, ofList?, Option.some.injEq] at hrest ⊢
          rw [ofCells, hrest]

theorem collectCopies_toList (chain : Chain) (store : Store) :
    collectCopies chain.toList store = (chain.duplicate store).map Chain.toList := by
  cases chain with
  | last tag payload => simp [Chain.toList, collectCopies, Chain.duplicate, Copied.map]
  | cons tag payload rest =>
      simp [Chain.toList, collectCopies, Chain.duplicate, Copied.map, collectCopies_toList rest]

/-- Linking the collected copies never fails, and gives the copy of the chain. -/
theorem link_collectCopies (chain : Chain) (store : Store) :
    (collectCopies chain.toList store).map Chain.link = (chain.duplicate store).map some := by
  rw [collectCopies_toList]
  simp only [Copied.map, Chain.link_eq_ofList?, Chain.ofList?_toList]

/-- Copying a chain with another at its end is copying the one, then the other. -/
theorem Chain.duplicate_append (chain tail : Chain) (store : Store) :
    (chain.append tail).duplicate store =
      let copy := chain.duplicate store
      let others := tail.duplicate copy.store
      ⟨copy.value.append others.value, others.store, copy.log ++ others.log⟩ := by
  cases chain with
  | last tag payload => rfl
  | cons tag payload rest => simp [append, duplicate, rest.duplicate_append tail]

/-! ## The copy at each position -/

theorem Chain.tag_duplicate (chain : Chain) (store : Store) :
    (chain.duplicate store).value.tag = chain.tag := by
  cases chain <;> rfl

theorem getElem?_duplicateSites (before after : List Site) (site : Site) (store : Store) :
    (duplicateSites (before ++ site :: after) store).value[before.length]? =
      some ⟨site.tag, (site.duplicate (storeAfter before store)).value⟩ := by
  simp [duplicateSites_append, duplicateSites, storeAfter]

/-- What a copy has at the positions of its original, told by paths to cells and by the order of the
leaves. The leaf at a position is copied under the tag of the cell that holds it, in the store that
the leaves before it left behind; which tags there are further out does not matter. -/
structure PositionwiseCopy (chain : Chain) (store : Store) (copy : Copied Chain) : Prop where
  outline_eq : copy.value.outline = chain.outline
  /-- A path leads to a cell with the same tag and kind of payload, and with the same cells after it
  and in it, or for the same reason nowhere. -/
  outline_follow : ∀ path,
    (copy.value.follow path).map Chain.outline = (chain.follow path).map Chain.outline
  leaf_follow : ∀ path cell address, chain.follow path = .ok cell → cell.payload = .leaf address →
    ∃ before after copied, chain.sites = before ++ ⟨cell.tag, address⟩ :: after ∧
      copy.value.follow path = .ok copied ∧ copied.tag = cell.tag ∧
      copied.payload = .leaf (cell.tag.tag.duplicateLeaf address (storeAfter before store)).value
  /-- Leaves keep their order, and there are no others. -/
  length_sites : copy.value.sites.length = chain.sites.length
  getElem?_sites : ∀ before site after, chain.sites = before ++ site :: after →
    copy.value.sites[before.length]? =
      some ⟨site.tag, (site.tag.tag.duplicateLeaf site.address (storeAfter before store)).value⟩
  /-- Nothing else happens to the store. -/
  store_eq : copy.store = storeAfter chain.sites store
  /-- No other chain has these cells and these leaves. -/
  eq_of_sites_eq : ∀ other : Chain, other.outline = chain.outline →
    other.sites = copy.value.sites → other = copy.value

theorem Chain.outline_follow_duplicate (chain : Chain) (store : Store) (path : Path) :
    ((chain.duplicate store).value.follow path).map Chain.outline =
      (chain.follow path).map Chain.outline := by
  obtain ⟨before, _, hcopy⟩ := chain.follow_duplicate store path
  rw [hcopy]
  cases chain.follow path with
  | error error => rfl
  | ok cell => exact congrArg Except.ok (cell.outline_duplicate _)

theorem Chain.leaf_follow_duplicate {chain cell : Chain} {path : Path} {address : Address}
    (hcell : chain.follow path = .ok cell) (hpayload : cell.payload = .leaf address)
    (store : Store) : ∃ before after copied, chain.sites = before ++ ⟨cell.tag, address⟩ :: after ∧
      (chain.duplicate store).value.follow path = .ok copied ∧ copied.tag = cell.tag ∧
      copied.payload =
        .leaf (cell.tag.tag.duplicateLeaf address (storeAfter before store)).value := by
  obtain ⟨before, hsites, hcopy⟩ := chain.follow_duplicate store path
  obtain ⟨after, hsplit⟩ := hsites cell hcell
  obtain ⟨others, hown⟩ := cell.exists_sites_eq_append
  rw [hcell] at hcopy
  rw [hpayload] at hown
  refine ⟨before, others ++ after, (cell.duplicate (storeAfter before store)).value, ?_, hcopy,
    cell.tag_duplicate _, ?_⟩
  · rw [hsplit, hown]
    rfl
  · rw [cell.payload_duplicate, hpayload]
    rfl

/-- Copying a chain copies each leaf where it stands, once and in order, under the tag of its own
cell. Collecting the copied cells and linking them back to front gives that copy and never fails.
A nested chain is copied in the same way under every tag, and a chain in the same way whatever is
appended to it, as is what is appended. -/
theorem duplicate_positionwise (chain : Chain) (store : Store) :
    PositionwiseCopy chain store (chain.duplicate store) ∧
    (collectCopies chain.toList store).map Chain.link = (chain.duplicate store).map some ∧
    (∀ tag : Tag, (Payload.nested chain).duplicateUnder tag store =
      (chain.duplicate store).map .nested) ∧
    ∀ tail : Chain, (chain.append tail).duplicate store =
      let copy := chain.duplicate store
      let others := tail.duplicate copy.store
      ⟨copy.value.append others.value, others.store, copy.log ++ others.log⟩ := by
  refine ⟨⟨chain.outline_duplicate store, chain.outline_follow_duplicate store, ?_, ?_, ?_,
    chain.store_duplicate store, ?_⟩, link_collectCopies chain store, fun _ => rfl,
    fun tail => chain.duplicate_append tail store⟩
  · intro path cell address hcell hpayload
    exact Chain.leaf_follow_duplicate hcell hpayload store
  · rw [chain.sites_duplicate, length_duplicateSites]
  · intro before site after hsites
    rw [chain.sites_duplicate, hsites]
    exact getElem?_duplicateSites before after site store
  · intro other houtline hsites
    exact Chain.eq_of_outline_eq (houtline.trans (chain.outline_duplicate store).symm) hsites

-- The tag around a nested chain does not matter to a leaf in it: only the second counter is copied.
example :
    let counting : SharedTag := ⟨7, .defined "counting" none [.cloning .counter]⟩
    let plain : SharedTag := ⟨8, .defined "plain" none []⟩
    let nested := Payload.nested (.last plain (.leaf ⟨0⟩))
    let chain := Chain.cons counting nested (.last counting (.leaf ⟨0⟩))
    (chain.duplicate ⟨#[.counter 5]⟩).value.leaves = [⟨0⟩, ⟨1⟩] := rfl

end TaggedExpr
