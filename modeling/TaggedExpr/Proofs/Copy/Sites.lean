import TaggedExpr.Copy.Duplicate

/-! # The places of leaves

A leaf is copied under the tag of the cell that holds it directly. Listing these pairs in order
turns the copying of a chain, with all that is nested in it, into the copying of a list: one leaf
after the other, each with the store that the ones before it left behind.
-/

namespace TaggedExpr

/-- A leaf where a chain has it: the tag of the cell that holds it directly, and its address. -/
structure Site where
  tag : SharedTag
  address : Address

mutual

/-- The leaves of a chain in order, those of a nested chain in its place. -/
def Chain.sites : Chain → List Site
  | .last tag payload => payload.sitesUnder tag
  | .cons tag payload rest => payload.sitesUnder tag ++ rest.sites

/-- The leaves of the payload of a cell with the given tag. -/
def Payload.sitesUnder (tag : SharedTag) : Payload → List Site
  | .missing => []
  | .leaf address => [⟨tag, address⟩]
  | .nested chain => chain.sites

end

/-- The addresses of the leaves of a chain. One may occur several times. -/
def Chain.leaves (chain : Chain) : List Address := chain.sites.map (·.address)

theorem Chain.sites_append (chain tail : Chain) :
    (chain.append tail).sites = chain.sites ++ tail.sites := by
  cases chain with
  | last tag payload => rfl
  | cons tag payload rest => rw [append, sites, sites, rest.sites_append tail, List.append_assoc]

mutual

/-- What is left of a chain when its leaves are not told apart: its cells with their tags, and
where payloads are missing, leaves, or nested. -/
def Chain.outline : Chain → Chain
  | .last tag payload => .last tag payload.outline
  | .cons tag payload rest => .cons tag payload.outline rest.outline

/-- What is left of a payload when its leaves are not told apart. -/
def Payload.outline : Payload → Payload
  | .missing => .missing
  | .leaf _ => .leaf ⟨0⟩
  | .nested chain => .nested chain.outline

end

/-- The copy of a leaf under the tag of its cell. -/
def Site.duplicate (site : Site) (store : Store) : Copied Address :=
  site.tag.tag.duplicateLeaf site.address store

/-- A function of the copy; the store and the records stay. -/
def Copied.map (change : α → β) (copy : Copied α) : Copied β :=
  ⟨change copy.value, copy.store, copy.log⟩

/-- The copies of leaves, made one after the other. Each one stands where its original stood. -/
def duplicateSites : List Site → Store → Copied (List Site)
  | [], store => ⟨[], store, []⟩
  | site :: sites, store =>
    let copy := site.duplicate store
    let others := duplicateSites sites copy.store
    ⟨⟨site.tag, copy.value⟩ :: others.value, others.store, copy.log ++ others.log⟩

theorem duplicateSites_append (first second : List Site) (store : Store) :
    duplicateSites (first ++ second) store =
      let copy := duplicateSites first store
      let others := duplicateSites second copy.store
      ⟨copy.value ++ others.value, others.store, copy.log ++ others.log⟩ := by
  induction first generalizing store with
  | nil => rfl
  | cons site sites ih => simp [duplicateSites, ih]

@[simp]
theorem length_duplicateSites (sites : List Site) (store : Store) :
    (duplicateSites sites store).value.length = sites.length := by
  induction sites generalizing store with
  | nil => rfl
  | cons site sites ih => simp [duplicateSites, ih]

mutual

/-- Copying a chain copies its leaves in order, each under the tag of its own cell. -/
theorem Chain.duplicate_sites (chain : Chain) (store : Store) :
    (chain.duplicate store).map Chain.sites = duplicateSites chain.sites store := by
  cases chain with
  | last tag payload => exact payload.duplicateUnder_sites tag store
  | cons tag payload rest =>
      have hpayload := payload.duplicateUnder_sites tag store
      have hrest := rest.duplicate_sites (payload.duplicateUnder tag.tag store).store
      simp only [Copied.map] at hpayload hrest
      simp only [Chain.duplicate, Chain.sites, Copied.map, duplicateSites_append]
      rw [← hpayload, ← hrest]

theorem Payload.duplicateUnder_sites (payload : Payload) (tag : SharedTag) (store : Store) :
    (payload.duplicateUnder tag.tag store).map (·.sitesUnder tag) =
      duplicateSites (payload.sitesUnder tag) store := by
  cases payload with
  | missing => rfl
  | leaf address =>
      simp [Payload.duplicateUnder, Payload.sitesUnder, duplicateSites, Site.duplicate, Copied.map]
  | nested chain => exact chain.duplicate_sites store

end

theorem Chain.sites_duplicate (chain : Chain) (store : Store) :
    (chain.duplicate store).value.sites = (duplicateSites chain.sites store).value :=
  congrArg Copied.value (chain.duplicate_sites store)

theorem Chain.store_duplicate (chain : Chain) (store : Store) :
    (chain.duplicate store).store = (duplicateSites chain.sites store).store :=
  congrArg Copied.store (chain.duplicate_sites store)

theorem Chain.log_duplicate (chain : Chain) (store : Store) :
    (chain.duplicate store).log = (duplicateSites chain.sites store).log :=
  congrArg Copied.log (chain.duplicate_sites store)

mutual

/-- A copy has the cells, tags and kinds of payload of its original. -/
theorem Chain.outline_duplicate (chain : Chain) (store : Store) :
    (chain.duplicate store).value.outline = chain.outline := by
  cases chain with
  | last tag payload =>
      simp only [Chain.duplicate, Chain.outline, payload.outline_duplicateUnder tag.tag store]
  | cons tag payload rest =>
      simp only [Chain.duplicate, Chain.outline, payload.outline_duplicateUnder tag.tag store]
      rw [rest.outline_duplicate]

theorem Payload.outline_duplicateUnder (payload : Payload) (tag : Tag) (store : Store) :
    (payload.duplicateUnder tag store).value.outline = payload.outline := by
  cases payload with
  | missing => rfl
  | leaf address => rfl
  | nested chain =>
      simp only [Payload.duplicateUnder, Payload.outline, chain.outline_duplicate store]

end

/-! ## Structural copies -/

mutual

/-- A structural copy shares every leaf, at its place. -/
theorem Chain.sites_structuralCopy (chain : Chain) : chain.structuralCopy.sites = chain.sites := by
  cases chain with
  | last tag payload => exact payload.sitesUnder_structuralCopy tag
  | cons tag payload rest =>
      simp only [Chain.structuralCopy, Chain.sites, payload.sitesUnder_structuralCopy tag]
      rw [rest.sites_structuralCopy]

theorem Payload.sitesUnder_structuralCopy (payload : Payload) (tag : SharedTag) :
    payload.structuralCopy.sitesUnder tag = payload.sitesUnder tag := by
  cases payload with
  | missing => rfl
  | leaf address => rfl
  | nested chain => exact chain.sites_structuralCopy

end

mutual

theorem Chain.outline_structuralCopy (chain : Chain) :
    chain.structuralCopy.outline = chain.outline := by
  cases chain with
  | last tag payload =>
      simp only [Chain.structuralCopy, Chain.outline, payload.outline_structuralCopy]
  | cons tag payload rest =>
      simp only [Chain.structuralCopy, Chain.outline, payload.outline_structuralCopy]
      rw [rest.outline_structuralCopy]

theorem Payload.outline_structuralCopy (payload : Payload) :
    payload.structuralCopy.outline = payload.outline := by
  cases payload with
  | missing => rfl
  | leaf address => rfl
  | nested chain =>
      simp only [Payload.structuralCopy, Payload.outline, chain.outline_structuralCopy]

end

theorem Chain.leaves_structuralCopy (chain : Chain) : chain.structuralCopy.leaves = chain.leaves :=
  congrArg (List.map Site.address) chain.sites_structuralCopy

end TaggedExpr
