import TaggedExpr.Proofs.Copy.Sites
import TaggedExpr.Proofs.Render.Pieces
import TaggedExpr.Stock

/-! # Failures while rendering

Rendering stops where the sink runs out of room, or at the first leaf that does not display in full.
What becomes of such a leaf is up to the tag of the cell that holds it. A failure of the leaf is
passed on to the caller, but not by the tag of quoted strings: it asks for the whole text of the
leaf beforehand, and panics if the leaf fails to give it.
-/

namespace TaggedExpr

open Shown

/-- Whether there is room for a text. -/
def Sink.Takes (sink : Sink) (text : String) : Prop :=
  ∀ room, sink.room = some room → text.length ≤ room

/-- The first of some leaves that does not display in full. -/
def Store.firstBroken? (store : Store) (sites : List Site) : Option Site :=
  sites.find? fun site => !(store.read site.address).display.complete

/-- What is written for a leaf by the tag that holds it. -/
def Site.piece (store : Store) (site : Site) : Shown :=
  site.tag.tag.leafPiece (store.read site.address)

/-! ## One stretch -/

namespace Shown

theorem outcome_write_of_takes {shown : Shown} {sink : Sink} (htakes : sink.Takes shown.text) :
    (shown.write sink).1 = shown.ending := by
  obtain ⟨before, room⟩ := sink
  cases room with
  | none => rfl
  | some room => rw [write_of_le (htakes room rfl)]

theorem outcome_write_of_not_takes {shown : Shown} {sink : Sink}
    (htakes : ¬ sink.Takes shown.text) : (shown.write sink).1 = .failed := by
  obtain ⟨before, room⟩ := sink
  cases room with
  | none => exact absurd nofun htakes
  | some room =>
      by_cases hfits : shown.text.length ≤ room
      · apply absurd _ htakes
        rintro _ ⟨⟩
        exact hfits
      · rw [write_of_lt (by omega)]

theorem outcome_write_eq_failed_iff {shown : Shown} {sink : Sink} :
    (shown.write sink).1 = .failed ↔ ¬ sink.Takes shown.text ∨ shown.ending = .failed := by
  by_cases htakes : sink.Takes shown.text
  · simp [outcome_write_of_takes htakes, htakes]
  · simp [outcome_write_of_not_takes htakes, htakes]

theorem outcome_write_eq_iff {shown : Shown} {sink : Sink} {outcome : Outcome}
    (hne : outcome ≠ .failed) :
    (shown.write sink).1 = outcome ↔ sink.Takes shown.text ∧ shown.ending = outcome := by
  by_cases htakes : sink.Takes shown.text
  · simp [outcome_write_of_takes htakes, htakes]
  · simp [outcome_write_of_not_takes htakes, htakes, hne.symm]

/-- The stretches that do not come to their end. -/
def broken (pieces : List Shown) : List Shown := pieces.filter (!·.complete)

@[simp]
theorem broken_append (first second : List Shown) :
    broken (first ++ second) = broken first ++ broken second :=
  List.filter_append first second

@[simp]
theorem broken_whole (text : String) : broken [whole text] = [] := rfl

@[simp]
theorem broken_symbol (symbol : Option String) : broken (symbol.map whole).toList = [] := by
  cases symbol <;> rfl

/-- The first stretch that breaks off decides how all of them end. -/
theorem ending_joined (pieces : List Shown) :
    (joined pieces).ending = ((broken pieces).head?.map (·.ending)).getD .done := by
  rw [broken, List.head?_filter, joined]
  cases pieces.find? (!·.complete) <;> rfl

end Shown

/-! ## One leaf -/

namespace Tag

@[simp]
theorem complete_leafPiece (tag : Tag) (atom : Atom) :
    (tag.leafPiece atom).complete = atom.display.complete := by
  cases tag with
  | quoted =>
      simp only [leafPiece]
      split
      next hwhole => exact hwhole.symm
      next hbroken => exact (Bool.eq_false_iff.mpr hbroken).symm
  | defined => rfl
  | custom => rfl

theorem ending_leafPiece_quoted {atom : Atom} (hbroken : atom.display.complete = false) :
    (quoted.leafPiece atom).ending = .panicked := by
  simp [leafPiece, hbroken]

theorem ending_leafPiece_of_ne {tag : Tag} (hne : tag ≠ .quoted) (atom : Atom) :
    (tag.leafPiece atom).ending = atom.display.ending := by
  cases tag with
  | quoted => exact absurd rfl hne
  | defined => rfl
  | custom => rfl

@[simp]
theorem broken_enclosed (tag : Tag) (inner : List Shown) :
    broken (tag.enclosed inner) = broken inner := by
  simp [enclosed]

@[simp]
theorem broken_around (tag : Tag) (inner : List Shown) :
    broken (tag.around inner) = broken inner := by
  unfold around
  split
  next => exact tag.broken_enclosed inner
  next => rfl

end Tag

/-! ## All leaves -/

theorem Chain.pieces_last (store : Store) (tag : SharedTag) (payload : Payload) :
    (Chain.last tag payload).pieces store = payload.piecesUnder store tag.tag := by
  simp [Chain.pieces, Chain.cellPieces, spaced, List.intercalate]

mutual

/-- Nothing but leaves breaks off, and they come in order. -/
theorem Chain.broken_pieces (store : Store) (chain : Chain) :
    broken (chain.pieces store) = broken (chain.sites.map (·.piece store)) := by
  cases chain with
  | last tag payload =>
      rw [Chain.pieces_last]
      exact payload.broken_piecesUnder store tag
  | cons tag payload rest =>
      rw [Chain.pieces_cons, Chain.sites, List.map_append, broken_append, broken_append,
        broken_append, broken_whole, List.nil_append, payload.broken_piecesUnder store tag,
        rest.broken_pieces store]

theorem Payload.broken_piecesUnder (store : Store) (holder : SharedTag) (payload : Payload) :
    broken (payload.piecesUnder store holder.tag) =
      broken ((payload.sitesUnder holder).map (·.piece store)) := by
  cases payload with
  | missing =>
      -- Neither the symbols nor what stands for a missing payload can break off.
      simp only [Payload.piecesUnder]
      split
      next => exact holder.tag.broken_enclosed []
      next => rfl
  | leaf address => exact holder.tag.broken_around _
  | nested chain =>
      rw [Payload.piecesUnder, Tag.broken_around]
      exact chain.broken_pieces store

end

/-- The first of the broken pieces is that of the first broken leaf. -/
theorem head?_broken_piece (store : Store) (sites : List Site) :
    (broken (sites.map (·.piece store))).head? =
      (store.firstBroken? sites).map (·.piece store) := by
  rw [broken, List.head?_filter, List.find?_map]
  congr 2
  funext site
  simp [Site.piece]

theorem Store.complete_of_firstBroken?_eq {store : Store} {sites : List Site} {site : Site}
    (hfirst : store.firstBroken? sites = some site) :
    (store.read site.address).display.complete = false := by
  simpa using List.find?_some hfirst

theorem Store.firstBroken?_eq_none_iff {store : Store} {sites : List Site} :
    store.firstBroken? sites = none ↔
      ∀ site ∈ sites, (store.read site.address).display.ending = .done := by
  simp [Store.firstBroken?, complete]

/-- How writing ends, told by the leaves alone. -/
def Store.leavesEnd (store : Store) (sites : List Site) : Outcome :=
  ((store.firstBroken? sites).map fun site => (site.piece store).ending).getD .done

namespace Store

variable {store : Store} {sites : List Site}

theorem leavesEnd_of_quoted {site : Site} (hfirst : store.firstBroken? sites = some site)
    (hquoted : site.tag.tag = .quoted) : store.leavesEnd sites = .panicked := by
  rw [leavesEnd, hfirst]
  simp only [Option.map_some, Option.getD_some, Site.piece, hquoted]
  exact Tag.ending_leafPiece_quoted (complete_of_firstBroken?_eq hfirst)

theorem leavesEnd_of_ne {site : Site} (hfirst : store.firstBroken? sites = some site)
    (hne : site.tag.tag ≠ .quoted) :
    store.leavesEnd sites = (store.read site.address).display.ending := by
  rw [leavesEnd, hfirst]
  exact Tag.ending_leafPiece_of_ne hne _

theorem leavesEnd_eq_done_iff :
    store.leavesEnd sites = .done ↔
      ∀ site ∈ sites, (store.read site.address).display.ending = .done := by
  rw [← firstBroken?_eq_none_iff]
  cases hfirst : store.firstBroken? sites with
  | none => simp [leavesEnd, hfirst]
  | some site =>
      by_cases hquoted : site.tag.tag = .quoted
      · simp [leavesEnd_of_quoted hfirst hquoted]
      · have hbroken := complete_of_firstBroken?_eq hfirst
        simpa [leavesEnd_of_ne hfirst hquoted, complete] using hbroken

theorem leavesEnd_eq_failed_iff :
    store.leavesEnd sites = .failed ↔ ∃ site, store.firstBroken? sites = some site ∧
      site.tag.tag ≠ .quoted ∧ (store.read site.address).display.ending = .failed := by
  cases hfirst : store.firstBroken? sites with
  | none => simp [leavesEnd, hfirst]
  | some site =>
      by_cases hquoted : site.tag.tag = .quoted
      · simp [leavesEnd_of_quoted hfirst hquoted, hquoted]
      · simp [leavesEnd_of_ne hfirst hquoted, hquoted]

theorem leavesEnd_eq_panicked_iff :
    store.leavesEnd sites = .panicked ↔ ∃ site, store.firstBroken? sites = some site ∧
      (site.tag.tag = .quoted ∨ (store.read site.address).display.ending = .panicked) := by
  cases hfirst : store.firstBroken? sites with
  | none => simp [leavesEnd, hfirst]
  | some site =>
      by_cases hquoted : site.tag.tag = .quoted
      · simp [leavesEnd_of_quoted hfirst hquoted, hquoted]
      · simp [leavesEnd_of_ne hfirst hquoted, hquoted]

end Store

/-! ## Every sink -/

/-- How a writer ends on every sink, told by the leaves that it writes. -/
structure Writer.EndsByLeaves (writer : Writer) (store : Store) (sites : List Site) : Prop where
  done_iff : ∀ sink, (writer sink).1 = .done ↔ sink.Takes writer.run.2 ∧
    ∀ site ∈ sites, (store.read site.address).display.ending = .done
  /-- A failure is that of the sink, or of the first leaf that does not display in full. -/
  failed_iff : ∀ sink, (writer sink).1 = .failed ↔ ¬ sink.Takes writer.run.2 ∨
    ∃ site, store.firstBroken? sites = some site ∧ site.tag.tag ≠ .quoted ∧
      (store.read site.address).display.ending = .failed
  /-- A panic is one of that leaf, or what the tag of quoted strings makes of its failure. -/
  panicked_iff : ∀ sink, (writer sink).1 = .panicked ↔ sink.Takes writer.run.2 ∧
    ∃ site, store.firstBroken? sites = some site ∧
      (site.tag.tag = .quoted ∨ (store.read site.address).display.ending = .panicked)
  /-- Where no leaf panics, nothing does, unless the first leaf that does not display in full is
  held as a quoted string. -/
  never_panicked_iff :
    (∀ site ∈ sites, (store.read site.address).display.ending ≠ .panicked) →
      ((∀ sink, (writer sink).1 ≠ .panicked) ↔
        ∀ site, store.firstBroken? sites = some site → site.tag.tag ≠ .quoted)

/-- Writing a stretch ends as the leaves do if the stretch itself does. -/
theorem Shown.endsByLeaves_write {shown : Shown} {store : Store} {sites : List Site}
    (hending : shown.ending = store.leavesEnd sites) : shown.write.EndsByLeaves store sites := by
  have hpanicked : ∀ sink, (shown.write sink).1 = .panicked ↔ sink.Takes shown.text ∧
      ∃ site, store.firstBroken? sites = some site ∧
        (site.tag.tag = .quoted ∨ (store.read site.address).display.ending = .panicked) := by
    intro sink
    rw [outcome_write_eq_iff (by decide : Outcome.panicked ≠ .failed), hending,
      Store.leavesEnd_eq_panicked_iff]
  refine ⟨?_, ?_, ?_, ?_⟩
  · intro sink
    rw [run_write, outcome_write_eq_iff (by decide : Outcome.done ≠ .failed), hending,
      Store.leavesEnd_eq_done_iff]
  · intro sink
    rw [run_write, outcome_write_eq_failed_iff, hending, Store.leavesEnd_eq_failed_iff]
  · rw [run_write]
    exact hpanicked
  · intro hleaves
    constructor
    · intro hnever site hfirst hquoted
      apply hnever {}
      rw [hpanicked]
      exact ⟨nofun, site, hfirst, .inl hquoted⟩
    · intro hothers sink hpanic
      rw [hpanicked] at hpanic
      obtain ⟨-, site, hfirst, hquoted | hleaf⟩ := hpanic
      · exact hothers site hfirst hquoted
      · exact hleaves site (List.mem_of_find?_eq_some hfirst) hleaf

theorem ending_joined_of_broken_eq {store : Store} {pieces : List Shown} {sites : List Site}
    (hbroken : broken pieces = broken (sites.map (·.piece store))) :
    (joined pieces).ending = store.leavesEnd sites := by
  rw [ending_joined, hbroken, head?_broken_piece, Option.map_map]
  rfl

/-- Writing a payload under any tag, or rendering a chain, comes to its end, fails or panics as the
sink and the first leaf that does not display in full have it. A failure is passed on, and never
turned into a panic, unless that leaf is held by the tag of quoted strings itself. -/
theorem render_ends_by_leaves (store : Store) :
    (∀ (holder : SharedTag) (payload : Payload),
      (payload.renderUnder store holder.tag).EndsByLeaves store (payload.sitesUnder holder)) ∧
    ∀ chain : Chain, (chain.render store).EndsByLeaves store chain.sites := by
  refine ⟨?_, ?_⟩
  · intro holder payload
    rw [payload.renderUnder_eq_write store holder.tag]
    exact endsByLeaves_write (ending_joined_of_broken_eq (payload.broken_piecesUnder store holder))
  · intro chain
    rw [chain.render_eq_write store]
    exact endsByLeaves_write (ending_joined_of_broken_eq (chain.broken_pieces store))

/-- A leaf that refuses to display: every other tag passes the failure on, the tag of quoted strings
panics. -/
theorem refused_leaf_panics_quoted :
    let store : Store := ⟨#[.probe ⟨"x", .cannot, .refused⟩]⟩
    (store.read ⟨0⟩).display.ending = .failed ∧
      ((Payload.leaf ⟨0⟩).renderUnder store Stock.atom.tag).run = (.failed, "") ∧
      ((Payload.leaf ⟨0⟩).renderUnder store Stock.string.tag).run = (.panicked, "") := by
  decide +kernel

end TaggedExpr
