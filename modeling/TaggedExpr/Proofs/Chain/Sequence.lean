import TaggedExpr.Chain
import TaggedExpr.Proofs.Copy.Positions

/-! # Chains as sequences

A chain stands for the sequence of its cells, and for nothing else: it can be got back from them.
What is left of the chain after some cells stands for what is left of the sequence, and going
through the chain, asking for its rest, for its length or whether it is the empty list tells what
the sequence does.
-/

namespace TaggedExpr

namespace Chain

/-! ## Parts of a chain -/

theorem toList_ne_nil (chain : Chain) : chain.toList ≠ [] := by
  cases chain <;> simp [toList]

theorem toList_injective : Function.Injective Chain.toList := by
  intro first second hlist
  have hsome : some first = some second := by
    rw [← ofList?_toList first, hlist, ofList?_toList]
  exact Option.some.inj hsome

/-- What is left after some cells stands for what is left of the sequence. -/
theorem toList_drop? (chain : Chain) (count : Nat) :
    (chain.drop? count).map toList =
      if count < chain.cellCount then some (chain.toList.drop count) else none := by
  induction count generalizing chain with
  | zero => cases chain <;> simp [drop?, cellCount]
  | succ count ih =>
      cases chain with
      | last tag payload => simp [drop?, cellCount]
      | cons tag payload rest => simpa [drop?, cellCount, toList] using ih rest

theorem exists_drop?_of_lt {chain : Chain} {count : Nat} (hlt : count < chain.cellCount) :
    ∃ part, chain.drop? count = some part ∧ part.toList = chain.toList.drop count := by
  have hlist := chain.toList_drop? count
  rw [if_pos hlt] at hlist
  exact Option.map_eq_some_iff.mp hlist

/-- A change of what comes after some cells leaves those cells as they are. -/
theorem exists_editAfter_eq_ok {chain part : Chain} {count : Nat}
    (hpart : chain.drop? count = some part) (change : Chain → Chain) :
    ∃ whole, chain.editAfter (fun part => .ok (change part)) count = .ok whole ∧
      whole.toList = chain.toList.take count ++ (change part).toList := by
  induction count generalizing chain with
  | zero =>
      cases hpart
      exact ⟨change part, rfl, rfl⟩
  | succ count ih =>
      cases chain with
      | last tag payload => cases hpart
      | cons tag payload rest =>
          obtain ⟨whole, hedit, hlist⟩ := ih hpart
          refine ⟨.cons tag payload whole, ?_, ?_⟩
          · rw [editAfter, hedit]
            rfl
          · simp [toList, hlist]

theorem toList_setPayload (chain : Chain) (payload : Payload) :
    (chain.setPayload payload).toList = chain.toList.modifyHead fun cell => (cell.1, payload) := by
  cases chain <;> rfl

/-! ## Going through a chain -/

/-- One step through a chain: the cell that is reached, with what comes after it, and where to go
on from there. -/
def advance (state : Option Chain) : Option (Chain × Option Chain) :=
  state.map fun chain => (chain, chain.rest?)

/-- The cells reached step by step until there are no more. -/
inductive Yields : Option Chain → List Chain → Prop where
  | ended {state : Option Chain} (hadvance : advance state = none) : Yields state []
  | item {state later : Option Chain} {cell : Chain} {cells : List Chain}
      (hadvance : advance state = some (cell, later)) (hyields : Yields later cells) :
      Yields state (cell :: cells)

theorem yields_suffixes (chain : Chain) : Yields (some chain) chain.suffixes := by
  cases chain with
  | last tag payload => exact .item rfl (.ended rfl)
  | cons tag payload rest => exact .item rfl rest.yields_suffixes

theorem Yields.unique {state : Option Chain} {first second : List Chain}
    (hfirst : Yields state first) (hsecond : Yields state second) : first = second := by
  induction hfirst generalizing second with
  | ended hadvance =>
      cases hsecond with
      | ended => rfl
      | item hother => simp [hadvance] at hother
  | item hadvance _ ih =>
      cases hsecond with
      | ended hother => simp [hadvance] at hother
      | item hother hyields =>
          simp only [hadvance, Option.some.injEq, Prod.mk.injEq] at hother
          obtain ⟨rfl, rfl⟩ := hother
          rw [ih hyields]

theorem getElem?_suffixes (chain : Chain) (count : Nat) :
    chain.suffixes[count]? = chain.drop? count := by
  induction count generalizing chain with
  | zero => cases chain <;> rfl
  | succ count ih =>
      cases chain with
      | last tag payload => rfl
      | cons tag payload rest => simpa [suffixes, drop?] using ih rest

theorem head_suffixes (chain : Chain) :
    chain.suffixes.map (fun part => (part.tag, part.payload)) = chain.toList := by
  cases chain with
  | last tag payload => rfl
  | cons tag payload rest =>
      rw [suffixes, List.map_cons, rest.head_suffixes]
      rfl

end Chain

/-! ## What a chain tells of its cells -/

/-- A chain that stands for a sequence of cells tells nothing else than they do. -/
structure Chain.ReadsAs (chain : Chain) (cells : List (SharedTag × Payload)) : Prop where
  toList_eq : chain.toList = cells
  /-- Nothing is left out: no other chain has these cells. -/
  ofList?_eq : Chain.ofList? cells = some chain
  head?_eq : cells.head? = some (chain.tag, chain.payload)
  /-- The rest is that of the sequence, and there is none after the last cell. -/
  rest?_eq : chain.rest? = Chain.ofList? cells.tail
  /-- Going through the chain comes to an end and reaches every cell once, in order, and with each
  of them what is left from there. -/
  yields_iff : ∀ reached, Chain.Yields (some chain) reached ↔ reached = chain.suffixes
  head_suffixes : chain.suffixes.map (fun part => (part.tag, part.payload)) = cells
  toList_suffixes : ∀ count < cells.length, ∃ part, chain.suffixes[count]? = some part ∧
    chain.drop? count = some part ∧ part.toList = cells.drop count
  /-- Only a single cell without a payload is the empty list. -/
  isEmpty_iff : chain.isEmpty ↔ ∃ tag, cells = [(tag, .missing)]
  length_eq_zero_iff : chain.length = 0 ↔ chain.isEmpty
  length_eq : chain.isEmpty = false → chain.length = cells.length

namespace Chain

theorem rest?_eq_ofList?_tail (chain : Chain) : chain.rest? = ofList? chain.toList.tail := by
  cases chain with
  | last tag payload => rfl
  | cons tag payload rest => exact (ofList?_toList rest).symm

theorem isEmpty_iff_toList_eq (chain : Chain) :
    chain.isEmpty ↔ ∃ tag, chain.toList = [(tag, .missing)] := by
  cases chain with
  | last tag payload => cases payload <;> simp [isEmpty, Payload.isMissing, toList]
  | cons tag payload rest => simp [isEmpty, toList, toList_ne_nil]

theorem cellCount_pos (chain : Chain) : 0 < chain.cellCount := by
  cases chain <;> simp [cellCount]

theorem readsAs_toList (chain : Chain) : chain.ReadsAs chain.toList where
  toList_eq := rfl
  ofList?_eq := ofList?_toList chain
  head?_eq := by cases chain <;> rfl
  rest?_eq := chain.rest?_eq_ofList?_tail
  yields_iff := by
    intro reached
    constructor
    · intro hyields
      exact hyields.unique chain.yields_suffixes
    · rintro rfl
      exact chain.yields_suffixes
  head_suffixes := chain.head_suffixes
  toList_suffixes := by
    intro count hlt
    rw [length_toList] at hlt
    obtain ⟨part, hpart, hlist⟩ := exists_drop?_of_lt hlt
    exact ⟨part, (chain.getElem?_suffixes count).trans hpart, hpart, hlist⟩
  isEmpty_iff := chain.isEmpty_iff_toList_eq
  length_eq_zero_iff := by
    have hpos := chain.cellCount_pos
    unfold length
    split
    next hempty => simp [hempty]
    next hempty => simp [hempty, Nat.ne_of_gt hpos]
  length_eq := by
    intro hempty
    simp [length, hempty]

end Chain

end TaggedExpr
