import TaggedExpr.Store

/-! # How a store evolves

A store changes in two ways. New leaves make it grow, which no leaf that was there before can tell;
writes change the leaves that they are addressed to, and only those.
-/

namespace TaggedExpr.Store

/-- Whether there is a leaf at an address. -/
def Holds (store : Store) (address : Address) : Prop := address.index < store.size

theorem holds_allocate (store : Store) (atom : Atom) :
    (store.allocate atom).2.Holds (store.allocate atom).1 := by
  simp [Holds, allocate, size]

theorem read_allocate_self (store : Store) (atom : Atom) :
    (store.allocate atom).2.read (store.allocate atom).1 = atom := by
  rw [read_allocate]
  exact if_pos rfl

/-- The leaves of one store are still there in another, with the same contents. -/
structure Grows (before after : Store) : Prop where
  size_le : before.size ≤ after.size
  read_eq : ∀ address, before.Holds address → after.read address = before.read address

namespace Grows

theorem refl (store : Store) : Grows store store :=
  ⟨Nat.le_refl _, fun _ _ => rfl⟩

theorem holds {before after : Store} (hgrows : Grows before after) {address : Address}
    (hheld : before.Holds address) : after.Holds address :=
  Nat.lt_of_lt_of_le hheld hgrows.size_le

theorem trans {first second third : Store} (hfirst : Grows first second)
    (hsecond : Grows second third) : Grows first third := by
  refine ⟨Nat.le_trans hfirst.size_le hsecond.size_le, ?_⟩
  intro address hheld
  rw [hsecond.read_eq address (hfirst.holds hheld), hfirst.read_eq address hheld]

theorem allocate (store : Store) (atom : Atom) : Grows store (store.allocate atom).2 := by
  refine ⟨by simp, ?_⟩
  intro address hheld
  rw [read_allocate, if_neg (Nat.ne_of_lt hheld)]

end Grows

/-! ## Runs of writes -/

/-- The store after a run of writes, the first one first. -/
def writeAll (store : Store) (writes : List (Address × Atom)) : Store :=
  writes.foldl (fun store write => store.write write.1 write.2) store

@[simp]
theorem writeAll_cons (store : Store) (write : Address × Atom) (writes : List (Address × Atom)) :
    store.writeAll (write :: writes) = (store.write write.1 write.2).writeAll writes := rfl

theorem read_write_of_ne (store : Store) {address other : Address} (hne : address ≠ other)
    (atom : Atom) : (store.write address atom).read other = store.read other := by
  rw [read_write, if_neg (fun h => hne h.1)]

/-- A run of writes changes only the leaves that it is addressed to. -/
theorem read_writeAll_of_not_mem (store : Store) (writes : List (Address × Atom))
    {address : Address} (hnot : ∀ write ∈ writes, write.1 ≠ address) :
    (store.writeAll writes).read address = store.read address := by
  induction writes generalizing store with
  | nil => rfl
  | cons write writes ih =>
      rw [writeAll_cons, ih _ fun later hlater => hnot later (List.mem_cons_of_mem _ hlater)]
      exact store.read_write_of_ne (hnot write List.mem_cons_self) write.2

end TaggedExpr.Store
