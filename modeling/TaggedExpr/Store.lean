import TaggedExpr.Atom.Basic

/-! # The store of leaves

Leaves are shared by address. The store keeps what is at each address, and hands out addresses
that were never used before. A read is total: an address that was never handed out reads as the
default atom, and a write to it has no effect.
-/

namespace TaggedExpr

/-- The contents of all leaves, by address. -/
structure Store where
  atoms : Array Atom := #[]
deriving DecidableEq, Repr

namespace Store

def empty : Store := {}

/-- How many addresses are in use; they are the ones below this number. -/
def size (store : Store) : Nat := store.atoms.size

def read (store : Store) (address : Address) : Atom := store.atoms.getD address.index default

def allocate (store : Store) (atom : Atom) : Address × Store :=
  (⟨store.size⟩, ⟨store.atoms.push atom⟩)

def write (store : Store) (address : Address) (atom : Atom) : Store :=
  ⟨store.atoms.setIfInBounds address.index atom⟩

/-- Changes the atom at one address. -/
def modify (store : Store) (address : Address) (change : Atom → Atom) : Store :=
  store.write address (change (store.read address))

@[simp]
theorem size_write (store : Store) (address : Address) (atom : Atom) :
    (store.write address atom).size = store.size := by
  simp [write, size]

@[simp]
theorem size_allocate (store : Store) (atom : Atom) :
    (store.allocate atom).2.size = store.size + 1 := by
  simp [allocate, size]

theorem read_write (store : Store) (address other : Address) (atom : Atom) :
    (store.write address atom).read other =
      if address = other ∧ other.index < store.size then atom else store.read other := by
  unfold read write size
  by_cases hother : other.index < store.atoms.size
  · by_cases heq : address = other
    · subst heq
      simp [hother]
    · have hindex : address.index ≠ other.index := fun h => heq (Address.ext h)
      simp [hother, heq, hindex]
  · simp [hother]

theorem read_allocate (store : Store) (atom : Atom) (other : Address) :
    (store.allocate atom).2.read other =
      if other.index = store.size then atom else store.read other := by
  unfold read allocate size
  by_cases hother : other.index < store.atoms.size
  · have hne : other.index ≠ store.atoms.size := by omega
    simp [hother, hne, Array.getElem_push, Nat.lt_succ_of_lt hother]
  · by_cases heq : other.index = store.atoms.size
    · simp [heq]
    · have hlarge : ¬ other.index < store.atoms.size + 1 := by omega
      simp [hother, heq, hlarge]

end Store

end TaggedExpr
