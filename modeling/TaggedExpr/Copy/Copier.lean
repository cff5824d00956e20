import TaggedExpr.Store

/-! # Ways to copy an atom

An atom may know how to copy itself, and a copier may know how to copy atoms of one type. Either
may refuse, and either may come up with a leaf that already exists.
-/

namespace TaggedExpr

namespace CopyError

def message : CopyError → String
  | .unsupported => "no duplication capability"
  | .typeMismatch expected found =>
    "copy constructor expects \x60" ++ expected ++ "\x60 but found \x60" ++ found ++ "\x60"
  | .failed message => "duplication failed: " ++ message

end CopyError

/-- The leaf of a replica. Only a fresh one takes a new address. -/
def Replica.place (store : Store) : Replica → Address × Store
  | .fresh atom => store.allocate atom
  | .shared address => (address, store)

/-- A way to copy atoms of one type. -/
structure Copier where
  accepts : AtomType
  copy : Atom → Except CopyError Replica

namespace Copier

/-- Copies the contents into a new leaf. -/
def cloning (type : AtomType) : Copier := ⟨type, fun atom => .ok (.fresh atom)⟩

/-- Every copy is a fresh clone. What is cloned differs from type to type. -/
def ClonesBy (copier : Copier) (clone : Atom → Atom) : Prop :=
  copier.copy = fun atom => .ok (.fresh (clone atom))

theorem clonesBy_cloning (type : AtomType) : (cloning type).ClonesBy id := rfl

/-- Gives the same answer whatever it is applied to. -/
def always (type : AtomType) (answer : Except CopyError Replica) : Copier :=
  ⟨type, fun _ => answer⟩

/-- Applies a copier, which happens only to atoms of its type. -/
def construct (copier : Copier) (atom : Atom) : Except CopyError Replica :=
  if atom.type = copier.accepts then copier.copy atom
  else .error (.typeMismatch copier.accepts.name atom.type.name)

theorem construct_of_type_eq {copier : Copier} {atom : Atom} (h : atom.type = copier.accepts) :
    copier.construct atom = copier.copy atom := if_pos h

theorem construct_of_type_ne {copier : Copier} {atom : Atom} (h : atom.type ≠ copier.accepts) :
    copier.construct atom = .error (.typeMismatch copier.accepts.name atom.type.name) := if_neg h

/-- Who clones makes a fresh clone, and that of the atoms of one type only. -/
theorem ClonesBy.of_construct_eq_ok {copier : Copier} {clone : Atom → Atom} {atom : Atom}
    {replica : Replica} (hclones : copier.ClonesBy clone)
    (hconstruct : copier.construct atom = .ok replica) :
    atom.type = copier.accepts ∧ replica = .fresh (clone atom) := by
  by_cases htype : atom.type = copier.accepts
  · rw [construct_of_type_eq htype, hclones] at hconstruct
    cases hconstruct
    exact ⟨htype, rfl⟩
  · rw [construct_of_type_ne htype] at hconstruct
    cases hconstruct

end Copier

/-- Registers hold a lock that cannot be copied from outside; all other contents can. -/
def AtomType.isCloneable : AtomType → Bool
  | .register => false
  | _ => true

/-- The copy that an atom makes of itself. A register makes one while its lock works; a probe does
as it was told, and so do the types that are defined elsewhere; nothing else has the capability. -/
def Atom.copySelf : Atom → Except CopyError Replica
  | .register value false => .ok (.fresh (.register value false))
  | .register _ true => .error (.failed "poisoned lock: another task failed inside")
  | .probe device =>
    match device.copying with
    | .cannot => .error .unsupported
    | .same => .ok (.fresh (.probe device))
    | .asText => .ok (.fresh (.text .owned device.text))
    | .fails => .error (.failed ("probe:" ++ device.text))
    | .mismatches => .error (.typeMismatch "this" "that")
  | .foreign _ (.refused error) => .error error
  | .foreign _ (.given replica) => .ok replica
  | _ => .error .unsupported

theorem Atom.copySelf_of_mem_stock {atom : Atom} (hstock : atom.type ∈ AtomType.stock) :
    atom.copySelf = .error .unsupported := by
  cases atom with
  | register value poisoned => simp [Atom.type, AtomType.stock] at hstock
  | probe device => simp [Atom.type, AtomType.stock] at hstock
  | foreign face copying => simp [Atom.type, AtomType.stock] at hstock
  | _ => rfl

end TaggedExpr
