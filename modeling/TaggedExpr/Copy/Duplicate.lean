import TaggedExpr.Chain

/-! # Copying expressions

A deep copy duplicates each leaf by the first way that works: the atom's own, then the copier that
the tag of its cell knows for its type. Where neither works the leaf is shared. A structural copy
shares every leaf.
-/

namespace TaggedExpr

/-! ## What copying records

No failure to copy a leaf is lost: each one is recorded together with the tag and the leaf that it
was about, and so is the decision to share a leaf after all.
-/

inductive LogLevel where
  | trace
  | debug
deriving DecidableEq, Repr

def LogLevel.label : LogLevel → String
  | .trace => "TRACE"
  | .debug => "DEBUG"

/-- What happened to a leaf. -/
inductive CopyEvent where
  | selfCopyFailed (error : CopyError)
  | constructionFailed (error : CopyError)
  | aliased
deriving DecidableEq, Repr

/-- One thing that happened while a leaf was copied under a tag. -/
structure LogRecord where
  tagName : String
  leaf : String
  event : CopyEvent
deriving DecidableEq, Repr

namespace LogRecord

def level (record : LogRecord) : LogLevel :=
  match record.event with
  | .aliased => .debug
  | _ => .trace

def message (record : LogRecord) : String :=
  match record.event with
  | .selfCopyFailed error => "self-duplication of " ++ record.leaf ++ ": " ++ error.message
  | .constructionFailed error => "copy construction of " ++ record.leaf ++ ": " ++ error.message
  | .aliased => "aliasing " ++ record.leaf

end LogRecord

/-! ## Copies -/

/-- A copy, the store with the leaves made for it, and what was recorded on the way. -/
structure Copied (α : Type) where
  value : α
  store : Store
  log : List LogRecord

namespace Tag

/-- What the tag's copier for the type of an atom gives. A tag without one has no way to copy it. -/
def construct (tag : Tag) (atom : Atom) : Except CopyError Replica :=
  match tag.copier? atom.type with
  | none => .error .unsupported
  | some copier => copier.construct atom

theorem construct_of_copier?_eq_none {tag : Tag} {atom : Atom}
    (hnone : tag.copier? atom.type = none) : tag.construct atom = .error .unsupported := by
  simp only [construct, hnone]

theorem construct_of_copier?_eq_some {tag : Tag} {atom : Atom} {copier : Copier}
    (hfound : tag.copier? atom.type = some copier) :
    tag.construct atom = copier.construct atom := by
  simp only [construct, hfound]

/-- What a tag makes is made by a copier that it knows. -/
theorem exists_copier_of_construct_eq_ok {tag : Tag} {atom : Atom} {replica : Replica}
    (hmade : tag.construct atom = .ok replica) :
    ∃ copier, tag.copier? atom.type = some copier ∧ copier.construct atom = .ok replica := by
  cases hfound : tag.copier? atom.type with
  | none =>
      rw [construct_of_copier?_eq_none hfound] at hmade
      cases hmade
  | some copier => exact ⟨copier, rfl, construct_of_copier?_eq_some hfound ▸ hmade⟩

/-- Copies one leaf under a tag, or shares it. -/
def duplicateLeaf (tag : Tag) (address : Address) (store : Store) : Copied Address :=
  let atom := store.read address
  let record (event : CopyEvent) : LogRecord := ⟨tag.name, atom.describe, event⟩
  match atom.copySelf with
  | .ok replica => ⟨(replica.place store).1, (replica.place store).2, []⟩
  | .error own =>
    match tag.construct atom with
    | .ok replica =>
      ⟨(replica.place store).1, (replica.place store).2, [record (.selfCopyFailed own)]⟩
    | .error constructed =>
      ⟨address, store,
        [record (.selfCopyFailed own), record (.constructionFailed constructed), record .aliased]⟩

end Tag

mutual

/-- Copies every cell, and the leaves under the tags of the cells that hold them. -/
def Chain.duplicate : Chain → Store → Copied Chain
  | .last tag payload, store =>
    let copy := payload.duplicateUnder tag.tag store
    ⟨.last tag copy.value, copy.store, copy.log⟩
  | .cons tag payload rest, store =>
    let copy := payload.duplicateUnder tag.tag store
    let others := rest.duplicate copy.store
    ⟨.cons tag copy.value others.value, others.store, copy.log ++ others.log⟩

/-- Copies a payload; the tag matters only to a leaf. -/
def Payload.duplicateUnder (tag : Tag) : Payload → Store → Copied Payload
  | .missing, store => ⟨.missing, store, []⟩
  | .leaf address, store =>
    let copy := tag.duplicateLeaf address store
    ⟨.leaf copy.value, copy.store, copy.log⟩
  | .nested chain, store =>
    let copy := chain.duplicate store
    ⟨.nested copy.value, copy.store, copy.log⟩

end

mutual

/-- Copies every cell, at all depths, and shares the leaves. -/
def Chain.structuralCopy : Chain → Chain
  | .last tag payload => .last tag payload.structuralCopy
  | .cons tag payload rest => .cons tag payload.structuralCopy rest.structuralCopy

/-- Copies the cells of a payload and shares its leaves. -/
def Payload.structuralCopy : Payload → Payload
  | .missing => .missing
  | .leaf address => .leaf address
  | .nested chain => .nested chain.structuralCopy

end

end TaggedExpr
