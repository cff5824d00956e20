import TaggedExpr.Chain
import TaggedExpr.Copy.Copier

/-! # Terms

What the commands of a session are made of: ways to name or to build tags, leaves, copiers and
payloads. A part that could not be read is kept in its place as malformed, so that it comes to
light only when evaluation gets there and everything before it has taken effect.
-/

namespace TaggedExpr.Session

/-- A cell: the chain in a variable, and a path from its first cell. -/
inductive PlaceTerm where
  | within (variableName : String) (steps : List (Option Step))
  | malformed

inductive LeafTerm where
  | inVariable (variableName : String)
  | payloadOf (place : PlaceTerm)
  | fresh (atom : Atom)
  | malformed

inductive CopierAction where
  | clone
  | give (leaf : LeafTerm)
  | refuse (error : CopyError)
  | malformed

inductive CopierTerm where
  | copier (type : AtomType) (action : CopierAction)
  | malformed

/-- A tag: shared, or a new one. -/
inductive TagTerm where
  | inVariable (variableName : String)
  | stock (name : String)
  | defined (name : String) (delimiters : Option Delimiters) (copiers : List CopierTerm)
  | custom (name : String) (opening closing : Option String) (forced : Option Bool)
  | malformed

mutual

/-- A payload to put somewhere. Taking moves it out of its variable. -/
inductive PayloadTerm where
  | missing
  | leaf (leaf : LeafTerm)
  | take (variableName : String)
  | expression (expression : ExpressionTerm)
  | malformed

inductive ExpressionTerm where
  | list (items : List ExpressionTerm)
  | vector (items : List ExpressionTerm)
  | symbol (name : String)
  | number (value : Int64)
  | float (bits : UInt64)
  | boolean (value : Bool)
  | string (text : String)
  | atom (atom : Atom)
  | cell (tag : TagTerm) (payload : PayloadTerm)
  | empty (tag : TagTerm)
  | chain (cells : List (TagTerm × PayloadTerm))
  | take (variableName : String)
  | demo (register : TagTerm)
  | malformed

end

/-- A payload to look at. -/
inductive ViewedTerm where
  | inVariable (variableName : String)
  | payloadOf (place : PlaceTerm)
  | given (payload : PayloadTerm)

end TaggedExpr.Session
