import TaggedExpr.Atom.Basic
import TaggedExpr.Atom.Literal
import TaggedExpr.Atom.Text
import TaggedExpr.Chain
import TaggedExpr.Copy.Copier
import TaggedExpr.Copy.Duplicate
import TaggedExpr.Decimal
import TaggedExpr.Demo
import TaggedExpr.Main
import TaggedExpr.Render.Basic
import TaggedExpr.Render.Sink
import TaggedExpr.Session.Answer
import TaggedExpr.Session.Command
import TaggedExpr.Session.Evaluate
import TaggedExpr.Session.Run
import TaggedExpr.Session.State
import TaggedExpr.Session.Term
import TaggedExpr.Stock
import TaggedExpr.Store
import TaggedExpr.Tag
import TaggedExpr.Text.Field
import TaggedExpr.Text.Quoted
import TaggedExpr.Proofs.Cells.Clone
import TaggedExpr.Proofs.Cells.Edit
import TaggedExpr.Proofs.Cells.Run
import TaggedExpr.Proofs.Chain.Construction
import TaggedExpr.Proofs.Chain.Flattening
import TaggedExpr.Proofs.Chain.Grouping
import TaggedExpr.Proofs.Chain.Moves
import TaggedExpr.Proofs.Chain.Replacement
import TaggedExpr.Proofs.Chain.Sequence
import TaggedExpr.Proofs.Copy.Appearance
import TaggedExpr.Proofs.Copy.Isolation
import TaggedExpr.Proofs.Copy.Positions
import TaggedExpr.Proofs.Copy.Records
import TaggedExpr.Proofs.Copy.Sharing
import TaggedExpr.Proofs.Copy.Sites
import TaggedExpr.Proofs.Copy.Structural
import TaggedExpr.Proofs.Reading.Escapes
import TaggedExpr.Proofs.Reading.Reader
import TaggedExpr.Proofs.Registers
import TaggedExpr.Proofs.Registers.Reached
import TaggedExpr.Proofs.Render.Display
import TaggedExpr.Proofs.Render.Failures
import TaggedExpr.Proofs.Render.Formatters
import TaggedExpr.Proofs.Render.Joining
import TaggedExpr.Proofs.Render.Pieces
import TaggedExpr.Proofs.Render.Texts
import TaggedExpr.Proofs.Render.Truncation
import TaggedExpr.Proofs.Store
import TaggedExpr.Proofs.Tag.Copiers
import TaggedExpr.Proofs.Tag.Entries
import TaggedExpr.Proofs.Tag.Identity
