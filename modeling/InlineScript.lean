import InlineScript.Json.Comments
import InlineScript.Main
import InlineScript.Proofs.Command.Batch
import InlineScript.Proofs.Server.Publication
import InlineScript.Proofs.Session.Commutation
import InlineScript.Proofs.Text.LineIndex
import InlineScript.Proofs.Format.Replacement
import InlineScript.Proofs.Text.Ink
import InlineScript.Proofs.Markup.Block
import InlineScript.Proofs.Document.Exchange
import InlineScript.Proofs.Format.Layout
import InlineScript.Proofs.Format.Repetition
import InlineScript.Proofs.Text.RoundTrip
import InlineScript.Proofs.Format.Acceptance
import InlineScript.Proofs.Format.Preservation
import InlineScript.Proofs.Format.Depth
import InlineScript.Proofs.Format.Literals
import InlineScript.Proofs.QuickInfo.Scope
import InlineScript.Proofs.Markup.Extraction
import InlineScript.Proofs.Json.Lexemes
import InlineScript.Proofs.Markup.Rendering
import InlineScript.Proofs.Path.Relative
import InlineScript.Proofs.Project.Exclusion
import InlineScript.Proofs.Project.Chain
import InlineScript.Proofs.Project.Merging
import InlineScript.Proofs.Text.Utf8
import InlineScript.Proofs.Path.Naming
import InlineScript.Proofs.Project.Collection
import InlineScript.Proofs.Module.Redirection
import InlineScript.Proofs.Path.Canonical
import InlineScript.Proofs.Module.Soundness
import InlineScript.Proofs.Tree.Walk
import InlineScript.Proofs.Check.Order
import InlineScript.Proofs.Check.Faults
import InlineScript.Proofs.Check.Iteration
import InlineScript.Proofs.Check.Redeclaration
import InlineScript.Proofs.Check.Comments
import InlineScript.Proofs.QuickInfo.Cursor
import InlineScript.Proofs.Session.Ranges
import InlineScript.Proofs.Engine.Cache
import InlineScript.Proofs.Format.Detection
import InlineScript.Proofs.Text.Slices
import InlineScript.Proofs.Format.Simultaneous
import InlineScript.Proofs.Session.Changes
