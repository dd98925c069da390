import Stencil.Text.Identifier
import Stencil.Text.Blank
import Stencil.Text.Caseless
import Stencil.Text.Lines
import Stencil.Text.Table
import Stencil.Text.Mark
import Stencil.Text.Composition
import Stencil.Url.Domain.Mapping
import Stencil.Url.Domain.Direction
import Stencil.Url.Domain.Joining
import Stencil.Url.Domain.Label
import Stencil.Url.Domain
import Stencil.Text.Quoted
import Stencil.Text.Utf8
import Stencil.Decimal.Shortest
import Stencil.Json.Reader
import Stencil.Json.Writer
import Stencil.Entries
import Stencil.Json.Value
import Stencil.Json.Decoder
import Stencil.Expression.Format
import Stencil.Expression.Parser
import Stencil.Error
import Stencil.Model
import Stencil.Module.Catalog
import Stencil.Source.Text
import Stencil.Module.Queue
import Stencil.Unit.Compiler
import Stencil.Unit.Loader
import Stencil.Render.Instance
import Stencil.Url.Path
import Stencil.Url.Parser
import Stencil.Engine.Schedule
import Stencil.Module.Remote
import Stencil.Proofs.Text.Runs
import Stencil.Proofs.Decimal.ReadBack
import Stencil.Proofs.Json.ReadBack
import Stencil.Proofs.Json.Decoding
import Stencil.Proofs.Source.Folding
import Stencil.Proofs.Text.Lines
import Stencil.Proofs.Expression.Grammar
import Stencil.Proofs.Expression.Lexeme
import Stencil.Proofs.Expression.Canonical
import Stencil.Proofs.Expression.Printing
import Stencil.Proofs.Expression.Nesting
import Stencil.Proofs.Expression.Folding
import Stencil.Proofs.Unit.ReadBack
import Stencil.Proofs.Markup.Group
import Stencil.Proofs.Markup.Grammar
import Stencil.Proofs.Markup.Lexeme
import Stencil.Proofs.Markup.Document
import Stencil.Proofs.Markup.Escape
import Stencil.Proofs.Markup.Failure
import Stencil.Proofs.Markup.Explicit
import Stencil.Proofs.Unit.Draft
import Stencil.Proofs.Unit.Conformance
import Stencil.Proofs.Unit.Lines
import Stencil.Proofs.Unit.Source
import Stencil.Proofs.Unit.Compiler
import Stencil.Proofs.Source.Lines
import Stencil.Proofs.Unit.Loader
import Stencil.Proofs.Unit.WellFormed
import Stencil.Proofs.Unit.Selection
import Stencil.Proofs.Render.Meaning
import Stencil.Proofs.Render.Session
import Stencil.Proofs.Render.Document
import Stencil.Proofs.Render.Verbatim
import Stencil.Proofs.Render.Demand
import Stencil.Proofs.Render.Execution
import Stencil.Proofs.Render.Failure
import Stencil.Proofs.Module.Resolution
import Stencil.Proofs.Module.ReadBack
import Stencil.Proofs.Module.Definition
import Stencil.Proofs.Module.History
import Stencil.Proofs.Render.Lifecycle
import Stencil.Proofs.Engine.Pipeline
import Stencil.Proofs.Engine.Interleaving
import Stencil.Proofs.Engine.Cache
import Stencil.Proofs.Engine.Schedule
import Stencil.Proofs.Unit.TypeTable
import Stencil.Proofs.Url.Percent
import Stencil.Proofs.Url.Path
import Stencil.Proofs.Url.Joining
import Stencil.Proofs.Module.Remote
import Stencil.Proofs.Module.Turns
import Stencil.Proofs.Engine.Stages
import Stencil.Proofs.Engine.Course
import Stencil.Proofs.Engine.FailFast
import Stencil.Proofs.Render.Calls
import Stencil.Proofs.Render.Noninterference
import Stencil.Proofs.Render.Dependency
import Stencil.Proofs.Unit.Knowledge
import Stencil.Proofs.Unit.Placement
import Stencil.Proofs.Render.Flattening
import Stencil.Proofs.Markup.Concatenation
import Stencil.Proofs.Markup.Implicit
import Stencil.Proofs.Text.Slices
import Stencil.Proofs.Markup.NormalForm
import Stencil.Proofs.Markup.Cursor
import Stencil.Proofs.Markup.Readers
import Stencil.Proofs.Markup.Progress
