import Mathlib
import Stencil.Proofs.Unit.Source

/-!
# Compiling documents

The source of a parsed document is compiled to a unit of one renderer, or its findings are exactly
those of the segments and the modules (`build_generate`). This needs every row of the source to be
one line, which a line feed in the name of the model type or an escaped line feed in an expression
breaks.
-/

namespace Stencil.Unit

open Markup (Segment Document IsBody)
open Source
open Text

/-! ## The unit of a document -/

/-- The renderer that segments bound to the named model type make. -/
def segmentRenderer (name : String) (segments : List Segment) : RendererImage where
  name := rendererName
  base := ⟨baseContract, name⟩
  dependencies := (segments.filterMap Segment.injection?).filter (· ≠ Expression.modelRoot)
  body := segments.flatMap Segment.instructions

/-- The unit that segments bound to the named model type make. -/
def segmentUnit (name : String) (segments : List Segment) : UnitImage where
  name := unitName
  types := [segmentRenderer name segments]

/-- Every parsed document has a source. -/
theorem generate_eq_ok {document : Document} {name : String}
    (h : document.model.sourceName = .ok name) :
    generate document = .ok (String.join ((sourceLines document).map (· ++ "\n"))) := by
  rw [generate, h]

variable {model : ModelType} {name source : String} {body : List Segment}

theorem compile_generate (hname : model.sourceName = .ok name) (hline : '\n' ∉ name.toList)
    (hbody : IsBody body)
    (hfold : ∀ code, .expression code ∈ body → ¬ EscapesFeed .outside code.toList)
    (hgenerate : generate ⟨model, .inherits baseContract name :: body⟩ = .ok source)
    (references : References) :
    compile source references
      = if (segmentFindings references name body).isEmpty then .ok (segmentUnit name body)
        else .error (segmentFindings references name body) := by
  have htrimmed := ModelType.isTrimmed_sourceName hname
  rw [compile, moduleFindings_readModules,
    ofSource_generate _ _ hgenerate htrimmed hline hbody hfold]
  rfl

end Stencil.Unit
