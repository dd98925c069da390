import Stencil.Json.Escape
import Stencil.Markup.Document
import Stencil.Source.Folding

/-!
# Renderer source

A document is written as a text of one line a construct: a header, the unit and the renderer, the
dependencies, and between `execute` and `end` the instructions in the order of the document.
-/

namespace Stencil.Source

open Markup

/-- The name of the renderers that are written. -/
def rendererName : String := "Template"

/-- The name of the units that are written. -/
def unitName : String := "quill.generated"

/-- The comment in the first line. -/
def header : String := "// generated by quill; do not edit"

/-- A text as a JSON string. -/
def jsonString (text : String) : String :=
  String.ofList (Json.stringChars text.toList)

/-- The declaration that a segment makes. -/
def declaration? : Segment → Option String
  | .inherits contract model => some s!"renderer {rendererName} : {contract}<{model}>"
  | .inject name => some s!"inject {name}"
  | _ => none

/-- The instruction that a segment makes. -/
def instruction? : Segment → Option String
  | .literal text => some ("    literal " ++ jsonString text)
  | .expression code => some ("    write " ++ foldLines code)
  | _ => none

/-- The lines of the source of a document. -/
def sourceLines (document : Document) : List String :=
  [header, s!"unit {unitName}"]
    ++ document.segments.filterMap declaration?
    ++ ["execute"]
    ++ document.segments.filterMap instruction?
    ++ ["end"]

/-- Source as a backend is given it. -/
structure Generated where
  /-- The text. -/
  text : String
  /-- The type of the model of its renderer. -/
  model : ModelType
deriving DecidableEq, Repr

/-- The text of the source of a document. A document whose model type cannot be named has none. -/
def generate (document : Document) : Except Error String :=
  match document.model.sourceName with
  | .error e => .error e
  | .ok _ => .ok (String.join ((sourceLines document).map (· ++ "\n")))

/-- The source of a document. -/
def generated (document : Document) : Except Error Generated :=
  (generate document).map fun text => { text, model := document.model }

end Stencil.Source
