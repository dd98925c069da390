import Stencil.Markup.Scanner
import Stencil.Model

/-!
# Documents

A document is what a template says: the type its model is bound to, and in the order of the
template the literal texts, the expressions and the dependencies. Literal texts are never empty and
never adjacent; a comment leaves no trace between them.
-/

namespace Stencil.Markup

/-- A segment of a document. -/
inductive Segment where
  /-- The contract and the model type that the renderer is bound to. -/
  | inherits (contract model : String)
  /-- A text to write as it is. -/
  | literal (text : String)
  /-- An expression whose value is written. -/
  | expression (code : String)
  /-- A dependency. -/
  | inject (name : String)
deriving DecidableEq, Repr

/-- A template that has been read. -/
structure Document where
  /-- The type of the model. -/
  model : ModelType
  /-- What the template says, in order. -/
  segments : List Segment
deriving DecidableEq, Repr

namespace Segment

/-- The literal of a text, given latest character first; an empty text makes none. -/
def flush (pending : List Char) : List Segment :=
  if pending.isEmpty then [] else [.literal (String.ofList pending.reverse)]

/-- The segments of a row of pieces. `pending` is the literal text right before them, latest
character first. -/
def ofPieces (pending : List Char) : List Piece → List Segment
  | [] => flush pending
  | .char c :: rest => ofPieces (c :: pending) rest
  | .sign :: rest => ofPieces ('@' :: pending) rest
  | .comment :: rest => ofPieces pending rest
  | .expression code :: rest =>
    flush pending ++ .expression (String.ofList code) :: ofPieces [] rest
  | .inject name :: rest => flush pending ++ .inject (String.ofList name) :: ofPieces [] rest

/-- The dependency that a segment declares. -/
def injection? : Segment → Option String
  | .inject name => some name
  | _ => none

end Segment

namespace Document

/-- The dependencies of a document in the order of their declarations. -/
def injections (document : Document) : List String :=
  document.segments.filterMap Segment.injection?

/-- Reads a template that is bound to the given type of model. -/
def parse (text : String) (model : ModelType) : Except Error Document :=
  if (Text.trim text.toList).isEmpty then .error .emptyTemplate
  else
    match model.sourceName with
    | .error e => .error e
    | .ok modelName =>
      match pieces text.toList with
      | .error failure =>
        .error (.parse failure.problem.message (failure.place text.toList))
      | .ok pieces =>
        .ok { model, segments := .inherits baseContract modelName :: Segment.ofPieces [] pieces }

end Document

end Stencil.Markup
