import Stencil.Source.Text
import Stencil.Unit.Format

/-!
# Loading a renderer

The renderer of a unit is the first type of the name that generated renderers have, implementing
the base contract bound to the model type.
-/

namespace Stencil.Unit

/-- Whether a renderer of a unit is the one that is bound to the named model type. -/
def isRendererOf (modelName : String) (image : RendererImage) : Bool :=
  image.name == Source.rendererName && image.base == ⟨baseContract, modelName⟩

/-- The renderer of a unit that is bound to the named model type. -/
def select (unit : UnitImage) (modelName : String) : Except Error Renderer :=
  match unit.types.find? (isRendererOf modelName) with
  | some image => .ok { unit := unit.name, image }
  | none =>
    .error (.rendererNotFound Source.rendererName
      s!"unit '{unit.name}' has no type implementing {baseContract}<{modelName}>")

/-- Loads the renderer that is bound to the model type from the bytes of a unit. -/
def load (bytes : ByteArray) (model : ModelType) : Except Error Renderer :=
  match UnitImage.ofBytes? bytes with
  | none =>
    .error (.rendererNotFound Source.rendererName "compiled unit could not be loaded")
  | some unit =>
    match model.sourceName with
    | .error e => .error e
    | .ok modelName => select unit modelName

end Stencil.Unit
