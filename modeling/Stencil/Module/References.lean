import Stencil.Entries
import Stencil.Model

/-!
# References

A compilation refers to modules by their names. A set of references keeps the names in increasing
order; resolved references hold the bytes of every module of a set.
-/

namespace Stencil

/-- A set of module names. -/
structure ReferenceSet where
  /-- The names, as the names of a dictionary without values. -/
  modules : Dictionary Unit

namespace ReferenceSet

/-- The set without names. -/
def empty : ReferenceSet where
  modules := ∅

/-- The names in increasing order. -/
def toList (set : ReferenceSet) : List String :=
  set.modules.names

/-- Adds a name. -/
def insert (set : ReferenceSet) (module : String) : ReferenceSet where
  modules := set.modules.insert module ()

/-- Whether a name is in the set. -/
def contains (set : ReferenceSet) (module : String) : Bool :=
  set.modules.contains module

/-- The set of the given names. -/
def ofList (modules : List String) : ReferenceSet :=
  modules.foldl insert empty

/-- The modules that a template bound to the model refers to. -/
def ofModel (model : ModelType) : ReferenceSet :=
  ofList [runtimeModule, hostModule, model.module]

end ReferenceSet

/-- The bytes of fetched modules by the names of the modules. -/
abbrev References := Dictionary ByteArray

end Stencil
