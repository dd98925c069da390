import Stencil.Module.Catalog

/-!
# Resolving references

All modules of a reference set are fetched at once, and their bytes arrive in any order. The first
failure ends the resolution; it succeeds when every module has arrived.
-/

namespace Stencil

/-- The end of one fetch. -/
structure Completion where
  /-- The module that was fetched. -/
  module : String
  /-- Its bytes, or why there are none. -/
  outcome : Except FetchError ByteArray

/-- What became of a resolution. -/
inductive Resolution where
  /-- Every module arrived. -/
  | resolved (references : References)
  /-- A fetch failed. -/
  | failed (error : Error)
  /-- Some modules have not arrived, and none failed. -/
  | waiting (arrived : References)

namespace ReferenceSet

/-- The modules of a set that have not arrived. -/
def unresolved (set : ReferenceSet) (arrived : References) : List String :=
  set.toList.filter fun module => !arrived.contains module

/-- The error of a resolution that a fetch has ended. -/
def fetchFailure (set : ReferenceSet) (arrived : References) (module : String)
    (cause : FetchError) : Error :=
  .referenceResolution module (set.unresolved arrived) cause.message

/-- Resolves a set, given what has arrived and what arrives next. -/
def resolveFrom (set : ReferenceSet) (arrived : References) : List Completion → Resolution
  | [] => if (set.unresolved arrived).isEmpty then .resolved arrived else .waiting arrived
  | completion :: rest =>
    match completion.outcome with
    | .ok bytes => resolveFrom set (arrived.insert completion.module bytes) rest
    | .error cause => .failed (set.fetchFailure arrived completion.module cause)

/-- Resolves a set, given the completions of its fetches in their order. -/
def resolve (set : ReferenceSet) (completions : List Completion) : Resolution :=
  set.resolveFrom ∅ completions

end ReferenceSet

end Stencil
