import Stencil.Entries
import Stencil.Json.Value
import Stencil.Text.Quoted

/-!
# Services

A dependency of a template is answered by a service. What a service answers may depend on how often
it has been asked before; it may fail, and it may never answer. A service can be registered under
several names. It is the same service under all of them, so it counts how often it has been asked
under any.
-/

namespace Stencil

/-- What a service answers when it is asked. -/
inductive Answer where
  /-- A value. -/
  | value (value : Value)
  /-- A failure, with its causes from the outermost to the innermost. -/
  | failure (causes : List String)
  /-- Nothing, ever. -/
  | never

/-- A service, by its answers; the number is how often it has been asked before. -/
abbrev Service := Nat → Answer

namespace Service

/-- The service that always answers the same. -/
def constant (answer : Answer) : Service :=
  fun _ => answer

/-- The service that tells how often it has been asked. -/
def counter : Service :=
  fun before => .value (.object [("calls", .number (.whole (before + 1)))])

end Service

/-- The wording of a failure with its causes. -/
def failureText (causes : List String) : String :=
  ": ".intercalate causes

/-- A service with the label that tells it apart from other services. -/
structure Provider where
  /-- The label. It is the same under all names that the service is registered under. -/
  label : String
  /-- The service. -/
  service : Service

/-- Services by the names that they are registered under, and the labels of those that have been
asked, latest first. -/
structure ServiceRegistry where
  /-- The services. -/
  services : Dictionary Provider
  /-- The labels of the services that have been asked, latest first. -/
  asked : List String

namespace ServiceRegistry

/-- The registry without services. -/
def empty : ServiceRegistry where
  services := ∅
  asked := []

/-- The labels of the services that are registered or have been asked. -/
def labels (registry : ServiceRegistry) : List String :=
  registry.services.entries.map (·.2.label) ++ registry.asked

/-- A label for a new service: it is longer than the labels of the services that are registered or
have been asked. -/
def freshLabel (registry : ServiceRegistry) : String :=
  let longest := (registry.labels.map String.length).foldr max 0
  String.ofList (List.replicate (longest + 1) '#')

/-- Registers a service that may be registered already, in place of the one of the name. -/
def share (registry : ServiceRegistry) (name : String) (provider : Provider) : ServiceRegistry :=
  { registry with services := registry.services.insert name provider }

/-- Registers a new service in place of the one of the name. -/
def register (registry : ServiceRegistry) (name : String) (service : Service) : ServiceRegistry :=
  registry.share name { label := registry.freshLabel, service }

/-- Asks a service of the registry. -/
def ask (registry : ServiceRegistry) (name : String) : Option Answer × ServiceRegistry :=
  match registry.services.get? name with
  | none => (none, registry)
  | some provider =>
    (some (provider.service (registry.asked.count provider.label)),
      { registry with asked := provider.label :: registry.asked })

/-- The registry as messages show it. -/
def described (registry : ServiceRegistry) : String :=
  let names := ", ".intercalate (registry.services.names.map Text.quoted)
  "ServiceRegistry \x7b services: [" ++ names ++ "] \x7d"

end ServiceRegistry

end Stencil
