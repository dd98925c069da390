import Stencil.Entries
import Stencil.Model
import Stencil.Text.Caseless

/-!
# Modules

A module is a named list of type schemas. A schema may list the members of its type, each with the
name of its own type; a schema without such a list is sealed, and nothing is known of its members.
-/

namespace Stencil

/-- What is known of a type. -/
structure Schema where
  /-- The name of the type. -/
  name : String
  /-- The types of the members by their names; a sealed type lists none. -/
  members : Option (Dictionary String)

/-- What a schema says of one member. -/
inductive Membership where
  /-- The type is sealed, so it may have the member. -/
  | unknown
  /-- The type has no such member. -/
  | absent
  /-- The type has the member, and this is the member's type. -/
  | declared (type : String)
deriving DecidableEq, Repr

namespace Schema

/-- The schema of a sealed type. -/
def sealed (name : String) : Schema where
  name
  members := none

/-- The schema of a type without members. -/
def empty (name : String) : Schema where
  name
  members := some ∅

/-- What the schema says of a member, named in its own case if possible. -/
def member (schema : Schema) (name : String) : Membership :=
  match schema.members with
  | none => .unknown
  | some members =>
    match Text.findNamed name members.entries with
    | some type => .declared type
    | none => .absent

end Schema

/-- A named list of type schemas. -/
structure Module where
  /-- The name of the module. -/
  name : String
  /-- The schemas in the order in which their names were first defined. -/
  types : List Schema

namespace Module

/-- The module of the given name without types. -/
def new (name : String) : Module where
  name
  types := []

/-- The schemas with the given one in place of the first of its name, or at the end. -/
def place (schema : Schema) : List Schema → List Schema
  | [] => [schema]
  | first :: rest =>
    if first.name = schema.name then schema :: rest else first :: place schema rest

/-- Defines a type, in place of the type of that name. -/
def define (module : Module) (schema : Schema) : Module :=
  { module with types := place schema module.types }

/-- Defines the types of another module one by one. -/
def merge (module other : Module) : Module :=
  other.types.foldl define module

/-- The first type of the given name. -/
def find? (module : Module) (name : String) : Option Schema :=
  module.types.find? (·.name == name)

/-- The module of the types that every module may use: the scalars, which have no members, and the
sealed type of all objects. -/
def runtime : Module :=
  [Schema.empty "string", .empty "int", .empty "float", .empty "bool", .sealed "object"].foldl
    define (new runtimeModule)

/-- The module of the renderer contract. -/
def host : Module :=
  (new hostModule).define (.sealed baseContract)

end Module

end Stencil
