import Stencil.Expression.Parser
import Stencil.Module.Format
import Stencil.Module.References
import Stencil.Text.Lines
import Stencil.Unit.Checking
import Stencil.Unit.Format

/-!
# Compiling renderer source

Renderer source is read line by line. Blank lines and comments count for nothing; every other line
is a statement, a keyword and the rest of the line. A unit statement comes first, then declarations,
then the instructions between `execute` and `end`. A faulty line is noted and the next one is read,
so one compilation finds the problems of all lines.
-/

namespace Stencil.Unit

open Text

/-- The part of the source that a line stands in. -/
inductive Part where
  /-- Before the unit statement. -/
  | header
  /-- Before `execute`. -/
  | declarations
  /-- Between `execute` and `end`. -/
  | body
  /-- After `end`. -/
  | done
deriving DecidableEq, Repr

/-- What has been read of a source. -/
structure Draft where
  /-- The part that the next line stands in. -/
  part : Part
  /-- The name of the unit. -/
  unit : String
  /-- The name and the contract of the renderer. -/
  renderer : Option (String × Contract)
  /-- The declared dependencies. -/
  dependencies : List String
  /-- The instructions. -/
  body : List Instruction
  /-- What is wrong so far. -/
  findings : List Finding

/-- A line of source that says something. -/
structure Statement where
  /-- The first word. -/
  keyword : List Char
  /-- What follows it, without the blanks around it. -/
  rest : List Char
deriving DecidableEq

/-- The statement of a line, unless it is blank or a comment. -/
def Statement.ofLine? (line : List Char) : Option Statement :=
  match trim line with
  | [] => none
  | '/' :: '/' :: _ => none
  | content =>
    some {
      keyword := content.takeWhile (!isBlank ·)
      rest := trim (content.dropWhile (!isBlank ·)) }

namespace Draft

/-- The draft before the first line, with what is wrong with the modules. -/
def start (findings : List Finding) : Draft where
  part := .header
  unit := ""
  renderer := none
  dependencies := []
  body := []
  findings

/-- Notes problems of a line. -/
def note (draft : Draft) (line : Nat) (problems : List Problem) : Draft :=
  { draft with findings := draft.findings ++ problems.map (⟨some line, ·⟩) }

/-- What expressions are checked against. -/
def scope (draft : Draft) (types : TypeTable) : Scope where
  types
  model := draft.renderer.map (·.2.model)
  dependencies := draft.dependencies

/-- The text before and after the first character of the given kind. -/
def splitAtFirst (mark : Char) (text : List Char) : Option (List Char × List Char) :=
  if mark ∈ text then some (text.takeWhile (· != mark), (text.dropWhile (· != mark)).drop 1)
  else none

/-- The contract and the model type of a bound contract `Contract<Model>`. -/
def boundContract? (text : List Char) : Option Contract :=
  if text.getLast? = some '>' then
    (splitAtFirst '<' text.dropLast).map fun (name, model) =>
      ⟨String.ofList (trim name), String.ofList (trim model)⟩
  else none

/-- Reads the statement of the unit. -/
def readUnit (draft : Draft) (line : Nat) (rest : List Char) : Draft :=
  let noted := draft.note line (if rest.isEmpty then [.unnamedUnit] else [])
  { noted with unit := String.ofList rest, part := .declarations }

/-- Reads the declaration of a renderer, `Name : Contract<Model>`. -/
def readRenderer (types : TypeTable) (draft : Draft) (line : Nat) (rest : List Char) : Draft :=
  if draft.renderer.isSome then draft.note line [.repeatedRenderer]
  else
    match splitAtFirst ':' rest with
    | none => draft.note line [.unboundRenderer]
    | some (name, contract) =>
      let name := trim name
      match boundContract? (trim contract) with
      | none => draft.note line [.unboundContract (String.ofList (trim contract))]
      | some base =>
        let noted := draft.note line
          ((if isIdentifier name then [] else [.badTypeName (String.ofList name)])
            ++ ([base.name, base.model].filter (!types.contains ·)).map .missingType)
        { noted with renderer := some (String.ofList name, base) }

/-- Reads the declaration of a dependency. The name of the model is taken from the start. -/
def readInjection (draft : Draft) (line : Nat) (rest : List Char) : Draft :=
  let name := String.ofList rest
  if !isIdentifier rest then draft.note line [.badDependency name]
  else if name = Expression.modelRoot ∨ name ∈ draft.dependencies then
    draft.note line [.repeatedDependency name]
  else { draft with dependencies := draft.dependencies ++ [name] }

/-- Reads the start of the instructions. -/
def readExecute (draft : Draft) (line : Nat) : Draft :=
  let noted := draft.note line (if draft.renderer.isNone then [.earlyExecute] else [])
  { noted with part := .body }

/-- Reads an instruction that writes a JSON string. -/
def readLiteral (draft : Draft) (line : Nat) (rest : List Char) : Draft :=
  match Decoder.text.run rest with
  | some text => { draft with body := draft.body ++ [.writeLiteral text] }
  | none => draft.note line [.badLiteral]

/-- Reads an instruction that writes the value of an expression. -/
def readWrite (types : TypeTable) (draft : Draft) (line : Nat) (rest : List Char) : Draft :=
  match Expression.parse rest with
  | .error cause => draft.note line [.badExpression (String.ofList rest) cause]
  | .ok expression =>
    let noted := draft.note line (expressionProblems (draft.scope types) expression)
    { noted with body := noted.body ++ [.write expression] }

/-- Reads a statement. -/
def readStatement (types : TypeTable) (draft : Draft) (line : Nat) (statement : Statement) :
    Draft :=
  let keyword := String.ofList statement.keyword
  match draft.part, keyword with
  | .header, "unit" => draft.readUnit line statement.rest
  | .header, _ => { draft.note line [.missingUnit] with part := .declarations }
  | .declarations, "renderer" => draft.readRenderer types line statement.rest
  | .declarations, "inject" => draft.readInjection line statement.rest
  | .declarations, "execute" => draft.readExecute line
  | .body, "literal" => draft.readLiteral line statement.rest
  | .body, "write" => draft.readWrite types line statement.rest
  | .body, "end" => { draft with part := .done }
  | .done, _ => draft.note line [.afterEnd keyword]
  | _, _ => draft.note line [.unexpected keyword]

/-- Reads a line. -/
def readLine (types : TypeTable) (draft : Draft) (line : Nat) (text : List Char) : Draft :=
  match Statement.ofLine? text with
  | none => draft
  | some statement => draft.readStatement types line statement

/-- Reads the lines after the given number of lines. -/
def readLines (types : TypeTable) (draft : Draft) (before : Nat) : List (List Char) → Draft
  | [] => draft
  | text :: rest => readLines types (draft.readLine types (before + 1) text) (before + 1) rest

/-- Notes what is missing at the end of a source of the given number of lines. -/
def finish (draft : Draft) (lineCount : Nat) : Draft :=
  match draft.part with
  | .done => draft
  | .body => draft.note lineCount [.missingEnd]
  | .header | .declarations => draft.note lineCount [.missingExecute]

/-- The draft of a whole source. -/
def ofSource (types : TypeTable) (findings : List Finding) (source : List Char) : Draft :=
  ((start findings).readLines types 0 (lines source)).finish (lines source).length

/-- The unit of a draft, if there is a renderer. -/
def image? (draft : Draft) : Option UnitImage :=
  draft.renderer.map fun (name, base) =>
    { name := draft.unit
      types := [{ name, base, dependencies := draft.dependencies, body := draft.body }] }

end Draft

/-- The modules that references stand for, with `none` for bytes that are no module. -/
def readModules (references : References) : List (String × Option Module) :=
  references.entries.map fun entry => (entry.1, Module.ofBytes? entry.2)

/-- What is wrong with the modules. -/
def moduleFindings (modules : List (String × Option Module)) : List Finding :=
  (modules.filter (·.2.isNone)).map fun entry => ⟨none, .unreadableModule entry.1⟩

/-- The table of the types of modules. Of two types of one name the later one counts. -/
def typeTable (modules : List Module) : TypeTable :=
  Dictionary.ofList ((modules.flatMap (·.types)).map fun schema => (schema.name, schema))

/-- Compiles a source against the modules it refers to. -/
def compile (source : String) (references : References) : Except (List Finding) UnitImage :=
  let modules := readModules references
  let draft :=
    Draft.ofSource (typeTable (modules.filterMap (·.2))) (moduleFindings modules) source.toList
  if draft.findings.isEmpty then
    match draft.image? with
    | some image => .ok image
    | none => .error [⟨none, .missingRenderer⟩]
  else .error draft.findings

/-- Compiles a source to the bytes of a unit. -/
def build (source : String) (references : References) : Except Error ByteArray :=
  match compile source references with
  | .ok image => .ok image.bytes
  | .error findings => .error (.compilation (findings.map Finding.diagnostic))

end Stencil.Unit
