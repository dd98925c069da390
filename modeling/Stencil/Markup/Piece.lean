import Stencil.Markup.Group
import Stencil.Text.Blank
import Stencil.Text.Identifier

/-!
# Pieces of a template

A template is a row of pieces. Most characters stand for themselves; an at sign opens a construct:
an escaped sign, a comment, an expression between parentheses, the declaration of a dependency, or
an expression written as it stands. The readers here start right after the sign.
-/

namespace Stencil.Markup

open Text

/-- A piece of a template. -/
inductive Piece where
  /-- A character that stands for itself. -/
  | char (c : Char)
  /-- `@@`, which stands for an at sign. -/
  | sign
  /-- `@* … *@`, which stands for nothing. -/
  | comment
  /-- `@( … )` or a name with steps, which stands for a value. -/
  | expression (code : List Char)
  /-- `@inject …` with the rest of its line, which declares a dependency. -/
  | inject (name : List Char)
deriving DecidableEq, Repr

/-- The dependency that a piece declares. -/
def Piece.injection : Piece → List (List Char)
  | .inject name => [name]
  | _ => []

/-- What can be wrong with a construct. -/
inductive Problem where
  /-- Nothing that follows the at sign starts a construct. -/
  | bareSign
  /-- A comment without an end. -/
  | openComment
  /-- An expression without its closing parenthesis. -/
  | openExpression
  /-- Nothing but blanks between the parentheses. -/
  | emptyExpression
  /-- An index without its closing bracket. -/
  | openIndex
  /-- A second binding to a model type. -/
  | inheritsConflict
  /-- A declaration that does not name one dependency. -/
  | badInjection
  /-- A second declaration of a dependency. -/
  | repeatedInjection (name : List Char)
deriving DecidableEq, Repr

/-- The wording of a problem. -/
def Problem.message : Problem → String
  | .bareSign => "expected an expression, a directive or '@' after '@'"
  | .openComment => "unterminated comment; expected '*@'"
  | .openExpression => "unterminated expression; expected ')'"
  | .emptyExpression => "empty expression"
  | .openIndex => "unterminated index; expected ']'"
  | .inheritsConflict => "'@inherits' conflicts with the directive bound to the model type"
  | .badInjection => "'@inject' expects a single dependency name"
  | .repeatedInjection name =>
    let name := String.ofList name
    s!"dependency '{name}' is injected twice"

/-- A piece that has been read. -/
structure Reading where
  /-- The piece. -/
  piece : Piece
  /-- Its last character, unless the text ends with it. -/
  last : Char
  /-- What follows it. -/
  rest : List Char
deriving DecidableEq

/-- What follows the end of a comment. -/
def afterComment : List Char → Option (List Char)
  | [] => none
  | '*' :: '@' :: rest => some rest
  | _ :: rest => afterComment rest

/-- Reads an expression between parentheses, after the opening one. -/
def readExplicit (text : List Char) : Except Problem Reading :=
  match group? '(' ')' text with
  | none => .error .openExpression
  | some (inner, rest) =>
    if (trim inner).isEmpty then .error .emptyExpression
    else .ok ⟨.expression (trim inner), ')', rest⟩

/-- Reads the rest of a line that declares a dependency. -/
def readInjection (injected : List (List Char)) (text : List Char) : Except Problem Reading :=
  let name := trim (text.takeWhile (· != '\n'))
  if !isIdentifier name then .error .badInjection
  else if name ∈ injected then .error (.repeatedInjection name)
  else .ok ⟨.inject name, '\n', (text.dropWhile (· != '\n')).drop 1⟩

/-! ## Progress -/

theorem length_of_afterComment {text rest : List Char} (h : afterComment text = some rest) :
    rest.length < text.length := by
  fun_induction afterComment text with
  | case1 => simp at h
  | case2 rest' =>
    obtain rfl := Option.some.inj h
    simp only [List.length_cons]
    omega
  | case3 _ rest' _ ih =>
    have := ih h
    simp only [List.length_cons]
    omega

theorem length_of_readExplicit {text : List Char} {r : Reading} (h : readExplicit text = .ok r) :
    r.rest.length < text.length := by
  unfold readExplicit at h
  split at h
  · simp at h
  · next inner rest hgroup =>
    split at h
    · simp at h
    · obtain rfl := Except.ok.inj h
      exact length_of_readGroup hgroup

theorem length_of_readInjection {injected : List (List Char)} {text : List Char} {r : Reading}
    (h : readInjection injected text = .ok r) : r.rest.length ≤ text.length := by
  simp only [readInjection] at h
  split at h
  · simp at h
  · split at h
    · simp at h
    · obtain rfl := Except.ok.inj h
      have := (List.dropWhile_suffix (l := text) (· != '\n')).length_le
      simp only [List.length_drop]
      omega

/-! ## Expressions as they stand -/

/-- Reads the steps after the name of an expression: member names after dots, and groups between
brackets. A dot that no name follows belongs to the text. -/
def readSteps : List Char → Option (List Char × List Char)
  | '.' :: c :: rest =>
    if startsIdentifier c then
      (readSteps (rest.dropWhile continuesIdentifier)).map fun (steps, after) =>
        ('.' :: c :: rest.takeWhile continuesIdentifier ++ steps, after)
    else some ([], '.' :: c :: rest)
  | '[' :: rest =>
    match _h : group? '[' ']' rest with
    | none => none
    | some (inner, after) =>
      (readSteps after).map fun (steps, after) => ('[' :: inner ++ ']' :: steps, after)
  | text => some ([], text)
termination_by text => text.length
decreasing_by
  · have := (List.dropWhile_suffix (l := rest) continuesIdentifier).length_le
    simp only [List.length_cons]
    omega
  · have := length_of_readGroup ‹_›
    simp only [List.length_cons]
    omega

/-- Steps and what follows them make up the text. -/
theorem eq_of_readSteps {text steps after : List Char} (h : readSteps text = some (steps, after)) :
    text = steps ++ after := by
  fun_induction readSteps text generalizing steps after with
  | case1 c rest hstart ih =>
    simp only [Option.map_eq_some_iff, Prod.mk.injEq, Prod.exists] at h
    obtain ⟨steps', after', hread, rfl, rfl⟩ := h
    simp only [List.cons_append, List.append_assoc, ← ih hread, List.takeWhile_append_dropWhile]
  | case2 c rest hstart =>
    obtain ⟨rfl, rfl⟩ := Prod.mk.inj (Option.some.inj h)
    rfl
  | case3 rest hgroup => simp at h
  | case4 rest inner after' hgroup ih =>
    simp only [Option.map_eq_some_iff, Prod.mk.injEq, Prod.exists] at h
    obtain ⟨steps', after'', hread, rfl, rfl⟩ := h
    rw [eq_of_readGroup hgroup, ih hread]
    simp
  | case5 text _ _ =>
    obtain ⟨rfl, rfl⟩ := Prod.mk.inj (Option.some.inj h)
    rfl

/-- Reads what starts with a name: the declaration of a dependency or an expression. -/
def readNamed (injected : List (List Char)) (text : List Char) : Except Problem Reading :=
  let name := text.takeWhile continuesIdentifier
  let rest := text.dropWhile continuesIdentifier
  if name = "inherits".toList then .error .inheritsConflict
  else if name = "inject".toList ∧ (rest.head? = some ' ' ∨ rest.head? = some '\t') then
    readInjection injected rest
  else
    match readSteps rest with
    | none => .error .openIndex
    | some (steps, after) =>
      .ok ⟨.expression (name ++ steps), (name ++ steps).getLast?.getD ' ', after⟩

/-- Reads the construct after an at sign. -/
def readConstruct (injected : List (List Char)) : List Char → Except Problem Reading
  | [] => .error .bareSign
  | '@' :: rest => .ok ⟨.sign, '@', rest⟩
  | '*' :: rest =>
    match afterComment rest with
    | some rest => .ok ⟨.comment, '@', rest⟩
    | none => .error .openComment
  | '(' :: rest => readExplicit rest
  | c :: rest =>
    if startsIdentifier c then readNamed injected (c :: rest) else .error .bareSign

theorem length_of_readNamed {injected : List (List Char)} {text : List Char} {r : Reading}
    (h : readNamed injected text = .ok r) : r.rest.length ≤ text.length := by
  have hrest := (List.dropWhile_suffix (l := text) continuesIdentifier).length_le
  simp only [readNamed] at h
  split at h
  · simp at h
  · split at h
    · have := length_of_readInjection h
      omega
    · split at h
      · simp at h
      · next steps after hsteps =>
        obtain rfl := Except.ok.inj h
        have := congrArg List.length (eq_of_readSteps hsteps)
        simp only [List.length_append] at this ⊢
        omega

/-- Reading a construct adds nothing to the text. -/
theorem length_of_readConstruct {injected : List (List Char)} {text : List Char} {r : Reading}
    (h : readConstruct injected text = .ok r) : r.rest.length ≤ text.length := by
  unfold readConstruct at h
  split at h
  · simp at h
  · obtain rfl := Except.ok.inj h
    simp
  · split at h
    · next hcomment =>
      obtain rfl := Except.ok.inj h
      have := length_of_afterComment hcomment
      simp only [List.length_cons]
      omega
    · simp at h
  · have := length_of_readExplicit h
    simp only [List.length_cons]
    omega
  · split at h
    · exact length_of_readNamed h
    · simp at h

end Stencil.Markup
