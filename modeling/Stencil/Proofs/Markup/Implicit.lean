import Mathlib
import Stencil.Proofs.Expression.Printing
import Stencil.Proofs.Markup.Concatenation

/-!
# Expressions as they stand

An expression that stands in a text without parentheses is a name with members after dots and groups
between brackets (`exists_writtenPath`). The markup only cuts the groups out. Where each of them
holds a position or a key, the expression is read as the path that it shows, one step for each
member and each group (`exists_steps_of_shown`): behind a name stands a dot, a bracket or the end,
so it ends for both readers, and a bracket within the quotes of a key is one for neither.
-/

namespace Stencil.Markup

open Text

/-! ## Written paths -/

/-- What follows the name of an expression that stands without parentheses. -/
inductive Part where
  /-- A name after a dot. -/
  | member (name : List Char)
  /-- What stands between two brackets. -/
  | group (inner : List Char)

/-- A part as it is written. -/
def Part.chars : Part → List Char
  | .member name => '.' :: name
  | .group inner => '[' :: inner ++ [']']

/-- Whether a part has a name or is closed by its bracket. -/
def Part.IsProper : Part → Prop
  | .member name => isIdentifier name = true
  | .group inner => IsGroup '[' ']' inner

/-- A name with the parts that follow it. -/
structure WrittenPath where
  /-- The name. -/
  root : List Char
  /-- What follows it. -/
  parts : List Part
  isIdentifier_root : isIdentifier root = true
  isProper_parts : ∀ part ∈ parts, part.IsProper

/-- A path as it is written. -/
def WrittenPath.chars (path : WrittenPath) : List Char :=
  path.root ++ path.parts.flatMap Part.chars

theorem exists_parts_of_isSteps {steps after : List Char} (h : IsSteps steps after) :
    ∃ parts : List Part, (∀ part ∈ parts, part.IsProper)
      ∧ steps = parts.flatMap Part.chars := by
  induction h with
  | done => exact ⟨[], fun part hpart => absurd hpart List.not_mem_nil, rfl⟩
  | @member name _ _ hname _ _ ih =>
    obtain ⟨parts, hparts, rfl⟩ := ih
    exact ⟨.member name :: parts, List.forall_mem_cons.mpr ⟨hname, hparts⟩, rfl⟩
  | @index inner _ _ hgroup _ ih =>
    obtain ⟨parts, hparts, rfl⟩ := ih
    refine ⟨.group inner :: parts, List.forall_mem_cons.mpr ⟨hgroup, hparts⟩, ?_⟩
    rw [List.flatMap_cons, Part.chars, List.append_assoc]
    rfl

/-- What a scan reads is a character, or a construct behind its sign. -/
theorem of_mem_passages {injected : List (List Char)} {last : Option Char} {text : List Char}
    {passage : Passage} (h : passage ∈ passages injected last text) :
    (∃ c, passage = ⟨[c], .char c⟩)
      ∨ ∃ known body after, passage.source = '@' :: body
          ∧ IsConstruct known body after passage.piece := by
  fun_induction passages injected last text with
  | case1 => exact absurd h List.not_mem_nil
  | case2 => exact absurd h List.not_mem_nil
  | case3 injected last c rest hlive reading hread ih =>
    obtain ⟨body, hrest, hconstruct, -⟩ := exists_of_readConstruct hread
    rcases List.mem_cons.mp h with rfl | h
    · refine Or.inr ⟨injected, body, reading.rest, ?_, hconstruct⟩
      rw [eq_sign_of_isLive hlive, hrest, List.length_append, Nat.add_sub_cancel, List.take_left]
    · exact ih h
  | case4 injected last c rest hdead ih =>
    rcases List.mem_cons.mp h with rfl | h
    · exact Or.inl ⟨c, rfl⟩
    · exact ih h

/-- An expression that no parenthesis opens is a written path. -/
theorem exists_writtenPath {injected : List (List Char)} {last : Option Char}
    {text source code : List Char} (h : ⟨source, .expression code⟩ ∈ passages injected last text)
    (hopen : ¬ ['@', '('] <+: source) :
    source = '@' :: code ∧ ∃ path : WrittenPath, path.chars = code := by
  rcases of_mem_passages h with ⟨c, heq⟩ | ⟨known, body, after, hsource, hconstruct⟩
  · cases heq
  · dsimp only at hsource hconstruct
    subst hsource
    cases hconstruct with
    | @explicit inner => exact absurd ⟨inner ++ [')'], rfl⟩ hopen
    | @implicit name steps _ hname _ _ _ hsteps =>
      obtain ⟨parts, hparts, rfl⟩ := exists_parts_of_isSteps hsteps
      exact ⟨rfl, ⟨name, parts, hname, hparts⟩, rfl⟩

end Stencil.Markup

namespace Stencil.Expression

open Decimal (fitsSigned ofDigits)
open Markup (EndsName Part WrittenPath)
open Text

/-! ## What groups hold -/

/-- Whether a text is a decimal integer: digits, with at most a minus sign before them. -/
inductive IsInteger : List Char → Int → Prop
  | plain {digits : List Char} (hne : digits ≠ []) (hdigits : ∀ c ∈ digits, c.isDigit = true) :
    IsInteger digits (ofDigits digits)
  | minus {digits : List Char} (hne : digits ≠ []) (hdigits : ∀ c ∈ digits, c.isDigit = true) :
    IsInteger ('-' :: digits) (-ofDigits digits)

/-- Whether the text between two brackets, blanks at its ends left out, holds a step: a position,
which is not negative and fits 64 bits with a sign, or a key between quotes. -/
inductive Holds : List Char → Step → Prop
  | index {inner : List Char} {position : Nat} (hinner : IsInteger (trim inner) position)
    (hbound : position < 2 ^ 63) : Holds inner (.index position)
  | key {inner body content : List Char} (hinner : trim inner = '"' :: body ++ ['"'])
    (hbody : IsQuoted body content) : Holds inner (.key (String.ofList content))

/-- The step that a part shows. -/
def Shows : Part → Step → Prop
  | .member name, step => step = .member (String.ofList name)
  | .group inner, step => Holds inner step

theorem isLexeme_of_isInteger {text : List Char} {value : Int} (h : IsInteger text value)
    (hfits : fitsSigned value = true) : IsLexeme text (.whole value) := by
  cases h with
  | plain hne hdigits =>
    have hlexeme := isLexeme_digits false hne hdigits hfits
    rwa [NumberText.chars, Option.map_none, Option.getD_none, List.append_nil] at hlexeme
  | minus hne hdigits =>
    have hlexeme := isLexeme_digits true hne hdigits hfits
    rwa [NumberText.chars, Option.map_none, Option.getD_none, List.append_nil] at hlexeme

/-! ## Groups as rows of lexemes -/

theorem IsRow.append_of_isBlank {blanks text : List Char} {ts : List Token} (h : IsRow text ts)
    (hblanks : ∀ c ∈ blanks, isBlank c = true) : IsRow (blanks ++ text) ts := by
  induction blanks with
  | nil => exact h
  | cons c blanks ih =>
    obtain ⟨hc, hmore⟩ := List.forall_mem_cons.mp hblanks
    exact .blank hc (ih hmore)

/-- What a group holds is one token, which ends before a blank and before the closing bracket, and
the three tokens of the group make the step. -/
theorem exists_token_of_holds {inner : List Char} {step : Step} (h : Holds inner step) :
    ∃ t, IsLexeme (trim inner) t
      ∧ (∀ c rest, isBlank c = true ∨ c = ']' → t.EndsBefore (c :: rest))
      ∧ ∀ {front : List Token} {steps : List Step}, IsSteps front steps →
          IsSteps (.openBracket :: t :: .closeBracket :: front) (step :: steps) := by
  cases h with
  | @index position hinner hbound =>
    have hfits : fitsSigned position = true := by
      simp only [fitsSigned, Bool.and_eq_true, decide_eq_true_eq]
      omega
    refine ⟨.whole position, isLexeme_of_isInteger hinner hfits, ?_, .index position⟩
    rintro c rest hc _ ⟨⟩
    rcases hc with hblank | rfl
    · refine ⟨?_, ?_⟩
      · by_contra hdigit
        rw [Bool.not_eq_false] at hdigit
        rw [isBlank_of_continuesIdentifier (identifier_of_isDigit hdigit).1] at hblank
        exact Bool.false_ne_true hblank
      · rintro rfl
        exact absurd hblank (by decide)
    · decide
  | key hinner hbody =>
    have hlexeme := IsLexeme.text hbody
    rw [← hinner] at hlexeme
    exact ⟨_, hlexeme, fun _ _ _ => trivial, .key _⟩

theorem isRow_group {inner text : List Char} {t : Token} {ts : List Token}
    (ht : IsLexeme (trim inner) t)
    (hend : ∀ c rest, isBlank c = true ∨ c = ']' → t.EndsBefore (c :: rest))
    (h : IsRow text ts) :
    IsRow ((Part.group inner).chars ++ text) (.openBracket :: t :: .closeBracket :: ts) := by
  obtain ⟨before, after, heq, hbefore, hafter⟩ := exists_trim inner
  have hclosed : IsRow (after ++ ']' :: text) (.closeBracket :: ts) :=
    (isRow_mark rfl h).append_of_isBlank hafter
  have hlexeme : IsRow (trim inner ++ (after ++ ']' :: text)) (t :: .closeBracket :: ts) := by
    refine .lexeme ht ?_ hclosed
    -- Behind the token stands the first blank, if there is one, or the closing bracket.
    rcases after with _ | ⟨c, after⟩
    · exact hend ']' text (Or.inr rfl)
    · exact hend c _ (Or.inl (hafter c List.mem_cons_self))
  have hchars : (Part.group inner).chars ++ text
      = '[' :: (before ++ (trim inner ++ (after ++ ']' :: text))) := by
    rw [Part.chars]
    conv => lhs; rw [heq]
    simp only [List.cons_append, List.append_assoc, List.nil_append]
  rw [hchars]
  exact isRow_mark rfl (hlexeme.append_of_isBlank hbefore)

/-! ## Paths -/

/-- A part starts with a mark, so a name before parts ends there. -/
theorem endsName_parts (parts : List Part) : EndsName (parts.flatMap Part.chars) := by
  cases parts with
  | nil => exact nofun
  | cons part parts => cases part <;> exact endsName_cons (by decide) _

/-- The parts of a path are rows of lexemes whose tokens derive the steps that they show. -/
theorem exists_isRow_parts {parts : List Part} {steps : List Step}
    (h : List.Forall₂ Shows parts steps) (hproper : ∀ part ∈ parts, part.IsProper) :
    ∃ front, IsSteps front steps ∧ IsRow (parts.flatMap Part.chars) front := by
  induction h with
  | nil => exact ⟨[], .nil, .nil⟩
  | @cons part step parts steps hshows _ ih =>
    obtain ⟨hpart, hparts⟩ := List.forall_mem_cons.mp hproper
    obtain ⟨front, hfront, hrow⟩ := ih hparts
    rw [List.flatMap_cons]
    cases part with
    | member name =>
      obtain rfl : step = _ := hshows
      refine ⟨_, .member _ hfront, ?_⟩
      exact isRow_mark rfl (.lexeme (.name hpart) (endsName_parts parts) hrow)
    | group inner =>
      obtain ⟨t, ht, hend, hsteps⟩ := exists_token_of_holds hshows
      exact ⟨_, hsteps hfront, isRow_group ht hend hrow⟩

theorem exists_steps {parts : List Part}
    (h : ∀ inner, .group inner ∈ parts → ∃ step, Holds inner step) :
    ∃ steps, List.Forall₂ Shows parts steps := by
  induction parts with
  | nil => exact ⟨[], .nil⟩
  | cons part parts ih =>
    obtain ⟨steps, hsteps⟩ := ih fun inner hinner => h inner (List.mem_cons_of_mem _ hinner)
    cases part with
    | member name => exact ⟨_, .cons rfl hsteps⟩
    | group inner =>
      obtain ⟨step, hstep⟩ := h inner List.mem_cons_self
      exact ⟨step :: steps, .cons hstep hsteps⟩

theorem parse_chars {path : WrittenPath} {steps : List Step}
    (hroot : String.ofList path.root ∉ ["true", "false", "null"])
    (hsteps : List.Forall₂ Shows path.parts steps) :
    parse path.chars = .ok (.path (String.ofList path.root) steps) := by
  obtain ⟨front, hfront, hrow⟩ := exists_isRow_parts hsteps path.isProper_parts
  have hwhole : IsRow path.chars (.name (String.ofList path.root) :: front) :=
    .lexeme (.name path.isIdentifier_root) (endsName_parts path.parts) hrow
  simp only [List.mem_cons, List.not_mem_nil, or_false, not_or] at hroot
  obtain ⟨htrue, hfalse, hnull⟩ := hroot
  exact parse_eq_ok_iff_exists_tokens.mpr
    ⟨_, tokens_eq_ok_iff.mpr hwhole, .operand (.path htrue hfalse hnull hfront)⟩

/-- An expression that a text shows without parentheses is a written path. Where its name is no
literal and each of its groups holds a step, it is read as the path with that name and with the
steps that its parts show, one for each and in their order. -/
theorem exists_steps_of_shown {text source code : List Char}
    (hread : ⟨source, .expression code⟩ ∈ Markup.passages [] none text)
    (hopen : ¬ ['@', '('] <+: source) :
    (source = '@' :: code ∧ ∃ path : WrittenPath, path.chars = code)
      ∧ ∀ path : WrittenPath, path.chars = code →
          String.ofList path.root ∉ ["true", "false", "null"] →
          (∀ inner, .group inner ∈ path.parts → ∃ step, Holds inner step) →
          ∃ steps, List.Forall₂ Shows path.parts steps
            ∧ parse code = .ok (.path (String.ofList path.root) steps) := by
  refine ⟨Markup.exists_writtenPath hread hopen, ?_⟩
  rintro path rfl hroot hgroups
  obtain ⟨steps, hsteps⟩ := exists_steps hgroups
  exact ⟨steps, hsteps, parse_chars hroot hsteps⟩

theorem isGroup_of_group? {inner : List Char}
    (h : Markup.group? '[' ']' (inner ++ [']']) = some (inner, [])) :
    Markup.IsGroup '[' ']' inner :=
  (Markup.brackets_eq_some_iff.mp h).2

/-- A name beyond ASCII, a position with blanks around it, and a key with a bracket and a quote in
it. The dot behind the last group belongs to the text. -/
theorem exists_shown_key :
    ∃ path : WrittenPath, path.chars = "é.Lines[ 07 ][\"a]\\\"\"]".toList
      ∧ ⟨'@' :: path.chars, .expression path.chars⟩
        ∈ Markup.passages [] none "a@b @é.Lines[ 07 ][\"a]\\\"\"]. @(".toList
      ∧ ¬ ['@', '('] <+: '@' :: path.chars
      ∧ String.ofList path.root ∉ ["true", "false", "null"]
      ∧ (∀ inner, .group inner ∈ path.parts → ∃ step, Holds inner step)
      ∧ ∃ steps, List.Forall₂ Shows path.parts steps
        ∧ parse path.chars = .ok (.path (String.ofList path.root) steps) := by
  have hparts : ∀ part ∈ [Part.member "Lines".toList, .group " 07 ".toList,
      .group "\"a]\\\"\"".toList], part.IsProper := by
    simp only [List.forall_mem_cons]
    refine ⟨?_, isGroup_of_group? (by decide +kernel), isGroup_of_group? (by decide +kernel), nofun⟩
    show isIdentifier "Lines".toList = true
    decide +kernel
  obtain ⟨path, hroot, hpath⟩ : ∃ path : WrittenPath, path.root = ['é']
      ∧ path.parts = [.member "Lines".toList, .group " 07 ".toList, .group "\"a]\\\"\"".toList] :=
    ⟨⟨['é'], _, by decide +kernel, hparts⟩, rfl, rfl⟩
  have hchars : path.chars = "é.Lines[ 07 ][\"a]\\\"\"]".toList := by
    rw [WrittenPath.chars, hroot, hpath]
    decide +kernel
  have hread : ⟨'@' :: path.chars, .expression path.chars⟩
      ∈ Markup.passages [] none "a@b @é.Lines[ 07 ][\"a]\\\"\"]. @(".toList := by
    rw [hchars]
    decide +kernel
  have hopen : ¬ ['@', '('] <+: '@' :: path.chars := by
    rw [hchars]
    decide +kernel
  have hname : String.ofList path.root ∉ ["true", "false", "null"] := by
    rw [hroot]
    decide +kernel
  have hposition : Holds " 07 ".toList (.index 7) := by
    have htrim : trim " 07 ".toList = ['0', '7'] := by decide +kernel
    have hdigits : ∀ c ∈ ['0', '7'], c.isDigit = true := by simp
    refine .index ?_ (by omega)
    rw [htrim]
    exact .plain (List.cons_ne_nil _ _) hdigits
  have hkey : Holds "\"a]\\\"\"".toList (.key (String.ofList ['a', ']', '"'])) := by
    have htrim : trim "\"a]\\\"\"".toList = '"' :: ['a', ']', '\\', '"'] ++ ['"'] := by
      decide +kernel
    exact .key htrim (.plain (by decide) (by decide) (.plain (by decide) (by decide)
      (.escape rfl .nil)))
  have hgroups : ∀ inner, .group inner ∈ path.parts → ∃ step, Holds inner step := by
    intro inner hinner
    rw [hpath] at hinner
    simp only [List.mem_cons, List.not_mem_nil, or_false, reduceCtorEq, false_or,
      Part.group.injEq] at hinner
    rcases hinner with rfl | rfl
    · exact ⟨_, hposition⟩
    · exact ⟨_, hkey⟩
  exact ⟨path, hchars, hread, hopen, hname, hgroups,
    (exists_steps_of_shown hread hopen).2 path rfl hname hgroups⟩

/-- A negative integer is no position. -/
theorem exists_shown_negative :
    ∃ path : WrittenPath, path.chars = "Items[-1]".toList
      ∧ path.root = "Items".toList ∧ path.parts = [.group "-1".toList]
      ∧ ⟨'@' :: path.chars, .expression path.chars⟩
        ∈ Markup.passages [] none "@Items[-1]".toList
      ∧ ¬ ['@', '('] <+: '@' :: path.chars
      ∧ IsInteger (trim "-1".toList) (-1) ∧ (-1 : Int) < 2 ^ 63
      ∧ parse path.chars = .error (.negativeIndex (-1)) := by
  have hparts : ∀ part ∈ [Part.group "-1".toList], part.IsProper :=
    List.forall_mem_singleton.mpr (isGroup_of_group? (by decide +kernel))
  obtain ⟨path, hroot, hpath⟩ : ∃ path : WrittenPath, path.root = "Items".toList
      ∧ path.parts = [.group "-1".toList] :=
    ⟨⟨"Items".toList, _, by decide +kernel, hparts⟩, rfl, rfl⟩
  have hchars : path.chars = "Items[-1]".toList := by
    rw [WrittenPath.chars, hroot, hpath]
    decide +kernel
  have htrim : trim "-1".toList = ['-', '1'] := by decide +kernel
  have hinteger : IsInteger (trim "-1".toList) (-1) := by
    have hdigits : ∀ c ∈ ['1'], c.isDigit = true := by simp
    rw [htrim]
    exact .minus (List.cons_ne_nil _ _) hdigits
  have htokens : tokens "Items[-1]".toList
      = .ok [.name "Items", .openBracket, .whole (-1), .closeBracket] := by
    decide +kernel
  refine ⟨path, hchars, hroot, hpath, ?_, ?_, hinteger, by omega, ?_⟩
  · rw [hchars]
    decide +kernel
  · rw [hchars]
    decide +kernel
  · rw [hchars, parse, htokens]
    simp [readOperand, readSteps, word?]

end Stencil.Expression
