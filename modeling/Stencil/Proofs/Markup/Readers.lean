import Mathlib
import Stencil.Proofs.Markup.Cursor

/-!
# Readers at places

At the place before a rest of the text, a reader by places does what the reader of that rest does,
and stops with no fault. Slices are between places before rests (`slice_placeBefore`); the search
for a closing bracket starts at an opening one, so a group is open until it ends
(`closing?_placeBefore`); and a step of an expression takes characters off the rest, so the rounds
over steps go on (`rounds_step`). Together these give the constructs (`readConstruct_placeBefore`).
-/

namespace Stencil.Markup

open Expression (byteSize)
open Text

namespace Cursor

/-! ## Slices and reports -/

theorem ok_bind (a : α) (f : α → Except Halt β) : (Except.ok a >>= f) = f a := rfl

/-- How a scan stops at a failure. -/
def Halt.ofFailure (text : String) (failure : Failure) : Halt :=
  .problem failure.problem (failure.place text.toList)

/-- What a reader of a rest says, told by places. The rest that starts with the sign is needed for
the place of a problem. -/
def told (text : String) (signed : List Char) : Except Problem Reading → Except Halt (Piece × Nat)
  | .ok reading => .ok (reading.piece, placeBefore text reading.rest)
  | .error problem => .error (.ofFailure text ⟨problem, signed⟩)

section

variable {text : String} {front rest signed : List Char}

theorem slice_placeBefore (h : front ++ rest <:+ text.toList) :
    slice text (placeBefore text (front ++ rest)) (placeBefore text rest) = .ok front := by
  rw [slice, slice?_placeBefore h]

theorem charsFrom_placeBefore (h : rest <:+ text.toList) :
    charsFrom text (placeBefore text rest) = .ok rest := by
  have hslice : slice text (placeBefore text (rest ++ [])) (placeBefore text []) = .ok rest :=
    slice_placeBefore (by rwa [List.append_nil])
  rwa [List.append_nil] at hslice

theorem slice_zero (h : text.toList = front ++ rest) :
    slice text 0 (placeBefore text rest) = .ok front := by
  rw [← placeBefore_toList text, h]
  exact slice_placeBefore (h ▸ List.suffix_rfl)

theorem report_placeBefore (h : signed <:+ text.toList) (problem : Problem) :
    (report text (placeBefore text signed) problem : Except Halt α)
      = .error (.ofFailure text ⟨problem, signed⟩) := by
  obtain ⟨before, hbefore⟩ := h
  rw [report, slice_zero hbefore.symm, ok_bind, Halt.ofFailure, Failure.place_eq hbefore.symm]

theorem peek_placeBefore (h : rest <:+ text.toList) :
    peek text (placeBefore text rest) = .ok rest.head? := by
  rw [peek, charsFrom_placeBefore h]
  rfl

theorem peekSecond_placeBefore (h : rest <:+ text.toList) :
    peekSecond text (placeBefore text rest) = .ok rest[1]? := by
  rw [peekSecond, charsFrom_placeBefore h]
  rfl

/-! ## Characters up to the first of a kind -/

theorem placeBefore_dropWhile (p : Char → Bool) (h : rest <:+ text.toList) :
    placeBefore text rest + byteSize (rest.takeWhile p)
      = placeBefore text (rest.dropWhile p) := by
  rw [← List.takeWhile_append_dropWhile (p := p) (l := rest)] at h
  have hplace := placeBefore_append h
  rwa [List.takeWhile_append_dropWhile] at hplace

theorem slice_takeWhile (p : Char → Bool) (h : rest <:+ text.toList) :
    slice text (placeBefore text rest) (placeBefore text (rest.dropWhile p))
      = .ok (rest.takeWhile p) := by
  rw [← List.takeWhile_append_dropWhile (p := p) (l := rest)] at h
  have hslice := slice_placeBefore h
  rwa [List.takeWhile_append_dropWhile] at hslice

/-- The offset of a character is the size of what stands before the first one. -/
theorem offset?_eq {starts : List Char → Bool} {p : Char → Bool}
    (h : ∀ c rest, starts (c :: rest) = !p c) (text : List Char) :
    offset? starts text
      = if text.dropWhile p = [] then none else some (byteSize (text.takeWhile p)) := by
  induction text with
  | nil => rfl
  | cons c text ih =>
    rw [offset?, h, List.dropWhile_cons, List.takeWhile_cons]
    cases p c with
    | false => simp [byteSize]
    | true =>
      rw [ih]
      by_cases hnil : text.dropWhile p = [] <;> simp [hnil, byteSize]

theorem readName_placeBefore (h : rest <:+ text.toList) :
    readName text (placeBefore text rest)
      = .ok (rest.takeWhile continuesIdentifier,
          placeBefore text (rest.dropWhile continuesIdentifier)) := by
  have hlength : (offset? (fun rest => rest.head?.any (!continuesIdentifier ·)) rest).getD
      (byteSize rest) = byteSize (rest.takeWhile continuesIdentifier) := by
    have hsplit := List.takeWhile_append_dropWhile (p := continuesIdentifier) (l := rest)
    rw [offset?_eq (p := continuesIdentifier) fun c rest => rfl]
    split
    · next hnil =>
      rw [hnil, List.append_nil] at hsplit
      rw [hsplit]
      rfl
    · rfl
  rw [readName, charsFrom_placeBefore h, ok_bind]
  dsimp only
  rw [hlength, placeBefore_dropWhile _ h, slice_takeWhile _ h]
  rfl

/-! ## Groups -/

/-- With a group open the search for its closing bracket goes as the reader of groups does, and the
count of open groups stays above zero until it ends. -/
theorem closing?_placeBefore {opening closing : Char} (hopening : opening ≠ '"')
    (hclosing : closing ≠ '"') (hne : opening ≠ closing) (depth : Nat) (quoting : Quoting)
    (h : rest <:+ text.toList) :
    closing? opening closing (placeBefore text rest) (depth + 1) quoting rest
      = .ok ((readGroup opening closing depth quoting rest).map fun read =>
          placeBefore text (closing :: read.2)) := by
  induction rest generalizing depth quoting with
  | nil => rfl
  | cons c rest ih =>
    have hrest : rest <:+ text.toList := (List.suffix_cons c rest).trans h
    rw [closing?.eq_def, readGroup.eq_def]
    dsimp only
    rw [placeBefore_cons h]
    by_cases hquoted : quoting ≠ .outside ∨ c = '"'
    · -- In a string, and at its first quote, brackets do not count.
      have hclose : ¬ (quoting = .outside ∧ c = closing) := by
        rintro ⟨rfl, rfl⟩
        exact hquoted.elim (fun h => h rfl) hclosing
      have hopen : ¬ (quoting = .outside ∧ c = opening) := by
        rintro ⟨rfl, rfl⟩
        exact hquoted.elim (fun h => h rfl) hopening
      rw [if_pos hquoted, if_neg hclose, if_neg hopen, ih depth _ hrest, Option.map_map]
      rfl
    · rw [if_neg hquoted]
      obtain ⟨houtside, hquote⟩ := not_or.mp hquoted
      obtain rfl := not_ne_iff.mp houtside
      have hnext : Quoting.outside.next c = .outside := if_neg hquote
      by_cases hopen : c = opening
      · subst hopen
        rw [if_pos rfl, if_neg fun hclose => hne hclose.2, if_pos ⟨rfl, rfl⟩, hnext,
          ih (depth + 1) _ hrest, Option.map_map]
        rfl
      · rw [if_neg hopen]
        by_cases hclose : c = closing
        · subst hclose
          rw [if_pos rfl, if_pos ⟨rfl, rfl⟩]
          cases depth with
          | zero => rfl
          | succ depth =>
            dsimp only
            rw [ih depth _ hrest, Option.map_map]
            rfl
        · rw [if_neg hclose, if_neg fun h => hclose h.2, if_neg fun h => hopen h.2, hnext,
            ih depth _ hrest, Option.map_map]
          rfl

/-- The bracket at a place opens the first group, so that there is one to close. -/
theorem findClosing_placeBefore {opening closing : Char} (hopening : opening ≠ '"')
    (hclosing : closing ≠ '"') (hne : opening ≠ closing) (h : opening :: rest <:+ text.toList) :
    findClosing text (placeBefore text (opening :: rest)) opening closing
      = .ok ((group? opening closing rest).map fun read =>
          placeBefore text (closing :: read.2)) := by
  have hrest : rest <:+ text.toList := (List.suffix_cons opening rest).trans h
  rw [findClosing, charsFrom_placeBefore h, ok_bind, closing?, if_neg (by simpa using hopening),
    if_pos rfl, placeBefore_cons h]
  exact closing?_placeBefore hopening hclosing hne 0 .outside hrest

/-! ## Comments, expressions between parentheses and declarations -/

/-- A comment ends two bytes behind the asterisk of its end. -/
theorem offset?_comment (h : rest <:+ text.toList) :
    (offset? (['*', '@'].isPrefixOf ·) rest).map (placeBefore text rest + · + 2)
      = (afterComment rest).map (placeBefore text) := by
  fun_induction afterComment rest with
  | case1 => rfl
  | case2 after =>
    have hsize : placeBefore text (['*', '@'] ++ after) + 2 = placeBefore text after :=
      placeBefore_append h
    have hstarts : ['*', '@'].isPrefixOf ('*' :: '@' :: after) = true := by simp
    rw [offset?, hstarts, if_pos rfl]
    exact congrArg some hsize
  | case3 c rest hother ih =>
    have hrest : rest <:+ text.toList := (List.suffix_cons c rest).trans h
    have hstarts : ['*', '@'].isPrefixOf (c :: rest) = false := by
      rw [Bool.eq_false_iff, ne_eq, List.isPrefixOf_iff_prefix]
      rintro ⟨more, hmore⟩
      obtain ⟨rfl, rfl⟩ := List.cons.inj hmore
      exact hother more rfl rfl
    rw [offset?, hstarts, if_neg Bool.false_ne_true, Option.map_map, ← ih hrest,
      ← placeBefore_cons h]
    simp only [Function.comp_def, Nat.add_assoc]

theorem readComment_placeBefore (hsigned : signed <:+ text.toList)
    (h : '*' :: rest <:+ text.toList) :
    readComment text (placeBefore text signed) (placeBefore text ('*' :: rest))
      = match afterComment rest with
        | some after => .ok (.comment, placeBefore text after)
        | none => .error (.ofFailure text ⟨.openComment, signed⟩) := by
  have hrest : rest <:+ text.toList := (List.suffix_cons _ rest).trans h
  have hplace : placeBefore text ('*' :: rest) + 1 = placeBefore text rest := placeBefore_cons h
  have hcomment := offset?_comment hrest
  rw [readComment, hplace, charsFrom_placeBefore hrest, ok_bind]
  cases hoffset : offset? (['*', '@'].isPrefixOf ·) rest with
  | none =>
    rw [hoffset, Option.map_none, eq_comm, Option.map_eq_none_iff] at hcomment
    rw [hcomment]
    exact report_placeBefore hsigned _
  | some offset =>
    rw [hoffset, Option.map_some, eq_comm, Option.map_eq_some_iff] at hcomment
    obtain ⟨after, hafter, hplace⟩ := hcomment
    rw [hafter]
    dsimp only
    rw [hplace]
    rfl

theorem readExplicit_placeBefore (hsigned : signed <:+ text.toList)
    (h : '(' :: rest <:+ text.toList) :
    readExplicit text (placeBefore text signed) (placeBefore text ('(' :: rest))
      = told text signed (Markup.readExplicit rest) := by
  have hrest : rest <:+ text.toList := (List.suffix_cons _ rest).trans h
  have hplace : placeBefore text ('(' :: rest) + 1 = placeBefore text rest := placeBefore_cons h
  rw [readExplicit, Markup.readExplicit,
    findClosing_placeBefore (by decide) (by decide) (by decide) h, ok_bind]
  cases hgroup : group? '(' ')' rest with
  | none => exact report_placeBefore hsigned _
  | some read =>
    obtain ⟨inner, after⟩ := read
    have htext := eq_of_readGroup hgroup
    subst htext
    have hafter : ')' :: after <:+ text.toList := (List.suffix_append inner _).trans hrest
    have hclose : placeBefore text (')' :: after) + 1 = placeBefore text after :=
      placeBefore_cons hafter
    dsimp only [Option.map_some]
    rw [hplace, slice_placeBefore hrest, ok_bind, hclose]
    split
    · exact report_placeBefore hsigned _
    · rfl

theorem readInjection_placeBefore (injected : List (List Char)) (hsigned : signed <:+ text.toList)
    (h : rest <:+ text.toList) :
    readInjection text injected (placeBefore text signed) (placeBefore text rest)
      = told text signed (Markup.readInjection injected rest) := by
  have hbehind : rest.dropWhile (· != '\n') <:+ text.toList :=
    (List.dropWhile_suffix _).trans h
  -- The line ends at the first line feed, or else with the text.
  have hend : (offset? (·.head? == some '\n') rest).elim text.utf8ByteSize
      (placeBefore text rest + ·) = placeBefore text (rest.dropWhile (· != '\n')) := by
    rw [offset?_eq (p := (· != '\n')) fun c rest => by simp [bne]]
    split
    · next hnil =>
      rw [hnil, placeBefore_nil]
      rfl
    · exact placeBefore_dropWhile _ h
  have hnext : min (placeBefore text (rest.dropWhile (· != '\n')) + 1) text.utf8ByteSize
      = placeBefore text ((rest.dropWhile (· != '\n')).drop 1) := by
    cases hrest : rest.dropWhile (· != '\n') with
    | nil => exact Nat.min_eq_right (Nat.le_succ _)
    | cons c more =>
      have hfeed := head?_dropWhile (congrArg List.head? hrest)
      obtain rfl : c = '\n' := by simpa using hfeed
      have hnext : placeBefore text ('\n' :: more) + 1 = placeBefore text more :=
        placeBefore_cons (hrest ▸ hbehind)
      rw [hnext, List.drop_one, List.tail_cons]
      exact Nat.min_eq_left (placeBefore_le text more)
  rw [readInjection, charsFrom_placeBefore h, ok_bind]
  dsimp only
  rw [hend, slice_takeWhile _ h, ok_bind, hnext]
  unfold Markup.readInjection
  dsimp only
  split
  · exact report_placeBefore hsigned _
  · by_cases hrepeated : trim (rest.takeWhile (· != '\n')) ∈ injected
    · rw [if_pos (List.contains_iff_mem.mpr hrepeated), if_pos hrepeated]
      exact report_placeBefore hsigned _
    · rw [if_neg (mt List.contains_iff_mem.mp hrepeated), if_neg hrepeated]
      rfl

/-! ## Steps of expressions as they stand -/

theorem rounds_of_none {place : σ → Nat} {limit : Nat} {round : σ → Except Halt (Option σ)} {s : σ}
    (h : round s = .ok none) : rounds place limit round s = .ok s := by
  rw [rounds, h]

theorem rounds_of_error {place : σ → Nat} {limit : Nat} {round : σ → Except Halt (Option σ)} {s : σ}
    {halt : Halt} (h : round s = .error halt) : rounds place limit round s = .error halt := by
  rw [rounds, h]

theorem rounds_of_some {place : σ → Nat} {limit : Nat} {round : σ → Except Halt (Option σ)}
    {s next : σ} (h : round s = .ok (some next)) (hplace : place s < place next)
    (hlimit : place next ≤ limit) :
    rounds place limit round s = rounds place limit round next := by
  rw [rounds, h]
  exact dif_pos ⟨hplace, hlimit⟩

/-- What stands behind the step that a text starts with, if it starts with one. -/
def afterStep : List Char → Except Problem (Option (List Char))
  | '.' :: c :: rest =>
    if startsIdentifier c then .ok (some (rest.dropWhile continuesIdentifier)) else .ok none
  | '[' :: rest =>
    match group? '[' ']' rest with
    | some (_, after) => .ok (some after)
    | none => .error .openIndex
  | _ => .ok none

/-- A step takes characters off the text. -/
theorem exists_of_afterStep {after : List Char} (h : afterStep rest = .ok (some after)) :
    ∃ front, front ≠ [] ∧ rest = front ++ after := by
  unfold afterStep at h
  split at h
  · next c more =>
    split at h
    · obtain rfl := Option.some.inj (Except.ok.inj h)
      refine ⟨'.' :: c :: more.takeWhile continuesIdentifier, List.cons_ne_nil _ _, ?_⟩
      rw [List.cons_append, List.cons_append, List.takeWhile_append_dropWhile]
    · cases h
  · next more =>
    split at h
    · next inner _ hgroup =>
      obtain rfl := Option.some.inj (Except.ok.inj h)
      refine ⟨'[' :: inner ++ [']'], List.cons_ne_nil _ _, ?_⟩
      rw [eq_of_readGroup hgroup]
      simp
    · cases h
  · cases h

theorem suffix_of_afterStep {after : List Char} (h : rest <:+ text.toList)
    (hafter : afterStep rest = .ok (some after)) : after <:+ text.toList := by
  obtain ⟨front, -, rfl⟩ := exists_of_afterStep hafter
  exact (List.suffix_append front after).trans h

/-- What a step says, told by places. -/
theorem step_placeBefore (hsigned : signed <:+ text.toList) (h : rest <:+ text.toList) :
    step text (placeBefore text signed) (placeBefore text rest)
      = match afterStep rest with
        | .ok after => .ok (after.map (placeBefore text))
        | .error problem => .error (.ofFailure text ⟨problem, signed⟩) := by
  rw [step, peek_placeBefore h, ok_bind]
  fun_cases afterStep rest with
  | case1 c more hstart =>
    have hname : c :: more <:+ text.toList := (List.suffix_cons _ _).trans h
    have hplace : placeBefore text ('.' :: c :: more) + 1 = placeBefore text (c :: more) :=
      placeBefore_cons h
    dsimp only [List.head?_cons]
    rw [peekSecond_placeBefore h, ok_bind, if_pos (by simpa using hstart), hplace,
      readName_placeBefore hname, ok_bind, List.dropWhile_cons,
      if_pos (continuesIdentifier_of_starts hstart)]
    rfl
  | case2 c more hstart =>
    dsimp only [List.head?_cons]
    rw [peekSecond_placeBefore h, ok_bind, if_neg (by simpa using hstart)]
    rfl
  | case3 more inner after hgroup =>
    have hclosed : ']' :: after <:+ text.toList := by
      rw [eq_of_readGroup hgroup] at h
      exact (List.suffix_append ('[' :: inner) _).trans h
    have hplace : placeBefore text (']' :: after) + 1 = placeBefore text after :=
      placeBefore_cons hclosed
    dsimp only [List.head?_cons]
    rw [findClosing_placeBefore (by decide) (by decide) (by decide) h, ok_bind, hgroup]
    dsimp only [Option.map_some]
    rw [hplace]
    rfl
  | case4 more hgroup =>
    dsimp only [List.head?_cons]
    rw [findClosing_placeBefore (by decide) (by decide) (by decide) h, ok_bind, hgroup]
    exact report_placeBefore hsigned _
  | case5 _ hdot hbracket =>
    split
    · next hhead =>
      -- A dot at the end of the text has nothing behind it that could start a name.
      obtain ⟨more, rfl⟩ := List.head?_eq_some_iff.mp hhead
      cases more with
      | nil =>
        rw [peekSecond_placeBefore h]
        rfl
      | cons c more => exact absurd rfl (hdot c more)
    · next hhead =>
      obtain ⟨more, rfl⟩ := List.head?_eq_some_iff.mp hhead
      exact absurd rfl (hbracket more)
    · rfl

theorem rounds_of_afterStep {after : List Char} (hsigned : signed <:+ text.toList)
    (h : rest <:+ text.toList) (hafter : afterStep rest = .ok (some after)) :
    rounds id text.utf8ByteSize (step text (placeBefore text signed)) (placeBefore text rest)
      = rounds id text.utf8ByteSize (step text (placeBefore text signed))
          (placeBefore text after) := by
  obtain ⟨front, hfront, rfl⟩ := exists_of_afterStep hafter
  have hstep := step_placeBefore hsigned h
  rw [hafter] at hstep
  exact rounds_of_some hstep (placeBefore_lt h hfront) (placeBefore_le text after)

/-- The steps at a place are read as those of the rest, in rounds that go on in the text. -/
theorem rounds_step (hsigned : signed <:+ text.toList) (h : rest <:+ text.toList) :
    rounds id text.utf8ByteSize (step text (placeBefore text signed)) (placeBefore text rest)
      = match readSteps rest with
        | some (_, after) => .ok (placeBefore text after)
        | none => .error (.ofFailure text ⟨.openIndex, signed⟩) := by
  have hstep := step_placeBefore hsigned h
  fun_induction readSteps rest with
  | case1 c rest hstart ih =>
    have hafter : afterStep ('.' :: c :: rest) = .ok (some (rest.dropWhile continuesIdentifier)) :=
      if_pos hstart
    have hrest := suffix_of_afterStep h hafter
    rw [rounds_of_afterStep hsigned h hafter, ih hrest (step_placeBefore hsigned hrest)]
    cases readSteps (rest.dropWhile continuesIdentifier) <;> rfl
  | case2 c rest hstart =>
    have hafter : afterStep ('.' :: c :: rest) = .ok none := if_neg hstart
    rw [hafter] at hstep
    exact rounds_of_none hstep
  | case3 rest hgroup =>
    have hafter : afterStep ('[' :: rest) = .error .openIndex := by rw [afterStep, hgroup]
    rw [hafter] at hstep
    exact rounds_of_error hstep
  | case4 rest inner after hgroup ih =>
    have hafter : afterStep ('[' :: rest) = .ok (some after) := by rw [afterStep, hgroup]
    have hrest := suffix_of_afterStep h hafter
    rw [rounds_of_afterStep hsigned h hafter, ih hrest (step_placeBefore hsigned hrest)]
    cases readSteps after <;> rfl
  | case5 rest hdot hbracket =>
    have hafter : afterStep rest = .ok none := by
      rw [afterStep.eq_def]
      split
      · exact absurd rfl (hdot _ _)
      · exact absurd rfl (hbracket _)
      · rfl
    rw [hafter] at hstep
    exact rounds_of_none hstep

/-! ## Constructs -/

theorem readPath_placeBefore {name : List Char} (hsigned : signed <:+ text.toList)
    (h : name ++ rest <:+ text.toList) :
    (do
      let behind ← rounds id text.utf8ByteSize (step text (placeBefore text signed))
        (placeBefore text rest)
      return (.expression (← slice text (placeBefore text (name ++ rest)) behind), behind))
      = told text signed
          (match readSteps rest with
          | none => .error .openIndex
          | some (steps, after) =>
            .ok ⟨.expression (name ++ steps), (name ++ steps).getLast?.getD ' ', after⟩) := by
  have hrest : rest <:+ text.toList := (List.suffix_append name rest).trans h
  rw [rounds_step hsigned hrest]
  cases hsteps : readSteps rest with
  | none => rfl
  | some read =>
    obtain ⟨steps, after⟩ := read
    obtain rfl := eq_of_readSteps hsteps
    rw [← List.append_assoc] at h
    dsimp only
    rw [ok_bind, ← List.append_assoc, slice_placeBefore h]
    rfl

theorem readNamed_placeBefore (injected : List (List Char)) (hsigned : signed <:+ text.toList)
    (h : rest <:+ text.toList) :
    readNamed text injected (placeBefore text signed) (placeBefore text rest)
      = told text signed (Markup.readNamed injected rest) := by
  have hsplit := List.takeWhile_append_dropWhile (p := continuesIdentifier) (l := rest)
  have hbehind : rest.dropWhile continuesIdentifier <:+ text.toList :=
    (List.dropWhile_suffix _).trans h
  rw [readNamed, readName_placeBefore h, ok_bind]
  unfold Markup.readNamed
  dsimp only
  generalize rest.takeWhile continuesIdentifier = name at hsplit ⊢
  generalize rest.dropWhile continuesIdentifier = behind at hsplit hbehind ⊢
  subst hsplit
  by_cases hinherits : name = "inherits".toList
  · rw [if_pos hinherits, if_pos hinherits]
    exact report_placeBefore hsigned _
  · rw [if_neg hinherits, if_neg hinherits]
    by_cases hinject : name = "inject".toList
    · rw [if_pos hinject, peek_placeBefore hbehind, ok_bind]
      by_cases hblank : behind.head? = some ' ' ∨ behind.head? = some '\t'
      · rw [if_pos hblank, if_pos ⟨hinject, hblank⟩]
        exact readInjection_placeBefore injected hsigned hbehind
      · rw [if_neg hblank, if_neg fun h => hblank h.2]
        exact readPath_placeBefore hsigned h
    · rw [if_neg hinject, ok_bind, if_neg (by simp), if_neg fun h => hinject h.1]
      exact readPath_placeBefore hsigned h

theorem readConstruct_of_ne {c : Char} (injected : List (List Char)) (sign : Nat) (hsign : c ≠ '@')
    (hcomment : c ≠ '*') (hexplicit : c ≠ '(') (h : c :: rest <:+ text.toList) :
    readConstruct text injected sign (placeBefore text (c :: rest))
      = if startsIdentifier c then
          readNamed text injected sign (placeBefore text (c :: rest))
        else report text sign .bareSign := by
  rw [readConstruct, peek_placeBefore h, ok_bind, List.head?_cons]
  split
  · next heq => exact absurd (Option.some.inj heq) hsign
  · next heq => exact absurd (Option.some.inj heq) hcomment
  · next heq => exact absurd (Option.some.inj heq) hexplicit
  · next heq => rw [Option.some.inj heq]
  · next heq => cases heq

/-- The construct at the place of a rest is the one that the rest starts with. -/
theorem readConstruct_placeBefore (injected : List (List Char)) (hsigned : signed <:+ text.toList)
    (h : rest <:+ text.toList) :
    readConstruct text injected (placeBefore text signed) (placeBefore text rest)
      = told text signed (Markup.readConstruct injected rest) := by
  fun_cases Markup.readConstruct injected rest with
  | case1 =>
    rw [readConstruct, peek_placeBefore h, ok_bind]
    exact report_placeBefore hsigned _
  | case2 after =>
    have hplace : placeBefore text ('@' :: after) + 1 = placeBefore text after :=
      placeBefore_cons h
    rw [readConstruct, peek_placeBefore h, ok_bind]
    dsimp only [List.head?_cons]
    rw [hplace]
    rfl
  | case3 rest after hcomment =>
    rw [readConstruct, peek_placeBefore h, ok_bind]
    dsimp only [List.head?_cons]
    rw [readComment_placeBefore hsigned h, hcomment]
    rfl
  | case4 rest hcomment =>
    rw [readConstruct, peek_placeBefore h, ok_bind]
    dsimp only [List.head?_cons]
    rw [readComment_placeBefore hsigned h, hcomment]
    rfl
  | case5 rest =>
    rw [readConstruct, peek_placeBefore h, ok_bind]
    exact readExplicit_placeBefore hsigned h
  | case6 c rest hsign hcomment hexplicit hstart =>
    rw [readConstruct_of_ne injected _ hsign hcomment hexplicit h, if_pos hstart]
    exact readNamed_placeBefore injected hsigned h
  | case7 c rest hsign hcomment hexplicit hstart =>
    rw [readConstruct_of_ne injected _ hsign hcomment hexplicit h, if_neg hstart]
    exact report_placeBefore hsigned _

end

end Cursor

end Stencil.Markup
