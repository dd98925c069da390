import Mathlib
import Stencil.Markup.Piece
import Stencil.Proofs.Markup.Group
import Stencil.Proofs.Text.Trimming

/-!
# The grammar of constructs

The relations of this module say what may stand behind a live at sign, without saying how it is
found. The readers of constructs find exactly these: what is read is a construct
(`exists_of_readConstruct`), and every construct is read as what it is (`exists_readConstruct`).
-/

namespace Stencil.Markup

open Text

/-! ## Constructs -/

/-- Whether a text before `*@` holds no `*@` that would end a comment earlier. -/
def IsComment (text : List Char) : Prop :=
  ∀ front rest, text ++ ['*', '@'] = front ++ '*' :: '@' :: rest → rest = []

/-- Whether a name ends where the given text starts. -/
def EndsName (after : List Char) : Prop :=
  ∀ c, after.head? = some c → continuesIdentifier c = false

/-- The steps of a path as far as they go: members after dots and balanced groups between brackets,
up to a text that neither adds to the last name nor starts another step. -/
inductive IsSteps : (steps after : List Char) → Prop
  | done {after : List Char} (hbracket : after.head? ≠ some '[')
      (hdot : ∀ c rest, after = '.' :: c :: rest → startsIdentifier c = false) : IsSteps [] after
  | member {name steps after : List Char} (hname : isIdentifier name = true)
      (hend : EndsName (steps ++ after)) (hsteps : IsSteps steps after) :
      IsSteps ('.' :: name ++ steps) after
  | index {inner steps after : List Char} (hgroup : IsGroup '[' ']' inner)
      (hsteps : IsSteps steps after) : IsSteps ('[' :: inner ++ ']' :: steps) after

/-- What may stand behind a live sign, given the dependencies that were declared before it and the
text that follows. -/
inductive IsConstruct (injected : List (List Char)) : (body after : List Char) → Piece → Prop
  | sign {after : List Char} : IsConstruct injected ['@'] after .sign
  | comment {text after : List Char} (htext : IsComment text) :
      IsConstruct injected ('*' :: text ++ ['*', '@']) after .comment
  | explicit {code after : List Char} (hgroup : IsGroup '(' ')' code) (hcode : trim code ≠ []) :
      IsConstruct injected ('(' :: code ++ [')']) after (.expression (trim code))
  | inject {blank : Char} {line feed after : List Char} (hblank : blank = ' ' ∨ blank = '\t')
      (hline : '\n' ∉ line) (hfeed : feed = ['\n'] ∨ feed = [] ∧ after = [])
      (hname : isIdentifier (trim line) = true) (hnew : trim line ∉ injected) :
      IsConstruct injected ("inject".toList ++ blank :: line ++ feed) after (.inject (trim line))
  | implicit {name steps after : List Char} (hname : isIdentifier name = true)
      (hend : EndsName (steps ++ after)) (hinherits : name ≠ "inherits".toList)
      (hinject : name = "inject".toList →
        (steps ++ after).head? ≠ some ' ' ∧ (steps ++ after).head? ≠ some '\t')
      (hsteps : IsSteps steps after) :
      IsConstruct injected (name ++ steps) after (.expression (name ++ steps))

/-! ## Reading constructs -/

theorem isComment_nil : IsComment [] := by
  intro front rest heq
  rcases front with _ | ⟨c, front⟩
  · exact (List.cons.inj (List.cons.inj heq).2).2.symm
  · have hlength := congrArg List.length heq
    simp only [List.nil_append, List.cons_append, List.length_append, List.length_cons,
      List.length_nil] at hlength
    omega

theorem isComment_cons {c : Char} {text : List Char} (htext : IsComment text)
    (h : c = '*' → (text ++ ['*', '@']).head? ≠ some '@') : IsComment (c :: text) := by
  intro front rest heq
  rcases front with _ | ⟨d, front⟩
  · obtain ⟨rfl, hmore⟩ := List.cons.inj heq
    exact absurd (congrArg List.head? hmore) (h rfl)
  · exact htext front rest (List.cons.inj heq).2

/-- A comment is read up to the first `*@`. -/
theorem afterComment_eq_some_iff {text after : List Char} :
    afterComment text = some after
      ↔ ∃ inner, text = inner ++ '*' :: '@' :: after ∧ IsComment inner := by
  constructor
  · intro h
    fun_induction afterComment text with
    | case1 => cases h
    | case2 rest =>
      obtain rfl := Option.some.inj h
      exact ⟨[], rfl, isComment_nil⟩
    | case3 c rest hother ih =>
      obtain ⟨inner, rfl, hinner⟩ := ih h
      refine ⟨c :: inner, rfl, isComment_cons hinner fun hc hhead => ?_⟩
      cases inner with
      | nil => cases hhead
      | cons d inner =>
        obtain rfl := Option.some.inj hhead
        exact hother _ hc rfl
  · rintro ⟨inner, rfl, hinner⟩
    induction inner with
    | nil => rfl
    | cons c inner ih =>
      have hinner' : IsComment inner := fun front rest heq =>
        hinner (c :: front) rest (congrArg (c :: ·) heq)
      rw [List.cons_append, afterComment, ih hinner']
      intro rest hc hrest
      -- A `*@` at the front would be an earlier end.
      rcases inner with _ | ⟨d, inner⟩
      · cases hrest
      · obtain ⟨rfl, -⟩ := List.cons.inj hrest
        have := hinner [] (inner ++ ['*', '@']) (by rw [hc]; rfl)
        simp at this

theorem endsName_dropWhile (text : List Char) : EndsName (text.dropWhile continuesIdentifier) :=
  fun _ hc => head?_dropWhile hc

theorem isIdentifier_cons_takeWhile {c : Char} (h : startsIdentifier c = true) (text : List Char) :
    isIdentifier (c :: text.takeWhile continuesIdentifier) = true := by
  rw [isIdentifier, h, Bool.true_and, List.all_eq_true]
  exact fun d hd => List.mem_takeWhile_imp hd

theorem isSteps_of_readSteps {text steps after : List Char}
    (h : readSteps text = some (steps, after)) : IsSteps steps after := by
  fun_induction readSteps text generalizing steps after with
  | case1 c rest hstart ih =>
    simp only [Option.map_eq_some_iff, Prod.mk.injEq, Prod.exists] at h
    obtain ⟨steps, _, hread, rfl, rfl⟩ := h
    refine .member (isIdentifier_cons_takeWhile hstart rest) ?_ (ih hread)
    rw [← eq_of_readSteps hread]
    exact endsName_dropWhile rest
  | case2 c rest hstart =>
    obtain ⟨rfl, rfl⟩ := Prod.mk.inj (Option.some.inj h)
    refine .done (by simp) fun d rest heq => ?_
    obtain ⟨rfl, -⟩ := List.cons.inj (List.cons.inj heq).2
    simpa using hstart
  | case3 rest hgroup => cases h
  | case4 rest inner after' hgroup ih =>
    simp only [Option.map_eq_some_iff, Prod.mk.injEq, Prod.exists] at h
    obtain ⟨steps, _, hread, rfl, rfl⟩ := h
    exact .index (brackets_eq_some_iff.mp hgroup).2 (ih hread)
  | case5 text hdot hbracket =>
    obtain ⟨rfl, rfl⟩ := Prod.mk.inj (Option.some.inj h)
    refine .done (fun hhead => ?_) fun c rest heq => absurd heq (hdot c rest)
    obtain ⟨rest, rfl⟩ := List.head?_eq_some_iff.mp hhead
    exact hbracket rest rfl

theorem readSteps_append {steps after : List Char} (h : IsSteps steps after) :
    readSteps (steps ++ after) = some (steps, after) := by
  induction h with
  | @done after hbracket hdot =>
    rw [List.nil_append, readSteps.eq_def]
    split
    · next c rest => rw [if_neg (by rw [hdot c rest rfl]; exact Bool.false_ne_true)]
    · exact absurd rfl hbracket
    · rfl
  | @member name steps after hname hend _ ih =>
    obtain ⟨c, tail, rfl⟩ := List.exists_cons_of_ne_nil (ne_nil_of_isIdentifier hname)
    rw [isIdentifier, Bool.and_eq_true, List.all_eq_true] at hname
    have htext : '.' :: (c :: tail) ++ steps ++ after
        = '.' :: c :: (tail ++ (steps ++ after)) := by
      simp
    rw [htext, readSteps, if_pos hname.1, dropWhile_run hname.2 hend,
      takeWhile_run hname.2 hend, ih]
    rfl
  | @index inner steps after hgroup _ ih =>
    have htext : '[' :: inner ++ ']' :: steps ++ after
        = '[' :: (inner ++ ']' :: (steps ++ after)) := by
      simp
    have hread : group? '[' ']' (inner ++ ']' :: (steps ++ after))
        = some (inner, steps ++ after) :=
      brackets_eq_some_iff.mpr ⟨rfl, hgroup⟩
    rw [htext, readSteps, hread]
    dsimp only
    rw [ih]
    rfl

/-- Steps are read as far as they go. -/
theorem readSteps_eq_some_iff {text steps after : List Char} :
    readSteps text = some (steps, after) ↔ text = steps ++ after ∧ IsSteps steps after := by
  constructor
  · intro h
    exact ⟨eq_of_readSteps h, isSteps_of_readSteps h⟩
  · rintro ⟨rfl, h⟩
    exact readSteps_append h

/-- What the blank behind the word of a declaration is and is not. -/
theorem blank_of_declaration {blank : Char} (h : blank = ' ' ∨ blank = '\t') :
    isBlank blank = true ∧ blank ≠ '\n' ∧ continuesIdentifier blank = false := by
  rcases h with rfl | rfl
  · decide
  · decide

/-- The parts of a declaration: its line, the line feed if there is one, and what follows. -/
theorem exists_feed (text : List Char) :
    ∃ feed, text = text.takeWhile (· != '\n') ++ feed ++ (text.dropWhile (· != '\n')).drop 1
      ∧ (feed = ['\n'] ∨ feed = [] ∧ (text.dropWhile (· != '\n')).drop 1 = []) := by
  have hsplit := List.takeWhile_append_dropWhile (p := (· != '\n')) (l := text)
  cases hrest : text.dropWhile (· != '\n') with
  | nil =>
    rw [hrest, List.append_nil] at hsplit
    exact ⟨[], by simp [hsplit], Or.inr ⟨rfl, rfl⟩⟩
  | cons c rest =>
    have hfeed := head?_dropWhile (congrArg List.head? hrest)
    obtain rfl : c = '\n' := by simpa using hfeed
    rw [hrest] at hsplit
    exact ⟨['\n'], by simp [hsplit], Or.inl rfl⟩

/-- A declaration is read to the end of its line. -/
theorem takeWhile_line {line feed after : List Char} (hline : '\n' ∉ line)
    (hfeed : feed = ['\n'] ∨ feed = [] ∧ after = []) :
    (line ++ feed ++ after).takeWhile (· != '\n') = line
      ∧ ((line ++ feed ++ after).dropWhile (· != '\n')).drop 1 = after := by
  have hkept : ∀ c ∈ line, (c != '\n') = true := by
    intro c hc
    rw [bne_iff_ne]
    rintro rfl
    exact hline hc
  rw [List.append_assoc, List.takeWhile_append_of_pos hkept, List.dropWhile_append_of_pos hkept]
  rcases hfeed with rfl | ⟨rfl, rfl⟩ <;> simp

theorem exists_of_readInjection {injected : List (List Char)} {blank : Char} {text : List Char}
    {reading : Reading} (hblank : blank = ' ' ∨ blank = '\t')
    (h : readInjection injected (blank :: text) = .ok reading) :
    ∃ body, "inject".toList ++ blank :: text = body ++ reading.rest
      ∧ IsConstruct injected body reading.rest reading.piece
      ∧ (reading.rest ≠ [] → body.getLast? = some reading.last) := by
  obtain ⟨hisBlank, hkept, -⟩ := blank_of_declaration hblank
  have hstart : (blank != '\n') = true := bne_iff_ne.mpr hkept
  obtain ⟨feed, htext, hfeed⟩ := exists_feed text
  have hline : '\n' ∉ text.takeWhile (· != '\n') := fun hmem => by
    simpa using List.mem_takeWhile_imp hmem
  simp only [readInjection, List.takeWhile_cons, List.dropWhile_cons, hstart, if_true,
    trim_cons_of_isBlank hisBlank] at h
  split at h
  · cases h
  · next hname =>
    split at h
    · cases h
    · next hnew =>
      obtain rfl := Except.ok.inj h
      refine ⟨_, ?_, .inject hblank hline hfeed (by simpa using hname) hnew, fun hrest => ?_⟩
      · conv => lhs; rw [htext]
        simp
      · rcases hfeed with rfl | ⟨-, hnil⟩
        · exact List.getLast?_concat
        · exact absurd hnil hrest

theorem exists_of_readNamed {injected : List (List Char)} {c : Char} {text : List Char}
    {reading : Reading} (hstart : startsIdentifier c = true)
    (h : readNamed injected (c :: text) = .ok reading) :
    ∃ body, c :: text = body ++ reading.rest
      ∧ IsConstruct injected body reading.rest reading.piece
      ∧ (reading.rest ≠ [] → body.getLast? = some reading.last) := by
  have hname : isIdentifier ((c :: text).takeWhile continuesIdentifier) = true := by
    rw [List.takeWhile_cons, if_pos (continuesIdentifier_of_starts hstart)]
    exact isIdentifier_cons_takeWhile hstart text
  have hsplit := List.takeWhile_append_dropWhile (p := continuesIdentifier) (l := c :: text)
  have hend := endsName_dropWhile (c :: text)
  simp only [readNamed] at h
  -- From here on the name and what follows it are all that counts of the text.
  generalize (c :: text).takeWhile continuesIdentifier = name at h hname hsplit
  generalize (c :: text).dropWhile continuesIdentifier = rest at h hsplit hend
  rw [← hsplit]
  split at h
  · cases h
  · next hinherits =>
    split at h
    · next hinject =>
      obtain ⟨hword, hblank⟩ := hinject
      obtain ⟨blank, rest, rfl, hspace⟩ : ∃ blank more, rest = blank :: more
          ∧ (blank = ' ' ∨ blank = '\t') := by
        rcases hblank with hhead | hhead <;> obtain ⟨more, rfl⟩ := List.head?_eq_some_iff.mp hhead
        · exact ⟨' ', more, rfl, Or.inl rfl⟩
        · exact ⟨'\t', more, rfl, Or.inr rfl⟩
      rw [hword]
      exact exists_of_readInjection hspace h
    · next hinject =>
      split at h
      · cases h
      · next steps after hsteps =>
        obtain rfl := Except.ok.inj h
        obtain ⟨rfl, hpath⟩ := readSteps_eq_some_iff.mp hsteps
        refine ⟨name ++ steps, (List.append_assoc ..).symm,
          .implicit hname hend hinherits ?_ hpath, ?_⟩
        · exact fun hword => not_or.mp fun hblank => hinject ⟨hword, hblank⟩
        · intro _
          obtain ⟨first, more, rfl⟩ := List.exists_cons_of_ne_nil (ne_nil_of_isIdentifier hname)
          rw [List.cons_append, List.getLast?_cons, Option.getD_some]

/-- What is read as a construct is one. -/
theorem exists_of_readConstruct {injected : List (List Char)} {text : List Char}
    {reading : Reading} (h : readConstruct injected text = .ok reading) :
    ∃ body, text = body ++ reading.rest
      ∧ IsConstruct injected body reading.rest reading.piece
      ∧ (reading.rest ≠ [] → body.getLast? = some reading.last) := by
  unfold readConstruct at h
  split at h
  · cases h
  · next rest =>
    obtain rfl := Except.ok.inj h
    exact ⟨['@'], rfl, .sign, fun _ => rfl⟩
  · split at h
    · next after hcomment =>
      obtain rfl := Except.ok.inj h
      obtain ⟨inner, rfl, hinner⟩ := afterComment_eq_some_iff.mp hcomment
      refine ⟨_, ?_, .comment hinner, fun _ => ?_⟩
      · simp
      · rw [List.getLast?_append]
        rfl
    · cases h
  · next rest =>
    unfold readExplicit at h
    split at h
    · cases h
    · next inner after hgroup =>
      obtain ⟨rfl, hinner⟩ := parentheses_eq_some_iff.mp hgroup
      split at h
      · cases h
      · next hcode =>
        obtain rfl := Except.ok.inj h
        refine ⟨_, ?_, .explicit hinner (by simpa using hcode),
          fun _ => List.getLast?_concat⟩
        simp
  · split at h
    · next hstart => exact exists_of_readNamed hstart h
    · cases h

theorem readNamed_name {injected : List (List Char)} {name rest : List Char}
    (hname : isIdentifier name = true) (hend : EndsName rest) :
    readNamed injected (name ++ rest)
      = if name = "inherits".toList then .error .inheritsConflict
        else if name = "inject".toList ∧ (rest.head? = some ' ' ∨ rest.head? = some '\t') then
          readInjection injected rest
        else
          match readSteps rest with
          | none => .error .openIndex
          | some (steps, after) =>
            .ok ⟨.expression (name ++ steps), (name ++ steps).getLast?.getD ' ', after⟩ := by
  have hchars := continuesIdentifier_of_isIdentifier hname
  have htake := takeWhile_run hchars hend
  have hdrop := dropWhile_run hchars hend
  unfold readNamed
  generalize (name ++ rest).takeWhile continuesIdentifier = word at htake ⊢
  generalize (name ++ rest).dropWhile continuesIdentifier = others at hdrop ⊢
  subst htake hdrop
  rfl

theorem readConstruct_name {injected : List (List Char)} {name rest : List Char}
    (hname : isIdentifier name = true) :
    readConstruct injected (name ++ rest) = readNamed injected (name ++ rest) := by
  obtain ⟨c, tail, rfl⟩ := List.exists_cons_of_ne_nil (ne_nil_of_isIdentifier hname)
  rw [isIdentifier, Bool.and_eq_true] at hname
  -- None of the marks that start other constructs starts a name.
  have hmarks : c ≠ '@' ∧ c ≠ '*' ∧ c ≠ '(' := by
    refine ⟨?_, ?_, ?_⟩ <;> rintro rfl <;> exact absurd hname.1 (by decide)
  rw [List.cons_append, readConstruct, if_pos hname.1]
  all_goals simp_all

/-- Every construct is read as what it is. -/
theorem exists_readConstruct {injected : List (List Char)} {body after : List Char} {piece : Piece}
    (h : IsConstruct injected body after piece) :
    ∃ last, readConstruct injected (body ++ after) = .ok ⟨piece, last, after⟩
      ∧ (after ≠ [] → body.getLast? = some last) := by
  cases h with
  | sign => exact ⟨'@', rfl, fun _ => rfl⟩
  | @comment text _ htext =>
    have hread : afterComment (text ++ ['*', '@'] ++ after) = some after :=
      afterComment_eq_some_iff.mpr ⟨text, by simp, htext⟩
    refine ⟨'@', ?_, fun _ => ?_⟩
    · rw [List.cons_append, List.cons_append, readConstruct, hread]
    · rw [List.getLast?_append]
      rfl
  | @explicit code _ hgroup hcode =>
    have hread : group? '(' ')' (code ++ [')'] ++ after) = some (code, after) :=
      parentheses_eq_some_iff.mpr ⟨by simp, hgroup⟩
    refine ⟨')', ?_, fun _ => List.getLast?_concat⟩
    rw [List.cons_append, List.cons_append, readConstruct, readExplicit, hread]
    exact if_neg (by simpa using hcode)
  | @inject blank line feed _ hblank hline hfeed hname hnew =>
    obtain ⟨hisBlank, hkept, hstops⟩ := blank_of_declaration hblank
    have hwhole : '\n' ∉ blank :: line := by
      rw [List.mem_cons, not_or]
      exact ⟨hkept.symm, hline⟩
    have hend : EndsName (blank :: line ++ feed ++ after) := by
      intro c hc
      rw [← Option.some.inj hc]
      exact hstops
    have hword : isIdentifier "inject".toList = true := by decide
    have hhead : (blank :: line ++ feed ++ after).head? = some ' '
        ∨ (blank :: line ++ feed ++ after).head? = some '\t' :=
      hblank.imp (congrArg some) (congrArg some)
    obtain ⟨hleft, hright⟩ := takeWhile_line hwhole hfeed
    refine ⟨'\n', ?_, fun hafter => ?_⟩
    · rw [List.append_assoc "inject".toList, List.append_assoc "inject".toList,
        readConstruct_name hword, readNamed_name hword hend, if_neg (by decide),
        if_pos ⟨rfl, hhead⟩, readInjection, hleft, hright, trim_cons_of_isBlank hisBlank]
      simp only [hname, Bool.not_true, Bool.false_eq_true, if_false, hnew]
    · rcases hfeed with rfl | ⟨-, hnil⟩
      · exact List.getLast?_concat
      · exact absurd hnil hafter
  | @implicit name steps _ hname hend hinherits hinject hsteps =>
    -- The conditions on the name are what keeps it from being read as a word of the markup.
    have hread : readSteps (steps ++ after) = some (steps, after) :=
      readSteps_append hsteps
    refine ⟨(name ++ steps).getLast?.getD ' ', ?_, fun _ => ?_⟩
    · rw [List.append_assoc, readConstruct_name hname, readNamed_name hname hend, if_neg hinherits,
        if_neg fun h => (not_or.mpr (hinject h.1)) h.2, hread]
    · obtain ⟨first, more, rfl⟩ := List.exists_cons_of_ne_nil (ne_nil_of_isIdentifier hname)
      rw [List.cons_append, List.getLast?_cons, Option.getD_some]

end Stencil.Markup
