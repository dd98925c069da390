import Mathlib
import Stencil.Proofs.Markup.Readers

/-!
# Scans go on

A scan by places starts each of its rounds between two characters of the text, stops with no fault,
and gets further with every round, and so does the loop over the steps of an expression. Hence it
ends, and what it ends with is what the scan of the characters says (`Cursor.run_eq_scanned`).

A round is told by what is left of the text (`Cursor.Outcome`). A round that goes on comes to a
shorter rest, and what is said before it and what a scan of it says stay the same together
(`Cursor.exists_isAt_of_outcome`). From this follows, by induction over what is left, what all
rounds say.
-/

namespace Stencil.Markup

open Expression (byteSize)
open Text

/-! ## Signs that are not live -/

/-- Whether no sign of a run is live behind the text before it. -/
def IsDead (before run : List Char) : Prop :=
  ∀ front rest, run = front ++ '@' :: rest → ¬ IsLiveAfter (before ++ front)

theorem isDead_of_not_mem {run : List Char} (h : '@' ∉ run) (before : List Char) :
    IsDead before run := by
  rintro front rest rfl
  exact absurd (List.mem_append_right _ List.mem_cons_self) h

theorem isDead_sign {before : List Char} (h : ¬ IsLiveAfter before) : IsDead before ['@'] := by
  intro front rest heq
  rcases List.cons_eq_append_iff.mp heq with ⟨rfl, -⟩ | ⟨front, rfl, hnil⟩
  · rwa [List.append_nil]
  · simp at hnil

theorem IsDead.append {before run more : List Char} (h : IsDead before run)
    (hmore : IsDead (before ++ run) more) : IsDead before (run ++ more) := by
  intro front rest heq
  rcases List.append_eq_append_iff.mp heq with ⟨middle, rfl, hmiddle⟩ | ⟨middle, hmiddle, hrest⟩
  · rw [← List.append_assoc]
    exact hmore middle rest hmiddle
  · rcases List.cons_eq_append_iff.mp hrest with ⟨rfl, hcons⟩ | ⟨middle, rfl, -⟩
    · rw [List.append_nil] at hmiddle
      subst hmiddle
      have := hmore [] rest hcons
      rwa [List.append_nil] at this
    · exact h front middle hmiddle

theorem any_isAlphanum_iff {before : List Char} :
    before.getLast?.any Char.isAlphanum = true ↔ ¬ IsLiveAfter before := by
  rw [Option.any_eq_true, IsLiveAfter]
  simp

namespace Cursor

/-! ## Rounds of the scan -/

variable {text : String} {said : List Segment} {front pending rest : List Char} {s : State}

/-- Whether a scan has come to a rest of the text, with a literal pending behind what was read. -/
structure State.IsAt (text : String) (said : List Segment) (front pending rest : List Char)
    (s : State) : Prop where
  whole : text.toList = front ++ pending ++ rest
  place : s.place = placeBefore text rest
  literalStart : s.literalStart = placeBefore text (pending ++ rest)
  segments : s.segments = Segment.merge said
  dead : IsDead front pending

theorem State.IsAt.suffix (h : s.IsAt text said front pending rest) : rest <:+ text.toList :=
  h.whole ▸ List.suffix_append _ rest

/-- What a round does, by what is left of the text. -/
inductive Outcome (text : String) (front pending rest : List Char) (s : State) :
    Except Halt (Option State) → Prop
  | last (hrest : '@' ∉ rest) : Outcome text front pending rest s (.ok none)
  | skipped {gap behind : List Char} (hrest : rest = gap ++ '@' :: behind) (hgap : '@' ∉ gap)
      (hdead : ¬ IsLiveAfter (front ++ pending ++ gap)) :
      Outcome text front pending rest s (.ok (some { s with place := placeBefore text behind }))
  | failed {gap behind : List Char} {problem : Problem} (hrest : rest = gap ++ '@' :: behind)
      (hgap : '@' ∉ gap) (hlive : IsLiveAfter (front ++ pending ++ gap))
      (hread : Markup.readConstruct s.injected behind = .error problem) :
      Outcome text front pending rest s (.error (.ofFailure text ⟨problem, '@' :: behind⟩))
  | read {gap behind : List Char} {reading : Reading} (hrest : rest = gap ++ '@' :: behind)
      (hgap : '@' ∉ gap) (hlive : IsLiveAfter (front ++ pending ++ gap))
      (hread : Markup.readConstruct s.injected behind = .ok reading) :
      Outcome text front pending rest s (.ok (some
        { place := placeBefore text reading.rest
          literalStart := placeBefore text reading.rest
          injected := reading.piece.injection ++ s.injected
          segments := Segment.join (pushLiteral s.segments (pending ++ gap))
            reading.piece.segments }))

theorem outcome_round (h : s.IsAt text said front pending rest) :
    Outcome text front pending rest s (round text s) := by
  have hsuffix := h.suffix
  have hsplit := List.takeWhile_append_dropWhile (p := (· != '@')) (l := rest)
  have hgap : '@' ∉ rest.takeWhile (· != '@') := fun hmem => by
    simpa using List.mem_takeWhile_imp hmem
  rw [round, h.place, charsFrom_placeBefore hsuffix, ok_bind,
    offset?_eq (p := (· != '@')) fun c rest => by simp [bne]]
  cases hrest : rest.dropWhile (· != '@') with
  | nil =>
    rw [hrest, List.append_nil] at hsplit
    exact .last (hsplit ▸ hgap)
  | cons c behind =>
    have hsign := head?_dropWhile (congrArg List.head? hrest)
    obtain rfl : c = '@' := by simpa using hsign
    rw [hrest] at hsplit
    generalize rest.takeWhile (· != '@') = gap at hsplit hgap ⊢
    subst hsplit
    have hwhole : text.toList = front ++ pending ++ gap ++ '@' :: behind :=
      h.whole.trans (List.append_assoc ..).symm
    have hsigned : '@' :: behind <:+ text.toList := hwhole ▸ List.suffix_append _ _
    have hplace : placeBefore text (gap ++ '@' :: behind) + byteSize gap
        = placeBefore text ('@' :: behind) := placeBefore_append hsuffix
    have hnext : placeBefore text ('@' :: behind) + 1 = placeBefore text behind :=
      placeBefore_cons hsigned
    rw [if_neg (List.cons_ne_nil _ _)]
    dsimp only
    rw [hplace, slice_zero hwhole, ok_bind, hnext]
    by_cases hlive : IsLiveAfter (front ++ pending ++ gap)
    · have hliteral : (pending ++ gap) ++ '@' :: behind <:+ text.toList := by
        rw [hwhole, List.append_assoc front, List.append_assoc front]
        exact List.suffix_append _ _
      rw [if_neg fun hdead => any_isAlphanum_iff.mp hdead hlive, h.literalStart,
        ← List.append_assoc pending, slice_placeBefore hliteral, ok_bind,
        readConstruct_placeBefore s.injected hsigned ((List.suffix_cons _ _).trans hsigned)]
      cases hread : Markup.readConstruct s.injected behind with
      | error problem => exact .failed rfl hgap hlive hread
      | ok reading => exact .read rfl hgap hlive hread
    · rw [if_pos (any_isAlphanum_iff.mpr hlive)]
      exact .skipped rfl hgap hlive

/-! ## What is said -/

theorem pushLiteral_merge (said : List Segment) (literal : List Char) :
    pushLiteral (Segment.merge said) literal
      = Segment.merge (said ++ [.literal (String.ofList literal)]) :=
  (Segment.merge_append said [.literal (String.ofList literal)]).symm

theorem join_merge_segments (said : List Segment) (piece : Piece) :
    Segment.join (Segment.merge said) piece.segments = Segment.merge (said ++ piece.segments) := by
  have hpiece : Segment.merge piece.segments = piece.segments := by
    cases piece with
    | char c => simp [Piece.segments, Segment.merge, Segment.prepend]
    | _ => rfl
  rw [Segment.merge_append, hpiece]

/-- A run of characters says what the literal of it says. -/
theorem merge_run (said more : List Segment) (run : List Char) :
    Segment.merge (said ++ ((run.map Piece.char).flatMap Piece.segments ++ more))
      = Segment.merge (said ++ .literal (String.ofList run) :: more) :=
  Segment.merge_append_congr (Segment.merge_map_char run more) said

/-- What is said in all: what was said, then what a scan of what is left says. -/
def saying (text : String) (said : List Segment) : Except Failure (List Piece) →
    Except Halt (List Segment)
  | .ok row => .ok (Segment.merge (said ++ row.flatMap Piece.segments))
  | .error failure => .error (.ofFailure text failure)

section

variable {injected : List (List Char)} {run behind : List Char}

theorem scan_isDead (injected : List (List Char)) (hdead : IsDead front run) (hne : behind ≠ []) :
    scan injected front.getLast? (run ++ behind)
      = (scan injected (front ++ run).getLast? behind).map (run.map Piece.char ++ ·) := by
  have hfront : run ++ behind ≠ [] → front.getLast? = front.getLast? := fun _ => rfl
  obtain ⟨last, hlast, hscan⟩ := Lexeme.scan_run injected hdead hfront
  rw [hscan, hlast hne]

theorem saying_run (text : String) (said : List Segment) (injected : List (List Char))
    (hdead : IsDead front run) :
    saying text said (scan injected front.getLast? run)
      = .ok (Segment.merge (said ++ [.literal (String.ofList run)])) := by
  have hfront : run ++ [] ≠ [] → front.getLast? = front.getLast? := fun _ => rfl
  obtain ⟨last, -, hscan⟩ := Lexeme.scan_run injected hdead hfront
  rw [List.append_nil, scan] at hscan
  rw [hscan]
  show Except.ok (Segment.merge _) = _
  rw [List.flatMap_append, merge_run]
  rfl

theorem saying_problem {problem : Problem} (text : String) (said : List Segment)
    (hdead : IsDead front run) (hlive : IsLiveAfter (front ++ run))
    (hread : Markup.readConstruct injected behind = .error problem) :
    saying text said (scan injected front.getLast? (run ++ '@' :: behind))
      = .error (.ofFailure text ⟨problem, '@' :: behind⟩) := by
  have hscan : scan injected (front ++ run).getLast? ('@' :: behind)
      = .error ⟨problem, '@' :: behind⟩ := by
    rw [scan, if_pos (Lexeme.isLive_iff.mpr ⟨rfl, hlive⟩), hread]
  rw [scan_isDead injected hdead (List.cons_ne_nil _ _), hscan]
  rfl

theorem saying_construct {body after : List Char} {piece : Piece} (text : String)
    (said : List Segment) (hdead : IsDead front run) (hlive : IsLiveAfter (front ++ run))
    (hconstruct : IsConstruct injected body after piece) :
    saying text said (scan injected front.getLast? (run ++ '@' :: (body ++ after)))
      = saying text (said ++ [.literal (String.ofList run)] ++ piece.segments)
          (scan (piece.injection ++ injected) (front ++ run ++ '@' :: body).getLast? after) := by
  rw [scan_isDead injected hdead (List.cons_ne_nil _ _), ← List.cons_append,
    scan_construct (Lexeme.isLive_iff.mpr ⟨rfl, hlive⟩) hconstruct (front ++ run)]
  cases scan (piece.injection ++ injected) (front ++ run ++ '@' :: body).getLast? after with
  | error failure => rfl
  | ok row =>
    show Except.ok (Segment.merge _) = Except.ok (Segment.merge _)
    rw [List.flatMap_append, merge_run]
    simp

end

/-! ## One round -/

theorem isAt_skipped {gap behind : List Char}
    (h : s.IsAt text said front pending (gap ++ '@' :: behind)) (hgap : '@' ∉ gap)
    (hdead : ¬ IsLiveAfter (front ++ pending ++ gap)) :
    State.IsAt text said front (pending ++ gap ++ ['@']) behind
      { s with place := placeBefore text behind } where
  whole := by simp [h.whole]
  place := rfl
  literalStart := by simp [h.literalStart]
  segments := h.segments
  dead := by
    refine (h.dead.append (isDead_of_not_mem hgap _)).append (isDead_sign ?_)
    rwa [← List.append_assoc]

theorem isAt_read {gap body after : List Char}
    (h : s.IsAt text said front pending (gap ++ '@' :: (body ++ after)))
    (injected : List (List Char)) (piece : Piece) :
    State.IsAt text (said ++ [.literal (String.ofList (pending ++ gap))] ++ piece.segments)
      (front ++ (pending ++ gap) ++ '@' :: body) [] after
      { place := placeBefore text after
        literalStart := placeBefore text after
        injected := injected
        segments := Segment.join (pushLiteral s.segments (pending ++ gap)) piece.segments } where
  whole := by simp [h.whole]
  place := rfl
  literalStart := rfl
  segments := by rw [h.segments, pushLiteral_merge, join_merge_segments]
  dead := isDead_of_not_mem List.not_mem_nil _

/-- A round that goes on comes to a shorter rest of the text, and the same is said in all. -/
theorem exists_isAt_of_outcome {next : State} (h : s.IsAt text said front pending rest)
    (hround : Outcome text front pending rest s (.ok (some next))) :
    ∃ said' front' pending' taken rest', next.IsAt text said' front' pending' rest' ∧ taken ≠ []
      ∧ rest = taken ++ rest'
      ∧ saying text said (scan s.injected front.getLast? (pending ++ rest))
        = saying text said' (scan next.injected front'.getLast? (pending' ++ rest')) := by
  cases hround with
  | @skipped gap behind hrest hgap hdead =>
    subst hrest
    exact ⟨_, _, _, gap ++ ['@'], behind, isAt_skipped h hgap hdead, by simp, by simp, by simp⟩
  | @read gap behind reading hrest hgap hlive hread =>
    obtain ⟨body, hbehind, hconstruct, -⟩ := exists_of_readConstruct hread
    obtain ⟨piece, last, after⟩ := reading
    dsimp only at hbehind hconstruct
    subst hbehind hrest
    have hdead : IsDead front (pending ++ gap) := h.dead.append (isDead_of_not_mem hgap _)
    rw [List.append_assoc] at hlive
    refine ⟨_, _, [], gap ++ '@' :: body, after, isAt_read h _ piece, by simp, by simp, ?_⟩
    rw [← List.append_assoc]
    exact saying_construct text said hdead hlive hconstruct

theorem State.IsAt.place_lt {taken : List Char} (h : s.IsAt text said front pending (taken ++ rest))
    (htaken : taken ≠ []) : s.place < placeBefore text rest := by
  rw [h.place]
  exact placeBefore_lt h.suffix htaken

/-! ## All rounds -/

theorem finish_eq (h : s.IsAt text said front pending rest) (hrest : '@' ∉ rest) :
    finish text s = saying text said (scan s.injected front.getLast? (pending ++ rest)) := by
  have hsuffix : pending ++ rest <:+ text.toList := by
    rw [h.whole, List.append_assoc]
    exact List.suffix_append _ _
  have hdead : IsDead front (pending ++ rest) := h.dead.append (isDead_of_not_mem hrest _)
  rw [finish, h.literalStart, charsFrom_placeBefore hsuffix, ok_bind, h.segments,
    pushLiteral_merge, saying_run text said s.injected hdead]
  rfl

/-- From a state on, the rounds say what was said and what the scan of what is left says. -/
theorem rounds_eq (h : s.IsAt text said front pending rest) :
    (rounds State.place text.utf8ByteSize (round text) s >>= finish text)
      = saying text said (scan s.injected front.getLast? (pending ++ rest)) := by
  induction hlength : rest.length using Nat.strong_induction_on
    generalizing s said front pending rest with
  | _ n ih =>
    have hround := outcome_round h
    generalize houtcome : round text s = outcome at hround
    rcases outcome with halt | _ | next
    · rw [rounds_of_error houtcome]
      cases hround with
      | @failed gap behind problem hrest hgap hlive hread =>
        subst hrest
        have hdead : IsDead front (pending ++ gap) := h.dead.append (isDead_of_not_mem hgap _)
        rw [List.append_assoc] at hlive
        rw [← List.append_assoc, saying_problem text said hdead hlive hread]
        rfl
    · rw [rounds_of_none houtcome]
      cases hround with
      | last hrest => exact finish_eq h hrest
    · obtain ⟨said', front', pending', taken, rest', hnext, htaken, rfl, hsaying⟩ :=
        exists_isAt_of_outcome h hround
      have hplace : s.place < next.place := hnext.place ▸ h.place_lt htaken
      have hlimit : next.place ≤ text.utf8ByteSize := hnext.place ▸ placeBefore_le text rest'
      have hshorter : rest'.length < n := by
        rw [← hlength, List.length_append]
        exact Nat.lt_add_of_pos_left (List.length_pos_iff.mpr htaken)
      rw [rounds_of_some houtcome hplace hlimit, ih _ hshorter hnext rfl, hsaying]

theorem isAt_start (text : String) : State.start.IsAt text [] [] [] text.toList where
  whole := rfl
  place := (placeBefore_toList text).symm
  literalStart := (placeBefore_toList text).symm
  segments := rfl
  dead := isDead_of_not_mem List.not_mem_nil _

theorem run_eq (text : String) :
    run text = (scanned text.toList).mapError (Halt.ofFailure text) := by
  have hrun : run text = saying text [] (scan [] none text.toList) :=
    rounds_eq (isAt_start text)
  rw [hrun, scanned, pieces]
  cases scan [] none text.toList with
  | error failure => rfl
  | ok row =>
    show Except.ok _ = Except.ok (Segment.ofPieces [] row)
    rw [Segment.ofPieces_eq_prepend]
    exact congrArg Except.ok (Segment.prepend_empty _).symm

/-! ## Safe loops -/

/-- Whether a loop is safe from a state on: every round of it starts in good order, stops with no
fault, and gets further if it goes on. -/
def IsSafe (inOrder : σ → Prop) (place : σ → Nat) (round : σ → Except Halt (Option σ)) (s : σ) :
    Prop :=
  ∀ later, Relation.ReflTransGen (fun s next => round s = .ok (some next)) s later →
    inOrder later ∧ (∀ fault, round later ≠ .error (.fault fault))
      ∧ ∀ next, round later = .ok (some next) → place later < place next

/-- A loop is safe if a round from a state of a kind is, and leads to a state of that kind. -/
theorem isSafe_of_round {inOrder : σ → Prop} {place : σ → Nat}
    {round : σ → Except Halt (Option σ)} (invariant : σ → Prop) {s : σ} (hstart : invariant s)
    (horder : ∀ later, invariant later → inOrder later)
    (hfault : ∀ later, invariant later → ∀ fault, round later ≠ .error (.fault fault))
    (hnext : ∀ later next, invariant later → round later = .ok (some next) →
      invariant next ∧ place later < place next) :
    IsSafe inOrder place round s := by
  intro later hreach
  have hinvariant : invariant later := by
    induction hreach with
    | refl => exact hstart
    | tail _ hround ih => exact (hnext _ _ ih hround).1
  exact ⟨horder later hinvariant, hfault later hinvariant,
    fun next hround => (hnext later next hinvariant hround).2⟩

/-- Whether the text can be sliced at both places of a state, from the one to the other. -/
structure State.InOrder (text : String) (s : State) : Prop where
  place : IsBoundary text s.place
  literalStart : IsBoundary text s.literalStart
  le : s.literalStart ≤ s.place

theorem State.IsAt.inOrder (h : s.IsAt text said front pending rest) : s.InOrder text := by
  have hpending : pending ++ rest <:+ text.toList := by
    rw [h.whole, List.append_assoc]
    exact List.suffix_append _ _
  refine ⟨?_, ?_, ?_⟩
  · rw [h.place]
    exact isBoundary_placeBefore h.suffix
  · rw [h.literalStart]
    exact isBoundary_placeBefore hpending
  · rw [h.place, h.literalStart, ← placeBefore_append hpending]
    exact Nat.le_add_right _ _

theorem isSafe_round (text : String) :
    IsSafe (State.InOrder text) State.place (round text) .start := by
  refine isSafe_of_round (fun s => ∃ said front pending rest, s.IsAt text said front pending rest)
    ⟨_, _, _, _, isAt_start text⟩ ?_ ?_ ?_
  · rintro s ⟨said, front, pending, rest, h⟩
    exact h.inOrder
  · rintro s ⟨said, front, pending, rest, h⟩ fault herror
    have hround := outcome_round h
    rw [herror] at hround
    cases hround
  · rintro s next ⟨said, front, pending, rest, h⟩ hok
    have hround := outcome_round h
    rw [hok] at hround
    obtain ⟨said', front', pending', taken, rest', hnext, htaken, rfl, -⟩ :=
      exists_isAt_of_outcome h hround
    exact ⟨⟨_, _, _, _, hnext⟩, hnext.place ▸ h.place_lt htaken⟩

theorem isSafe_step {sign place : Nat} (hsign : IsBoundary text sign)
    (hplace : IsBoundary text place) : IsSafe (IsBoundary text) id (step text sign) place := by
  obtain ⟨signed, hsigned, rfl⟩ := isBoundary_iff.mp hsign
  refine isSafe_of_round (IsBoundary text) hplace (fun _ h => h) ?_ ?_
  · intro later hlater fault
    obtain ⟨rest, hrest, rfl⟩ := isBoundary_iff.mp hlater
    rw [step_placeBefore hsigned hrest]
    cases afterStep rest <;> nofun
  · intro later next hlater hround
    obtain ⟨rest, hrest, rfl⟩ := isBoundary_iff.mp hlater
    rw [step_placeBefore hsigned hrest] at hround
    cases hafter : afterStep rest with
    | error problem =>
      rw [hafter] at hround
      cases hround
    | ok after =>
      rw [hafter] at hround
      obtain ⟨after, rfl, rfl⟩ := Option.map_eq_some_iff.mp (Except.ok.inj hround)
      obtain ⟨taken, htaken, rfl⟩ := exists_of_afterStep hafter
      exact ⟨isBoundary_placeBefore ((List.suffix_append taken after).trans hrest),
        placeBefore_lt hrest htaken⟩

/-- The scan of any text neither crashes nor hangs. Each of its rounds starts at places where the
text can be sliced, stops with no fault and gets further, and so does each round over the steps of
an expression, from wherever the text can be sliced. The scan ends as the scan of the characters
does: with the segments of the text or at its first malformed construct. -/
theorem run_eq_scanned (text : String) :
    IsSafe (State.InOrder text) State.place (round text) .start
      ∧ (∀ sign place, IsBoundary text sign → IsBoundary text place →
          IsSafe (IsBoundary text) id (step text sign) place)
      ∧ run text = (scanned text.toList).mapError (Halt.ofFailure text) :=
  ⟨isSafe_round text, fun _ _ hsign hplace => isSafe_step hsign hplace, run_eq text⟩

/-- Signs among characters of two to four bytes, a key with a parenthesis and a quote in it, an
address, and a comment. The index of the second text never ends. The steps of the last text start
behind its name, whose first character may not be cut. -/
theorem run_accented :
    run "é@( ñ[\" )\\\"\"] )😀@Ünit[\"]é\"].ö. a@b,@* ü *@ @@"
        = .ok [.literal "é", .expression "ñ[\" )\\\"\"]", .literal "😀",
            .expression "Ünit[\"]é\"].ö", .literal ". a@b, @"]
      ∧ run "é\n😀@Ünit[\"é]" = .error (.problem .openIndex ⟨2, 2⟩)
      ∧ ¬ IsBoundary "é@Ünit.ö" 4 ∧ IsBoundary "é@Ünit.ö" 2 ∧ IsBoundary "é@Ünit.ö" 8
      ∧ IsSafe (IsBoundary "é@Ünit.ö") id (step "é@Ünit.ö" 2) 8 := by
  refine ⟨?_, ?_, by decide +kernel, by decide +kernel, by decide +kernel,
    (run_eq_scanned _).2.1 2 8 (by decide +kernel) (by decide +kernel)⟩
  · rw [(run_eq_scanned _).2.2]
    decide +kernel
  · rw [(run_eq_scanned _).2.2]
    decide +kernel

end Cursor

end Stencil.Markup
