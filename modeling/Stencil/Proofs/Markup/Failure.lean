import Mathlib
import Stencil.Proofs.Markup.Document
import Stencil.Proofs.Text.Lines

/-!
# Failed scans

A scan fails at the sign of the first construct that is malformed. What stands before the sign is
scanned on its own without a failure, since a construct that has been read stays a construct when
the text behind it is cut off (`IsConstruct.of_append`). The error of a document tells the place of
the sign (`Document.exists_sign_of_parse_error`).
-/

namespace Stencil.Markup

open Text

/-! ## Constructs before a cut -/

theorem head?_append_eq {c : Char} {front : List Char} (h : front.head? = some c)
    (rest : List Char) : (front ++ rest).head? = some c := by
  rw [List.head?_append, h, Option.some_or]

theorem EndsName.of_append {front rest : List Char} (h : EndsName (front ++ rest)) :
    EndsName front :=
  fun c hc => h c (head?_append_eq hc rest)

theorem IsSteps.of_append {steps after rest : List Char} (h : IsSteps steps (after ++ rest)) :
    IsSteps steps after := by
  generalize htext : after ++ rest = text at h
  induction h with
  | done hbracket hdot =>
    subst htext
    refine .done (fun hhead => hbracket (head?_append_eq hhead rest)) fun c more heq => ?_
    exact hdot c (more ++ rest) (by rw [heq]; rfl)
  | member hname hend _ ih =>
    rw [← htext, ← List.append_assoc] at hend
    exact .member hname hend.of_append (ih htext)
  | index hgroup _ ih => exact .index hgroup (ih htext)

/-- A construct needs nothing of the text behind it, unless it is a declaration that ends with the
text. -/
theorem IsConstruct.of_append {injected : List (List Char)} {body after rest : List Char}
    {piece : Piece} (h : IsConstruct injected body (after ++ rest) piece) (hrest : rest ≠ []) :
    IsConstruct injected body after piece := by
  cases h with
  | sign => exact .sign
  | comment htext => exact .comment htext
  | explicit hgroup hcode => exact .explicit hgroup hcode
  | inject hblank hline hfeed hname hnew =>
    refine .inject hblank hline (hfeed.imp_right fun hnil => ?_) hname hnew
    exact absurd (List.append_eq_nil_iff.mp hnil.2).2 hrest
  | implicit hname hend hinherits hinject hsteps =>
    rw [← List.append_assoc] at hend hinject
    refine .implicit hname hend.of_append hinherits (fun hword => ?_) hsteps.of_append
    exact (hinject hword).imp (mt fun hspace => head?_append_eq hspace rest)
      (mt fun htab => head?_append_eq htab rest)

/-- A construct stays one when fewer dependencies have been declared before it. -/
theorem IsConstruct.anti {injected fewer : List (List Char)} {body after : List Char}
    {piece : Piece} (h : IsConstruct injected body after piece) (hle : fewer ⊆ injected) :
    IsConstruct fewer body after piece := by
  cases h with
  | sign => exact .sign
  | comment htext => exact .comment htext
  | explicit hgroup hcode => exact .explicit hgroup hcode
  | inject hblank hline hfeed hname hnew =>
    exact .inject hblank hline hfeed hname fun hmem => hnew (hle hmem)
  | implicit hname hend hinherits hinject hsteps =>
    exact .implicit hname hend hinherits hinject hsteps

/-- Whether no construct stands at the front of a text, given the dependencies that were declared
before it. -/
def IsMalformed (injected : List (List Char)) (text : List Char) : Prop :=
  ∀ body after piece, text = body ++ after → ¬ IsConstruct injected body after piece

theorem isMalformed_of_readConstruct {injected : List (List Char)} {text : List Char}
    {problem : Problem} (h : readConstruct injected text = .error problem) :
    IsMalformed injected text := by
  rintro body after piece rfl hconstruct
  obtain ⟨last, hread, -⟩ := exists_readConstruct hconstruct
  rw [hread] at h
  cases h

theorem IsMalformed.mono {injected more : List (List Char)} {text : List Char}
    (h : IsMalformed injected text) (hle : injected ⊆ more) : IsMalformed more text :=
  fun body after piece htext hconstruct => h body after piece htext (hconstruct.anti hle)

/-! ## The sign of a failure -/

/-- Of the character before a text it only counts whether it is an ASCII letter or digit. -/
theorem scan_congr {injected : List (List Char)} {last last' : Option Char} {text : List Char}
    (h : text ≠ [] → last.any Char.isAlphanum = last'.any Char.isAlphanum) :
    scan injected last text = scan injected last' text := by
  cases text with
  | nil => rw [scan, scan]
  | cons c rest =>
    have hlive : isLive last c = isLive last' c := by rw [isLive, isLive, h (List.cons_ne_nil _ _)]
    rw [scan, scan, hlive]

/-- The text before the sign of a failure is scanned without one, and behind the sign stands no
construct. `before` is the text before the one that is scanned. -/
theorem exists_front_of_scan_error {injected : List (List Char)} {last : Option Char}
    {before text : List Char} {failure : Failure} (hlast : text ≠ [] → last = before.getLast?)
    (h : scan injected last text = .error failure) :
    ∃ front behind row, text = front ++ failure.rest ∧ failure.rest = '@' :: behind
      ∧ IsLiveAfter (before ++ front) ∧ scan injected last front = .ok row
      ∧ IsMalformed (row.flatMap Piece.injection ++ injected) behind := by
  fun_induction scan injected last text generalizing before with
  | case1 => cases h
  | case2 injected last c rest hlive problem hread =>
    obtain rfl := Except.error.inj h
    rw [hlast (by simp), Lexeme.isLive_iff] at hlive
    obtain ⟨rfl, hlive⟩ := hlive
    exact ⟨[], rest, [], rfl, rfl, by rwa [List.append_nil], by rw [scan],
      isMalformed_of_readConstruct hread⟩
  | case3 => cases h
  | case4 injected last c rest hlive reading hread failure' hscan ih =>
    obtain rfl := Except.error.inj h
    obtain ⟨body, rfl, hconstruct, hbody⟩ := exists_of_readConstruct hread
    obtain rfl := eq_sign_of_isLive hlive
    have hnext : reading.rest ≠ [] → some reading.last = (before ++ '@' :: body).getLast? :=
      fun hrest => (getLast?_construct (hbody hrest) before).symm
    obtain ⟨front, behind, row, htext, hsign, hbefore, hrow, hbehind⟩ := ih hnext hscan
    -- The construct is read as before when the text is cut at the sign of the failure.
    rw [htext, hsign] at hconstruct
    obtain ⟨next, hread', hnext'⟩ :=
      exists_readConstruct (hconstruct.of_append (List.cons_ne_nil '@' behind))
    have hrow' : scan (reading.piece.injection ++ injected) (some next) front = .ok row := by
      rw [← hrow]
      refine scan_congr fun hfront => ?_
      have hrest : reading.rest ≠ [] := by simp [htext, hfront]
      rw [← hbody hrest, hnext' hfront]
    refine ⟨'@' :: body ++ front, behind, reading.piece :: row, ?_, hsign, ?_,
      (scan_live_eq_ok_iff hlive).mpr ⟨_, row, hread', hrow', rfl⟩, hbehind.mono ?_⟩
    · rw [htext, List.append_assoc]
      rfl
    · rwa [← List.append_assoc]
    · rw [List.flatMap_cons]
      intro name hname
      simp only [List.mem_append] at hname ⊢
      tauto
  | case5 => cases h
  | case6 injected last c rest hdead failure' hscan ih =>
    obtain rfl := Except.error.inj h
    have hnext : rest ≠ [] → some c = (before ++ [c]).getLast? := by simp
    obtain ⟨front, behind, row, htext, hsign, hbefore, hrow, hbehind⟩ := ih hnext hscan
    refine ⟨c :: front, behind, .char c :: row, ?_, hsign, ?_,
      (scan_dead_eq_ok_iff hdead).mpr ⟨row, hrow, rfl⟩, hbehind⟩
    · rw [htext]
      rfl
    · rwa [List.append_assoc, List.singleton_append] at hbefore

/-- The place of a failure is the one right behind the text before its sign. -/
theorem Failure.place_eq {failure : Failure} {text front : List Char}
    (h : text = front ++ failure.rest) : failure.place text = Position.after front := by
  rw [Failure.place, h, List.length_append, Nat.add_sub_cancel, List.take_left]

/-! ## Segments of a text -/

/-- What a text says on its own, as segments. -/
def scanned (text : List Char) : Except Failure (List Segment) :=
  (pieces text).map (Segment.ofPieces [])

/-- The dependencies that segments declare. -/
def declared (segments : List Segment) : List (List Char) :=
  (segments.filterMap Segment.injection?).map String.toList

theorem declared_ofPieces (row : List Piece) :
    declared (Segment.ofPieces [] row) = row.flatMap Piece.injection := by
  have hnames : (row.flatMap Piece.segments).filterMap Segment.injection?
      = (row.flatMap Piece.injection).map String.ofList := by
    rw [List.filterMap_flatMap, List.map_flatMap]
    simp only [filterMap_segments]
  rw [declared, Segment.ofPieces_eq_prepend, Segment.filterMap_prepend, Segment.filterMap_merge,
    hnames, List.map_map]
  exact List.map_id'' (fun name => String.toList_ofList) _

theorem exists_front_of_scanned_error {text : List Char} {failure : Failure}
    (h : scanned text = .error failure) :
    ∃ front behind segments, text = front ++ failure.rest ∧ failure.rest = '@' :: behind
      ∧ IsLiveAfter front ∧ scanned front = .ok segments
      ∧ IsMalformed (declared segments) behind := by
  have hpieces : scan [] none text = .error failure := by
    rw [scanned, pieces] at h
    cases hscan : scan [] none text with
    | error other =>
      rw [hscan] at h
      exact congrArg Except.error (Except.error.inj h)
    | ok row =>
      rw [hscan] at h
      cases h
  have hlast : text ≠ [] → (none : Option Char) = ([] : List Char).getLast? := fun _ => rfl
  obtain ⟨front, behind, row, htext, hsign, hlive, hrow, hbehind⟩ :=
    exists_front_of_scan_error hlast hpieces
  refine ⟨front, behind, Segment.ofPieces [] row, htext, hsign, hlive, ?_, ?_⟩
  · rw [scanned, pieces, hrow]
    rfl
  · rw [declared_ofPieces]
    rwa [List.append_nil] at hbehind

namespace Document

variable {text : String} {model : ModelType}

/-- A document is what its text says, bound to its model; it is not read where the scan of the text
fails. -/
theorem parse_eq_scanned {name : String} (htext : trim text.toList ≠ [])
    (hname : model.sourceName = .ok name) :
    parse text model
      = match scanned text.toList with
        | .ok segments => .ok ⟨model, .inherits baseContract name :: segments⟩
        | .error failure =>
          .error (.parse failure.problem.message (failure.place text.toList)) := by
  unfold parse scanned
  rw [if_neg (by simpa using htext), hname]
  dsimp only
  cases pieces text.toList <;> rfl

/-- The errors of a model name are no errors of the markup. -/
theorem sourceName_ne_parse (model : ModelType) (message : String) (position : Position) :
    model.sourceName ≠ .error (.parse message position) := by
  unfold ModelType.sourceName
  split
  · exact fun h => nomatch Except.error.inj h
  · split
    · exact fun h => nomatch Except.error.inj h
    · exact fun h => nomatch h

theorem exists_scanned_eq_error {message : String} {position : Position}
    (h : parse text model = .error (.parse message position)) :
    ∃ failure, scanned text.toList = .error failure ∧ failure.place text.toList = position := by
  by_cases htext : trim text.toList = []
  · rw [parse, if_pos (by simpa using htext)] at h
    cases h
  · cases hname : model.sourceName with
    | error e =>
      rw [parse, if_neg (by simpa using htext), hname] at h
      rw [Except.error.inj h] at hname
      exact absurd hname (sourceName_ne_parse model message position)
    | ok name =>
      rw [parse_eq_scanned htext hname] at h
      cases hscanned : scanned text.toList with
      | ok segments =>
        rw [hscanned] at h
        cases h
      | error failure =>
        rw [hscanned] at h
        exact ⟨failure, rfl, (Error.parse.inj (Except.error.inj h)).2⟩

/-- The error of a document tells the place of a live sign. What stands before the sign is scanned
without a failure, and what stands behind it is no construct. -/
theorem exists_sign_of_parse_error {message : String} {position : Position}
    (h : parse text model = .error (.parse message position)) :
    ∃ front behind segments, text.toList = front ++ '@' :: behind ∧ IsLiveAfter front
      ∧ position.IsAfter front ∧ scanned front = .ok segments
      ∧ IsMalformed (declared segments) behind := by
  obtain ⟨failure, hfailure, rfl⟩ := exists_scanned_eq_error h
  obtain ⟨front, behind, segments, htext, hsign, hlive, hfront, hbehind⟩ :=
    exists_front_of_scanned_error hfailure
  refine ⟨front, behind, segments, by rw [htext, hsign], hlive, ?_, hfront, hbehind⟩
  rw [Failure.place_eq htext]
  exact Position.isAfter_after front

/-- The sign of the address is not live, so the failure is the one of the sign behind it. -/
theorem exists_sign_of_open_expression :
    parse "@inject Clock\nDear é@Clock.Now,\n  a@b @(Model" (.ofTypeName "demo::Person")
        = .error (.parse "unterminated expression; expected ')'" ⟨3, 7⟩)
      ∧ ∃ front behind segments,
          "@inject Clock\nDear é@Clock.Now,\n  a@b @(Model".toList = front ++ '@' :: behind
            ∧ IsLiveAfter front ∧ Position.IsAfter ⟨3, 7⟩ front ∧ scanned front = .ok segments
            ∧ IsMalformed (declared segments) behind := by
  have hparse : parse "@inject Clock\nDear é@Clock.Now,\n  a@b @(Model" (.ofTypeName "demo::Person")
      = .error (.parse "unterminated expression; expected ')'" ⟨3, 7⟩) := by
    decide +kernel
  exact ⟨hparse, exists_sign_of_parse_error hparse⟩

end Document

end Stencil.Markup
