import Mathlib
import Stencil.Markup.Document
import Stencil.Proofs.Markup.Grammar

/-!
# Templates as rows of lexemes

A template is a row of lexemes: runs of text without a live at sign, and constructs, each of which a
live sign opens. The lexemes carry the whole text, so nothing of it is lost. A scan succeeds exactly
on the texts of such rows: what it finds is the row (`exists_isRow_of_scan`), and it finds every row
(`exists_scan`).
-/

namespace Stencil.Markup

/-- What a piece says, as segments. -/
def Piece.segments : Piece → List Segment
  | .char c => [.literal (String.singleton c)]
  | .sign => [.literal "@"]
  | .comment => []
  | .expression code => [.expression (String.ofList code)]
  | .inject name => [.inject (String.ofList name)]

/-! ## Joining literals -/

namespace Segment

/-- Segments with a text before them, which joins the literal that they may start with. -/
def prepend (text : String) : List Segment → List Segment
  | .literal more :: rest => .literal (text ++ more) :: rest
  | rest => if text = "" then rest else .literal text :: rest

/-- Segments with their adjacent literals joined and the empty ones left out. -/
def merge : List Segment → List Segment
  | [] => []
  | .literal text :: rest => prepend text (merge rest)
  | segment :: rest => segment :: merge rest

@[simp] theorem prepend_empty (segments : List Segment) : prepend "" segments = segments := by
  unfold prepend
  split
  · rw [String.empty_append]
  · rfl

theorem prepend_append (front back : String) (segments : List Segment) :
    prepend (front ++ back) segments = prepend front (prepend back segments) := by
  by_cases hback : back = ""
  · rw [hback, String.append_empty, prepend_empty]
  · have hboth : front ++ back ≠ "" := fun h => hback (String.append_eq_empty_iff.mp h).2
    cases segments with
    | nil => simp [prepend, hback, hboth]
    | cons segment segments => cases segment <;> simp [prepend, hback, hboth, String.append_assoc]

/-- What stands behind equal beginnings may be joined first. -/
theorem merge_append_congr {rest rest' : List Segment} (h : merge rest = merge rest')
    (front : List Segment) : merge (front ++ rest) = merge (front ++ rest') := by
  induction front with
  | nil => exact h
  | cons segment front ih => cases segment <;> simp [merge, ih]

theorem prepend_ofList_concat (text : List Char) (c : Char) (segments : List Segment) :
    prepend (String.ofList (text ++ [c])) segments
      = prepend (String.ofList text) (prepend (String.singleton c) segments) := by
  rw [String.ofList_append, prepend_append, String.singleton_eq_ofList]

theorem flush_append (pending : List Char) {segments : List Segment}
    (h : ∀ text rest, segments ≠ .literal text :: rest) :
    flush pending ++ segments = prepend (String.ofList pending.reverse) segments := by
  have hprepend : ∀ text, prepend text segments
      = if text = "" then segments else .literal text :: segments := by
    intro text
    unfold prepend
    split
    · next more rest => exact absurd rfl (h more rest)
    · rfl
  rw [flush, hprepend]
  cases pending with
  | nil => rfl
  | cons c pending => simp

/-- Joining the literals of the pieces is what the reader of documents does. -/
theorem ofPieces_eq_prepend (pending : List Char) (pieces : List Piece) :
    ofPieces pending pieces
      = prepend (String.ofList pending.reverse) (merge (pieces.flatMap Piece.segments)) := by
  induction pieces generalizing pending with
  | nil =>
    rw [ofPieces, ← List.append_nil (flush pending)]
    exact flush_append pending (by simp)
  | cons piece pieces ih =>
    cases piece with
    | char c =>
      rw [ofPieces, ih, List.reverse_cons, prepend_ofList_concat]
      rfl
    | sign =>
      rw [ofPieces, ih, List.reverse_cons, prepend_ofList_concat]
      rfl
    | comment =>
      rw [ofPieces, ih]
      rfl
    | expression code =>
      have hrest : ofPieces [] pieces = merge (pieces.flatMap Piece.segments) :=
        (ih []).trans (prepend_empty _)
      rw [ofPieces, hrest, flush_append pending (by simp)]
      rfl
    | inject name =>
      have hrest : ofPieces [] pieces = merge (pieces.flatMap Piece.segments) :=
        (ih []).trans (prepend_empty _)
      rw [ofPieces, hrest, flush_append pending (by simp)]
      rfl

theorem merge_map_char (run : List Char) (segments : List Segment) :
    merge ((run.map Piece.char).flatMap Piece.segments ++ segments)
      = prepend (String.ofList run) (merge segments) := by
  induction run with
  | nil => exact (prepend_empty _).symm
  | cons c run ih =>
    have hsplit : String.ofList (c :: run) = String.singleton c ++ String.ofList run := by
      rw [String.singleton_eq_ofList, ← String.ofList_append]
      rfl
    rw [hsplit, prepend_append, ← ih]
    rfl

end Segment

/-! ## Steps of a scan -/

theorem eq_sign_of_isLive {before : Option Char} {c : Char} (h : isLive before c = true) :
    c = '@' := by
  rw [isLive, Bool.and_eq_true, beq_iff_eq] at h
  exact h.1

/-- A scan that succeeds at a live sign has read a construct and goes on behind it. -/
theorem scan_live_eq_ok_iff {injected : List (List Char)} {before : Option Char} {c : Char}
    {rest : List Char} {pieces : List Piece} (hlive : isLive before c = true) :
    scan injected before (c :: rest) = .ok pieces
      ↔ ∃ reading more, readConstruct injected rest = .ok reading
          ∧ scan (reading.piece.injection ++ injected) (some reading.last) reading.rest = .ok more
          ∧ pieces = reading.piece :: more := by
  rw [scan, if_pos hlive]
  constructor
  · intro h
    split at h
    · cases h
    · next reading hread =>
      split at h
      · next more hmore => exact ⟨reading, more, hread, hmore, (Except.ok.inj h).symm⟩
      · cases h
  · rintro ⟨reading, more, hread, hmore, rfl⟩
    rw [hread]
    dsimp only
    rw [hmore]

theorem scan_dead_eq_ok_iff {injected : List (List Char)} {before : Option Char} {c : Char}
    {rest : List Char} {pieces : List Piece} (hdead : ¬ isLive before c = true) :
    scan injected before (c :: rest) = .ok pieces
      ↔ ∃ more, scan injected (some c) rest = .ok more ∧ pieces = .char c :: more := by
  rw [scan, if_neg hdead]
  constructor
  · intro h
    split at h
    · next more hmore => exact ⟨more, hmore, (Except.ok.inj h).symm⟩
    · cases h
  · rintro ⟨more, hmore, rfl⟩
    rw [hmore]

/-- A construct that is read at a live sign comes first, and the scan goes on behind it. -/
theorem scan_cons_live {injected : List (List Char)} {last : Option Char} {c : Char}
    {rest : List Char} {reading : Reading} (h : isLive last c = true)
    (hread : readConstruct injected rest = .ok reading) :
    scan injected last (c :: rest)
      = (scan (reading.piece.injection ++ injected) (some reading.last) reading.rest).map
          (reading.piece :: ·) := by
  rw [scan, if_pos h, hread]
  dsimp only
  cases scan (reading.piece.injection ++ injected) (some reading.last) reading.rest <;> rfl

theorem scan_cons_dead (injected : List (List Char)) {last : Option Char} {c : Char}
    (h : ¬ isLive last c = true) (rest : List Char) :
    scan injected last (c :: rest) = (scan injected (some c) rest).map (.char c :: ·) := by
  rw [scan, if_neg h]
  cases scan injected (some c) rest <;> rfl

theorem getLast?_construct {body : List Char} {last : Char} (h : body.getLast? = some last)
    (before : List Char) : (before ++ '@' :: body).getLast? = some last := by
  rw [List.getLast?_append, List.getLast?_cons, h]
  rfl

/-! ## Rows -/

/-- Whether an at sign right behind a text is live: no ASCII letter or digit stands before it. -/
def IsLiveAfter (before : List Char) : Prop :=
  ∀ c, before.getLast? = some c → c.isAlphanum = false

/-- A part of a template with what it says. -/
structure Lexeme where
  /-- The part as it is written. -/
  source : List Char
  /-- What it says. -/
  segments : List Segment

namespace Lexeme

/-- The text that lexemes make up. -/
def text (row : List Lexeme) : List Char :=
  row.flatMap source

/-- Whether lexemes follow each other in a template, given the dependencies that were declared and
the text that was written before them. -/
inductive IsRow : (injected : List (List Char)) → (before : List Char) → List Lexeme → Prop
  | nil {injected : List (List Char)} {before : List Char} : IsRow injected before []
  | run {injected : List (List Char)} {before run : List Char} {row : List Lexeme}
      (hdead : ∀ front rest, run = front ++ '@' :: rest → ¬ IsLiveAfter (before ++ front))
      (hrow : IsRow injected (before ++ run) row) :
      IsRow injected before (⟨run, [.literal (String.ofList run)]⟩ :: row)
  | construct {injected : List (List Char)} {before body : List Char} {piece : Piece}
      {row : List Lexeme} (hlive : IsLiveAfter before)
      (hconstruct : IsConstruct injected body (text row) piece)
      (hrow : IsRow (piece.injection ++ injected) (before ++ '@' :: body) row) :
      IsRow injected before (⟨'@' :: body, piece.segments⟩ :: row)

theorem isLive_iff {before : List Char} {c : Char} :
    isLive before.getLast? c = true ↔ c = '@' ∧ IsLiveAfter before := by
  rw [isLive, Bool.and_eq_true, beq_iff_eq, Bool.not_eq_true', Option.any_eq_false]
  simp [IsLiveAfter]

/-- What a scan finds is a row of lexemes, one for each piece. -/
theorem exists_isRow_of_scan {injected : List (List Char)} {last : Option Char}
    {before text : List Char} {pieces : List Piece} (hlast : text ≠ [] → last = before.getLast?)
    (h : scan injected last text = .ok pieces) :
    ∃ row, IsRow injected before row ∧ Lexeme.text row = text
      ∧ row.flatMap segments = pieces.flatMap Piece.segments := by
  fun_induction scan injected last text generalizing before pieces with
  | case1 =>
    obtain rfl := Except.ok.inj h
    exact ⟨[], .nil, rfl, rfl⟩
  | case2 => cases h
  | case3 injected last c rest hlive reading hread pieces' hscan ih =>
    obtain rfl := Except.ok.inj h
    obtain ⟨body, rfl, hconstruct, hbody⟩ := exists_of_readConstruct hread
    -- What the scan remembers is the last character of everything that it has left behind.
    rw [hlast (by simp), isLive_iff] at hlive
    obtain ⟨rfl, hlive⟩ := hlive
    have hnext : reading.rest ≠ [] → some reading.last = (before ++ '@' :: body).getLast? :=
      fun hrest => (getLast?_construct (hbody hrest) before).symm
    obtain ⟨row, hrow, htext, hsegments⟩ := ih hnext hscan
    rw [← htext] at hconstruct
    refine ⟨_, .construct hlive hconstruct hrow, ?_, ?_⟩
    · rw [Lexeme.text, List.flatMap_cons, ← htext]
      rfl
    · rw [List.flatMap_cons, List.flatMap_cons, hsegments]
  | case4 => cases h
  | case5 injected last c rest hdead pieces' hscan ih =>
    obtain rfl := Except.ok.inj h
    -- A character that opens nothing is a run of its own.
    have hnext : rest ≠ [] → some c = (before ++ [c]).getLast? := by simp
    obtain ⟨row, hrow, htext, hsegments⟩ := ih hnext hscan
    rw [hlast (by simp), isLive_iff] at hdead
    refine ⟨_, .run (fun front more heq hlive => ?_) hrow, ?_, ?_⟩
    · rcases List.cons_eq_append_iff.mp heq with ⟨rfl, hcons⟩ | ⟨front, rfl, hnil⟩
      · rw [List.append_nil] at hlive
        exact hdead ⟨(List.cons.inj hcons).1.symm, hlive⟩
      · simp at hnil
    · rw [Lexeme.text, List.flatMap_cons, ← htext]
      rfl
    · rw [List.flatMap_cons, List.flatMap_cons, hsegments, Piece.segments,
        String.singleton_eq_ofList]
  | case6 => cases h

/-- A run without a live sign is scanned character by character. -/
theorem scan_run (injected : List (List Char)) {last : Option Char} {before run rest : List Char}
    (hdead : ∀ front more, run = front ++ '@' :: more → ¬ IsLiveAfter (before ++ front))
    (hlast : run ++ rest ≠ [] → last = before.getLast?) :
    ∃ last', (rest ≠ [] → last' = (before ++ run).getLast?)
      ∧ scan injected last (run ++ rest)
        = (scan injected last' rest).map (run.map Piece.char ++ ·) := by
  induction run generalizing last before with
  | nil =>
    refine ⟨last, by rwa [List.append_nil], ?_⟩
    rw [List.nil_append]
    cases scan injected last rest <;> rfl
  | cons c run ih =>
    -- The first character is no live sign, because none of the run is.
    have hc : ¬ isLive last c = true := by
      rw [hlast (by simp), isLive_iff]
      rintro ⟨rfl, hlive⟩
      exact hdead [] run rfl (by rwa [List.append_nil])
    have hnext : run ++ rest ≠ [] → some c = (before ++ [c]).getLast? := by simp
    have hmore : ∀ front more, run = front ++ '@' :: more →
        ¬ IsLiveAfter (before ++ [c] ++ front) := by
      intro front more heq
      rw [List.append_assoc]
      exact hdead (c :: front) more (by rw [heq]; rfl)
    obtain ⟨last', hlast', hscan⟩ := ih hmore hnext
    refine ⟨last', by simpa using hlast', ?_⟩
    rw [List.cons_append, scan_cons_dead injected hc, hscan]
    cases scan injected last' rest <;> rfl

/-- A row of lexemes is scanned to pieces that say the same. -/
theorem exists_scan {injected : List (List Char)} {last : Option Char} {before : List Char}
    {row : List Lexeme} (hlast : Lexeme.text row ≠ [] → last = before.getLast?)
    (h : IsRow injected before row) :
    ∃ pieces, scan injected last (Lexeme.text row) = .ok pieces
      ∧ Segment.merge (pieces.flatMap Piece.segments) = Segment.merge (row.flatMap segments) := by
  induction h generalizing last with
  | nil => exact ⟨[], by rw [Lexeme.text, List.flatMap_nil, scan], rfl⟩
  | @run injected before run row hdead _ ih =>
    have hstart : run ++ Lexeme.text row ≠ [] → last = before.getLast? := hlast
    -- The run comes back in single characters, which join to the same literal.
    obtain ⟨last', hlast', hscan⟩ := scan_run injected hdead hstart
    obtain ⟨pieces, hpieces, hmerge⟩ := ih hlast'
    refine ⟨run.map Piece.char ++ pieces, ?_, ?_⟩
    · rw [hpieces] at hscan
      exact hscan
    · rw [List.flatMap_append, Segment.merge_map_char, hmerge]
      rfl
  | @construct injected before body piece row hlive hconstruct _ ih =>
    obtain ⟨next, hread, hnext⟩ := exists_readConstruct hconstruct
    have hlast' : Lexeme.text row ≠ [] → some next = (before ++ '@' :: body).getLast? :=
      fun hrow => (getLast?_construct (hnext hrow) before).symm
    obtain ⟨pieces, hpieces, hmerge⟩ := ih hlast'
    have hsign : isLive last '@' = true := by
      rw [hlast (by simp [Lexeme.text]), isLive_iff]
      exact ⟨rfl, hlive⟩
    refine ⟨piece :: pieces, ?_, ?_⟩
    · exact (scan_live_eq_ok_iff hsign).mpr ⟨_, pieces, hread, hpieces, rfl⟩
    · exact Segment.merge_append_congr hmerge piece.segments

theorem exists_isRow_of_pieces {text : List Char} {pieces : List Piece}
    (h : Markup.pieces text = .ok pieces) :
    ∃ row, Lexeme.text row = text ∧ IsRow [] [] row
      ∧ row.flatMap segments = pieces.flatMap Piece.segments := by
  have hlast : text ≠ [] → (none : Option Char) = ([] : List Char).getLast? := fun _ => rfl
  obtain ⟨row, hrow, htext, hsegments⟩ := exists_isRow_of_scan hlast h
  exact ⟨row, htext, hrow, hsegments⟩

theorem exists_pieces {row : List Lexeme} (h : IsRow [] [] row) :
    ∃ pieces, Markup.pieces (Lexeme.text row) = .ok pieces
      ∧ Segment.merge (pieces.flatMap Piece.segments) = Segment.merge (row.flatMap segments) :=
  exists_scan (fun _ => rfl) h

end Lexeme

end Stencil.Markup
