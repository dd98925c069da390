import Mathlib
import Stencil.Proofs.Markup.Failure

/-!
# Texts one behind the other

A text that ends with a line feed and the text behind it are scanned like each on its own. A
construct of the first text does not reach into the second (`IsConstruct.append`), a sign right
behind a line feed is live, and what the first text declares matters only where the second declares
it again (`scan_append_of_disjoint`). So the segments of both texts are those of the one and those
of the other, joined where two literals meet, and a failure of the second text is told as many lines
further down as the first text has (`scanned_append`).
-/

namespace Stencil.Markup

open Text

/-! ## Passages -/

/-- A part of a text that was read as one piece. -/
structure Passage where
  /-- The part as it is written. -/
  source : List Char
  /-- What it was read as. -/
  piece : Piece
deriving DecidableEq

/-- What a scan reads of a text, up to where it ends or fails. -/
def passages (injected : List (List Char)) (before : Option Char) : List Char → List Passage
  | [] => []
  | c :: rest =>
    if isLive before c then
      match _h : readConstruct injected rest with
      | .error _ => []
      | .ok reading =>
        ⟨c :: rest.take (rest.length - reading.rest.length), reading.piece⟩
          :: passages (reading.piece.injection ++ injected) (some reading.last) reading.rest
    else ⟨[c], .char c⟩ :: passages injected (some c) rest
termination_by text => text.length
decreasing_by
  · have := length_of_readConstruct ‹_›
    simp only [List.length_cons]
    omega
  · simp

theorem passages_cons_live {injected : List (List Char)} {last : Option Char} {c : Char}
    {body : List Char} {reading : Reading} (h : isLive last c = true)
    (hread : readConstruct injected (body ++ reading.rest) = .ok reading) :
    passages injected last (c :: (body ++ reading.rest))
      = ⟨c :: body, reading.piece⟩
        :: passages (reading.piece.injection ++ injected) (some reading.last) reading.rest := by
  rw [passages, if_pos h, hread]
  dsimp only
  rw [List.length_append, Nat.add_sub_cancel, List.take_left]

theorem passages_cons_dead (injected : List (List Char)) {last : Option Char} {c : Char}
    (h : ¬ isLive last c = true) (rest : List Char) :
    passages injected last (c :: rest) = ⟨[c], .char c⟩ :: passages injected (some c) rest := by
  rw [passages, if_neg h]

/-- A text without a failure is made up of its passages, and they are its pieces. -/
theorem passages_of_scan {injected : List (List Char)} {last : Option Char} {text : List Char}
    {row : List Piece} (h : scan injected last text = .ok row) :
    (passages injected last text).flatMap Passage.source = text
      ∧ (passages injected last text).map Passage.piece = row := by
  fun_induction scan injected last text generalizing row with
  | case1 =>
    obtain rfl := Except.ok.inj h
    rw [passages]
    exact ⟨rfl, rfl⟩
  | case2 => cases h
  | case3 injected last c rest hlive reading hread row hscan ih =>
    obtain rfl := Except.ok.inj h
    obtain ⟨body, hrest, -⟩ := exists_of_readConstruct hread
    obtain ⟨hsource, hpiece⟩ := ih hscan
    rw [hrest] at hread ⊢
    rw [passages_cons_live hlive hread, List.flatMap_cons, List.map_cons, hsource, hpiece]
    exact ⟨rfl, rfl⟩
  | case4 => cases h
  | case5 injected last c rest hdead row hscan ih =>
    obtain rfl := Except.ok.inj h
    obtain ⟨hsource, hpiece⟩ := ih hscan
    rw [passages_cons_dead injected hdead, List.flatMap_cons, List.map_cons, hsource, hpiece]
    exact ⟨rfl, rfl⟩
  | case6 => cases h

/-- The dependencies that a text declares, up to where its scan ends or fails. -/
def declarations (text : List Char) : List (List Char) :=
  (passages [] none text).flatMap (·.piece.injection)

/-! ## Constructs before more text -/

theorem EndsName.append {front : List Char} (h : EndsName front) (hfront : front ≠ [])
    (rest : List Char) : EndsName (front ++ rest) := by
  intro c hc
  rw [List.head?_append_of_ne_nil _ hfront] at hc
  exact h c hc

theorem IsSteps.append {steps after : List Char} (h : IsSteps steps after)
    (hafter : after.getLast? = some '\n') (rest : List Char) : IsSteps steps (after ++ rest) := by
  have hne : after ≠ [] := List.ne_nil_of_mem (List.mem_of_getLast? hafter)
  induction h with
  | @done after hbracket hdot =>
    have hhead : (after ++ rest).head? = after.head? := List.head?_append_of_ne_nil _ hne
    rw [← hhead] at hbracket
    refine .done hbracket fun c more heq => ?_
    -- Behind a dot stands a character of the first text at least, which ends with a line feed.
    rcases after with _ | ⟨dot, _ | ⟨d, after⟩⟩
    · exact absurd rfl hne
    · obtain rfl := Option.some.inj hafter
      exact absurd (List.cons.inj heq).1 (by decide)
    · obtain ⟨rfl, hmore⟩ := List.cons.inj heq
      obtain rfl := (List.cons.inj hmore).1
      exact hdot d after rfl
  | member hname hend _ ih =>
    have hend' := hend.append (List.append_ne_nil_of_right_ne_nil _ hne) rest
    rw [List.append_assoc] at hend'
    exact .member hname hend' (ih hafter hne)
  | index hgroup _ ih => exact .index hgroup (ih hafter hne)

/-- A construct at the front of a text that ends with a line feed stays one when more text
follows. -/
theorem IsConstruct.append {injected : List (List Char)} {body after : List Char} {piece : Piece}
    (h : IsConstruct injected body after piece) (hfeed : (body ++ after).getLast? = some '\n')
    (rest : List Char) : IsConstruct injected body (after ++ rest) piece := by
  cases h with
  | sign => exact .sign
  | comment htext => exact .comment htext
  | explicit hgroup hcode => exact .explicit hgroup hcode
  | @inject blank line feed _ hblank hline hend hname hnew =>
    refine .inject hblank hline (Or.inl (hend.resolve_right ?_)) hname hnew
    -- A declaration without a line feed would not end with one.
    rintro ⟨rfl, rfl⟩
    rw [List.append_nil, List.append_nil, List.getLast?_append, List.getLast?_cons] at hfeed
    have hlast : '\n' ∈ blank :: line := by
      refine List.mem_of_getLast? (l := blank :: line) ?_
      rwa [List.getLast?_cons]
    rcases List.mem_cons.mp hlast with heq | hmem
    · exact (blank_of_declaration hblank).2.1 heq.symm
    · exact hline hmem
  | @implicit name steps _ hname hend hinherits hinject hsteps =>
    have hafter : after ≠ [] := by
      rintro rfl
      rw [List.append_nil] at hfeed
      exact absurd ((isTrimmed_path hname hsteps).last '\n' hfeed) (by decide)
    rw [List.getLast?_append_of_ne_nil _ hafter] at hfeed
    have hmore : steps ++ after ≠ [] := List.append_ne_nil_of_right_ne_nil _ hafter
    have hend' := hend.append hmore rest
    have hhead : (steps ++ after ++ rest).head? = (steps ++ after).head? :=
      List.head?_append_of_ne_nil _ hmore
    rw [← hhead] at hinject
    rw [List.append_assoc] at hend' hinject
    exact .implicit hname hend' hinherits hinject (hsteps.append hfeed rest)

/-! ## Scans of both texts -/

theorem getLast?_of_getLast?_sign {before text : List Char}
    (h : (before ++ '@' :: text).getLast? = some '\n') : text.getLast? = some '\n' := by
  rw [List.getLast?_append_of_ne_nil _ (List.cons_ne_nil _ _)] at h
  cases text with
  | nil => cases h
  | cons c text => rwa [List.getLast?_cons_cons] at h

/-- A construct behind a live sign is scanned as what it is, whatever text it stands in. -/
theorem scan_construct {injected : List (List Char)} {last : Option Char} {body after : List Char}
    {piece : Piece} (hlive : isLive last '@' = true) (h : IsConstruct injected body after piece)
    (before : List Char) :
    scan injected last ('@' :: body ++ after)
      = (scan (piece.injection ++ injected) (before ++ '@' :: body).getLast? after).map
          (piece :: ·) := by
  obtain ⟨next, hread, hnext⟩ := exists_readConstruct h
  have hbehind : scan (piece.injection ++ injected) (some next) after
      = scan (piece.injection ++ injected) (before ++ '@' :: body).getLast? after := by
    refine scan_congr fun hafter => ?_
    rw [getLast?_construct (hnext hafter) before]
  rw [List.cons_append, scan_cons_live hlive hread, hbehind]

theorem reverse_injection (piece : Piece) : piece.injection.reverse = piece.injection := by
  cases piece <;> rfl

/-- A text that ends with a line feed is scanned first, and the text behind it is scanned as if it
stood behind a line feed, with the declarations that were made before. `before` is the text before
both. -/
theorem scan_append {injected : List (List Char)} {last : Option Char} {before front : List Char}
    {row : List Piece} (hlast : front ≠ [] → last = before.getLast?)
    (hfeed : (before ++ front).getLast? = some '\n') (h : scan injected last front = .ok row)
    (back : List Char) :
    scan injected before.getLast? (front ++ back)
      = (scan ((row.flatMap Piece.injection).reverse ++ injected) (some '\n') back).map
          (row ++ ·) := by
  fun_induction scan injected last front generalizing before row with
  | case1 injected last =>
    obtain rfl := Except.ok.inj h
    rw [List.append_nil] at hfeed
    rw [hfeed, List.nil_append]
    show _ = Except.map _ (scan injected (some '\n') back)
    cases scan injected (some '\n') back <;> rfl
  | case2 => cases h
  | case3 injected last c rest hlive reading hread row hscan ih =>
    obtain rfl := Except.ok.inj h
    obtain ⟨body, rfl, hconstruct, hbody⟩ := exists_of_readConstruct hread
    obtain rfl := eq_sign_of_isLive hlive
    rw [hlast (by simp)] at hlive
    have hnext : reading.rest ≠ [] → some reading.last = (before ++ '@' :: body).getLast? :=
      fun hrest => (getLast?_construct (hbody hrest) before).symm
    have hfeed' : (before ++ '@' :: body ++ reading.rest).getLast? = some '\n' := by
      rwa [List.append_assoc]
    have hconstruct' := hconstruct.append (getLast?_of_getLast?_sign hfeed) back
    rw [← List.cons_append, List.append_assoc, scan_construct hlive hconstruct' before,
      ih hnext hfeed' hscan, List.flatMap_cons, List.reverse_append, List.append_assoc,
      reverse_injection]
    cases scan ((row.flatMap Piece.injection).reverse ++ (reading.piece.injection ++ injected))
      (some '\n') back <;> rfl
  | case4 => cases h
  | case5 injected last c rest hdead row hscan ih =>
    obtain rfl := Except.ok.inj h
    rw [hlast (by simp)] at hdead
    have hnext : rest ≠ [] → some c = (before ++ [c]).getLast? := by simp
    have hfeed' : (before ++ [c] ++ rest).getLast? = some '\n' := by
      rwa [List.append_assoc, List.singleton_append]
    have hscan' := ih hnext hfeed' hscan
    rw [List.getLast?_concat] at hscan'
    rw [List.cons_append, scan_cons_dead injected hdead, hscan', List.flatMap_cons]
    show _ = Except.map _ (scan ((row.flatMap Piece.injection).reverse ++ injected) _ back)
    cases scan ((row.flatMap Piece.injection).reverse ++ injected) (some '\n') back <;> rfl
  | case6 => cases h

/-! ## Declarations of the first text -/

theorem readInjection_append {injected more : List (List Char)} {text : List Char}
    (hnew : ∀ reading, readInjection injected text = .ok reading →
      reading.piece.injection.Disjoint more) :
    readInjection (injected ++ more) text = readInjection injected text := by
  simp only [readInjection] at hnew ⊢
  by_cases hname : isIdentifier (trim (text.takeWhile (· != '\n'))) = true
  · simp only [hname, Bool.not_true, Bool.false_eq_true, if_false] at hnew ⊢
    by_cases hold : trim (text.takeWhile (· != '\n')) ∈ injected
    · rw [if_pos hold, if_pos (List.mem_append_left more hold)]
    · rw [if_neg hold] at hnew ⊢
      have hmore : trim (text.takeWhile (· != '\n')) ∉ more :=
        hnew _ rfl List.mem_cons_self
      rw [if_neg (List.mem_append.not.mpr (not_or.mpr ⟨hold, hmore⟩))]
  · rw [Bool.not_eq_true] at hname
    simp only [hname, Bool.not_false, if_true]

theorem readNamed_append {injected more : List (List Char)} {text : List Char}
    (hnew : ∀ reading, readNamed injected text = .ok reading →
      reading.piece.injection.Disjoint more) :
    readNamed (injected ++ more) text = readNamed injected text := by
  simp only [readNamed] at hnew ⊢
  split
  · rfl
  · next hinherits =>
    rw [if_neg hinherits] at hnew
    split
    · next hinject =>
      rw [if_pos hinject] at hnew
      exact readInjection_append hnew
    · rfl

/-- Dependencies that a construct does not declare play no part in its reading. -/
theorem readConstruct_append {injected more : List (List Char)} {text : List Char}
    (hnew : ∀ reading, readConstruct injected text = .ok reading →
      reading.piece.injection.Disjoint more) :
    readConstruct (injected ++ more) text = readConstruct injected text := by
  unfold readConstruct at hnew ⊢
  split
  · rfl
  · rfl
  · rfl
  · rfl
  · split
    · next hstart =>
      simp only [hstart, if_true] at hnew
      exact readNamed_append hnew
    · rfl

/-- Dependencies that a text does not declare play no part in its scan. -/
theorem scan_append_of_disjoint {injected more : List (List Char)} {last : Option Char}
    {text : List Char}
    (hnew : ((passages injected last text).flatMap (·.piece.injection)).Disjoint more) :
    scan (injected ++ more) last text = scan injected last text := by
  fun_induction passages injected last text with
  | case1 => rw [scan, scan]
  | case2 injected last c rest hlive problem hread =>
    have hread' : readConstruct (injected ++ more) rest = .error problem := by
      rw [readConstruct_append fun reading hok => ?_, hread]
      rw [hread] at hok
      cases hok
    rw [scan, scan, if_pos hlive, if_pos hlive, hread, hread']
  | case3 injected last c rest hlive reading hread ih =>
    rw [List.flatMap_cons, List.disjoint_append_left] at hnew
    have hread' : readConstruct (injected ++ more) rest = .ok reading := by
      rw [readConstruct_append fun other hok => ?_, hread]
      rw [← Except.ok.inj (hread.symm.trans hok)]
      exact hnew.1
    rw [scan_cons_live hlive hread, scan_cons_live hlive hread', ← List.append_assoc, ih hnew.2]
  | case4 injected last c rest hdead ih =>
    rw [List.flatMap_cons, List.disjoint_append_left] at hnew
    rw [scan_cons_dead _ hdead, scan_cons_dead _ hdead, ih hnew.2]

/-! ## Segments of both texts -/

theorem exists_pieces_of_scanned {text : List Char} {segments : List Segment}
    (h : scanned text = .ok segments) :
    ∃ row, pieces text = .ok row ∧ Segment.ofPieces [] row = segments := by
  rw [scanned] at h
  cases hrow : pieces text with
  | error failure =>
    rw [hrow] at h
    cases h
  | ok row =>
    rw [hrow] at h
    exact ⟨row, rfl, Except.ok.inj h⟩

/-- A text whose scan does not fail declares what its segments declare. -/
theorem declarations_eq_declared {text : List Char} {segments : List Segment}
    (h : scanned text = .ok segments) : declarations text = declared segments := by
  obtain ⟨row, hrow, rfl⟩ := exists_pieces_of_scanned h
  obtain ⟨-, hpiece⟩ := passages_of_scan hrow
  rw [declared_ofPieces, declarations, ← hpiece, List.flatMap_map]

namespace Segment

/-- Two rows of segments as one, in which a literal at the end of the first and a literal at the
front of the second are one literal. -/
def join : List Segment → List Segment → List Segment
  | [], more => more
  | [.literal front], .literal back :: more => .literal (front ++ back) :: more
  | segment :: segments, more => segment :: join segments more

theorem join_cons_cons (first second : Segment) (segments more : List Segment) :
    join (first :: second :: segments) more = first :: join (second :: segments) more := by
  rw [join]
  simp

theorem prepend_join (text : String) (segments more : List Segment) :
    prepend text (join segments more) = join (prepend text segments) more := by
  by_cases htext : text = ""
  · rw [htext, prepend_empty, prepend_empty]
  · rcases segments with _ | ⟨first, _ | ⟨second, segments⟩⟩
    · cases more with
      | nil => simp [join, prepend, htext]
      | cons segment more => cases segment <;> simp [join, prepend, htext]
    · cases first with
      | literal front =>
        cases more with
        | nil => simp [join, prepend]
        | cons segment more => cases segment <;> simp [join, prepend, String.append_assoc]
      | _ => simp [join, prepend, htext]
    · cases first <;> simp [join_cons_cons, join, prepend, htext]

theorem merge_append (segments more : List Segment) :
    merge (segments ++ more) = join (merge segments) (merge more) := by
  induction segments with
  | nil => rfl
  | cons segment segments ih =>
    cases segment with
    | literal text =>
      rw [List.cons_append, merge, merge, ih, prepend_join]
    | _ => simp [merge, ih, join]

/-- The segments of a row of pieces are those of its two parts, joined. -/
theorem ofPieces_append (row more : List Piece) :
    ofPieces [] (row ++ more) = join (ofPieces [] row) (ofPieces [] more) := by
  have hmerge : ∀ pieces, ofPieces [] pieces = merge (pieces.flatMap Piece.segments) :=
    fun pieces => (ofPieces_eq_prepend [] pieces).trans (prepend_empty _)
  rw [hmerge, hmerge, hmerge, List.flatMap_append, merge_append]

end Segment

/-- A text that ends with a line feed does not change how the text behind it is scanned, unless
that text declares a dependency again. -/
theorem pieces_append {front back : List Char} {row : List Piece}
    (hfeed : front.getLast? = some '\n') (hfront : pieces front = .ok row)
    (hnew : ∀ name ∈ declarations back, name ∉ row.flatMap Piece.injection) :
    pieces (front ++ back) = (pieces back).map (row ++ ·) := by
  have hlast : front ≠ [] → (none : Option Char) = ([] : List Char).getLast? := fun _ => rfl
  have hboth := scan_append hlast hfeed hfront back
  -- A line feed before a text counts as little as nothing before it.
  have hstart : scan ([] ++ (row.flatMap Piece.injection).reverse) (some '\n') back
      = scan ([] ++ (row.flatMap Piece.injection).reverse) none back :=
    scan_congr fun _ => by decide
  have hnew' : (declarations back).Disjoint (row.flatMap Piece.injection).reverse :=
    fun name hback hfront => hnew name hback (List.mem_reverse.mp hfront)
  rw [List.append_nil, ← List.nil_append (List.reverse _), hstart,
    scan_append_of_disjoint hnew'] at hboth
  exact hboth

/-- A failure behind a text that ends with a line feed is told as many lines further down as that
text has line feeds. -/
theorem Failure.place_append {failure : Failure} {front text : List Char}
    (hfeed : front.getLast? = some '\n') (hrest : failure.rest <:+ text) :
    failure.place (front ++ text)
      = ⟨(failure.place text).line + front.count '\n', (failure.place text).column⟩ := by
  obtain ⟨before, rfl⟩ := hrest
  rw [Failure.place_eq rfl, ← List.append_assoc, Failure.place_eq rfl,
    Position.after_append hfeed]

/-- A text that ends with a line feed and a text behind it that repeats no declaration of it say
what each of them says on its own: the segments of the one and then those of the other, with two
literals that meet joined. Where the second text has a failure, both together have the same failure,
in the same column and as many lines further down as the first text has. -/
theorem scanned_append {front back : List Char} {segments : List Segment}
    (hfeed : front.getLast? = some '\n') (hfront : scanned front = .ok segments)
    (hnew : ∀ name ∈ declarations back, name ∉ declared segments) :
    (∀ more, scanned back = .ok more → scanned (front ++ back) = .ok (Segment.join segments more))
      ∧ ∀ failure, scanned back = .error failure →
          scanned (front ++ back) = .error failure
            ∧ failure.place (front ++ back)
              = ⟨(failure.place back).line + front.count '\n', (failure.place back).column⟩ := by
  obtain ⟨row, hrow, rfl⟩ := exists_pieces_of_scanned hfront
  rw [declared_ofPieces] at hnew
  have hboth := pieces_append hfeed hrow hnew
  refine ⟨fun more hmore => ?_, fun failure hfailure => ⟨?_, ?_⟩⟩
  · obtain ⟨row', hrow', rfl⟩ := exists_pieces_of_scanned hmore
    rw [hrow'] at hboth
    rw [scanned, hboth]
    exact congrArg Except.ok (Segment.ofPieces_append row row')
  · rw [scanned] at hfailure
    cases hpieces : pieces back with
    | error other =>
      rw [hpieces] at hfailure hboth
      rw [scanned, hboth]
      exact hfailure
    | ok row' =>
      rw [hpieces] at hfailure
      cases hfailure
  · obtain ⟨before, behind, said, hback, -⟩ := exists_front_of_scanned_error hfailure
    exact Failure.place_append hfeed ⟨before, hback.symm⟩

/-- The second text uses a dependency that the first declares. Where it is read, two literals meet
at the line feed. -/
theorem exists_scanned_append :
    "@inject Clock\nDear @Clock.Now,\n".toList.getLast? = some '\n'
      ∧ ∃ segments, scanned "@inject Clock\nDear @Clock.Now,\n".toList = .ok segments
        ∧ (∀ name ∈ declarations "a@b @@\n@inject Log\n".toList, name ∉ declared segments)
        ∧ (∀ name ∈ declarations "@Clock\n\té @(Model".toList, name ∉ declared segments)
        ∧ scanned ("@inject Clock\nDear @Clock.Now,\n".toList ++ "a@b @@\n@inject Log\n".toList)
          = .ok [.inject "Clock", .literal "Dear ", .expression "Clock.Now",
              .literal ",\na@b @\n", .inject "Log"]
        ∧ scanned ("@inject Clock\nDear @Clock.Now,\n".toList ++ "@Clock\n\té @(Model".toList)
          = .error ⟨.openExpression, "@(Model".toList⟩
        ∧ Failure.place ⟨.openExpression, "@(Model".toList⟩
            ("@inject Clock\nDear @Clock.Now,\n".toList ++ "@Clock\n\té @(Model".toList)
          = ⟨4, 4⟩ := by
  have hfeed : "@inject Clock\nDear @Clock.Now,\n".toList.getLast? = some '\n' := by
    decide +kernel
  have hfront : scanned "@inject Clock\nDear @Clock.Now,\n".toList
      = .ok [.inject "Clock", .literal "Dear ", .expression "Clock.Now", .literal ",\n"] := by
    decide +kernel
  have hread : scanned "a@b @@\n@inject Log\n".toList
      = .ok [.literal "a@b @\n", .inject "Log"] := by
    decide +kernel
  have hopen : scanned "@Clock\n\té @(Model".toList
      = .error ⟨.openExpression, "@(Model".toList⟩ := by
    decide +kernel
  have hnew : ∀ name ∈ declarations "a@b @@\n@inject Log\n".toList, name ∉ declared
      [.inject "Clock", .literal "Dear ", .expression "Clock.Now", .literal ",\n"] := by
    rw [declarations_eq_declared hread]
    decide +kernel
  have hboth := (scanned_append hfeed hfront hnew).1 _ hread
  obtain ⟨hfailure, hplace⟩ := (scanned_append hfeed hfront (by decide +kernel)).2 _ hopen
  exact ⟨hfeed, _, hfront, hnew, by decide +kernel, hboth, hfailure, hplace⟩

end Stencil.Markup
