import Mathlib
import Stencil.Proofs.Markup.Document

/-!
# Escaped signs

A text is escaped by doubling its live at signs; it is then read as the one literal that it was.
Doubling every sign is the same as long as each of them is live. A sign behind an ASCII letter or
digit is none, and doubling that one leaves a sign over, so the text is no longer read as itself
(`Document.parse_doubled_eq_ok_iff`).
-/

namespace Stencil.Markup

open Text

/-! ## Escaping and doubling -/

/-- A text with each of its at signs doubled, unless an ASCII letter or digit stands right before
it. `before` is the character before the text. -/
def escape (before : Option Char) : List Char → List Char
  | [] => []
  | c :: rest =>
    if c = '@' ∧ before.any Char.isAlphanum = false then '@' :: '@' :: escape (some c) rest
    else c :: escape (some c) rest

/-- A text with each of its at signs doubled. -/
def double (text : List Char) : List Char :=
  text.flatMap fun c => if c = '@' then ['@', '@'] else [c]

/-- The template that stands for a text, whatever the text is. -/
def escaped (text : String) : String :=
  String.ofList (escape none text.toList)

/-- A text with each of its at signs doubled. -/
def doubled (text : String) : String :=
  String.ofList (double text.toList)

theorem double_sign (text : List Char) : double ('@' :: text) = '@' :: '@' :: double text :=
  rfl

theorem double_cons {c : Char} (h : c ≠ '@') (text : List Char) :
    double (c :: text) = c :: double text := by
  rw [double, List.flatMap_cons, if_neg h]
  rfl

theorem escape_live {before : Option Char} (h : isLive before '@' = true) (text : List Char) :
    escape before ('@' :: text) = '@' :: '@' :: escape (some '@') text := by
  have hbefore : before.any Char.isAlphanum = false := by simpa [isLive] using h
  rw [escape, if_pos ⟨rfl, hbefore⟩]

theorem escape_dead {before : Option Char} {c : Char} (h : ¬ isLive before c = true)
    (text : List Char) : escape before (c :: text) = c :: escape (some c) text := by
  rw [escape, if_neg]
  rintro ⟨rfl, hbefore⟩
  exact h (by simp [isLive, hbefore])

theorem mem_escape_iff {before : Option Char} {text : List Char} {c : Char} :
    c ∈ escape before text ↔ c ∈ text := by
  induction text generalizing before with
  | nil => rfl
  | cons d text ih =>
    rw [escape]
    split
    · next h => simp [ih, h.1]
    · simp [ih]

theorem mem_double_iff {text : List Char} {c : Char} : c ∈ double text ↔ c ∈ text := by
  rw [double, List.mem_flatMap]
  constructor
  · rintro ⟨d, hd, hc⟩
    split at hc <;> simp_all
  · intro hc
    refine ⟨c, hc, ?_⟩
    split <;> simp_all

/-! ## Texts with live signs only -/

/-- Whether all at signs of a text are live. `before` is the character before the text. -/
def AllLive (before : Option Char) (text : List Char) : Prop :=
  ∀ front rest, text = front ++ '@' :: rest → isLive (front.getLast?.or before) '@' = true

theorem allLive_nil (before : Option Char) : AllLive before [] :=
  fun _ _ htext => nomatch (List.append_eq_nil_iff.mp htext.symm).2

theorem allLive_cons {before : Option Char} {c : Char} {text : List Char} :
    AllLive before (c :: text)
      ↔ (c = '@' → isLive before '@' = true) ∧ AllLive (some c) text := by
  constructor
  · intro h
    refine ⟨fun hc => h [] text (by rw [hc]; rfl), fun front rest htext => ?_⟩
    have hlive := h (c :: front) rest (by rw [htext]; rfl)
    rwa [List.getLast?_cons, Option.some_or, ← Option.or_some] at hlive
  · rintro ⟨hc, hmore⟩ front rest htext
    rcases List.cons_eq_append_iff.mp htext with ⟨rfl, hcons⟩ | ⟨front, rfl, hrest⟩
    · exact hc (List.cons.inj hcons).1.symm
    · rw [List.getLast?_cons, Option.some_or, ← Option.or_some]
      exact hmore front rest hrest

instance decidableAllLive : (before : Option Char) → (text : List Char) →
    Decidable (AllLive before text)
  | before, [] => isTrue (allLive_nil before)
  | _, c :: text =>
    have := decidableAllLive (some c) text
    decidable_of_iff _ allLive_cons.symm

/-- Escaping doubles every sign of a text in which all are live. -/
theorem escape_eq_double {before : Option Char} {text : List Char} (h : AllLive before text) :
    escape before text = double text := by
  induction text generalizing before with
  | nil => rfl
  | cons c text ih =>
    obtain ⟨hc, hmore⟩ := allLive_cons.mp h
    by_cases hsign : c = '@'
    · subst hsign
      rw [escape_live (hc rfl), double_sign, ih hmore]
    · have hdead : ¬ isLive before c = true := by simp [isLive, hsign]
      rw [escape_dead hdead, double_cons hsign, ih hmore]

/-- Escaping leaves a text without a live sign as it is. -/
theorem escape_eq_self {before : Option Char} {text : List Char}
    (h : ∀ front rest, text = front ++ '@' :: rest →
      ¬ isLive (front.getLast?.or before) '@' = true) :
    escape before text = text := by
  induction text generalizing before with
  | nil => rfl
  | cons c text ih =>
    have hdead : ¬ isLive before c = true := by
      intro hlive
      obtain rfl := eq_sign_of_isLive hlive
      exact h [] text rfl hlive
    rw [escape_dead hdead, ih]
    intro front rest htext
    have hnot := h (c :: front) rest (by rw [htext]; rfl)
    rwa [List.getLast?_cons, Option.some_or, ← Option.or_some] at hnot

/-! ## Scanning doubled signs -/

/-- Two signs of which the first is live are one escaped sign. -/
theorem scan_sign_eq_ok_iff {injected : List (List Char)} {before : Option Char}
    {rest : List Char} {pieces : List Piece} (hlive : isLive before '@' = true) :
    scan injected before ('@' :: '@' :: rest) = .ok pieces
      ↔ ∃ more, scan injected (some '@') rest = .ok more ∧ pieces = .sign :: more := by
  have hread : readConstruct injected ('@' :: rest) = .ok ⟨.sign, '@', rest⟩ := rfl
  rw [scan_live_eq_ok_iff hlive]
  constructor
  · rintro ⟨reading, more, hreading, hmore, rfl⟩
    obtain rfl := Except.ok.inj (hread.symm.trans hreading)
    exact ⟨more, hmore, rfl⟩
  · rintro ⟨more, hmore, rfl⟩
    exact ⟨_, more, hread, hmore, rfl⟩

/-- An escaped text is scanned to pieces that say the text. -/
theorem exists_scan_escape (injected : List (List Char)) (before : Option Char)
    (text : List Char) :
    ∃ pieces, scan injected before (escape before text) = .ok pieces
      ∧ ∀ pending, Segment.ofPieces pending pieces = Segment.flush (text.reverse ++ pending) := by
  induction text generalizing before with
  | nil => exact ⟨[], by rw [escape, scan], fun pending => rfl⟩
  | cons c text ih =>
    obtain ⟨pieces, hscan, hpieces⟩ := ih (some c)
    by_cases hlive : isLive before c = true
    · obtain rfl := eq_sign_of_isLive hlive
      refine ⟨.sign :: pieces, ?_, fun pending => ?_⟩
      · rw [escape_live hlive]
        exact (scan_sign_eq_ok_iff hlive).mpr ⟨pieces, hscan, rfl⟩
      · rw [Segment.ofPieces, hpieces, List.reverse_cons, List.append_assoc, List.singleton_append]
    · refine ⟨.char c :: pieces, ?_, fun pending => ?_⟩
      · rw [escape_dead hlive]
        exact (scan_dead_eq_ok_iff hlive).mpr ⟨pieces, hscan, rfl⟩
      · rw [Segment.ofPieces, hpieces, List.reverse_cons, List.append_assoc, List.singleton_append]

/-! ## A sign that is left over -/

theorem Segment.exists_literal_of_mem_flush {pending : List Char} {segment : Segment}
    (h : segment ∈ flush pending) : ∃ text, segment = .literal text := by
  rw [flush] at h
  split at h
  · exact absurd h List.not_mem_nil
  · exact ⟨_, List.mem_singleton.mp h⟩

theorem Segment.flush_inj {pending whole : List Char} (h : flush pending = flush whole) :
    pending = whole := by
  cases pending with
  | nil =>
    cases whole with
    | nil => rfl
    | cons d whole => cases h
  | cons c pending =>
    cases whole with
    | nil => cases h
    | cons d whole =>
      have htext := Segment.literal.inj (List.cons.inj h).1
      exact List.reverse_injective (String.ofList_injective htext)

theorem Segment.append_cons_ne_flush {segment : Segment} (h : ∀ text, segment ≠ .literal text)
    (pending whole : List Char) (rest : List Segment) :
    flush pending ++ segment :: rest ≠ flush whole := by
  intro heq
  have hmem : segment ∈ flush whole := by simp [← heq]
  obtain ⟨text, htext⟩ := exists_literal_of_mem_flush hmem
  exact h text htext

/-- A construct that says no more than text is an escaped sign or a comment. -/
theorem IsConstruct.eq_of_ofPieces {injected : List (List Char)} {body after pending : List Char}
    {whole : List Char} {piece : Piece} {pieces : List Piece}
    (h : IsConstruct injected body after piece)
    (hwhole : Segment.ofPieces pending (piece :: pieces) = Segment.flush whole) :
    piece = .sign ∧ body = ['@'] ∧ Segment.ofPieces ('@' :: pending) pieces = Segment.flush whole
      ∨ piece = .comment ∧ '*' ∈ body
        ∧ Segment.ofPieces pending pieces = Segment.flush whole := by
  cases h with
  | sign => exact Or.inl ⟨rfl, rfl, hwhole⟩
  | comment => exact Or.inr ⟨rfl, by simp, hwhole⟩
  | explicit =>
    exact absurd hwhole (Segment.append_cons_ne_flush (fun _ => Segment.noConfusion) pending _ _)
  | inject =>
    exact absurd hwhole (Segment.append_cons_ne_flush (fun _ => Segment.noConfusion) pending _ _)
  | implicit =>
    exact absurd hwhole (Segment.append_cons_ne_flush (fun _ => Segment.noConfusion) pending _ _)

/-- A text that is read as one literal has all characters of the literal, signs apart. -/
theorem countP_le_of_scan {injected : List (List Char)} {before : Option Char}
    {text pending whole : List Char} {pieces : List Piece}
    (hscan : scan injected before text = .ok pieces)
    (hwhole : Segment.ofPieces pending pieces = Segment.flush whole) :
    whole.countP (· != '@') ≤ text.countP (· != '@') + pending.countP (· != '@') := by
  fun_induction scan injected before text generalizing pieces pending with
  | case1 =>
    obtain rfl := Except.ok.inj hscan
    rw [← Segment.flush_inj hwhole]
    exact Nat.le_add_left ..
  | case2 => cases hscan
  | case3 injected before c rest _ reading hread pieces' hscan' ih =>
    obtain rfl := Except.ok.inj hscan
    obtain ⟨body, rfl, hconstruct, -⟩ := exists_of_readConstruct hread
    rw [List.countP_cons, List.countP_append]
    rcases hconstruct.eq_of_ofPieces hwhole with ⟨-, -, hrest⟩ | ⟨-, -, hrest⟩
    · have hle := ih hscan' hrest
      rw [List.countP_cons_of_neg (by decide)] at hle
      omega
    · have hle := ih hscan' hrest
      omega
  | case4 => cases hscan
  | case5 injected before c rest _ pieces' hscan' ih =>
    obtain rfl := Except.ok.inj hscan
    have hle := ih hscan' hwhole
    rw [List.countP_cons] at hle ⊢
    omega
  | case6 => cases hscan

theorem countP_double (text : List Char) :
    (double text).countP (· != '@') = text.countP (· != '@') := by
  induction text with
  | nil => rfl
  | cons c text ih =>
    by_cases hsign : c = '@'
    · subst hsign
      rw [double_sign, List.countP_cons_of_neg (by decide), List.countP_cons_of_neg (by decide),
        List.countP_cons_of_neg (by decide), ih]
    · rw [double_cons hsign, List.countP_cons, List.countP_cons, ih]

/-- A sign before a doubled text takes the first half of a pair away, so the text is not read as
itself. -/
theorem ofPieces_ne_flush_of_scan {injected : List (List Char)} {text pending : List Char}
    {pieces : List Piece} (hscan : scan injected (some '@') ('@' :: double text) = .ok pieces) :
    Segment.ofPieces pending pieces ≠ Segment.flush (text.reverse ++ pending) := by
  have hlive : isLive (some '@') '@' = true := by decide
  induction text generalizing pending pieces with
  | nil =>
    obtain ⟨reading, -, hread, -⟩ := (scan_live_eq_ok_iff hlive).mp hscan
    cases hread
  | cons c text ih =>
    by_cases hsign : c = '@'
    · -- The sign takes the first half of the pair, which leaves the second half over.
      subst hsign
      obtain ⟨more, hmore, rfl⟩ := (scan_sign_eq_ok_iff hlive).mp hscan
      rw [List.reverse_cons, List.append_assoc, List.singleton_append]
      exact ih hmore
    · -- The sign opens a construct. A comment alone says only text, and it swallows its stars.
      intro hwhole
      rw [double_cons hsign] at hscan
      obtain ⟨reading, more, hread, hmore, rfl⟩ := (scan_live_eq_ok_iff hlive).mp hscan
      obtain ⟨body, hbody, hconstruct, -⟩ := exists_of_readConstruct hread
      rcases hconstruct.eq_of_ofPieces hwhole with ⟨-, rfl, -⟩ | ⟨-, hstar, hshown⟩
      · exact hsign (List.cons.inj hbody).1
      · have hle := countP_le_of_scan hmore hshown
        have hlost : 0 < body.countP (· != '@') := List.countP_pos_iff.mpr ⟨'*', hstar, by decide⟩
        have hcount := congrArg (List.countP (· != '@')) hbody
        rw [List.countP_append, List.countP_cons, countP_double] at hcount
        rw [List.countP_append, List.countP_reverse, List.countP_cons] at hle
        omega

/-- A text whose doubling is read as the text itself has live signs only. -/
theorem allLive_of_scan_double {injected : List (List Char)} {before : Option Char}
    {text pending : List Char} {pieces : List Piece}
    (hscan : scan injected before (double text) = .ok pieces)
    (hwhole : Segment.ofPieces pending pieces = Segment.flush (text.reverse ++ pending)) :
    AllLive before text := by
  induction text generalizing before pending pieces with
  | nil => exact allLive_nil before
  | cons c text ih =>
    rw [List.reverse_cons, List.append_assoc, List.singleton_append] at hwhole
    rw [allLive_cons]
    by_cases hlive : isLive before c = true
    · obtain rfl := eq_sign_of_isLive hlive
      obtain ⟨more, hmore, rfl⟩ := (scan_sign_eq_ok_iff hlive).mp hscan
      exact ⟨fun _ => hlive, ih hmore hwhole⟩
    · by_cases hsign : c = '@'
      · subst hsign
        obtain ⟨more, hmore, rfl⟩ := (scan_dead_eq_ok_iff hlive).mp hscan
        exact absurd hwhole (ofPieces_ne_flush_of_scan hmore)
      · rw [double_cons hsign] at hscan
        obtain ⟨more, hmore, rfl⟩ := (scan_dead_eq_ok_iff hlive).mp hscan
        exact ⟨fun hc => absurd hc hsign, ih hmore hwhole⟩

/-! ## Documents of one literal -/

theorem Segment.flush_reverse_toList {text : String} (h : text.toList ≠ []) :
    flush (text.toList.reverse ++ []) = [.literal text] := by
  rw [List.append_nil, flush, if_neg (by simpa using h), List.reverse_reverse, String.ofList_toList]

theorem allLive_none_iff {text : List Char} :
    AllLive none text ↔ ∀ front rest, text = front ++ '@' :: rest → IsLiveAfter front := by
  have hfront : ∀ front : List Char,
      isLive (front.getLast?.or none) '@' = true ↔ IsLiveAfter front := by
    intro front
    rw [Option.or_none, Lexeme.isLive_iff]
    exact and_iff_right rfl
  simp only [AllLive, hfront]

namespace Document

variable {text : String} {model : ModelType} {name : String}

theorem parse_eq_ok_iff_exists_pieces {document : Document} (htext : trim text.toList ≠ [])
    (hname : model.sourceName = .ok name) :
    parse text model = .ok document
      ↔ ∃ row, pieces text.toList = .ok row
          ∧ document = ⟨model, .inherits baseContract name :: Segment.ofPieces [] row⟩ := by
  unfold parse
  rw [if_neg (by simpa using htext), hname]
  dsimp only
  cases pieces text.toList with
  | error failure => simp
  | ok row => simp [eq_comm]

/-- The template of a text is read as the text. -/
theorem parse_escaped (htext : trim text.toList ≠ []) (hname : model.sourceName = .ok name) :
    parse (escaped text) model = .ok ⟨model, [.inherits baseContract name, .literal text]⟩ := by
  obtain ⟨row, hscan, hshown⟩ := exists_scan_escape [] none text.toList
  have hlist : (escaped text).toList = escape none text.toList := String.toList_ofList
  have hblank : trim (escaped text).toList ≠ [] := by
    rw [hlist]
    exact (trim_ne_nil_congr fun c => mem_escape_iff).mpr htext
  have hne := ne_nil_of_trim_ne_nil htext
  refine (parse_eq_ok_iff_exists_pieces hblank hname).mpr ⟨row, ?_, ?_⟩
  · rw [hlist, pieces, hscan]
  · rw [hshown, Segment.flush_reverse_toList hne]

/-- Doubling the signs of a text makes a template of the text exactly if no ASCII letter or digit
stands right before one of them. -/
theorem parse_doubled_eq_ok_iff (htext : trim text.toList ≠ [])
    (hname : model.sourceName = .ok name) :
    parse (doubled text) model = .ok ⟨model, [.inherits baseContract name, .literal text]⟩
      ↔ ∀ front rest, text.toList = front ++ '@' :: rest → IsLiveAfter front := by
  have hlist : (doubled text).toList = double text.toList := String.toList_ofList
  have hblank : trim (doubled text).toList ≠ [] := by
    rw [hlist]
    exact (trim_ne_nil_congr fun c => mem_double_iff).mpr htext
  have hne := ne_nil_of_trim_ne_nil htext
  rw [← allLive_none_iff]
  constructor
  · intro hparse
    obtain ⟨row, hscan, hdocument⟩ := (parse_eq_ok_iff_exists_pieces hblank hname).mp hparse
    have hshown := (List.cons.inj (Document.mk.inj hdocument).2).2
    rw [← Segment.flush_reverse_toList hne] at hshown
    rw [hlist] at hscan
    exact allLive_of_scan_double hscan hshown.symm
  · intro hlive
    have heq : doubled text = escaped text := by rw [doubled, escaped, escape_eq_double hlive]
    rw [heq]
    exact parse_escaped htext hname

/-- Signs at the start, in a row, and behind a letter that is not of ASCII are all live. -/
theorem parse_doubled_signs :
    trim "@@home, é@b".toList ≠ []
      ∧ (ModelType.ofTypeName "demo::Person").sourceName = .ok "demo.Person"
      ∧ doubled "@@home, é@b" = "@@@@home, é@@b"
      ∧ parse "@@@@home, é@@b" (.ofTypeName "demo::Person")
        = .ok ⟨.ofTypeName "demo::Person",
            [.inherits baseContract "demo.Person", .literal "@@home, é@b"]⟩
      ∧ ∀ front rest, "@@home, é@b".toList = front ++ '@' :: rest → IsLiveAfter front := by
  have htext : trim "@@home, é@b".toList ≠ [] := by decide
  have hname : (ModelType.ofTypeName "demo::Person").sourceName = .ok "demo.Person" := by decide
  have hdoubled : doubled "@@home, é@b" = "@@@@home, é@@b" := by decide
  have hlive : ∀ front rest, "@@home, é@b".toList = front ++ '@' :: rest → IsLiveAfter front := by
    rw [← allLive_none_iff]
    decide
  exact ⟨htext, hname, hdoubled, hdoubled ▸ (parse_doubled_eq_ok_iff htext hname).mpr hlive, hlive⟩

/-- The doubled sign of an address stands behind a letter. The first half of it is text, and the
second half opens an expression. -/
theorem not_forall_parse_doubled :
    ¬ ∀ (text : String) (model : ModelType) (name : String), trim text.toList ≠ [] →
      model.sourceName = .ok name →
      parse (doubled text) model
        = .ok ⟨model, [.inherits baseContract name, .literal text]⟩ := by
  intro h
  have hparse := h "a@b" (.ofTypeName "demo::Person") "demo.Person" (by decide) (by decide)
  have hactual : parse (doubled "a@b") (.ofTypeName "demo::Person")
      = .ok ⟨.ofTypeName "demo::Person",
          [.inherits baseContract "demo.Person", .literal "a@", .expression "b"]⟩ := by
    decide +kernel
  rw [hactual] at hparse
  exact absurd hparse (by decide)

end Document

end Stencil.Markup
