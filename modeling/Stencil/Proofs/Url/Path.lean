import Mathlib
import Stencil.Url.Parser
import Stencil.Proofs.Url.Percent

/-!
# Divided paths

The segments of a URL that was read hold no slash, and in the path of a file no empty segment stands
in front of others (`isNormal_of_parse?`). So the text of a path tells its segments
(`eq_of_text_segments_eq`).
-/

namespace Stencil.Text

variable {separates : Char → Bool}

/-! ## Splitting -/

/-- What holds no separator is added to the first part of what follows it. -/
theorem splitWhere_append {text : List Char} (h : ∀ c ∈ text, separates c = false)
    {rest first : List Char} {more : List (List Char)}
    (hrest : splitWhere separates rest = first :: more) :
    splitWhere separates (text ++ rest) = (text ++ first) :: more := by
  induction text with
  | nil => exact hrest
  | cons c text ih =>
    obtain ⟨hc, htext⟩ := List.forall_mem_cons.mp h
    rw [List.cons_append, splitWhere, hc, ih htext]
    rfl

/-- What stands in front of the first separator is the first part. -/
theorem splitWhere_append_cons {text : List Char} (h : ∀ c ∈ text, separates c = false)
    {mark : Char} (hmark : separates mark = true) (rest : List Char) :
    splitWhere separates (text ++ mark :: rest) = text :: splitWhere separates rest := by
  have hrest : splitWhere separates (mark :: rest) = [] :: splitWhere separates rest := by
    rw [splitWhere, if_pos hmark]
  rw [splitWhere_append h hrest, List.append_nil]

theorem splitWhere_of_forall {text : List Char} (h : ∀ c ∈ text, separates c = false) :
    splitWhere separates text = [text] := by
  have hnone : splitWhere separates [] = [[]] := rfl
  have hparts := splitWhere_append h hnone
  rwa [List.append_nil] at hparts

theorem separates_of_mem_splitWhere {text part : List Char} (h : part ∈ splitWhere separates text)
    {c : Char} (hc : c ∈ part) : separates c = false := by
  induction text generalizing part with
  | nil =>
    rw [List.mem_singleton.mp h] at hc
    exact nomatch hc
  | cons d text ih =>
    rw [splitWhere] at h
    split at h
    · rcases List.mem_cons.mp h with rfl | h
      · exact nomatch hc
      · exact ih h hc
    · next hd =>
      have hd : separates d = false := by simpa using hd
      split at h
      · next first more hsplit =>
        rcases List.mem_cons.mp h with rfl | h
        · rcases List.mem_cons.mp hc with rfl | hc
          · exact hd
          · exact ih (hsplit ▸ List.mem_cons_self) hc
        · exact ih (hsplit ▸ List.mem_cons_of_mem first h) hc
      · next hsplit => exact absurd hsplit (splitWhere_ne_nil separates text)

end Stencil.Text

namespace Stencil.Url

/-! ## Segments of a URL that was read -/

/-- What reading sees to in the path of a scheme. -/
structure IsNormal (scheme : String) (list : List String) : Prop where
  /-- No segment holds a slash. -/
  noSlash : ∀ segment ∈ list, '/' ∉ segment.toList
  /-- No empty segment stands in front of others in the path of a file. -/
  front : scheme = "file" → ∀ next rest, list ≠ "" :: next :: rest

theorem not_mem_of_mem_splitSlashes {special : Bool} {text part : List Char}
    (h : part ∈ splitSlashes special text) : '/' ∉ part := by
  intro hslash
  have hfalse := Text.separates_of_mem_splitWhere h hslash
  simp [isSlash] at hfalse

theorem not_mem_percentEncode {set : Char → Bool} {text : List Char} (h : '/' ∉ text) :
    '/' ∉ percentEncode set text := by
  intro hslash
  rcases mem_percentEncode hslash with hmem | hsign | hsafe
  · exact h hmem
  · exact absurd hsign (by decide)
  · exact absurd hsafe (by decide)

theorem mem_of_mem_above {segments : List String} {segment : String}
    (h : segment ∈ above segments) : segment ∈ segments := by
  rw [above] at h
  split at h
  · split at h
    · exact h
    · exact List.mem_of_mem_dropLast h
  · exact nomatch h

variable {segments : List String}

/-- Adding a segment without a slash leaves no segment with one. -/
theorem not_mem_of_mem_addSegment {file last : Bool} {part : List Char} (hpart : '/' ∉ part)
    (h : ∀ segment ∈ segments, '/' ∉ segment.toList) :
    ∀ segment ∈ addSegment file last segments part, '/' ∉ segment.toList := by
  have hclosing : ∀ segment ∈ if last then [""] else [], '/' ∉ segment.toList := by
    cases last <;> decide
  intro segment hmem
  rw [addSegment] at hmem
  split at hmem
  · rcases List.mem_append.mp hmem with hmem | hmem
    · exact h segment (mem_of_mem_above hmem)
    · exact hclosing segment hmem
  · split at hmem
    · rcases List.mem_append.mp hmem with hmem | hmem
      · exact h segment hmem
      · exact hclosing segment hmem
    · split at hmem
      · rw [List.mem_singleton.mp hmem, String.toList_ofList, List.mem_append]
        rintro (hslash | hslash)
        · exact hpart (List.mem_of_mem_take hslash)
        · exact absurd hslash (by decide)
      · rcases List.mem_append.mp hmem with hmem | hmem
        · exact h segment hmem
        · rw [List.mem_singleton.mp hmem, String.toList_ofList]
          exact not_mem_percentEncode hpart

theorem not_mem_of_mem_addSegments {file : Bool} {parts : List (List Char)}
    (hparts : ∀ part ∈ parts, '/' ∉ part) (h : ∀ segment ∈ segments, '/' ∉ segment.toList) :
    ∀ segment ∈ addSegments file segments parts, '/' ∉ segment.toList := by
  fun_induction addSegments file segments parts with
  | case1 => exact h
  | case2 segments part =>
    exact not_mem_of_mem_addSegment (hparts part List.mem_cons_self) h
  | case3 segments part rest _ ih =>
    obtain ⟨hpart, hrest⟩ := List.forall_mem_cons.mp hparts
    exact ih hrest (not_mem_of_mem_addSegment hpart h)

/-- No segment that a text leads to holds a slash. -/
theorem not_mem_of_mem_walk {scheme : String} {text : List Char} :
    ∀ segment ∈ walk scheme [] text, '/' ∉ segment.toList :=
  not_mem_of_mem_addSegments (fun _ hpart => not_mem_of_mem_splitSlashes hpart)
    fun _ hmem => nomatch hmem

theorem mem_of_mem_trimFront {segment : String} (h : segment ∈ trimFront segments) :
    segment ∈ segments := by
  fun_induction trimFront segments with
  | case1 next rest ih => exact List.mem_cons_of_mem "" (ih h)
  | case2 => exact h

theorem trimFront_ne (segments : List String) (next : String) (rest : List String) :
    trimFront segments ≠ "" :: next :: rest := by
  fun_induction trimFront segments with
  | case1 _ _ ih => exact ih
  | case2 segments hne => exact fun heq => hne next rest heq

theorem trimFront_eq_self (h : ∀ next rest, segments ≠ "" :: next :: rest) :
    trimFront segments = segments := by
  fun_cases trimFront segments with
  | case1 next rest => exact absurd rfl (h next rest)
  | case2 => rfl

/-! ## Reading keeps to the form -/

theorem isNormal_readSegments {scheme : String} (h : scheme ≠ "file") (text : List Char) :
    IsNormal scheme (readSegments scheme text) := by
  refine ⟨?_, fun hfile => absurd hfile h⟩
  rw [readSegments]
  split
  · exact fun _ hmem => nomatch hmem
  · exact not_mem_of_mem_walk

/-- The path that a URL has is normal. -/
def HasNormalPath (url : Url) : Prop :=
  ∀ list, url.path = .segments list → IsNormal url.scheme list

theorem hasNormalPath_readPath {url : Url} (h : url.scheme ≠ "file") (text : List Char) :
    (url.readPath text).HasNormalPath := by
  rintro list ⟨⟩
  exact isNormal_readSegments h text

theorem scheme_eq_of_readAuthority? {url authorized : Url} {text rest : List Char}
    (h : url.readAuthority? text = some (authorized, rest)) : authorized.scheme = url.scheme := by
  unfold readAuthority? at h
  dsimp only at h
  split at h
  · exact nomatch h
  · simp only [Option.bind_eq_bind, Option.bind_eq_some_iff] at h
    obtain ⟨host, _, ⟨port, rest⟩, _, h⟩ := h
    cases h
    rfl

theorem hasNormalPath_of_readHierarchy? {url read : Url} (h : url.scheme ≠ "file") {closed : Bool}
    {text : List Char} (hread : url.readHierarchy? closed text = some read) :
    read.HasNormalPath := by
  unfold readHierarchy? at hread
  dsimp only at hread
  split at hread
  · exact nomatch hread
  · simp only [Option.bind_eq_bind, Option.bind_eq_some_iff] at hread
    obtain ⟨⟨authorized, rest⟩, hauthority, hread⟩ := hread
    cases hread
    refine hasNormalPath_readPath ?_ _
    rwa [scheme_eq_of_readAuthority? hauthority]

theorem hasNormalPath_ofFile (host : String) (text : List Char) :
    (ofFile host text).HasNormalPath := by
  rintro list ⟨⟩
  exact
    { noSlash := fun segment hmem => not_mem_of_mem_walk segment (mem_of_mem_trimFront hmem)
      front := fun _ => trimFront_ne _ }

theorem hasNormalPath_of_readFile? {text : List Char} {read : Url}
    (h : readFile? text = some read) : read.HasNormalPath := by
  unfold readFile? at h
  split at h
  · split at h
    · dsimp only at h
      split at h
      · cases h
        exact hasNormalPath_ofFile _ _
      · split at h
        · cases h
          exact hasNormalPath_ofFile _ _
        · obtain ⟨host, -, rfl⟩ := Option.map_eq_some_iff.mp h
          split <;> exact hasNormalPath_ofFile _ _
    · cases h
      exact hasNormalPath_ofFile _ _
  · cases h
    exact hasNormalPath_ofFile _ _

theorem hasNormalPath_of_readBody? {scheme : String} {closed : Bool} {text : List Char}
    {read : Url} (h : readBody? scheme closed text = some read) : read.HasNormalPath := by
  unfold readBody? at h
  dsimp only at h
  split at h
  · exact hasNormalPath_of_readFile? h
  · next hfile =>
    split at h
    · exact hasNormalPath_of_readHierarchy? hfile h
    · split at h
      · exact hasNormalPath_of_readHierarchy? hfile h
      · cases h
        exact hasNormalPath_readPath hfile _
      · cases h
        rintro list ⟨⟩

/-- The path of a URL that was read is normal. -/
theorem isNormal_of_parse? {text : String} {url : Url} (h : parse? text = some url)
    {list : List String} (hpath : url.path = .segments list) : IsNormal url.scheme list := by
  simp only [parse?, Option.bind_eq_bind, Option.bind_eq_some_iff] at h
  obtain ⟨⟨scheme, rest⟩, -, read, hread, h⟩ := h
  cases h
  exact hasNormalPath_of_readBody? hread list hpath

/-! ## The text of a path -/

theorem text_segments_append (front back : List String) :
    UrlPath.text (.segments (front ++ back))
      = UrlPath.text (.segments front) ++ UrlPath.text (.segments back) := by
  rw [UrlPath.text, List.map_append, String.join_append]
  rfl

theorem text_segments_singleton (segment : String) :
    UrlPath.text (.segments [segment]) = "/" ++ segment := by
  rw [UrlPath.text, List.map_singleton, String.join_cons, String.join_nil, String.append_empty]

theorem text_segments_cons (segment : String) (list : List String) :
    UrlPath.text (.segments (segment :: list))
      = "/" ++ segment ++ UrlPath.text (.segments list) := by
  rw [← text_segments_singleton, ← text_segments_append, List.singleton_append]

/-- The segments of a path are the parts of its text behind the first slash. -/
theorem splitSlashes_text (h : ∀ segment ∈ segments, '/' ∉ segment.toList) :
    splitSlashes false (UrlPath.text (.segments segments)).toList
      = [] :: segments.map String.toList := by
  induction segments with
  | nil => rfl
  | cons segment list ih =>
    obtain ⟨hsegment, hlist⟩ := List.forall_mem_cons.mp h
    have hinert : ∀ c ∈ segment.toList, isSlash false c = false := by
      intro c hc
      rw [isSlash, Bool.false_and, Bool.or_false, beq_eq_false_iff_ne]
      rintro rfl
      exact hsegment hc
    have hrest := Text.splitWhere_append hinert (ih hlist)
    rw [List.append_nil] at hrest
    rw [text_segments_cons, String.toList_append, String.toList_append, List.append_assoc]
    change splitSlashes false ('/' :: (segment.toList ++ _)) = _
    rw [splitSlashes, Text.splitWhere, if_pos (by decide), hrest]
    rfl

/-- The text of a path tells its segments. -/
theorem eq_of_text_segments_eq {list other : List String}
    (hlist : ∀ segment ∈ list, '/' ∉ segment.toList)
    (hother : ∀ segment ∈ other, '/' ∉ segment.toList)
    (h : UrlPath.text (.segments list) = UrlPath.text (.segments other)) : list = other := by
  have hparts := splitSlashes_text hlist
  rw [h, splitSlashes_text hother] at hparts
  have hinjective : Function.Injective String.toList := fun _ _ => String.toList_injective
  exact (hinjective.list_map (List.cons.inj hparts).2).symm

end Stencil.Url
