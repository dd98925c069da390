import Mathlib
import Stencil.Proofs.Url.Path

/-!
# Joining paths

A text in form encoding that is joined to a path is one segment of it, as it stands, but for the two
texts that are steps (`isDoubleDot_formEncode`, `isSingleDot_formEncode`). What it is joined to is
the folder of the URL: its path with a slash at the end, which is put there where it is missing. The
slash leaves the path in front of it as it is, a drive with a bar apart (`folder_eq_stem_iff`).
-/

namespace Stencil.Url

/-! ## Steps in form encoding -/

theorem eq_or_eq_toUpper {c d : Char} (h : c.toLower = d) : c = d ∨ c = d.toUpper := by
  by_cases hupper : c.isUpper = true
  · refine Or.inr ?_
    rw [← h, Char.toUpper_toLower_eq_toUpper,
      Char.toUpper_eq_of_not_isLower (Char.not_isLower_of_isUpper hupper)]
  · exact Or.inl (Char.toLower_eq_of_not_isUpper hupper ▸ h)

theorem isSingleDot_eq_true_iff {dot : List Char} :
    isSingleDot dot = true ↔
      dot.map Char.toLower = ['.'] ∨ dot.map Char.toLower = ['%', '2', 'e'] := by
  rw [isSingleDot, List.contains_iff_mem, List.mem_cons, List.mem_singleton,
    ← String.toList_inj, ← String.toList_inj, String.toList_ofList]
  rfl

/-- A step up is two dots, each as it stands in a step in place. -/
theorem exists_append_of_isDoubleDot {segment : List Char} (h : isDoubleDot segment = true) :
    ∃ dot other, segment = dot ++ other ∧ isSingleDot dot = true ∧ isSingleDot other = true := by
  have hsplit : ∀ front back, segment.map Char.toLower = front ++ back →
      (front = ['.'] ∨ front = ['%', '2', 'e']) → (back = ['.'] ∨ back = ['%', '2', 'e']) →
      ∃ dot other, segment = dot ++ other ∧ isSingleDot dot = true ∧ isSingleDot other = true := by
    intro front back hmap hfront hback
    obtain ⟨dot, other, rfl, rfl, rfl⟩ := List.map_eq_append_iff.mp hmap
    exact ⟨dot, other, rfl, isSingleDot_eq_true_iff.mpr hfront, isSingleDot_eq_true_iff.mpr hback⟩
  rw [isDoubleDot, List.contains_iff_mem] at h
  simp only [List.mem_cons, List.not_mem_nil, or_false, ← String.toList_inj,
    String.toList_ofList] at h
  rcases h with h | h | h | h
  · exact hsplit ['.'] ['.'] h (Or.inl rfl) (Or.inl rfl)
  · exact hsplit ['.'] ['%', '2', 'e'] h (Or.inl rfl) (Or.inr rfl)
  · exact hsplit ['%', '2', 'e'] ['.'] h (Or.inr rfl) (Or.inl rfl)
  · exact hsplit ['%', '2', 'e'] ['%', '2', 'e'] h (Or.inr rfl) (Or.inr rfl)

/-- A dot decodes to its byte however it is written. -/
theorem formDecode_of_isSingleDot {dot : List Char} (h : isSingleDot dot = true)
    (rest : List Char) : formDecode (dot ++ rest) = 46 :: formDecode rest := by
  rcases isSingleDot_eq_true_iff.mp h with h | h
  · obtain ⟨a, rfl, ha⟩ := List.map_eq_singleton_iff.mp h
    obtain rfl : a = '.' := (eq_or_eq_toUpper ha).elim id id
    exact percentDecode_cons (by decide) _
  · obtain ⟨a, _, rfl, ha, h⟩ := List.map_eq_cons_iff.mp h
    obtain ⟨b, _, rfl, hb, h⟩ := List.map_eq_cons_iff.mp h
    obtain ⟨c, rfl, hc⟩ := List.map_eq_singleton_iff.mp h
    obtain rfl : a = '%' := (eq_or_eq_toUpper ha).elim id id
    obtain rfl : b = '2' := (eq_or_eq_toUpper hb).elim id id
    rcases eq_or_eq_toUpper hc with rfl | rfl <;> rfl

/-- The only text that reads as a step in place in form encoding is a dot. -/
theorem isSingleDot_formEncode {text : List Char} :
    isSingleDot (formEncode text) = true ↔ text = ['.'] := by
  constructor
  · intro h
    have hbytes := formDecode_of_isSingleDot h []
    rw [List.append_nil, formDecode_formEncode] at hbytes
    exact flatMap_utf8_injective hbytes
  · rintro rfl
    decide

/-- The only text that reads as a step up in form encoding is two dots. -/
theorem isDoubleDot_formEncode {text : List Char} :
    isDoubleDot (formEncode text) = true ↔ text = ['.', '.'] := by
  constructor
  · intro h
    obtain ⟨dot, other, hsplit, hdot, hother⟩ := exists_append_of_isDoubleDot h
    have hbytes := formDecode_formEncode text
    rw [hsplit, formDecode_of_isSingleDot hdot, ← List.append_nil other,
      formDecode_of_isSingleDot hother] at hbytes
    exact flatMap_utf8_injective hbytes.symm
  · rintro rfl
    decide

/-! ## Joining -/

theorem isDrive_formEncode (text : List Char) : isDrive (formEncode text) = false := by
  rw [← Bool.not_eq_true]
  intro h
  obtain ⟨c, mark, hcode⟩ : ∃ c mark, formEncode text = [c, mark] := by
    unfold isDrive at h
    split at h
    · next c mark hcode => exact ⟨c, mark, hcode⟩
    · exact nomatch h
  rw [hcode, isDrive, Bool.and_eq_true, Bool.or_eq_true, beq_iff_eq, beq_iff_eq] at h
  have hmark : mark ∈ formEncode text := by simp [hcode]
  rcases mem_formEncode hmark with rfl | rfl | hsafe
  · simp at h
  · simp at h
  · rcases h.2 with rfl | rfl <;> exact absurd hsafe (by decide)

/-- A segment that means nothing else is added as it stands. -/
theorem addSegment_of_inert {segment : List Char} (hdouble : isDoubleDot segment = false)
    (hsingle : isSingleDot segment = false) (hdrive : isDrive segment = false)
    (hset : ∀ c ∈ segment, inPathSet c = false) (file last : Bool) (segments : List String) :
    addSegment file last segments segment = segments ++ [String.ofList segment] := by
  rw [addSegment, hdouble, hsingle, hdrive, percentEncode_eq_self hset, Bool.and_false]
  rfl

/-! ## The slash at the end -/

/-- The text of a path with a slash at its end, which is added where it is missing. -/
def withSlash (path : String) : String :=
  if path.toList.getLast? = some '/' then path else path ++ "/"

/-- Whether a slash at the end of the path changes the path in front of it: a file path that has
come to start with a drive is written with a colon. -/
def RenamesDrive (url : Url) : Prop :=
  url.scheme = "file" ∧ ∃ (letter : Char) (rest : List String),
    letter.isAlpha = true ∧ url.path = .segments (String.ofList [letter, '|'] :: rest) ∧
      (String.ofList [letter, '|'] :: rest).getLast? ≠ some ""

/-- The segments of the folder that a path names when a slash stands at its end. -/
def stem (list : List String) : List String :=
  if list.getLast? = some "" then list.dropLast else list

/-- The segments of that folder once the slash has been put there. -/
def folder (scheme : String) (list : List String) : List String :=
  if list.getLast? = some "" then list.dropLast
  else if scheme == "file" then nameDrive list
  else list

theorem withTrailingSlash_eq {url : Url} {list : List String} (hpath : url.path = .segments list) :
    url.withTrailingSlash = { url with path := .segments (folder url.scheme list ++ [""]) } := by
  rw [withTrailingSlash, hpath, folder]
  dsimp only
  split
  · next hlast =>
    rw [List.dropLast_append_getLast? _ hlast, ← hpath]
  · rfl

theorem nameDrive_bar {letter : Char} (h : letter.isAlpha = true) (rest : List String) :
    nameDrive (String.ofList [letter, '|'] :: rest) = String.ofList [letter, ':'] :: rest := by
  rw [nameDrive, String.toList_ofList, isDrive, h]
  rfl

/-- A drive at the top is renamed only where it has a bar. -/
theorem nameDrive_of_forall_ne {top : String}
    (h : ∀ letter : Char, letter.isAlpha = true → top ≠ String.ofList [letter, '|'])
    (rest : List String) : nameDrive (top :: rest) = top :: rest := by
  rw [nameDrive]
  split
  · next hdrive =>
    unfold isDrive at hdrive
    split at hdrive
    · next letter mark htop =>
      have hname : top = String.ofList [letter, mark] := by rw [← htop, String.ofList_toList]
      rw [Bool.and_eq_true, Bool.or_eq_true, beq_iff_eq, beq_iff_eq] at hdrive
      rcases hdrive with ⟨halpha, rfl | rfl⟩
      · rw [htop, hname]
        rfl
      · exact absurd hname (h letter halpha)
    · exact nomatch hdrive
  · rfl

variable {url : Url} {list : List String}

theorem folder_of_not_renamesDrive (hpath : url.path = .segments list) (h : ¬ url.RenamesDrive) :
    folder url.scheme list = stem list := by
  rw [folder, stem]
  split
  · rfl
  · next hlast =>
    split
    · next hfile =>
      cases list with
      | nil => rfl
      | cons top rest =>
        refine nameDrive_of_forall_ne (fun letter halpha htop => h ?_) rest
        exact ⟨eq_of_beq hfile, letter, rest, halpha, htop ▸ hpath, htop ▸ hlast⟩
    · rfl

theorem folder_of_renamesDrive (hpath : url.path = .segments list) (h : url.RenamesDrive) :
    ∃ (letter : Char) (rest : List String), letter.isAlpha = true ∧
      stem list = String.ofList [letter, '|'] :: rest ∧
        folder url.scheme list = String.ofList [letter, ':'] :: rest := by
  obtain ⟨hfile, letter, rest, halpha, hrenamed, hlast⟩ := h
  obtain rfl := UrlPath.segments.inj (hpath.symm.trans hrenamed)
  refine ⟨letter, rest, halpha, if_neg hlast, ?_⟩
  rw [folder, if_neg hlast, if_pos (beq_iff_eq.mpr hfile), nameDrive_bar halpha]

theorem folder_eq_stem_iff (hpath : url.path = .segments list) :
    folder url.scheme list = stem list ↔ ¬ url.RenamesDrive := by
  refine ⟨fun heq hrenames => ?_, folder_of_not_renamesDrive hpath⟩
  obtain ⟨letter, rest, -, hstem, hfolder⟩ := folder_of_renamesDrive hpath hrenames
  rw [hstem, hfolder] at heq
  have hmarks := String.ofList_injective (List.cons.inj heq).1
  exact absurd hmarks (by simp)

theorem length_folder (hpath : url.path = .segments list) :
    (folder url.scheme list).length = (stem list).length := by
  by_cases h : url.RenamesDrive
  · obtain ⟨letter, rest, -, hstem, hfolder⟩ := folder_of_renamesDrive hpath h
    rw [hstem, hfolder, List.length_cons, List.length_cons]
  · rw [folder_of_not_renamesDrive hpath h]

/-! ## The path in front -/

theorem mem_of_mem_stem {segment : String} (h : segment ∈ stem list) : segment ∈ list := by
  rw [stem] at h
  split at h
  · exact List.mem_of_mem_dropLast h
  · exact h

theorem not_mem_of_mem_folder (hpath : url.path = .segments list)
    (h : ∀ segment ∈ list, '/' ∉ segment.toList) :
    ∀ segment ∈ folder url.scheme list, '/' ∉ segment.toList := by
  by_cases hrenames : url.RenamesDrive
  · obtain ⟨letter, rest, halpha, hstem, hfolder⟩ := folder_of_renamesDrive hpath hrenames
    intro segment hmem
    rw [hfolder, List.mem_cons] at hmem
    rcases hmem with rfl | hmem
    · rw [String.toList_ofList, List.mem_cons, List.mem_singleton]
      rintro (rfl | hcolon)
      · exact absurd halpha (by decide)
      · exact absurd hcolon (by decide)
    · exact h segment (mem_of_mem_stem (hstem ▸ List.mem_cons_of_mem _ hmem))
  · rw [folder_of_not_renamesDrive hpath hrenames]
    exact fun segment hmem => h segment (mem_of_mem_stem hmem)

/-- The text of the folder is the text of the path with a slash at its end. -/
theorem text_stem (h : ∀ segment ∈ list, '/' ∉ segment.toList) :
    UrlPath.text (.segments (stem list ++ [""])) = withSlash (UrlPath.text (.segments list)) := by
  rw [stem]
  split
  · next hlast =>
    rw [List.dropLast_append_getLast? _ hlast, withSlash, if_pos]
    rw [← List.dropLast_append_getLast? _ hlast, text_segments_append, text_segments_singleton,
      String.toList_append]
    simp
  · next hlast =>
    rw [withSlash, if_neg, text_segments_append, text_segments_singleton, String.append_empty]
    rcases List.eq_nil_or_concat list with rfl | ⟨front, last, rfl⟩
    · decide
    · rw [List.concat_eq_append] at h hlast
      rw [List.getLast?_concat, Option.some.injEq] at hlast
      have hne : last.toList ≠ [] := fun hnil => hlast (String.toList_eq_nil_iff.mp hnil)
      rw [List.concat_eq_append, text_segments_append, text_segments_singleton,
        String.toList_append, String.toList_append, ← List.append_assoc,
        List.getLast?_append_of_ne_nil _ hne]
      intro hslash
      exact h last (by simp) (List.mem_of_getLast? hslash)

/-- The folder of a file does not start with an empty segment. -/
theorem IsNormal.folder_ne (hpath : url.path = .segments list) (h : IsNormal url.scheme list)
    (hfile : url.scheme = "file") (rest : List String) : folder url.scheme list ≠ "" :: rest := by
  intro heq
  by_cases hrenames : url.RenamesDrive
  · obtain ⟨letter, _, -, -, hfolder⟩ := folder_of_renamesDrive hpath hrenames
    rw [hfolder] at heq
    have hname := congrArg String.toList (List.cons.inj heq).1
    rw [String.toList_ofList] at hname
    exact nomatch hname
  · rw [folder_of_not_renamesDrive hpath hrenames, stem] at heq
    split at heq
    · next hlast =>
      have hlist := List.dropLast_append_getLast? _ hlast
      rw [heq] at hlist
      obtain ⟨next, behind, hrest⟩ := List.exists_cons_of_ne_nil (l := rest ++ [""]) (by simp)
      exact h.front hfile next behind (hlist.symm.trans (congrArg ("" :: ·) hrest))
    · next hlast =>
      cases rest with
      | nil => exact hlast (by rw [heq]; rfl)
      | cons next rest => exact h.front hfile next rest heq

theorem IsNormal.settle_folder (hpath : url.path = .segments list) (h : IsNormal url.scheme list)
    {first : String} (hfirst : first ≠ "") (rest : List String) :
    settle url.scheme (folder url.scheme list ++ first :: rest)
      = folder url.scheme list ++ first :: rest := by
  rw [settle]
  split
  · next hfile =>
    refine trimFront_eq_self fun next behind heq => ?_
    rcases List.append_eq_cons_iff.mp heq with ⟨-, hcons⟩ | ⟨front, hfolder, -⟩
    · exact hfirst (List.cons.inj hcons).1
    · exact h.folder_ne hpath (eq_of_beq hfile) front hfolder
  · rfl

end Stencil.Url
