import Mathlib
import Stencil.Module.Remote
import Stencil.Proofs.Url.Joining

/-!
# Where modules are fetched from

The URL of a module is the base with a path that is two folders and a name longer (`moduleUrl_eq`).
The name is the module in form encoding, which leaves dots as they are: the modules `.` and `..` are
read as steps and lose their names. All other modules keep theirs, and two modules share a URL only
where neither has a name in it (`moduleUrl_faithful_iff`).
-/

namespace Stencil.Remote

/-! ## Where a module is joined -/

/-- The segments that a module adds to the folder of the base. -/
def landing (module : String) : List String :=
  if module = ".." then ["_framework", ""]
  else if module = "." then ["_framework", "_bin", ""]
  else ["_framework", "_bin", String.ofList (Url.formEncode module.toList)]

theorem isSlash_of_mem_formEncode (special : Bool) (module : String) :
    ∀ c ∈ Url.formEncode module.toList, Url.isSlash special c = false := by
  intro c hc
  obtain ⟨-, hslash, hback⟩ := Url.inert_of_mem_formEncode hc
  simp [Url.isSlash, hslash, hback]

/-- The folders on the way are their own form encodings. -/
theorem formEncode_framework : Url.formEncode "_framework".toList = "_framework".toList := by
  decide +kernel

theorem formEncode_bin : Url.formEncode "_bin".toList = "_bin".toList := by
  decide +kernel

theorem splitSlashes_relativePath (special : Bool) (module : String) :
    Url.splitSlashes special (relativePath module)
      = ["_framework".toList, "_bin".toList, Url.formEncode module.toList] := by
  have hfront := formEncode_framework ▸ isSlash_of_mem_formEncode special "_framework"
  have hbin := formEncode_bin ▸ isSlash_of_mem_formEncode special "_bin"
  calc Url.splitSlashes special (relativePath module)
      = Text.splitWhere (Url.isSlash special)
          ("_framework".toList ++ '/' :: ("_bin".toList ++ '/' :: Url.formEncode module.toList)) :=
        rfl
    _ = "_framework".toList :: Text.splitWhere (Url.isSlash special)
          ("_bin".toList ++ '/' :: Url.formEncode module.toList) :=
        Text.splitWhere_append_cons hfront rfl _
    _ = _ := by
        rw [Text.splitWhere_append_cons hbin rfl,
          Text.splitWhere_of_forall (isSlash_of_mem_formEncode special module)]

theorem isSingleDot_formEncode_iff {module : String} :
    Url.isSingleDot (Url.formEncode module.toList) = true ↔ module = "." := by
  rw [Url.isSingleDot_formEncode, ← String.toList_inj]
  rfl

theorem isDoubleDot_formEncode_iff {module : String} :
    Url.isDoubleDot (Url.formEncode module.toList) = true ↔ module = ".." := by
  rw [Url.isDoubleDot_formEncode, ← String.toList_inj]
  rfl

/-- The form encoding of a name that is no step is added to a path as it stands. -/
theorem addSegment_formEncode {module : String} (hsingle : module ≠ ".") (hdouble : module ≠ "..")
    (file last : Bool) (segments : List String) :
    Url.addSegment file last segments (Url.formEncode module.toList)
      = segments ++ [String.ofList (Url.formEncode module.toList)] := by
  refine Url.addSegment_of_inert ?_ ?_ (Url.isDrive_formEncode _) ?_ file last segments
  · rwa [← Bool.not_eq_true, isDoubleDot_formEncode_iff]
  · rwa [← Bool.not_eq_true, isSingleDot_formEncode_iff]
  · exact fun c hc => (Url.inert_of_mem_formEncode hc).1

theorem above_bin (segments : List String) :
    Url.above (segments ++ ["_framework", "_bin"]) = segments ++ ["_framework"] := by
  have hdrive : ¬ Url.startsWithDrive "_bin".toList = true := by decide
  have hsplit :
      segments ++ ["_framework", "_bin"] = (segments ++ ["_framework"]).concat "_bin" := by
    simp
  rw [hsplit, Url.above, List.concat_eq_append, List.getLast?_concat]
  dsimp only
  rw [if_neg hdrive, List.dropLast_concat]

/-- From any folder the relative path of a module leads to the segments of the module. -/
theorem walk_relativePath (scheme : String) (segments : List String) (module : String) :
    Url.walk scheme segments (relativePath module) = segments ++ landing module := by
  have hfront (file : Bool) : Url.addSegment file false segments "_framework".toList
      = segments ++ ["_framework"] := by
    have hadded := addSegment_formEncode (by decide : "_framework" ≠ ".") (by decide) file false
      segments
    rwa [formEncode_framework] at hadded
  have hbin (file : Bool) : Url.addSegment file false (segments ++ ["_framework"]) "_bin".toList
      = segments ++ ["_framework", "_bin"] := by
    have hadded := addSegment_formEncode (by decide : "_bin" ≠ ".") (by decide) file false
      (segments ++ ["_framework"])
    rwa [formEncode_bin, List.append_assoc] at hadded
  rw [Url.walk, splitSlashes_relativePath]
  change Url.addSegment _ true (Url.addSegment _ false (Url.addSegment _ false segments _) _) _ = _
  rw [hfront, hbin, landing]
  split
  · next hdouble =>
    rw [Url.addSegment, if_pos (isDoubleDot_formEncode_iff.mpr hdouble), above_bin]
    simp
  · next hdouble =>
    split
    · next hsingle =>
      rw [Url.addSegment, if_neg (mt isDoubleDot_formEncode_iff.mp hdouble),
        if_pos (isSingleDot_formEncode_iff.mpr hsingle)]
      simp
    · next hsingle =>
      rw [addSegment_formEncode hsingle hdouble]
      simp

/-- No segment that a module adds holds a slash. -/
theorem not_mem_of_mem_landing (module : String) :
    ∀ segment ∈ landing module, '/' ∉ segment.toList := by
  have hcode : '/' ∉ (String.ofList (Url.formEncode module.toList)).toList := by
    rw [String.toList_ofList]
    exact fun hslash => (Url.inert_of_mem_formEncode hslash).2.1 rfl
  rw [landing]
  split
  · decide
  · split
    · decide
    · simpa using hcode

theorem landing_eq_iff_not_step {module : String} :
    landing module = ["_framework", "_bin", String.ofList (Url.formEncode module.toList)]
      ↔ module ≠ "." ∧ module ≠ ".." := by
  rw [landing]
  split
  · next hdouble => simp [hdouble]
  · next hdouble =>
    split
    · next hsingle =>
      subst hsingle
      decide
    · next hsingle => simp [hsingle, hdouble]

theorem ofList_formEncode_eq_iff (module other : String) :
    String.ofList (Url.formEncode module.toList) = String.ofList (Url.formEncode other.toList)
      ↔ module = other := by
  rw [String.ofList_inj, Url.formEncode_injective.eq_iff, String.toList_inj]

/-- Two modules add the same segments only where neither adds a name. -/
theorem landing_eq_landing_iff {module other : String} :
    landing module = landing other ↔
      module = other ∨ (module = "" ∨ module = ".") ∧ (other = "" ∨ other = ".") := by
  have hempty : String.ofList (Url.formEncode "".toList) = "" := rfl
  have hmodule := ofList_formEncode_eq_iff module ""
  have hother := ofList_formEncode_eq_iff other ""
  have hboth := ofList_formEncode_eq_iff module other
  rw [hempty] at hmodule hother
  rw [landing, landing]
  split_ifs <;> grind

/-! ## Module URLs -/

/-- The base with the segments of a module behind its folder. -/
def placed (base : Url) (list : List String) (module : String) : Url :=
  { base with
    path := .segments (Url.folder base.scheme list ++ landing module)
    query := none
    fragment := none }

theorem exists_landing_eq (module : String) :
    ∃ next rest, landing module = "_framework" :: next :: rest := by
  rw [landing]
  split_ifs <;> exact ⟨_, _, rfl⟩

section

variable {base : Url} {list : List String}

theorem moduleUrl_eq (hpath : base.path = .segments list)
    (hnormal : Url.IsNormal base.scheme list) {config : Config} {remote : Remote}
    (hremote : new base config = .ok remote) (module : String) :
    remote.moduleUrl module = .ok (placed base list module) := by
  have hbase : remote.base
      = { base with path := .segments (Url.folder base.scheme list ++ [""]) } := by
    rw [new] at hremote
    split at hremote
    · cases hremote
      exact Url.withTrailingSlash_eq hpath
    · exact nomatch hremote
  obtain ⟨next, rest, hlanding⟩ := exists_landing_eq module
  have hsettle := hnormal.settle_folder hpath (by decide : "_framework" ≠ "") (next :: rest)
  rw [← hlanding] at hsettle
  rw [moduleUrl, hbase, Url.below?]
  dsimp only
  rw [List.dropLast_concat, walk_relativePath, hsettle]
  rfl

/-- Whether an authority has to be told apart from the path does not depend on the module. -/
theorem authority_placed (module other : String) :
    (placed base list module).authority = (placed base list other).authority := by
  obtain ⟨next, rest, hmodule⟩ := exists_landing_eq module
  obtain ⟨next', rest', hother⟩ := exists_landing_eq other
  rw [Url.authority, Url.authority, placed, placed, hmodule, hother]
  dsimp only
  cases base.host with
  | some host => rfl
  | none =>
    rcases Url.folder base.scheme list with _ | ⟨first, _ | ⟨second, front⟩⟩
    · rfl
    · by_cases hfirst : first = ""
      · subst hfirst
        rfl
      · simp [hfirst]
    · by_cases hfirst : first = ""
      · subst hfirst
        rfl
      · simp [hfirst]

theorem text_placed (module : String) :
    (placed base list module).text = base.scheme ++ ":" ++ (placed base list module).authority
      ++ Url.UrlPath.text (.segments (Url.folder base.scheme list ++ landing module)) := by
  rw [Url.text, placed]
  simp only [Option.map_none, Option.getD_none, String.append_empty]

/-- The URLs of two modules differ where the modules add different segments. -/
theorem text_placed_eq_iff {module other : String} :
    (placed base list module).text = (placed base list other).text
      ↔ landing module = landing other := by
  refine ⟨fun h => ?_, fun h => by rw [placed, placed, h]⟩
  rw [text_placed, text_placed, authority_placed module other, String.append_right_inj,
    Url.text_segments_append, Url.text_segments_append, String.append_right_inj] at h
  exact Url.eq_of_text_segments_eq (not_mem_of_mem_landing module) (not_mem_of_mem_landing other) h

theorem text_folders (name : String) :
    Url.UrlPath.text (.segments ["_framework", "_bin", name])
      = "/" ++ ("_framework/_bin/" ++ name) := by
  have hfront : "/" ++ "_framework" ++ "/" ++ "_bin" ++ "/" = "/" ++ "_framework/_bin/" := by
    decide +kernel
  rw [Url.text_segments_cons, Url.text_segments_cons, Url.text_segments_singleton]
  simp only [← String.append_assoc]
  rw [hfront]

/-- A module has the documented path unless it is a step or the base is renamed. -/
theorem text_path_placed_eq_iff (hpath : base.path = .segments list)
    (hnormal : Url.IsNormal base.scheme list) (module : String) :
    Url.UrlPath.text (placed base list module).path
        = Url.withSlash (Url.UrlPath.text base.path) ++ "_framework/_bin/"
          ++ String.ofList (Url.formEncode module.toList)
      ↔ module ≠ "." ∧ module ≠ ".." ∧ ¬ base.RenamesDrive := by
  have hdocumented : Url.withSlash (Url.UrlPath.text base.path) ++ "_framework/_bin/"
        ++ String.ofList (Url.formEncode module.toList)
      = Url.UrlPath.text (.segments (Url.stem list
          ++ ["_framework", "_bin", String.ofList (Url.formEncode module.toList)])) := by
    rw [hpath, ← Url.text_stem hnormal.noSlash, Url.text_segments_append,
      Url.text_segments_append, text_folders, Url.text_segments_singleton, String.append_empty,
      String.append_assoc, String.append_assoc]
  rw [hdocumented]
  constructor
  · intro heq
    have hplaced : ∀ segment ∈ Url.folder base.scheme list ++ landing module,
        '/' ∉ segment.toList :=
      List.forall_mem_append.mpr
        ⟨Url.not_mem_of_mem_folder hpath hnormal.noSlash, not_mem_of_mem_landing module⟩
    have hnames : ∀ segment ∈ Url.stem list
        ++ ["_framework", "_bin", String.ofList (Url.formEncode module.toList)],
        '/' ∉ segment.toList := by
      refine List.forall_mem_append.mpr
        ⟨fun segment hmem => hnormal.noSlash segment (Url.mem_of_mem_stem hmem), ?_⟩
      simpa using fun hslash => (Url.inert_of_mem_formEncode hslash).2.1 rfl
    obtain ⟨hfolder, hlanding⟩ := List.append_inj (Url.eq_of_text_segments_eq hplaced hnames heq)
      (Url.length_folder hpath)
    obtain ⟨hsingle, hdouble⟩ := landing_eq_iff_not_step.mp hlanding
    exact ⟨hsingle, hdouble, (Url.folder_eq_stem_iff hpath).mp hfolder⟩
  · rintro ⟨hsingle, hdouble, hrenames⟩
    rw [placed, Url.folder_of_not_renamesDrive hpath hrenames,
      landing_eq_iff_not_step.mpr ⟨hsingle, hdouble⟩]

end

/-- Below a base that is read and is one, every module has a URL. Its path is the path of the base
with a slash at its end, two folders and the module in form encoding, exactly where the module is
neither `.` nor `..` and the slash renames no drive of the base. Two modules have the same URL
exactly where they are the same or both are empty or a dot. -/
theorem moduleUrl_faithful_iff {text : String} {base : Url} (hread : Url.parse? text = some base)
    (hbase : base.cannotBeABase = false) {config : Config} {remote : Remote}
    (hremote : new base config = .ok remote) :
    (∀ module, ∃ url, remote.moduleUrl module = .ok url ∧
      (Url.UrlPath.text url.path
          = Url.withSlash (Url.UrlPath.text base.path) ++ "_framework/_bin/"
            ++ String.ofList (Url.formEncode module.toList)
        ↔ module ≠ "." ∧ module ≠ ".." ∧ ¬ base.RenamesDrive)) ∧
    ∀ module other url url', remote.moduleUrl module = .ok url →
      remote.moduleUrl other = .ok url' →
      (url.text = url'.text ↔
        module = other ∨ (module = "" ∨ module = ".") ∧ (other = "" ∨ other = ".")) := by
  obtain ⟨list, hpath⟩ : ∃ list, base.path = .segments list := by
    rw [Url.cannotBeABase] at hbase
    split at hbase
    · exact nomatch hbase
    · next list hpath => exact ⟨list, hpath⟩
  have hnormal := Url.isNormal_of_parse? hread hpath
  have hurl := moduleUrl_eq hpath hnormal hremote
  constructor
  · exact fun module => ⟨_, hurl module, text_path_placed_eq_iff hpath hnormal module⟩
  · intro module other url url' hmodule hother
    rw [hurl, Except.ok.injEq] at hmodule hother
    rw [← hmodule, ← hother, text_placed_eq_iff, landing_eq_landing_iff]

/-- Below `https://app.example.com/site` the module `.` has the URL of the folder. -/
theorem exists_moduleUrl_dot : ∃ base remote,
    Url.parse? "https://app.example.com/site" = some base ∧ base.cannotBeABase = false ∧
      new base Config.default = .ok remote ∧
      ∃ url, remote.moduleUrl "." = .ok url ∧
        ¬ Url.UrlPath.text url.path = Url.withSlash (Url.UrlPath.text base.path)
          ++ "_framework/_bin/" ++ String.ofList (Url.formEncode ".".toList) := by
  have hread : Url.parse? "https://app.example.com/site" = some
      ⟨"https", "", "", some "app.example.com", none, .segments ["site"], none, none⟩ := by
    decide +kernel
  obtain ⟨remote, hremote⟩ : ∃ remote, new
      ⟨"https", "", "", some "app.example.com", none, .segments ["site"], none, none⟩
      Config.default = .ok remote := ⟨_, rfl⟩
  obtain ⟨url, hurl, hpath⟩ := (moduleUrl_faithful_iff hread rfl hremote).1 "."
  exact ⟨_, remote, hread, rfl, hremote, url, hurl, fun heq => (hpath.mp heq).1 rfl⟩

end Stencil.Remote
