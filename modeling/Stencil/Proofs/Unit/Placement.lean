import Mathlib
import Stencil.Proofs.Unit.Knowledge

/-!
# The lines that diagnostics stand in

The lines of a source are read from the first to the last, and what is found in a line is put behind
what has been found before. So diagnostics come in the order of their lines, behind those of
modules, which have no line: `Draft.arePlaced_readLine` says so for one line,
`Draft.arePlaced_readLines` for all of them. What is missing at the end is told with the last line.
A source without lines has no last line, and its end is told with the line zero (`places_of_build`).
-/

namespace Stencil.Unit

open Text

variable {first last line : Nat}

/-- Whether a diagnostic that stands in one place may be told before one that stands in another:
what has no line comes first, and lines come in their order. -/
def Precedes : Option Nat → Option Nat → Prop
  | none, _ => True
  | some _, none => False
  | some line, some later => line ≤ later

/-- Whether places are in order and every line among them is one from the first up to the last. -/
structure ArePlaced (first last : Nat) (places : List (Option Nat)) : Prop where
  /-- What has no line comes first, and lines come in their order. -/
  ordered : places.Pairwise Precedes
  /-- Every line is one of the given ones. -/
  within : ∀ line, some line ∈ places → first ≤ line ∧ line ≤ last

/-- Places without a line are in order, whatever the lines are. -/
theorem arePlaced_of_eq_none {places : List (Option Nat)} (h : ∀ place ∈ places, place = none) :
    ArePlaced first last places where
  ordered := by
    apply List.pairwise_of_forall_mem_list
    intro place hplace other _
    rw [h place hplace]
    trivial
  within := by
    intro line hline
    cases h _ hline

/-- A line that is not before the others may be told behind them, any number of times. -/
theorem ArePlaced.append {places noted : List (Option Nat)} (h : ArePlaced first last places)
    (hfirst : first ≤ line) (hlast : last ≤ line) (hnoted : ∀ place ∈ noted, place = some line) :
    ArePlaced first line (places ++ noted) where
  ordered := by
    rw [List.pairwise_append]
    refine ⟨h.ordered, ?_, ?_⟩
    · apply List.pairwise_of_forall_mem_list
      intro place hplace other hother
      rw [hnoted place hplace, hnoted other hother]
      exact le_refl line
    · intro place hplace other hother
      rw [hnoted other hother]
      cases place with
      | none => trivial
      | some earlier =>
        show earlier ≤ line
        have := h.within earlier hplace
        omega
  within := by
    intro other hother
    rcases List.mem_append.mp hother with hother | hother
    · have := h.within other hother
      omega
    · obtain rfl := Option.some.inj (hnoted _ hother)
      omega

/-! ## Drafts -/

namespace Draft

variable {draft : Draft} {before : Nat}

/-- The places of what has been found. -/
def places (draft : Draft) : List (Option Nat) :=
  draft.findings.map (·.line)

/-- What is noted for a line keeps the places in order if the line is not before them. -/
theorem arePlaced_noted {noted : Draft} {problems : List Problem}
    (hnoted : noted.findings = draft.findings ++ problems.map (⟨some line, ·⟩))
    (h : ArePlaced first last draft.places) (hfirst : first ≤ line) (hlast : last ≤ line) :
    ArePlaced first line noted.places := by
  rw [places, hnoted, List.map_append, List.map_map]
  apply h.append hfirst hlast
  intro place hplace
  obtain ⟨problem, -, rfl⟩ := List.mem_map.mp hplace
  rfl

theorem arePlaced_readLine (types : TypeTable) (h : ArePlaced first before draft.places)
    (hfirst : first ≤ before + 1) (text : List Char) :
    ArePlaced first (before + 1) (draft.readLine types (before + 1) text).places := by
  rw [readLine]
  split
  · exact ⟨h.ordered, fun line hline => by have := h.within line hline; omega⟩
  · next statement _ =>
    obtain ⟨problems, hproblems⟩ :=
      exists_findings_readStatement types draft (before + 1) statement
    exact arePlaced_noted hproblems h hfirst (Nat.le_succ before)

/-- Reading lines one after the other keeps the places in order. -/
theorem arePlaced_readLines (types : TypeTable) (h : ArePlaced first before draft.places)
    (hfirst : first ≤ before + 1) (texts : List (List Char)) :
    ArePlaced first (before + texts.length) (draft.readLines types before texts).places := by
  induction texts generalizing draft before with
  | nil => exact h
  | cons text texts ih =>
    have hrest := ih (arePlaced_readLine types h hfirst text) (by omega)
    rw [Nat.add_right_comm] at hrest
    exact hrest

/-- The end of a source is told with its last line. -/
theorem arePlaced_finish {lineCount : Nat} (h : ArePlaced first lineCount draft.places)
    (hfirst : first ≤ lineCount) :
    ArePlaced first lineCount (draft.finish lineCount).places := by
  rw [finish]
  split
  · exact h
  · exact arePlaced_noted rfl h hfirst (le_refl lineCount)
  · exact arePlaced_noted rfl h hfirst (le_refl lineCount)
  · exact arePlaced_noted rfl h hfirst (le_refl lineCount)

/-- If the findings that come first have no line, the places of a whole source are in order. There
is no line zero among them unless the source has no lines. -/
theorem arePlaced_ofSource {findings : List Finding} (hfindings : ∀ f ∈ findings, f.line = none)
    (types : TypeTable) (source : List Char) :
    ArePlaced (min 1 (lines source).length) (lines source).length
      (ofSource types findings source).places := by
  have hstart : ArePlaced (min 1 (lines source).length) 0 (start findings).places := by
    apply arePlaced_of_eq_none
    intro place hplace
    obtain ⟨finding, hfinding, rfl⟩ := List.mem_map.mp hplace
    exact hfindings finding hfinding
  have hlines := arePlaced_readLines types hstart (min_le_left 1 _) (lines source)
  rw [Nat.zero_add] at hlines
  exact arePlaced_finish hlines (min_le_right 1 _)

end Draft

/-! ## Compilations -/

variable {source : String} {references : References} {diagnostics : List Diagnostic}

theorem places_draftOf (h : build source references = .error (.compilation diagnostics)) :
    (draftOf source references).places = diagnostics.map (·.line) := by
  have hdiagnostics := diagnosticsOf_build source references
  rw [h, diagnosticsOf] at hdiagnostics
  rw [hdiagnostics, List.map_map]
  rfl

theorem arePlaced_draftOf (source : String) (references : References) :
    ArePlaced (min 1 (lines source.toList).length) (lines source.toList).length
      (draftOf source references).places := by
  apply Draft.arePlaced_ofSource
  intro finding hfinding
  obtain ⟨entry, -, rfl⟩ := List.mem_map.mp hfinding
  rfl

/-- The end of a source without lines is told with the line zero. -/
theorem zero_mem_places_draftOf (references : References) :
    some 0 ∈ (draftOf "" references).places :=
  List.mem_map_of_mem (List.mem_append_right _ (List.mem_singleton_self _))

/-- Diagnostics stand in the lines of the source and come in their order, behind the ones that have
no line. Each line is counted from one, except that an empty source is told to lack its instructions
in the line zero, which it does not have. -/
theorem places_of_build (h : build source references = .error (.compilation diagnostics)) :
    let places := diagnostics.map (·.line)
    places.Pairwise Precedes
      ∧ (∀ line, some line ∈ places → line ≤ (lines source.toList).length)
      ∧ ((∀ line, some line ∈ places → 1 ≤ line) ↔ source ≠ "") := by
  intro places
  have hplaces : (draftOf source references).places = places := places_draftOf h
  have hplaced := arePlaced_draftOf source references
  rw [hplaces] at hplaced
  refine ⟨hplaced.ordered, fun line hline => (hplaced.within line hline).2, ?_⟩
  constructor
  · rintro hone rfl
    have hzero := zero_mem_places_draftOf references
    rw [hplaces] at hzero
    exact absurd (hone 0 hzero) (by decide)
  · intro hsource line hline
    have hlines : (lines source.toList).length ≠ 0 := by
      rw [Ne, List.length_eq_zero_iff, lines_eq_nil_iff, String.toList_eq_nil_iff]
      exact hsource
    have := hplaced.within line hline
    omega

/-- With a module that cannot be read, a unit without a name and two words that start no statement,
the end of the source is missing in its fourth line, which a blank line is counted for. The end of
the empty source is missing in the line zero. -/
theorem exists_places_of_build :
    ∃ references diagnostics others,
      build "unit\n\nrender\nwrite y" references = .error (.compilation diagnostics)
        ∧ diagnostics.map (·.line) = [none, some 1, some 3, some 4, some 4]
        ∧ (diagnostics.map (·.line)).Pairwise Precedes
        ∧ build "" references = .error (.compilation others)
        ∧ others.map (·.line) = [none, some 0]
        ∧ ¬ ∀ line, some line ∈ others.map (·.line) → 1 ≤ line := by
  let references : References := (∅ : References).insert "broken" ByteArray.empty
  have hbuild : ∀ source, (draftOf source references).findings ≠ [] →
      build source references
        = .error (.compilation ((draftOf source references).findings.map Finding.diagnostic)) := by
    intro source hfindings
    rw [build, compile_eq_error_iff.mpr ⟨hfindings, rfl⟩]
  have hsome := hbuild "unit\n\nrender\nwrite y" (by decide +kernel)
  have hempty := hbuild "" (by decide +kernel)
  obtain ⟨hordered, -, -⟩ := places_of_build hsome
  obtain ⟨-, -, hone⟩ := places_of_build hempty
  exact ⟨references, _, _, hsome, by decide +kernel, hordered, hempty, by decide +kernel,
    fun h => hone.mp h rfl⟩

end Stencil.Unit
