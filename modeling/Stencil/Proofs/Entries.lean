import Mathlib
import Stencil.Entries

/-!
# Looking up entries

What is found under a name after entries have been put in, and when entries are kept as they are.
-/

namespace Stencil

namespace Entries

theorem get?_cons (first : String × α) (rest : List (String × α)) (other : String) :
    get? (first :: rest) other = if first.1 = other then some first.2 else get? rest other := by
  by_cases hfirst : first.1 = other
  · rw [get?, List.find?_cons_of_pos (by simpa using hfirst), if_pos hfirst]
    rfl
  · rw [get?, List.find?_cons_of_neg (by simpa using hfirst), if_neg hfirst]
    rfl

theorem get?_eq_none_iff {entries : List (String × α)} {name : String} :
    get? entries name = none ↔ name ∉ entries.map (·.1) := by
  rw [get?, Option.map_eq_none_iff, List.find?_eq_none]
  constructor
  · intro h hmem
    obtain ⟨entry, hentry, rfl⟩ := List.mem_map.mp hmem
    exact h entry hentry (beq_self_eq_true _)
  · intro h entry hentry heq
    exact h (List.mem_map.mpr ⟨entry, hentry, beq_iff_eq.mp heq⟩)

theorem exists_get?_iff {entries : List (String × α)} {name : String} :
    (∃ value, get? entries name = some value) ↔ name ∈ entries.map (·.1) := by
  rw [← Option.ne_none_iff_exists', Ne, get?_eq_none_iff, not_not]

theorem mem_of_get? {entries : List (String × α)} {name : String} {value : α}
    (h : get? entries name = some value) : (name, value) ∈ entries := by
  obtain ⟨entry, hfind, rfl⟩ := Option.map_eq_some_iff.mp h
  have hname : entry.1 = name := by simpa using List.find?_some hfind
  exact hname ▸ List.mem_of_find?_eq_some hfind

/-- Where no name comes twice, an entry is what stands under its name. -/
theorem get?_of_mem {entries : List (String × α)} (h : (entries.map (·.1)).Nodup) {name : String}
    {value : α} (hmem : (name, value) ∈ entries) : get? entries name = some value := by
  induction entries with
  | nil => cases hmem
  | cons first rest ih =>
    rw [List.map_cons, List.nodup_cons] at h
    rw [get?_cons]
    rcases List.mem_cons.mp hmem with rfl | hmem
    · exact if_pos rfl
    · have hne : first.1 ≠ name := fun heq =>
        h.1 (List.mem_map.mpr ⟨(name, value), hmem, heq.symm⟩)
      rw [if_neg hne]
      exact ih h.2 hmem

/-- In increasing order, what stands under a name is the only entry of that name. -/
theorem get?_eq_some_iff {entries : List (String × α)} (h : Increasing entries) {name : String}
    {value : α} : get? entries name = some value ↔ (name, value) ∈ entries :=
  ⟨mem_of_get?, get?_of_mem ((List.pairwise_map.mpr h).imp String.ne_of_lt)⟩

/-- The first entry whose name is of a kind is what stands under its name. -/
theorem get?_of_find? {p : String → Bool} {entries : List (String × α)} {entry : String × α}
    (h : entries.find? (p ·.1) = some entry) : get? entries entry.1 = some entry.2 := by
  induction entries with
  | nil => cases h
  | cons first rest ih =>
    rw [List.find?_cons] at h
    rw [get?_cons]
    split at h
    · obtain rfl := Option.some.inj h
      exact if_pos rfl
    · next hfirst =>
      have hentry : p entry.1 = true := by simpa using List.find?_some h
      have hne : first.1 ≠ entry.1 := by
        intro heq
        rw [heq, hentry] at hfirst
        cases hfirst
      rw [if_neg hne]
      exact ih h

/-- Under the name of an entry that is put in stands its value; nothing else changes. -/
theorem get?_insert (name : String) (value : α) (entries : List (String × α)) (other : String) :
    get? (insert name value entries) other
      = if other = name then some value else get? entries other := by
  induction entries with
  | nil =>
    rw [insert, get?_cons]
    exact if_congr eq_comm rfl rfl
  | cons first rest ih =>
    rw [insert]
    split
    · rw [get?_cons]
      exact if_congr eq_comm rfl rfl
    · split
      · next heq =>
        rw [get?_cons, get?_cons, ← heq]
        by_cases hname : name = other
        · rw [if_pos hname, if_pos hname.symm]
        · rw [if_neg hname, if_neg (Ne.symm hname), if_neg hname]
      · next hne =>
        rw [get?_cons, get?_cons, ih]
        by_cases hfirst : first.1 = other
        · have hother : other ≠ name := fun heq => hne (heq.symm.trans hfirst.symm)
          rw [if_pos hfirst, if_pos hfirst, if_neg hother]
        · rw [if_neg hfirst, if_neg hfirst]

/-- Putting an entry behind all others. -/
theorem insert_of_forall_lt {name : String} {value : α} {entries : List (String × α)}
    (h : ∀ entry ∈ entries, entry.1 < name) :
    insert name value entries = entries ++ [(name, value)] := by
  induction entries with
  | nil => rfl
  | cons first rest ih =>
    have hfirst : first.1 < name := h first List.mem_cons_self
    rw [insert, if_neg (String.lt_asymm hfirst), if_neg (fun heq => by
      rw [heq] at hfirst
      exact String.lt_irrefl _ hfirst),
      ih fun entry hentry => h entry (List.mem_cons_of_mem _ hentry), List.cons_append]

/-- Entries that are in order stay as they are. -/
theorem ofList_of_increasing {entries : List (String × α)}
    (h : Increasing entries) : ofList entries = entries := by
  have hfold : ∀ (entries sorted : List (String × α)), Increasing (sorted ++ entries) →
      entries.foldl (fun sorted entry => insert entry.1 entry.2 sorted) sorted
        = sorted ++ entries := by
    intro entries
    induction entries with
    | nil =>
      intro sorted _
      rw [List.foldl_nil, List.append_nil]
    | cons entry entries ih =>
      intro sorted hsorted
      have hlt : ∀ other ∈ sorted, other.1 < entry.1 := fun other hother =>
        (List.pairwise_append.mp hsorted).2.2 other hother entry List.mem_cons_self
      rw [List.foldl_cons, insert_of_forall_lt hlt, ih] <;>
        simp only [List.append_assoc, List.singleton_append]
      exact hsorted
  exact hfold entries [] h

/-- Entries with the same names have them in the same order. -/
theorem map_fst_eq {entries : List (String × α)} {others : List (String × β)}
    (h : Increasing entries) (hothers : Increasing others)
    (hnames : ∀ name, name ∈ entries.map (·.1) ↔ name ∈ others.map (·.1)) :
    entries.map (·.1) = others.map (·.1) := by
  have hnamed : (entries.map (·.1)).Pairwise (· < ·) := List.pairwise_map.mpr h
  have hnamed' : (others.map (·.1)).Pairwise (· < ·) := List.pairwise_map.mpr hothers
  exact hnamed.eq_of_mem_iff hnamed' hnames

end Entries

namespace Dictionary

theorem get?_insert (d : Dictionary α) (name : String) (value : α) (other : String) :
    (d.insert name value).get? other = if other = name then some value else d.get? other :=
  Entries.get?_insert name value d.entries other

theorem mem_names_iff {d : Dictionary α} {name : String} :
    name ∈ d.names ↔ ∃ value, d.get? name = some value :=
  Entries.exists_get?_iff.symm

/-- A dictionary is told by what stands under the names. -/
theorem ext_get? {d e : Dictionary α} (h : ∀ name, d.get? name = e.get? name) : d = e := by
  have : Std.Irrefl fun entry other : String × α => entry.1 < other.1 :=
    ⟨fun entry => String.lt_irrefl entry.1⟩
  have : Std.Antisymm fun entry other : String × α => entry.1 < other.1 :=
    ⟨fun entry other hlt hgt => absurd hgt (String.lt_asymm hlt)⟩
  refine Dictionary.ext (List.Pairwise.eq_of_mem_iff d.increasing e.increasing fun entry => ?_)
  rw [← Entries.get?_eq_some_iff d.increasing, ← Entries.get?_eq_some_iff e.increasing]
  exact Eq.congr_left (h entry.1)

/-- A dictionary is made of its entries. -/
theorem ofList_entries (d : Dictionary α) : ofList d.entries = d := by
  have hfold : ∀ (entries : List (String × α)) (e : Dictionary α),
      (entries.foldl (fun d entry => d.insert entry.1 entry.2) e).entries
        = entries.foldl (fun sorted entry => Entries.insert entry.1 entry.2 sorted) e.entries := by
    intro entries
    induction entries with
    | nil => exact fun e => rfl
    | cons entry entries ih => exact fun e => ih (e.insert entry.1 entry.2)
  exact Dictionary.ext ((hfold d.entries empty).trans (Entries.ofList_of_increasing d.increasing))

/-- In a dictionary that was made of entries stands the last one of each name. -/
theorem get?_ofList (entries : List (String × α)) (name : String) :
    (ofList entries).get? name = Entries.get? entries.reverse name := by
  induction entries using List.reverseRecOn with
  | nil => rfl
  | append_singleton entries entry ih =>
    have hlast : ofList (entries ++ [entry]) = (ofList entries).insert entry.1 entry.2 :=
      List.foldl_append
    rw [hlast, get?_insert, List.reverse_concat, Entries.get?_cons, ih]
    exact if_congr eq_comm rfl rfl

/-- What stands in a dictionary is one of the entries it was made of. -/
theorem mem_of_get?_ofList {entries : List (String × α)} {name : String} {value : α}
    (h : (ofList entries).get? name = some value) : (name, value) ∈ entries := by
  rw [get?_ofList] at h
  exact List.mem_reverse.mp (Entries.mem_of_get? h)

/-- Something stands under every name of the entries that a dictionary was made of. -/
theorem exists_get?_ofList {entries : List (String × α)} {name : String}
    (h : name ∈ entries.map (·.1)) : ∃ value, (ofList entries).get? name = some value := by
  rw [get?_ofList, Entries.exists_get?_iff, List.map_reverse]
  exact List.mem_reverse.mpr h

end Dictionary

end Stencil
