/-!
# Entries under names

Named entries are kept in increasing order of their names, one entry a name. Lists of entries are
what objects of plain data hold; a `Dictionary` carries the proof of its order.
-/

namespace Stencil

namespace Entries

/-- The order of entries: the names increase. -/
def Increasing (entries : List (String × α)) : Prop :=
  entries.Pairwise (·.1 < ·.1)

/-- Puts an entry in its place, in place of an entry of that name. -/
def insert (name : String) (value : α) : List (String × α) → List (String × α)
  | [] => [(name, value)]
  | entry :: rest =>
    if name < entry.1 then (name, value) :: entry :: rest
    else if name = entry.1 then (name, value) :: rest
    else entry :: insert name value rest

/-- The entry under a name. -/
def get? (entries : List (String × α)) (name : String) : Option α :=
  (entries.find? (·.1 == name)).map (·.2)

/-- Entries in increasing order, the last one of each name. -/
def ofList (entries : List (String × α)) : List (String × α) :=
  entries.foldl (fun sorted entry => insert entry.1 entry.2 sorted) []

theorem mem_insert {name : String} {value : α} {entries : List (String × α)} {entry : String × α}
    (h : entry ∈ insert name value entries) : entry = (name, value) ∨ entry ∈ entries := by
  induction entries with
  | nil => exact Or.inl (by simpa [insert] using h)
  | cons first rest ih =>
    simp only [insert] at h
    split at h
    · simpa using h
    · split at h
      · rcases List.mem_cons.mp h with rfl | h
        · exact Or.inl rfl
        · exact Or.inr (List.mem_cons_of_mem _ h)
      · rcases List.mem_cons.mp h with rfl | h
        · exact Or.inr List.mem_cons_self
        · exact (ih h).imp id (List.mem_cons_of_mem _)

/-- Putting an entry in its place keeps the order. -/
theorem increasing_insert {name : String} {value : α} {entries : List (String × α)}
    (h : Increasing entries) : Increasing (insert name value entries) := by
  induction entries with
  | nil => simp [insert, Increasing]
  | cons first rest ih =>
    obtain ⟨hfirst, hrest⟩ := List.pairwise_cons.mp h
    simp only [insert]
    split
    · next hlt =>
      refine List.pairwise_cons.mpr ⟨fun entry hentry => ?_, h⟩
      rcases List.mem_cons.mp hentry with rfl | hentry
      · exact hlt
      · exact String.lt_trans hlt (hfirst entry hentry)
    · next hlt =>
      split
      · next heq =>
        subst heq
        exact List.pairwise_cons.mpr ⟨hfirst, hrest⟩
      · next hne =>
        refine List.pairwise_cons.mpr ⟨fun entry hentry => ?_, ih hrest⟩
        rcases mem_insert hentry with rfl | hentry
        · exact Decidable.byContradiction fun hle =>
            hne (String.le_antisymm (String.not_lt.mp hle) (String.not_lt.mp hlt))
        · exact hfirst entry hentry

end Entries

/-- Entries under names, in increasing order of the names. -/
structure Dictionary (α : Type u) where
  /-- The entries. -/
  entries : List (String × α)
  /-- The names increase, so there is one entry a name. -/
  increasing : Entries.Increasing entries

namespace Dictionary

/-- The dictionary without entries. -/
def empty : Dictionary α where
  entries := []
  increasing := List.Pairwise.nil

instance : EmptyCollection (Dictionary α) := ⟨empty⟩

/-- Puts a value under a name, in place of the value there. -/
def insert (d : Dictionary α) (name : String) (value : α) : Dictionary α where
  entries := Entries.insert name value d.entries
  increasing := Entries.increasing_insert d.increasing

/-- The value under a name. -/
def get? (d : Dictionary α) (name : String) : Option α :=
  Entries.get? d.entries name

/-- Whether there is a value under a name. -/
def contains (d : Dictionary α) (name : String) : Bool :=
  (d.get? name).isSome

/-- The names in increasing order. -/
def names (d : Dictionary α) : List String :=
  d.entries.map (·.1)

/-- The dictionary of the last value of each name. -/
def ofList (entries : List (String × α)) : Dictionary α :=
  entries.foldl (fun d entry => d.insert entry.1 entry.2) empty

@[ext] theorem ext {d e : Dictionary α} (h : d.entries = e.entries) : d = e := by
  cases d
  cases e
  simpa using h

end Dictionary

end Stencil
