/-!
# Bracketed groups

A group runs from an opening to the matching closing character. Characters between double quotes
do not count, and between quotes a backslash takes the next character with it, so a quote or a
bracket in a string ends nothing.
-/

namespace Stencil.Markup

/-- Where a character stands with respect to string literals. -/
inductive Quoting where
  /-- Outside all strings. -/
  | outside
  /-- Inside a string. -/
  | inside
  /-- Inside a string, after a backslash. -/
  | escaped
deriving DecidableEq, Repr

/-- How a character moves in and out of string literals. -/
def Quoting.next : Quoting → Char → Quoting
  | .outside, c => if c = '"' then .inside else .outside
  | .inside, c => if c = '\\' then .escaped else if c = '"' then .outside else .inside
  | .escaped, _ => .inside

/-- Reads a group whose opening character has been read: what stands up to the closing character
and what follows it. `depth` counts the groups that have been opened inside it. -/
def readGroup (opening closing : Char) (depth : Nat) (quoting : Quoting) :
    List Char → Option (List Char × List Char)
  | [] => none
  | c :: rest =>
    if quoting = .outside ∧ c = closing then
      match depth with
      | 0 => some ([], rest)
      | depth + 1 =>
        (readGroup opening closing depth .outside rest).map fun (inner, after) =>
          (c :: inner, after)
    else
      (readGroup opening closing (if quoting = .outside ∧ c = opening then depth + 1 else depth)
        (quoting.next c) rest).map fun (inner, after) => (c :: inner, after)

/-- The inside of a group that starts at the front of a text, and what follows it. -/
def group? (opening closing : Char) (text : List Char) : Option (List Char × List Char) :=
  readGroup opening closing 0 .outside text

/-- A group and what follows it make up the text. -/
theorem eq_of_readGroup {opening closing : Char} {depth : Nat} {quoting : Quoting}
    {text inner after : List Char}
    (h : readGroup opening closing depth quoting text = some (inner, after)) :
    text = inner ++ closing :: after := by
  fun_induction readGroup opening closing depth quoting text generalizing inner with
  | case1 => simp at h
  | case2 quoting c rest hclose =>
    obtain ⟨rfl, rfl⟩ : [] = inner ∧ rest = after := by simpa using h
    simp [hclose.2]
  | case3 quoting c rest hclose _ ih =>
    simp only [Option.map_eq_some_iff, Prod.mk.injEq, Prod.exists] at h
    obtain ⟨tail, rest', hread, rfl, rfl⟩ := h
    simp [ih hread]
  | case4 _ _ c rest _ ih =>
    simp only [Option.map_eq_some_iff, Prod.mk.injEq, Prod.exists] at h
    obtain ⟨tail, rest', hread, rfl, rfl⟩ := h
    simp [ih hread]

/-- Reading a group takes its closing character off the text at least. -/
theorem length_of_readGroup {opening closing : Char} {depth : Nat} {quoting : Quoting}
    {text inner after : List Char}
    (h : readGroup opening closing depth quoting text = some (inner, after)) :
    after.length < text.length := by
  rw [eq_of_readGroup h]
  simp only [List.length_append, List.length_cons]
  omega

end Stencil.Markup
