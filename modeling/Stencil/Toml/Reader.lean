import Stencil.Decimal.Numeral

/-!
# Settings in TOML

Settings are written in TOML, one scalar under one key on a line. A document with a table, an
array, a date or a number with a fraction is refused as a whole, because no setting is one, and so
is a document that sets a key twice.
-/

namespace Stencil.Toml

/-- A value of a setting. -/
inductive Scalar where
  /-- A text. -/
  | text (value : String)
  /-- A whole number of 64 bits with a sign. -/
  | whole (value : Int)
  /-- A truth value. -/
  | bool (value : Bool)
deriving DecidableEq, Repr

/-! ## Characters -/

/-- Whether a character is a blank within a line. -/
def isSpace (c : Char) : Bool :=
  c == ' ' || c == '\t'

/-- Whether a character may stand in a comment or a literal. -/
def isPlain (c : Char) : Bool :=
  c == '\t' || (32 ≤ c.toNat && c.toNat != 127)

/-- Whether a character may stand in a key without quotes. -/
def isBare (c : Char) : Bool :=
  c.isAlphanum || c == '_' || c == '-'

/-- Drops blanks. -/
def skipSpace (text : List Char) : List Char :=
  text.dropWhile isSpace

/-- What follows a line break at the front of a text. -/
def afterBreak? : List Char → Option (List Char)
  | '\n' :: rest => some rest
  | '\r' :: '\n' :: rest => some rest
  | _ => none

/-- Drops blanks and line breaks. -/
def skipLines : List Char → List Char
  | ' ' :: rest => skipLines rest
  | '\t' :: rest => skipLines rest
  | '\n' :: rest => skipLines rest
  | '\r' :: '\n' :: rest => skipLines rest
  | text => text

/-! ## Texts -/

/-- What a hexadecimal digit counts. -/
def hexValue? (c : Char) : Option Nat :=
  if '0' ≤ c ∧ c ≤ '9' then some (c.toNat - 48)
  else if 'a' ≤ c ∧ c ≤ 'f' then some (c.toNat - 87)
  else if 'A' ≤ c ∧ c ≤ 'F' then some (c.toNat - 55)
  else none

/-- The character of a code point in hexadecimal. -/
def charOfHex? (digits : List Char) : Option Char := do
  let n ← digits.foldlM (fun n c => (hexValue? c).map (n * 16 + ·)) 0
  if n.isValidChar then some (Char.ofNat n) else none

/-- The character that a letter stands for after a backslash. -/
def escaped? : Char → Option Char
  | 'b' => some '\x08'
  | 't' => some '\t'
  | 'n' => some '\n'
  | 'f' => some '\x0c'
  | 'r' => some '\r'
  | '"' => some '"'
  | '\\' => some '\\'
  | _ => none

/-- Reads an escape after its backslash. -/
def readEscape? : List Char → Option (Char × List Char)
  | 'u' :: rest =>
    if rest.length < 4 then none else (charOfHex? (rest.take 4)).map (·, rest.drop 4)
  | 'U' :: rest =>
    if rest.length < 8 then none else (charOfHex? (rest.take 8)).map (·, rest.drop 8)
  | c :: rest => (escaped? c).map (·, rest)
  | [] => none

theorem length_of_readEscape {text rest : List Char} {c : Char}
    (h : readEscape? text = some (c, rest)) : rest.length < text.length := by
  unfold readEscape? at h
  split at h
  · split at h
    · simp at h
    · simp only [Option.map_eq_some_iff, Prod.mk.injEq] at h
      obtain ⟨_, -, -, rfl⟩ := h
      simp only [List.length_drop, List.length_cons]
      omega
  · split at h
    · simp at h
    · simp only [Option.map_eq_some_iff, Prod.mk.injEq] at h
      obtain ⟨_, -, -, rfl⟩ := h
      simp only [List.length_drop, List.length_cons]
      omega
  · simp only [Option.map_eq_some_iff, Prod.mk.injEq] at h
    obtain ⟨_, -, -, rfl⟩ := h
    simp
  · simp at h

/-- Reads a text in double quotes after the opening one. -/
def readBasic (text : List Char) : Option (List Char × List Char) :=
  match text with
  | [] => none
  | '"' :: rest => some ([], rest)
  | '\\' :: rest =>
    match _h : readEscape? rest with
    | none => none
    | some (c, after) => (readBasic after).map fun (text, rest) => (c :: text, rest)
  | c :: rest => if isPlain c then (readBasic rest).map fun (t, r) => (c :: t, r) else none
termination_by text.length
decreasing_by
  · have := length_of_readEscape ‹_›
    simp only [List.length_cons]
    omega
  · simp

/-- Reads a text in single quotes after the opening one. -/
def readLiteral : List Char → Option (List Char × List Char)
  | [] => none
  | '\'' :: rest => some ([], rest)
  | c :: rest => if isPlain c then (readLiteral rest).map fun (t, r) => (c :: t, r) else none

/-- The quotes that stand before three closing ones, at most two. -/
def closing (quote : Char) : List Char → List Char × List Char
  | a :: b :: rest =>
    if a = quote ∧ b = quote then ([a, b], rest)
    else if a = quote then ([a], b :: rest)
    else ([], a :: b :: rest)
  | [a] => if a = quote then ([a], []) else ([], [a])
  | [] => ([], [])

/-- What follows a backslash at the end of a line: the next character that is no blank. -/
def afterContinuation? (text : List Char) : Option (List Char) :=
  (afterBreak? (skipSpace text)).map skipLines

theorem length_skipLines_le (text : List Char) : (skipLines text).length ≤ text.length := by
  fun_induction skipLines text with
  | case1 rest ih => exact Nat.le_succ_of_le ih
  | case2 rest ih => exact Nat.le_succ_of_le ih
  | case3 rest ih => exact Nat.le_succ_of_le ih
  | case4 rest ih => exact Nat.le_succ_of_le (Nat.le_succ_of_le ih)
  | case5 => exact Nat.le_refl _

theorem length_of_afterBreak {text rest : List Char} (h : afterBreak? text = some rest) :
    rest.length < text.length := by
  unfold afterBreak? at h
  split at h <;> simp only [Option.some.injEq, reduceCtorEq] at h
  all_goals
    subst h
    simp only [List.length_cons]
    omega

theorem length_of_afterContinuation {text rest : List Char}
    (h : afterContinuation? text = some rest) : rest.length < text.length := by
  simp only [afterContinuation?, Option.map_eq_some_iff] at h
  obtain ⟨tail, hbreak, rfl⟩ := h
  have := length_of_afterBreak hbreak
  have := length_skipLines_le tail
  have := (List.dropWhile_suffix (l := text) isSpace).length_le
  simp only [skipSpace] at *
  omega

/-- Reads a text of several lines in double quotes after the opening ones. -/
def readBasicLines (text : List Char) : Option (List Char × List Char) :=
  match text with
  | [] => none
  | '"' :: '"' :: '"' :: rest => some (closing '"' rest)
  | '\\' :: rest =>
    match _h : afterContinuation? rest with
    | some after => readBasicLines after
    | none =>
      match _h : readEscape? rest with
      | none => none
      | some (c, after) => (readBasicLines after).map fun (t, r) => (c :: t, r)
  | '\n' :: rest => (readBasicLines rest).map fun (t, r) => ('\n' :: t, r)
  | '\r' :: '\n' :: rest => (readBasicLines rest).map fun (t, r) => ('\n' :: t, r)
  | c :: rest => if isPlain c then (readBasicLines rest).map fun (t, r) => (c :: t, r) else none
termination_by text.length
decreasing_by
  · have := length_of_afterContinuation ‹_›
    simp only [List.length_cons]
    omega
  · have := length_of_readEscape ‹_›
    simp only [List.length_cons]
    omega
  · simp
  · simp only [List.length_cons]
    omega
  · simp

/-- Reads a text of several lines in single quotes after the opening ones. -/
def readLiteralLines : List Char → Option (List Char × List Char)
  | [] => none
  | '\'' :: '\'' :: '\'' :: rest => some (closing '\'' rest)
  | '\n' :: rest => (readLiteralLines rest).map fun (t, r) => ('\n' :: t, r)
  | '\r' :: '\n' :: rest => (readLiteralLines rest).map fun (t, r) => ('\n' :: t, r)
  | c :: rest => if isPlain c then (readLiteralLines rest).map fun (t, r) => (c :: t, r) else none

/-- A text without a line break at its front. -/
def dropBreak (text : List Char) : List Char :=
  (afterBreak? text).getD text

/-- Reads a text in quotes of any kind. -/
def readText : List Char → Option (List Char × List Char)
  | '"' :: '"' :: '"' :: rest => readBasicLines (dropBreak rest)
  | '"' :: rest => readBasic rest
  | '\'' :: '\'' :: '\'' :: rest => readLiteralLines (dropBreak rest)
  | '\'' :: rest => readLiteral rest
  | _ => none

/-! ## Numbers and truth values -/

/-- The digits of a number without the underscores between them. -/
def digits? (isDigit : Char → Bool) : List Char → Option (List Char)
  | [] => none
  | [c] => if isDigit c then some [c] else none
  | c :: '_' :: rest => if isDigit c then (digits? isDigit rest).map (c :: ·) else none
  | c :: rest => if isDigit c then (digits? isDigit rest).map (c :: ·) else none

/-- The number that digits of a base spell. -/
def valueOf (base : Nat) (digits : List Char) : Nat :=
  digits.foldl (fun n c => n * base + (hexValue? c).getD 0) 0

/-- Whether a character is a digit of the base. -/
def isDigitOf (base : Nat) (c : Char) : Bool :=
  (hexValue? c).any (· < base)

/-- A number in another base than ten. -/
def based? (base : Nat) (text : List Char) : Option Int :=
  (digits? (isDigitOf base) text).map fun digits => valueOf base digits

/-- A number in base ten without a sign. A zero does not stand in front of other digits. -/
def decimal? (text : List Char) : Option Nat := do
  let digits ← digits? (isDigitOf 10) text
  if digits.head? = some '0' ∧ 1 < text.length then none else some (valueOf 10 digits)

/-- A whole number in any notation. -/
def whole? (word : List Char) : Option Int := do
  let value : Int ←
    match word with
    | '0' :: 'x' :: rest => based? 16 rest
    | '0' :: 'o' :: rest => based? 8 rest
    | '0' :: 'b' :: rest => based? 2 rest
    | '+' :: rest => (decimal? rest).map Int.ofNat
    | '-' :: rest => (decimal? rest).map fun n => -Int.ofNat n
    | word => (decimal? word).map Int.ofNat
  if Decimal.fitsSigned value then some value else none

/-- The scalar of a word. -/
def ofWord? (word : List Char) : Option Scalar :=
  if word = "true".toList then some (.bool true)
  else if word = "false".toList then some (.bool false)
  else (whole? word).map .whole

/-- Whether a character ends a word. -/
def endsWord (c : Char) : Bool :=
  isSpace c || c == '#' || c == '\n' || c == '\r'

/-- Reads a value. -/
def readValue (text : List Char) : Option (Scalar × List Char) :=
  match text.head? with
  | some '"' | some '\'' =>
    (readText text).map fun (text, rest) => (.text (String.ofList text), rest)
  | _ =>
    (ofWord? (text.takeWhile (!endsWord ·))).map (·, text.dropWhile (!endsWord ·))

/-! ## Documents -/

/-- Reads a key; a key in quotes takes one line. -/
def readKey (text : List Char) : Option (String × List Char) :=
  match text with
  | '"' :: rest => (readBasic rest).map fun (key, rest) => (String.ofList key, rest)
  | '\'' :: rest => (readLiteral rest).map fun (key, rest) => (String.ofList key, rest)
  | text =>
    if (text.takeWhile isBare).isEmpty then none
    else some (String.ofList (text.takeWhile isBare), text.dropWhile isBare)

/-- What follows the end of a line, which may have a comment. The end of the text ends a line. -/
def afterLine? (text : List Char) : Option (List Char) :=
  let rest :=
    match skipSpace text with
    | '#' :: comment => comment.dropWhile isPlain
    | rest => rest
  if rest.isEmpty then some [] else afterBreak? rest

/-- Reads a key and its value. -/
def readSetting (text : List Char) : Option ((String × Scalar) × List Char) := do
  let (key, rest) ← readKey text
  match skipSpace rest with
  | '=' :: rest =>
    let (value, rest) ← readValue (skipSpace rest)
    some ((key, value), rest)
  | _ => none

/-- Reads a line. -/
def readLine (text : List Char) : Option (Option (String × Scalar) × List Char) :=
  match afterLine? text with
  | some rest => some (none, rest)
  | none => do
    let (setting, rest) ← readSetting (skipSpace text)
    some (some setting, ← afterLine? rest)

/-- Reads lines; every line takes characters off the text. -/
def readLines (text : List Char) : Option (List (String × Scalar)) :=
  if text.isEmpty then some []
  else
    match readLine text with
    | none => none
    | some (setting, rest) =>
      if rest.length < text.length then (readLines rest).map (setting.toList ++ ·) else none
termination_by text.length

/-- Reads a document: the settings in their order. -/
def read (text : List Char) : Option (List (String × Scalar)) := do
  let settings ← readLines (if text.head? = some '\ufeff' then text.drop 1 else text)
  if (settings.map (·.1)).Nodup then some settings else none

end Stencil.Toml
