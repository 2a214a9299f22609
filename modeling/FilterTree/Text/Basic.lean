import FilterTree.Text.Class

/-!
# Marks in a text, and quoted texts

* `Mark` : a text that is looked for. It has at least one character.
* `Mark.split` : the pieces of a text between its marks, which are found from left to right.
* `Mark.fill` : the text with something else in place of every mark. What has been put in is not searched again.
* `Mark.intercalate_split` : nothing is lost. The pieces with the mark between them are the text.
* `hexDigits` : the digits of a number, in lower case.
* `hexValue?` : the value of a digit, in either case.
* `hexNumber?` : the number that a run of digits stands for.
* `codePoint` : the character with a code point of so many digits.
* `escape` : the written form of one character.
* `quote` : a text between double quotes. Every character that a reader could not see or could take for the closing
  quote is written as an escape.
* `quoteAll` : a list of quoted texts between brackets.
-/

namespace FilterTree.Text

/-! ## Marks -/

/-- The text behind a given beginning. -/
def behind? : List Char → List Char → Option (List Char)
  | [], cs => some cs
  | _ :: _, [] => none
  | m :: ms, c :: cs => if m = c then behind? ms cs else none

theorem behind?_eq_some_iff {ms cs rest : List Char} : behind? ms cs = some rest ↔ cs = ms ++ rest := by
  induction ms generalizing cs with
  | nil => simp [behind?]
  | cons m ms ih =>
    cases cs with
    | nil => simp [behind?]
    | cons c cs =>
      rw [behind?]
      split
      · rename_i eq
        rw [ih, List.cons_append, List.cons.injEq]
        exact ⟨fun h => ⟨eq.symm, h⟩, And.right⟩
      · rename_i ne
        simp only [List.cons_append, List.cons.injEq, reduceCtorEq, false_iff]
        exact fun h => ne h.1.symm

/-- A text that is looked for. -/
structure Mark where
  first : Char
  more : List Char

namespace Mark

def chars (m : Mark) : List Char := m.first :: m.more

/-- The pieces of a text between its marks. -/
def split (m : Mark) : List Char → List (List Char)
  | [] => [[]]
  | c :: cs => match _found : behind? m.chars (c :: cs) with
    | some rest => [] :: split m rest
    | none => (split m cs).modifyHead (c :: ·)
termination_by cs => cs.length
decreasing_by
  · rw [behind?_eq_some_iff.1 _found, List.length_append, chars, List.length_cons]
    omega
  · exact Nat.lt_succ_self _

def fill (m : Mark) (new text : List Char) : List Char := new.intercalate (m.split text)

theorem split_ne_nil (m : Mark) (cs : List Char) : m.split cs ≠ [] := by
  induction cs with
  | nil => rw [split]; exact List.cons_ne_nil _ _
  | cons c cs ih =>
    rw [split]
    split
    · exact List.cons_ne_nil _ _
    · intro h
      exact ih (List.modifyHead_eq_nil_iff.1 h)

theorem split_chars_append (m : Mark) (cs : List Char) : m.split (m.chars ++ cs) = [] :: m.split cs := by
  have found : behind? m.chars (m.first :: (m.more ++ cs)) = some cs := behind?_eq_some_iff.2 rfl
  show m.split (m.first :: (m.more ++ cs)) = [] :: m.split cs
  rw [split]
  split
  · rename_i rest eq
    rw [found] at eq
    rw [Option.some.inj eq]
  · rename_i eq
    rw [found] at eq
    cases eq

theorem intercalate_cons {sep piece : List Char} {pieces : List (List Char)} (h : pieces ≠ []) :
    sep.intercalate (piece :: pieces) = piece ++ sep ++ sep.intercalate pieces := by
  obtain ⟨p, ps, rfl⟩ := List.exists_cons_of_ne_nil h
  simp [List.intercalate, List.intersperse]

theorem intercalate_modifyHead {sep : List Char} {c : Char} {pieces : List (List Char)} (h : pieces ≠ []) :
    sep.intercalate (pieces.modifyHead (c :: ·)) = c :: sep.intercalate pieces := by
  obtain ⟨p, ps, rfl⟩ := List.exists_cons_of_ne_nil h
  cases ps <;> simp [List.intercalate, List.intersperse]

theorem intercalate_split (m : Mark) (cs : List Char) : m.chars.intercalate (m.split cs) = cs := by
  fun_induction split m cs with
  | case1 => rfl
  | case2 c cs rest found ih =>
    rw [intercalate_cons (split_ne_nil m rest), ih, List.nil_append]
    exact (behind?_eq_some_iff.1 found).symm
  | case3 c cs _ ih => rw [intercalate_modifyHead (split_ne_nil m cs), ih]

end Mark

/-! ## Digits to base sixteen -/

def hexDigits (n : Nat) : List Char := Nat.toDigits 16 n

def hexValue? (c : Char) : Option Nat :=
  if '0' ≤ c ∧ c ≤ '9' then some (c.toNat - '0'.toNat)
  else if 'a' ≤ c ∧ c ≤ 'f' then some (c.toNat - 'a'.toNat + 10)
  else if 'A' ≤ c ∧ c ≤ 'F' then some (c.toNat - 'A'.toNat + 10)
  else none

/-- The number that a run of digits to base sixteen stands for, digits before it taken into account. -/
def hexNumber? (n : Nat) : List Char → Option Nat
  | [] => some n
  | c :: cs => match hexValue? c with
    | some d => hexNumber? (n * 16 + d) cs
    | none => none

/-- The character with a code point to base sixteen, unless it is none or half a pair. -/
def scalarValue? (digits : List Char) : Option Char :=
  match hexNumber? 0 digits with
  | none => none
  | some n => if n.isValidChar then some (Char.ofNat n) else none

def codePoint (count : Nat) (cs : List Char) : Option (Char × List Char) :=
  let digits := cs.take count
  if digits.length = count then (scalarValue? digits).map fun c => (c, cs.drop count) else none

/-! ## Escapes -/

/-- Short escapes for the common controls and the two marks, `\u` with braces for all else that is hidden. -/
def escape (c : Char) : List Char :=
  if c = '\x00' then ['\\', '0']
  else if c = '\t' then ['\\', 't']
  else if c = '\r' then ['\\', 'r']
  else if c = '\n' then ['\\', 'n']
  else if c = '"' then ['\\', '"']
  else if c = '\\' then ['\\', '\\']
  else if isHidden c then ['\\', 'u', '\x7b'] ++ hexDigits c.toNat ++ ['\x7d']
  else [c]

def quote (s : String) : String :=
  String.ofList ('"' :: s.toList.flatMap escape ++ ['"'])

def quoteAll (ss : List String) : String :=
  "[" ++ String.intercalate ", " (ss.map quote) ++ "]"

end FilterTree.Text
