import FilterTree.Json.Basic

/-!
# Readers

A reader takes one item off the front of a text. What it says about a text depends on the characters that are
left, not on the ones before them: a fault is placed by the number of bytes behind it.

* `size` : the length of a text in bytes.
* `Fault` : a cause with its place, or a cause that still waits for the place that encloses it.
* `Reader` : a function from a text to an item and the rest, which is always shorter.
* `Reader.map`, `Reader.orNull`, `Reader.choose` : new readers from old ones.
* `Reader.read` : the item that makes up a whole text.
-/

namespace FilterTree.Json

def isBlank (c : Char) : Bool := c == ' ' || c == '\n' || c == '\t' || c == '\r'

def skipBlanks (cs : List Char) : List Char := cs.dropWhile isBlank

/-- The length of a text in bytes. -/
def size : List Char → Nat
  | [] => 0
  | c :: cs => c.utf8Size + size cs

/-- A cause with the number of bytes behind its place, or a cause met before a text that is enclosed. -/
inductive Fault where
  | placed (cause : Cause) (left : Nat)
  | loose (cause : Cause) (rest : List Char)

/-- A fault just before a text. -/
def Fault.here (cause : Cause) (rest : List Char) : Fault := .placed cause (size rest)

/-- A fault behind the first byte of a text, or at its end where it is empty. -/
def Fault.next (cause : Cause) (rest : List Char) : Fault := .placed cause (size rest - 1)

def Fault.error (text : String) : Fault → Error
  | .placed cause left => ⟨cause, some (.before text left)⟩
  | .loose cause _ => ⟨cause, none⟩

abbrev Result (α : Type) := Except Fault (α × List Char)

/-- A function that takes an item off the front of a text. -/
structure Reader (α : Type) where
  run : List Char → Result α
  shortens : ∀ {cs a rest}, run cs = .ok (a, rest) → rest.length < cs.length

theorem rest_eq_of_ok {α : Type} {a b : α} {rest rest' : List Char}
    (h : (.ok (a, rest) : Result α) = .ok (b, rest')) : rest = rest' :=
  congrArg Prod.snd (Except.ok.inj h)

theorem length_dropWhile_le (p : Char → Bool) (cs : List Char) : (cs.dropWhile p).length ≤ cs.length :=
  (List.dropWhile_sublist p).length_le

theorem length_skipBlanks_le (cs : List Char) : (skipBlanks cs).length ≤ cs.length :=
  length_dropWhile_le _ cs

theorem length_lt_of_skipBlanks {cs rest : List Char} {c : Char} (h : skipBlanks cs = c :: rest) :
    rest.length < cs.length := by
  have := length_skipBlanks_le cs
  rwa [h, List.length_cons] at this

def word : List Char → List Char → Except Fault (List Char)
  | [], cs => .ok cs
  | _ :: _, [] => .error (.here .endInValue [])
  | w :: ws, c :: cs => if c = w then word ws cs else .error (.next .expectedWord (c :: cs))

theorem length_word_le {ws cs rest : List Char} (h : word ws cs = .ok rest) : rest.length ≤ cs.length := by
  induction ws generalizing cs with
  | nil => cases h; exact Nat.le_refl _
  | cons w ws ih =>
    match cs with
    | [] => cases h
    | c :: cs =>
      simp only [word] at h
      split at h
      · exact Nat.le_succ_of_le (ih h)
      · cases h

namespace Reader

variable {α β : Type}

def map (f : α → β) (r : Reader α) : Reader β where
  run cs := match r.run cs with
    | .ok (a, rest) => .ok (f a, rest)
    | .error fault => .error fault
  shortens h := by
    split at h
    · rename_i run
      cases h
      exact r.shortens run
    · cases h

/-- The reader of the items that a test lets pass. Its refusal waits for the place that encloses it. -/
def choose (cause : Cause) (f : α → Option β) (r : Reader α) : Reader β where
  run cs := match r.run cs with
    | .ok (a, rest) => match f a with
      | some b => .ok (b, rest)
      | none => .error (.loose cause rest)
    | .error fault => .error fault
  shortens h := by
    split at h
    · rename_i run
      split at h
      · cases h
        exact r.shortens run
      · cases h
    · cases h

def orNull (r : Reader α) : Reader (Option α) where
  run cs := match skipBlanks cs with
    | 'n' :: rest => match word ['u', 'l', 'l'] rest with
      | .ok rest => .ok (none, rest)
      | .error fault => .error fault
    | cs => match r.run cs with
      | .ok (a, rest) => .ok (some a, rest)
      | .error fault => .error fault
  shortens {cs a rest} h := by
    have shorter := length_skipBlanks_le cs
    split at h
    · rename_i eq
      rw [eq, List.length_cons] at shorter
      split at h
      · rename_i run
        cases h
        have := length_word_le run
        omega
      · cases h
    · split at h
      · rename_i run
        cases h
        have := r.shortens run
        omega
      · cases h

/-- The item that makes up a whole text but for blanks around it. -/
def read (r : Reader α) (text : String) : Except Error α :=
  match r.run text.toList with
  | .error fault => .error (fault.error text)
  | .ok (a, rest) => match skipBlanks rest with
    | [] => .ok a
    | rest => .error ((Fault.next .trailingCharacters rest).error text)

end Reader

end FilterTree.Json
