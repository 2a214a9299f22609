import FilterTree.Json.Numeral
import FilterTree.Json.Quoted

/-!
# The grammar of JSON

What a text says and how it says it, apart from any reader.

* `Blank`, `Stops` : blanks, and what may stand behind a value.
* `Quad`, `CharWritten`, `TextWritten` : the spellings of a character and of a text between quotes. A character has an escape
  or two besides itself.
* `WellQuoted` : whatever may stand between quotes, so that its characters need not make sense.
* `Numeral.Written` : the spellings of a numeral.
* `Script` : a value as it is written, down to the spelling of its texts, keys and numerals. Blanks do not count.
* `Script.Written` : the texts of a script.
* `Script.Spans` : these with blanks around them, which make up a whole text.
-/

namespace FilterTree.Json

/-! ## Blanks -/

def Blank (b : List Char) : Prop := ∀ c ∈ b, isBlank c = true

def IsStop (c : Char) : Prop := isBlank c = true ∨ c = ',' ∨ c = ']' ∨ c = '\x7d'

instance (c : Char) : Decidable (IsStop c) := inferInstanceAs (Decidable (_ ∨ _ ∨ _ ∨ _))

/-- What may stand behind a value: nothing, or a text that begins with a blank, a comma or a closing bracket. -/
def Stops : List Char → Prop
  | [] => True
  | c :: _ => IsStop c

theorem blank_nil : Blank [] := fun _ hc => absurd hc List.not_mem_nil

theorem isStop_of_isBlank {c : Char} (h : isBlank c = true) : IsStop c := .inl h

theorem not_isBlank_of_not_isStop {c : Char} (h : ¬IsStop c) : isBlank c = false :=
  Bool.eq_false_iff.2 fun blank => h (isStop_of_isBlank blank)

theorem head_ne_of_stops {rest : List Char} (h : Stops rest) {c : Char} (hc : ¬IsStop c) : rest.head? ≠ some c := by
  match rest with
  | [] => exact fun eq => by cases eq
  | d :: rest =>
    intro eq
    obtain rfl := Option.some.inj eq
    exact hc h

theorem Stops.blank_append {b rest : List Char} (blank : Blank b) (h : Stops rest) : Stops (b ++ rest) := by
  match b with
  | [] => exact h
  | c :: b => exact isStop_of_isBlank (blank c List.mem_cons_self)

theorem skipBlanks_append {b : List Char} (h : Blank b) (cs : List Char) : skipBlanks (b ++ cs) = skipBlanks cs :=
  List.dropWhile_append_of_pos h

theorem skipBlanks_cons {c : Char} (h : isBlank c = false) (cs : List Char) : skipBlanks (c :: cs) = c :: cs :=
  List.dropWhile_cons_of_neg (Bool.eq_false_iff.1 h)

theorem blank_skipBlanks (cs : List Char) : ∃ b, Blank b ∧ cs = b ++ skipBlanks cs :=
  ⟨cs.takeWhile isBlank, List.all_eq_true.1 List.all_takeWhile, List.takeWhile_append_dropWhile.symm⟩

/-! ## Words -/

theorem word_append (ws rest : List Char) : word ws (ws ++ rest) = .ok rest := by
  induction ws with
  | nil => rfl
  | cons w ws ih => rw [List.cons_append, word, if_pos rfl, ih]

theorem eq_of_word {ws cs rest : List Char} (h : word ws cs = .ok rest) : cs = ws ++ rest := by
  induction ws generalizing cs with
  | nil => exact Except.ok.inj h
  | cons w ws ih =>
    match cs with
    | [] => cases h
    | c :: cs =>
      rw [word] at h
      by_cases eq : c = w
      · rw [if_pos eq] at h
        rw [eq, ih h, List.cons_append]
      · rw [if_neg eq] at h
        cases h

/-! ## Texts between quotes -/

/-- Four digits to base sixteen with their value. -/
def Quad (n : Nat) (ds : List Char) : Prop := ds.length = 4 ∧ Text.hexNumber? 0 ds = some n

def IsPlain (c : Char) : Prop := c ≠ '"' ∧ c ≠ '\\' ∧ ¬c < ' '

instance (c : Char) : Decidable (IsPlain c) := inferInstanceAs (Decidable (_ ∧ _ ∧ _))

def PlainText (s : String) : Prop := ∀ c ∈ s.toList, IsPlain c

instance (s : String) : Decidable (PlainText s) := List.decidableBAll IsPlain s.toList

/-- The spellings of a character: itself, a short escape, a numbered escape, or a pair of these. -/
inductive CharWritten : Char → List Char → Prop where
  | plain {c : Char} (h : IsPlain c) : CharWritten c [c]
  | short {c e : Char} (h : shortEscape? e = some c) : CharWritten c ['\\', e]
  | code {n : Nat} {ds : List Char} (h : Quad n ds) (low : isLowSurrogate n = false) (high : isHighSurrogate n = false) :
    CharWritten (Char.ofNat n) ('\\' :: 'u' :: ds)
  | pair {m n : Nat} {ds es : List Char} (h : Quad m ds) (high : isHighSurrogate m = true) (h' : Quad n es)
    (low : isLowSurrogate n = true) : CharWritten (pairValue m n) ('\\' :: 'u' :: (ds ++ '\\' :: 'u' :: es))

/-- The spellings of a text between quotes. -/
inductive TextWritten : List Char → List Char → Prop where
  | nil : TextWritten [] []
  | cons {c : Char} {cs w ws : List Char} (h : CharWritten c w) (more : TextWritten cs ws) : TextWritten (c :: cs) (w ++ ws)

/-- What may stand between quotes, whether or not it has a meaning: half of a pair may stand alone. -/
inductive WellQuoted : List Char → Prop where
  | nil : WellQuoted []
  | plain {c : Char} {ws : List Char} (h : IsPlain c) (more : WellQuoted ws) : WellQuoted (c :: ws)
  | short {c e : Char} {ws : List Char} (h : shortEscape? e = some c) (more : WellQuoted ws) : WellQuoted ('\\' :: e :: ws)
  | code {n : Nat} {ds ws : List Char} (h : Quad n ds) (more : WellQuoted ws) : WellQuoted ('\\' :: 'u' :: (ds ++ ws))

/-! ## Numerals -/

theorem isDigit_of_isStop {c : Char} (h : IsStop c) : c.isDigit = false := by
  rcases h with blank | rfl | rfl | rfl
  · simp only [isBlank, Bool.or_eq_true, beq_iff_eq] at blank
    rcases blank with ((rfl | rfl) | rfl) | rfl <;> decide
  all_goals decide

def Digits (ds : List Char) : Prop := ∀ d ∈ ds, d.isDigit = true

inductive SignWritten : Bool → List Char → Prop where
  | plus : SignWritten false []
  | minus : SignWritten true ['-']

/-- The digits before the point: a zero alone, or digits that do not begin with one. -/
inductive Whole : List Char → Prop where
  | zero : Whole ['0']
  | positive {d : Char} {ds : List Char} (digit : d.isDigit = true) (nonzero : d ≠ '0') (more : Digits ds) : Whole (d :: ds)

inductive FractionWritten : List Char → List Char → Prop where
  | none : FractionWritten [] []
  | some {ds : List Char} (nonempty : ds ≠ []) (digits : Digits ds) : FractionWritten ds ('.' :: ds)

inductive ExponentSignWritten : Bool → List Char → Prop where
  | none : ExponentSignWritten false []
  | plus : ExponentSignWritten false ['+']
  | minus : ExponentSignWritten true ['-']

inductive ExponentWritten : Option Exponent → List Char → Prop where
  | none : ExponentWritten none []
  | some {negative : Bool} {letter : Char} {s ds : List Char} (h : letter = 'e' ∨ letter = 'E')
    (sign : ExponentSignWritten negative s) (nonempty : ds ≠ []) (digits : Digits ds) :
    ExponentWritten (some ⟨negative, ds⟩) (letter :: (s ++ ds))

inductive Numeral.Written : Numeral → List Char → Prop where
  | mk {negative : Bool} {s ds fs f x : List Char} {e : Option Exponent} (sign : SignWritten negative s) (whole : Whole ds)
    (fraction : FractionWritten fs f) (exponent : ExponentWritten e x) :
    Numeral.Written ⟨negative, ds, fs, e⟩ (s ++ (ds ++ (f ++ x)))

/-! ## Values -/

/-- A value as it is written. Texts and keys are what stands between their quotes. -/
inductive Script where
  | null
  | bool (b : Bool)
  | number (m : Numeral)
  | text (raw : List Char)
  | list (items : List Script)
  | object (members : List (List Char × Script))

namespace Script

@[elab_as_elim]
theorem induction {P : Script → Prop} (null : P .null) (bool : ∀ b, P (.bool b)) (number : ∀ m, P (.number m))
    (text : ∀ raw, P (.text raw)) (list : ∀ items, (∀ d ∈ items, P d) → P (.list items))
    (object : ∀ members, (∀ m ∈ members, P m.2) → P (.object members)) (d : Script) : P d := by
  refine Script.rec (motive_1 := P) (motive_2 := fun items => ∀ d ∈ items, P d)
    (motive_3 := fun members => ∀ m ∈ members, P m.2) (motive_4 := fun m => P m.2)
    null bool number text list object ?_ ?_ ?_ ?_ (fun _ _ h => h) d
  · intro d hd
    cases hd
  · intro d ds hd hds x hx
    rcases List.mem_cons.1 hx with rfl | hx
    · exact hd
    · exact hds x hx
  · intro m hm
    cases hm
  · intro m ms hm hms x hx
    rcases List.mem_cons.1 hx with rfl | hx
    · exact hm
    · exact hms x hx

/-- What stands in front of an element or a member: blanks, and a comma unless it is the first. -/
inductive Lead : Bool → List Char → Prop where
  | first {b : List Char} (blank : Blank b) : Lead true b
  | more {a b : List Char} (before : Blank a) (behind : Blank b) : Lead false (a ++ ',' :: b)

mutual

/-- The texts of a script, from its first character to its last. -/
inductive Written : Script → List Char → Prop where
  | null : Written .null ['n', 'u', 'l', 'l']
  | true : Written (.bool true) ['t', 'r', 'u', 'e']
  | false : Written (.bool false) ['f', 'a', 'l', 's', 'e']
  | number {m : Numeral} {w : List Char} (h : m.Written w) : Written (.number m) w
  | text {raw : List Char} (h : WellQuoted raw) : Written (.text raw) ('"' :: (raw ++ ['"']))
  | list {items : List Script} {w : List Char} (h : ItemsWritten true items w) : Written (.list items) ('[' :: (w ++ [']']))
  | object {members : List (List Char × Script)} {w : List Char} (h : MembersWritten true members w) :
    Written (.object members) ('\x7b' :: (w ++ ['\x7d']))

inductive ItemsWritten : Bool → List Script → List Char → Prop where
  | nil {first : Bool} {b : List Char} (blank : Blank b) : ItemsWritten first [] b
  | cons {first : Bool} {d : Script} {ds : List Script} {p w ws : List Char} (lead : Lead first p) (h : Written d w)
    (more : ItemsWritten false ds ws) : ItemsWritten first (d :: ds) (p ++ (w ++ ws))

inductive MembersWritten : Bool → List (List Char × Script) → List Char → Prop where
  | nil {first : Bool} {b : List Char} (blank : Blank b) : MembersWritten first [] b
  | cons {first : Bool} {key : List Char} {d : Script} {ms : List (List Char × Script)} {p a b w ws : List Char}
    (lead : Lead first p) (quoted : WellQuoted key) (before : Blank a) (behind : Blank b) (h : Written d w)
    (more : MembersWritten false ms ws) :
    MembersWritten first ((key, d) :: ms) (p ++ ('"' :: (key ++ '"' :: (a ++ ':' :: (b ++ (w ++ ws))))))

end

/-- The first character of a value is no blank and no end of a value. -/
theorem Written.head {d : Script} {w : List Char} (h : d.Written w) : ∃ c cs, w = c :: cs ∧ ¬IsStop c := by
  cases h with
  | null => exact ⟨'n', _, rfl, by decide⟩
  | true => exact ⟨'t', _, rfl, by decide⟩
  | false => exact ⟨'f', _, rfl, by decide⟩
  | text => exact ⟨'"', _, rfl, by decide⟩
  | list => exact ⟨'[', _, rfl, by decide⟩
  | object => exact ⟨'\x7b', _, rfl, by decide⟩
  | number h =>
    obtain ⟨sign, whole, -, -⟩ := h
    cases sign with
    | minus => exact ⟨'-', _, rfl, by decide⟩
    | plus =>
      cases whole with
      | zero => exact ⟨'0', _, rfl, by decide⟩
      | @positive d _ digit =>
        refine ⟨d, _, rfl, ?_⟩
        intro stop
        rw [isDigit_of_isStop stop] at digit
        cases digit

theorem ItemsWritten.stops {ds : List Script} {w : List Char} (h : ItemsWritten false ds w) (rest : List Char) :
    Stops (w ++ ']' :: rest) := by
  have closer : Stops (']' :: rest) := .inr (.inr (.inl rfl))
  cases h with
  | nil blank => exact closer.blank_append blank
  | cons lead =>
    cases lead with
    | more before =>
      simp only [List.append_assoc, List.cons_append]
      exact Stops.blank_append before (.inr (.inl rfl))

theorem MembersWritten.stops {ms : List (List Char × Script)} {w : List Char} (h : MembersWritten false ms w)
    (rest : List Char) : Stops (w ++ '\x7d' :: rest) := by
  have closer : Stops ('\x7d' :: rest) := .inr (.inr (.inr rfl))
  cases h with
  | nil blank => exact closer.blank_append blank
  | cons lead =>
    cases lead with
    | more before =>
      simp only [List.append_assoc, List.cons_append]
      exact Stops.blank_append before (.inr (.inl rfl))

/-- The whole texts of a script. -/
def Spans (d : Script) (text : String) : Prop :=
  ∃ a w b, Blank a ∧ d.Written w ∧ Blank b ∧ text.toList = a ++ (w ++ b)

end Script

end FilterTree.Json
