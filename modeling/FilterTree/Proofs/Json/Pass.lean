import FilterTree.Proofs.Json.Numeral
import FilterTree.Proofs.Json.Quoted

/-!
# Passing over values

* `pass_written` : a value that nobody asks for is passed over, however deep it is.
* `Inside`, `Behind` : what the brackets that are open around a place demand of the text from there on.
* `written_of_pass` : nothing but a value is passed over.
-/

namespace FilterTree.Json

open Script

/-! ## Keys and values without brackets -/

theorem colon_append {a : List Char} (h : Blank a) (rest : List Char) : colon (a ++ ':' :: rest) = .ok rest := by
  rw [colon, skipBlanks_append h, skipBlanks_cons (by decide)]
  rfl

theorem eq_of_colon {cs rest : List Char} (h : colon cs = .ok rest) : ∃ a, Blank a ∧ cs = a ++ ':' :: rest := by
  obtain ⟨a, blank, split⟩ := blank_skipBlanks cs
  unfold colon at h
  cases start : skipBlanks cs with
  | nil =>
    rw [start] at h
    cases h
  | cons c inner =>
    simp only [start] at h
    by_cases eq : c = ':'
    · rw [if_pos eq] at h
      refine ⟨a, blank, ?_⟩
      rw [split, start, eq, Except.ok.inj h]
    · rw [if_neg eq] at h
      cases h

theorem passKey_append {b key a : List Char} (before : Blank b) (h : WellQuoted key) (behind : Blank a) (rest : List Char) :
    passKey (b ++ '"' :: (key ++ '"' :: (a ++ ':' :: rest))) = .ok rest := by
  rw [passKey, skipBlanks_append before, skipBlanks_cons (by decide)]
  simp only [if_pos, passQuoted_wellQuoted h, colon_append behind]

theorem written_of_passKey {cs rest : List Char} (h : passKey cs = .ok rest) :
    ∃ b key a, Blank b ∧ WellQuoted key ∧ Blank a ∧ cs = b ++ '"' :: (key ++ '"' :: (a ++ ':' :: rest)) := by
  obtain ⟨b, before, split⟩ := blank_skipBlanks cs
  unfold passKey at h
  cases start : skipBlanks cs with
  | nil =>
    rw [start] at h
    cases h
  | cons c inner =>
    simp only [start] at h
    by_cases quote : c = '"'
    · rw [if_pos quote] at h
      cases run : passQuoted inner with
      | error fault =>
        rw [run] at h
        cases h
      | ok left =>
        rw [run] at h
        obtain ⟨a, behind, rfl⟩ := eq_of_colon h
        obtain ⟨key, quoted, rfl⟩ := passQuoted_eq_ok_iff.1 run
        exact ⟨b, key, a, before, quoted, behind, by rw [split, start, quote]⟩
    · rw [if_neg quote] at h
      cases h

theorem Numeral.Written.head {m : Numeral} {c : Char} {w : List Char} (h : m.Written (c :: w)) :
    c = '-' ∨ c.isDigit = true := by
  generalize eq : c :: w = cs at h
  obtain ⟨sign, whole, -, -⟩ := h
  cases sign with
  | minus =>
    cases eq
    exact .inl rfl
  | plus =>
    cases whole with
    | zero =>
      cases eq
      exact .inr rfl
    | positive digit =>
      cases eq
      exact .inr digit

theorem ne_of_number {c : Char} (h : c = '-' ∨ c.isDigit = true) :
    c ≠ 'n' ∧ c ≠ 't' ∧ c ≠ 'f' ∧ c ≠ '"' ∧ c ≠ '[' ∧ c ≠ '\x7b' := by
  have other : ∀ d : Char, d ≠ '-' → d.isDigit = false → c ≠ d := by
    rintro d minus digit rfl
    rcases h with h | h
    · exact minus h
    · rw [digit] at h
      cases h
  exact ⟨other _ (by decide) (by decide), other _ (by decide) (by decide), other _ (by decide) (by decide),
    other _ (by decide) (by decide), other _ (by decide) (by decide), other _ (by decide) (by decide)⟩

def Script.IsScalar : Script → Prop
  | .list _ => False
  | .object _ => False
  | _ => True

def Script.Begins : Script → Char → Prop
  | .null, c => c = 'n'
  | .bool true, c => c = 't'
  | .bool false, c => c = 'f'
  | .number _, c => c = '-' ∨ c.isDigit = true
  | .text _, c => c = '"'
  | .list _, c => c = '['
  | .object _, c => c = '\x7b'

theorem Script.Written.begins {d : Script} {c : Char} {w : List Char} (h : d.Written (c :: w)) : d.Begins c := by
  generalize eq : c :: w = cs at h
  cases h with
  | number number =>
    subst eq
    exact number.head
  | _ =>
    cases eq
    rfl

namespace Script.Begins

variable {d : Script}

theorem null (h : d.Begins 'n') : d = .null := by
  match d, h with
  | .null, _ => rfl
  | .bool true, h => cases h
  | .bool false, h => cases h
  | .number _, h => exact absurd rfl (ne_of_number h).1
  | .text _, h => cases h
  | .list _, h => cases h
  | .object _, h => cases h

theorem text (h : d.Begins '"') : ∃ raw, d = .text raw := by
  match d, h with
  | .null, h => cases h
  | .bool true, h => cases h
  | .bool false, h => cases h
  | .number _, h => exact absurd rfl (ne_of_number h).2.2.2.1
  | .text raw, _ => exact ⟨raw, rfl⟩
  | .list _, h => cases h
  | .object _, h => cases h

theorem list (h : d.Begins '[') : ∃ ds, d = .list ds := by
  match d, h with
  | .null, h => cases h
  | .bool true, h => cases h
  | .bool false, h => cases h
  | .number _, h => exact absurd rfl (ne_of_number h).2.2.2.2.1
  | .text _, h => cases h
  | .list ds, _ => exact ⟨ds, rfl⟩
  | .object _, h => cases h

theorem object (h : d.Begins '\x7b') : ∃ ms, d = .object ms := by
  match d, h with
  | .null, h => cases h
  | .bool true, h => cases h
  | .bool false, h => cases h
  | .number _, h => exact absurd rfl (ne_of_number h).2.2.2.2.2
  | .text _, h => cases h
  | .list _, h => cases h
  | .object ms, _ => exact ⟨ms, rfl⟩

end Script.Begins

theorem Script.Written.ne_bracket {d : Script} {c : Char} {w : List Char} (h : d.Written (c :: w)) (scalar : d.IsScalar) :
    c ≠ '[' ∧ c ≠ '\x7b' := by
  constructor
  · rintro rfl
    obtain ⟨ds, rfl⟩ := h.begins.list
    exact scalar
  · rintro rfl
    obtain ⟨ms, rfl⟩ := h.begins.object
    exact scalar

theorem passScalar_written {d : Script} {c : Char} {w rest : List Char} (h : d.Written (c :: w)) (scalar : d.IsScalar)
    (stop : Stops rest) : passScalar c (w ++ rest) = .ok rest := by
  generalize eq : c :: w = cs at h
  cases h with
  | list => cases scalar
  | object => cases scalar
  | null =>
    cases eq
    exact word_append _ rest
  | true =>
    cases eq
    exact word_append _ rest
  | false =>
    cases eq
    exact word_append _ rest
  | @text raw quoted =>
    cases eq
    show passQuoted (raw ++ ['"'] ++ rest) = .ok rest
    rw [List.append_assoc]
    exact passQuoted_wellQuoted quoted rest
  | number number =>
    subst eq
    obtain ⟨n, t, f, quote, -, -⟩ := ne_of_number number.head
    rw [passScalar, if_neg n, if_neg t, if_neg f, if_neg quote, if_pos number.head]
    rw [← List.cons_append, numeral_written number stop]

theorem written_of_passScalar {c : Char} {cs rest : List Char} (h : passScalar c cs = .ok rest) :
    ∃ d w, IsScalar d ∧ d.Written (c :: w) ∧ cs = w ++ rest := by
  unfold passScalar at h
  by_cases n : c = 'n'
  · rw [if_pos n] at h
    exact ⟨.null, _, trivial, n ▸ .null, eq_of_word h⟩
  · rw [if_neg n] at h
    by_cases t : c = 't'
    · rw [if_pos t] at h
      exact ⟨.bool true, _, trivial, t ▸ .true, eq_of_word h⟩
    · rw [if_neg t] at h
      by_cases f : c = 'f'
      · rw [if_pos f] at h
        exact ⟨.bool false, _, trivial, f ▸ .false, eq_of_word h⟩
      · rw [if_neg f] at h
        by_cases quote : c = '"'
        · rw [if_pos quote] at h
          obtain ⟨raw, quoted, rfl⟩ := passQuoted_eq_ok_iff.1 h
          exact ⟨.text raw, raw ++ ['"'], trivial, quote ▸ .text quoted, by simp⟩
        · rw [if_neg quote] at h
          by_cases number : c = '-' ∨ c.isDigit
          · rw [if_pos number] at h
            cases run : numeral .invalidNumber (c :: cs) with
            | error fault =>
              rw [run] at h
              cases h
            | ok p =>
              obtain ⟨m, behind⟩ := p
              rw [run] at h
              cases h
              obtain ⟨w, written, split⟩ := written_of_numeral run
              obtain ⟨d, w, rfl, -⟩ := Script.Written.head (.number written)
              cases split
              exact ⟨.number m, w, trivial, .number written, rfl⟩
          · rw [if_neg number] at h
            cases h

/-! ## One step -/

section

variable {b : List Char} {c : Char} (blank : Blank b) (start : isBlank c = false) (rest : List Char)

include blank start

theorem skipBlanks_blank_append : skipBlanks (b ++ c :: rest) = c :: rest := by
  rw [skipBlanks_append blank, skipBlanks_cons start]

theorem pass_value (opened : List Enclosure) :
    pass opened .value (b ++ c :: rest) =
      if c = '[' then pass (.list :: opened) .first rest
      else if c = '\x7b' then pass (.object :: opened) .first rest
      else match passScalar c rest with
        | .error fault => .error fault
        | .ok rest => pass opened .more rest := by
  have found := skipBlanks_blank_append blank start rest
  rw [pass]
  split
  · rename_i eq
    rw [found] at eq
    cases eq
  · rename_i eq
    rw [found] at eq
    cases eq
    cases passScalar c rest <;> rfl

theorem pass_first (e : Enclosure) (outer : List Enclosure) :
    pass (e :: outer) .first (b ++ c :: rest) =
      if c = e.closer then pass outer .more rest
      else match passToValue e (c :: rest) with
        | .error fault => .error fault
        | .ok rest => pass (e :: outer) .value rest := by
  have found := skipBlanks_blank_append blank start rest
  rw [pass]
  split
  · rename_i eq
    rw [found] at eq
    cases eq
  · rename_i eq
    rw [found] at eq
    cases eq
    cases passToValue e (c :: rest) <;> rfl

theorem pass_more (e : Enclosure) (outer : List Enclosure) :
    pass (e :: outer) .more (b ++ c :: rest) =
      if c = e.closer then pass outer .more rest
      else if c = ',' then match passToValue e rest with
        | .error fault => .error fault
        | .ok rest => pass (e :: outer) .value rest
      else .error (.next e.expectedEnd (c :: rest)) := by
  have found := skipBlanks_blank_append blank start rest
  rw [pass]
  split
  · rename_i eq
    rw [found] at eq
    cases eq
  · rename_i eq
    rw [found] at eq
    cases eq
    cases passToValue e rest <;> rfl

end

/-- What follows the first element or a further one. -/
def Stage.inside (first : Bool) : Stage := if first then .first else .more

theorem Enclosure.isBlank_closer (e : Enclosure) : isBlank e.closer = false := by
  cases e <;> rfl

theorem pass_closer {b : List Char} (blank : Blank b) (first : Bool) (e : Enclosure) (outer : List Enclosure)
    (rest : List Char) : pass (e :: outer) (.inside first) (b ++ e.closer :: rest) = pass outer .more rest := by
  cases first with
  | true => exact (pass_first blank e.isBlank_closer rest e outer).trans (if_pos rfl)
  | false => exact (pass_more blank e.isBlank_closer rest e outer).trans (if_pos rfl)

theorem pass_nil (first : Bool) (rest : List Char) : pass [] (.inside first) rest = .ok rest := by
  cases first with
  | true => simp [Stage.inside, pass]
  | false => simp [Stage.inside, pass]

theorem pass_item {first : Bool} {p : List Char} (lead : Lead first p) {c : Char} (start : ¬IsStop c)
    (outer : List Enclosure) (rest : List Char) :
    ∃ b, Blank b ∧
      pass (.list :: outer) (.inside first) (p ++ c :: rest) = pass (.list :: outer) .value (b ++ c :: rest) := by
  cases lead with
  | @first b blank =>
    refine ⟨[], blank_nil, ?_⟩
    have other : c ≠ ']' := by
      rintro rfl
      exact start (by decide)
    exact (pass_first blank (not_isBlank_of_not_isStop start) rest .list outer).trans (if_neg other)
  | @more a b before behind =>
    refine ⟨b, behind, ?_⟩
    rw [List.append_assoc, List.cons_append]
    exact pass_more before (by decide) (b ++ c :: rest) .list outer

theorem pass_member {first : Bool} {p key a : List Char} (lead : Lead first p) (quoted : WellQuoted key)
    (before : Blank a) (outer : List Enclosure) (rest : List Char) :
    pass (.object :: outer) (.inside first) (p ++ '"' :: (key ++ '"' :: (a ++ ':' :: rest))) =
      pass (.object :: outer) .value rest := by
  cases lead with
  | @first b blank =>
    have reached : passToValue .object ('"' :: (key ++ '"' :: (a ++ ':' :: rest))) = .ok rest :=
      passKey_append blank_nil quoted before rest
    refine (pass_first blank (by decide) _ .object outer).trans ?_
    rw [if_neg (by decide), reached]
  | @more b d before' behind =>
    have reached : passToValue .object (d ++ '"' :: (key ++ '"' :: (a ++ ':' :: rest))) = .ok rest :=
      passKey_append behind quoted before rest
    rw [List.append_assoc, List.cons_append]
    refine (pass_more before' (by decide) _ .object outer).trans ?_
    rw [if_neg (by decide), if_pos rfl, reached]

/-! ## What is written is passed over -/

def Script.Passed (d : Script) : Prop :=
  ∀ {w b rest : List Char} {opened : List Enclosure}, d.Written w → Blank b → Stops rest →
    pass opened .value (b ++ (w ++ rest)) = pass opened .more rest

theorem passed_of_isScalar {d : Script} (scalar : d.IsScalar) : d.Passed := by
  intro w b rest opened h blank stop
  obtain ⟨c, cs, rfl, start⟩ := h.head
  have other := h.ne_bracket scalar
  refine (pass_value blank (not_isBlank_of_not_isStop start) (cs ++ rest) opened).trans ?_
  rw [if_neg other.1, if_neg other.2, passScalar_written h scalar stop]

theorem pass_items {ds : List Script} (each : ∀ d ∈ ds, d.Passed) {first : Bool} {w : List Char}
    (h : ItemsWritten first ds w) (outer : List Enclosure) (rest : List Char) :
    pass (.list :: outer) (.inside first) (w ++ ']' :: rest) = pass outer .more rest := by
  induction ds generalizing first w with
  | nil =>
    cases h with
    | nil blank => exact pass_closer blank first .list outer rest
  | cons d ds ih =>
    cases h with
    | @cons _ _ _ p w ws lead written more =>
      obtain ⟨c, cs, rfl, start⟩ := written.head
      obtain ⟨b, blank, reached⟩ := pass_item lead start outer (cs ++ (ws ++ ']' :: rest))
      have passed : d.Passed := each d List.mem_cons_self
      have others := ih (fun d hd => each d (List.mem_cons_of_mem _ hd)) more
      simp only [List.append_assoc, List.cons_append] at reached ⊢
      rw [reached, ← List.cons_append, passed written blank (more.stops rest)]
      exact others

theorem pass_members {ms : List (List Char × Script)} (each : ∀ m ∈ ms, m.2.Passed) {first : Bool} {w : List Char}
    (h : MembersWritten first ms w) (outer : List Enclosure) (rest : List Char) :
    pass (.object :: outer) (.inside first) (w ++ '\x7d' :: rest) = pass outer .more rest := by
  induction ms generalizing first w with
  | nil =>
    cases h with
    | nil blank => exact pass_closer blank first .object outer rest
  | cons m ms ih =>
    cases h with
    | @cons _ key d _ p a b w ws lead quoted before behind written more =>
      have passed : d.Passed := each _ List.mem_cons_self
      have others := ih (fun m hm => each m (List.mem_cons_of_mem _ hm)) more
      have reached := pass_member lead quoted before outer (b ++ (w ++ (ws ++ '\x7d' :: rest)))
      simp only [List.append_assoc, List.cons_append] at reached ⊢
      rw [reached, passed written behind (more.stops rest)]
      exact others

theorem Script.passed (d : Script) : d.Passed := by
  induction d using Script.induction with
  | null => exact passed_of_isScalar (d := .null) trivial
  | bool b => exact passed_of_isScalar (d := .bool b) trivial
  | number m => exact passed_of_isScalar (d := .number m) trivial
  | text raw => exact passed_of_isScalar (d := .text raw) trivial
  | list items ih =>
    intro w b rest opened h blank stop
    cases h with
    | @list _ w h =>
      have inner := pass_items ih h opened rest
      refine (pass_value blank (by decide) _ opened).trans ?_
      rw [if_pos rfl]
      simpa [Stage.inside] using inner
  | object members ih =>
    intro w b rest opened h blank stop
    cases h with
    | @object _ w h =>
      have inner := pass_members ih h opened rest
      refine (pass_value blank (by decide) _ opened).trans ?_
      rw [if_neg (by decide), if_pos rfl]
      simpa [Stage.inside] using inner

/-- A value that nobody asks for is passed over. -/
theorem pass_written {d : Script} {w b rest : List Char} (h : d.Written w) (blank : Blank b) (stop : Stops rest) :
    pass [] .value (b ++ (w ++ rest)) = .ok rest := by
  rw [d.passed h blank stop]
  exact pass_nil false rest

/-! ## What is passed over is written -/

/-- The text from inside brackets on, up to the text behind them. -/
def Inside (first : Bool) (e : Enclosure) (cs rest : List Char) : Prop :=
  match e with
  | .list => ∃ ds w, ItemsWritten first ds w ∧ cs = w ++ ']' :: rest
  | .object => ∃ ms w, MembersWritten first ms w ∧ cs = w ++ '\x7d' :: rest

/-- The text from behind a value on, up to the text behind all the brackets around it. -/
def Behind : List Enclosure → List Char → List Char → Prop
  | [], cs, rest => cs = rest
  | e :: outer, cs, rest => ∃ left, Inside false e cs left ∧ Behind outer left rest

def Demanded (opened : List Enclosure) (stage : Stage) (cs rest : List Char) : Prop :=
  match stage with
  | .value => ∃ b d w left, Blank b ∧ Script.Written d w ∧ cs = b ++ (w ++ left) ∧ Behind opened left rest
  | .more => Behind opened cs rest
  | .first => match opened with
    | [] => cs = rest
    | e :: outer => ∃ left, Inside true e cs left ∧ Behind outer left rest

theorem inside_closer (first : Bool) (e : Enclosure) {b : List Char} (blank : Blank b) (rest : List Char) :
    Inside first e (b ++ e.closer :: rest) rest := by
  cases e with
  | list => exact ⟨[], b, .nil blank, rfl⟩
  | object => exact ⟨[], b, .nil blank, rfl⟩

theorem lead_append {first : Bool} {p b : List Char} (lead : Lead first p) (blank : Blank b) : Lead first (p ++ b) := by
  have both : ∀ {a : List Char}, Blank a → Blank (a ++ b) := by
    intro a ha c hc
    rcases List.mem_append.1 hc with hc | hc
    · exact ha c hc
    · exact blank c hc
  cases lead with
  | first h => exact .first (both h)
  | more before behind =>
    rw [List.append_assoc]
    exact .more before (both behind)

theorem inside_value {first : Bool} {e : Enclosure} {p cs inner rest : List Char} {outer : List Enclosure}
    (lead : Lead first p) (reached : passToValue e cs = .ok inner) (h : Demanded (e :: outer) .value inner rest) :
    ∃ left, Inside first e (p ++ cs) left ∧ Behind outer left rest := by
  obtain ⟨b, d, w, left, blank, written, rfl, left', more, behind⟩ := h
  refine ⟨left', ?_, behind⟩
  cases e with
  | list =>
    obtain ⟨ds, ws, others, rfl⟩ := more
    cases reached
    exact ⟨d :: ds, _, .cons (lead_append lead blank) written others, by simp⟩
  | object =>
    obtain ⟨ms, ws, others, rfl⟩ := more
    obtain ⟨b', key, a, before, quoted, behind, rfl⟩ := written_of_passKey reached
    exact ⟨(key, d) :: ms, _, .cons (lead_append lead before) quoted behind blank written others, by simp⟩

theorem demanded_bracket {e : Enclosure} {outer : List Enclosure} {c : Char} {cs inner rest : List Char}
    (start : skipBlanks cs = c :: inner) (opening : c = match e with | .list => '[' | .object => '\x7b')
    (h : Demanded (e :: outer) .first inner rest) : Demanded outer .value cs rest := by
  obtain ⟨b, blank, split⟩ := blank_skipBlanks cs
  obtain ⟨left, inside, behind⟩ := h
  rw [start] at split
  cases e with
  | list =>
    obtain ⟨ds, w, items, rfl⟩ := inside
    exact ⟨b, .list ds, _, left, blank, .list items, by simp [split, opening], behind⟩
  | object =>
    obtain ⟨ms, w, members, rfl⟩ := inside
    exact ⟨b, .object ms, _, left, blank, .object members, by simp [split, opening], behind⟩

theorem demanded_of_pass {opened : List Enclosure} {stage : Stage} {cs rest : List Char}
    (h : pass opened stage cs = .ok rest) : Demanded opened stage cs rest := by
  fun_induction pass opened stage cs with
  | case1 | case4 | case7 | case9 | case11 | case13 | case15 => cases h
  | case2 opened cs inner start ih => exact demanded_bracket start rfl (ih h)
  | case3 opened cs inner start _ ih => exact demanded_bracket start rfl (ih h)
  | case5 opened cs c inner start _ _ left run ih =>
    obtain ⟨b, blank, split⟩ := blank_skipBlanks cs
    obtain ⟨d, w, -, written, rfl⟩ := written_of_passScalar run
    refine ⟨b, d, c :: w, left, blank, written, ?_, ih h⟩
    rw [split, start, List.cons_append]
  | case6 stage cs other =>
    cases h
    cases stage with
    | value => exact absurd rfl other
    | first => rfl
    | more => rfl
  | case8 cs e outer inner start ih =>
    obtain ⟨b, blank, split⟩ := blank_skipBlanks cs
    rw [split, start]
    exact ⟨inner, inside_closer true e blank inner, ih h⟩
  | case10 cs e outer c inner start _ left run ih =>
    obtain ⟨b, blank, split⟩ := blank_skipBlanks cs
    rw [split, start]
    exact inside_value (.first blank) run (ih h)
  | case12 cs e outer inner start ih =>
    obtain ⟨b, blank, split⟩ := blank_skipBlanks cs
    rw [split, start]
    exact ⟨inner, inside_closer false e blank inner, ih h⟩
  | case14 cs e outer inner left run start _ ih =>
    obtain ⟨b, blank, split⟩ := blank_skipBlanks cs
    have reached := inside_value (.more blank blank_nil) run (ih h)
    rw [split, start]
    show ∃ left, Inside false e (b ++ ',' :: inner) left ∧ Behind outer left rest
    simpa using reached

/-- Nothing but a value is passed over. -/
theorem written_of_pass {cs rest : List Char} (h : pass [] .value cs = .ok rest) :
    ∃ b d w, Blank b ∧ Script.Written d w ∧ cs = b ++ (w ++ rest) := by
  obtain ⟨b, d, w, left, blank, written, split, rfl⟩ := demanded_of_pass h
  exact ⟨b, d, w, blank, written, split⟩

end FilterTree.Json
