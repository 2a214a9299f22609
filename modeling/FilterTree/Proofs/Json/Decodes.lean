import FilterTree.Json.Record
import FilterTree.Proofs.Json.Pass
import Mathlib.Data.List.Forall2

/-!
# What readers make of scripts

* `Reader.Decodes` : a reader that makes of every spelling of a script what a function makes of the script, and that accepts
  nothing else.
* `Script.text?`, `Script.orNull`, `Script.list?`, `Script.value?` : the functions of the readers of JSON.
* `Decoders`, `Script.record?` : the functions of the fields of a record, and that of the record.
* `Reader.Decodes.read_eq_ok_iff` : so a whole text is read just when it is the text of a script with a value.
-/

namespace FilterTree.Json

open Script

/-- The reader makes of a spelling of a script what the function makes of the script, and accepts nothing but scripts. -/
structure Reader.Decodes {α : Type} (r : Reader α) (δ : Script → Option α) : Prop where
  reads : ∀ {d : Script} {w b rest : List Char}, d.Written w → Blank b → Stops rest →
    (r.run (b ++ (w ++ rest))).toOption = (δ d).map (·, rest)
  written : ∀ {cs rest : List Char} {a : α}, r.run cs = .ok (a, rest) →
    ∃ b d w, Blank b ∧ Script.Written d w ∧ cs = b ++ (w ++ rest)

theorem Script.Written.reached {d : Script} {w b : List Char} (h : d.Written w) (blank : Blank b) (rest : List Char) :
    ∃ c cs, w = c :: cs ∧ skipBlanks (b ++ (c :: cs ++ rest)) = c :: (cs ++ rest) := by
  obtain ⟨c, cs, rfl, start⟩ := h.head
  exact ⟨c, cs, rfl, skipBlanks_blank_append blank (not_isBlank_of_not_isStop start) _⟩

theorem eq_ok_of_toOption {ε α : Type} {x : Except ε α} {a : α} (h : x.toOption = some a) : x = .ok a := by
  cases x with
  | error e => cases h
  | ok b => rw [Option.some.inj h]

theorem eq_error_of_toOption {ε α : Type} {x : Except ε α} (h : x.toOption = none) : ∃ e, x = .error e := by
  cases x with
  | error e => exact ⟨e, rfl⟩
  | ok a => cases h

theorem toOption_map {ε α β : Type} (f : α → β) (x : Except ε α) : (x.map f).toOption = x.toOption.map f := by
  cases x <;> rfl

theorem toOption_error {ε α : Type} (e : ε) : (Except.error e : Except ε α).toOption = none := rfl

theorem toOption_ok {ε α : Type} (a : α) : (Except.ok a : Except ε α).toOption = some a := rfl

theorem Reader.map_run {α β : Type} (f : α → β) (r : Reader α) (cs : List Char) :
    (r.map f).run cs = (r.run cs).map fun p => (f p.1, p.2) := by
  unfold Reader.map
  dsimp only
  cases r.run cs <;> rfl

namespace Reader.Decodes

variable {α β : Type} {r : Reader α} {δ : Script → Option α} {d : Script} {w b rest : List Char}

theorem run_of_some (h : r.Decodes δ) (written : d.Written w) (blank : Blank b) (stop : Stops rest) {a : α}
    (value : δ d = some a) : r.run (b ++ (w ++ rest)) = .ok (a, rest) :=
  eq_ok_of_toOption (by rw [h.reads written blank stop, value]; rfl)

theorem run_of_none (h : r.Decodes δ) (written : d.Written w) (blank : Blank b) (stop : Stops rest)
    (value : δ d = none) : ∃ fault, r.run (b ++ (w ++ rest)) = .error fault :=
  eq_error_of_toOption (by rw [h.reads written blank stop, value]; rfl)

theorem map (h : r.Decodes δ) (f : α → β) : (r.map f).Decodes fun d => (δ d).map f where
  reads {d w b rest} written blank stop := by
    rw [Reader.map_run, toOption_map, h.reads written blank stop, Option.map_map, Option.map_map]
    rfl
  written run := by
    rw [Reader.map_run] at run
    obtain ⟨⟨a, rest⟩, inner, eq⟩ := eq_ok_of_map run
    cases eq
    exact h.written inner

theorem choose (h : r.Decodes δ) (cause : Cause) (f : α → Option β) : (r.choose cause f).Decodes fun d => (δ d).bind f where
  reads {d w b rest} written blank stop := by
    cases value : δ d with
    | none =>
      obtain ⟨fault, run⟩ := h.run_of_none written blank stop value
      simp only [Reader.choose, run]
      rfl
    | some a =>
      simp only [Reader.choose, h.run_of_some written blank stop value, Option.bind_some]
      cases f a <;> rfl
  written run := by
    unfold Reader.choose at run
    dsimp only at run
    split at run
    · rename_i inner
      split at run
      · cases run
        exact h.written inner
      · cases run
    · cases run

end Reader.Decodes

/-! ## Values that may be null -/

/-- Nothing for null, and for anything else what a function makes of it. -/
def Script.orNull {α : Type} (δ : Script → Option α) : Script → Option (Option α)
  | .null => some none
  | d => (δ d).map some

theorem Script.orNull_of_ne {α : Type} (δ : Script → Option α) {d : Script} (h : d ≠ .null) :
    d.orNull δ = (δ d).map some := by
  unfold orNull
  split
  · exact absurd rfl h
  · rfl

theorem Reader.orNull_run {α : Type} (r : Reader α) {cs inner : List Char} {c : Char} (start : skipBlanks cs = c :: inner)
    (other : c ≠ 'n') :
    r.orNull.run cs = (r.run (c :: inner)).map fun p => (some p.1, p.2) := by
  unfold Reader.orNull
  dsimp only
  rw [start]
  split
  · rename_i eq
    exact absurd (List.cons.inj eq).1 other
  · cases r.run (c :: inner) <;> rfl

theorem Reader.orNull_run_null {α : Type} (r : Reader α) {b : List Char} (blank : Blank b) (rest : List Char) :
    r.orNull.run (b ++ (['n', 'u', 'l', 'l'] ++ rest)) = .ok (none, rest) := by
  have start : skipBlanks (b ++ (['n', 'u', 'l', 'l'] ++ rest)) = 'n' :: (['u', 'l', 'l'] ++ rest) :=
    skipBlanks_blank_append blank (by decide) _
  simp only [Reader.orNull, start, word_append]

theorem Blank.append {a b : List Char} (h : Blank a) (h' : Blank b) : Blank (a ++ b) := by
  intro c hc
  rcases List.mem_append.1 hc with hc | hc
  · exact h c hc
  · exact h' c hc

theorem Reader.Decodes.orNull {α : Type} {r : Reader α} {δ : Script → Option α} (h : r.Decodes δ) :
    r.orNull.Decodes (Script.orNull δ) where
  reads {d w b rest} written blank stop := by
    by_cases null : d = .null
    · subst null
      cases written
      rw [r.orNull_run_null blank rest]
      rfl
    · obtain ⟨c, cs, rfl, found⟩ := written.reached blank rest
      have read := h.reads written blank_nil stop
      have other : c ≠ 'n' := by
        rintro rfl
        exact null written.begins.null
      rw [List.nil_append, List.cons_append] at read
      rw [r.orNull_run found other, toOption_map, read, Script.orNull_of_ne δ null, Option.map_map, Option.map_map]
      rfl
  written {cs rest a} run := by
    obtain ⟨b, blank, split⟩ := blank_skipBlanks cs
    unfold Reader.orNull at run
    dsimp only at run
    split at run
    · rename_i inner start
      split at run
      · rename_i left found
        cases run
        refine ⟨b, .null, _, blank, .null, ?_⟩
        rw [split, start, eq_of_word found]
        rfl
      · cases run
    · split at run
      · rename_i found
        cases run
        obtain ⟨b', d, w, blank', written, eq⟩ := h.written found
        refine ⟨b ++ b', d, w, blank.append blank', written, ?_⟩
        rw [split, eq, List.append_assoc]
      · cases run

/-! ## Values without brackets -/

namespace Script

def text? : Script → Option String
  | .text raw => textOf? raw
  | _ => none

def scalar? : Script → Option Json
  | .null => some .null
  | .bool b => some (.bool b)
  | .number m => m.number.toOption.map .number
  | .text raw => (textOf? raw).map .text
  | .list _ => none
  | .object _ => none

end Script

theorem Reader.decodes_text : Reader.text.Decodes Script.text? where
  reads {d w b rest} written blank stop := by
    obtain ⟨c, cs, rfl, found⟩ := written.reached blank rest
    simp only [Reader.text, found]
    by_cases text : ∃ raw, d = .text raw
    · obtain ⟨raw, rfl⟩ := text
      cases written with
      | text closed =>
        rw [if_pos rfl, List.append_assoc, toOption_map]
        show ((quoted (raw ++ '"' :: rest)).toOption).map _ = _
        rw [toOption_quoted closed, Option.map_map]
        simp [Script.text?, Function.comp_def]
    · have other : c ≠ '"' := by
        rintro rfl
        exact text written.begins.text
      rw [if_neg other, toOption_error]
      unfold Script.text?
      split
      · exact absurd ⟨_, rfl⟩ text
      · rfl
  written {cs rest a} run := by
    obtain ⟨b, blank, split⟩ := blank_skipBlanks cs
    unfold Reader.text at run
    dsimp only at run
    split at run
    · cases run
    · rename_i c inner start
      by_cases quote : c = '"'
      · rw [if_pos quote] at run
        obtain ⟨⟨cs', left⟩, found, eq⟩ := eq_ok_of_map run
        cases eq
        obtain ⟨raw, written, rfl⟩ := quoted_eq_ok_iff.1 found
        refine ⟨b, .text raw, _, blank, .text written.wellQuoted, ?_⟩
        rw [split, start, quote]
        simp
      · rw [if_neg quote] at run
        cases run

theorem toOption_number {m : Numeral} {w rest : List Char} (h : m.Written w) (stop : Stops rest) :
    ((Reader.number.map Json.number).run (w ++ rest)).toOption = (m.number.toOption.map Json.number).map (·, rest) := by
  simp only [Reader.map, Reader.number, numeral_written h stop]
  cases m.number <;> rfl

theorem scalar_text (cs : List Char) :
    scalar ('"' :: cs) = (quoted cs).map fun p => (Json.text (String.ofList p.1), p.2) := by
  rw [scalar, if_neg (by decide), if_neg (by decide), if_neg (by decide), if_pos rfl]
  cases quoted cs <;> rfl

theorem toOption_scalar {d : Script} {w rest : List Char} (h : d.Written w) (isScalar : d.IsScalar) (stop : Stops rest) :
    (scalar (w ++ rest)).toOption = d.scalar?.map (·, rest) := by
  cases h with
  | list => cases isScalar
  | object => cases isScalar
  | null =>
    show (wordValue ['u', 'l', 'l'] .null (['u', 'l', 'l'] ++ rest)).toOption = _
    rw [wordValue, word_append]
    rfl
  | true =>
    show (wordValue ['r', 'u', 'e'] (.bool true) (['r', 'u', 'e'] ++ rest)).toOption = _
    rw [wordValue, word_append]
    rfl
  | false =>
    show (wordValue ['a', 'l', 's', 'e'] (.bool false) (['a', 'l', 's', 'e'] ++ rest)).toOption = _
    rw [wordValue, word_append]
    rfl
  | @text raw closed =>
    rw [List.cons_append, List.append_assoc, List.singleton_append, scalar_text, toOption_map, toOption_quoted closed rest,
      Option.map_map, Script.scalar?, Option.map_map]
    simp [Function.comp_def]
  | @number m w written =>
    obtain ⟨c, cs, rfl, -⟩ := Script.Written.head (.number written)
    obtain ⟨n, t, f, quote, -, -⟩ := ne_of_number written.head
    rw [List.cons_append, scalar, if_neg n, if_neg t, if_neg f, if_neg quote, if_pos written.head]
    exact toOption_number written stop

theorem written_of_wordValue {letters cs rest : List Char} {v a : Json} (h : wordValue letters v cs = .ok (a, rest)) :
    cs = letters ++ rest := by
  unfold wordValue at h
  cases run : word letters cs with
  | error fault =>
    rw [run] at h
    cases h
  | ok left =>
    rw [run] at h
    cases h
    exact eq_of_word run

theorem written_of_number {cs rest : List Char} {n : Number} (h : Reader.number.run cs = .ok (n, rest)) :
    ∃ (m : Numeral) (w : List Char), m.Written w ∧ cs = w ++ rest := by
  unfold Reader.number at h
  dsimp only at h
  cases run : numeral .endInValue cs with
  | error fault =>
    rw [run] at h
    cases h
  | ok p =>
    obtain ⟨m, left⟩ := p
    simp only [run] at h
    obtain ⟨w, written, split⟩ := written_of_numeral run
    cases value : m.number with
    | error unread =>
      rw [value] at h
      cases h
    | ok n =>
      rw [value] at h
      cases h
      exact ⟨m, w, written, split⟩

theorem written_of_scalar {cs rest : List Char} {v : Json} (h : scalar cs = .ok (v, rest)) :
    ∃ d w, Script.Written d w ∧ cs = w ++ rest := by
  match cs with
  | [] => cases h
  | c :: cs =>
    rw [scalar] at h
    by_cases n : c = 'n'
    · rw [if_pos n] at h
      exact ⟨.null, _, .null, by rw [n, written_of_wordValue h]; rfl⟩
    by_cases t : c = 't'
    · rw [if_neg n, if_pos t] at h
      exact ⟨.bool true, _, .true, by rw [t, written_of_wordValue h]; rfl⟩
    by_cases f : c = 'f'
    · rw [if_neg n, if_neg t, if_pos f] at h
      exact ⟨.bool false, _, .false, by rw [f, written_of_wordValue h]; rfl⟩
    by_cases quote : c = '"'
    · rw [← scalar, quote, scalar_text] at h
      obtain ⟨⟨inner, left⟩, run, eq⟩ := eq_ok_of_map h
      cases eq
      obtain ⟨raw, written, rfl⟩ := quoted_eq_ok_iff.1 run
      exact ⟨.text raw, _, .text written.wellQuoted, by rw [quote]; simp⟩
    rw [if_neg n, if_neg t, if_neg f, if_neg quote] at h
    by_cases number : c = '-' ∨ c.isDigit
    · rw [if_pos number, Reader.map_run] at h
      obtain ⟨⟨k, left⟩, run, eq⟩ := eq_ok_of_map h
      cases eq
      obtain ⟨m, w, written, split⟩ := written_of_number run
      exact ⟨.number m, w, .number written, split⟩
    · rw [if_neg number] at h
      cases h

/-! ## Whole texts -/

namespace Reader.Decodes

variable {α : Type} {r : Reader α} {δ : Script → Option α}

theorem toOption_read (h : r.Decodes δ) {d : Script} {text : String} (spans : d.Spans text) :
    (r.read text).toOption = δ d := by
  obtain ⟨a, w, b, before, written, behind, split⟩ := spans
  have stop : Stops b := by
    match b with
    | [] => trivial
    | c :: b => exact isStop_of_isBlank (behind c List.mem_cons_self)
  have blanks : skipBlanks b = [] := by
    have skipped := skipBlanks_append behind []
    rwa [List.append_nil] at skipped
  cases value : δ d with
  | none =>
    obtain ⟨fault, run⟩ := h.run_of_none written before stop value
    rw [read, split, run]
    rfl
  | some v =>
    rw [read, split, h.run_of_some written before stop value]
    simp only [blanks]
    rfl

theorem spans_of_read (h : r.Decodes δ) {text : String} {v : α} (run : r.read text = .ok v) :
    ∃ d : Script, d.Spans text := by
  unfold read at run
  cases inner : r.run text.toList with
  | error fault =>
    rw [inner] at run
    cases run
  | ok p =>
    obtain ⟨u, rest⟩ := p
    simp only [inner] at run
    obtain ⟨b, blank, split⟩ := blank_skipBlanks rest
    cases left : skipBlanks rest with
    | cons c cs =>
      rw [left] at run
      cases run
    | nil =>
      rw [left, List.append_nil] at split
      obtain ⟨a, d, w, before, written, eq⟩ := h.written inner
      exact ⟨d, a, w, rest, before, written, split ▸ blank, eq⟩

/-- A text is read just when it is the text of a script that stands for something. -/
theorem read_eq_ok_iff (h : r.Decodes δ) {text : String} {v : α} :
    r.read text = .ok v ↔ ∃ d : Script, d.Spans text ∧ δ d = some v := by
  constructor
  · intro run
    obtain ⟨d, spans⟩ := h.spans_of_read run
    refine ⟨d, spans, ?_⟩
    rw [← h.toOption_read spans, run]
    rfl
  · rintro ⟨d, spans, value⟩
    apply eq_ok_of_toOption
    rw [h.toOption_read spans, value]

end Reader.Decodes

end FilterTree.Json
