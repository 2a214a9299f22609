import FilterTree.Proofs.Json.Slot
import FilterTree.Proofs.Json.Written

/-!
# Reading back what has been written

* `Recovers` : the text of a value is that of a script of which a function makes a given result.
* `Recovers.text`, `Recovers.list`, `Recovers.members`, `Recovers.record` : this holds of texts, and of lists and objects where
  it holds of what stands inside them.
* `Exact` : a value without doubles.
* `recovers_json` : a value without doubles that has been read within some levels of brackets is read back from its text
  within these levels.
-/

namespace FilterTree.Json

open Script

/-- The text of a value is that of a script of which a function makes a given result. -/
def Recovers {α : Type} (δ : Script → Option α) (j : Json) (a : α) : Prop := ∃ d : Script, d.Written j.compact ∧ δ d = some a

/-- A member is that of a field, which makes a given value of it. -/
def RecoversField {β : Type} (δs : Decoders β) (j : String × Json) (v : β) : Prop :=
  ∃ δ, δs.decoder? j.1 = some δ ∧ Recovers δ j.2 v

theorem RecoversField.unless {β : Type} {δs : Decoders β} {j : String × Json} {v : β} {p : Prop} [Decidable p]
    (h : ¬p → RecoversField δs j v) :
    List.Forall₂ (RecoversField δs) (if p then [] else [j]) (if p then [] else [v]) := by
  by_cases omitted : p
  · rw [if_pos omitted, if_pos omitted]
    exact .nil
  · rw [if_neg omitted, if_neg omitted]
    exact .cons (h omitted) .nil

namespace Recovers

variable {α β : Type} {δ : Script → Option α} {j : Json} {a : α}

theorem bind (h : Recovers δ j a) {f : α → Option β} {b : β} (value : f a = some b) :
    Recovers (fun d => (δ d).bind f) j b := by
  obtain ⟨d, written, eq⟩ := h
  refine ⟨d, written, ?_⟩
  show (δ d).bind f = some b
  rw [eq, Option.bind_some, value]

theorem map (h : Recovers δ j a) (f : α → β) : Recovers (fun d => (δ d).map f) j (f a) := by
  obtain ⟨d, written, eq⟩ := h
  refine ⟨d, written, ?_⟩
  show (δ d).map f = some (f a)
  rw [eq, Option.map_some]

theorem orNull (h : Recovers δ j a) (null : δ .null = none) : Recovers (Script.orNull δ) j (some a) := by
  obtain ⟨d, written, eq⟩ := h
  have other : d ≠ .null := by
    rintro rfl
    rw [null] at eq
    cases eq
  refine ⟨d, written, ?_⟩
  rw [orNull_of_ne δ other, eq, Option.map_some]

theorem text (s : String) : Recovers text? (.text s) s :=
  ⟨.text _, .text (textWritten_escape s.toList).wellQuoted, textOf?_escape s⟩

theorem items {js : List Json} {as : List α} (h : List.Forall₂ (Recovers δ) js as) :
    ∃ ds : List Script, List.Forall₂ (fun d j => Written d j.compact) ds js ∧ ds.mapM δ = some as := by
  induction h with
  | nil => exact ⟨[], .nil, rfl⟩
  | cons head _ ih =>
    obtain ⟨d, hd, value⟩ := head
    obtain ⟨ds, written, values⟩ := ih
    refine ⟨d :: ds, .cons hd written, ?_⟩
    rw [List.mapM_cons, value, values]
    rfl

theorem list {js : List Json} {as : List α} (h : List.Forall₂ (Recovers δ) js as) :
    Recovers (list? (some δ)) (.list js) as := by
  obtain ⟨ds, written, values⟩ := items h
  exact ⟨.list ds, .list (itemsWritten_compact written), values⟩

theorem members {js : List (String × Json)} {ps : List (String × α)}
    (h : List.Forall₂ (fun j p => j.1 = p.1 ∧ Recovers δ j.2 p.2) js ps) :
    ∃ ms, List.Forall₂ WrittenMember ms js ∧ members? δ ms = some ps := by
  induction h with
  | nil => exact ⟨[], .nil, rfl⟩
  | @cons j p js ps head _ ih =>
    obtain ⟨name, v⟩ := j
    obtain ⟨key, a⟩ := p
    obtain ⟨rfl, d, hd, value⟩ := head
    obtain ⟨ms, written, values⟩ := ih
    refine ⟨(name.toList.flatMap escape, d) :: ms, .cons ⟨rfl, hd⟩ written, ?_⟩
    rw [members?] at values ⊢
    rw [List.mapM_cons, values, textOf?_escape, value]
    rfl

theorem record {δs : Decoders β} {js : List (String × Json)} {vs : List β} (h : List.Forall₂ (RecoversField δs) js vs)
    (nodup : (js.map Prod.fst).Nodup) : Recovers (record? (some δs)) (.object js) vs := by
  have behind : ∀ seen : List String, (∀ j ∈ js, j.1 ∉ seen) →
      ∃ ms, List.Forall₂ WrittenMember ms js ∧ named? δs seen ms = some vs := by
    induction h with
    | nil => exact fun seen _ => ⟨[], .nil, rfl⟩
    | @cons j v js vs head _ ih =>
      intro seen new
      obtain ⟨name, w⟩ := j
      obtain ⟨δ, field, d, hd, value⟩ := head
      rw [List.map_cons, List.nodup_cons] at nodup
      have new' : ∀ j ∈ js, j.1 ∉ name :: seen := by
        intro j hj again
        rcases List.mem_cons.1 again with eq | again
        · exact nodup.1 (List.mem_map.2 ⟨j, hj, eq⟩)
        · exact new j (List.mem_cons_of_mem _ hj) again
      obtain ⟨ms, written, values⟩ := ih nodup.2 (name :: seen) new'
      refine ⟨(name.toList.flatMap escape, d) :: ms, .cons ⟨rfl, hd⟩ written, ?_⟩
      rw [named?_field (textOf?_escape name) field (new _ List.mem_cons_self), value, values]
      rfl
  obtain ⟨ms, written, values⟩ := behind [] fun j _ => List.not_mem_nil
  exact ⟨.object ms, .object (membersWritten_compact written), values⟩

end Recovers

/-! ## Where values come from -/

theorem exists_of_mem_mapM {α β : Type} {f : α → Option β} {xs : List α} {ys : List β} (h : xs.mapM f = some ys) :
    ∀ y ∈ ys, ∃ x ∈ xs, f x = some y := by
  induction xs generalizing ys with
  | nil =>
    cases h
    intro y hy
    cases hy
  | cons x xs ih =>
    rw [List.mapM_cons] at h
    obtain ⟨z, value, rest⟩ := Option.bind_eq_some_iff.1 h
    obtain ⟨zs, values, eq⟩ := Option.bind_eq_some_iff.1 rest
    cases eq
    intro y hy
    rcases List.mem_cons.1 hy with rfl | hy
    · exact ⟨x, List.mem_cons_self, value⟩
    · obtain ⟨x', hx', value'⟩ := ih values y hy
      exact ⟨x', List.mem_cons_of_mem _ hx', value'⟩

namespace Script

variable {β : Type} {δs : Decoders β}

theorem of_orNull {γ : Type} {δ : Script → Option γ} {d : Script} {c : γ} (h : d.orNull δ = some (some c)) : δ d = some c := by
  by_cases null : d = .null
  · rw [null] at h
    cases h
  · rw [orNull_of_ne δ null] at h
    obtain ⟨b, value, eq⟩ := Option.map_eq_some_iff.1 h
    rw [value, eq]

end Script

/-! ## Any value -/

/-- A value without doubles. -/
inductive Exact : Json → Prop where
  | null : Exact .null
  | bool (b : Bool) : Exact (.bool b)
  | number {n : Number} (h : ∀ x, n ≠ .float x) : Exact (.number n)
  | text (s : String) : Exact (.text s)
  | list {js : List Json} (h : ∀ j ∈ js, Exact j) : Exact (.list js)
  | object {ms : List (String × Json)} (h : ∀ m ∈ ms, Exact m.2) : Exact (.object ms)

theorem recovers_scalar {d : Script} {j : Json} (h : d.scalar? = some j) (noFloat : j.Exact)
    (δ : Option (Script → Option Json)) : Recovers (value? δ) j j := by
  cases d with
  | null =>
    cases h
    exact ⟨.null, .null, rfl⟩
  | bool b =>
    cases h
    cases b with
    | true => exact ⟨.bool true, .true, rfl⟩
    | false => exact ⟨.bool false, .false, rfl⟩
  | number m =>
    obtain ⟨n, number, rfl⟩ := Option.map_eq_some_iff.1 h
    cases noFloat with
    | number noFloat =>
      obtain ⟨m', written, value⟩ := Numeral.exists_written (eq_ok_of_toOption number) noFloat
      refine ⟨.number m', .number written, ?_⟩
      show m'.number.toOption.map Json.number = _
      rw [value]
      rfl
  | text raw =>
    obtain ⟨s, -, rfl⟩ := Option.map_eq_some_iff.1 h
    refine ⟨.text _, .text (textWritten_escape s.toList).wellQuoted, ?_⟩
    show (textOf? _).map Json.text = _
    rw [textOf?_escape]
    rfl
  | list ds => cases h
  | object ms => cases h

theorem recovers_value {δ : Option (Script → Option Json)}
    (inner : ∀ ε, δ = some ε → ∀ d j, ε d = some j → j.Exact → Recovers ε j j) {d : Script} {j : Json}
    (h : d.value? δ = some j) (noFloat : j.Exact) : Recovers (value? δ) j j := by
  by_cases scalar : d.IsScalar
  · rw [value?_of_isScalar δ scalar] at h
    exact recovers_scalar h noFloat δ
  · cases δ with
    | none =>
      cases d with
      | list ds => cases h
      | object ms => cases h
      | _ => exact absurd trivial scalar
    | some ε =>
      cases d with
      | list ds =>
        obtain ⟨js, values, rfl⟩ := Option.map_eq_some_iff.1 h
        cases noFloat with
        | list noFloat =>
          have each : List.Forall₂ (Recovers ε) js js := by
            rw [List.forall₂_same]
            intro j hj
            obtain ⟨d, -, value⟩ := exists_of_mem_mapM values j hj
            exact inner ε rfl d j value (noFloat j hj)
          obtain ⟨es, written, values'⟩ := Recovers.items each
          refine ⟨.list es, .list (itemsWritten_compact written), ?_⟩
          show (es.mapM ε).map Json.list = _
          rw [values']
          rfl
      | object ms =>
        obtain ⟨js, values, rfl⟩ := Option.map_eq_some_iff.1 h
        cases noFloat with
        | object noFloat =>
          have each : List.Forall₂ (fun j p => j.1 = p.1 ∧ Recovers ε j.2 p.2) js js := by
            rw [List.forall₂_same]
            intro j hj
            obtain ⟨m, -, value⟩ := exists_of_mem_mapM values j hj
            obtain ⟨key, -, found⟩ := Option.bind_eq_some_iff.1 value
            obtain ⟨v, member, rfl⟩ := Option.map_eq_some_iff.1 found
            exact ⟨rfl, inner ε rfl m.2 v member (noFloat _ hj)⟩
          obtain ⟨ns, written, values'⟩ := Recovers.members each
          refine ⟨.object ns, .object (membersWritten_compact written), ?_⟩
          show (members? ε ns).map Json.object = _
          rw [values']
          rfl
      | _ => exact absurd trivial scalar

/-- A value without doubles that has been read within some levels of brackets is read back from its text within these
levels. -/
theorem recovers_json {levels : Nat} {d : Script} {j : Json} (h : d.json? levels = some j) (noFloat : j.Exact) :
    Recovers (json? levels) j j := by
  induction levels generalizing d j with
  | zero =>
    refine recovers_value ?_ h noFloat
    intro ε eq
    cases eq
  | succ levels ih =>
    refine recovers_value ?_ h noFloat
    intro ε eq d j value noFloat
    cases eq
    exact ih value noFloat

end FilterTree.Json
