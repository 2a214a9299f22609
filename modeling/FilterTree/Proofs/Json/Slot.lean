import FilterTree.Proofs.Json.Members

/-!
# The fields of a record and their places

* `Script.Field` : a record that has a field with some value.
* `Script.exists_of_mem_record?`, `Script.nodup_of_record?` : what a record is read as comes from fields of the record, which
  are all different.
* `Script.Slot` : a record with a gap where a field has its value.
* `Script.Inserts` : what is put in makes one of several values, and none of the others.
* `Script.Slot.inserts` : this holds of the gap of a record.
-/

namespace FilterTree.Json.Script

variable {β : Type} {δs : Decoders β}

/-! ## Fields -/

/-- A record has a field with a value: as a member of an object, or as an element of a list. -/
inductive Field (names : List String) (name : String) : Script → Script → Prop where
  | member {key : List Char} {d : Script} {ms : List (List Char × Script)} (named : TextWritten name.toList key)
    (h : (key, d) ∈ ms) : Field names name (.object ms) d
  | item {i : Nat} {d : Script} {ds : List Script} (place : names[i]? = some name) (h : ds[i]? = some d) :
    Field names name (.list ds) d

theorem exists_of_mem_positional? {ds : List Script} {vs : List β} (h : positional? δs ds = some vs) :
    ∀ v ∈ vs, ∃ (i : Nat) (f : String × (Script → Option β)) (d : Script),
      δs[i]? = some f ∧ ds[i]? = some d ∧ f.2 d = some v := by
  induction δs generalizing ds vs with
  | nil =>
    cases ds with
    | nil =>
      cases h
      intro v hv
      cases hv
    | cons d ds => cases h
  | cons f δs ih =>
    cases ds with
    | nil =>
      cases h
      intro v hv
      cases hv
    | cons d ds =>
      obtain ⟨u, value, rest⟩ := Option.bind_eq_some_iff.1 h
      obtain ⟨us, values, rfl⟩ := Option.map_eq_some_iff.1 rest
      intro v hv
      rcases List.mem_cons.1 hv with rfl | hv
      · exact ⟨0, f, d, rfl, rfl, value⟩
      · obtain ⟨i, g, e, field, item, found⟩ := ih values v hv
        exact ⟨i + 1, g, e, field, item, found⟩

theorem exists_of_mem_named? {seen : List String} {ms : List (List Char × Script)} {vs : List β}
    (h : named? δs seen ms = some vs) : ∀ v ∈ vs, ∃ f ∈ δs, ∃ m ∈ ms, textOf? m.1 = some f.1 ∧ f.2 m.2 = some v := by
  induction ms generalizing seen vs with
  | nil =>
    cases h
    intro v hv
    cases hv
  | cons m ms ih =>
    rcases named?_cons_cases h with read | ⟨name, δ, u, us, text, -, field, value, read, rfl⟩
    · intro v hv
      obtain ⟨f, hf, n, hn, found⟩ := ih read v hv
      exact ⟨f, hf, n, List.mem_cons_of_mem _ hn, found⟩
    · intro v hv
      rcases List.mem_cons.1 hv with rfl | hv
      · exact ⟨_, field, m, List.mem_cons_self, text, value⟩
      · obtain ⟨f, hf, n, hn, found⟩ := ih read v hv
        exact ⟨f, hf, n, List.mem_cons_of_mem _ hn, found⟩

theorem exists_of_mem_record? {d : Script} {vs : List β} (h : d.record? (some δs) = some vs) :
    ∀ v ∈ vs, ∃ f ∈ δs, ∃ e, Field (δs.map Prod.fst) f.1 d e ∧ f.2 e = some v := by
  intro v hv
  cases d with
  | list ds =>
    obtain ⟨i, f, e, field, item, value⟩ := exists_of_mem_positional? h v hv
    have place : (δs.map Prod.fst)[i]? = some f.1 := by rw [List.getElem?_map, field, Option.map_some]
    exact ⟨f, List.mem_of_getElem? field, e, .item place item, value⟩
  | object ms =>
    obtain ⟨f, hf, m, hm, text, value⟩ := exists_of_mem_named? h v hv
    exact ⟨f, hf, m.2, .member (textOf?_eq_some_iff.1 text) hm, value⟩
  | _ => cases h

theorem map_positional? {kind : β → String} (kinds : ∀ f ∈ δs, ∀ d v, f.2 d = some v → kind v = f.1) {ds : List Script}
    {vs : List β} (h : positional? δs ds = some vs) : vs.map kind <+: δs.map Prod.fst := by
  induction δs generalizing ds vs with
  | nil =>
    cases ds with
    | nil =>
      cases h
      exact List.prefix_rfl
    | cons d ds => cases h
  | cons f δs ih =>
    cases ds with
    | nil =>
      cases h
      exact List.nil_prefix
    | cons d ds =>
      obtain ⟨v, value, rest⟩ := Option.bind_eq_some_iff.1 h
      obtain ⟨ws, values, rfl⟩ := Option.map_eq_some_iff.1 rest
      rw [List.map_cons, List.map_cons, kinds f List.mem_cons_self d v value, List.prefix_cons_inj]
      exact ih (fun g hg => kinds g (List.mem_cons_of_mem _ hg)) values

theorem nodup_of_record? {kind : β → String} (kinds : ∀ f ∈ δs, ∀ d v, f.2 d = some v → kind v = f.1)
    (nodup : (δs.map Prod.fst).Nodup) {d : Script} {vs : List β} (h : d.record? (some δs) = some vs) :
    (vs.map kind).Nodup := by
  cases d with
  | list ds => exact nodup.sublist (map_positional? kinds h).sublist
  | object ms => exact (nodup_of_named? kinds h).1
  | _ => cases h

/-! ## Gaps -/

/-- A record with a gap where one of its fields has its value. -/
inductive Slot (names : List String) (name : String) : (Script → Script) → Prop where
  | member {key : List Char} {ms ns : List (List Char × Script)} (field : name ∈ names)
    (named : TextWritten name.toList key) : Slot names name fun d => .object (ms ++ (key, d) :: ns)
  | item {ds es : List Script} (place : names[ds.length]? = some name) : Slot names name fun d => .list (ds ++ d :: es)

theorem Slot.ne_null {names : List String} {name : String} {C : Script → Script} (slot : Slot names name C) (d : Script) :
    C d ≠ .null := by
  cases slot <;> nofun

/-- What is put in makes one of the values, if there are values at all, and none of the others. -/
def Inserts {α γ : Type} (f : α → Option (List γ)) (g : α → Option γ) : Prop :=
  (∀ a, f a = none) ∨ ∃ vs ws, ∀ a, f a = (g a).map fun v => vs ++ v :: ws

namespace Inserts

variable {α γ : Type} {f : α → Option (List γ)} {g : α → Option γ}

theorem head (g : α → Option γ) (rest : Option (List γ)) : Inserts (fun a => (g a).bind fun v => rest.map (v :: ·)) g := by
  cases rest with
  | none => exact .inl fun a => Option.bind_fun_none (g a)
  | some ws =>
    refine .inr ⟨[], ws, fun a => ?_⟩
    dsimp only
    cases g a <;> rfl

theorem cons (h : Inserts f g) (x : Option γ) : Inserts (fun a => x.bind fun v => (f a).map (v :: ·)) g := by
  cases x with
  | none => exact .inl fun a => rfl
  | some v =>
    rcases h with never | ⟨vs, ws, values⟩
    · refine .inl fun a => ?_
      dsimp only
      rw [Option.bind_some, never a, Option.map_none]
    · refine .inr ⟨v :: vs, ws, fun a => ?_⟩
      dsimp only
      rw [Option.bind_some, values a]
      cases g a <;> rfl

theorem mapM (g : α → Option γ) (as bs : List α) : Inserts (fun a => (as ++ a :: bs).mapM g) g := by
  have step : ∀ x xs, (x :: xs).mapM g = (g x).bind fun v => (xs.mapM g).map (v :: ·) := by
    intro x xs
    rw [List.mapM_cons]
    cases g x with
    | none => rfl
    | some v => cases xs.mapM g <;> rfl
  induction as with
  | nil => simpa only [List.nil_append, step] using head g (bs.mapM g)
  | cons a as ih => simpa only [List.cons_append, step] using ih.cons (g a)

theorem eq_none (h : Inserts f g) {a : α} (refused : g a = none) : f a = none := by
  rcases h with never | ⟨vs, ws, values⟩
  · exact never a
  · rw [values a, refused, Option.map_none]

end Inserts

theorem inserts_named? {key : List Char} {name : String} (text : textOf? key = some name) {δ : Script → Option β}
    (found : δs.decoder? name = some δ) (ms ns : List (List Char × Script)) (seen : List String) :
    Inserts (fun d => named? δs seen (ms ++ (key, d) :: ns)) δ := by
  induction ms generalizing seen with
  | nil =>
    by_cases again : name ∈ seen
    · exact .inl fun d => named?_of_mem text again d ns
    · simpa only [List.nil_append, named?_field text found again] using Inserts.head δ (named? δs (name :: seen) ns)
  | cons m ms ih =>
    obtain ⟨key', d'⟩ := m
    cases text' : textOf? key' with
    | none => exact .inl fun d => named?_of_key_none text' d' _ seen
    | some name' =>
      by_cases again : name' ∈ seen
      · exact .inl fun d => named?_of_mem text' again d' _
      · cases field : δs.decoder? name' with
        | none => simpa only [List.cons_append, named?_unknown text' field again] using ih seen
        | some δ' => simpa only [List.cons_append, named?_field text' field again] using (ih (name' :: seen)).cons (δ' d')

theorem inserts_positional? {f : String × (Script → Option β)} {ds : List Script} (here : δs[ds.length]? = some f)
    (es : List Script) : Inserts (fun d => positional? δs (ds ++ d :: es)) f.2 := by
  induction δs generalizing ds with
  | nil => cases here
  | cons g δs ih =>
    cases ds with
    | nil =>
      cases here
      exact Inserts.head f.2 (positional? δs es)
    | cons d' ds => exact (ih here).cons (g.2 d')

theorem Slot.inserts {name : String} {C : Script → Script} (slot : Slot (δs.map Prod.fst) name C)
    (nodup : (δs.map Prod.fst).Nodup) {δ : Script → Option β} (field : (name, δ) ∈ δs) :
    Inserts (fun d => (C d).record? (some δs)) δ := by
  have found := decoder?_of_mem nodup field
  cases slot with
  | member _ named => exact inserts_named? (textOf?_eq_some_iff.2 named) found _ _ []
  | item place =>
    rw [List.getElem?_map] at place
    obtain ⟨f, here, rfl⟩ := Option.map_eq_some_iff.1 place
    have other : δs.decoder? f.1 = some f.2 := decoder?_of_mem nodup (List.mem_of_getElem? here)
    obtain rfl : f.2 = δ := Option.some.inj (other.symm.trans found)
    exact inserts_positional? here _

end FilterTree.Json.Script
