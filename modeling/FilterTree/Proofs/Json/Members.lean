import FilterTree.Proofs.Json.Record
import Mathlib.Data.List.Nodup
import Mathlib.Data.List.Perm.Basic

/-!
# The members of a record

What the fields of a record amount to does not depend on how they are written.

* `Script.named?_perm` : members in another order have the same values in another order.
* `Script.named?_unknown` : a member that is no field does not count.
* `Script.named?_congr`, `Script.positional?_congr` : nor does a change of a member that its field does not see.
* `Script.named?_zip` : the list of the values of fields has the same values as the object with these fields.
* `Script.nodup_of_named?` : the values come from fields that are all different.
-/

namespace FilterTree.Json.Script

variable {β : Type} {δs : Decoders β}

/-! ## One member -/

theorem named?_cons {seen : List String} {key : List Char} {name : String} (text : textOf? key = some name) (d : Script)
    (ms : List (List Char × Script)) :
    named? δs seen ((key, d) :: ms) =
      if name ∈ seen then none
      else match δs.decoder? name with
        | some δ => (δ d).bind fun v => (named? δs (name :: seen) ms).map (v :: ·)
        | none => named? δs seen ms := by
  rw [named?, text]
  rfl

theorem named?_unknown {seen : List String} {key : List Char} {name : String} (text : textOf? key = some name)
    (other : δs.decoder? name = none) (new : name ∉ seen) (d : Script) (ms : List (List Char × Script)) :
    named? δs seen ((key, d) :: ms) = named? δs seen ms := by
  rw [named?_cons text, if_neg new, other]

theorem named?_field {seen : List String} {key : List Char} {name : String} (text : textOf? key = some name)
    {δ : Script → Option β} (field : δs.decoder? name = some δ) (new : name ∉ seen) (d : Script)
    (ms : List (List Char × Script)) :
    named? δs seen ((key, d) :: ms) = (δ d).bind fun v => (named? δs (name :: seen) ms).map (v :: ·) := by
  rw [named?_cons text, if_neg new, field]

/-- Only what is among the fields seen before counts, not their order. -/
theorem named?_congr_seen {seen seen' : List String} (h : ∀ name, name ∈ seen ↔ name ∈ seen')
    (ms : List (List Char × Script)) : named? δs seen ms = named? δs seen' ms := by
  induction ms generalizing seen seen' with
  | nil => rfl
  | cons m ms ih =>
    obtain ⟨key, d⟩ := m
    cases text : textOf? key with
    | none => rw [named?, named?, text, Option.bind_none, Option.bind_none]
    | some name =>
      have more : ∀ x, x ∈ name :: seen ↔ x ∈ name :: seen' := by
        intro x
        rw [List.mem_cons, List.mem_cons, h x]
      rw [named?_cons text, named?_cons text, ih h, ih more]
      simp only [h name]

/-- A field that no member names may be among the fields seen before. -/
theorem named?_absent {seen : List String} {name : String} {ms : List (List Char × Script)}
    (absent : ∀ m ∈ ms, textOf? m.1 ≠ some name) : named? δs (name :: seen) ms = named? δs seen ms := by
  induction ms generalizing seen with
  | nil => rfl
  | cons m ms ih =>
    obtain ⟨key, d⟩ := m
    have later := fun m hm => absent m (List.mem_cons_of_mem _ hm)
    cases text : textOf? key with
    | none => rw [named?, named?, text, Option.bind_none, Option.bind_none]
    | some other =>
      have ne : other ≠ name := by
        rintro rfl
        exact absent _ List.mem_cons_self text
      have swap : ∀ x, x ∈ other :: name :: seen ↔ x ∈ name :: other :: seen := by
        intro x
        simp only [List.mem_cons]
        tauto
      rw [named?_cons text, named?_cons text, ih later, named?_congr_seen swap, ih later]
      simp only [List.mem_cons, ne, false_or]

/-- A change of a member that makes no difference in front makes none behind other members. -/
theorem named?_congr {m m' : List Char × Script} {ns : List (List Char × Script)}
    (h : ∀ seen, named? δs seen (m :: ns) = named? δs seen (m' :: ns)) (ms : List (List Char × Script)) (seen : List String) :
    named? δs seen (ms ++ m :: ns) = named? δs seen (ms ++ m' :: ns) := by
  induction ms generalizing seen with
  | nil => exact h seen
  | cons n ms ih =>
    obtain ⟨key, d⟩ := n
    rw [List.cons_append, List.cons_append, named?, named?]
    simp only [ih]

theorem positional?_congr {δs : Decoders β} {ds : List Script} {d e : Script} {es : List Script}
    (h : ∀ f, δs[ds.length]? = some f → f.2 d = f.2 e) :
    positional? δs (ds ++ d :: es) = positional? δs (ds ++ e :: es) := by
  induction ds generalizing δs with
  | nil =>
    cases δs with
    | nil => rfl
    | cons f δs =>
      have same : f.2 d = f.2 e := h f rfl
      rw [List.nil_append, List.nil_append, positional?, positional?, same]
  | cons c ds ih =>
    cases δs with
    | nil => rfl
    | cons f δs =>
      rw [List.cons_append, List.cons_append, positional?, positional?]
      rw [ih fun g hg => h g (by simpa using hg)]

/-! ## The order of members -/

theorem rel_perm_refl (x : Option (List β)) : Option.Rel List.Perm x x := by
  cases x with
  | none => exact .none
  | some vs => exact .some (.refl vs)

theorem rel_perm_trans {x y z : Option (List β)} (h : Option.Rel List.Perm x y) (h' : Option.Rel List.Perm y z) :
    Option.Rel List.Perm x z := by
  cases h with
  | none => exact h'
  | some h =>
    cases h' with
    | some h' => exact .some (h.trans h')

theorem rel_perm_map {x y : Option (List β)} (h : Option.Rel List.Perm x y) (v : β) :
    Option.Rel List.Perm (x.map (v :: ·)) (y.map (v :: ·)) := by
  cases h with
  | none => exact .none
  | some h => exact .some (h.cons v)

/-- What is refused whatever has been seen is refused behind a member, too. -/
theorem named?_cons_none {seen : List String} {ms : List (List Char × Script)}
    (h : ∀ seen', (∀ name ∈ seen, name ∈ seen') → named? δs seen' ms = none) (m : List Char × Script) :
    named? δs seen (m :: ms) = none := by
  obtain ⟨key, d⟩ := m
  cases text : textOf? key with
  | none => rw [named?, text, Option.bind_none]
  | some name =>
    rw [named?_cons text, h seen fun x hx => hx, h (name :: seen) fun x hx => List.mem_cons_of_mem _ hx]
    split
    · rfl
    · split
      · rename_i δ _
        cases δ d <;> rfl
      · rfl

theorem named?_of_key_none {key : List Char} (text : textOf? key = none) (d : Script) (ms : List (List Char × Script))
    (seen : List String) : named? δs seen ((key, d) :: ms) = none := by
  rw [named?, text, Option.bind_none]

theorem named?_of_mem {seen : List String} {key : List Char} {name : String} (text : textOf? key = some name)
    (again : name ∈ seen) (d : Script) (ms : List (List Char × Script)) : named? δs seen ((key, d) :: ms) = none := by
  rw [named?_cons text, if_pos again]

/-- A member that is no field may change places with the one behind it. -/
theorem named?_unknown_swap {seen : List String} {key : List Char} {name : String} (text : textOf? key = some name)
    (other : δs.decoder? name = none) (new : name ∉ seen) (d : Script) (n : List Char × Script)
    (ms : List (List Char × Script)) :
    named? δs seen ((key, d) :: n :: ms) = named? δs seen (n :: (key, d) :: ms) := by
  obtain ⟨key', d'⟩ := n
  rw [named?_unknown text other new]
  cases text' : textOf? key' with
  | none => rw [named?_of_key_none text', named?_of_key_none text']
  | some name' =>
    by_cases again : name' ∈ seen
    · rw [named?_of_mem text' again, named?_of_mem text' again]
    · cases field : δs.decoder? name' with
      | none => rw [named?_unknown text' field again, named?_unknown text' field again, named?_unknown text other new]
      | some δ =>
        have ne : name ≠ name' := by
          rintro rfl
          rw [other] at field
          cases field
        have still : name ∉ name' :: seen := by simp [ne, new]
        rw [named?_field text' field again, named?_field text' field again, named?_unknown text other still]

theorem named?_twice {seen : List String} {key key' : List Char} {name : String} (text : textOf? key = some name)
    (text' : textOf? key' = some name) {δ : Script → Option β} (field : δs.decoder? name = some δ) (new : name ∉ seen)
    (d d' : Script) (ms : List (List Char × Script)) : named? δs seen ((key, d) :: (key', d') :: ms) = none := by
  rw [named?_field text field new, named?_of_mem text' List.mem_cons_self]
  cases δ d <;> rfl

/-- Two fields may change places, and so do their values. -/
theorem named?_fields_swap {seen : List String} {key key' : List Char} {name name' : String}
    (text : textOf? key = some name) (text' : textOf? key' = some name') {δ δ' : Script → Option β}
    (field : δs.decoder? name = some δ) (field' : δs.decoder? name' = some δ') (new : name ∉ seen) (new' : name' ∉ seen)
    (ne : name ≠ name') (d d' : Script) (ms : List (List Char × Script)) :
    Option.Rel List.Perm (named? δs seen ((key, d) :: (key', d') :: ms))
      (named? δs seen ((key', d') :: (key, d) :: ms)) := by
  have still : name ∉ name' :: seen := by simp [ne, new]
  have still' : name' ∉ name :: seen := by simp [ne.symm, new']
  have swap : ∀ x, x ∈ name :: name' :: seen ↔ x ∈ name' :: name :: seen := by
    intro x
    simp only [List.mem_cons]
    tauto
  rw [named?_field text field new, named?_field text' field' new', named?_field text' field' still',
    named?_field text field still, named?_congr_seen swap]
  cases δ d with
  | none => cases δ' d' <;> exact .none
  | some v =>
    cases δ' d' with
    | none => exact .none
    | some v' =>
      cases named? δs (name' :: name :: seen) ms with
      | none => exact .none
      | some vs => exact .some (.swap v' v vs)

theorem named?_swap (seen : List String) (m n : List Char × Script) (ms : List (List Char × Script)) :
    Option.Rel List.Perm (named? δs seen (m :: n :: ms)) (named? δs seen (n :: m :: ms)) := by
  obtain ⟨key, d⟩ := m
  obtain ⟨key', d'⟩ := n
  cases text : textOf? key with
  | none =>
    rw [named?_of_key_none text, named?_cons_none fun seen' _ => named?_of_key_none text d ms seen']
    exact .none
  | some name =>
    cases text' : textOf? key' with
    | none =>
      rw [named?_of_key_none text', named?_cons_none fun seen' _ => named?_of_key_none text' d' ms seen']
      exact .none
    | some name' =>
      by_cases again : name ∈ seen
      · rw [named?_of_mem text again, named?_cons_none fun seen' le => named?_of_mem text (le _ again) d ms]
        exact .none
      by_cases again' : name' ∈ seen
      · rw [named?_of_mem text' again', named?_cons_none fun seen' le => named?_of_mem text' (le _ again') d' ms]
        exact .none
      cases field : δs.decoder? name with
      | none =>
        rw [named?_unknown_swap text field again]
        exact rel_perm_refl _
      | some δ =>
        cases field' : δs.decoder? name' with
        | none =>
          rw [← named?_unknown_swap text' field' again']
          exact rel_perm_refl _
        | some δ' =>
          by_cases same : name = name'
          · subst same
            rw [named?_twice text text' field again, named?_twice text' text field again]
            exact .none
          · exact named?_fields_swap text text' field field' again again' same d d' ms

theorem named?_perm {ms ns : List (List Char × Script)} (h : ms.Perm ns) (seen : List String) :
    Option.Rel List.Perm (named? δs seen ms) (named? δs seen ns) := by
  induction h generalizing seen with
  | nil => exact .some .nil
  | @cons m ms ns _ ih =>
    obtain ⟨key, d⟩ := m
    cases text : textOf? key with
    | none =>
      rw [named?_of_key_none text, named?_of_key_none text]
      exact .none
    | some name =>
      rw [named?_cons text, named?_cons text]
      split
      · exact .none
      · split
        · rename_i δ _
          cases δ d with
          | none => exact .none
          | some v => exact rel_perm_map (ih (name :: seen)) v
        · exact ih seen
  | swap m n ms => exact named?_swap seen n m ms
  | trans _ _ ih ih' => exact rel_perm_trans (ih seen) (ih' seen)

/-! ## Lists of fields -/

theorem decoder?_of_mem (nodup : (δs.map Prod.fst).Nodup) {name : String} {δ : Script → Option β} (h : (name, δ) ∈ δs) :
    δs.decoder? name = some δ := by
  induction δs with
  | nil => cases h
  | cons f δs ih =>
    rw [List.map_cons, List.nodup_cons] at nodup
    rcases List.mem_cons.1 h with rfl | h
    · rw [Decoders.decoder?, List.find?_cons_of_pos (by simp)]
      rfl
    · have ne : f.1 ≠ name := by
        rintro rfl
        exact nodup.1 (List.mem_map.2 ⟨_, h, rfl⟩)
      rw [Decoders.decoder?, List.find?_cons_of_neg (by simpa using ne)]
      exact ih nodup.2 h

/-- The members with the names of fields and the values of a list. -/
def zipMembers (names : List String) (ds : List Script) : List (List Char × Script) :=
  (names.zip ds).map fun m => (m.1.toList, m.2)

theorem named?_zip (nodup : (δs.map Prod.fst).Nodup) (plain : ∀ f ∈ δs, textOf? f.1.toList = some f.1) {ds : List Script}
    (short : ds.length ≤ δs.length) : named? δs [] (zipMembers (δs.map Prod.fst) ds) = positional? δs ds := by
  -- The fields in front have been read, and none of them comes again.
  have behind : ∀ (fs : Decoders β) (seen : List String) (ds : List Script), fs ⊆ δs → (fs.map Prod.fst).Nodup →
      (∀ f ∈ fs, f.1 ∉ seen) → ds.length ≤ fs.length →
      named? δs seen (zipMembers (fs.map Prod.fst) ds) = positional? fs ds := by
    intro fs
    induction fs with
    | nil =>
      intro seen ds _ _ _ short
      rw [List.length_eq_zero_iff.1 (Nat.le_zero.1 short)]
      rfl
    | cons f fs ih =>
      intro seen ds sub distinct new short
      cases ds with
      | nil => rfl
      | cons d ds =>
        obtain ⟨name, δ⟩ := f
        rw [List.map_cons, List.nodup_cons] at distinct
        have here : (name, δ) ∈ δs := sub List.mem_cons_self
        have new' : ∀ f ∈ fs, f.1 ∉ name :: seen := by
          intro f hf again
          rcases List.mem_cons.1 again with eq | again
          · exact distinct.1 (List.mem_map.2 ⟨f, hf, eq⟩)
          · exact new f (List.mem_cons_of_mem _ hf) again
        have others := ih (name :: seen) ds (fun f hf => sub (List.mem_cons_of_mem _ hf)) distinct.2 new'
          (Nat.le_of_succ_le_succ short)
        show named? δs seen ((name.toList, d) :: zipMembers (fs.map Prod.fst) ds) = _
        rw [named?_field (plain _ here) (decoder?_of_mem nodup here) (new _ List.mem_cons_self), others]
        rfl
  exact behind δs [] ds (fun _ hf => hf) nodup (fun _ _ => List.not_mem_nil) short

/-! ## The values -/

theorem mem_of_decoder? {name : String} {δ : Script → Option β} (h : δs.decoder? name = some δ) : (name, δ) ∈ δs := by
  obtain ⟨f, found, rfl⟩ := Option.map_eq_some_iff.1 h
  have eq : f.1 = name := by simpa using List.find?_some found
  exact eq ▸ List.mem_of_find?_eq_some found

theorem decoder?_eq_none {name : String} (other : name ∉ δs.map Prod.fst) : δs.decoder? name = none := by
  rw [Option.eq_none_iff_forall_ne_some]
  intro δ found
  exact other (List.mem_map.2 ⟨_, mem_of_decoder? found, rfl⟩)

/-- Where members have values, the first one is no field, or it is a new one and has the first value. -/
theorem named?_cons_cases {seen : List String} {key : List Char} {d : Script} {ms : List (List Char × Script)} {vs : List β}
    (h : named? δs seen ((key, d) :: ms) = some vs) :
    named? δs seen ms = some vs ∨
    ∃ name δ v ws, textOf? key = some name ∧ name ∉ seen ∧ (name, δ) ∈ δs ∧ δ d = some v ∧
      named? δs (name :: seen) ms = some ws ∧ vs = v :: ws := by
  cases text : textOf? key with
  | none =>
    rw [named?_of_key_none text] at h
    cases h
  | some name =>
    by_cases again : name ∈ seen
    · rw [named?_of_mem text again] at h
      cases h
    · cases field : δs.decoder? name with
      | none =>
        rw [named?_unknown text field again] at h
        exact .inl h
      | some δ =>
        rw [named?_field text field again] at h
        obtain ⟨v, value, others⟩ := Option.bind_eq_some_iff.1 h
        obtain ⟨ws, read, rfl⟩ := Option.map_eq_some_iff.1 others
        exact .inr ⟨name, δ, v, ws, rfl, again, mem_of_decoder? field, value, read, rfl⟩

theorem nodup_of_named? {kind : β → String} (kinds : ∀ f ∈ δs, ∀ d v, f.2 d = some v → kind v = f.1) {seen : List String}
    {ms : List (List Char × Script)} {vs : List β} (h : named? δs seen ms = some vs) :
    (vs.map kind).Nodup ∧ ∀ v ∈ vs, kind v ∉ seen := by
  induction ms generalizing seen vs with
  | nil =>
    cases h
    exact ⟨.nil, fun v hv => absurd hv List.not_mem_nil⟩
  | cons m ms ih =>
    rcases named?_cons_cases h with read | ⟨name, δ, v, ws, -, new, field, value, read, rfl⟩
    · exact ih read
    · obtain ⟨nodup, others⟩ := ih read
      have own : kind v = name := kinds _ field _ v value
      refine ⟨?_, ?_⟩
      · rw [List.map_cons, List.nodup_cons, own]
        refine ⟨?_, nodup⟩
        intro hv
        obtain ⟨w, hw, eq⟩ := List.mem_map.1 hv
        exact others w hw (eq ▸ List.mem_cons_self)
      · intro w hw
        rcases List.mem_cons.1 hw with rfl | hw
        · rw [own]
          exact new
        · exact fun hs => others w hw (List.mem_cons_of_mem _ hs)

/-- What is looked for in one kind of values is found in any order of values of different kinds. -/
theorem findSome?_perm {γ : Type} {kind : β → String} {p : β → Option γ} {name : String}
    (only : ∀ v, (p v).isSome = true → kind v = name) {vs ws : List β} (h : vs.Perm ws) (nodup : (vs.map kind).Nodup) :
    vs.findSome? p = ws.findSome? p := by
  induction h with
  | nil => rfl
  | cons v _ ih =>
    rw [List.map_cons, List.nodup_cons] at nodup
    rw [List.findSome?_cons, List.findSome?_cons, ih nodup.2]
  | swap v w vs =>
    rw [List.findSome?_cons, List.findSome?_cons, List.findSome?_cons, List.findSome?_cons]
    cases hv : p v with
    | none => rfl
    | some a =>
      cases hw : p w with
      | none => rfl
      | some b =>
        have eq : kind v = kind w := (only v (by simp [hv])).trans (only w (by simp [hw])).symm
        rw [List.map_cons, List.map_cons, List.nodup_cons, eq] at nodup
        exact absurd List.mem_cons_self nodup.1
  | trans first _ ih ih' => exact (ih nodup).trans (ih' ((first.map kind).nodup_iff.1 nodup))

/-! ## What the values amount to -/

/-- The fields of a record together with what their values amount to: the order of the values does not count, and a null
counts as a field that is missing. -/
structure Regular {α : Type} (δs : Decoders β) (amount : List β → α) : Prop where
  nodup : (δs.map Prod.fst).Nodup
  plain : ∀ f ∈ δs, textOf? f.1.toList = some f.1
  perm : ∀ {ms : List (List Char × Script)} {vs ws : List β}, named? δs [] ms = some vs → vs.Perm ws → amount vs = amount ws
  null : ∀ f ∈ δs, ∃ v, f.2 .null = some v ∧
    ∀ {ms : List (List Char × Script)} {vs : List β}, named? δs [f.1] ms = some vs → amount (v :: vs) = amount vs

namespace Regular

variable {α : Type} {amount : List β → α} (h : Regular δs amount)

include h

theorem permute {ms ns : List (List Char × Script)} (perm : ms.Perm ns) :
    (named? δs [] ms).map amount = (named? δs [] ns).map amount := by
  have related : Option.Rel List.Perm (named? δs [] ms) (named? δs [] ns) := named?_perm perm []
  cases left : named? δs [] ms with
  | none =>
    rw [left] at related
    generalize named? δs [] ns = y at related
    cases related
    rfl
  | some vs =>
    rw [left] at related
    cases right : named? δs [] ns with
    | none =>
      rw [right] at related
      cases related
    | some ws =>
      rw [right] at related
      cases related with
      | some same => rw [Option.map_some, Option.map_some, h.perm left same]

theorem missing {key : List Char} {name : String} (text : textOf? key = some name) (field : name ∈ δs.map Prod.fst)
    {ms : List (List Char × Script)} (absent : ∀ m ∈ ms, textOf? m.1 ≠ some name) :
    (named? δs [] ((key, .null) :: ms)).map amount = (named? δs [] ms).map amount := by
  obtain ⟨f, hf, rfl⟩ := List.mem_map.1 field
  obtain ⟨v, value, idle⟩ := h.null f hf
  have found : δs.decoder? f.1 = some f.2 := decoder?_of_mem h.nodup hf
  rw [named?_field text found List.not_mem_nil, value, Option.bind_some]
  cases others : named? δs [f.1] ms with
  | none =>
    rw [← named?_absent absent, others]
    rfl
  | some vs =>
    rw [← named?_absent absent, others, Option.map_some, Option.map_some, Option.map_some, idle others]

theorem zip {ds : List Script} (short : ds.length ≤ δs.length) :
    named? δs [] (zipMembers (δs.map Prod.fst) ds) = positional? δs ds :=
  named?_zip h.nodup h.plain short

end Regular

end FilterTree.Json.Script
