import FilterTree.Proofs.Acceptance
import FilterTree.Proofs.Filter.Roundtrip
import FilterTree.Proofs.Templates
import Mathlib.Order.Bounds.Defs

/-!
# From a text to a clause

* `Filter.Path` : the ways down from the root, each as the list of the nodes on it.
* `Filter.isGreatest_depth` : the depth is the length of the longest of them.
* `Filter.two_mul_depth_le` : each level of a filter but the last takes two levels of brackets, and the last one takes one.
* `Filter.tower` : groups of one rule around the blank leaf, which take no more than that.
* `Filter.depth_of_text_iff` : so the depths of the filters in texts are those from 1 to 64.
* `Settings.prepare_eq_ok_iff`, `Settings.prepare_eq_error_iff` : the stages of the way, of which the first that fails counts.
* `Settings.prepare_eq_tooDeep_iff` : a filter is refused for its depth just when it is deeper than the settings allow.
* `Settings.prepare_bounded` : what the limit on the depth does, and what it leaves alone.
-/

namespace FilterTree.Filter

open Json (Script Recovers)

/-! ## Paths -/

/-- The ways from the root of a filter down to any of its nodes. -/
inductive Path : Filter → List Filter → Prop where
  | root (f : Filter) : Path f [f]
  | down {glue : Glue} {rules : List Filter} {r : Filter} {p : List Filter} (hr : r ∈ rules) (h : Path r p) :
    Path (.group glue rules) (.group glue rules :: p)

theorem depthAll_le_iff {fs : List Filter} {n : Nat} : depthAll fs ≤ n ↔ ∀ f ∈ fs, f.depth ≤ n := by
  induction fs with
  | nil => simp [depthAll]
  | cons f fs ih => rw [depthAll_cons, Nat.max_le, ih, List.forall_mem_cons]

theorem exists_depth_eq_depthAll {fs : List Filter} (nonempty : fs ≠ []) : ∃ f ∈ fs, f.depth = depthAll fs := by
  induction fs with
  | nil => exact absurd rfl nonempty
  | cons f fs ih =>
    rw [depthAll_cons]
    by_cases deeper : depthAll fs ≤ f.depth
    · exact ⟨f, List.mem_cons_self, (Nat.max_eq_left deeper).symm⟩
    · have more : fs ≠ [] := by
        rintro rfl
        exact deeper (Nat.zero_le _)
      obtain ⟨g, hg, eq⟩ := ih more
      exact ⟨g, List.mem_cons_of_mem f hg, by omega⟩

theorem Path.length_le_depth {f : Filter} {p : List Filter} (h : f.Path p) : p.length ≤ f.depth := by
  induction h with
  | root f => exact f.depth_pos
  | down hr _ ih =>
    have below := depthAll_le_iff.1 (Nat.le_refl _) _ hr
    rw [List.length_cons, depth]
    omega

theorem exists_path (f : Filter) : ∃ p, f.Path p ∧ p.length = f.depth := by
  induction f using Filter.induction with
  | leaf l => exact ⟨_, .root _, rfl⟩
  | group glue rules ih =>
    by_cases nonempty : rules = []
    · rw [nonempty]
      exact ⟨_, .root _, rfl⟩
    · obtain ⟨r, hr, deepest⟩ := exists_depth_eq_depthAll nonempty
      obtain ⟨p, hp, len⟩ := ih r hr
      exact ⟨_, .down hr hp, by rw [List.length_cons, depth, len, deepest, Nat.add_comm]⟩

theorem isGreatest_depth (f : Filter) : IsGreatest {n | ∃ p, f.Path p ∧ p.length = n} f.depth := by
  refine ⟨exists_path f, ?_⟩
  rintro n ⟨p, hp, rfl⟩
  exact hp.length_le_depth

/-! ## What brackets allow -/

theorem two_mul_depth_le_both (levels : Nat) :
    (∀ d f, ofScript? levels d = some f → 2 * f.depth ≤ levels + 1) ∧
    ∀ d fs, listOfScript? levels d = some fs → 2 * depthAll fs ≤ levels := by
  induction levels with
  | zero =>
    constructor
    · intro d f h
      rw [ofScript?] at h
      obtain ⟨vs, read, -⟩ := Option.map_eq_some_iff.1 h
      rw [Script.record?_none] at read
      cases read
    · intro d fs h
      rw [listOfScript?] at h
      cases d <;> cases h
  | succ levels ih =>
    obtain ⟨node, list⟩ := ih
    constructor
    · intro d f h
      rcases ofScript?_cases h with ⟨glue, fs, e, rfl, value⟩ | ⟨l, rfl, -⟩
      · have rules := list e fs value
        rw [depth]
        omega
      · rw [depth]
        omega
    · intro d fs h
      rw [listOfScript?] at h
      cases d with
      | list ds =>
        have each : ∀ f ∈ fs, f.depth ≤ (levels + 1) / 2 := by
          intro f hf
          obtain ⟨e, -, value⟩ := Json.exists_of_mem_mapM h f hf
          have bound := node e f value
          omega
        have deepest := depthAll_le_iff.2 each
        omega
      | _ => cases h

/-- A filter takes two levels of brackets for each of its levels but the last, and one for the last. -/
theorem two_mul_depth_le {levels : Nat} {d : Script} {f : Filter} (h : ofScript? levels d = some f) :
    2 * f.depth ≤ levels + 1 :=
  (two_mul_depth_le_both levels).1 d f h

/-- Groups of one rule around the blank leaf. -/
def tower : Nat → Filter
  | 0 => blank
  | n + 1 => all [tower n]

theorem depth_tower (n : Nat) : (tower n).depth = n + 1 := by
  induction n with
  | zero => rfl
  | succ n ih =>
    rw [tower, all, depth, depthAll_cons, ih, depthAll]
    omega

theorem recovers_tower (n more : Nat) :
    Recovers (ofScript? (2 * n + 1 + more)) (tower n).toJson (tower n).normal := by
  induction n generalizing more with
  | zero =>
    have levels : 2 * 0 + 1 + more = more + 1 := by omega
    rw [levels, ofScript?]
    exact recovers_leaf (fun given => absurd rfl given) (fun given => absurd rfl given)
  | succ n ih =>
    have levels : 2 * (n + 1) + 1 + more = 2 * n + 1 + more + 1 + 1 := by omega
    have list : Recovers (listOfScript? (2 * n + 1 + more + 1)) (.list (toJsonAll [tower n])) (normalAll [tower n]) := by
      rw [listOfScript?]
      exact Recovers.list (.cons (ih more) .nil)
    rw [levels, ofScript?]
    exact recovers_group .and list (listOfScript?_null _)

theorem depth_of_text_iff {n : Nat} : (∃ text f, ofText text = .ok f ∧ f.depth = n) ↔ 1 ≤ n ∧ n ≤ 64 := by
  constructor
  · rintro ⟨text, f, denoted, rfl⟩
    obtain ⟨d, -, value⟩ := ofText_eq_ok_iff.1 denoted
    have bound : 2 * f.depth ≤ 127 + 1 := two_mul_depth_le value
    exact ⟨f.depth_pos, by omega⟩
  · rintro ⟨one, most⟩
    obtain ⟨d, written, value⟩ := recovers_tower (n - 1) (127 - (2 * (n - 1) + 1))
    have levels : 2 * (n - 1) + 1 + (127 - (2 * (n - 1) + 1)) = maxLevels := by
      unfold maxLevels
      omega
    rw [levels] at value
    have spans : d.Spans (tower (n - 1)).wire :=
      ⟨[], _, [], Json.blank_nil, written, Json.blank_nil, by simp [wire]⟩
    refine ⟨_, _, ofText_eq_ok_iff.2 ⟨d, spans, value⟩, ?_⟩
    rw [depth_normal, depth_tower]
    omega

end FilterTree.Filter

namespace FilterTree

/-! ## Stages -/

theorem bind_eq_ok_iff {ε α β : Type} {x : Except ε α} {g : α → Except ε β} {b : β} :
    x >>= g = .ok b ↔ ∃ a, x = .ok a ∧ g a = .ok b := by
  cases x with
  | error e => exact ⟨nofun, nofun⟩
  | ok a =>
    constructor
    · exact fun h => ⟨a, rfl, h⟩
    · rintro ⟨_, ⟨⟩, h⟩
      exact h

/-- A text that is no filter is refused with an error of its JSON. -/
theorem Filter.exists_json_of_ofText {text : String} {e : Error} (h : ofText text = .error e) : ∃ j, e = .json j := by
  unfold ofText readWhole at h
  split at h
  · cases h
  · cases h
    exact ⟨_, rfl⟩

namespace Settings

variable {s : Settings} {text : String} {f : Filter} {c : Catalog} {k : Clause} {e : Error}

/-! ## The stages -/

theorem checkDepth_eq_ok_iff : s.checkDepth f = .ok () ↔ f.depth ≤ s.maxDepth := by
  unfold checkDepth
  split <;> simp <;> omega

theorem checkDepth_eq_error_iff : s.checkDepth f = .error e ↔ s.maxDepth < f.depth ∧ e = .tooDeep f.depth s.maxDepth := by
  unfold checkDepth
  by_cases deep : f.depth > s.maxDepth
  · rw [if_pos deep, Except.error.injEq]
    exact ⟨fun h => ⟨deep, h.symm⟩, fun h => h.2.symm⟩
  · rw [if_neg deep]
    exact ⟨nofun, fun h => absurd h.1 deep⟩

theorem exists_config_of_toCatalog (h : s.toCatalog = .error e) : ∃ fault, e = .config fault := by
  obtain ⟨_, fault, -, eq⟩ := toCatalog_eq_error_iff.1 h
  exact ⟨fault, eq⟩

theorem accept_eq_ok_iff :
    s.accept text = .ok (f, c) ↔ Filter.ofText text = .ok f ∧ s.checkDepth f = .ok () ∧ s.toCatalog = .ok c := by
  unfold accept
  simp only [bind_eq_ok_iff]
  constructor
  · rintro ⟨f, denoted, ⟨⟩, shallow, c, catalog, eq⟩
    cases eq
    exact ⟨denoted, shallow, catalog⟩
  · rintro ⟨denoted, shallow, catalog⟩
    exact ⟨f, denoted, (), shallow, c, catalog, rfl⟩

theorem prepare_eq_ok_iff :
    s.prepare text = .ok (f, k) ↔
      Filter.ofText text = .ok f ∧ s.checkDepth f = .ok () ∧ ∃ c, s.toCatalog = .ok c ∧ f.compile c = .ok k := by
  unfold prepare
  simp only [bind_eq_ok_iff]
  constructor
  · rintro ⟨⟨f, c⟩, accepted, k, compiled, eq⟩
    cases eq
    obtain ⟨denoted, shallow, catalog⟩ := accept_eq_ok_iff.1 accepted
    exact ⟨denoted, shallow, c, catalog, compiled⟩
  · rintro ⟨denoted, shallow, c, catalog, compiled⟩
    exact ⟨(f, c), accept_eq_ok_iff.2 ⟨denoted, shallow, catalog⟩, k, compiled, rfl⟩

/-- The first stage that fails counts: the text, the depth, the settings, and then the filter itself. -/
theorem prepare_eq_error_iff :
    s.prepare text = .error e ↔
      Filter.ofText text = .error e ∨ ∃ f, Filter.ofText text = .ok f ∧
        (s.checkDepth f = .error e ∨ (s.checkDepth f = .ok () ∧
          (s.toCatalog = .error e ∨ ∃ c, s.toCatalog = .ok c ∧ f.compile c = .error e))) := by
  unfold prepare accept
  cases denoted : Filter.ofText text with
  | error e' => simp [bind, Except.bind]
  | ok f =>
    cases shallow : s.checkDepth f with
    | error e' => simp [bind, Except.bind, shallow]
    | ok =>
      cases catalog : s.toCatalog with
      | error e' => simp [bind, Except.bind, shallow]
      | ok c => cases compiled : f.compile c <;> simp [bind, Except.bind, pure, Except.pure, shallow, compiled]

/-! ## The limit on the depth -/

theorem prepare_eq_tooDeep_iff {depth max : Nat} :
    s.prepare text = .error (.tooDeep depth max) ↔
      ∃ f, Filter.ofText text = .ok f ∧ s.maxDepth < f.depth ∧ depth = f.depth ∧ max = s.maxDepth := by
  rw [prepare_eq_error_iff]
  constructor
  · rintro (malformed | ⟨f, denoted, deep | ⟨-, broken | ⟨c, catalog, refused⟩⟩⟩)
    · obtain ⟨j, eq⟩ := Filter.exists_json_of_ofText malformed
      cases eq
    · obtain ⟨deeper, eq⟩ := checkDepth_eq_error_iff.1 deep
      cases eq
      exact ⟨f, denoted, deeper, rfl, rfl⟩
    · obtain ⟨fault, eq⟩ := exists_config_of_toCatalog broken
      cases eq
    · -- The operators of the settings are templates, and these do not speak of depths.
      obtain ⟨t?, templated⟩ := exists_templated_of_toCatalog catalog
      obtain ⟨-, l, -, -, -, refusal⟩ := (Filter.compile_eq_refusal_iff templated).1 refused
      cases refusal
  · rintro ⟨f, denoted, deeper, rfl, rfl⟩
    exact .inr ⟨f, denoted, .inl (checkDepth_eq_error_iff.2 ⟨deeper, rfl⟩)⟩

theorem prepare_of_maxDepth_le {limit : Nat} (higher : s.maxDepth ≤ limit) (h : s.prepare text = .ok (f, k)) :
    { s with maxDepth := limit }.prepare text = .ok (f, k) := by
  obtain ⟨denoted, shallow, c, catalog, compiled⟩ := prepare_eq_ok_iff.1 h
  have below : f.depth ≤ limit := Nat.le_trans (checkDepth_eq_ok_iff.1 shallow) higher
  exact prepare_eq_ok_iff.2 ⟨denoted, checkDepth_eq_ok_iff.2 below, c, catalog, compiled⟩

/-- The depth of a filter is the number of nodes on its longest way down, and that of a filter in a text is at most 64, which
some filter has. A filter in a text is refused for its depth just when it is deeper than the settings allow, before anything
else is found wrong with it or with the settings. So a limit of 64 refuses nothing, and a higher limit leaves what has a
clause its clause. -/
theorem prepare_bounded :
    (∀ f : Filter, IsGreatest {n | ∃ p, f.Path p ∧ p.length = n} f.depth) ∧
    (∀ n, (∃ text f, Filter.ofText text = .ok f ∧ f.depth = n) ↔ 1 ≤ n ∧ n ≤ 64) ∧
    ∀ (s : Settings) (text : String),
      (∀ depth max, s.prepare text = .error (.tooDeep depth max) ↔
        ∃ f, Filter.ofText text = .ok f ∧ s.maxDepth < f.depth ∧ depth = f.depth ∧ max = s.maxDepth) ∧
      (64 ≤ s.maxDepth → ∀ depth max, s.prepare text ≠ .error (.tooDeep depth max)) ∧
      ∀ limit, s.maxDepth ≤ limit → ∀ f k, s.prepare text = .ok (f, k) →
        { s with maxDepth := limit }.prepare text = .ok (f, k) := by
  refine ⟨Filter.isGreatest_depth, fun n => Filter.depth_of_text_iff, ?_⟩
  intro s text
  refine ⟨fun depth max => prepare_eq_tooDeep_iff, ?_, fun limit higher f k => prepare_of_maxDepth_le higher⟩
  intro enough depth max tooDeep
  obtain ⟨f, denoted, deeper, -, -⟩ := prepare_eq_tooDeep_iff.1 tooDeep
  have bound := (Filter.depth_of_text_iff.1 ⟨text, f, denoted, rfl⟩).2
  omega

/-- Settings that take the keyword of a built-in operator, with a limit of one for a filter of two levels. With a limit of 64
their own fault shows. Sound settings with a limit of two pass the filter, and so do those with the usual limit. -/
theorem prepare_bounded_shadowed :
    let text := "\x7b\"rules\":[\x7b\x7d]\x7d"
    let shadowing := fun limit => (⟨none, limit, .ofList [("equal", "?")]⟩ : Settings)
    (shadowing 1).prepare text = .error (.tooDeep 2 1) ∧
    (64 ≤ 64 ∧ (shadowing 64).prepare text ≠ .error (.tooDeep 2 64)) ∧
    (2 ≤ 32 ∧ (⟨none, 2, .empty⟩ : Settings).prepare text = .ok (.all [.blank], .empty) ∧
      standard.prepare text = .ok (.all [.blank], .empty)) := by
  intro text shadowing
  have key : Json.WellQuoted "rules".toList := (Json.textWritten_plain (s := "rules") (by decide)).wellQuoted
  have empty : Json.Script.Written (.object []) "\x7b\x7d".toList := .object (.nil Json.blank_nil)
  have spans : Json.Script.Spans (.object [("rules".toList, .list [.object []])]) text :=
    ⟨[], _, [], Json.blank_nil, .object (.cons (.first Json.blank_nil) key Json.blank_nil Json.blank_nil
      (.list (.cons (.first Json.blank_nil) empty (.nil Json.blank_nil))) (.nil Json.blank_nil)), Json.blank_nil, by decide⟩
  have denoted : Filter.ofText text = .ok (.all [.blank]) := Filter.ofText_eq_ok_iff.2 ⟨_, spans, by cbv⟩
  have two : (⟨none, 2, .empty⟩ : Settings).prepare text = .ok (.all [.blank], .empty) :=
    prepare_eq_ok_iff.2 ⟨denoted, checkDepth_eq_ok_iff.2 (by decide), .unrestricted, rfl, rfl⟩
  refine ⟨?_, ⟨Nat.le_refl _, ?_⟩, by decide, two, ?_⟩
  · exact ((prepare_bounded.2.2 (shadowing 1) text).1 2 1).2 ⟨_, denoted, by decide, rfl, rfl⟩
  · exact (prepare_bounded.2.2 (shadowing 64) text).2.1 (Nat.le_refl _) 2 64
  · exact (prepare_bounded.2.2 ⟨none, 2, .empty⟩ text).2.2 32 (by decide) _ _ two

end Settings

end FilterTree
