import FilterTree.Proofs.Bytes
import FilterTree.Proofs.Lookups
import Mathlib

/-!
# Catalogs that are built by calls

* `Catalog.Call`, `Catalog.build` : the two additions to a catalog, and the catalog behind a row of them.
* `Call.Limits`, `Call.Allows`, `Call.Binds` : whether a row of calls limits the fields, whether it allows a field, and which
  handler it leaves to a keyword.
* `Catalog.isAllowed_build`, `Catalog.handler?_build`, `Catalog.mem_keywords_build` : what the look-ups see behind a row of
  calls.
* `Call.Agree` : rows of calls that limit, allow and bind the same.
* `Catalog.build_calls` : all of this, and that such rows give a filter the same clause or error.
-/

namespace FilterTree.Catalog

/-- An addition to a catalog. -/
inductive Call where
  | allow (fields : List String)
  | register (keyword : String) (handler : Handler)

def Call.apply (c : Catalog) : Call → Catalog
  | .allow fields => c.allow fields
  | .register keyword handler => c.register keyword handler

/-- The catalog behind a row of calls. -/
def build (calls : List Call) : Catalog := calls.foldl Call.apply unrestricted

namespace Call

/-- Some call limits the fields, be it to none. -/
def Limits (calls : List Call) : Prop := ∃ fields, .allow fields ∈ calls

def Allows (calls : List Call) (field : String) : Prop := ∃ fields, .allow fields ∈ calls ∧ field ∈ fields

def Names (calls : List Call) (keyword : String) : Prop := ∃ handler, .register keyword handler ∈ calls

/-- The last call for a keyword gives it a handler. -/
def Binds (calls : List Call) (keyword : String) (handler : Handler) : Prop :=
  ∃ before after, calls = before ++ Call.register keyword handler :: after ∧ ¬Names after keyword

/-- Rows of calls that limit, allow and bind the same. -/
structure Agree (a b : List Call) : Prop where
  limits : Limits a ↔ Limits b
  allows : ∀ field, Allows a field ↔ Allows b field
  binds : ∀ keyword handler, Binds a keyword handler ↔ Binds b keyword handler

variable {a b : List Call} {call : Call} {keyword : String} {handler : Handler}

theorem names_append : Names (a ++ b) keyword ↔ Names a keyword ∨ Names b keyword := by
  simp only [Names, List.mem_append, exists_or]

/-- The last call for a keyword stands in the second of two rows, or else in the first. -/
theorem binds_append : Binds (a ++ b) keyword handler ↔
    Binds b keyword handler ∨ ¬Names b keyword ∧ Binds a keyword handler := by
  constructor
  · rintro ⟨before, after, split, last⟩
    rcases List.append_eq_append_iff.1 split with ⟨more, -, rfl⟩ | ⟨more, rfl, rest⟩
    · exact .inl ⟨more, after, rfl, last⟩
    · cases more with
      | nil => exact .inl ⟨[], after, rest.symm, last⟩
      | cons first more =>
        rw [List.cons_append, List.cons.injEq] at rest
        obtain ⟨rfl, rfl⟩ := rest
        rw [names_append, not_or] at last
        exact .inr ⟨last.2, before, more, rfl, last.1⟩
  · rintro (⟨before, after, rfl, last⟩ | ⟨unnamed, before, after, rfl, last⟩)
    · exact ⟨a ++ before, after, by rw [List.append_assoc], last⟩
    · exact ⟨before, after ++ b, by rw [List.append_assoc, List.cons_append], by rw [names_append]; tauto⟩

theorem names_singleton : Names [call] keyword ↔ ∃ handler, call = .register keyword handler := by
  simp [Names, eq_comm]

theorem binds_singleton : Binds [call] keyword handler ↔ call = .register keyword handler := by
  constructor
  · rintro ⟨before, after, split, -⟩
    cases before with
    | nil => exact (List.cons.inj split).1
    | cons _ before => simp at split
  · rintro rfl
    exact ⟨[], [], rfl, by simp [Names]⟩

/-- Calls whose order does not matter: one of them allows fields, or they are for two keywords. -/
def Commutes : Call → Call → Prop
  | .register x _, .register y _ => x ≠ y
  | _, _ => True

variable {x y : Call}

theorem binds_congr {before after : List Call} (names : ∀ keyword, Names a keyword ↔ Names b keyword)
    (binds : ∀ keyword handler, Binds a keyword handler ↔ Binds b keyword handler) :
    Binds (before ++ (a ++ after)) keyword handler ↔ Binds (before ++ (b ++ after)) keyword handler := by
  simp only [binds_append, names_append, names, binds]

theorem binds_swap (h : x.Commutes y) : Binds ([x] ++ [y]) keyword handler ↔ Binds ([y] ++ [x]) keyword handler := by
  rw [binds_append, binds_append]
  simp only [binds_singleton, names_singleton]
  cases x with
  | allow fields => simp
  | register k h =>
    cases y with
    | allow fields => simp
    | register l h' =>
      have other : k ≠ l := h
      simp only [register.injEq]
      grind

theorem Agree.swap {before after : List Call} (h : x.Commutes y) :
    Agree (before ++ x :: y :: after) (before ++ y :: x :: after) := by
  have perm : (before ++ x :: y :: after).Perm (before ++ y :: x :: after) := (List.Perm.swap y x after).append_left before
  refine ⟨?_, ?_, ?_⟩
  · exact exists_congr fun fields => perm.mem_iff
  · exact fun field => exists_congr fun fields => and_congr_left' perm.mem_iff
  · intro keyword handler
    refine binds_congr (a := [x] ++ [y]) (b := [y] ++ [x]) (fun keyword => ?_) fun keyword handler => binds_swap h
    rw [names_append, names_append, or_comm]

end Call

/-! ## The look-ups behind a row of calls -/

section

variable {calls : List Call} {call : Call} {field keyword : String} {handler : Handler}

theorem build_append_singleton : build (calls ++ [call]) = call.apply (build calls) := by
  rw [build, List.foldl_append]
  rfl

theorem isSome_whitelist_build : (build calls).whitelist.isSome = true ↔ Call.Limits calls := by
  induction calls using List.reverseRecOn with
  | nil => simp [build, unrestricted, Call.Limits]
  | append_singleton calls call ih =>
    rw [build_append_singleton]
    cases call with
    | allow fields => simp [Call.apply, Catalog.allow, Call.Limits]
    | register keyword handler =>
      refine Iff.trans ih ?_
      simp [Call.Limits]

theorem isAllowed_build : (build calls).isAllowed field = true ↔ ¬Call.Limits calls ∨ Call.Allows calls field := by
  induction calls using List.reverseRecOn with
  | nil => simp [build, Call.Limits]
  | append_singleton calls call ih =>
    rw [build_append_singleton]
    cases call with
    | allow fields =>
      rw [Call.apply, isAllowed_allow, isSome_whitelist_build, ih]
      have limited : Call.Allows calls field → Call.Limits calls := fun ⟨fields, called, _⟩ => ⟨fields, called⟩
      have limits : Call.Limits (calls ++ [Call.allow fields]) := ⟨fields, by simp⟩
      have allows : Call.Allows (calls ++ [Call.allow fields]) field ↔ Call.Allows calls field ∨ field ∈ fields := by
        simp [Call.Allows, or_and_right, exists_or]
      rw [allows]
      by_cases calledBefore : Call.Limits calls
      · simp [calledBefore, limits, or_comm]
      · simp [calledBefore, limits, mt limited calledBefore]
    | register keyword handler =>
      refine Iff.trans ih ?_
      simp [Call.Limits, Call.Allows]

theorem handler?_build : (build calls).handler? keyword = some handler ↔ Call.Binds calls keyword handler := by
  induction calls using List.reverseRecOn with
  | nil => simp [build, Call.Binds]
  | append_singleton calls call ih =>
    rw [build_append_singleton, Call.binds_append, Call.binds_singleton, Call.names_singleton]
    cases call with
    | allow fields =>
      rw [Call.apply, handler?_allow, ih]
      simp
    | register k h =>
      rw [Call.apply, handler?_register]
      by_cases same : keyword = k
      · subst same
        simp
      · rw [if_neg same, ih]
        simp [Ne.symm same]

theorem mem_keywords_build : keyword ∈ (build calls).keywords ↔ Call.Names calls keyword := by
  induction calls using List.reverseRecOn with
  | nil => simp [build, Call.Names]
  | append_singleton calls call ih =>
    rw [build_append_singleton, Call.names_append, Call.names_singleton, ← ih]
    cases call with
    | allow fields => simp [Call.apply]
    | register k h => simp [Call.apply, or_comm, eq_comm]

end

theorem compile_build {a b : List Call} (h : Call.Agree a b) (f : Filter) : f.compile (build a) = f.compile (build b) := by
  refine Filter.compile_eq_of_lookups ?_ ?_
  · intro field
    rw [Bool.eq_iff_iff, isAllowed_build, isAllowed_build, h.limits, h.allows]
  · intro keyword _
    refine Option.ext fun handler => ?_
    rw [handler?_build, handler?_build, h.binds]

/-- Behind a row of calls a field is allowed if no call limits the fields or some call allows it, so that a single call for no
field at all leaves none. A keyword has the handler of the last call for it. The keywords are those of the calls, each once and
in the order of their bytes. Rows that limit, allow and bind the same give each filter the same clause or error; so do rows in
which two neighbours change places that are not for one keyword. -/
theorem build_calls :
    (∀ calls : List Call,
      (∀ field, (build calls).isAllowed field = true ↔ ¬Call.Limits calls ∨ Call.Allows calls field) ∧
      (¬Call.Limits calls → ∀ field, (build (calls ++ [Call.allow []])).isAllowed field = false) ∧
      (∀ keyword handler, (build calls).handler? keyword = some handler ↔ Call.Binds calls keyword handler) ∧
      (∀ keyword, (build calls).handler? keyword = none ↔ ¬Call.Names calls keyword) ∧
      (build calls).keywords.Pairwise (fun x y => Text.bytes x < Text.bytes y) ∧
      ∀ keyword, keyword ∈ (build calls).keywords ↔ Call.Names calls keyword) ∧
    (∀ a b : List Call, Call.Agree a b → ∀ f : Filter, f.compile (build a) = f.compile (build b)) ∧
    ∀ (before after : List Call) (x y : Call), x.Commutes y →
      ∀ f : Filter, f.compile (build (before ++ x :: y :: after)) = f.compile (build (before ++ y :: x :: after)) := by
  refine ⟨?_, fun a b agree => compile_build agree, fun before after x y commutes => compile_build (.swap commutes)⟩
  intro calls
  refine ⟨fun _ => isAllowed_build, ?_, fun _ _ => handler?_build, ?_, ?_, fun _ => mem_keywords_build⟩
  · intro unlimited field
    rw [← Bool.not_eq_true, build_append_singleton, Call.apply, isAllowed_allow, isSome_whitelist_build]
    simp [unlimited]
  · intro keyword
    rw [handler?_eq_none_iff, mem_keywords_build]
  · refine (Dictionary.increasing_keys _).imp ?_
    exact fun less => Text.bytes_lt_bytes_iff.2 less

/-- Two rows of calls that agree, though one of them binds a keyword twice and allows fields in two calls, the last of which
names none. -/
theorem build_calls_repeated :
    let yes : Handler := fun _ _ _ => .ok ⟨"1 = 1", []⟩
    let odd : Handler := fun field _ _ => .ok ⟨field ++ " % 2 = 1", []⟩
    let a : List Call := [.register "odd" yes, .allow ["a"], .register "odd" odd, .allow []]
    let b : List Call := [.allow ["a", "a"], .register "odd" odd]
    (∀ f : Filter, f.compile (build a) = f.compile (build b)) ∧
    (∀ field, (build ([Call.register "odd" yes] ++ [Call.allow []])).isAllowed field = false) ∧
    ∀ f : Filter, f.compile (build ([Call.allow []] ++ Call.register "even" yes :: Call.register "odd" odd :: [])) =
      f.compile (build ([Call.allow []] ++ Call.register "odd" odd :: Call.register "even" yes :: [])) := by
  intro yes odd a b
  have agree : Call.Agree a b := by
    refine ⟨by simp [a, b, Call.Limits], fun field => by simp [a, b, Call.Allows], fun keyword handler => ?_⟩
    rw [← handler?_build, ← handler?_build]
    by_cases asked : keyword = "odd" <;> simp [a, b, build, Call.apply, handler?_register, asked]
  refine ⟨build_calls.2.1 a b agree, ?_, ?_⟩
  · exact (build_calls.1 [.register "odd" yes]).2.1 (by simp [Call.Limits])
  · have distinct : Call.Commutes (.register "even" yes) (.register "odd" odd) := by
      show "even" ≠ "odd"
      decide
    exact build_calls.2.2 _ _ _ _ distinct

end FilterTree.Catalog
