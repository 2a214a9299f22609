import FilterTree.Proofs.Calls
import FilterTree.Proofs.Outline
import FilterTree.Settings
import Mathlib

/-!
# The catalog of settings

* `Settings.Faulty` : what is wrong with a keyword and the text of its template: the keyword is built in, or else the text is
  blank.
* `Template.handlerOf` : the handler of a text: its template, or the fault of a text that is blank.
* `Settings.calls` : the calls that build the catalog.
* `Settings.toCatalog_eq_ok_iff`, `Settings.toCatalog_eq_error_iff` : settings without fault have the catalog of their calls.
  Of several faults that of the first keyword counts.
* `Settings.handler?_toCatalog` : the handlers of the catalog are those of the texts.
* `Settings.exists_templated_of_toCatalog` : so it has no operators but templates.
* `Settings.toCatalog_operations` : what the catalog of settings allows and registers, and what its operators mean.
-/

namespace FilterTree

def Template.handlerOf (text : String) : Handler := fun field operator x =>
  (Template.ofText text).bind fun t => t.apply field operator x

theorem Template.handlerOf_eq {text : String} {t : Template} (h : ofText text = .ok t) : handlerOf text = t.apply := by
  funext field operator x
  rw [handlerOf, h]
  rfl

theorem Template.exists_ofText_iff {text : String} : (∃ t, ofText text = .ok t) ↔ ¬Text.AllBlank text := by
  unfold ofText
  split <;> simp [*]

theorem eq_of_increasing {xs ys : List String} (hx : xs.Pairwise (· < ·)) (hy : ys.Pairwise (· < ·))
    (h : ∀ x, x ∈ xs ↔ x ∈ ys) : xs = ys := by
  have perm : xs.Perm ys := (List.perm_ext_iff_of_nodup (hx.imp ne_of_lt) (hy.imp ne_of_lt)).2 h
  exact perm.eq_of_pairwise (fun a b _ _ ab ba => absurd ab (String.lt_asymm ba)) hx hy

namespace Settings

/-- What is wrong with a keyword and the text of its template. -/
inductive Faulty (keyword text : String) : ConfigFault → Prop where
  | shadows (o : Operator) (own : o.keyword = keyword) : Faulty keyword text (.shadowsBuiltin keyword)
  | blank (free : ∀ o : Operator, o.keyword ≠ keyword) (void : Text.trim text = "") : Faulty keyword text .emptyTemplate

def Sound (keyword text : String) : Prop := ∀ fault, ¬Faulty keyword text fault

def call (e : String × String) : Catalog.Call := .register e.1 (Template.handlerOf e.2)

/-- The calls for the settings. -/
def calls (s : Settings) : List Catalog.Call := s.whitelist.toList.map .allow ++ s.operations.entries.map call

variable {s : Settings} {c : Catalog} {e : Error} {keyword text : String} {es rest : List (String × String)}

theorem exists_faulty_iff : (∃ fault, Faulty keyword text fault) ↔
    (∃ o : Operator, o.keyword = keyword) ∨ Text.trim text = "" := by
  constructor
  · rintro ⟨_, ⟨o, own⟩ | ⟨-, void⟩⟩
    · exact .inl ⟨o, own⟩
    · exact .inr void
  · intro h
    by_cases own : ∃ o : Operator, o.keyword = keyword
    · obtain ⟨o, own⟩ := own
      exact ⟨_, .shadows o own⟩
    · exact ⟨_, .blank (not_exists.1 own) (h.resolve_left own)⟩

theorem sound_iff : Sound keyword text ↔ Operator.ofKeyword? keyword = none ∧ ¬Text.AllBlank text := by
  rw [Sound, ← not_exists, exists_faulty_iff, not_or, not_exists, Operator.ofKeyword?_eq_none_iff, Text.trim_eq_empty_iff]

/-! ## Along the entries -/

theorem addTemplates_cons_of_sound (h : Sound keyword text) :
    c.addTemplates refuses ((keyword, text) :: rest) = ((call (keyword, text)).apply c).addTemplates refuses rest := by
  obtain ⟨free, filled⟩ := sound_iff.1 h
  obtain ⟨t, made⟩ := Template.exists_ofText_iff.2 filled
  rw [Catalog.addTemplates, refuses, free, made, call, Catalog.Call.apply, Template.handlerOf_eq made]
  rfl

theorem addTemplates_cons_of_faulty {fault : ConfigFault} (h : Faulty keyword text fault) :
    c.addTemplates refuses ((keyword, text) :: rest) = .error (.config fault) := by
  rw [Catalog.addTemplates, refuses]
  cases h with
  | shadows o own => rw [← own, Operator.ofKeyword?_keyword, Option.isSome_some, if_pos rfl]
  | blank free void =>
    rw [Operator.ofKeyword?_eq_none_iff.2 free, Template.ofText, dif_pos (Text.trim_eq_empty_iff.1 void)]
    rfl

theorem addTemplates_append (h : ∀ p ∈ es, Sound p.1 p.2) :
    c.addTemplates refuses (es ++ rest) = ((es.map call).foldl Catalog.Call.apply c).addTemplates refuses rest := by
  induction es generalizing c with
  | nil => rfl
  | cons p es ih =>
    obtain ⟨first, others⟩ := List.forall_mem_cons.1 h
    rw [List.cons_append, addTemplates_cons_of_sound first, ih others]
    rfl

theorem toCatalog_eq_addTemplates : s.toCatalog =
    ((s.whitelist.toList.map .allow).foldl Catalog.Call.apply .unrestricted).addTemplates refuses s.operations.entries := by
  rw [toCatalog]
  cases s.whitelist <;> rfl

/-! ## Faults -/

/-- A faulty keyword that comes before all others. -/
def FirstFault (s : Settings) (keyword : String) (fault : ConfigFault) : Prop :=
  ∃ text, s.operations.get? keyword = some text ∧ Faulty keyword text fault ∧
    ∀ k t, s.operations.get? k = some t → k < keyword → Sound k t

theorem toCatalog_of_sound (h : ∀ k t, s.operations.get? k = some t → Sound k t) :
    s.toCatalog = .ok (Catalog.build s.calls) := by
  have all : ∀ p ∈ s.operations.entries, Sound p.1 p.2 := fun p hp => h p.1 p.2 (Dictionary.get?_eq_some_iff.2 hp)
  rw [toCatalog_eq_addTemplates, ← List.append_nil s.operations.entries, addTemplates_append all, Catalog.addTemplates,
    Catalog.build, calls, List.foldl_append]

theorem toCatalog_of_firstFault {fault : ConfigFault} (h : s.FirstFault keyword fault) :
    s.toCatalog = .error (.config fault) := by
  obtain ⟨text, found, faulty, earlier⟩ := h
  obtain ⟨before, after, split⟩ := List.append_of_mem (Dictionary.get?_eq_some_iff.1 found)
  have all : ∀ p ∈ before, Sound p.1 p.2 := by
    intro p hp
    refine earlier p.1 p.2 (Dictionary.get?_eq_some_iff.2 ?_) ((Dictionary.lt_of_split split).1 p hp)
    rw [split]
    exact List.mem_append_left _ hp
  rw [toCatalog_eq_addTemplates, split, addTemplates_append all, addTemplates_cons_of_faulty faulty]

theorem firstFault_or_sound :
    (∃ keyword fault, s.FirstFault keyword fault) ∨ ∀ k t, s.operations.get? k = some t → Sound k t := by
  by_cases faulty : ∃ p ∈ s.operations.entries, ∃ fault, Faulty p.1 p.2 fault
  · obtain ⟨before, p, after, split, earlier, fault, hp⟩ := exists_first faulty
    refine .inl ⟨p.1, fault, p.2, Dictionary.get?_eq_some_iff.2 (by simp [split]), hp, ?_⟩
    intro k t found less
    have kept := Dictionary.get?_eq_some_iff.1 found
    rw [split, List.mem_append, List.mem_cons] at kept
    rcases kept with front | rfl | behind
    · exact not_exists.1 (earlier _ front)
    · exact absurd less (String.lt_irrefl _)
    · exact absurd less (String.lt_asymm ((Dictionary.lt_of_split split).2 _ behind))
  · rw [not_exists] at faulty
    exact .inr fun k t found fault hf => faulty (k, t) ⟨Dictionary.get?_eq_some_iff.1 found, fault, hf⟩

theorem toCatalog_eq_ok_iff : s.toCatalog = .ok c ↔
    (∀ k t, s.operations.get? k = some t → Sound k t) ∧ c = Catalog.build s.calls := by
  rcases firstFault_or_sound (s := s) with ⟨keyword, fault, first⟩ | sound
  · obtain ⟨text, found, faulty, -⟩ := id first
    rw [toCatalog_of_firstFault first]
    exact iff_of_false nofun fun ⟨sound, _⟩ => sound keyword text found fault faulty
  · rw [toCatalog_of_sound sound, Except.ok.injEq, eq_comm, and_iff_right sound]

theorem toCatalog_eq_error_iff : s.toCatalog = .error e ↔ ∃ keyword fault, s.FirstFault keyword fault ∧ e = .config fault := by
  constructor
  · intro h
    rcases firstFault_or_sound (s := s) with ⟨keyword, fault, first⟩ | sound
    · rw [toCatalog_of_firstFault first] at h
      exact ⟨keyword, fault, first, (Except.error.inj h).symm⟩
    · rw [toCatalog_of_sound sound] at h
      cases h
  · rintro ⟨keyword, fault, first, rfl⟩
    exact toCatalog_of_firstFault first

/-! ## The catalog -/

theorem limits_calls : Catalog.Call.Limits s.calls ↔ s.whitelist.isSome = true := by
  simp [Catalog.Call.Limits, calls, call, Option.isSome_iff_exists]

theorem allows_calls {field : String} :
    Catalog.Call.Allows s.calls field ↔ ∃ fields, s.whitelist = some fields ∧ field ∈ fields := by
  simp [Catalog.Call.Allows, calls, call]

theorem names_calls : Catalog.Call.Names s.calls keyword ↔ keyword ∈ s.operations.keys := by
  simp [Catalog.Call.Names, calls, call, Dictionary.keys]

/-- Each keyword has one entry, so the last call for it is the one for its entry. -/
theorem binds_calls {handler : Handler} : Catalog.Call.Binds s.calls keyword handler ↔
    ∃ text, s.operations.get? keyword = some text ∧ Template.handlerOf text = handler := by
  constructor
  · rintro ⟨before, after, split, -⟩
    have called : .register keyword handler ∈ s.calls := by simp [split]
    simpa [calls, call, Dictionary.get?_eq_some_iff] using called
  · rintro ⟨text, found, rfl⟩
    obtain ⟨before, after, split⟩ := List.append_of_mem (Dictionary.get?_eq_some_iff.1 found)
    refine ⟨s.whitelist.toList.map .allow ++ before.map call, after.map call, by simp [calls, split, call], ?_⟩
    rintro ⟨handler, called⟩
    obtain ⟨p, hp, eq⟩ := List.mem_map.1 called
    have again : p.1 = keyword := by
      cases eq
      rfl
    exact String.lt_irrefl _ (again ▸ (Dictionary.lt_of_split split).2 p hp)

theorem handler?_toCatalog (h : s.toCatalog = .ok c) :
    c.handler? keyword = (s.operations.get? keyword).map Template.handlerOf := by
  obtain ⟨-, rfl⟩ := toCatalog_eq_ok_iff.1 h
  refine Option.ext fun handler => ?_
  rw [Catalog.handler?_build, binds_calls, Option.map_eq_some_iff]

theorem isAllowed_toCatalog (h : s.toCatalog = .ok c) {field : String} :
    c.isAllowed field = true ↔ ∀ fields, s.whitelist = some fields → field ∈ fields := by
  obtain ⟨-, rfl⟩ := toCatalog_eq_ok_iff.1 h
  rw [Catalog.isAllowed_build, limits_calls, allows_calls]
  cases s.whitelist <;> simp

theorem keywords_toCatalog (h : s.toCatalog = .ok c) : c.keywords = s.operations.keys := by
  obtain ⟨-, rfl⟩ := toCatalog_eq_ok_iff.1 h
  refine eq_of_increasing (Dictionary.increasing_keys _) (Dictionary.increasing_keys _) fun keyword => ?_
  exact Catalog.mem_keywords_build.trans names_calls

theorem exists_template (h : s.toCatalog = .ok c) (found : s.operations.get? keyword = some text) :
    ∃ t, Template.ofText text = .ok t ∧ c.handler? keyword = some t.apply := by
  obtain ⟨sound, -⟩ := toCatalog_eq_ok_iff.1 h
  obtain ⟨t, made⟩ := Template.exists_ofText_iff.2 (sound_iff.1 (sound keyword text found)).2
  exact ⟨t, made, by rw [handler?_toCatalog h, found, Option.map_some, Template.handlerOf_eq made]⟩

theorem exists_templated_of_toCatalog (h : s.toCatalog = .ok c) : ∃ t?, c.Templated t? := by
  refine Catalog.exists_templated_iff.2 fun keyword handler registered => ?_
  rw [handler?_toCatalog h] at registered
  obtain ⟨text, found, -⟩ := Option.map_eq_some_iff.1 registered
  obtain ⟨t, -, same⟩ := exists_template h found
  rw [← handler?_toCatalog h, same] at registered
  exact ⟨t, (Option.some.inj registered).symm⟩

theorem compile_test (h : s.toCatalog = .ok c) (found : s.operations.get? keyword = some text) (given : keyword ≠ "") :
    ∃ t, Template.ofText text = .ok t ∧ ∀ field x, c.isAllowed field = true →
      (Filter.test field ⟨keyword, x⟩).compile c = t.apply field keyword x := by
  obtain ⟨t, made, registered⟩ := exists_template h found
  have free := (sound_iff.1 ((toCatalog_eq_ok_iff.1 h).1 keyword text found)).1
  refine ⟨t, made, fun field x allowed => ?_⟩
  rw [Filter.test, Filter.compile, Leaf.compile_of_consults ⟨allowed, rfl, rfl, Operator.not_reserved_iff.2 ⟨given, free⟩⟩,
    registered]
  rfl

/-- A template under the empty keyword is accepted, but no leaf asks for it. -/
theorem exists_toCatalog_insert_empty (h : s.toCatalog = .ok c) (filled : Text.trim text ≠ "") :
    ∃ d, { s with operations := s.operations.insert "" text }.toCatalog = .ok d ∧
      ∀ f : Filter, f.compile d = f.compile c := by
  obtain ⟨sound, -⟩ := toCatalog_eq_ok_iff.1 h
  have found : ∀ k, (s.operations.insert "" text).get? k = if k = "" then some text else s.operations.get? k := fun k =>
    Dictionary.get?_insert ..
  obtain ⟨d, accepted⟩ : ∃ d, { s with operations := s.operations.insert "" text }.toCatalog = .ok d := by
    refine ⟨_, toCatalog_of_sound fun k t kept => ?_⟩
    rw [found] at kept
    by_cases empty : k = ""
    · rw [if_pos empty, Option.some.injEq] at kept
      rw [empty, ← kept, sound_iff, ← Text.trim_eq_empty_iff]
      exact ⟨by decide, filled⟩
    · rw [if_neg empty] at kept
      exact sound k t kept
  refine ⟨d, accepted, fun f => Filter.compile_eq_of_lookups (fun field => ?_) fun keyword free => ?_⟩
  · rw [Bool.eq_iff_iff, isAllowed_toCatalog accepted, isAllowed_toCatalog h]
  · have given : keyword ≠ "" := fun empty => free (.inl empty)
    rw [handler?_toCatalog accepted, handler?_toCatalog h, found, if_neg given]

/-- Settings have no catalog just when some keyword is built in or some template blank. The error is the fault of the first such
keyword in the order of bytes, and that it is built in counts before its template. The catalog of settings allows the fields of
their whitelist, or all where they have none, and registers just their keywords. A test with one of these and an allowed field
means what the template says, errors included. Only the empty keyword is never asked for, so that its template is accepted
and changes no filter. -/
theorem toCatalog_operations (s : Settings) :
    ((∃ e, s.toCatalog = .error e) ↔ ∃ keyword text, s.operations.get? keyword = some text ∧
      ((∃ o : Operator, o.keyword = keyword) ∨ Text.trim text = "")) ∧
    (∀ e, s.toCatalog = .error e ↔ ∃ keyword text fault, s.operations.get? keyword = some text ∧ Faulty keyword text fault ∧
      e = .config fault ∧ ∀ k t, s.operations.get? k = some t → Text.bytes k < Text.bytes keyword → Sound k t) ∧
    ∀ c, s.toCatalog = .ok c →
      (∀ field, c.isAllowed field = true ↔ ∀ fields, s.whitelist = some fields → field ∈ fields) ∧
      c.keywords = s.operations.keys ∧
      (∀ keyword text, s.operations.get? keyword = some text → keyword ≠ "" → ∃ t, Template.ofText text = .ok t ∧
        ∀ field x, c.isAllowed field = true → (Filter.test field ⟨keyword, x⟩).compile c = t.apply field keyword x) ∧
      ∀ text, Text.trim text ≠ "" → ∃ d, { s with operations := s.operations.insert "" text }.toCatalog = .ok d ∧
        ∀ f : Filter, f.compile d = f.compile c := by
  refine ⟨?_, ?_, ?_⟩
  · simp only [toCatalog_eq_error_iff]
    constructor
    · rintro ⟨_, keyword, fault, ⟨text, found, faulty, -⟩, rfl⟩
      exact ⟨keyword, text, found, exists_faulty_iff.1 ⟨fault, faulty⟩⟩
    · rintro ⟨keyword, text, found, wrong⟩
      obtain ⟨fault, faulty⟩ := exists_faulty_iff.2 wrong
      rcases firstFault_or_sound (s := s) with ⟨k, fault, first⟩ | sound
      · exact ⟨_, k, fault, first, rfl⟩
      · exact absurd faulty (sound keyword text found fault)
  · intro e
    simp only [toCatalog_eq_error_iff, FirstFault, Text.bytes_lt_bytes_iff]
    constructor
    · rintro ⟨keyword, fault, ⟨text, found, faulty, earlier⟩, rfl⟩
      exact ⟨keyword, text, fault, found, faulty, rfl, earlier⟩
    · rintro ⟨keyword, text, fault, found, faulty, rfl, earlier⟩
      exact ⟨keyword, fault, ⟨text, found, faulty, earlier⟩, rfl⟩
  · intro c h
    exact ⟨fun field => isAllowed_toCatalog h, keywords_toCatalog h, fun keyword text found given => compile_test h found given,
      fun text filled => exists_toCatalog_insert_empty h filled⟩

/-- A template for two values, with a list of two and with one value. Of a keyword that is built in and one with a blank template
the latter counts, as capitals come first. -/
theorem toCatalog_operations_within :
    let s : Settings := ⟨some ["a", "b", "a"], 32, .ofList [("within", "\x7bfield\x7d BETWEEN ? AND ?")]⟩
    (∃ c, s.toCatalog = .ok c ∧ c.isAllowed "b" = true ∧
      (Filter.test "b" ⟨"within", .many [.int 1, .null]⟩).compile c = .ok ⟨"b BETWEEN ? AND ?", [.int 1, .null]⟩ ∧
      (Filter.test "b" ⟨"within", .one (.int 1)⟩).compile c = .error (.arityMismatch "within" 2 1) ∧
      ∃ d, { s with operations := s.operations.insert "" "?" }.toCatalog = .ok d ∧ ∀ f : Filter, f.compile d = f.compile c) ∧
    (⟨none, 32, .ofList [("equal", "?"), ("Z", "\t")]⟩ : Settings).toCatalog = .error (.config .emptyTemplate) := by
  intro s
  have found : s.operations.get? "within" = some "\x7bfield\x7d BETWEEN ? AND ?" := by cbv
  have accepted : s.toCatalog = .ok (Catalog.build s.calls) := by
    refine toCatalog_of_sound fun k t kept => ?_
    have entry : (k, t) ∈ [("within", "\x7bfield\x7d BETWEEN ? AND ?")] := Dictionary.get?_eq_some_iff.1 kept
    cases List.mem_singleton.1 entry
    exact sound_iff.2 ⟨by decide, by decide⟩
  obtain ⟨allowed, -, meant, vacant⟩ := (toCatalog_operations s).2.2 _ accepted
  obtain ⟨t, made, means⟩ := meant "within" _ found (by decide)
  have b_allowed : (Catalog.build s.calls).isAllowed "b" = true := by
    refine (allowed "b").2 fun fields limited => ?_
    cases limited
    decide
  have text : t.text = "\x7bfield\x7d BETWEEN ? AND ?" := by
    cases made
    rfl
  obtain ⟨text, filled⟩ := t
  subst text
  refine ⟨⟨_, accepted, b_allowed, ?_, ?_, vacant "?" (by decide)⟩, ?_⟩
  · rw [means _ _ b_allowed]
    cbv
  · rw [means _ _ b_allowed]
    cbv
  · have blank : Faulty "Z" "\t" .emptyTemplate := .blank (fun o => by cases o <;> decide) (by decide)
    refine ((toCatalog_operations _).2.1 _).2 ⟨"Z", "\t", .emptyTemplate, by cbv, blank, rfl, ?_⟩
    intro k t kept less
    have entry : (k, t) ∈ [("Z", "\t"), ("equal", "?")] := Dictionary.get?_eq_some_iff.1 kept
    rw [List.mem_cons, List.mem_singleton] at entry
    rcases entry with eq | eq <;> cases eq <;> exact absurd less (by decide)

end Settings

end FilterTree
