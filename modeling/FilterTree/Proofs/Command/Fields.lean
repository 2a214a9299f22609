import FilterTree.Proofs.Command.Run
import Mathlib

/-!
# The fields that a run allows

* `NameSet.eq_of_mem_iff`, `Catalog.allow_congr` : a catalog keeps neither the order of its fields nor how often each is named.
* `Catalog.Admits` : a catalog that allows the fields of a whitelist and more fields, or all where neither is given, and lists
  them in order.
* `Settings.admits_of_toCatalog` : the catalog of settings with more fields is one.
* `Settings.Alike` : settings that allow the same fields, and are the same in all else.
* `Request.found`, `Request.catalog` : the settings that a request finds, and the catalog of these and of its own fields.
* `Request.Relisted` : requests that differ at most in how they and their settings list the fields.
* `Command.run_whitelist` : what a run allows, and that it does not depend on how this is listed.
-/

namespace FilterTree

/-! ## Fields in a catalog -/

theorem NameSet.eq_of_mem_iff {a b : NameSet} (h : ∀ x, x ∈ a.keys ↔ x ∈ b.keys) : a = b := by
  have keys : a.keys = b.keys := eq_of_increasing a.increasing_keys b.increasing_keys h
  have entries : ∀ s : NameSet, s.entries = s.keys.map fun x => (x, ()) := by
    intro s
    rw [Dictionary.keys, List.map_map]
    exact (List.map_id' s.entries).symm
  obtain ⟨xs, hx⟩ := a
  obtain ⟨ys, hy⟩ := b
  have same : xs = ys := (entries ⟨xs, hx⟩).trans ((congrArg _ keys).trans (entries ⟨ys, hy⟩).symm)
  subst same
  rfl

namespace Catalog

variable {c : Catalog}

theorem allow_congr {xs ys : List String} (h : ∀ field, field ∈ xs ↔ field ∈ ys) : c.allow xs = c.allow ys := by
  have sets : xs.foldl (fun s f => s.insert f ()) (c.whitelist.getD .empty) =
      ys.foldl (fun s f => s.insert f ()) (c.whitelist.getD .empty) := by
    refine NameSet.eq_of_mem_iff fun field => ?_
    rw [NameSet.mem_keys_foldl, NameSet.mem_keys_foldl, h]
  rw [allow, allow, sets]

/-- The fields that are listed are those that are allowed, each once and in the order of their bytes. -/
theorem listed_of_fields? {fields : List String} (h : c.fields? = some fields) :
    fields.Pairwise (fun x y => Text.bytes x < Text.bytes y) ∧ ∀ field, field ∈ fields ↔ c.isAllowed field = true := by
  obtain ⟨s, limited, rfl⟩ := Option.map_eq_some_iff.1 h
  refine ⟨s.increasing_keys.imp fun less => Text.bytes_lt_bytes_iff.2 less, fun field => ?_⟩
  rw [isAllowed, limited, List.contains_iff_mem]

/-- A catalog that allows the fields of a whitelist and more fields, or all where neither is given. What it lists is in the order
of bytes, without repetition. -/
structure Admits (c : Catalog) (whitelist : Option (List String)) (more : List String) : Prop where
  allowed : ∀ field, c.isAllowed field = true ↔
    whitelist = none ∧ more = [] ∨ (∃ fields, whitelist = some fields ∧ field ∈ fields) ∨ field ∈ more
  unlimited : c.fields? = none ↔ whitelist = none ∧ more = []
  listed : ∀ fields, c.fields? = some fields →
    fields.Pairwise (fun x y => Text.bytes x < Text.bytes y) ∧ ∀ field, field ∈ fields ↔ c.isAllowed field = true

end Catalog

/-! ## Fields in settings -/

namespace Settings

variable {s s' : Settings} {c : Catalog} {more more' : List String}

theorem ofToml_eq_ok {text : String}
    (parts : ((Toml.parse text).bind ofEntries?).map (fun s => (s.whitelist, s.maxDepth, s.operations.entries)) =
      some (s.whitelist, s.maxDepth, s.operations.entries)) :
    ofToml text = .ok s := by
  obtain ⟨t, found, same⟩ := Option.map_eq_some_iff.1 parts
  obtain ⟨whitelist, maxDepth, operations⟩ := s
  obtain ⟨whitelist', maxDepth', operations'⟩ := t
  obtain ⟨rfl, rest⟩ := Prod.mk.inj same
  obtain ⟨rfl, entries⟩ := Prod.mk.inj rest
  obtain ⟨es, increasing⟩ := operations
  obtain ⟨es', increasing'⟩ := operations'
  cases entries
  rw [ofToml, found]

@[simp] theorem operations_allowing : (s.allowing more).operations = s.operations := by
  unfold allowing
  split <;> rfl

@[simp] theorem maxDepth_allowing : (s.allowing more).maxDepth = s.maxDepth := by
  unfold allowing
  split <;> rfl

theorem whitelist_allowing : (s.allowing more).whitelist =
    if more = [] then s.whitelist else some (s.whitelist.getD [] ++ more) := by
  unfold allowing
  cases more <;> rfl

theorem whitelist_allowing_eq_none_iff : (s.allowing more).whitelist = none ↔ s.whitelist = none ∧ more = [] := by
  rw [whitelist_allowing]
  split <;> simp [*]

theorem exists_toCatalog_allowing_iff : (∃ c, (s.allowing more).toCatalog = .ok c) ↔ ∃ c, s.toCatalog = .ok c := by
  simp only [toCatalog_eq_ok_iff, operations_allowing, exists_and_left, exists_eq, and_true]

theorem fields?_eq_none_iff (h : s.toCatalog = .ok c) : c.fields? = none ↔ s.whitelist = none := by
  obtain ⟨-, rfl⟩ := toCatalog_eq_ok_iff.1 h
  rw [Catalog.fields?, Option.map_eq_none_iff, ← Option.not_isSome_iff_eq_none, Catalog.isSome_whitelist_build, limits_calls,
    Option.not_isSome_iff_eq_none]

theorem admits_of_toCatalog (h : (s.allowing more).toCatalog = .ok c) : c.Admits s.whitelist more := by
  refine ⟨fun field => ?_, ?_, fun fields => Catalog.listed_of_fields?⟩
  · rw [isAllowed_toCatalog h, whitelist_allowing]
    cases s.whitelist <;> cases more <;> simp
  · rw [fields?_eq_none_iff h, whitelist_allowing_eq_none_iff]

/-- Settings that allow the same fields, and are the same in all else. -/
structure Alike (s s' : Settings) : Prop where
  whitelist : Option.Rel (fun xs ys => ∀ field, field ∈ xs ↔ field ∈ ys) s.whitelist s'.whitelist
  maxDepth : s.maxDepth = s'.maxDepth
  operations : s.operations = s'.operations

namespace Alike

theorem toCatalog (alike : s.Alike s') : s.toCatalog = s'.toCatalog := by
  obtain ⟨whitelist, maxDepth, operations⟩ := s
  obtain ⟨whitelist', maxDepth', operations'⟩ := s'
  obtain ⟨fields, depth, same⟩ := alike
  cases same
  cases fields with
  | none => rfl
  | some members =>
    -- The fields are in the catalog before the operations are added to it.
    rw [Settings.toCatalog, Settings.toCatalog]
    dsimp only [Catalog.ofWhitelist]
    rw [Catalog.allow_congr members]

theorem accept (alike : s.Alike s') (text : String) : s.accept text = s'.accept text := by
  unfold Settings.accept checkDepth
  rw [alike.toCatalog, alike.maxDepth]

theorem listing (alike : s.Alike s') (c : Catalog) (colour : Bool) : s.listing c colour = s'.listing c colour := by
  unfold Settings.listing templates
  rw [alike.operations]

theorem allowing (alike : s.Alike s') (same : ∀ field, field ∈ more ↔ field ∈ more') :
    (s.allowing more).Alike (s'.allowing more') := by
  refine ⟨?_, by simpa using alike.maxDepth, by simpa using alike.operations⟩
  have none_iff : more = [] ↔ more' = [] := by
    rw [List.eq_nil_iff_forall_not_mem, List.eq_nil_iff_forall_not_mem]
    exact forall_congr' fun field => not_congr (same field)
  rw [whitelist_allowing, whitelist_allowing]
  by_cases silent : more = []
  · rw [if_pos silent, if_pos (none_iff.1 silent)]
    exact alike.whitelist
  · rw [if_neg silent, if_neg fun silent' => silent (none_iff.2 silent')]
    refine .some fun field => ?_
    obtain ⟨fields, -, -⟩ := alike
    rw [List.mem_append, List.mem_append, same]
    generalize s.whitelist = whitelist, s'.whitelist = whitelist' at fields ⊢
    cases fields with
    | none => rfl
    | some members => exact or_congr_left (members field)

end Alike

end Settings

/-! ## Fields in a run -/

theorem mapError_eq_ok_iff {ε ε' α : Type} {x : Except ε α} {f : ε → ε'} {a : α} :
    x.mapError f = .ok a ↔ x = .ok a := by
  cases x <;> simp [Except.mapError]

/-- A file here comes before the settings of the user. -/
theorem Surroundings.usualSettings_of_isFile {w : Surroundings} {text : String} (here : w.isFile "querysql.toml" = true)
    (look : w.look "querysql.toml" = .ok text.toUTF8) : w.usualSettings = Settings.ofToml text := by
  have place : (usualPlaces w.userConfig).find? w.isFile = some "querysql.toml" := List.find?_cons_of_pos here
  have read : w.textAt "querysql.toml" = .ok text := by
    rw [textAt, look]
    exact textOf?_toUTF8 text
  rw [usualSettings, place]
  dsimp only
  rw [settingsAt, read]

namespace Request

variable {r r' : Request} {w w' : Surroundings} {s : Settings} {c : Catalog}

/-- The settings that a request finds, without the fields of its own. -/
def found (r : Request) (w : Surroundings) : Except Fault Settings :=
  match r.config with
  | some path => (w.settingsAt path).mapError (.settings path)
  | none => w.usualSettings.mapError .filter

/-- The catalog of a run. -/
def catalog (r : Request) (w : Surroundings) : Except Fault Catalog :=
  (r.settings w).bind fun s => s.toCatalog.mapError .filter

theorem found_of_usualSettings (unnamed : r.config = none) (loaded : w.usualSettings = .ok s) : r.found w = .ok s := by
  rw [found, unnamed]
  exact mapError_eq_ok_iff.2 loaded

theorem settings_eq (r : Request) (w : Surroundings) : r.settings w = (r.found w).map (·.allowing r.whitelist) := by
  unfold settings found
  cases r.config with
  | some path =>
    dsimp only
    cases w.settingsAt path <;> rfl
  | none =>
    dsimp only
    cases w.usualSettings <;> rfl

theorem catalog_eq_ok_iff (h : r.found w = .ok s) :
    r.catalog w = .ok c ↔ (s.allowing r.whitelist).toCatalog = .ok c := by
  rw [catalog, settings_eq, h]
  exact mapError_eq_ok_iff

/-- The catalog of a run is that under which its filter is compiled. -/
theorem Stages.catalog_eq {s : Settings} {text : String} {f : Filter} {k : Clause} (stages : r.Stages w s text f c k) :
    r.catalog w = .ok c := by
  rw [Request.catalog, stages.settings]
  exact mapError_eq_ok_iff.2 stages.catalog

theorem report_operators (job : r.job = .operators) (loaded : r.found w = .ok s) (made : r.catalog w = .ok c) :
    (r.course w).report w.colour =
      ⟨0, unlines (Operator.listing w.colour ++ s.templates w.colour ++ ["", Settings.fields c w.colour]), ""⟩ := by
  have settings : r.settings w = .ok (s.allowing r.whitelist) := by rw [settings_eq, loaded, Except.map]
  have templates : (s.allowing r.whitelist).templates w.colour = s.templates w.colour := by
    rw [Settings.templates, Settings.templates, Settings.operations_allowing]
  rw [course, job]
  show (r.showOperators w).report w.colour = _
  rw [showOperators, settings, Course.silent_ok_bind, Course.check, (catalog_eq_ok_iff loaded).1 made, Except.mapError,
    Course.silent_ok_bind, Settings.listing, templates, Course.report_print]

/-- Requests for the same job, with the same fields however they list them, whose settings and texts are the same but for how the
settings list theirs. -/
structure Relisted (r r' : Request) (w w' : Surroundings) : Prop where
  job : r.job = r'.job
  file : r.file = r'.file
  format : r.format = r'.format
  verbose : r.verbose = r'.verbose
  whitelist : ∀ field, field ∈ r.whitelist ↔ field ∈ r'.whitelist
  colour : w.colour = w'.colour
  notes : w.notes = w'.notes
  found : (∃ e, r.found w = .error e ∧ r'.found w' = .error e) ∨
    ∃ s s', r.found w = .ok s ∧ r'.found w' = .ok s' ∧ s.Alike s'
  text : ∀ filter, r.job.filter? = some filter → w.textFrom (r.source filter) = w'.textFrom (r'.source filter)

namespace Relisted

variable {filter : Option String}

theorem settings (h : r.Relisted r' w w') : (∃ e, r.settings w = .error e ∧ r'.settings w' = .error e) ∨
    ∃ s s', r.settings w = .ok s ∧ r'.settings w' = .ok s' ∧ s.Alike s' := by
  rw [settings_eq, settings_eq]
  rcases h.found with ⟨e, fails, fails'⟩ | ⟨s, s', loaded, loaded', alike⟩
  · exact .inl ⟨e, by rw [fails, Except.map], by rw [fails', Except.map]⟩
  · exact .inr ⟨_, _, by rw [loaded, Except.map], by rw [loaded', Except.map], alike.allowing h.whitelist⟩

theorem prepare (h : r.Relisted r' w w') (given : r.job.filter? = some filter) : r.prepare w filter = r'.prepare w' filter := by
  have input : r.sayInput w = r'.sayInput w' := by
    unfold sayInput
    rw [h.verbose, h.colour]
  have events : r.sayEvents w = r'.sayEvents w' := by
    unfold sayEvents
    rw [h.verbose, h.notes]
  unfold Request.prepare
  rcases h.settings with ⟨e, fails, fails'⟩ | ⟨s, s', loaded, loaded', alike⟩
  · rw [fails, fails', Course.silent_error_bind, Course.silent_error_bind]
  · rw [loaded, loaded', Course.silent_ok_bind, Course.silent_ok_bind, h.text filter given, input, events]
    simp only [alike.accept]

theorem course (h : r.Relisted r' w w') : r.course w = r'.course w' := by
  cases given : r.job.filter? with
  | some filter =>
    have given' : r'.job.filter? = some filter := by rw [← h.job, given]
    rw [course_eq given, course_eq given', h.prepare given, h.job, h.format, h.colour]
  | none =>
    have job : r.job = .operators := by
      cases eq : r.job with
      | operators => rfl
      | _ =>
        rw [eq] at given
        cases given
    rw [Request.course, Request.course, ← h.job, job]
    show r.showOperators w = r'.showOperators w'
    unfold showOperators
    rcases h.settings with ⟨e, fails, fails'⟩ | ⟨s, s', loaded, loaded', alike⟩
    · rw [fails, fails', Course.silent_error_bind, Course.silent_error_bind]
    · rw [loaded, loaded', Course.silent_ok_bind, Course.silent_ok_bind, alike.toCatalog, h.colour]
      simp only [alike.listing]

end Relisted

end Request

namespace Command

variable {words : List String} {w : Surroundings} {r : Request}

/-- For every line of words that is a request, and all settings that load: the catalog of the run allows all fields where neither
the settings nor the line name any, and else the fields that either of them names. So the line takes no field from those of the
settings, limits settings without a whitelist to its own fields, and an empty whitelist alone refuses all fields. A list of the
operators shows the fields that are allowed in the order of bytes, each once. In what order the fields are named in the line and
in the settings, and how often, changes nothing of the report, whether or not the settings load. -/
theorem run_whitelist (asked : ofWords w.config words = some (.request r)) :
    (∀ s, r.found w = .ok s →
      ((∃ c, r.catalog w = .ok c) ↔ ∃ c, s.toCatalog = .ok c) ∧
      ∀ c, r.catalog w = .ok c →
        c.Admits s.whitelist r.whitelist ∧
        (∀ d, s.toCatalog = .ok d → s.whitelist ≠ none →
          ∀ field, d.isAllowed field = true → c.isAllowed field = true) ∧
        (s.whitelist = none → r.whitelist ≠ [] → ∀ field, c.isAllowed field = true ↔ field ∈ r.whitelist) ∧
        (s.whitelist = some [] → r.whitelist = [] → ∀ field, c.isAllowed field = false) ∧
        (∀ s' text f d k, r.Stages w s' text f d k → d = c) ∧
        (r.job = .operators → run words w =
          ⟨0, unlines (Operator.listing w.colour ++ s.templates w.colour ++ ["", Settings.fields c w.colour]), ""⟩)) ∧
    ∀ words' w' r', ofWords w'.config words' = some (.request r') → r.Relisted r' w w' → run words w = run words' w' := by
  rw [run_eq asked]
  refine ⟨fun s loaded => ⟨?_, fun c made => ?_⟩, ?_⟩
  · simp only [Request.catalog_eq_ok_iff loaded]
    exact Settings.exists_toCatalog_allowing_iff
  · have admits := Settings.admits_of_toCatalog ((Request.catalog_eq_ok_iff loaded).1 made)
    refine ⟨admits, ?_, ?_, ?_, ?_, fun job => Request.report_operators job loaded made⟩
    · intro d own limited field allowed
      obtain ⟨fields, given⟩ := Option.ne_none_iff_exists'.1 limited
      have named := (Settings.isAllowed_toCatalog own).1 allowed fields given
      exact (admits.allowed field).2 (.inr (.inl ⟨fields, given, named⟩))
    · intro unlimited given field
      rw [admits.allowed, unlimited]
      simp [given]
    · intro limited silent field
      rw [← Bool.not_eq_true, admits.allowed, limited, silent]
      simp
    · intro s' text f d k stages
      have again := stages.catalog_eq
      rw [made] at again
      exact (Except.ok.inj again).symm
  · intro words' w' r' asked' relisted
    rw [run_eq asked', relisted.course, relisted.colour]

/-- Two lines, each with a file for its settings, that name the same fields in another order, and some of them twice. -/
theorem run_whitelist_repeated :
    let here := fun text : String => (⟨fun path => if path = "querysql.toml" then .ok text.toUTF8 else .error .notFound,
      (· == "querysql.toml"), .empty, none, none, false, .usual⟩ : Surroundings)
    let w := here "whitelist = [\"b\", \"a\"]"
    let w' := here "whitelist = [\"a\", \"b\", \"b\"]"
    let words := ["operators", "-w", "c,a,c"]
    let words' := ["-w", "a", "--whitelist=c", "operators"]
    (∃ r c, ofWords w.config words = some (.request r) ∧ r.catalog w = .ok c ∧
      ∀ field, c.isAllowed field = true ↔ field ∈ ["a", "b", "c"]) ∧
      run words w = run words' w' := by
  have line : ∀ field, field ∈ ["c", "a", "c"] ↔ field ∈ ["a", "c"] := by simp [or_comm]
  have file : ∀ field, field ∈ ["b", "a"] ↔ field ∈ ["a", "b", "b"] := by simp [or_comm]
  have both : ∀ field, field ∈ ["b", "a"] ∨ field ∈ ["c", "a", "c"] ↔ field ∈ ["a", "b", "c"] := by
    intro field
    simp only [List.mem_cons, List.not_mem_nil]
    tauto
  intro here w w' words words'
  let r : Request := ⟨.operators, none, ["c", "a", "c"], none, .text, false⟩
  let r' : Request := ⟨.operators, none, ["a", "c"], none, .text, false⟩
  have asked : ofWords w.config words = some (.request r) := by decide +kernel
  have asked' : ofWords w'.config words' = some (.request r') := by decide +kernel
  have read : Settings.ofToml "whitelist = [\"b\", \"a\"]" = .ok ⟨some ["b", "a"], 32, .empty⟩ :=
    Settings.ofToml_eq_ok (by decide +kernel)
  have read' : Settings.ofToml "whitelist = [\"a\", \"b\", \"b\"]" = .ok ⟨some ["a", "b", "b"], 32, .empty⟩ :=
    Settings.ofToml_eq_ok (by decide +kernel)
  have found : r.found w = .ok ⟨some ["b", "a"], 32, .empty⟩ :=
    Request.found_of_usualSettings rfl ((Surroundings.usualSettings_of_isFile rfl rfl).trans read)
  have found' : r'.found w' = .ok ⟨some ["a", "b", "b"], 32, .empty⟩ :=
    Request.found_of_usualSettings rfl ((Surroundings.usualSettings_of_isFile rfl rfl).trans read')
  obtain ⟨catalogs, same⟩ := run_whitelist asked
  obtain ⟨exists_iff, admits⟩ := catalogs _ found
  obtain ⟨c, made⟩ := exists_iff.2 ⟨_, rfl⟩
  have alike : r.Relisted r' w w' := by
    refine ⟨rfl, rfl, rfl, rfl, line, rfl, rfl, .inr ⟨_, _, found, found', .some file, rfl, rfl⟩, ?_⟩
    intro filter given
    cases given
  refine ⟨⟨r, c, asked, made, fun field => ?_⟩, same words' w' r' asked' alike⟩
  rw [(admits c made).1.allowed, ← both]
  simp [r]

end Command

end FilterTree
