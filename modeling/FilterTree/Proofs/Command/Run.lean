import FilterTree.Command.Course
import FilterTree.Command.Run
import FilterTree.Proofs.Preparation
import FilterTree.Proofs.Printed

/-!
# Runs of the command

* `Course.Quiet`, `Course.Sure`, `Course.Clean` : a course without output, one that does not fail, and one that has no output if
  it fails.
* `Quiet.bind`, `Sure.bind`, `Clean.bind` : one course behind another. The first one of a clean course is quiet.
* `outcome_bind`, `output_bind` : what two courses come to, and what they print, where the first one is quiet.
* `code_report_eq_zero_iff`, `Clean.report`, `report_bind_congr` : the codes of reports.
* `Request.Delivers` : the ways in which the text of a filter reaches a request: the line, a file, or the input.
* `Request.Stages` : all that has to go well before anything is printed.
* `Request.Alike` : requests that differ at most in the way of their filters, in surroundings that differ at most in what these
  need.
* `Request.clean_course` : a run that fails has printed nothing.
* `Request.outcome_course_iff` : a run for a filter goes well just when all stages do.
* `Command.run_agrees` : what the command prints, for every line of words that is a request.
-/

namespace FilterTree.Course

/-! ## Courses without partial output -/

variable {α β : Type} {x : Course α} {next : α → Course β}

def Quiet (x : Course α) : Prop := x.output = ""

def Sure (x : Course α) : Prop := ∃ a, x.outcome = .ok a

/-- A course that has no output if it fails. -/
def Clean (x : Course α) : Prop := ∀ e, x.outcome = .error e → x.output = ""

/-! ## One course behind another -/

theorem bind_of_ok {a : α} (h : x.outcome = .ok a) :
    x >>= next = ⟨x.output ++ (next a).output, x.messages ++ (next a).messages, (next a).outcome⟩ := by
  show andThen x next = _
  rw [andThen, h]

theorem bind_of_error {e : Fault} (h : x.outcome = .error e) : x >>= next = ⟨x.output, x.messages, .error e⟩ := by
  show andThen x next = _
  rw [andThen, h]

theorem outcome_bind : (x >>= next).outcome = x.outcome.bind fun a => (next a).outcome := by
  cases h : x.outcome with
  | ok a => rw [bind_of_ok h, Except.bind]
  | error e => rw [bind_of_error h, Except.bind]

theorem silent_ok_bind (a : α) (next : α → Course β) : silent (.ok a) >>= next = next a := by
  rw [bind_of_ok rfl]
  show (⟨"" ++ (next a).output, "" ++ (next a).messages, (next a).outcome⟩ : Course β) = next a
  rw [String.empty_append, String.empty_append]

theorem silent_error_bind (e : Fault) (next : α → Course β) : silent (.error e) >>= next = silent (.error e) :=
  bind_of_error rfl

theorem output_bind (quiet : x.Quiet) {a : α} (h : x.outcome = .ok a) : (x >>= next).output = (next a).output := by
  rw [bind_of_ok h]
  show x.output ++ (next a).output = _
  rw [quiet, String.empty_append]

theorem Quiet.bind (hx : x.Quiet) (h : ∀ a, (next a).Quiet) : (x >>= next).Quiet := by
  cases outcome : x.outcome with
  | ok a =>
    show (x >>= next).output = ""
    rw [output_bind hx outcome, h a]
  | error e =>
    rw [bind_of_error outcome]
    exact hx

theorem Sure.bind (hx : x.Sure) (h : ∀ a, (next a).Sure) : (x >>= next).Sure := by
  obtain ⟨a, outcome⟩ := hx
  rw [bind_of_ok outcome]
  exact h a

theorem Clean.bind (hx : x.Quiet) (h : ∀ a, (next a).Clean) : (x >>= next).Clean := by
  intro e fails
  cases outcome : x.outcome with
  | ok a =>
    rw [output_bind hx outcome]
    rw [bind_of_ok outcome] at fails
    exact h a e fails
  | error e =>
    rw [bind_of_error outcome]
    exact hx

theorem Sure.clean (h : x.Sure) : x.Clean := by
  obtain ⟨a, outcome⟩ := h
  intro e fails
  rw [outcome] at fails
  cases fails

/-! ## Single steps -/

theorem quiet_silent (outcome : Except Fault α) : (silent outcome).Quiet := rfl

theorem quiet_check (outcome : Except Error α) : (check outcome).Quiet := rfl

theorem quiet_say (lines : List String) : (say lines).Quiet := rfl

theorem quiet_pure (a : α) : (pure a : Course α).Quiet := rfl

theorem sure_print (lines : List String) : (print lines).Sure := ⟨(), rfl⟩

/-! ## Reports -/

variable {run : Course Unit} {colour : Bool}

theorem report_print (lines : List String) : (print lines).report colour = ⟨0, unlines lines, ""⟩ := rfl

theorem output_report : (run.report colour).output = run.output := by
  unfold report
  split <;> rfl

theorem code_report_eq_zero_iff : (run.report colour).code = 0 ↔ run.outcome = .ok () := by
  unfold report
  cases run.outcome with
  | ok => exact ⟨fun _ => rfl, fun _ => rfl⟩
  | error e => exact ⟨nofun, nofun⟩

theorem Clean.report (h : run.Clean) :
    (run.report colour).code = 0 ∨ (run.report colour).code = 1 ∧ (run.report colour).output = "" := by
  rw [output_report]
  unfold Course.report
  cases outcome : run.outcome with
  | ok => exact .inl rfl
  | error e => exact .inr ⟨rfl, h e outcome⟩

/-- Only what quiet courses come to is seen of them where the same follows. -/
theorem report_bind_congr {x x' : Course α} {next : α → Course Unit} {colour' : Bool} (hx : x.Quiet) (hx' : x'.Quiet)
    (same : x.outcome = x'.outcome) :
    ((x >>= next).report colour).code = ((x' >>= next).report colour').code ∧
      ((x >>= next).report colour).output = ((x' >>= next).report colour').output := by
  rw [output_report, output_report]
  cases outcome : x.outcome with
  | ok a =>
    rw [outcome] at same
    refine ⟨?_, ?_⟩
    · rw [bind_of_ok outcome, bind_of_ok same.symm]
      unfold report
      cases (next a).outcome <;> rfl
    · rw [output_bind hx outcome, output_bind hx' same.symm]
  | error e =>
    rw [outcome] at same
    rw [bind_of_error outcome, bind_of_error same.symm]
    exact ⟨rfl, hx.trans hx'.symm⟩

end FilterTree.Course

namespace FilterTree

open Json (Script)

/-! ## Requests -/

/-- The filter that a job is given in the line, if it takes one. -/
def Job.filter? : Job → Option (Option String)
  | .compile filter => some filter
  | .explain filter => some filter
  | .operators => none

def Job.bare : Job → Job
  | .compile _ => .compile none
  | .explain _ => .explain none
  | .operators => .operators

def Job.shown (job : Job) (format : Format) (colour : Bool) (p : Filter × Clause) : Course Unit :=
  match job with
  | .compile _ => printClause format colour p.2
  | .explain _ => printFilter format colour p.1 p.2
  | .operators => pure ()

namespace Request

/-- The ways in which the text of a filter reaches a request: in the line, where it is no dash, in a file, or as the input. A file
comes before the other two. -/
inductive Delivers (r : Request) (w : Surroundings) : String → Prop where
  | line {text : String} (given : r.job.filter? = some (some text)) (noDash : text ≠ "-") (noFile : r.file = none) :
    Delivers r w text
  | file {filter : Option String} {path text : String} (job : r.job.filter? = some filter) (named : r.file = some path)
    (read : w.textAt path = .ok text) : Delivers r w text
  | input {filter : Option String} {text : String} (job : r.job.filter? = some filter)
    (given : filter = none ∨ filter = some "-") (noFile : r.file = none) (read : textOf? w.input = .ok text) :
    Delivers r w text

/-- All that has to go well before anything is printed: the settings load, a text is there and denotes a filter that is not too
deep, the settings make a catalog, and the filter has a clause. -/
structure Stages (r : Request) (w : Surroundings) (s : Settings) (text : String) (f : Filter) (c : Catalog) (k : Clause) :
    Prop where
  settings : r.settings w = .ok s
  delivers : r.Delivers w text
  denotes : Filter.ofText text = .ok f
  shallow : s.checkDepth f = .ok ()
  catalog : s.toCatalog = .ok c
  compiles : f.compile c = .ok k

/-- The paths where the settings of a request are looked for. -/
def places (r : Request) (w : Surroundings) : List String :=
  match r.config with
  | some path => [path]
  | none => Surroundings.usualPlaces w.userConfig

/-- Requests for the same job in the same form that differ at most in their filters and in their talk, in surroundings where
their settings are the same. -/
structure Alike (r r' : Request) (w w' : Surroundings) : Prop where
  job : r.job.bare = r'.job.bare
  format : r.format = r'.format
  whitelist : r.whitelist = r'.whitelist
  config : r.config = r'.config
  colour : w.colour = w'.colour
  userConfig : w.userConfig = w'.userConfig
  look : ∀ path ∈ r.places w, w.look path = w'.look path
  isFile : ∀ path ∈ r.places w, w.isFile path = w'.isFile path

variable {r r' : Request} {w w' : Surroundings} {filter : Option String} {text : String}

/-! ## Nothing is printed before all went well -/

theorem quiet_prepare : (r.prepare w filter).Quiet := by
  unfold prepare
  refine .bind (Course.quiet_silent _) fun s => .bind (Course.quiet_silent _) fun text => ?_
  refine .bind (Course.quiet_say _) fun _ => .bind (Course.quiet_check _) fun p => ?_
  exact .bind (Course.quiet_say _) fun _ => .bind (Course.quiet_check _) fun k => Course.quiet_pure _

theorem sure_printClause (format : Format) (colour : Bool) (k : Clause) : (printClause format colour k).Sure := by
  cases format with
  | json => exact Course.sure_print _
  | text => exact Course.sure_print _

theorem sure_printFilter (format : Format) (colour : Bool) (f : Filter) (k : Clause) :
    (printFilter format colour f k).Sure := by
  cases format with
  | json => exact Course.sure_print _
  | text =>
    refine .bind (Course.sure_print _) fun _ => .bind (Course.sure_print _) fun _ => ?_
    exact .bind (Course.sure_print _) fun _ => Course.sure_print _

theorem sure_shown (job : Job) (format : Format) (colour : Bool) (p : Filter × Clause) : (job.shown format colour p).Sure := by
  cases job with
  | compile => exact sure_printClause format colour p.2
  | explain => exact sure_printFilter format colour p.1 p.2
  | operators => exact ⟨(), rfl⟩

theorem course_eq (h : r.job.filter? = some filter) :
    r.course w = r.prepare w filter >>= r.job.shown r.format w.colour := by
  unfold course
  cases job : r.job with
  | compile =>
    rw [job] at h
    cases h
    rfl
  | explain =>
    rw [job] at h
    cases h
    rfl
  | operators =>
    rw [job] at h
    cases h

theorem clean_showOperators : (r.showOperators w).Clean := by
  refine .bind (Course.quiet_silent _) fun s => .bind (Course.quiet_check _) fun c => ?_
  exact (Course.sure_print _).clean

theorem clean_course : (r.course w).Clean := by
  cases given : r.job.filter? with
  | some filter =>
    rw [course_eq given]
    exact .bind quiet_prepare fun p => (sure_shown _ _ _ p).clean
  | none =>
    unfold course
    cases job : r.job with
    | compile =>
      rw [job] at given
      cases given
    | explain =>
      rw [job] at given
      cases given
    | operators => exact clean_showOperators

/-! ## When all goes well -/

theorem outcome_prepare : (r.prepare w filter).outcome =
    (r.settings w).bind fun s => (w.textFrom (r.source filter)).bind fun text => (s.prepare text).mapError .filter := by
  unfold prepare
  simp only [Course.outcome_bind]
  cases r.settings w with
  | error e => rfl
  | ok s =>
    cases w.textFrom (r.source filter) with
    | error e => rfl
    | ok text =>
      show ((s.accept text).mapError Fault.filter).bind _ = (s.accept text >>= _).mapError _
      cases s.accept text with
      | error e => rfl
      | ok p =>
        show ((p.1.compile p.2).mapError Fault.filter).bind _ = (p.1.compile p.2 >>= _).mapError _
        cases p.1.compile p.2 with
        | error e => rfl
        | ok k => rfl

theorem textFrom_file_iff {path : String} : w.textFrom (.file path) = .ok text ↔ w.textAt path = .ok text := by
  simp only [Surroundings.textFrom]
  cases w.textAt path with
  | ok read => rw [Except.ok.injEq, Except.ok.injEq]
  | error f => exact ⟨nofun, nofun⟩

theorem textFrom_input_iff : w.textFrom .input = .ok text ↔ textOf? w.input = .ok text := by
  simp only [Surroundings.textFrom]
  cases textOf? w.input with
  | ok read => rw [Except.ok.injEq, Except.ok.injEq]
  | error f => exact ⟨nofun, nofun⟩

theorem delivers_iff (h : r.job.filter? = some filter) : r.Delivers w text ↔ w.textFrom (r.source filter) = .ok text := by
  constructor
  · intro delivers
    cases delivers with
    | line given noDash noFile =>
      rw [h] at given
      cases given
      simp only [source, noFile, if_neg noDash, Surroundings.textFrom]
    | file job named read =>
      simp only [source, named]
      exact textFrom_file_iff.2 read
    | input job given noFile read =>
      rw [h] at job
      cases job
      rcases given with rfl | rfl
      · simp only [source, noFile]
        exact textFrom_input_iff.2 read
      · simp only [source, noFile, if_pos]
        exact textFrom_input_iff.2 read
  · intro found
    unfold source at found
    split at found
    · rename_i path named
      exact .file h named (textFrom_file_iff.1 found)
    · rename_i given noFile
      split at found
      · rename_i dash
        exact .input h (.inr (by rw [dash])) noFile (textFrom_input_iff.1 found)
      · rename_i noDash
        cases found
        exact .line h noDash noFile
    · rename_i noFile
      exact .input h (.inl rfl) noFile (textFrom_input_iff.1 found)

theorem outcome_prepare_iff (h : r.job.filter? = some filter) {f : Filter} {k : Clause} :
    (r.prepare w filter).outcome = .ok (f, k) ↔ ∃ s text c, r.Stages w s text f c k := by
  rw [outcome_prepare]
  constructor
  · intro prepared
    obtain ⟨s, settings, rest⟩ := bind_eq_ok_iff.1 prepared
    obtain ⟨text, found, rest⟩ := bind_eq_ok_iff.1 rest
    cases accepted : s.prepare text with
    | error e =>
      rw [accepted] at rest
      cases rest
    | ok p =>
      rw [accepted] at rest
      cases rest
      obtain ⟨denotes, shallow, c, catalog, compiles⟩ := Settings.prepare_eq_ok_iff.1 accepted
      exact ⟨s, text, c, settings, (delivers_iff h).2 found, denotes, shallow, catalog, compiles⟩
  · rintro ⟨s, text, c, stages⟩
    have accepted := Settings.prepare_eq_ok_iff.2 ⟨stages.denotes, stages.shallow, c, stages.catalog, stages.compiles⟩
    rw [stages.settings, Except.bind, (delivers_iff h).1 stages.delivers, Except.bind, accepted]
    rfl

theorem outcome_course_iff (h : r.job.filter? = some filter) :
    (r.course w).outcome = .ok () ↔ ∃ s text f c k, r.Stages w s text f c k := by
  rw [course_eq h, Course.outcome_bind]
  constructor
  · intro well
    obtain ⟨⟨f, k⟩, prepared, -⟩ := bind_eq_ok_iff.1 well
    obtain ⟨s, text, c, stages⟩ := (outcome_prepare_iff h).1 prepared
    exact ⟨s, text, f, c, k, stages⟩
  · rintro ⟨s, text, f, c, k, stages⟩
    obtain ⟨_, shown⟩ := sure_shown r.job r.format w.colour (f, k)
    rw [(outcome_prepare_iff h).2 ⟨s, text, c, stages⟩, Except.bind, shown]

theorem output_course (h : r.job.filter? = some filter) {s : Settings} {f : Filter} {c : Catalog} {k : Clause}
    (stages : r.Stages w s text f c k) : (r.course w).output = (r.job.shown r.format w.colour (f, k)).output := by
  rw [course_eq h, Course.output_bind quiet_prepare ((outcome_prepare_iff h).2 ⟨s, text, c, stages⟩)]

/-! ## The way of the text -/

theorem Alike.settings (alike : r.Alike r' w w') : r.settings w = r'.settings w' := by
  have look := alike.look
  have isFile := alike.isFile
  have settingsAt : ∀ path ∈ r.places w, w.settingsAt path = w'.settingsAt path := by
    intro path mem
    unfold Surroundings.settingsAt Surroundings.textAt
    rw [look path mem]
  unfold Request.settings
  rw [← alike.config, ← alike.whitelist]
  unfold places at settingsAt isFile
  cases config : r.config with
  | some path =>
    rw [config] at settingsAt
    dsimp only
    rw [settingsAt path List.mem_cons_self]
  | none =>
    rw [config] at settingsAt isFile
    have found : (Surroundings.usualPlaces w.userConfig).find? w.isFile =
        (Surroundings.usualPlaces w.userConfig).find? w'.isFile := List.find?_congr isFile
    have usual : w.usualSettings = w'.usualSettings := by
      unfold Surroundings.usualSettings
      rw [← alike.userConfig, ← found]
      cases place : (Surroundings.usualPlaces w.userConfig).find? w.isFile with
      | some path => exact settingsAt path (List.mem_of_find?_eq_some place)
      | none => rfl
    dsimp only
    rw [usual]

theorem Delivers.exists_filter (h : r.Delivers w text) : ∃ filter, r.job.filter? = some filter := by
  cases h with
  | line given => exact ⟨_, given⟩
  | file job => exact ⟨_, job⟩
  | input job => exact ⟨_, job⟩

theorem shown_eq_of_bare {job job' : Job} (h : job.bare = job'.bare) : job.shown = job'.shown := by
  cases job with
  | compile =>
    cases job' with
    | compile => rfl
    | _ => cases h
  | explain =>
    cases job' with
    | explain => rfl
    | _ => cases h
  | operators =>
    cases job' with
    | operators => rfl
    | _ => cases h

/-- Requests that are alike come to the same, and print the same, if the same text reaches them, whatever its way. -/
theorem Alike.report (alike : r.Alike r' w w') (here : r.Delivers w text) (there : r'.Delivers w' text) :
    ((r.course w).report w.colour).code = ((r'.course w').report w'.colour).code ∧
      ((r.course w).report w.colour).output = ((r'.course w').report w'.colour).output := by
  obtain ⟨filter, given⟩ := here.exists_filter
  obtain ⟨filter', given'⟩ := there.exists_filter
  have prepared : (r.prepare w filter).outcome = (r'.prepare w' filter').outcome := by
    rw [outcome_prepare, outcome_prepare, alike.settings, (delivers_iff given).1 here, (delivers_iff given').1 there]
  rw [course_eq given, course_eq given', shown_eq_of_bare alike.job, alike.format, alike.colour]
  exact Course.report_bind_congr quiet_prepare quiet_prepare prepared

end Request

/-! ## What is printed -/

theorem textOf?_toUTF8 (s : String) : textOf? s.toUTF8 = .ok s := by
  have valid : s.toUTF8.IsValidUTF8 := s.isValidUTF8
  rw [textOf?, String.fromUTF8?, dif_pos valid]
  rfl

theorem spans_printValue {d : Script} {v : Json} (h : d.Renders v) : d.Spans (printValue v).output := by
  have line : Json.Blank ['\n'] := by simp [Json.Blank, Json.isBlank]
  refine ⟨[], v.pretty, ['\n'], Json.blank_nil, h.pretty 0, line, ?_⟩
  show (unlines [String.ofList v.pretty]).toList = _
  simp [unlines]

namespace Command

variable {words : List String} {w : Surroundings} {r : Request}

theorem run_eq (asked : ofWords w.config words = some (.request r)) : run words w = (r.course w).report w.colour := by
  rw [run, asked]

/-- For every line of words that is a request: the run ends with the code zero, or with one and no output. For a filter, the code
is zero just when all stages go well, and neither code nor output depends on the way of its text. A clause that is printed as JSON
is the text of a script that stands for it. -/
theorem run_agrees (asked : ofWords w.config words = some (.request r)) :
    ((run words w).code = 0 ∨ (run words w).code = 1 ∧ (run words w).output = "") ∧
    (r.job ≠ .operators → ((run words w).code = 0 ↔ ∃ s text f c k, r.Stages w s text f c k)) ∧
    (∀ words' w' r' text, ofWords w'.config words' = some (.request r') → r.Alike r' w w' → r.Delivers w text →
      r'.Delivers w' text → (run words w).code = (run words' w').code ∧ (run words w).output = (run words' w').output) ∧
    ∀ filter s text f c k, r.job = .compile filter → r.format = .json → r.Stages w s text f c k →
      ∃ d : Script, d.Spans (run words w).output ∧ k.SaidBy d := by
  rw [run_eq asked]
  refine ⟨Request.clean_course.report, ?_, ?_, ?_⟩
  · intro job
    obtain ⟨filter, given⟩ : ∃ filter, r.job.filter? = some filter := by
      cases eq : r.job with
      | compile filter => exact ⟨filter, rfl⟩
      | explain filter => exact ⟨filter, rfl⟩
      | operators => exact absurd eq job
    rw [Course.code_report_eq_zero_iff, Request.outcome_course_iff given]
  · intro words' w' r' text asked' alike here there
    rw [run_eq asked']
    exact alike.report here there
  · intro filter s text f c k job format stages
    have given : r.job.filter? = some filter := by rw [job, Job.filter?]
    obtain ⟨d, renders, said⟩ := k.exists_renders (.refl _)
    refine ⟨d, ?_, said⟩
    rw [Course.output_report, Request.output_course given stages, job, format]
    exact spans_printValue renders

theorem ofText_equal : Filter.ofText "[null,\"a\",[\"equal\",1]]" = .ok (.test "a" ⟨"equal", .one (.int 1)⟩) := by
  have blank := Json.blank_nil
  have quoted : ∀ s ∈ ["a", "equal"], Json.WellQuoted s.toList := by
    intro s hs
    have plain : ∀ s ∈ ["a", "equal"], Json.PlainText s := by decide
    exact (Json.textWritten_plain (plain s hs)).wellQuoted
  have one : Script.Written (.number (.ofDigits false 1)) "1".toList := .number (Json.Numeral.written_ofDigits .plus 1)
  have condition : Script.Written (.list [.text "equal".toList, .number (.ofDigits false 1)]) "[\"equal\",1]".toList :=
    .list (.cons (.first blank) (.text (quoted "equal" (by decide))) (.cons (.more blank blank) one (.nil blank)))
  have spans : Script.Spans (.list [.null, .text "a".toList, .list [.text "equal".toList, .number (.ofDigits false 1)]])
      "[null,\"a\",[\"equal\",1]]" :=
    ⟨[], _, [], blank, .list (.cons (.first blank) .null (.cons (.more blank blank) (.text (quoted "a" (by decide)))
      (.cons (.more blank blank) condition (.nil blank)))), blank, by decide⟩
  exact Filter.ofText_eq_ok_iff.2 ⟨_, spans, by cbv⟩

/-- A test that is given once in the line and once in a file. -/
theorem run_agrees_file :
    let text := "[null,\"a\",[\"equal\",1]]"
    let w : Surroundings :=
      ⟨fun path => if path = "f" then .ok text.toUTF8 else .error .notFound, (· == "f"), .empty, none, none, false, .usual⟩
    (run ["-f", "json", text] w).code = 0 ∧
    (run ["-f", "json", text] w).code = (run ["-f", "json", "-i", "f"] w).code ∧
    (run ["-f", "json", text] w).output = (run ["-f", "json", "-i", "f"] w).output ∧
    ∃ d : Script, d.Spans (run ["-f", "json", text] w).output ∧ Clause.SaidBy ⟨"a = ?", [.int 1]⟩ d := by
  intro text w
  let line : Request := ⟨.compile (some text), none, [], none, .json, false⟩
  let file : Request := ⟨.compile none, some "f", [], none, .json, false⟩
  have asked : ofWords w.config ["-f", "json", text] = some (.request line) := by decide
  have asked' : ofWords w.config ["-f", "json", "-i", "f"] = some (.request file) := by decide
  have here : line.Delivers w text := .line rfl (by decide) rfl
  have look : w.look "f" = .ok text.toUTF8 := rfl
  have read : w.textAt "f" = .ok text := by
    rw [Surroundings.textAt, look]
    exact textOf?_toUTF8 text
  have there : file.Delivers w text := .file rfl rfl read
  have alike : line.Alike file w w := ⟨rfl, rfl, rfl, rfl, rfl, rfl, fun _ _ => rfl, fun _ _ => rfl⟩
  have compiles : (Filter.test "a" ⟨"equal", .one (.int 1)⟩).compile .unrestricted = .ok ⟨"a = ?", [.int 1]⟩ := by cbv
  have stages : line.Stages w .standard text (.test "a" ⟨"equal", .one (.int 1)⟩) .unrestricted ⟨"a = ?", [.int 1]⟩ :=
    ⟨rfl, here, ofText_equal, rfl, rfl, compiles⟩
  obtain ⟨-, code, way, printed⟩ := run_agrees asked
  obtain ⟨codes, outputs⟩ := way _ _ _ _ asked' alike here there
  exact ⟨(code (by decide)).2 ⟨_, _, _, _, _, stages⟩, codes, outputs, printed _ _ _ _ _ _ rfl rfl stages⟩

end Command

end FilterTree
