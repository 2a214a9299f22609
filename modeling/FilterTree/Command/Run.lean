import FilterTree.Command.Arguments
import FilterTree.Command.Course
import FilterTree.Command.Listing
import FilterTree.Command.Selection
import FilterTree.Filter.Wire

/-!
# A run of the command

* `Surroundings` : all that a run sees besides its words.
* `Source` : where the text of a filter comes from.
* `Request.settings`, `Request.source` : the settings, found by name or in the usual places, and the place of the
  filter.
* `printClause`, `printFilter` : what is printed where all went well.
* `Request.prepare` : the stages before anything is printed. `Request.compile`, `Request.explain`,
  `Request.showOperators` : the three jobs.
* `Command.run` : the report of a line of words.
-/

namespace FilterTree

/-- All that a run sees besides its words. -/
structure Surroundings where
  look : String → Except ReadFault ByteArray
  -- A file may be there that cannot be read, and a device is read without being one.
  isFile : String → Bool := fun path => (look path).toBool
  input : ByteArray
  userConfig : Option String
  config : Option String
  colour : Bool
  notes : NoteChoice

inductive Source where
  | line (text : String)
  | file (path : String)
  | input
deriving DecidableEq

def textOf? (bytes : ByteArray) : Except ReadFault String :=
  match String.fromUTF8? bytes with
  | some text => .ok text
  | none => .error .notUtf8

namespace Surroundings

def textAt (w : Surroundings) (path : String) : Except ReadFault String := (w.look path).bind textOf?

/-- Where settings are looked for if they are not named: here, and in the directory of the user's settings. -/
def usualPlaces (userConfig : Option String) : List String :=
  "querysql.toml" :: (userConfig.map (· ++ "/querysql/config.toml")).toList

def settingsAt (w : Surroundings) (path : String) : Except Error Settings :=
  match w.textAt path with
  | .ok text => Settings.ofToml text
  | .error f => .error (.read f)

/-- The settings in the first usual place that has a file. -/
def usualSettings (w : Surroundings) : Except Error Settings :=
  match (usualPlaces w.userConfig).find? w.isFile with
  | some path => w.settingsAt path
  | none => .ok .standard

def textFrom (w : Surroundings) : Source → Except Fault String
  | .line text => .ok text
  | .file path => match w.textAt path with
    | .ok text => .ok text
    | .error f => .error (.file path f)
  | .input => match textOf? w.input with
    | .ok text => .ok text
    | .error f => .error (.input f)

end Surroundings

def printValue (v : Json) : Course Unit := .print [String.ofList v.pretty]

def printClause (format : Format) (colour : Bool) (clause : Clause) : Course Unit :=
  match format with
  | .json => printValue clause.toJson
  | .text => .print (clause.listing colour)

def printFilter (format : Format) (colour : Bool) (f : Filter) (clause : Clause) : Course Unit :=
  match format with
  | .json => printValue (Json.object [("filter", f.toJson), ("clause", clause.toJson)]).sorted
  | .text => do
    .print [Style.heading.paint colour "Filter Tree:"]
    .print (f.listing colour 1)
    .print [""]
    .print (clause.listing colour)

namespace Request

/-- The settings that a request names, or the usual ones. Its fields are added to them. -/
def settings (r : Request) (w : Surroundings) : Except Fault Settings :=
  match r.config with
  | some path => match w.settingsAt path with
    | .ok s => .ok (s.allowing r.whitelist)
    | .error e => .error (.settings path e)
  | none => match w.usualSettings with
    | .ok s => .ok (s.allowing r.whitelist)
    | .error e => .error (.filter e)

/-- Where the filter of a request comes from: a file before the line. In the line, a dash is the input. -/
def source (r : Request) (filter : Option String) : Source :=
  match r.file, filter with
  | some path, _ => .file path
  | none, some text => if text = "-" then .input else .line text
  | none, none => .input

/-- The text of a filter is shown to the one who asked for talk. -/
def sayInput (r : Request) (w : Surroundings) (text : String) : Course Unit :=
  .say (if r.verbose then
    [Style.faint.paint w.colour "Input:" ++ " " ++ Style.value.paint w.colour (Text.trim text)] else [])

/-- The events on the way of a filter to its clause are noted. -/
def sayEvents (r : Request) (w : Surroundings) (f : Filter) (c : Catalog) : Course Unit :=
  .say (((f.events c).filter (w.notes.notes r.verbose)).map Event.line)

/-- The filter of a request with its clause. -/
def prepare (r : Request) (w : Surroundings) (filter : Option String) : Course (Filter × Clause) := do
  let s ← .silent (r.settings w)
  let text ← .silent (w.textFrom (r.source filter))
  r.sayInput w text
  let (f, c) ← .check (s.accept text)
  r.sayEvents w f c
  let clause ← .check (f.compile c)
  pure (f, clause)

def compile (r : Request) (w : Surroundings) (filter : Option String) : Course Unit := do
  let (_, clause) ← r.prepare w filter
  printClause r.format w.colour clause

def explain (r : Request) (w : Surroundings) (filter : Option String) : Course Unit := do
  let (f, clause) ← r.prepare w filter
  printFilter r.format w.colour f clause

def showOperators (r : Request) (w : Surroundings) : Course Unit := do
  let s ← .silent (r.settings w)
  let c ← .check s.toCatalog
  .print (s.listing c w.colour)

def wantsInput (r : Request) : Bool :=
  match r.job with
  | .compile filter | .explain filter => r.source filter == .input
  | .operators => false

/-- The course of a request. -/
def course (r : Request) (w : Surroundings) : Course Unit :=
  match r.job with
  | .compile filter => r.compile w filter
  | .explain filter => r.explain w filter
  | .operators => r.showOperators w

end Request

/-- The report of a line of words. A misuse has a code of its own. -/
def Command.run (words : List String) (w : Surroundings) : Report :=
  match Command.ofWords w.config words with
  | none => ⟨2, "", ""⟩
  | some (.notice n) => ⟨0, unlines n.lines, ""⟩
  | some (.request r) => (r.course w).report w.colour

end FilterTree
