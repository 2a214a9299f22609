import FilterTree.Text.Basic

/-!
# The words of a command line

Flags may stand before or behind the verb. Words are read from left to right, and the first one that is out of place
makes the whole line a misuse. Where a line has a verb, the words behind it are a second level: what this level says
counts before what the first level says.

* `Job`, `Request`, `Notice`, `Command` : what a command line asks for.
* `Setting`, `Flag` : the flags, those with a value apart.
* `Options` : what one level says. `Options.put` sets a value.
* `Options.read` : one level from its words.
* `Command.ofWords` : a whole line.
* `Verb.summary` : what a verb is for.
* `Notice.lines` : the version, and the usage of the program and of its verbs.
-/

namespace FilterTree

inductive Format where
  | text
  | json
deriving DecidableEq, Inhabited

def Format.ofWord? : String → Option Format
  | "text" => some .text
  | "json" => some .json
  | _ => none

/-- What is to be done. The filter of the first two may be given in the line. -/
inductive Job where
  | compile (filter : Option String)
  | explain (filter : Option String)
  | operators
deriving DecidableEq

/-- A job with the values of the flags. -/
structure Request where
  job : Job
  file : Option String
  whitelist : List String
  config : Option String
  format : Format
  verbose : Bool
deriving DecidableEq

inductive Verb where
  | explain
  | operators
deriving DecidableEq

def Verb.ofWord? : String → Option Verb
  | "explain" => some .explain
  | "operators" => some .operators
  | _ => none

/-- What is told about the program itself. The usage is that of all, of a verb, or of the word `help`. -/
inductive Notice where
  | version
  | usage (verb : Option Verb)
  | usageOfHelp
deriving DecidableEq

/-- What a command line asks for. -/
inductive Command where
  | notice (n : Notice)
  | request (r : Request)
deriving DecidableEq

/-- The usage that words behind the word `help` ask for. -/
def Notice.ofTopics? : List String → Option Notice
  | [] => some (.usage none)
  | ["help"] => some .usageOfHelp
  | [word] => (Verb.ofWord? word).map fun v => .usage (some v)
  | _ => none

inductive Setting where
  | file
  | whitelist
  | config
  | format
deriving DecidableEq

inductive Flag where
  | setting (s : Setting)
  | verbose
  | help
  | version
deriving DecidableEq

def Flag.ofName? : String → Option Flag
  | "file" => some (.setting .file)
  | "whitelist" => some (.setting .whitelist)
  | "config" => some (.setting .config)
  | "format" => some (.setting .format)
  | "verbose" => some .verbose
  | "help" => some .help
  | "version" => some .version
  | _ => none

def Flag.ofLetter? : Char → Option Flag
  | 'i' => some (.setting .file)
  | 'w' => some (.setting .whitelist)
  | 'c' => some (.setting .config)
  | 'f' => some (.setting .format)
  | 'v' => some .verbose
  | 'h' => some .help
  | 'V' => some .version
  | _ => none

/-- What one level of a line says. -/
structure Options where
  filter : Option String
  file : Option String
  whitelist : List String
  config : Option String
  format : Option Format
  verbose : Bool
deriving DecidableEq

namespace Options

def blank : Options := ⟨none, none, [], none, none, false⟩

def comma : Text.Mark := ⟨',', []⟩

/-- The fields of a whitelist, empty ones included. -/
def fieldsOf (value : String) : List String := (comma.split value.toList).map String.ofList

/-- A place that is still free takes a value. -/
def once {α : Type} (place : Option α) (value : Option α) : Option α :=
  match place with
  | none => value
  | some _ => none

def path? (value : String) : Option String := if value.isEmpty then none else some value

/-- The options with one more value. Whitelists add up, all else may be said once. -/
def put (o : Options) (s : Setting) (value : String) : Option Options :=
  match s with
  | .file => (once o.file (path? value)).map fun x => { o with file := some x }
  | .whitelist => some { o with whitelist := o.whitelist ++ fieldsOf value }
  | .config => (once o.config (path? value)).map fun x => { o with config := some x }
  | .format => (once o.format (Format.ofWord? value)).map fun x => { o with format := some x }

def putVerbose (o : Options) : Option Options :=
  if o.verbose then none else some { o with verbose := true }

/-- The options with a filter. The verb `operators` takes none, and no level takes two. -/
def putFilter (o : Options) (level : Option Verb) (word : String) : Option Options :=
  if level = some .operators then none
  else (once o.filter (some word)).map fun x => { o with filter := some x }

/-- What a flag comes to: a notice at once, more options, or a setting that waits for its value. -/
inductive Step where
  | notice (n : Notice)
  | done (o : Options)
  | waits (s : Setting) (o : Options)

/-- The notice of the version, for which only the first level can be asked. -/
def versionAt (level : Option Verb) : Option Step :=
  if level = none then some (.notice .version) else none

/-- A flag by its name, with its value behind an equals sign if it is there. -/
def named (o : Options) (level : Option Verb) (cs : List Char) : Option Step :=
  match Flag.ofName? (String.ofList (cs.takeWhile (· != '='))), cs.dropWhile (· != '=') with
  | some (.setting s), [] => some (.waits s o)
  | some (.setting s), _ :: value => (o.put s (String.ofList value)).map .done
  | some .verbose, [] => o.putVerbose.map .done
  | some .help, [] => some (.notice (.usage level))
  | some .version, [] => versionAt level
  | _, _ => none

/-- Flags by their letters. The first one with a value takes all that follows, less an equals sign. -/
def lettered (o : Options) (level : Option Verb) : List Char → Option Step
  | [] => some (.done o)
  | c :: cs => match Flag.ofLetter? c with
    | some (.setting s) => match cs with
      | [] => some (.waits s o)
      | '=' :: value => (o.put s (String.ofList value)).map .done
      | value => (o.put s (String.ofList value)).map .done
    | some .verbose => o.putVerbose.bind fun o => lettered o level cs
    | some .help => some (.notice (.usage level))
    | some .version => versionAt level
    | none => none

/-- One word: a flag by name, flags by letters, or a filter. A single dash is a filter. -/
def step (o : Options) (level : Option Verb) (word : String) : Option Step :=
  match word.toList with
  | '-' :: '-' :: cs => o.named level cs
  | '-' :: c :: cs => o.lettered level (c :: cs)
  | _ => (o.putFilter level word).map .done

def isFlag (word : String) : Bool :=
  match word.toList with
  | '-' :: _ :: _ => true
  | _ => false

/-- Words that are filters, whatever they look like. -/
def filters (level : Option Verb) (o : Options) (words : List String) : Option Options :=
  words.foldlM (fun o word => o.putFilter level word) o

inductive Level where
  | notice (n : Notice)
  | done (o : Options)
  | verb (o : Options) (v : Verb) (rest : List String)

/-- A level from its words. A value is any word but a flag, and behind two dashes there are no flags and verbs. -/
def read (level : Option Verb) (o : Options) (waiting : Option Setting) : List String → Option Level
  | [] => match waiting with
    | some _ => none
    | none => some (.done o)
  | word :: rest => match waiting with
    | some s => if isFlag word then none else (o.put s word).bind fun o => read level o none rest
    | none =>
      if word = "--" then (filters level o rest).map .done
      else if level = none ∧ word = "help" then (Notice.ofTopics? rest).map .notice
      else match (if level = none then Verb.ofWord? word else none) with
        | some v => some (.verb o v rest)
        | none => match o.step level word with
          | some (.notice n) => some (.notice n)
          | some (.done o) => read level o none rest
          | some (.waits s o) => read level o (some s) rest
          | none => none

/-- Whether the settings file of the surroundings may stand in for one that this level does not name. -/
def accepts (o : Options) (config : Option String) : Bool := o.config.isSome || config != some ""

def request (o : Options) (config : Option String) : Request :=
  ⟨.compile o.filter, o.file, o.whitelist, o.config <|> config, o.format.getD .text, o.verbose⟩

/-- What a second level says, and where it is silent what the first level says. -/
def under (o top : Options) : Options :=
  ⟨o.filter, o.file <|> top.file, if o.whitelist.isEmpty then top.whitelist else o.whitelist,
    o.config <|> top.config, o.format <|> top.format, o.verbose || top.verbose⟩

end Options

def Verb.job (v : Verb) (filter : Option String) : Job :=
  match v with
  | .explain => .explain filter
  | .operators => .operators

/-- The command of a line, unless it is a misuse. A settings file of the surroundings stands in for one that is not
named, and may not be empty then. -/
def Command.ofWords (config : Option String) (words : List String) : Option Command :=
  match Options.read none .blank none words with
  | some (.notice n) => some (.notice n)
  | some (.done o) => if o.accepts config then some (.request (o.request config)) else none
  | some (.verb top v rest) => match Options.read (some v) .blank none rest with
    | some (.done o) =>
      if o.accepts config && top.accepts config then
        some (.request { (o.under top).request config with job := v.job o.filter })
      else none
    | some (.notice n) => some (.notice n)
    | _ => none
  | none => none

/-! ## What the program tells about itself -/

def Verb.word : Verb → String
  | .explain => "explain"
  | .operators => "operators"

def Verb.summary : Verb → String
  | .explain => "Show the decoded filter tree and the SQL it compiles to"
  | .operators => "List built-in and configured operators"

namespace Notice

def summaryOfHelp : String := "Print this message or the help of the given subcommand(s)"

def filterLines : List String :=
  ["Arguments:", "  [FILTER]  Filter JSON; reads stdin when omitted or '-'", ""]

def flagLines : List String := [
  "Options:",
  "  -i, --file <FILE>            Read the filter from a file",
  "  -w, --whitelist <WHITELIST>  Allowed field names, merged with the config file whitelist",
  "  -c, --config <CONFIG>        " ++
    "Config file (defaults to ./querysql.toml, then the user config dir) [env: QUERYSQL_CONFIG=]",
  "  -f, --format <FORMAT>        Output format [default: text] [possible values: text, json]",
  "  -v, --verbose                Verbose output",
  "  -h, --help                   Print help"]

def verbLines : List String := [
  "Commands:",
  "  explain    " ++ Verb.explain.summary,
  "  operators  " ++ Verb.operators.summary,
  "  help       " ++ summaryOfHelp,
  ""]

def exampleLines : List String := [
  "EXAMPLES:",
  "    querysql '\x7b\"field\":\"age\",\"condition\":\x7b\"type\":\"between\",\"filter\":[18,null]\x7d\x7d'",
  "    querysql --file filter.json --whitelist name,age --format json",
  "    cat filter.json | querysql explain"]

def lines : Notice → List String
  | .version => ["querysql 0.3.0"]
  | .usage none =>
    ["Compile query-builder filter trees into parameterized SQL", "",
      "Usage: querysql [OPTIONS] [FILTER] [COMMAND]", ""] ++ verbLines ++ filterLines ++ flagLines ++
      ["  -V, --version                Print version", ""] ++ exampleLines
  | .usage (some .explain) =>
    [Verb.explain.summary, "", "Usage: querysql explain [OPTIONS] [FILTER]", ""] ++ filterLines ++ flagLines
  | .usage (some .operators) =>
    [Verb.operators.summary, "", "Usage: querysql operators [OPTIONS]", ""] ++ flagLines
  | .usageOfHelp =>
    [summaryOfHelp, "", "Usage: querysql help [COMMAND]...", "", "Arguments:",
      "  [COMMAND]...  Print help for the subcommand(s)"]

end Notice

end FilterTree
