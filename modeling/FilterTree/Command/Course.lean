import FilterTree.Error
import FilterTree.Text.Basic

/-!
# The course of a run

A terminal shows text in a style between two escape sequences. The second one takes every style back, so the first
is repeated wherever the text itself holds the second.

* `Style` : the styles of the output, and `Style.codes` : what each asks a terminal for.
* `Style.paint` : a text in a style, or as it is where styles are off.
* `Style.paintTo` : the same, filled up with spaces to a width, which counts characters. The spaces are styled too.
* `unlines` : lines, each with its end.
* `Report` : all that is seen of a run. `Fault` : why a run fails.
* `Course` : what a run writes on its way, and what it comes to. A fault ends it, and takes back nothing of what has been
  written.
* `Course.print`, `Course.say` : lines of output, and lines for the one who runs it.
* `Course.report` : the report of a course, with the line of its fault if it has failed.
-/

namespace FilterTree

/-! ## Styled text -/

inductive Style where
  | heading
  | title
  | column
  | word
  | name
  | value
  | faint
  | alarm
deriving DecidableEq

namespace Style

/-- Bold is 1, faint is 2; red, green, yellow, cyan and white are 31, 32, 33, 36 and 37. -/
def codes : Style → List Char
  | .heading => ['1', ';', '3', '2']
  | .title => ['1', ';', '3', '6']
  | .column => ['1', ';', '3', '7']
  | .word => ['3', '6']
  | .name => ['3', '7']
  | .value => ['3', '3']
  | .faint => ['2']
  | .alarm => ['1', ';', '3', '1']

def reset : Text.Mark := ⟨'\x1b', ['[', '0', 'm']⟩

def opening (s : Style) : List Char := '\x1b' :: '[' :: s.codes ++ ['m']

def fillUp (width : Nat) (cs : List Char) : List Char := cs ++ List.replicate (width - cs.length) ' '

def paintTo (s : Style) (colour : Bool) (width : Nat) (text : String) : String :=
  String.ofList <|
    if colour then
      s.opening ++ fillUp width (reset.fill (reset.chars ++ s.opening) text.toList) ++ reset.chars
    else fillUp width text.toList

def paint (s : Style) (colour : Bool) (text : String) : String := s.paintTo colour 0 text

@[simp] theorem paint_colourless (s : Style) (text : String) : s.paint false text = text := by
  simp [paint, paintTo, fillUp]

end Style

def unlines (lines : List String) : String := String.join (lines.map (· ++ "\n"))

/-! ## Courses -/

/-- All that is seen of a run. -/
structure Report where
  code : Nat
  output : String
  messages : String
deriving DecidableEq

/-- Why a run fails. -/
inductive Fault where
  | settings (path : String) (e : Error)
  | file (path : String) (f : ReadFault)
  | input (f : ReadFault)
  | filter (e : Error)

namespace Fault

def message : Fault → String
  | .settings path e => "Failed to load " ++ path ++ ": " ++ e.chain
  | .file path f => "Failed to read " ++ path ++ ": " ++ f.message
  | .input f => "Failed to read filter from stdin: " ++ f.message
  | .filter e => e.chain

/-- Settings that cannot be read leave their line open: what is wrong with them is not said. -/
def isOpen : Fault → Bool
  | .settings _ .toml => true
  | .filter .toml => true
  | _ => false

def line (e : Fault) (colour : Bool) : String :=
  Style.alarm.paint colour "Error:" ++ " " ++ e.message ++ if e.isOpen then "" else "\n"

end Fault

/-- What a run writes on its way, and what it comes to. -/
structure Course (α : Type) where
  output : String
  messages : String
  outcome : Except Fault α

namespace Course

variable {α β : Type}

def silent (outcome : Except Fault α) : Course α := ⟨"", "", outcome⟩

/-- A course that writes nothing, and passes on an error as it is. -/
def check (outcome : Except Error α) : Course α := silent (outcome.mapError .filter)

def print (lines : List String) : Course Unit := ⟨unlines lines, "", .ok ()⟩

/-- Lines for the one who runs it. -/
def say (lines : List String) : Course Unit := ⟨"", unlines lines, .ok ()⟩

/-- One course behind another, which does not begin if the first one fails. -/
def andThen (x : Course α) (next : α → Course β) : Course β :=
  match x.outcome with
  | .ok a => ⟨x.output ++ (next a).output, x.messages ++ (next a).messages, (next a).outcome⟩
  | .error e => ⟨x.output, x.messages, .error e⟩

instance : Monad Course where
  pure a := silent (.ok a)
  bind := andThen

def report (x : Course Unit) (colour : Bool) : Report :=
  match x.outcome with
  | .ok () => ⟨0, x.output, x.messages⟩
  | .error e => ⟨1, x.output, x.messages ++ e.line colour⟩

end Course

end FilterTree
