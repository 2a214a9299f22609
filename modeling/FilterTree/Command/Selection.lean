import FilterTree.Compile
import FilterTree.Decimal
import FilterTree.Text.Basic
import FilterTree.Text.Class
import FilterTree.Text.Pattern

/-!
# Events, and which of them are noted

Events are selected by a text, the pieces of which stand between commas: a level, a name with or without a level
behind an equals sign, or a name with a part in brackets, as in `debug`, `a::b=trace` or `a[{field}]=off`. Of the
selections that an event falls under the most specific one decides.

* `Event` : the events, with `Event.weight`, `Event.fields` and `Event.line`.
* `Event.place` : where all events lie.
* `Leaf.events`, `Filter.events` : the events of a test, and of a filter up to its first fault.
* `Selection` : up to which weight events are noted, by place and by field. `Selection.covers` : those that fall under
  it. `Selection.isAsSpecific` : which of two decides.
* `Selection.ofPiece?`, `Selection.ofText?` : the selections in a piece, and in a text.
* `NoteChoice`, `NoteChoice.notes` : whether an event is noted.
-/

namespace FilterTree

/-! ## Events -/

/-- What is worth a note. -/
inductive Event where
  | compiled (clause : Clause)
  | rejected (field : String)
  | unknown (operator field : String)
deriving DecidableEq

namespace Event

/-- A number for the trace of what goes well, and a smaller one for hints to what goes wrong. -/
def weight : Event → Nat
  | .compiled _ => 5
  | .rejected _ => 4
  | .unknown .. => 4

def place : String := "querysql::transpiler"

def fields : Event → List String
  | .compiled _ => ["message", "sql", "params"]
  | .rejected _ => ["message", "field"]
  | .unknown .. => ["message", "operator", "field"]

def line : Event → String
  | .compiled clause =>
    "TRACE compiled leaf sql=" ++ clause.sql ++ " params=" ++ Json.count clause.params.length
  | .rejected field => "DEBUG field rejected by whitelist field=" ++ field
  | .unknown operator field =>
    "DEBUG no handler for operator operator=" ++ Text.quote operator ++ " field=" ++ field

end Event

/-- The events of a test that has an operator and may name its field. -/
def Condition.events (x : Condition) (field : String) (c : Catalog) : List Event :=
  match Operator.ofKeyword? x.operator with
  | some o => match o.compile field x.operand with
    | .ok clause => [.compiled clause]
    | .error _ => []
  | none => if (c.handler? x.operator).isSome then [] else [.unknown x.operator field]

def Leaf.events (l : Leaf) (c : Catalog) : List Event :=
  if l.isDegenerate then []
  else if !c.isAllowed l.field then [.rejected l.field]
  else if !l.includes.isEmpty || l.condition.operator.isEmpty then []
  else l.condition.events l.field c

def eventsOf (c : Catalog) : List Leaf → List Event
  | [] => []
  | l :: ls => l.events c ++ match l.compile c with
    | .ok _ => eventsOf c ls
    | .error _ => []

def Filter.events (f : Filter) (c : Catalog) : List Event := eventsOf c f.leaves

/-! ## Selections -/

/-- Up to which weight events are noted. The name is how their place begins. If there is a field, it is one that they
tell. -/
structure Selection where
  name : String
  field : String
  weight : Nat
deriving DecidableEq

namespace Selection

/-! ## What a selection decides -/

def covers (s : Selection) (e : Event) : Bool :=
  s.name.toList.isPrefixOf Event.place.toList && (s.field.isEmpty || e.fields.contains s.field)

/-- A longer name is more specific, and below one name a field that is later in the order of texts. -/
def isAsSpecific (s best : Selection) : Bool :=
  best.name.length < s.name.length || (best.name.length == s.name.length && best.field ≤ s.field)

/-- The more specific of two selections, and of equally specific ones the later. -/
def prefer (best : Option Selection) (s : Selection) : Option Selection :=
  if best.all s.isAsSpecific then some s else best

def note (ss : List Selection) (e : Event) : Bool :=
  ((ss.filter (·.covers e)).foldl prefer none).any fun s => e.weight ≤ s.weight

/-! ## Selections in words -/

/-- The words for the weights, from nothing to all. -/
def words : List String := ["off", "error", "warn", "info", "debug", "trace"]

/-- The weight of a word, in capital or small letters, or in digits behind a plus sign or none. -/
def weightOf? (cs : List Char) : Option Nat :=
  let digits := match cs with
    | '+' :: ds => ds
    | ds => ds
  if !digits.isEmpty && digits.all Char.isDigit then
    if Decimal.value digits < words.length then some (Decimal.value digits) else none
  else words.findIdx? (· == String.ofList (cs.map Char.toLower))

/-- The weight that stands behind an equals sign. All is noted if none is there. -/
def weightBehind? (cs : List Char) : Option Nat := if cs.isEmpty then some 5 else weightOf? cs

def isNameStart (c : Char) : Bool :=
  c == '-' || c == ':' || c == '_' || Text.isLetter c || Text.isNumeral c

/-- So many bytes of a text, and the text behind them. No character is cut. -/
def splitBytes? : Nat → List Char → Option (List Char × List Char)
  | 0, cs => some ([], cs)
  | _, [] => none
  | count, c :: cs =>
    if c.utf8Size ≤ count then
      (splitBytes? (count - c.utf8Size) cs).map fun (front, rest) => (c :: front, rest)
    else none

/-- A piece of a selection. Its parts are found in the text without the blanks around it, but they are counted off in
bytes from the beginning of the whole text. -/
structure Piece where
  whole : List Char
  inner : List Char

namespace Piece

def size (cs : List Char) : Nat := (String.ofList cs).utf8ByteSize

/-- The end of the whole text from where a rest of the inner text begins. -/
def rest? (p : Piece) (rest : List Char) : Option (List Char) :=
  (splitBytes? (size p.inner - size rest) p.whole).map (·.2)

/-- The part of the whole text from where a rest of the inner text begins to where a shorter one begins. -/
def part? (p : Piece) (rest shorter : List Char) : Option (List Char) :=
  (p.rest? rest).bind fun cs => (splitBytes? (size rest - size shorter) cs).map (·.1)

end Piece

/-- What stands behind a name and its brackets: nothing, or a weight. -/
def ending? (p : Piece) (name field : String) : List Char → Option Selection
  | [] => some ⟨name, field, 5⟩
  | '=' :: rest => ((p.rest? rest).bind weightBehind?).map fun weight => ⟨name, field, weight⟩
  | _ :: _ => none

def isPositive : List Char → Bool
  | '+' :: cs =>
    let isMark := fun c => c == 'e' || c == 'E'
    let mantissa := cs.takeWhile (!isMark ·)
    let whole := mantissa.takeWhile (· != '.')
    let part := (mantissa.dropWhile (· != '.')).drop 1
    let isExponent : List Char → Bool := fun
      | [] => true
      | _ :: '+' :: ds => !ds.isEmpty && ds.all Char.isDigit
      | _ :: '-' :: ds => !ds.isEmpty && ds.all Char.isDigit
      | _ :: ds => !ds.isEmpty && ds.all Char.isDigit
    (!(whole ++ part).isEmpty && (whole ++ part).all Char.isDigit && isExponent (cs.dropWhile (!isMark ·))) ||
      ["inf", "infinity", "nan"].contains (String.ofList (cs.map Char.toLower))
  | _ => false

/-- Whether the value that may stand behind the name of a field is a number or a pattern. Another equals sign ends
it. -/
def hasValue (field : List Char) : Bool :=
  match field.dropWhile (· != '=') with
  | [] => true
  | _ :: rest =>
    let value := rest.takeWhile (· != '=')
    isPositive value || Text.isPattern value

/-- What stands from a bracket on: the name of a stretch of time, a field in braces, or both. No event lies within a
stretch of time, and none is asked for the value of a field. -/
def bracketed? (p : Piece) (name : String) (cs : List Char) : Option (List Selection) := do
  let behind := cs.dropWhile fun c => c != ']' && c != '\x7b'
  let stretch ← p.part? cs behind
  match behind with
  | ']' :: rest => (ending? p name "" rest).map fun _ => []
  | '\x7b' :: inner =>
    let behind := inner.dropWhile (· != '\x7d')
    let field ← p.part? inner behind
    match behind with
    | '\x7d' :: ']' :: rest =>
      if field.isEmpty || !hasValue field then none
      else (ending? p name (String.ofList field) rest).map fun s =>
        if stretch.isEmpty && !field.contains '=' then [s] else []
    | _ => none
  | _ => none

/-- The selections in a piece: one, or none if no event can fall under it. -/
def ofPiece? (piece : List Char) : Option (List Selection) :=
  let p : Piece := ⟨piece, (Text.trim (String.ofList piece)).toList⟩
  match p.inner with
  | [] => none
  | '[' :: rest => bracketed? p "" rest
  | c :: cs =>
    if !isNameStart c then none
    else
      let behind := cs.dropWhile fun c => c != '=' && c != '['
      match behind with
      | [] => match weightOf? piece with
        | some weight => some [⟨"", "", weight⟩]
        | none => some [⟨String.ofList piece, "", 5⟩]
      | '[' :: rest => (p.part? p.inner behind).bind fun name => bracketed? p (String.ofList name) rest
      | _ => (p.part? p.inner behind).bind fun name => (ending? p (String.ofList name) "" behind).map ([·])

def comma : Text.Mark := ⟨',', []⟩

def ofText? (text : String) : Option (List Selection) :=
  (((comma.split text.toList).filter (!List.isEmpty ·)).mapM ofPiece?).map List.flatten

end Selection

/-- What the surroundings say about notes: none, the usual ones, or a selection in words. -/
inductive NoteChoice where
  | silent
  | usual
  | selected (text : String)
deriving DecidableEq

namespace NoteChoice

/-- The usual selection: hints to what goes wrong if more talk is asked for, else nothing that a filter gives rise
to. -/
def standard (verbose : Bool) : List Selection := if verbose then [⟨"querysql", "", 4⟩] else [⟨"", "", 2⟩]

/-- The selections of a choice. A text that cannot be read is as none. -/
def selections (choice : NoteChoice) (verbose : Bool) : List Selection :=
  match choice with
  | .silent => []
  | .usual => standard verbose
  | .selected text => (Selection.ofText? text).getD (standard verbose)

def notes (choice : NoteChoice) (verbose : Bool) (e : Event) : Bool := Selection.note (choice.selections verbose) e

end NoteChoice

end FilterTree
