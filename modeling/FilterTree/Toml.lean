import FilterTree.Decimal
import FilterTree.Text.Basic

/-!
# TOML documents

* `Item` : what a key of a document can stand for. Of floats only the kind is kept.
* `Origin` : how a table came to be, which decides what may still be added to it.
* `assign` : a table with one more entry under a dotted key.
* `define` : a table with one more table under a header's path, or with one more element of an array of tables.
* `basicString`, `literalString`, `longBasicString`, `longLiteralString` : the four kinds of strings, from behind
  the opening marks on.
* `number?` : integers to base ten, sixteen, eight and two, and floats.
* `moment?` : dates, times and both together, with or without an offset, each in its one usual form.
* `wordItem?` : the item that a run of word characters stands for.
* `key` : a dotted key, whose parts are bare or quoted.
* `value` : a value within a number of levels of brackets.
* `lineEnd` : the end of a line, with a comment before it.
* `assignments`, `sections` : the lines below a header, and the headers.
* `parse` : the entries of a whole document. Any fault refuses it.
-/

namespace FilterTree.Toml

/-! ## Items and tables -/

/-- How a table came to be. -/
inductive Origin where
  /-- Between braces: complete as it stands. -/
  | inline
  /-- By a dotted key: open to further dotted keys, closed to headers of its own. -/
  | dotted
  /-- On the way to a table that a header names: open to one header of its own. -/
  | implied
  /-- By a header of its own. -/
  | header
deriving DecidableEq

/-- What a key stands for. -/
inductive Item where
  | text (s : String)
  | integer (n : Int)
  | boolean (b : Bool)
  | float
  /-- A date, a time, or both, in its usual form. -/
  | moment (s : String)
  | list (items : List Item)
  | table (origin : Origin) (entries : List (String × Item))
  /-- The elements of an array of tables, the last one first. -/
  | tables (elements : List (List (String × Item)))
deriving Inhabited

abbrev Entries := List (String × Item)

def Entries.get? (es : Entries) (key : String) : Option Item := (es.find? (·.1 == key)).map (·.2)

/-- The entries with another item under a key, or with one entry more. -/
def Entries.put (key : String) (item : Item) : Entries → Entries
  | [] => [(key, item)]
  | e :: es => if e.1 = key then (key, item) :: es else e :: put key item es

def Entries.addNew (es : Entries) (key : String) (item : Item) : Option Entries :=
  match es.get? key with
  | none => some (es.put key item)
  | some _ => none

/-- The entries with an item under a dotted key. The key may lead through tables that no header has named, and
through the last element of an array of tables; the table that receives the item must itself be dotted. -/
def assign (item : Item) (key : String) : List String → Entries → Option Entries
  | [], es => es.addNew key item
  | k :: path, es => match es.get? k with
    | none => (assign item key path []).map fun inner => es.put k (.table .dotted inner)
    | some (.table .dotted inner) =>
      (assign item key path inner).map fun inner => es.put k (.table .dotted inner)
    | some (.table .implied inner) =>
      if path.isEmpty then none
      else (assign item key path inner).map fun inner => es.put k (.table .implied inner)
    | some (.tables (last :: older)) =>
      if path.isEmpty then none
      else (assign item key path last).map fun last => es.put k (.tables (last :: older))
    | some _ => none

/-- What a header opens: a table, or one more element of an array of tables. -/
inductive Heading where
  | table
  | element
deriving DecidableEq

/-- The entries with what a header opens under its last key. `body` fills it, starting from the tables that headers
before it have implied. -/
def openAt (body : Entries → Option Entries) (heading : Heading) (key : String) (es : Entries) :
    Option Entries :=
  match heading, es.get? key with
  | .table, none => (body []).map fun inner => es.put key (.table .header inner)
  | .table, some (.table .implied inner) => (body inner).map fun inner => es.put key (.table .header inner)
  | .element, none => (body []).map fun inner => es.put key (.tables [inner])
  | .element, some (.tables elements) => (body []).map fun inner => es.put key (.tables (inner :: elements))
  | _, some _ => none

def define (body : Entries → Option Entries) (heading : Heading) (key : String) :
    List String → Entries → Option Entries
  | [], es => openAt body heading key es
  | k :: path, es => match es.get? k with
    | none => (define body heading key path []).map fun inner => es.put k (.table .implied inner)
    | some (.table .inline _) => none
    | some (.table origin inner) =>
      (define body heading key path inner).map fun inner => es.put k (.table origin inner)
    | some (.tables (last :: older)) =>
      (define body heading key path last).map fun last => es.put k (.tables (last :: older))
    | some _ => none

structure Assignment where
  path : List String
  key : String
  item : Item

def assignAll : List Assignment → Entries → Option Entries
  | [], es => some es
  | a :: as, es => (assign a.item a.key a.path es).bind (assignAll as)

structure Section where
  heading : Heading
  path : List String
  key : String
  assignments : List Assignment

def defineAll : List Section → Entries → Option Entries
  | [], es => some es
  | s :: ss, es => (define (assignAll s.assignments) s.heading s.key s.path es).bind (defineAll ss)

/-! ## Values without brackets -/

abbrev Scan (α : Type) := List Char → Option (α × List Char)

def isBlank (c : Char) : Bool := c == ' ' || c == '\t'

/-- Characters that a string or a comment may hold as they are: no control but the tab. -/
def isPlain (c : Char) : Bool := c == '\t' || (' ' ≤ c && c != '\x7f')

def afterBackslash : Scan Char
  | 'b' :: rest => some ('\x08', rest)
  | 't' :: rest => some ('\t', rest)
  | 'n' :: rest => some ('\n', rest)
  | 'f' :: rest => some ('\x0c', rest)
  | 'r' :: rest => some ('\r', rest)
  | '"' :: rest => some ('"', rest)
  | '\\' :: rest => some ('\\', rest)
  | 'u' :: rest => Text.codePoint 4 rest
  | 'U' :: rest => Text.codePoint 8 rest
  | _ => none

def afterBreak? : List Char → Option (List Char)
  | '\n' :: rest => some rest
  | '\r' :: '\n' :: rest => some rest
  | _ => none

def skipBreaks : List Char → List Char
  | ' ' :: rest => skipBreaks rest
  | '\t' :: rest => skipBreaks rest
  | '\n' :: rest => skipBreaks rest
  | '\r' :: '\n' :: rest => skipBreaks rest
  | cs => cs

/-- A string on one line with escapes, from behind its opening quote on. The fuel bounds the characters. -/
def basicBody : Nat → Scan (List Char)
  | 0, _ => none
  | _, [] => none
  | fuel + 1, c :: rest =>
    if c = '"' then some ([], rest)
    else if c = '\\' then
      (afterBackslash rest).bind fun (d, rest) => (basicBody fuel rest).map fun (ds, rest) => (d :: ds, rest)
    else if isPlain c then (basicBody fuel rest).map fun (ds, rest) => (c :: ds, rest)
    else none

def basicString (cs : List Char) : Option (String × List Char) :=
  (basicBody (cs.length + 1) cs).map fun (inner, rest) => (String.ofList inner, rest)

def literalString (cs : List Char) : Option (String × List Char) :=
  match cs.dropWhile fun c => isPlain c && c != '\'' with
  | '\'' :: rest => some (String.ofList (cs.takeWhile fun c => isPlain c && c != '\''), rest)
  | _ => none

/-- What a run of quotes inside a long string amounts to: quotes of the text, or up to two of them and the end. -/
def quoteRun (mark : Char) (cs : List Char) : Option (List Char × Bool × List Char) :=
  let run := cs.takeWhile (· == mark)
  let rest := cs.dropWhile (· == mark)
  if run.length < 3 then some (run, false, rest)
  else if run.length ≤ 5 then some (run.drop 3, true, rest)
  else none

/-- A string over several lines with escapes, one of which removes a line break with the blanks around it. -/
def longBasicBody : Nat → Scan (List Char)
  | 0, _ => none
  | _, [] => none
  | fuel + 1, c :: rest =>
    if c = '"' then
      (quoteRun '"' (c :: rest)).bind fun (quotes, closed, rest) =>
        if closed then some (quotes, rest)
        else (longBasicBody fuel rest).map fun (ds, rest) => (quotes ++ ds, rest)
    else if c = '\\' then
      match afterBreak? (rest.dropWhile isBlank) with
      | some rest => longBasicBody fuel (skipBreaks rest)
      | none => (afterBackslash rest).bind fun (d, rest) =>
          (longBasicBody fuel rest).map fun (ds, rest) => (d :: ds, rest)
    else match afterBreak? (c :: rest) with
      | some rest => (longBasicBody fuel rest).map fun (ds, rest) => ('\n' :: ds, rest)
      | none =>
        if isPlain c then (longBasicBody fuel rest).map fun (ds, rest) => (c :: ds, rest) else none

def longLiteralBody : Nat → Scan (List Char)
  | 0, _ => none
  | _, [] => none
  | fuel + 1, c :: rest =>
    if c = '\'' then
      (quoteRun '\'' (c :: rest)).bind fun (quotes, closed, rest) =>
        if closed then some (quotes, rest)
        else (longLiteralBody fuel rest).map fun (ds, rest) => (quotes ++ ds, rest)
    else match afterBreak? (c :: rest) with
      | some rest => (longLiteralBody fuel rest).map fun (ds, rest) => ('\n' :: ds, rest)
      | none =>
        if isPlain c then (longLiteralBody fuel rest).map fun (ds, rest) => (c :: ds, rest) else none

/-- A string over several lines, without the line break that may follow its opening marks. -/
def longString (body : Nat → Scan (List Char)) (cs : List Char) : Option (String × List Char) :=
  let cs := (afterBreak? cs).getD cs
  (body (cs.length + 1) cs).map fun (inner, rest) => (String.ofList inner, rest)

def anyString : Scan String
  | '"' :: '"' :: '"' :: rest => longString longBasicBody rest
  | '"' :: rest => basicString rest
  | '\'' :: '\'' :: '\'' :: rest => longString longLiteralBody rest
  | '\'' :: rest => literalString rest
  | _ => none

/-- Digits without the underscores between them, of which each must have a digit on both sides. -/
def joinDigits (isDigit : Char → Bool) : List Char → Option (List Char)
  | [] => none
  | [c] => if isDigit c then some [c] else none
  | c :: '_' :: rest => if isDigit c then (joinDigits isDigit rest).map (c :: ·) else none
  | c :: rest => if isDigit c then (joinDigits isDigit rest).map (c :: ·) else none

def valueTo (base : Nat) (digits : List Char) : Nat :=
  digits.foldl (fun n c => n * base + (Text.hexValue? c).getD 0) 0

def isDigitTo (base : Nat) (c : Char) : Bool :=
  match Text.hexValue? c with
  | some n => n < base
  | none => false

/-- An integer that fits a signed word. -/
def word? (n : Int) : Option Item :=
  if -0x8000000000000000 ≤ n ∧ n < 0x8000000000000000 then some (.integer n) else none

/-- A whole number to a base that its first two characters name. -/
def prefixed? (base : Nat) (cs : List Char) : Option Item :=
  (joinDigits (isDigitTo base) cs).bind fun ds => word? (valueTo base ds)

/-- The sign in front of a number, true for minus, and the text behind it. -/
def sign : List Char → Bool × List Char
  | '-' :: rest => (true, rest)
  | '+' :: rest => (false, rest)
  | cs => (false, cs)

/-- Digits to base ten without a zero in front of others. -/
def wholeDigits? (cs : List Char) : Option (List Char) :=
  match joinDigits Char.isDigit cs with
  | some ('0' :: _ :: _) => none
  | ds => ds

/-- Whether the double nearest to `digits * 10 ^ exponent` is infinite. -/
def overflows (digits : List Char) (exponent : Int) : Bool :=
  let ds := digits.dropWhile (· == '0')
  let places := ds.length + exponent
  if ds.isEmpty || places < 300 then false
  else if places > 320 then true
  else (Float.ofScientific (Decimal.value ds) (exponent < 0) exponent.natAbs).isInf

def exponent? (cs : List Char) : Option Int :=
  let (negative, cs) := sign cs
  (joinDigits Char.isDigit cs).map fun ds => if negative then -(Decimal.value ds : Int) else Decimal.value ds

/-- A float in digits. A positive one must not be infinite. -/
def float? (negative : Bool) (whole fraction : List Char) (exponent : Int) : Option Item :=
  if !negative && overflows (whole ++ fraction) (exponent - fraction.length) then none else some .float

def isExponentMark (c : Char) : Bool := c == 'e' || c == 'E'

def decimal? (negative : Bool) (cs : List Char) : Option Item :=
  let whole := cs.takeWhile fun c => c != '.' && !isExponentMark c
  let rest := cs.dropWhile fun c => c != '.' && !isExponentMark c
  (wholeDigits? whole).bind fun whole => match rest with
    | [] => word? (if negative then -(Decimal.value whole : Int) else Decimal.value whole)
    | '.' :: rest =>
      (joinDigits Char.isDigit (rest.takeWhile (!isExponentMark ·))).bind fun fraction =>
        match rest.dropWhile (!isExponentMark ·) with
        | [] => float? negative whole fraction 0
        | _ :: rest => (exponent? rest).bind (float? negative whole fraction)
    | _ :: rest => (exponent? rest).bind (float? negative whole [])

def number? : List Char → Option Item
  | '0' :: 'x' :: cs => prefixed? 16 cs
  | '0' :: 'o' :: cs => prefixed? 8 cs
  | '0' :: 'b' :: cs => prefixed? 2 cs
  | cs =>
    let (negative, digits) := sign cs
    if digits = ['i', 'n', 'f'] ∨ digits = ['n', 'a', 'n'] then some .float else decimal? negative digits

def digits? (count : Nat) (cs : List Char) : Option (Nat × List Char) :=
  let ds := cs.take count
  if ds.length = count ∧ ds.all Char.isDigit then some (Decimal.value ds, cs.drop count) else none

def daysOf (year month : Nat) : Nat :=
  if month = 2 then
    if year % 4 = 0 ∧ (year % 100 ≠ 0 ∨ year % 400 = 0) then 29 else 28
  else if month = 4 ∨ month = 6 ∨ month = 9 ∨ month = 11 then 30
  else 31

def afterMark? (mark : Char) : List Char → Option (List Char)
  | c :: rest => if c = mark then some rest else none
  | [] => none

def date? (cs : List Char) : Option (List Char × List Char) := do
  let (year, rest) ← digits? 4 cs
  let rest ← afterMark? '-' rest
  let (month, rest) ← digits? 2 rest
  let rest ← afterMark? '-' rest
  let (day, rest) ← digits? 2 rest
  if 1 ≤ month ∧ month ≤ 12 ∧ 1 ≤ day ∧ day ≤ daysOf year month then some (cs.take 10, rest) else none

def minutes? (cs : List Char) : Option (List Char × List Char) := do
  let (hour, rest) ← digits? 2 cs
  let rest ← afterMark? ':' rest
  let (minute, rest) ← digits? 2 rest
  if hour ≤ 23 ∧ minute ≤ 59 then some (cs.take 5, rest) else none

/-- A part of a second to nine places, without the zeros at its end. -/
def secondPart (digits : List Char) : List Char :=
  match ((digits.take 9).reverse.dropWhile (· == '0')).reverse with
  | [] => []
  | ds => '.' :: ds

/-- A time of the day, which may have a leap second. -/
def time? (cs : List Char) : Option (List Char × List Char) := do
  let (_, rest) ← minutes? cs
  let rest ← afterMark? ':' rest
  let (second, rest) ← digits? 2 rest
  if second ≤ 60 then
    match rest with
    | '.' :: d :: ds =>
      if d.isDigit then
        some (cs.take 8 ++ secondPart ((d :: ds).takeWhile Char.isDigit), ds.dropWhile Char.isDigit)
      else none
    | '.' :: [] => none
    | _ => some (cs.take 8, rest)
  else none

/-- An offset, or nothing. The sign of no offset is a plus. -/
def offset? : List Char → Option (List Char)
  | [] => some []
  | ['Z'] => some ['Z']
  | ['z'] => some ['Z']
  | c :: cs =>
    if c = '+' ∨ c = '-' then
      match minutes? cs with
      | some (text, []) => some ((if text = ['0', '0', ':', '0', '0'] then '+' else c) :: text)
      | _ => none
    else none

/-- A date, a time, or both with a letter between them. -/
def moment? (cs : List Char) : Option Item :=
  match date? cs with
  | some (date, []) => some (.moment (String.ofList date))
  | some (date, c :: rest) =>
    if c = 'T' ∨ c = 't' then
      match time? rest with
      | some (time, rest) =>
        (offset? rest).map fun offset => .moment (String.ofList (date ++ 'T' :: time ++ offset))
      | none => none
    else none
  | none => match time? cs with
    | some (time, []) => some (.moment (String.ofList time))
    | _ => none

def isWordChar (c : Char) : Bool :=
  c.isAlphanum || c == '+' || c == '-' || c == '_' || c == '.' || c == ':'

def wordItem? (cs : List Char) : Option Item :=
  if cs = "true".toList then some (.boolean true)
  else if cs = "false".toList then some (.boolean false)
  else (moment? cs).or (number? cs)

/-- An item in word characters. A blank may stand between a date and a time. -/
def wordItem (cs : List Char) : Option (Item × List Char) :=
  let first := cs.takeWhile isWordChar
  let rest := cs.dropWhile isWordChar
  match rest with
  | ' ' :: d :: more =>
    if (date? first).any (·.2.isEmpty) && d.isDigit then
      let second := (d :: more).takeWhile isWordChar
      (moment? (first ++ 'T' :: second)).map fun item => (item, (d :: more).dropWhile isWordChar)
    else (wordItem? first).map fun item => (item, rest)
  | _ => (wordItem? first).map fun item => (item, rest)

/-! ## Documents -/

/-- The levels of brackets that a value may have, and the parts that a key may have. -/
def maxLevels : Nat := 79

def skipBlanks (cs : List Char) : List Char := cs.dropWhile isBlank

def isBare (c : Char) : Bool := c.isAlphanum || c == '-' || c == '_'

def simpleKey : Scan String
  | '"' :: rest => basicString rest
  | '\'' :: rest => literalString rest
  | cs =>
    let bare := cs.takeWhile isBare
    if bare.isEmpty then none else some (String.ofList bare, cs.dropWhile isBare)

/-- The parts of a key with blanks around each. The fuel bounds their number. -/
def keyParts : Nat → Scan (List String)
  | 0, _ => none
  | fuel + 1, cs => (simpleKey (skipBlanks cs)).bind fun (part, rest) => match skipBlanks rest with
    | '.' :: rest => (keyParts fuel rest).map fun (parts, rest) => (part :: parts, rest)
    | rest => some ([part], rest)

def key (cs : List Char) : Option ((List String × String) × List Char) :=
  (keyParts maxLevels cs).bind fun (parts, rest) =>
    parts.getLast?.map fun last => ((parts.dropLast, last), rest)

def skipComment : List Char → List Char
  | '#' :: rest => rest.dropWhile isPlain
  | cs => cs

/-- A text without the blanks, line breaks and comments at its front. The fuel bounds the comments. -/
def skipLayout : Nat → List Char → List Char
  | 0, cs => cs
  | fuel + 1, cs => match skipBreaks cs with
    | '#' :: rest => skipLayout fuel (rest.dropWhile isPlain)
    | cs => cs

def skipAll (cs : List Char) : List Char := skipLayout (cs.length + 1) cs

/-- Elements up to the closing bracket, the last of which may have a comma behind it. The fuel bounds their
number. -/
def items (item : Scan Item) : Nat → Scan (List Item)
  | 0, _ => none
  | fuel + 1, cs => match skipAll cs with
    | ']' :: rest => some ([], rest)
    | cs => (item cs).bind fun (v, rest) => match skipAll rest with
      | ']' :: rest => some ([v], rest)
      | ',' :: rest => (items item fuel rest).map fun (vs, rest) => (v :: vs, rest)
      | _ => none

def assignment (item : Scan Item) (cs : List Char) : Option (Assignment × List Char) :=
  (key cs).bind fun ((path, last), rest) => match rest with
    | '=' :: rest => (item (skipBlanks rest)).map fun (v, rest) => (⟨path, last, v⟩, rest)
    | _ => none

/-- Assignments up to the closing brace, with a comma between each two. The fuel bounds their number. -/
def inlineAssignments (item : Scan Item) : Nat → Scan (List Assignment)
  | 0, _ => none
  | fuel + 1, cs => (assignment item cs).bind fun (a, rest) => match skipBlanks rest with
    | '\x7d' :: rest => some ([a], rest)
    | ',' :: rest => (inlineAssignments item fuel rest).map fun (as, rest) => (a :: as, rest)
    | _ => none

def inlineTable (item : Scan Item) (cs : List Char) : Option (Item × List Char) :=
  match skipBlanks cs with
  | '\x7d' :: rest => some (.table .inline [], rest)
  | cs => (inlineAssignments item (cs.length + 1) cs).bind fun (as, rest) =>
    (assignAll as []).map fun entries => (.table .inline entries, rest)

/-- A value whose elements are read by a given scan, if a level of brackets is left. -/
def valueWith (inner : Option (Scan Item)) (cs : List Char) : Option (Item × List Char) :=
  match cs with
  | '[' :: rest => inner.bind fun item =>
    (items item (rest.length + 1) rest).map fun (vs, rest) => (.list vs, rest)
  | '\x7b' :: rest => inner.bind fun item => inlineTable item rest
  | '"' :: _ => (anyString cs).map fun (s, rest) => (.text s, rest)
  | '\'' :: _ => (anyString cs).map fun (s, rest) => (.text s, rest)
  | _ => wordItem cs

def value : Nat → Scan Item
  | 0 => valueWith none
  | levels + 1 => valueWith (some (value levels))

/-- The text behind the end of a line, before which only blanks and a comment may stand. -/
def lineEnd (cs : List Char) : Option (List Char) :=
  match skipComment (skipBlanks cs) with
  | [] => some []
  | cs => afterBreak? cs

/-- Blanks, comments and empty lines before the next line that says something. -/
def nextLine (cs : List Char) : List Char := skipAll cs

/-- The lines up to the next header. The fuel bounds their number. -/
def assignments : Nat → Scan (List Assignment)
  | 0, _ => none
  | fuel + 1, cs => match nextLine cs with
    | [] => some ([], [])
    | '[' :: rest => some ([], '[' :: rest)
    | cs => (assignment (value maxLevels) cs).bind fun (a, rest) => (lineEnd rest).bind fun rest =>
      (assignments fuel rest).map fun (as, rest) => (a :: as, rest)

/-- A header: the path to its table in one pair of brackets, or in two for an element of an array. -/
def header : Scan (Heading × List String × String)
  | '[' :: '[' :: rest => (key rest).bind fun ((path, last), rest) => match rest with
    | ']' :: ']' :: rest => some ((.element, path, last), rest)
    | _ => none
  | '[' :: rest => (key rest).bind fun ((path, last), rest) => match rest with
    | ']' :: rest => some ((.table, path, last), rest)
    | _ => none
  | _ => none

/-- The headers up to the end, each with the lines below it. The fuel bounds their number. -/
def sections : Nat → List Char → Option (List Section)
  | 0, _ => none
  | _, [] => some []
  | fuel + 1, cs => (header cs).bind fun ((heading, path, last), rest) => (lineEnd rest).bind fun rest =>
    (assignments (rest.length + 1) rest).bind fun (as, rest) =>
      (sections fuel rest).map fun ss => ⟨heading, path, last, as⟩ :: ss

/-- The entries of a document, before which a byte order mark may stand. -/
def parse (text : String) : Option Entries :=
  let cs := match text.toList with
    | '\ufeff' :: cs => cs
    | cs => cs
  (assignments (cs.length + 1) cs).bind fun (as, rest) =>
    (sections (rest.length + 1) rest).bind fun ss =>
      (assignAll as []).bind (defineAll ss)

end FilterTree.Toml
