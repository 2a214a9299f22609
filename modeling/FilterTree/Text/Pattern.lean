import FilterTree.Text.Basic
import FilterTree.Text.Class

/-!
# Patterns

A pattern describes texts by characters, sets of characters, choices, groups and repetitions. Braces have no place in
these patterns. With the flag `x` blanks and comments between the parts do not count.

* `Change` : flags that are set and flags that are taken back.
* `Charset`, `Pattern` : sets of characters, and patterns, as they are written.
* `Charset.depth`, `Pattern.depth` : how deep they are nested.
* `Modes` : what the flags say about characters.
* `Charset.fits`, `Pattern.after?` : whether texts can be compared with them. Tables of characters are not at hand:
  where a character may be any of Unicode, there are no kinds of characters, no edges of words and no comparison
  without case. Where bytes are compared, a pattern may not lead into the middle of a character.
* `skip` : the text behind blanks and comments.
* `escape?` : what stands behind a backslash.
* `opening`, `content` : a set of characters.
* `groupFrom` : the opening of a group.
* `readFrom` : a pattern within open groups.
* `isPattern` : whether a text is a pattern that texts can be compared with.
-/

namespace FilterTree.Text

structure Change where
  given : List Char
  taken : List Char

def Change.idle : Change := ⟨[], []⟩

/-- A flag behind a change of flags. -/
def Change.state (x : Change) (flag : Char) (before : Bool) : Bool :=
  x.given.contains flag || (before && !x.taken.contains flag)

/-- A set of characters. One that is turned has the characters that are not in what is written. -/
inductive Charset where
  | empty
  | one (c : Char)
  | range (low high : Char)
  /-- A set with a name between colons. -/
  | named (turned : Bool)
  /-- The characters of a kind, or all others if its letter is a capital. -/
  | kind (letter : Char)
  | nested (turned : Bool) (inner : Charset)
  | union (items : List Charset)
  /-- What two sets have in common, or only the first, or only one of them. -/
  | pair (left right : Charset)
deriving Inhabited

/-- A pattern. -/
inductive Pattern where
  | nothing
  /-- A character, which may be written as a byte. -/
  | one (c : Char) (byte : Bool)
  | any
  /-- The beginning or the end of a line or of the text. -/
  | edge
  /-- The beginning or the end of a word. -/
  | wordEdge
  /-- A character of a kind, or any other if its letter is a capital. -/
  | kind (letter : Char)
  | set (turned : Bool) (inner : Charset)
  /-- Flags for all that follows in the group. -/
  | change (x : Change)
  | repeated (p : Pattern)
  | group (x : Change) (p : Pattern)
  | sequence (ps : List Pattern)
  | choice (ps : List Pattern)
deriving Inhabited

/-! ## Depth -/

mutual

def Charset.depth : Charset → Nat
  | .nested _ inner => inner.depth + 1
  | .union items => Charset.depthAll items + 1
  | .pair left right => max left.depth right.depth + 1
  | _ => 0

def Charset.depthAll : List Charset → Nat
  | [] => 0
  | s :: ss => max s.depth (Charset.depthAll ss)

end

mutual

def Pattern.depth : Pattern → Nat
  | .set _ inner => inner.depth + 1
  | .repeated p => p.depth + 1
  | .group _ p => p.depth + 1
  | .sequence ps => Pattern.depthAll ps + 1
  | .choice ps => Pattern.depthAll ps + 1
  | _ => 0

def Pattern.depthAll : List Pattern → Nat
  | [] => 0
  | p :: ps => max p.depth (Pattern.depthAll ps)

end

/-! ## Modes -/

/-- Whether case counts for nothing, and whether a character may be any of Unicode or is a byte. -/
structure Modes where
  caseless : Bool
  wide : Bool

namespace Modes

def initial : Modes := ⟨false, true⟩

def after (m : Modes) (x : Change) : Modes := ⟨x.state 'i' m.caseless, x.state 'u' m.wide⟩

/-- Whether a set may hold a character. -/
def holds (m : Modes) (c : Char) : Bool := if m.wide then !m.caseless else c.toNat < 0x80

/-- Whether a pattern may ask for a character. -/
def takes (m : Modes) (c : Char) (byte : Bool) : Bool :=
  if m.wide then !m.caseless else !byte || c.toNat < 0x80

/-- Whether a set may be turned. -/
def turns (m : Modes) (turned : Bool) : Bool := m.wide || !turned

/-- Whether there are kinds of characters. -/
def knows (m : Modes) (letter : Char) : Bool := !m.wide && letter.isLower

end Modes

mutual

def Charset.fits (m : Modes) : Charset → Bool
  | .empty => true
  | .one c => m.holds c
  | .range low high => m.holds low && m.holds high
  | .named turned => !(m.wide && m.caseless) && m.turns turned
  | .kind letter => m.knows letter
  | .nested turned inner => m.turns turned && inner.fits m
  | .union items => Charset.fitsAll m items
  | .pair left right => left.fits m && right.fits m

def Charset.fitsAll (m : Modes) : List Charset → Bool
  | [] => true
  | s :: ss => s.fits m && Charset.fitsAll m ss

end

mutual

/-- The modes behind a pattern, if texts can be compared with it. -/
def Pattern.after? (m : Modes) : Pattern → Option Modes
  | .nothing => some m
  | .one c byte => if m.takes c byte then some m else none
  | .any => if m.wide then some m else none
  | .edge => some m
  | .wordEdge => if m.wide then none else some m
  | .kind letter => if m.knows letter then some m else none
  | .set turned inner => if m.turns turned && inner.fits m then some m else none
  | .change x => some (m.after x)
  | .repeated p => p.after? m
  | .group x p => (p.after? (m.after x)).map fun _ => m
  | .sequence ps => Pattern.afterAll? m ps
  | .choice ps => Pattern.afterAll? m ps

def Pattern.afterAll? (m : Modes) : List Pattern → Option Modes
  | [] => some m
  | p :: ps => (p.after? m).bind fun m => Pattern.afterAll? m ps

end

def Pattern.maxDepth : Nat := 250

/-- Whether texts can be compared with a pattern. -/
def Pattern.isUsable (p : Pattern) : Bool := p.depth ≤ maxDepth && (p.after? .initial).isSome

/-! ## Reading patterns -/

namespace Pattern

/-- The text behind blanks and comments, of which one may have begun. A comment ends with its line. -/
def skipFrom (comment : Bool) : List Char → List Char
  | [] => []
  | c :: cs =>
    if comment then skipFrom (c != '\n') cs
    else if isBlank c then skipFrom false cs
    else if c = '#' then skipFrom true cs
    else c :: cs

def skip (spaced : Bool) (cs : List Char) : List Char := if spaced then skipFrom false cs else cs

/-- The next character that counts. The first one of a comment does here. -/
def peek (spaced : Bool) (cs : List Char) : Option Char :=
  if spaced then
    match cs.dropWhile isBlank with
    | '#' :: rest => (rest.dropWhile isBlank).head?
    | rest => rest.head?
  else cs.head?

/-! ## Escapes -/

inductive Escape where
  | one (c : Char) (byte : Bool)
  | kind (letter : Char)
  | edge
  | wordEdge

def codeDigits? (spaced : Bool) : Nat → List Char → Option (List Char × List Char)
  | 0, cs => some ([], cs)
  | count + 1, cs => match skip spaced cs with
    | [] => none
    | c :: rest =>
      if (hexValue? c).isSome then (codeDigits? spaced count rest).map fun (ds, rest) => (c :: ds, rest) else none

def code? (spaced : Bool) (count : Nat) (cs : List Char) : Option (Char × List Char) :=
  (codeDigits? spaced count cs).bind fun (ds, rest) => (scalarValue? ds).map fun c => (c, rest)

/-- The escape behind a backslash. All marks may be escaped but two, and they stand for themselves then. -/
def escape? (spaced : Bool) : List Char → Option (Escape × List Char)
  | [] => none
  | 'x' :: rest => (code? spaced 2 rest).map fun (c, rest) => (.one c true, rest)
  | 'u' :: rest => (code? spaced 4 rest).map fun (c, rest) => (.one c false, rest)
  | 'U' :: rest => (code? spaced 8 rest).map fun (c, rest) => (.one c false, rest)
  | 'a' :: rest => some (.one '\x07' false, rest)
  | 'f' :: rest => some (.one '\x0c' false, rest)
  | 't' :: rest => some (.one '\t' false, rest)
  | 'n' :: rest => some (.one '\n' false, rest)
  | 'r' :: rest => some (.one '\r' false, rest)
  | 'v' :: rest => some (.one '\x0b' false, rest)
  | c :: rest =>
    if ['d', 's', 'w', 'D', 'S', 'W'].contains c then some (.kind c, rest)
    else if c = 'A' ∨ c = 'z' then some (.edge, rest)
    else if ['b', 'B', '<', '>'].contains c then some (.wordEdge, rest)
    else if c.toNat < 0x80 && !c.isAlphanum then some (.one c false, rest)
    else none

/-! ## Sets -/

def setNames : List String :=
  ["alnum", "alpha", "ascii", "blank", "cntrl", "digit", "graph", "lower", "print", "punct", "space", "upper", "word",
    "xdigit"]

def namedSet? : List Char → Option (Charset × List Char)
  | ':' :: cs =>
    let (turned, cs) := match cs with
      | '^' :: rest => (true, rest)
      | cs => (false, cs)
    match cs.dropWhile (· != ':') with
    | ':' :: ']' :: rest =>
      if setNames.contains (String.ofList (cs.takeWhile (· != ':'))) then some (.named turned, rest) else none
    | _ => none
  | _ => none

/-- Dashes at the beginning of a set stand for themselves. The fuel bounds their number. -/
def dashes (spaced : Bool) : Nat → List Charset → List Char → List Charset × List Char
  | fuel + 1, items, '-' :: rest => dashes spaced fuel (.one '-' :: items) (skip spaced rest)
  | _, items, cs => (items, cs)

/-- What a set begins with: a mark that turns it, and then dashes or a closing bracket that stand for themselves. -/
def opening (spaced : Bool) (cs : List Char) : Bool × List Charset × List Char :=
  let (turned, cs) := match skip spaced cs with
    | '^' :: rest => (true, skip spaced rest)
    | cs => (false, cs)
  match dashes spaced cs.length [] cs with
  | ([], ']' :: rest) => (turned, [.one ']'], rest)
  | (items, rest) => (turned, items, rest)

def item? (spaced : Bool) : List Char → Option (Charset × List Char)
  | [] => none
  | '\\' :: rest => match escape? spaced rest with
    | some (.one c _, rest) => some (.one c, rest)
    | some (.kind letter, rest) => some (.kind letter, rest)
    | _ => none
  | c :: rest => some (.one c, rest)

/-- An item of a set, or a range of characters. A dash before the closing bracket or before another dash begins no
range. -/
def range? (spaced : Bool) (cs : List Char) : Option (Charset × List Char) :=
  (item? spaced cs).bind fun (low, rest) => match skip spaced rest with
    | '-' :: more =>
      if peek spaced more = some ']' ∨ peek spaced more = some '-' then some (low, '-' :: more)
      else (item? spaced (skip spaced more)).bind fun (high, rest) => match low, high with
        | .one a, .one b => if a ≤ b then some (.range a b, rest) else none
        | _, _ => none
    | rest => some (low, rest)

/-- The union of items, the last one first. -/
def unionOf : List Charset → Charset
  | [] => .empty
  | [s] => s
  | ss => .union ss.reverse

/-- The items of a set behind the set with which they are combined. -/
def combine (left : Option Charset) (items : List Charset) : Charset :=
  match left with
  | some s => .pair s (unionOf items)
  | none => unionOf items

/-- A set up to its closing bracket. Two of some marks combine what stands before and behind them. The fuel bounds the
characters. -/
def content (spaced : Bool) : Nat → Option Charset → List Charset → List Char → Option (Charset × List Char)
  | 0, _, _, _ => none
  | fuel + 1, left, items, cs => match skip spaced cs with
    | [] => none
    | '[' :: rest => match namedSet? rest with
      | some (s, rest) => content spaced fuel left (s :: items) rest
      | none =>
        let (turned, start, rest) := opening spaced rest
        (content spaced fuel none start rest).bind fun (inner, rest) =>
          content spaced fuel left (.nested turned inner :: items) rest
    | ']' :: rest => some (combine left items, rest)
    | '&' :: '&' :: rest => content spaced fuel (some (combine left items)) [] rest
    | '-' :: '-' :: rest => content spaced fuel (some (combine left items)) [] rest
    | '~' :: '~' :: rest => content spaced fuel (some (combine left items)) [] rest
    | cs => (range? spaced cs).bind fun (s, rest) => content spaced fuel left (s :: items) rest

/-! ## Groups -/

def flags : List Char := ['i', 'm', 's', 'U', 'u', 'R', 'x']

/-- A change of flags: each once, those behind a dash taken back. -/
def change? (cs : List Char) : Option Change :=
  let given := cs.takeWhile (· != '-')
  let taken := (cs.dropWhile (· != '-')).drop 1
  if given.length != cs.length && taken.isEmpty then none
  else if (given ++ taken).all flags.contains && decide (given ++ taken).Nodup then some ⟨given, taken⟩
  else none

def isGroupName : List Char → Bool
  | [] => false
  | c :: cs => (c == '_' || isLetter c) &&
      cs.all fun c => isLetter c || isNumeral c || ['_', '.', '[', ']'].contains c

inductive Opening where
  /-- A group, with an empty name if it has none. -/
  | group (name : List Char) (x : Change) (rest : List Char)
  /-- Flags for what follows, without a group. -/
  | change (x : Change) (rest : List Char)

/-- The group with a name, from behind the mark before the name on. -/
def named? (cs : List Char) : Option Opening :=
  let name := cs.takeWhile (· != '>')
  match cs.dropWhile (· != '>') with
  | _ :: rest => if isGroupName name then some (.group name .idle rest) else none
  | [] => none

def groupFrom : List Char → Option Opening
  | '?' :: 'P' :: '<' :: rest => named? rest
  | '?' :: '<' :: rest => named? rest
  | '?' :: cs =>
    let given := cs.takeWhile fun c => c != ':' && c != ')'
    match cs.dropWhile fun c => c != ':' && c != ')' with
    | ':' :: rest => (change? given).map fun x => .group [] x rest
    | _ :: rest => if given.isEmpty then none else (change? given).map fun x => .change x rest
    | [] => none
  | rest => some (.group [] .idle rest)

/-! ## Patterns -/

/-- The sequence of some parts, the last one first. -/
def sequenceOf : List Pattern → Pattern
  | [] => .nothing
  | [p] => p
  | ps => .sequence ps.reverse

/-- The choice between a sequence and others before it, both in lists with the last one first. -/
def choiceOf (choices parts : List Pattern) : Pattern :=
  match choices with
  | [] => sequenceOf parts
  | ps => .choice (sequenceOf parts :: ps).reverse

/-- What stands before an open group, and its flags. -/
structure Frame where
  choices : List Pattern
  parts : List Pattern
  spaced : Bool
  given : Change

/-- A pattern from its rest: within open groups, behind groups with names, and behind choices and parts, which are in
lists with the last one first. The fuel bounds the characters. -/
def readFrom :
    Nat → List Frame → List (List Char) → Bool → List Pattern → List Pattern → List Char → Option Pattern
  | 0, _, _, _, _, _, _ => none
  | fuel + 1, frames, names, spaced, choices, parts, cs => match skip spaced cs with
    | [] => if frames.isEmpty then some (choiceOf choices parts) else none
    | c :: rest =>
      if c = '(' then
        match groupFrom (skip spaced rest) with
        | some (.group name x rest) =>
          if !name.isEmpty && names.contains name then none
          else readFrom fuel (⟨choices, parts, spaced, x⟩ :: frames) (name :: names) (x.state 'x' spaced) [] [] rest
        | some (.change x rest) =>
          readFrom fuel frames names (x.state 'x' spaced) choices (.change x :: parts) rest
        | none => none
      else if c = ')' then
        match frames with
        | [] => none
        | f :: frames =>
          readFrom fuel frames names f.spaced f.choices (.group f.given (choiceOf choices parts) :: f.parts) rest
      else if c = '|' then readFrom fuel frames names spaced (sequenceOf parts :: choices) [] rest
      else if c = '*' ∨ c = '+' ∨ c = '?' then
        let rest := match rest with
          | '?' :: rest => rest
          | rest => rest
        match parts with
        | [] => none
        | .change _ :: _ => none
        | p :: parts => readFrom fuel frames names spaced choices (.repeated p :: parts) rest
      else if c = '[' then
        let (turned, start, rest) := opening spaced rest
        (content spaced (rest.length + 1) none start rest).bind fun (inner, rest) =>
          readFrom fuel frames names spaced choices (.set turned inner :: parts) rest
      else if c = '\\' then
        (escape? spaced rest).bind fun (e, rest) =>
          let p := match e with
            | .one c byte => .one c byte
            | .kind letter => .kind letter
            | .edge => .edge
            | .wordEdge => .wordEdge
          readFrom fuel frames names spaced choices (p :: parts) rest
      else if c = '\x7b' then none
      else
        let p := if c = '.' then .any else if c = '^' ∨ c = '$' then .edge else .one c false
        readFrom fuel frames names spaced choices (p :: parts) rest

def read? (cs : List Char) : Option Pattern := readFrom (cs.length + 1) [] [] false [] [] cs

end Pattern

def isPattern (cs : List Char) : Bool := (Pattern.read? cs).any Pattern.isUsable

end FilterTree.Text
