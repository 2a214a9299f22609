import FilterTree.Json.Reader

/-!
# Numbers

A number is read in two steps. The first takes the longest numeral off the front of a text and looks at the
grammar alone; the second decides what the numeral stands for.

* `Numeral` : the parts of a written number.
* `numeral` : the first step.
* `gather` : the digits that fit below a bound, and the ones behind the first that does not.
* `Numeral.number` : the second step. Whole numbers that fit a word keep their value. All others become
  doubles: at most sixty-four bits of their digits count, and these are scaled by a power of ten in one
  rounding, which need not give the double nearest to the numeral.
* `Reader.number` : the two steps as a reader.
-/

namespace FilterTree.Json

structure Exponent where
  negative : Bool
  digits : List Char

/-- The parts of a written number. A numeral without a point has no digits in its fraction. -/
structure Numeral where
  negative : Bool
  whole : List Char
  fraction : List Char
  exponent : Option Exponent

def minus : List Char → Bool × List Char
  | '-' :: rest => (true, rest)
  | cs => (false, cs)

def exponentSign : List Char → Bool × List Char
  | '-' :: rest => (true, rest)
  | '+' :: rest => (false, rest)
  | cs => (false, cs)

def leadingDigits (cs : List Char) : List Char := cs.takeWhile Char.isDigit

def dropDigits (cs : List Char) : List Char := cs.dropWhile Char.isDigit

def startsWithDigit : List Char → Bool
  | c :: _ => c.isDigit
  | [] => false

/-- The digits before the point. A zero stands alone. `missing` is the cause where the text ends too early. -/
def wholePart (missing : Cause) : List Char → Result (List Char)
  | [] => .error (.here missing [])
  | c :: rest =>
    if c = '0' then
      if startsWithDigit rest then .error (.next .invalidNumber rest) else .ok (['0'], rest)
    else if c.isDigit then .ok (c :: leadingDigits rest, dropDigits rest)
    else .error (.next .invalidNumber (c :: rest))

def fractionPart (missing : Cause) : List Char → Result (List Char)
  | '.' :: rest => match leadingDigits rest with
    | [] => .error (.next (if rest.isEmpty then missing else .invalidNumber) rest)
    | ds => .ok (ds, dropDigits rest)
  | cs => .ok ([], cs)

def exponentDigits (missing : Cause) (signed : Bool × List Char) : Result (Option Exponent) :=
  match leadingDigits signed.2 with
  | [] => .error (.next (if signed.2.isEmpty then missing else .invalidNumber) signed.2)
  | ds => .ok (some ⟨signed.1, ds⟩, dropDigits signed.2)

def exponentPart (missing : Cause) : List Char → Result (Option Exponent)
  | [] => .ok (none, [])
  | c :: rest =>
    if c = 'e' ∨ c = 'E' then exponentDigits missing (exponentSign rest) else .ok (none, c :: rest)

/-- The longest numeral at the front of a text. -/
def numeral (missing : Cause) (cs : List Char) : Result Numeral :=
  match wholePart missing (minus cs).2 with
  | .error fault => .error fault
  | .ok (whole, behind) => match fractionPart missing behind with
    | .error fault => .error fault
    | .ok (fraction, behind) => match exponentPart missing behind with
      | .error fault => .error fault
      | .ok (exponent, rest) => .ok (⟨(minus cs).1, whole, fraction, exponent⟩, rest)

theorem length_minus_le (cs : List Char) : (minus cs).2.length ≤ cs.length := by
  unfold minus
  split
  · exact Nat.le_succ _
  · exact Nat.le_refl _

theorem length_exponentSign_le (cs : List Char) : (exponentSign cs).2.length ≤ cs.length := by
  unfold exponentSign
  split
  · exact Nat.le_succ _
  · exact Nat.le_succ _
  · exact Nat.le_refl _

theorem length_dropDigits_le (cs : List Char) : (dropDigits cs).length ≤ cs.length :=
  length_dropWhile_le _ cs

theorem length_wholePart_lt {missing : Cause} {cs ds rest : List Char}
    (h : wholePart missing cs = .ok (ds, rest)) : rest.length < cs.length := by
  unfold wholePart at h
  split at h
  · cases h
  · rename_i c cs
    have := length_dropDigits_le cs
    split at h
    · split at h
      · cases h
      · cases h
        exact Nat.lt_succ_self _
    · split at h
      · cases h
        exact Nat.lt_succ_of_le this
      · cases h

theorem length_fractionPart_le {missing : Cause} {cs ds rest : List Char}
    (h : fractionPart missing cs = .ok (ds, rest)) : rest.length ≤ cs.length := by
  unfold fractionPart at h
  split at h
  · rename_i cs
    have := length_dropDigits_le cs
    split at h
    · cases h
    · cases h
      exact Nat.le_succ_of_le this
  · cases h
    exact Nat.le_refl _

theorem length_exponentDigits_le {missing : Cause} {signed : Bool × List Char} {rest : List Char}
    {e : Option Exponent} (h : exponentDigits missing signed = .ok (e, rest)) :
    rest.length ≤ signed.2.length := by
  unfold exponentDigits at h
  split at h
  · cases h
  · cases h
    exact length_dropDigits_le signed.2

theorem length_exponentPart_le {missing : Cause} {cs rest : List Char} {e : Option Exponent}
    (h : exponentPart missing cs = .ok (e, rest)) : rest.length ≤ cs.length := by
  unfold exponentPart at h
  split at h
  · cases h
    exact Nat.le_refl _
  · rename_i c cs
    split at h
    · have := length_exponentSign_le cs
      have := length_exponentDigits_le h
      simp only [List.length_cons]
      omega
    · cases h
      exact Nat.le_refl _

theorem length_numeral_lt {missing : Cause} {cs rest : List Char} {n : Numeral}
    (h : numeral missing cs = .ok (n, rest)) : rest.length < cs.length := by
  unfold numeral at h
  have := length_minus_le cs
  split at h
  · cases h
  · rename_i whole
    have := length_wholePart_lt whole
    split at h
    · cases h
    · rename_i fraction
      have := length_fractionPart_le fraction
      split at h
      · cases h
      · rename_i exponent
        have := length_exponentPart_le exponent
        cases h
        omega

/-- The number that digits add to the ones before them as long as it stays below a bound, and the digits from
the first that would take it past the bound. -/
def gather (bound : Nat) (n : Nat) : List Char → Nat × List Char
  | [] => (n, [])
  | c :: cs =>
    let next := n * 10 + Decimal.digit c
    if next < bound then gather bound next cs else (n, c :: cs)

/-- The bound of the digits that count, which is that of unsigned words. -/
def significandBound : Nat := 0x10000000000000000

def signedBound : Nat := 0x8000000000000000

/-- The bound of an exponent, which is that of signed words of half the width. -/
def exponentBound : Nat := 0x80000000

def tenTo (k : Nat) : Float := Float.ofScientific 1 false k

/-- A double times a power of ten, in one rounding where the power is itself a double. Nothing where the product
is infinite. -/
def scale (x : Float) (e : Int) : Option Float :=
  if e < -308 then
    if x == 0 then some x else scale (x / tenTo 308) (e + 308)
  else if e < 0 then some (x / tenTo e.natAbs)
  else if e ≤ 308 then
    let y := x * tenTo e.natAbs
    if y.isInf then none else some y
  else if x == 0 then some x else none
termination_by e.natAbs

def signed (negative : Bool) (x : Float) : Float := if negative then -x else x

namespace Numeral

/-- A numeral without point and exponent whose digits all count. -/
def ofWhole (negative : Bool) (n : Nat) : Number :=
  if negative then
    if n = 0 ∨ signedBound < n then .float (-(UInt64.ofNat n).toFloat) else .int (Int64.ofInt (-n))
  else if n < signedBound then .int (Int64.ofNat n)
  else .uint (UInt64.ofNat n)

def ofScaled (negative : Bool) (n : Nat) (e : Int) : Except Nat Number :=
  match scale (UInt64.ofNat n).toFloat e with
  | some x => .ok (.float (signed negative x))
  | none => .error 0

/-- Digits that count, times a power of ten that has an exponent of its own. An exponent past its bound leaves
only zero or nothing, and is known to at the digit that takes it there. -/
def ofExponent (negative : Bool) (n : Nat) (e : Int) (exponent : Exponent) : Except Nat Number :=
  match gather exponentBound 0 exponent.digits with
  | (k, []) => ofScaled negative n (if exponent.negative then e - k else e + k)
  | (_, _ :: unread) =>
    if n = 0 ∨ exponent.negative then .ok (.float (signed negative 0)) else .error unread.length

/-- What a numeral stands for. A numeral out of range is refused with the number of its digits that were not
needed to see that. -/
def number (m : Numeral) : Except Nat Number :=
  let whole := gather significandBound 0 m.whole
  let all := gather significandBound whole.1 m.fraction
  let e := (whole.2.length : Int) - ((m.fraction.length : Int) - all.2.length)
  match m.exponent with
  | some exponent => ofExponent m.negative all.1 e exponent
  | none =>
    if m.fraction.isEmpty && whole.2.isEmpty then .ok (ofWhole m.negative whole.1)
    else ofScaled m.negative all.1 e

end Numeral

def Reader.number : Reader Number where
  run cs := match numeral .endInValue cs with
    | .error fault => .error fault
    | .ok (m, rest) => match m.number with
      | .ok n => .ok (n, rest)
      | .error unread => .error (.placed .numberOutOfRange (size rest + unread))
  shortens h := by
    split at h
    · cases h
    · rename_i run
      split at h
      · cases h
        exact length_numeral_lt run
      · cases h

end FilterTree.Json
