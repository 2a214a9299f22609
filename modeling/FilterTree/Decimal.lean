/-!
# Decimal digits

The reals that round to a positive double, to nearest with ties to even, form an interval around it. Of the
decimals in that interval the ones with the fewest digits are wanted, and of those the nearest.

* `ofNat`, `ofInt` : the usual digits, without leading zeros, a minus sign in front of a negative number.
* `digit` : the value of a digit character.
* `value` : the number that a run of digits stands for.
* `value_ofNat` : reading back what was written.
* `Binary` : a positive finite double, `mantissa * 2 ^ exponent`.
* `Span` : its interval, as three numerators over one denominator.
* `Span.on` : the same interval measured in steps of a power of ten.
* `Span.nearest?` : the step inside the interval that is nearest to the double.
* `Scientific` : digits with one digit before the point, and the power of ten they are scaled by.
* `shortest` : the answer, found on the coarsest grid that has a point in the interval.
* `positional` : digits around a decimal point, as many zeros as it takes.
* `exponential` : one digit before the point, then `e` and a signed exponent.
* `plain` : the text for a reader: always positional, no point after a whole number.
* `json?` : the text in JSON: positional from `10 ^ -5` up to `10 ^ 16`, always with a point or an exponent;
  what is not finite has none.
-/

namespace FilterTree.Decimal

/-! ## Whole numbers -/

def ofNat (n : Nat) : List Char := Nat.toDigits 10 n

def ofInt : Int → List Char
  | .ofNat n => ofNat n
  | .negSucc n => '-' :: ofNat (n + 1)

def digit (c : Char) : Nat := c.toNat - '0'.toNat

def value (cs : List Char) : Nat := cs.foldl (fun n c => n * 10 + digit c) 0

theorem value_append_singleton (cs : List Char) (c : Char) :
    value (cs ++ [c]) = value cs * 10 + digit c := by
  simp [value]

theorem digit_digitChar {n : Nat} (h : n < 10) : digit n.digitChar = n := by
  match n, h with
  | 0, _ | 1, _ | 2, _ | 3, _ | 4, _ | 5, _ | 6, _ | 7, _ | 8, _ | 9, _ => rfl

theorem isDigit_digitChar {n : Nat} (h : n < 10) : n.digitChar.isDigit = true := by
  match n, h with
  | 0, _ | 1, _ | 2, _ | 3, _ | 4, _ | 5, _ | 6, _ | 7, _ | 8, _ | 9, _ => rfl

theorem ofNat_of_lt {n : Nat} (h : n < 10) : ofNat n = [n.digitChar] :=
  Nat.toDigits_of_lt_base h

theorem ofNat_eq_append {n : Nat} (h : 10 ≤ n) : ofNat n = ofNat (n / 10) ++ [(n % 10).digitChar] := by
  have parts := Nat.toDigits_append_toDigits (b := 10) (n := n / 10) (d := n % 10)
    (by decide) (by omega) (by omega)
  rw [Nat.toDigits_of_lt_base (by omega : n % 10 < 10), Nat.div_add_mod] at parts
  exact parts.symm

theorem value_ofNat (n : Nat) : value (ofNat n) = n := by
  induction n using Nat.strongRecOn with
  | _ n ih =>
    by_cases h : n < 10
    · rw [ofNat_of_lt h]
      simp [value, digit_digitChar h]
    · rw [ofNat_eq_append (by omega), value_append_singleton, ih _ (by omega),
        digit_digitChar (by omega)]
      omega

theorem isDigit_of_mem_ofNat {n : Nat} {c : Char} (h : c ∈ ofNat n) : c.isDigit = true := by
  induction n using Nat.strongRecOn with
  | _ n ih =>
    by_cases lt : n < 10
    · rw [ofNat_of_lt lt, List.mem_singleton] at h
      exact h ▸ isDigit_digitChar lt
    · rw [ofNat_eq_append (by omega), List.mem_append, List.mem_singleton] at h
      rcases h with h | h
      · exact ih _ (by omega) h
      · exact h ▸ isDigit_digitChar (by omega)

/-! ## The fewest digits that read back -/

/-- A positive finite double, `mantissa * 2 ^ exponent`. -/
structure Binary where
  mantissa : Nat
  exponent : Int
  /-- The double below is half as far away as the double above. -/
  atPower : Bool

def Binary.ofBits (bits : UInt64) : Binary :=
  let fraction := (bits &&& 0xFFFFFFFFFFFFF).toNat
  match ((bits >>> 52) &&& 0x7FF).toNat with
  | 0 => ⟨fraction, -1074, false⟩
  | e + 1 => ⟨fraction + 0x10000000000000, (e : Int) - 1074, fraction == 0 && e > 0⟩

/-- Numerators of the two ends of an interval and of the double between them. -/
structure Span where
  low : Nat
  middle : Nat
  high : Nat
  denominator : Nat
  /-- The ends belong to the interval. -/
  closed : Bool

/-- The reals that round to a double: up to half the way to its neighbours. -/
def Binary.span (b : Binary) : Span :=
  let up := Nat.pow 2 (b.exponent - 2).toNat
  ⟨(4 * b.mantissa - if b.atPower then 1 else 2) * up, 4 * b.mantissa * up, (4 * b.mantissa + 2) * up,
    Nat.pow 2 (2 - b.exponent).toNat, b.mantissa % 2 == 0⟩

namespace Span

def on (s : Span) (place : Int) : Span :=
  let up := Nat.pow 10 (-place).toNat
  { s with low := s.low * up, middle := s.middle * up, high := s.high * up,
           denominator := s.denominator * Nat.pow 10 place.toNat }

def contains (s : Span) (n : Nat) : Bool :=
  let here := n * s.denominator
  (s.low < here || s.closed && s.low == here) && (here < s.high || s.closed && here == s.high)

end Span

/-- Which of two equally near candidates is taken. -/
inductive Tie where
  | even
  | up

def Tie.above (t : Tie) (n : Nat) : Bool :=
  match t with
  | .even => n % 2 == 1
  | .up => true

namespace Span

def nearest? (t : Tie) (s : Span) : Option Nat :=
  let n := s.middle / s.denominator
  match s.contains n, s.contains (n + 1) with
  | false, false => none
  | true, false => some n
  | false, true => some (n + 1)
  | true, true =>
    let past := 2 * (s.middle % s.denominator)
    some (if past < s.denominator || past == s.denominator && !t.above n then n else n + 1)

/-- The place of the first digit of the double; no double is below `10 ^ -340`. -/
def leadingPlace (s : Span) : Int :=
  (ofNat (s.middle * Nat.pow 10 340 / s.denominator)).length - 341

end Span

/-- The number `d.ddd * 10 ^ exponent`, its digits without trailing zeros. -/
structure Scientific where
  digits : List Char
  exponent : Int

def Scientific.ofStep (n : Nat) (place : Int) : Scientific :=
  let ds := ofNat n
  ⟨(ds.reverse.dropWhile (· == '0')).reverse, place + ds.length - 1⟩

/-- The fewest digits that read back as the double. Seventeen are enough; past them its exact value is given. -/
def shortest (t : Tie) (b : Binary) : Scientific :=
  let s := b.span
  let top := s.leadingPlace
  let hit := (List.range 17).findSome? fun (k : Nat) =>
    ((s.on (top - k)).nearest? t).map fun n => Scientific.ofStep n (top - k)
  hit.getD (Scientific.ofStep (s.middle * Nat.pow 5 (2 - b.exponent).toNat) (-(2 - b.exponent).toNat))

/-! ## How a double is written -/

/-- Digits around a decimal point, which a whole number has only on demand. -/
def positional (pointed : Bool) (s : Scientific) : List Char :=
  match s.exponent with
  | .negSucc k => '0' :: '.' :: List.replicate k '0' ++ s.digits
  | .ofNat k =>
    let whole := s.digits.take (k + 1) ++ List.replicate (k + 1 - s.digits.length) '0'
    match s.digits.drop (k + 1) with
    | [] => if pointed then whole ++ ['.', '0'] else whole
    | part => whole ++ '.' :: part

def exponential (s : Scientific) : List Char :=
  let mantissa := match s.digits with
    | d :: r :: rs => d :: '.' :: r :: rs
    | ds => ds
  mantissa ++ 'e' :: (match s.exponent with
    | .ofNat k => '+' :: ofNat k
    | e => ofInt e)

def sign (x : Float) : List Char := if x.toBits >>> 63 == 1 then ['-'] else []

def magnitude (x : Float) (tie : Tie) (zero : List Char) (layout : Scientific → List Char) : List Char :=
  if x == 0 then zero else layout (shortest tie (Binary.ofBits x.toBits))

def plain (x : Float) : String :=
  if x.isNaN then "NaN"
  else if x.isInf then String.ofList (sign x ++ ['i', 'n', 'f'])
  else String.ofList (sign x ++ magnitude x .up ['0'] (positional false))

/-- The text in JSON, which has none for what is not finite. -/
def json? (x : Float) : Option String :=
  if x.isNaN || x.isInf then none
  else some <| String.ofList <| sign x ++ magnitude x .even ['0', '.', '0'] fun s =>
    if -5 ≤ s.exponent && s.exponent ≤ 15 then positional true s else exponential s

end FilterTree.Decimal
