import ParamGate.Binary64.Basic
import ParamGate.Text.Digits

/-!
# Shortest decimal text

`shortest` chooses the coarsest power of ten with a multiple that reads back as the number, and
of its multiples the nearest, ties to the even digit. `text` lays the digits out: positional
while the decimal exponent is at least -4 and below 16, with a fractional part even if it is
zero; otherwise one digit, a point and the rest, and a signed exponent of at least two digits.
`ofText?` reads a decimal text with an optional exponent.
-/

namespace ParamGate.Binary64

/-- Four times the ends of the interval that rounds to `units`, and whether the ends belong to
it. The interval is narrower below a power of two. -/
structure Neighbourhood where
  low4 : Nat
  high4 : Nat
  closed : Bool

/-- The interval of reals that round to `units`. -/
def neighbourhood (units : Nat) : Neighbourhood :=
  let step := spacing units
  let significand := units / step
  let below := if significand = Nat.pow 2 52 ∧ 1 < step then step else 2 * step
  { low4 := 4 * units - below
    high4 := 4 * units + 2 * step
    closed := significand % 2 == 0 }

/-- Whether `4 · value` lies in the interval, all scaled by `scale`. -/
def Neighbourhood.holds (r : Neighbourhood) (scale value : Nat) : Bool :=
  if r.closed then
    decide (r.low4 * scale ≤ 4 * value) && decide (4 * value ≤ r.high4 * scale)
  else
    decide (r.low4 * scale < 4 * value) && decide (4 * value < r.high4 * scale)

/-- The multiple of 10^`k` nearest to `units` among its two neighbours on that grid that round
to `units`. -/
def nearestMultiple? (units : Nat) (k : Int) : Option Nat :=
  let scale := Nat.pow 10 (-k).toNat
  let grid := oneUnits * Nat.pow 10 k.toNat
  let scaled := units * scale
  let n := scaled / grid
  let r := neighbourhood units
  match r.holds scale (n * grid), r.holds scale ((n + 1) * grid) with
  | true, true =>
      let low := scaled - n * grid
      let high := (n + 1) * grid - scaled
      if low < high then some n
      else if high < low then some (n + 1)
      else if n % 2 = 0 then some n else some (n + 1)
  | true, false => some n
  | false, true => some (n + 1)
  | false, false => none

/-- Decimal exponents from 308 down, as many as `fuel`. -/
def shortestFrom (units : Nat) (k : Int) : Nat → Nat × Int
  | 0 => (0, 0)
  | fuel + 1 =>
      match nearestMultiple? units k with
      | some n => (n, k)
      | none => shortestFrom units (k - 1) fuel

/-- The digits and the decimal exponent of the shortest decimal that reads back as `units`. -/
def shortest (units : Nat) : Nat × Int := shortestFrom units 308 633

/-- The decimal `digits` · 10^`exponent` with a point or an exponent. -/
def layout (digits : Nat) (exponent : Int) : String :=
  let ds := Nat.toDigits 10 digits
  let point := exponent + ds.length
  if point ≤ -4 ∨ 16 < point then
    let e := point - 1
    let mark := if e < 0 then "e-" else "e+"
    let width := if e.natAbs < 10 then "0" else ""
    let fraction := match ds.drop 1 with
      | [] => []
      | rest => '.' :: rest
    String.ofList (ds.take 1 ++ fraction) ++ mark ++ width ++ e.natAbs.repr
  else if point ≤ 0 then
    String.ofList ('0' :: '.' :: List.replicate (-point).toNat '0' ++ ds)
  else if 0 ≤ exponent then
    String.ofList (ds ++ List.replicate exponent.toNat '0' ++ ['.', '0'])
  else
    String.ofList (ds.take point.toNat ++ '.' :: ds.drop point.toNat)

/-- Shortest text of a number. -/
def text : Binary64 → String
  | .nan _ => "nan"
  | .infinite negative => if negative then "-inf" else "inf"
  | .finite negative units =>
      let magnitude :=
        if units = 0 then "0.0"
        else
          let (n, k) := shortest units
          layout n k
      if negative then "-" ++ magnitude else magnitude

open Text in
/-- An exponent at the front, if there is a complete one, and the rest. -/
def takeExponent (value? : Char → Option Nat) : List Char → Int × List Char
  | [] => (0, [])
  | c :: cs =>
      if c = 'e' ∨ c = 'E' then
        let (negative, digitsOn) := takeSign cs
        match takeDigits value? digitsOn with
        | ([], _) => (0, c :: cs)
        | (ds, rest) => (withSign negative (ofDigits ds), rest)
      else (0, c :: cs)

open Text in
/-- A decimal number at the front: digits on at least one side of an optional point, and an
optional exponent. The number has the given sign. -/
def takeDecimal? (value? : Char → Option Nat) (negative : Bool) (cs : List Char) :
    Option (Binary64 × List Char) :=
  let (whole, rest) := takeDigits value? cs
  let (fraction, rest) :=
    match rest with
    | '.' :: after =>
        let (ds, after) := takeDigits value? after
        if whole.isEmpty && ds.isEmpty then ([], rest) else (ds, after)
    | _ => ([], rest)
  if whole.isEmpty && fraction.isEmpty then none
  else
    let (exponent, rest) := takeExponent value? rest
    some (ofDecimal negative (ofDigits (whole ++ fraction)) (exponent - fraction.length), rest)

open Text in
/-- The number that a whole text denotes, as `text` writes it. -/
def ofText? (s : String) : Option Binary64 :=
  if s = "nan" then some (.nan 0)
  else
    let (negative, rest) := takeSign s.toList
    if rest = ['i', 'n', 'f'] then some (.infinite negative)
    else
      match takeDecimal? asciiDigit? negative rest with
      | some (x, []) => some x
      | _ => none

end ParamGate.Binary64
