/-!
# Binary floating point of double precision

A finite number is a sign and a multiple of 2 to the power -1074, the smallest positive number
of the format, so sums of exponents never appear and comparison is comparison of naturals.
`ofRatio` rounds a quotient to the nearest representable number, ties to the even significand,
and overflows to infinity.
-/

namespace ParamGate

/-- Numbers of the binary64 format: `finite negative units` is ±`units` · 2^-1074. The payload of a
not-a-number tells it from others that were made apart from it. -/
inductive Binary64 where
  | nan (payload : Nat)
  | infinite (negative : Bool)
  | finite (negative : Bool) (units : Nat)
deriving DecidableEq, Inhabited

namespace Binary64

/-- Units in the number one. -/
def oneUnits : Nat := Nat.pow 2 1074

/-- First multiple of the unit that is too large for a finite number. -/
def unitsLimit : Nat := Nat.pow 2 2098

/-- Distance in units between neighbouring numbers at the magnitude of `units`. -/
def spacing (units : Nat) : Nat := Nat.pow 2 (units.log2 - 52)

/-- Magnitudes of representable finite numbers. -/
def Representable (units : Nat) : Prop := units < unitsLimit ∧ spacing units ∣ units

/-- The quotient `num / den` rounded to the nearest natural, ties to even. -/
def roundHalfEven (num den : Nat) : Nat :=
  let q := num / den
  let twice := 2 * (num % den)
  if twice < den then q
  else if den < twice then q + 1
  else if q % 2 = 0 then q else q + 1

/-- The number nearest to ±`num / den`, ties to the even significand. -/
def ofRatio (negative : Bool) (num den : Nat) : Binary64 :=
  let scaled := num * oneUnits
  let step := spacing (scaled / den)
  let units := roundHalfEven scaled (den * step) * step
  if unitsLimit ≤ units then .infinite negative else .finite negative units

/-- The number nearest to an integer. -/
def ofInt (n : Int) : Binary64 := ofRatio (decide (n < 0)) n.natAbs 1

/-- The number nearest to ±`digits` · 10^`exponent`. Exponents far outside the range of the
format are decided without computing the power. -/
def ofDecimal (negative : Bool) (digits : Nat) (exponent : Int) : Binary64 :=
  if digits = 0 then .finite negative 0
  else if 400 < exponent then .infinite negative
  else if exponent + digits.log2 + 400 < 0 then .finite negative 0
  else if 0 ≤ exponent then ofRatio negative (digits * Nat.pow 10 exponent.toNat) 1
  else ofRatio negative digits (Nat.pow 10 (-exponent).toNat)

/-- Not a number. -/
def isNaN : Binary64 → Bool
  | .nan _ => true
  | _ => false

/-- Numbers other than zero; not-a-number counts. -/
def isNonzero : Binary64 → Bool
  | .finite _ units => units != 0
  | _ => true

/-- The integer part, toward zero, of a finite number. -/
def truncate? : Binary64 → Option Int
  | .finite negative units =>
      let n : Int := (units / oneUnits : Nat)
      some (if negative then -n else n)
  | _ => none

/-- Position of a number on the extended line: below every finite number, a count of units, or
above every finite number. Not-a-number has none. -/
inductive Position where
  | bottom
  | at (units : Int)
  | top
deriving DecidableEq, Inhabited

/-- Strict order of positions. -/
def Position.lt : Position → Position → Bool
  | .at a, .at b => decide (a < b)
  | .bottom, .bottom => false
  | .bottom, _ => true
  | .at _, .top => true
  | _, _ => false

/-- Position of a number; both zeros share one. -/
def position? : Binary64 → Option Position
  | .nan _ => none
  | .infinite true => some .bottom
  | .infinite false => some .top
  | .finite true units => some (.at (-(units : Int)))
  | .finite false units => some (.at units)

/-- Position of an integer. -/
def Position.ofInt (n : Int) : Position := .at (n * oneUnits)

end Binary64

end ParamGate
