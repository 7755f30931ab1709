import ParamGate.Fault
import ParamGate.Value.Key

/-!
# Equality and order of values

`equal` compares numbers by magnitude whatever their type, containers of one type item by item,
and maps as tables. `compare` decides `<` or `>`; only numbers among themselves, texts, bytes,
lists and tuples have an order, and two sequences are ordered by their first difference.
-/

namespace ParamGate.Value

/-- Values without parts. -/
def isPlain : Value → Bool
  | .list _ => false
  | .tuple _ => false
  | .map _ => false
  | .definition _ => false
  | _ => true

mutual

/-- Equality of values. A not-a-number differs from every value. -/
def equal : Value → Value → Bool
  | .list a, .list b => equalItems a b
  | .tuple a, .tuple b => equalItems a b
  | .map a, .map b => a.length == b.length && equalEntries a b
  | .definition a, .definition b => equalFields a b
  | a, b => a.isPlain && b.isPlain && !a.key.isNaN && a.key == b.key

/-- Equality of two lists of values. -/
def equalItems : List Value → List Value → Bool
  | [], [] => true
  | a :: as, b :: bs => equal a b && equalItems as bs
  | _, _ => false

/-- Every entry of the first list has an equal one in the second. -/
def equalEntries : List (Value × Value) → List (Value × Value) → Bool
  | [], _ => true
  | (k, v) :: rest, b =>
      (match Table.get? b k with
        | some w => equal v w
        | none => false) && equalEntries rest b

/-- Equality of the fields of two declarations. -/
def equalFields : ParamFields Value → ParamFields Value → Bool
  | ⟨a, b, c, d, e, f, g, h, i, j⟩, y =>
      equal a y.type && equal b y.array && equal c y.default && equal d y.required &&
        equal e y.min && equal f y.max && equal g y.description && equal h y.validate &&
        equal i y.error && equal j y.success

end

/-- Direction of a comparison. -/
inductive Comparison where
  | less
  | greater
deriving DecidableEq

/-- Sign of a comparison. -/
def Comparison.sign : Comparison → String
  | .less => "<"
  | .greater => ">"

/-- Whether two naturals stand in the direction. -/
def Comparison.holds (c : Comparison) (a b : Nat) : Bool :=
  match c with
  | .less => decide (a < b)
  | .greater => decide (b < a)

/-- Position of a number on the line, if the value is a number; not-a-number has none there. -/
def position? : Value → Option (Option Binary64.Position)
  | .bool b => some (some (.ofInt b.toNat))
  | .int n => some (some (.ofInt n))
  | .float x => some x.position?
  | _ => none

/-- Order of two numbers; a not-a-number is in no order. -/
def Comparison.positions (c : Comparison) :
    Option Binary64.Position → Option Binary64.Position → Bool
  | some p, some q =>
      match c with
      | .less => p.lt q
      | .greater => q.lt p
  | _, _ => false

/-- Order of two lists of numbers by their first difference, or by their lengths. -/
def Comparison.codes (c : Comparison) : List Nat → List Nat → Bool
  | a :: as, b :: bs => if a = b then c.codes as bs else c.holds a b
  | as, bs => c.holds as.length bs.length

mutual

/-- Whether the first value is below (or above) the second. -/
def compare (c : Comparison) : Value → Value → Except Fault Bool
  | .list a, .list b => compareItems c a b
  | .tuple a, .tuple b => compareItems c a b
  | .bytes a, .bytes b => .ok (c.codes (a.map UInt8.toNat) (b.map UInt8.toNat))
  | a, b =>
      match a.position?, b.position? with
      | some p, some q => .ok (c.positions p q)
      | _, _ =>
          match a.codes?, b.codes? with
          | some s, some t => .ok (c.codes s t)
          | _, _ => .error (.notOrdered c.sign a.typeName b.typeName)

/-- Order of two sequences by their first difference, or by their lengths. -/
def compareItems (c : Comparison) : List Value → List Value → Except Fault Bool
  | a :: as, b :: bs => if equal a b then compareItems c as bs else compare c a b
  | as, bs => .ok (c.holds as.length bs.length)

end

end ParamGate.Value
