import ParamGate.Value.Key

/-!
# Problems of parameters

What a check finds wrong with a parameter, and the value that reports it.
-/

namespace ParamGate

/-- What is wrong with the value of a parameter. -/
inductive Finding where
  /-- A validate hook returned a message. -/
  | custom (message : Value)
  /-- A required value is missing. -/
  | notSet
  | aboveMax (bound : Value)
  | belowMin (bound : Value)

/-- A finding about a parameter of a type. -/
structure Problem where
  type : Kind
  finding : Finding

/-- Problems by parameter name, in the order of declaration. -/
abbrev Problems := Table Problem

/-- The entries of a finding in a report. -/
def Finding.entries : Finding → List (Value × Value)
  | .custom message => [(.string "error", message)]
  | .notSet => [(.string "error", .string "not set")]
  | .aboveMax bound =>
      [(.string "error", .string "value exceeds max value"), (.string "max", bound)]
  | .belowMin bound =>
      [(.string "error", .string "value below min value"), (.string "min", bound)]

/-- Report of a problem. -/
def Problem.toValue (p : Problem) : Value :=
  .map ((.string "type", .string p.type.name) :: p.finding.entries)

/-- Report of problems. -/
def Problems.toValue (ps : Problems) : Value := .map (ps.map fun e => (e.1, e.2.toValue))

end ParamGate
