import Denary.Machine

-- Arithmetic on the two newest numbers. The operator is the digit before the one being handled.

namespace Denary

inductive Operator where
  | add
  | subtract
  | multiply
  | divide
  | power
  | sqrt
  | sin
  | cos
  | log
  | modulo
  deriving DecidableEq, Repr, Inhabited

-- Why an operation has no result; zero stands in for it.
inductive Undefined where
  | division
  | logarithm
  | remainder
  deriving DecidableEq, Repr, Inhabited

def Undefined.message : Undefined → Bytes
  | division => ascii "Division by zero, result set to 0"
  | logarithm => ascii "Logarithm of non-positive value, result set to 0"
  | remainder => ascii "Modulo by zero, result set to 0"

namespace Operator

def ofNumber? (n : Int) : Option Operator :=
  match n with
  | 0 => some add
  | 1 => some subtract
  | 2 => some multiply
  | 3 => some divide
  | 4 => some power
  | 5 => some sqrt
  | 6 => some sin
  | 7 => some cos
  | 8 => some log
  | 9 => some modulo
  | _ => none

def name : Operator → Bytes
  | add => ascii "add"
  | subtract => ascii "subtract"
  | multiply => ascii "multiply"
  | divide => ascii "divide"
  | power => ascii "power"
  | sqrt => ascii "sqrt"
  | sin => ascii "sin"
  | cos => ascii "cos"
  | log => ascii "log"
  | modulo => ascii "modulo"

def nameOfNumber (n : Int) : Bytes :=
  ((ofNumber? n).map name).getD (ascii "unknown")

def ofNumber (n : Int) : Operator :=
  (ofNumber? n).getD add

-- The operator for the digit at a position: the digit before it, and addition where there is none.
def before (code : Code) (position : Int) : Operator :=
  match code.at? (position - 1) with
  | some d => if Text.isDigit d then ofNumber (Text.digitValue d) else add
  | none => add

-- The result of an operator on the second newest number `b` and the newest number `a`.
def apply (op : Operator) (b a : Float) : Float × Option Undefined :=
  match op with
  | add => (b + a, none)
  | subtract => (b - a, none)
  | multiply => (b * a, none)
  | divide => if a == 0 then (0, some .division) else (b / a, none)
  | power => (Float.pow b a, none)
  | sqrt => (Float.sqrt a, none)
  | sin => (Float.sin a, none)
  | cos => (Float.cos a, none)
  | log => if a ≤ 0 then (0, some .logarithm) else (Float.log a, none)
  | modulo => if a == 0 then (0, some .remainder) else (Decimal.Binary64.remainder b a, none)

end Operator

namespace Opcode

def resultName (position : Int) : Bytes :=
  ascii "result_" ++ Decimal.integer position

def shortageMessage (found : Nat) : Bytes :=
  Cause.insufficientOperands.message ++ ascii ": need 2 numeric variables, found "
    ++ Decimal.natural found

def calculate (env : Environment) (site : Site) (second newest : Variable) (m : Machine) :
    Machine × Bool :=
  let op := Operator.before env.code site.position
  let (result, undefined) :=
    op.apply (second.value.asFloat?.getD 0) (newest.value.asFloat?.getD 0)
  let m := match undefined with
    | some u => m.warn env site Category.math u.message
    | none => m
  let m := m.debug env Category.math
    (ascii "Math " ++ op.name ++ ascii ": " ++ second.name ++ ascii ", " ++ newest.name
      ++ ascii " -> " ++ Decimal.shortest result)
  m.append env site ⟨resultName site.position, .float result⟩

def math : Handler := fun env site m =>
  match m.state.store.lastOfKinds 2 [.int, .float] with
  | newest :: second :: _ =>
    let (m, ok) := calculate env site second newest m
    (m, .ok (.done ok))
  | found =>
    (m.warn env site Category.math (shortageMessage found.length), .ok (.done false))

end Opcode
end Denary
