import Denary.Decimal.Rounding

-- Values and their kinds. The number of a kind is the digit that makes a variable of that kind.

namespace Denary

inductive Kind where
  | int
  | text
  | bool
  | float
  | array
  deriving DecidableEq, Repr, Inhabited

namespace Kind

def tag : Kind → Nat
  | int => 3
  | text => 4
  | bool => 5
  | float => 6
  | array => 7

def ofTag? (n : Int) : Option Kind :=
  match n with
  | 3 => some int
  | 4 => some text
  | 5 => some bool
  | 6 => some float
  | 7 => some array
  | _ => none

def ofDigit? (b : UInt8) : Option Kind :=
  if 0x33 ≤ b && b ≤ 0x37 then ofTag? (Text.digitValue b) else none

def name : Kind → Bytes
  | int => ascii "int"
  | text => ascii "string"
  | bool => ascii "bool"
  | float => ascii "float"
  | array => ascii "array"

def nameOfTag (n : Int) : Bytes :=
  ((ofTag? n).map name).getD (ascii "unknown")

@[simp]
theorem ofTag?_tag (k : Kind) : ofTag? k.tag = some k := by
  cases k <;> rfl

end Kind

inductive Value where
  | int (n : Int64)
  | text (t : Bytes)
  | bool (b : Bool)
  | float (x : Float)
  | array (items : List Int64)
  deriving Inhabited

namespace Value

def maxTextLength : Nat := 1000

def maxArraySize : Nat := 100

def kind : Value → Kind
  | int _ => .int
  | text _ => .text
  | bool _ => .bool
  | float _ => .float
  | array _ => .array

-- A value as it is shown: numbers in decimal, floats with two places, texts as they are.
def render : Value → Bytes
  | int n => Decimal.int64 n
  | text t => t
  | bool b => Text.ofBool b
  | float x => Decimal.fixed 2 x
  | array items => [0x5B] ++ Text.joined (ascii ", ") (items.map Decimal.int64) ++ [0x5D]

def asFloat? : Value → Option Float
  | int n => some n.toFloat
  | float x => some x
  | _ => none

def isNumeric (v : Value) : Bool :=
  v.asFloat?.isSome

def ofText? (t : Bytes) : Option Value :=
  if t.length ≤ maxTextLength then some (text t) else none

def ofItems? (items : List Int64) : Option Value :=
  if items.length ≤ maxArraySize then some (array items) else none

def pushItem? (items : List Int64) (n : Int64) : Option (List Int64) :=
  if items.length < maxArraySize then some (items ++ [n]) else none

end Value

structure Variable where
  name : Bytes
  value : Value
  deriving Inhabited

namespace Variable

def kind (v : Variable) : Kind :=
  v.value.kind

def render (v : Variable) : Bytes :=
  v.name ++ ascii " (" ++ v.kind.name ++ ascii ") = " ++ v.value.render

def createdName (tag : Int) (position : Int) : Bytes :=
  ascii "var_" ++ Decimal.integer tag ++ ascii "_" ++ Decimal.integer position

end Variable
end Denary
