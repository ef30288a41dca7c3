import Denary.Decimal.Binary64
import Denary.Decimal.Integer

-- Decimal forms of a double: with a fixed number of places, with a fixed number of digits and an
-- exponent, and with the fewest digits that still identify the double.

namespace Denary.Decimal

def roundDiv (num den : Nat) : Nat :=
  let q := num / den
  let twice := 2 * (num % den)
  if twice < den then q
  else if den < twice then q + 1
  else if q % 2 = 0 then q else q + 1

def infinity (negative : Bool) : Bytes :=
  if negative then ascii "-Inf" else ascii "+Inf"

def signed (negative : Bool) (t : Bytes) : Bytes :=
  if negative then 0x2D :: t else t

def padded : (width : Nat) → (n : Nat) → Bytes
  | 0, _ => []
  | width + 1, n => padded width (n / 10) ++ [Text.digit (n % 10)]

-- A double with a fixed number of places after the point, rounded half to even on its exact value.
-- The sign of a negative number stays even when the number rounds to zero.
def fixed (places : Nat) (x : Float) : Bytes :=
  match Binary64.ofFloat x with
  | .nan => ascii "NaN"
  | .infinite negative => infinity negative
  | .finite negative m e =>
    let (num, den) := Binary64.fraction m e
    let scaled := roundDiv (num * Nat.pow 10 places) den
    signed negative
      (natural (scaled / Nat.pow 10 places) ++ [0x2E] ++ padded places (scaled % Nat.pow 10 places))

-- Decimal digits with a place: `digits * 10 ^ exponent`, where `digits` has `count` digits.
structure Scientific where
  digits : Nat
  count : Nat
  exponent : Int
  deriving DecidableEq, Repr, Inhabited

namespace Scientific

def leading (s : Scientific) : Int :=
  s.exponent + s.count - 1

def text (s : Scientific) : Bytes :=
  padded s.count s.digits

end Scientific

def scaleDown (num den : Nat) (k : Int) : Nat × Nat :=
  if 0 ≤ k then (num, den * Nat.pow 10 k.toNat) else (num * Nat.pow 10 (-k).toNat, den)

-- The decimal exponent of the leading digit of `num / den`, for a positive fraction: the largest
-- `k` with `10 ^ k ≤ num / den`. The estimate from the number of binary digits is never more than
-- one away.
def leadingPlace (num den : Nat) : Int :=
  let bits : Int := (num.log2 : Int) - den.log2
  let guess := (bits * 30103).fdiv 100000
  let reaches (k : Int) : Bool := let (n, d) := scaleDown num den k; d ≤ n
  if reaches (guess + 1) then guess + 1
  else if reaches guess then guess
  else guess - 1

def roundTo (count : Nat) (num den : Nat) : Scientific :=
  let place := leadingPlace num den - (count - 1 : Nat)
  let (n, d) := scaleDown num den place
  let r := roundDiv n d
  if r = Nat.pow 10 count then ⟨Nat.pow 10 (count - 1), count, place + 1⟩ else ⟨r, count, place⟩

def exponentPart (e : Int) : Bytes :=
  [0x65, if e < 0 then 0x2D else 0x2B]
    ++ (if e.natAbs < 10 then padded 2 e.natAbs else natural e.natAbs)

def pointed : Bytes → Bytes
  | [] => []
  | [d] => [d]
  | d :: ds => d :: 0x2E :: ds

def scientific (places : Nat) (x : Float) : Bytes :=
  match Binary64.ofFloat x with
  | .nan => ascii "NaN"
  | .infinite negative => infinity negative
  | .finite negative m e =>
    if m = 0 then signed negative (pointed (padded (places + 1) 0) ++ exponentPart 0)
    else
      let (num, den) := Binary64.fraction m e
      let s := roundTo (places + 1) num den
      signed negative (pointed s.text ++ exponentPart s.leading)

-- The interval of numbers that are nearest to the double `mantissa * 2 ^ exponent`, as the
-- numerators of its two ends and of the double itself over one denominator. Below a power of two
-- the neighbour is only half as far away.
def interval (mantissa : Nat) (exponent : Int) : (Nat × Nat × Nat) × Nat :=
  let (num, den) := Binary64.fraction 1 exponent
  let narrow := mantissa = 0x10000000000000 && -1074 < exponent
  ((num * (4 * mantissa - (if narrow then 1 else 2)), num * (4 * mantissa),
    num * (4 * mantissa + 2)), 4 * den)

-- The decimal of `count` digits nearest to a double, if one of that length lies in the double's
-- interval. The ends belong to the interval when the mantissa is even.
def nearestWithin? (mantissa : Nat) (exponent : Int) (count : Nat) : Option Scientific :=
  let ((low, mid, high), den) := interval mantissa exponent
  let place := leadingPlace mid den - (count - 1 : Nat)
  let inside (r : Nat) : Bool :=
    let (n, d) :=
      if 0 ≤ place then (r * Nat.pow 10 place.toNat, 1) else (r, Nat.pow 10 (-place).toNat)
    let x := n * den
    if mantissa % 2 = 0 then low * d ≤ x && x ≤ high * d else low * d < x && x < high * d
  let (n, d) := scaleDown mid den place
  let below := n / d
  let nearest := roundDiv n d
  let other := if nearest = below then below + 1 else below
  let found (r : Nat) : Scientific :=
    if r = Nat.pow 10 count then ⟨Nat.pow 10 (count - 1), count, place + 1⟩ else ⟨r, count, place⟩
  if inside nearest then some (found nearest)
  else if inside other then some (found other)
  else none

def dropZeros : (fuel : Nat) → Scientific → Scientific
  | 0, s => s
  | fuel + 1, s =>
    if 1 < s.count ∧ s.digits % 10 = 0 then
      dropZeros fuel ⟨s.digits / 10, s.count - 1, s.exponent + 1⟩
    else s

-- The decimal with the fewest digits that lies nearer to the double than to any other, and of those
-- the nearest one. Seventeen digits always suffice.
def shortestDigits (mantissa : Nat) (exponent : Int) : Scientific :=
  let s := ((List.range 17).findSome? fun i => nearestWithin? mantissa exponent (i + 1)).getD
    (let (num, den) := Binary64.fraction mantissa exponent; roundTo 17 num den)
  dropZeros s.count s

def positional (s : Scientific) : Bytes :=
  if 0 ≤ s.exponent then s.text ++ Text.ruler s.exponent.toNat 0x30
  else
    let places := (-s.exponent).toNat
    if places < s.count then
      s.text.take (s.count - places) ++ [0x2E] ++ s.text.drop (s.count - places)
    else [0x30, 0x2E] ++ Text.ruler (places - s.count) 0x30 ++ s.text

-- A double with the fewest digits, with an exponent when its leading digit stands before the fourth
-- place after the point or at a million and above.
def shortest (x : Float) : Bytes :=
  match Binary64.ofFloat x with
  | .nan => ascii "NaN"
  | .infinite negative => infinity negative
  | .finite negative m e =>
    if m = 0 then signed negative [0x30]
    else
      let s := shortestDigits m e
      signed negative
        (if s.leading < -4 || 6 ≤ s.leading then pointed s.text ++ exponentPart s.leading
         else positional s)

end Denary.Decimal
