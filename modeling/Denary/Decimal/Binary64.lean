-- The exact value of a double: a sign, and a natural number times a power of two. All decimal
-- formats and the exact remainder work on this form, with natural numbers only.

namespace Denary.Decimal

-- What a double stands for: `(-1)^negative * mantissa * 2^exponent`, or no number.
inductive Binary64 where
  | finite (negative : Bool) (mantissa : Nat) (exponent : Int)
  | infinite (negative : Bool)
  | nan
  deriving DecidableEq, Repr, Inhabited

namespace Binary64

def ofBits (bits : UInt64) : Binary64 :=
  let negative := bits.toNat / 0x8000000000000000 = 1
  let field : Nat := bits.toNat / 0x10000000000000 % 0x800
  let fraction : Nat := bits.toNat % 0x10000000000000
  if field = 2047 then if fraction = 0 then infinite negative else nan
  else if field = 0 then finite negative fraction (-1074)
  else finite negative (fraction + 0x10000000000000) ((field : Int) - 1075)

def ofFloat (x : Float) : Binary64 :=
  ofBits x.toBits

def bitsOf (negative : Bool) (mantissa : Nat) (exponent : Int) : UInt64 :=
  let sign := if negative then 0x8000000000000000 else 0
  if mantissa = 0 then sign.toUInt64
  else
    -- bring the leading bit to place 52, or the exponent down to the least one
    let lead : Int := mantissa.log2
    let shift := max (lead - 52) (-1074 - exponent)
    let m :=
      if 0 ≤ shift then mantissa / Nat.pow 2 shift.toNat
      else mantissa * Nat.pow 2 (-shift).toNat
    let e := exponent + shift
    if m < 0x10000000000000 then (sign + m).toUInt64
    else (sign + (e + 1075).toNat * 0x10000000000000 + (m - 0x10000000000000)).toUInt64

def toFloat (negative : Bool) (mantissa : Nat) (exponent : Int) : Float :=
  Float.ofBits (bitsOf negative mantissa exponent)

def notANumber : Float :=
  Float.ofBits 0x7FF8000000000000

-- The remainder of `x` by `y`, exact and with the sign of `x`. It is not a number when `x` is
-- infinite or `y` is zero, and `x` itself when `y` is infinite.
def remainder (x y : Float) : Float :=
  match ofFloat x, ofFloat y with
  | finite negative m e, finite _ n f =>
    if n = 0 then notANumber
    else
      let low := min e f
      toFloat negative (m * Nat.pow 2 (e - low).toNat % (n * Nat.pow 2 (f - low).toNat)) low
  | finite _ _ _, infinite _ => x
  | _, _ => notANumber

def fraction (mantissa : Nat) (exponent : Int) : Nat × Nat :=
  if 0 ≤ exponent then (mantissa * Nat.pow 2 exponent.toNat, 1)
  else (mantissa, Nat.pow 2 (-exponent).toNat)

end Binary64
end Denary.Decimal
