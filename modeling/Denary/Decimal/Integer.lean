import Denary.Text.Bytes

-- Whole numbers in decimal: written with a minus sign where needed and no leading zeros, and read
-- from an optional sign and one or more digits.

namespace Denary.Decimal

def natural (n : Nat) : Bytes :=
  if n < 10 then [Text.digit n] else natural (n / 10) ++ [Text.digit (n % 10)]

def integer (n : Int) : Bytes :=
  if n < 0 then 0x2D :: natural n.natAbs else natural n.natAbs

def int64 (n : Int64) : Bytes :=
  integer n.toInt

def valueOf (digits : Bytes) : Nat :=
  digits.foldl (fun n d => n * 10 + Text.digitValue d) 0

def natural? (t : Bytes) : Option Nat :=
  if t ≠ [] ∧ t.all Text.isDigit then some (valueOf t) else none

def integer? : Bytes → Option Int
  | 0x2D :: t => (natural? t).map fun n => -(n : Int)
  | 0x2B :: t => (natural? t).map fun n => (n : Int)
  | t => (natural? t).map fun n => (n : Int)

def fits64 (n : Int) : Bool :=
  -0x8000000000000000 ≤ n && n < 0x8000000000000000

def int64? (t : Bytes) : Option Int64 :=
  match integer? t with
  | some n => if fits64 n then some (Int64.ofInt n) else none
  | none => none

end Denary.Decimal
