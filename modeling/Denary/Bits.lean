import Denary.Text.Bytes

-- Text as binary digits: eight digits per byte, the highest bit first. Reading back keeps the
-- printable ASCII characters, turns a zero byte into a blank and drops everything else.

namespace Denary.Bits

def one : UInt8 := 0x31

def zero : UInt8 := 0x30

-- The number that digits stand for in base two; every digit but one counts as zero.
def valueOf (digits : Bytes) : Nat :=
  digits.foldl (fun n d => 2 * n + if d = one then 1 else 0) 0

def shown (n : Nat) : Bytes :=
  if 32 ≤ n ∧ n ≤ 126 then [n.toUInt8]
  else if n = 0 then [Text.space]
  else []

-- The text of a run of binary digits. A group of less than eight at the end is dropped.
def decode : Bytes → Bytes
  | a :: b :: c :: d :: e :: f :: g :: h :: rest =>
    shown (valueOf [a, b, c, d, e, f, g, h]) ++ decode rest
  | _ => []

def digits : (width : Nat) → (n : Nat) → Bytes
  | 0, _ => []
  | width + 1, n => digits width (n / 2) ++ [if n % 2 = 1 then one else zero]

def encode (t : Bytes) : Bytes :=
  t.flatMap fun b => digits 8 b.toNat

end Denary.Bits
