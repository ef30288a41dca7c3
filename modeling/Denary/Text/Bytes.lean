-- Texts are byte strings. Input and variable contents may hold any bytes, so nothing here assumes
-- that a text is well-formed in some encoding.

namespace Denary

abbrev Bytes := List UInt8

def ascii (s : String) : Bytes :=
  s.toList.map fun c => c.toNat.toUInt8

namespace Text

def newline : UInt8 := 10

def carriageReturn : UInt8 := 13

def space : UInt8 := 32

def line (t : Bytes) : Bytes :=
  t ++ [newline]

def ruler (n : Nat) (b : UInt8) : Bytes :=
  List.replicate n b

def isDigit (b : UInt8) : Bool :=
  48 ≤ b && b ≤ 57

def digitValue (b : UInt8) : Nat :=
  b.toNat - 48

def digit (n : Nat) : UInt8 :=
  (48 + n).toUInt8

def hexDigit (upper : Bool) (n : Nat) : UInt8 :=
  if n < 10 then digit n else ((if upper then 55 else 87) + n).toUInt8

def hex (upper : Bool) : (width : Nat) → (n : Nat) → Bytes
  | 0, _ => []
  | width + 1, n => hex upper width (n / 16) ++ [hexDigit upper (n % 16)]

def joined (separator : Bytes) (parts : List Bytes) : Bytes :=
  List.intercalate separator parts

def trimEnd (p : UInt8 → Bool) (t : Bytes) : Bytes :=
  (t.reverse.dropWhile p).reverse

def ofBool (b : Bool) : Bytes :=
  if b then ascii "true" else ascii "false"

theorem hex_length (upper : Bool) (width n : Nat) : (hex upper width n).length = width := by
  induction width generalizing n with
  | zero => rfl
  | succ width ih => simp [hex, ih]

end Text
end Denary
