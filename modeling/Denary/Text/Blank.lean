import Denary.Text.Piece

-- White space: the characters that may surround a number that is typed in.

namespace Denary.Text

def isBlank (c : Char) : Bool :=
  let n := c.toNat
  (9 ≤ n && n ≤ 13) || n = 32 || n = 0x85 || n = 0xA0 || n = 0x1680
    || (0x2000 ≤ n && n ≤ 0x200A) || n = 0x2028 || n = 0x2029 || n = 0x202F || n = 0x205F
    || n = 0x3000

def Piece.isBlank : Piece → Bool
  | .char c => Text.isBlank c
  | .stray _ => false

def trim (t : Bytes) : Bytes :=
  let inner := (((pieces t).dropWhile Piece.isBlank).reverse.dropWhile Piece.isBlank).reverse
  inner.flatMap Piece.bytes

end Denary.Text
