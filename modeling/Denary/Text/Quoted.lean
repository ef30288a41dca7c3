import Denary.Text.Piece
import Denary.Text.Printable

-- Quoted texts: printable characters are kept, the quote and the backslash are preceded by a
-- backslash, and everything else is written as an escape. A stray byte is written as its two
-- hexadecimal digits, so a quoted text can be read back byte for byte.

namespace Denary.Text

def backslash : UInt8 := 0x5C

def letterEscape? (n : Nat) : Option UInt8 :=
  match n with
  | 7 => some 0x61
  | 8 => some 0x62
  | 9 => some 0x74
  | 10 => some 0x6E
  | 11 => some 0x76
  | 12 => some 0x66
  | 13 => some 0x72
  | _ => none

def quotedChar (quote : UInt8) (c : Char) : Bytes :=
  let n := c.toNat
  if n = quote.toNat || n = backslash.toNat then [backslash, n.toUInt8]
  else if isPrintable c then encodeChar c
  else match letterEscape? n with
    | some l => [backslash, l]
    | none =>
      if n < 0x20 || n = 0x7F then [backslash, 0x78] ++ hex false 2 n
      else if n < 0x10000 then [backslash, 0x75] ++ hex false 4 n
      else [backslash, 0x55] ++ hex false 8 n

def Piece.quoted (quote : UInt8) : Piece → Bytes
  | .char c => quotedChar quote c
  | .stray b => [backslash, 0x78] ++ hex false 2 b.toNat

def quoted (t : Bytes) : Bytes :=
  [0x22] ++ (pieces t).flatMap (Piece.quoted 0x22) ++ [0x22]

def quotedByte (b : UInt8) : Bytes :=
  [0x27] ++ quotedChar 0x27 (Char.ofNat b.toNat) ++ [0x27]

end Denary.Text
