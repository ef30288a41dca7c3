import Denary.Text.Bytes

namespace Denary.Yaml

-- A character that ends a line: line feed, carriage return, next line, and the two separators of
-- Unicode.
def isBreak (c : Char) : Bool :=
  let n := c.toNat
  n = 10 || n = 13 || n = 0x85 || n = 0x2028 || n = 0x2029

def isBlank (c : Char) : Bool :=
  c = ' ' || c = '\t'

def orderMark : Char := Char.ofNat 0xFEFF

def isBlankOrEnd : Option Char → Bool
  | none => true
  | some c => isBlank c || isBreak c

def isBreakOrEnd : Option Char → Bool
  | none => true
  | some c => isBreak c

-- The characters that are written without an escape. The byte order mark and everything beyond the
-- basic plane are escaped.
def isPrintable (c : Char) : Bool :=
  let n := c.toNat
  n = 10 || (0x20 ≤ n && n ≤ 0x7E) || (0xA0 ≤ n && n ≤ 0xD7FF)
    || (0xE000 ≤ n && n ≤ 0xFFFD && n != 0xFEFF)

def hexDigit? (c : Char) : Option Nat :=
  if '0' ≤ c ∧ c ≤ '9' then some (c.toNat - 48)
  else if 'a' ≤ c ∧ c ≤ 'f' then some (c.toNat - 87)
  else if 'A' ≤ c ∧ c ≤ 'F' then some (c.toNat - 55)
  else none

end Denary.Yaml
