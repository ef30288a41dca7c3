import Denary.Text.Piece

-- Texts as JSON strings: the quote, the backslash and control characters are escaped, and so are the
-- two line separators of Unicode. A stray byte becomes the replacement character, written in UTF-8 as
-- all other characters are and not as an escape.

namespace Denary.Text

-- A character inside a JSON string. Of the control characters only the tab, the line feed and the
-- carriage return have a short escape; the others are escaped by their number.
def jsonChar (c : Char) : Bytes :=
  let n := c.toNat
  if n = 0x22 || n = 0x5C then [0x5C, n.toUInt8]
  else if n = 9 then ascii "\\t"
  else if n = 10 then ascii "\\n"
  else if n = 13 then ascii "\\r"
  else if n < 0x20 || n = 0x2028 || n = 0x2029 then ascii "\\u" ++ hex false 4 n
  else encodeChar c

def json (t : Bytes) : Bytes :=
  [0x22] ++ (chars t).flatMap jsonChar ++ [0x22]

end Denary.Text
