import Denary.Text.Piece
import Denary.Yaml.Chars

-- From bytes to characters. A text is in UTF-8, or in UTF-16 if it starts with the byte order mark
-- of that encoding. It is decoded in stretches, one buffer of bytes at a time, so what is wrong
-- with a stretch is not known before the stretch is needed.

namespace Denary.Yaml

inductive Encoding where
  | utf8
  | utf16 (bigEndian : Bool)
  deriving DecidableEq, Repr, Inhabited

inductive Decoded where
  | char (c : Char) (rest : Bytes)
  -- a character that goes on behind the bytes; `problem` is what is wrong if nothing follows
  | cut (problem : String)
  | wrong (problem : String)

-- The number of bytes of the UTF-8 sequence that a first byte announces; zero if it starts none.
def sequenceLength (b : UInt8) : Nat :=
  if b < 0x80 then 1
  else if 0xC0 ≤ b ∧ b < 0xE0 then 2
  else if 0xE0 ≤ b ∧ b < 0xF0 then 3
  else if 0xF0 ≤ b ∧ b < 0xF8 then 4
  else 0

def sequenceProblem (a : UInt8) (tail : Bytes) : String :=
  if tail.any (fun b => !Text.Piece.isTail b) then "invalid trailing UTF-8 octet"
  else if a = 0xC0 ∨ a = 0xC1 ∨ (a = 0xE0 ∧ tail.head?.getD 0 < 0xA0)
      ∨ (a = 0xF0 ∧ tail.head?.getD 0 < 0x90) then
    "invalid length of a UTF-8 sequence"
  else "invalid Unicode character"

def decodeUtf8 : Bytes → Decoded
  | [] => .cut "incomplete UTF-8 octet sequence"
  | a :: rest =>
    let n := sequenceLength a
    let tail := rest.take (n - 1)
    if n = 0 then .wrong "invalid leading UTF-8 octet"
    else if tail.length < n - 1 then .cut "incomplete UTF-8 octet sequence"
    else match Text.Piece.read a rest with
      | (.char c, rest) => .char c rest
      | (.stray _, _) => .wrong (sequenceProblem a tail)

def unitOf (bigEndian : Bool) (a b : UInt8) : Nat :=
  if bigEndian then a.toNat * 256 + b.toNat else b.toNat * 256 + a.toNat

def isHighSurrogate (n : Nat) : Bool :=
  0xD800 ≤ n && n ≤ 0xDBFF

def isLowSurrogate (n : Nat) : Bool :=
  0xDC00 ≤ n && n ≤ 0xDFFF

def decodeUtf16 (bigEndian : Bool) : Bytes → Decoded
  | a :: b :: rest =>
    let u := unitOf bigEndian a b
    if isLowSurrogate u then .wrong "unexpected low surrogate area"
    else if isHighSurrogate u then
      match rest with
      | c :: d :: rest =>
        let v := unitOf bigEndian c d
        if isLowSurrogate v then
          .char (Char.ofNat (0x10000 + (u - 0xD800) * 0x400 + (v - 0xDC00))) rest
        else .wrong "expected low surrogate area"
      | _ => .cut "incomplete UTF-16 surrogate pair"
    else .char (Char.ofNat u) rest
  | _ => .cut "incomplete UTF-16 character"

def Encoding.decode : Encoding → Bytes → Decoded
  | utf8 => decodeUtf8
  | utf16 bigEndian => decodeUtf16 bigEndian

def isAllowed (c : Char) : Bool :=
  let n := c.toNat
  n = 9 || n = 10 || n = 13 || (0x20 ≤ n && n ≤ 0x7E) || n = 0x85 || (0xA0 ≤ n && n ≤ 0xD7FF)
    || (0xE000 ≤ n && n ≤ 0xFFFD) || 0x10000 ≤ n

structure Stretch where
  chars : List Char
  problem : Option String
  deriving Repr, Inhabited

-- Decodes a buffer as far as it goes. What is left over are the bytes of a cut character.
def decodeBuffer (e : Encoding) : (fuel : Nat) → (before : List Char) → Bytes → Stretch × Bytes
  | 0, before, t => (⟨before.reverse, none⟩, t)
  | fuel + 1, before, t =>
    if t = [] then (⟨before.reverse, none⟩, [])
    else match e.decode t with
      | .char c rest =>
        if isAllowed c then decodeBuffer e fuel (c :: before) rest
        else (⟨before.reverse, some "control characters are not allowed"⟩, [])
      | .cut _ => (⟨before.reverse, none⟩, t)
      | .wrong problem => (⟨before.reverse, some problem⟩, [])

def bufferSize : Nat := 512

-- The stretches of a text; `kept` is what is left over from the buffer before.
def stretches (e : Encoding) : (fuel : Nat) → (room : Nat) → (kept : Bytes) → Bytes → List Stretch
  | 0, _, _, _ => []
  | fuel + 1, room, kept, t =>
    if t = [] then
      match kept, e.decode kept with
      | _ :: _, .cut problem => [⟨[], some problem⟩]
      | _, _ => []
    else
      match decodeBuffer e bufferSize [] (kept ++ t.take room) with
      | (⟨cs, some problem⟩, _) => [⟨cs, some problem⟩]
      | (s, kept) => s :: stretches e fuel (bufferSize - kept.length) kept (t.drop room)

def decodeText (t : Bytes) : List Stretch :=
  let behind (e : Encoding) (mark : Nat) : List Stretch :=
    stretches e (t.length + 1) (bufferSize - mark) [] (t.drop mark)
  match t with
  | 0xFF :: 0xFE :: _ => behind (.utf16 false) 2
  | 0xFE :: 0xFF :: _ => behind (.utf16 true) 2
  | 0xEF :: 0xBB :: 0xBF :: _ => behind .utf8 3
  | _ => behind .utf8 0

end Denary.Yaml
