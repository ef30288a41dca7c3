import Denary.Yaml.Source

-- Tags and directives of a YAML text as they are read. A tag is a handle and a suffix, and a
-- directive in front of a document says what a handle stands for. In a tag any byte can be written
-- as a percent sign and two digits.

namespace Denary.Yaml

def isWord (c : Char) : Bool :=
  c.isAlphanum || c = '_' || c = '-'

def isTagChar (c : Char) : Bool :=
  isWord c || ";/?:@&=+$,.!~*'()[]".toList.contains c

def octet? (p : Place) : Option UInt8 :=
  match p.rest with
  | '%' :: a :: b :: _ => do
    let x ← hexDigit? a
    let y ← hexDigit? b
    return (x * 16 + y).toUInt8
  | _ => none

-- Reads the bytes of one character, each written by digits. Of a character that has begun, `left`
-- more bytes are to come.
def readOctets (start : Mark) :
    (fuel : Nat) → (left : Option Nat) → Bytes → Place → Except Problem (Bytes × Place)
  | 0, _, t, p => .ok (t, p)
  | fuel + 1, left, t, p => do
    let p ← p.need 3
    match octet? p, left with
    | none, _ => throw (p.problem start "did not find URI escaped octet")
    | some b, none =>
      let n := sequenceLength b
      if n = 0 then throw (p.problem start "found an incorrect leading UTF-8 octet")
      else if n = 1 then return (b :: t, p.skip 3)
      else readOctets start fuel (some (n - 1)) (b :: t) (p.skip 3)
    | some b, some n =>
      if !Text.Piece.isTail b then
        throw (p.problem start "found an incorrect trailing UTF-8 octet")
      else if n = 1 then return (b :: t, p.skip 3)
      else readOctets start fuel (some (n - 1)) (b :: t) (p.skip 3)

def longestSequence : Nat := 4

def readTagChars (start : Mark) :
    (fuel : Nat) → Bytes → Place → Except Problem (Bytes × Place)
  | 0, t, p => .ok (t.reverse, p)
  | fuel + 1, t, p => do
    let p ← p.need 1
    match p.peek 0 with
    | none => return (t.reverse, p)
    | some c =>
      if c = '%' then
        let (t, p) ← readOctets start longestSequence none t p
        readTagChars start fuel t p
      else if isTagChar c then readTagChars start fuel (c.toNat.toUInt8 :: t) p.advance
      else return (t.reverse, p)

def readUri (start : Mark) (p : Place) : Except Problem (Bytes × Place) := do
  let (t, p) ← readTagChars start p.limit [] p
  if t = [] then throw (p.problem start "did not find expected tag URI")
  return (t, p)

-- What a tag or a directive starts with: an exclamation mark and a word, and whether a second mark
-- closed them to a handle.
def readHandle (start : Mark) (p : Place) : Except Problem (Bytes × Bool × Place) := do
  let p ← p.need 1
  if p.peek 0 ≠ some '!' then throw (p.problem start "did not find expected '!'")
  let (word, p) ← p.advance.span isWord
  let opening := Text.encode ('!' :: word)
  if p.peek 0 = some '!' then return (opening ++ ascii "!", true, p.advance)
  return (opening, false, p)

-- A tag ahead: handle, suffix and the place behind it. A tag in angle brackets has no handle, and
-- neither has a lone exclamation mark, which is its own suffix.
def readTag (p : Place) : Except Problem (Bytes × Bytes × Place) := do
  let start := p.mark
  let p ← p.need 2
  let (handle, suffix, p) ←
    if p.peek 1 = some '<' then do
      let (uri, p) ← readUri start (p.skip 2)
      if p.peek 0 ≠ some '>' then throw (p.problem start "did not find the expected '>'")
      pure ([], uri, p.advance)
    else do
      let (handle, closed, p) ← readHandle start p
      if closed then
        let (suffix, p) ← readUri start p
        pure (handle, suffix, p)
      else
        let (rest, p) ← readTagChars start p.limit [] p
        let suffix := handle.drop 1 ++ rest
        pure (if suffix = [] then ([], ascii "!", p) else (ascii "!", suffix, p))
  let p ← p.need 1
  if !isBlankOrEnd (p.peek 0) then
    throw (p.problem start "did not find expected whitespace or line break")
  return (handle, suffix, p)

inductive Directive where
  | version (major minor : Nat)
  | tag (handle uri : Bytes)
  deriving DecidableEq, Repr, Inhabited

def longestVersionNumber : Nat := 2

def readVersionNumber (start : Mark) :
    (fuel : Nat) → (digits : List Char) → Place → Except Problem (Nat × Place)
  | 0, digits, p => .ok (Decimal.valueOf (Text.encode digits), p)
  | fuel + 1, digits, p => do
    let p ← p.need 1
    match p.peek 0 with
    | some c =>
      if !c.isDigit then finish digits p
      else if longestVersionNumber ≤ digits.length then
        throw (p.problem start "found extremely long version number")
      else readVersionNumber start fuel (digits ++ [c]) p.advance
    | none => finish digits p
where
  finish (digits : List Char) (p : Place) : Except Problem (Nat × Place) :=
    if digits = [] then .error (p.problem start "did not find expected version number")
    else .ok (Decimal.valueOf (Text.encode digits), p)

def readVersion (start : Mark) (p : Place) : Except Problem (Directive × Place) := do
  let p ← p.skipWhile isBlank
  let (major, p) ← readVersionNumber start (longestVersionNumber + 1) [] p
  if p.peek 0 ≠ some '.' then
    throw (p.problem start "did not find expected digit or '.' character")
  let (minor, p) ← readVersionNumber start (longestVersionNumber + 1) [] p.advance
  return (.version major minor, p)

def readTagDirective (start : Mark) (p : Place) : Except Problem (Directive × Place) := do
  let p ← p.skipWhile isBlank
  let (handle, closed, p) ← readHandle start p
  if !closed && handle ≠ ascii "!" then throw (p.problem start "did not find expected '!'")
  let p ← p.need 1
  if !(p.peek 0).any isBlank then throw (p.problem start "did not find expected whitespace")
  let p ← p.skipWhile isBlank
  let (uri, p) ← readUri start p
  let p ← p.need 1
  if !isBlankOrEnd (p.peek 0) then
    throw (p.problem start "did not find expected whitespace or line break")
  return (.tag handle uri, p)

-- A directive ahead: what it says, the place behind that, and the place behind its line.
def readDirective (p : Place) : Except Problem (Directive × Mark × Place) := do
  let start := p.mark
  let (name, p) ← p.advance.span isWord
  if name = [] then throw (p.problem start "could not find expected directive name")
  if !isBlankOrEnd (p.peek 0) then
    throw (p.problem start "found unexpected non-alphabetical character")
  let (directive, p) ←
    if name = "YAML".toList then readVersion start p
    else if name = "TAG".toList then readTagDirective start p
    else throw (p.problem start "found unknown directive name")
  let stop := p.mark
  let p ← p.skipWhile isBlank
  let p ← if p.peek 0 = some '#' then p.skipWhile fun c => !isBreak c else pure p
  if !isBreakOrEnd (p.peek 0) then
    throw (p.problem start "did not find expected comment or line break")
  return (directive, stop, ← p.passLineEnd)

end Denary.Yaml
