import Denary.Text.Piece
import Denary.Yaml.Chars
import Denary.Yaml.Plain

-- Texts as YAML scalars. A text is written plainly where that is safe, as a literal block where it
-- has several lines, and in single or double quotes otherwise. Bytes that are no text are written
-- in base 64.

namespace Denary.Yaml

structure Features where
  indicators : Bool
  breaks : Bool
  special : Bool
  tabs : Bool
  leadingSpace : Bool
  leadingBreak : Bool
  trailingSpace : Bool
  trailingBreak : Bool
  breakSpace : Bool
  spaceBreak : Bool

def anyNeighbours (p : Char → Char → Bool) : List Char → Bool
  | a :: b :: rest => p a b || anyNeighbours p (b :: rest)
  | _ => false

def startIndicator : List Char → Bool
  | [] => false
  | c :: rest =>
    let end' := match rest.head? with
      | none => true
      | some d => isBlank d
    if "#,[]\x7b\x7d&*!|>'\"%@`".toList.contains c then true
    else if c = '?' || c = ':' || c = '-' then end'
    else false

def innerIndicator : List Char → Bool
  | [] => false
  | _ :: rest =>
    (rest.getLast? = some ':')
      || anyNeighbours (fun a b => a = ':' && isBlank b) rest

def commentIndicator (cs : List Char) : Bool :=
  anyNeighbours (fun a b => (isBlank a || isBreak a || a.toNat = 0) && b = '#') cs

def documentIndicator : List Char → Bool
  | a :: b :: c :: _ => (a = '-' && b = '-' && c = '-') || (a = '.' && b = '.' && c = '.')
  | _ => false

def features (cs : List Char) : Features where
  indicators := documentIndicator cs || startIndicator cs || innerIndicator cs
    || commentIndicator cs
  breaks := cs.any isBreak
  special := cs.any fun c => c ≠ '\t' && !isPrintable c
  tabs := cs.contains '\t'
  leadingSpace := cs.head? = some ' '
  leadingBreak := match cs.head? with
    | some c => isBreak c
    | none => false
  trailingSpace := cs.getLast? = some ' '
  trailingBreak := match cs.getLast? with
    | some c => isBreak c
    | none => false
  breakSpace := anyNeighbours (fun a b => isBreak a && b = ' ') cs
  spaceBreak := anyNeighbours (fun a b => a = ' ' && isBreak b) cs

namespace Features

def plainAllowed (f : Features) : Bool :=
  !(f.leadingSpace || f.leadingBreak || f.trailingSpace || f.trailingBreak || f.breakSpace
    || f.spaceBreak || f.tabs || f.special || f.breaks || f.indicators)

def singleAllowed (f : Features) : Bool :=
  !(f.breakSpace || f.spaceBreak || f.tabs || f.special)

def blockAllowed (f : Features) : Bool :=
  !(f.trailingSpace || f.spaceBreak || f.special)

end Features

inductive Style where
  | plain
  | single
  | double
  | literal
  deriving DecidableEq, Repr, Inhabited

def styleOf (plainWanted : Bool) (cs : List Char) : Style :=
  let f := features cs
  if cs.contains '\n' then if f.blockAllowed then .literal else .double
  else if plainWanted then
    if cs = [] || f.plainAllowed then .plain
    else if f.singleAllowed then .single
    else .double
  else .double

def letterEscape? (n : Nat) : Option UInt8 :=
  match n with
  | 0x00 => some 0x30
  | 0x07 => some 0x61
  | 0x08 => some 0x62
  | 0x09 => some 0x74
  | 0x0A => some 0x6E
  | 0x0B => some 0x76
  | 0x0C => some 0x66
  | 0x0D => some 0x72
  | 0x1B => some 0x65
  | 0x22 => some 0x22
  | 0x5C => some 0x5C
  | 0x85 => some 0x4E
  | 0xA0 => some 0x5F
  | 0x2028 => some 0x4C
  | 0x2029 => some 0x50
  | _ => none

def escapeOf (c : Char) : Bytes :=
  let n := c.toNat
  0x5C :: match letterEscape? n with
    | some l => [l]
    | none =>
      if n ≤ 0xFF then 0x78 :: Text.hex true 2 n
      else if n ≤ 0xFFFF then 0x75 :: Text.hex true 4 n
      else 0x55 :: Text.hex true 8 n

def doubleChar (c : Char) : Bytes :=
  if isPrintable c && !isBreak c && c ≠ '"' && c ≠ '\\' then Text.encodeChar c
  else escapeOf c

def startsWithOrderMark (cs : List Char) : Bool :=
  cs.head? = some orderMark

-- A text in double quotes. Behind a byte order mark nothing is left without an escape.
def double (cs : List Char) : Bytes :=
  let ofChar := if startsWithOrderMark cs then escapeOf else doubleChar
  [0x22] ++ cs.flatMap ofChar ++ [0x22]

-- Lines below each other: a character after a line end is indented. `fresh` says that nothing has
-- ended the line of the mark before the text.
def indented (indent : Nat) (ofChar : Char → Bytes) : (afterBreak fresh : Bool) → List Char → Bytes
  | _, _, [] => []
  | afterBreak, fresh, c :: cs =>
    if isBreak c then Text.encodeChar c ++ indented indent ofChar true false cs
    else
      (if afterBreak then
        (if fresh then [Text.newline] else []) ++ Text.ruler indent Text.space
       else [])
      ++ ofChar c ++ indented indent ofChar false false cs

def singleChar (c : Char) : Bytes :=
  if c = '\'' then [0x27, 0x27] else Text.encodeChar c

def single (indent : Nat) (cs : List Char) : Bytes :=
  [0x27] ++ indented indent singleChar false false cs ++ [0x27]

-- The mark in front of a literal block: an indentation where the text itself starts with blanks,
-- and what becomes of the line end at its end.
def literalMark (cs : List Char) : Bytes :=
  let isBreakAt (c : Option Char) : Bool := match c with
    | some c => isBreak c
    | none => false
  let indentation : Bytes := match cs.head? with
    | some c => if c = ' ' || isBreak c then [0x32] else []
    | none => []
  let chomping : Bytes := match cs.reverse with
    | [] => [0x2D]
    | last :: before =>
      if ¬ isBreak last then [0x2D]
      else if before = [] || isBreakAt before.head? then [0x2B]
      else []
  [0x7C] ++ indentation ++ chomping

def literal (indent : Nat) (cs : List Char) : Bytes :=
  literalMark cs ++ indented indent Text.encodeChar true true cs

def base64Digit (n : Nat) : UInt8 :=
  if n < 26 then (65 + n).toUInt8
  else if n < 52 then (71 + n).toUInt8
  else if n < 62 then (n - 4).toUInt8
  else if n = 62 then 0x2B
  else 0x2F

def base64 : Bytes → Bytes
  | a :: b :: c :: rest =>
    let n := a.toNat * 65536 + b.toNat * 256 + c.toNat
    [base64Digit (n / 262144), base64Digit (n / 4096 % 64), base64Digit (n / 64 % 64),
      base64Digit (n % 64)] ++ base64 rest
  | [a, b] =>
    let n := a.toNat * 65536 + b.toNat * 256
    [base64Digit (n / 262144), base64Digit (n / 4096 % 64), base64Digit (n / 64 % 64), 0x3D]
  | [a] =>
    let n := a.toNat * 65536
    [base64Digit (n / 262144), base64Digit (n / 4096 % 64), 0x3D, 0x3D]
  | [] => []

def inLines (width : Nat) : (fuel : Nat) → Bytes → Bytes
  | 0, t => t
  | fuel + 1, t =>
    if t = [] then [] else Text.line (t.take width) ++ inLines width fuel (t.drop width)

def base64Width : Nat := 70

def base64Text (t : Bytes) : Bytes :=
  let b := base64 t
  if b.length < base64Width then b else inLines base64Width b.length b

def inStyle (indent : Nat) (cs : List Char) : Style → Bytes
  | .plain => Text.encode cs
  | .single => single indent cs
  | .double => double cs
  | .literal => literal indent cs

def scalar (indent : Nat) (t : Bytes) : Bytes :=
  if Text.isWellFormed t then
    let cs := Text.chars t
    inStyle indent cs (styleOf (readsAsText t) cs)
  else
    let cs := Text.chars (base64Text t)
    ascii "!!binary " ++ inStyle indent cs (styleOf true cs)

-- Whether what was written ends its line already: only a literal block can.
def endsLine (t : Bytes) : Bool :=
  let cs := Text.chars (if Text.isWellFormed t then t else base64Text t)
  match cs.getLast? with
  | some c => isBreak c && cs.contains '\n' && (features cs).blockAllowed
  | none => false

def field (indent : Nat) (key : Bytes) (t : Bytes) : Bytes :=
  key ++ ascii ": " ++ scalar (indent + 2) t ++ (if endsLine t then [] else [Text.newline])

end Denary.Yaml
