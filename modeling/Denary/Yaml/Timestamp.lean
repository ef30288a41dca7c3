import Denary.Decimal.Integer

-- Dates in YAML texts: a year of four digits, a month and a day, and after it possibly a time of
-- day. A text that is such a date would be read as one, so it has to be quoted.

namespace Denary.Yaml.Timestamp

abbrev Rest (α : Type) := Option (α × Bytes)

def number : Bytes → Rest Nat
  | a :: b :: rest =>
    if ¬ Text.isDigit a then none
    else if Text.isDigit b then some (Decimal.valueOf [a, b], rest)
    else some (Decimal.valueOf [a], b :: rest)
  | [a] => if Text.isDigit a then some (Decimal.valueOf [a], []) else none
  | [] => none

def twoDigits : Bytes → Rest Nat
  | a :: b :: rest =>
    if Text.isDigit a && Text.isDigit b then some (Decimal.valueOf [a, b], rest) else none
  | _ => none

def mark (b : UInt8) : Bytes → Option Bytes
  | a :: rest => if a = b then some rest else none
  | [] => none

def year : Bytes → Rest Nat
  | a :: b :: c :: d :: rest =>
    if [a, b, c, d].all Text.isDigit then some (Decimal.valueOf [a, b, c, d], rest) else none
  | _ => none

def isLeap (y : Nat) : Bool :=
  y % 4 = 0 && (y % 100 ≠ 0 || y % 400 = 0)

def daysIn (month y : Nat) : Nat :=
  if month = 2 then if isLeap y then 29 else 28
  else if month = 4 ∨ month = 6 ∨ month = 9 ∨ month = 11 then 30
  else 31

def date (t : Bytes) : Option Bytes := do
  let (y, t) ← year t
  let t ← mark 0x2D t
  let (m, t) ← number t
  if m < 1 ∨ 12 < m then none
  let t ← mark 0x2D t
  let (d, t) ← number t
  if d < 1 ∨ daysIn m y < d then none
  return t

def fraction : Bytes → Bytes
  | p :: d :: rest =>
    if (p = 0x2E ∨ p = 0x2C) ∧ Text.isDigit d then rest.dropWhile Text.isDigit else p :: d :: rest
  | t => t

def clock (t : Bytes) : Option Bytes := do
  let (h, t) ← number t
  if 24 ≤ h then none
  let t ← mark 0x3A t
  let (m, t) ← number t
  if 60 ≤ m then none
  let t ← mark 0x3A t
  let (s, t) ← number t
  if 60 ≤ s then none
  return fraction t

def zone : Bytes → Option Bytes
  | 0x5A :: rest => some rest
  | sign :: rest => do
    if sign ≠ 0x2B ∧ sign ≠ 0x2D then none
    let (h, t) ← twoDigits rest
    let t ← mark 0x3A t
    let (m, t) ← twoDigits t
    if 24 < h ∨ 60 < m then none
    return t
  | [] => none

-- What may follow a date: nothing, blanks and a time, or a letter T, a time and a zone.
def afterDate (t : Bytes) : Bool :=
  match t with
  | [] => true
  | b :: rest =>
    if b = 0x54 ∨ b = 0x74 then ((clock rest).bind zone) == some []
    else if b = Text.space then clock (rest.dropWhile (· = Text.space)) == some []
    else false

def isTimestamp (t : Bytes) : Bool :=
  match date t with
  | some rest => afterDate rest
  | none => false

end Denary.Yaml.Timestamp
