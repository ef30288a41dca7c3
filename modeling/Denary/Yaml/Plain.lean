import Denary.Yaml.Timestamp

-- What a plain text of YAML is read as. Texts that would be read as something else than a text are
-- written in quotes.

namespace Denary.Yaml

inductive Reading where
  | null
  | bool (b : Bool)
  | int (n : Int)
  | float
  | timestamp
  | str
  deriving DecidableEq, Repr, Inhabited

def Reading.tag : Reading → Bytes
  | null => ascii "!!null"
  | bool _ => ascii "!!bool"
  | int _ => ascii "!!int"
  | float => ascii "!!float"
  | timestamp => ascii "!!timestamp"
  | str => ascii "!!str"

def nullWords : List Bytes :=
  [[], ascii "~", ascii "null", ascii "Null", ascii "NULL"]

def trueWords : List Bytes := [ascii "true", ascii "True", ascii "TRUE"]

def falseWords : List Bytes := [ascii "false", ascii "False", ascii "FALSE"]

def floatWords : List Bytes :=
  [ascii ".nan", ascii ".NaN", ascii ".NAN", ascii ".inf", ascii ".Inf", ascii ".INF",
   ascii "+.inf", ascii "+.Inf", ascii "+.INF", ascii "-.inf", ascii "-.Inf", ascii "-.INF"]

def oldTrueWords : List Bytes :=
  [ascii "y", ascii "Y", ascii "yes", ascii "Yes", ascii "YES", ascii "on", ascii "On", ascii "ON"]

def oldFalseWords : List Bytes :=
  [ascii "n", ascii "N", ascii "no", ascii "No", ascii "NO", ascii "off", ascii "Off", ascii "OFF"]

def splitSign : Bytes → Option UInt8 × Bytes
  | b :: rest => if b = 0x2B ∨ b = 0x2D then (some b, rest) else (none, b :: rest)
  | [] => (none, [])

def baseDigit? (b : UInt8) : Option Nat :=
  if Text.isDigit b then some (Text.digitValue b)
  else if 0x61 ≤ b ∧ b ≤ 0x66 then some (b.toNat - 87)
  else if 0x41 ≤ b ∧ b ≤ 0x46 then some (b.toNat - 55)
  else none

def inBase? (base : Nat) (t : Bytes) : Option Nat :=
  if t = [] then none
  else t.foldlM (fun n b => match baseDigit? b with
    | some d => if d < base then some (n * base + d) else none
    | none => none) 0

-- The digits of a number whose start names the base: two, eight or sixteen, or eight after a
-- leading zero, or else ten.
def prefixedDigits? : Bytes → Option Nat
  | 0x30 :: x :: rest =>
    if x = 0x78 ∨ x = 0x58 then inBase? 16 rest
    else if x = 0x62 ∨ x = 0x42 then inBase? 2 rest
    else if x = 0x6F ∨ x = 0x4F then inBase? 8 rest
    else inBase? 8 (x :: rest)
  | t => inBase? 10 t

-- A magnitude with a sign as a 64-bit integer, if it fits: signed, or unsigned when there is no
-- sign.
def signed? (sign : Option UInt8) (n : Nat) : Option Int :=
  match sign with
  | some 0x2D => if n ≤ 0x8000000000000000 then some (-n) else none
  | some _ => if n < 0x8000000000000000 then some n else none
  | none => if n < 0x10000000000000000 then some n else none

-- The integer that a text without underscores stands for. After a zero and the letter of base two
-- or eight a sign may stand.
def integer? (t : Bytes) : Option Int :=
  let (sign, body) := splitSign t
  let inner (base : Nat) (rest : Bytes) : Option Int :=
    let (sign', body') := splitSign rest
    (inBase? base body').bind (signed? sign')
  ((prefixedDigits? body).bind (signed? sign)).or (match t with
    | 0x30 :: 0x62 :: rest => inner 2 rest
    | 0x30 :: 0x6F :: rest => inner 8 rest
    | _ => none)

structure DecimalParts where
  digits : Bytes
  places : Nat
  exponent : Int

def exponent? : Bytes → Option Int
  | [] => some 0
  | e :: rest =>
    if e = 0x65 ∨ e = 0x45 then Decimal.integer? rest else none

def decimalParts? (t : Bytes) : Option DecimalParts :=
  let body := (splitSign t).2
  let whole := body.takeWhile Text.isDigit
  match body.dropWhile Text.isDigit with
  | 0x2E :: rest =>
    let places := rest.takeWhile Text.isDigit
    if whole = [] ∧ places = [] then none
    else (exponent? (rest.dropWhile Text.isDigit)).map fun e => ⟨whole ++ places, places.length, e⟩
  | rest =>
    if whole = [] then none else (exponent? rest).map fun e => ⟨whole, 0, e⟩

def DecimalParts.isFinite (p : DecimalParts) : Bool :=
  let n := Decimal.valueOf p.digits
  let e := p.exponent - p.places
  if n = 0 then true
  else if e + (Decimal.natural n).length < 300 then true
  else if 400 < e + (Decimal.natural n).length then false
  else
    let limit := Nat.pow 2 1024 - Nat.pow 2 970
    if 0 ≤ e then n * Nat.pow 10 e.toNat < limit else n < limit * Nat.pow 10 (-e).toNat

def isDecimal (t : Bytes) : Bool :=
  match decimalParts? t with
  | some p => p.isFinite
  | none => false

def withoutSeparators? : Bytes → Option Bytes
  | a :: 0x5F :: b :: rest =>
    if Text.isDigit a && Text.isDigit b then (withoutSeparators? (b :: rest)).map (a :: ·)
    else none
  | a :: rest => if a = 0x5F then none else (withoutSeparators? rest).map (a :: ·)
  | [] => some []
termination_by t => t.length

-- How a plain text is read that is no time. Only its first byte decides what it is compared with.
def untimed (t : Bytes) : Reading :=
  if nullWords.contains t then .null
  else if trueWords.contains t then .bool true
  else if falseWords.contains t then .bool false
  else if floatWords.contains t then .float
  else match t with
    | [] => .null
    | b :: _ =>
      if b = 0x2E then if (withoutSeparators? t).any isDecimal then .float else .str
      else if b = 0x2B ∨ b = 0x2D ∨ Text.isDigit b then
        let bare := t.filter (· ≠ 0x5F)
        match integer? bare with
        | some n => .int n
        | none => if isDecimal bare then .float else .str
      else .str

def reading (t : Bytes) : Reading :=
  if Timestamp.isTimestamp t then .timestamp else untimed t

-- A group of base sixty after a colon: one digit, or two of which the first is below six.
def isSexagesimalGroup (g : Bytes) : Bool :=
  match g with
  | [a] => Text.isDigit a
  | [a, b] => 0x30 ≤ a && a ≤ 0x35 && Text.isDigit b
  | _ => false

def splitColons : Bytes → List Bytes
  | [] => [[]]
  | b :: rest =>
    if b = 0x3A then [] :: splitColons rest
    else match splitColons rest with
      | [] => [[b]]
      | p :: ps => (b :: p) :: ps

def isSexagesimal (t : Bytes) : Bool :=
  let body := (splitSign t).2
  let whole := body.takeWhile (· ≠ 0x2E)
  let places := (body.dropWhile (· ≠ 0x2E)).drop 1
  match splitColons whole with
  | first :: group :: groups =>
    (match first with
      | d :: ds => Text.isDigit d && ds.all fun b => Text.isDigit b || b = 0x5F
      | [] => false)
    && (group :: groups).all isSexagesimalGroup
    && places.all fun b => Text.isDigit b || b = 0x5F
  | _ => false

-- Whether a text written plainly is read back as this text by old and new readers.
def readsAsText (t : Bytes) : Bool :=
  reading t = .str && !isSexagesimal t && !oldTrueWords.contains t && !oldFalseWords.contains t

end Denary.Yaml
