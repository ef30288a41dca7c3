import Denary.Decimal.Rounding
import Denary.Text.Quoted
import Denary.Yaml.Node

-- From the parts of a document to values. A part that is not of the wanted type is a mismatch, and
-- the reading goes on with the next part; a scalar that contradicts its own tag ends it. Parts are
-- counted, because a short document can unfold to a huge one when its references are followed.

namespace Denary.Yaml

def base64Digit? (b : UInt8) : Option Nat :=
  if 0x41 ≤ b ∧ b ≤ 0x5A then some (b.toNat - 65)
  else if 0x61 ≤ b ∧ b ≤ 0x7A then some (b.toNat - 71)
  else if Text.isDigit b then some (b.toNat + 4)
  else if b = 0x2B then some 62
  else if b = 0x2F then some 63
  else none

def ofBase64? : Bytes → Option Bytes
  | [] => some []
  | a :: b :: c :: d :: rest => do
    let x ← base64Digit? a
    let y ← base64Digit? b
    let first := (x * 4 + y / 16).toUInt8
    if c = 0x3D ∧ d = 0x3D ∧ rest = [] then return [first]
    else
      let z ← base64Digit? c
      let second := (y % 16 * 16 + z / 4).toUInt8
      if d = 0x3D ∧ rest = [] then return [first, second]
      else
        let w ← base64Digit? d
        return first :: second :: (z % 4 * 64 + w).toUInt8 :: (← ofBase64? rest)
  | _ => none

inductive Atom where
  | null
  | bool (b : Bool)
  | int (n : Int)
  | float (text : Bytes)
  | time (text : Bytes)
  | text (t : Bytes)
  deriving DecidableEq, Repr, Inhabited

def readableTags : List Bytes :=
  [ascii "!!bool", ascii "!!int", ascii "!!float", ascii "!!null", ascii "!!timestamp"]

-- Whether a text that is read in some way may have a tag: its own, or that of fractions if it is an
-- integer of 64 bits with a sign.
def Reading.fits (r : Reading) (tag : Bytes) : Bool :=
  match r with
  | .int n => tag = r.tag || (tag = ascii "!!float" && n < 0x8000000000000000)
  | r => tag = r.tag

-- How a text is read under a tag. Only a time may look like one.
def readingUnder (tag text : Bytes) : Reading :=
  match reading text with
  | .timestamp => if tag = ascii "!!timestamp" then .timestamp else untimed text
  | r => r

-- What a scalar with a tag stands for. Tags of its own make a scalar a text.
def atom (tag text : Bytes) : Except Problem Atom :=
  if tag = ascii "!!binary" then
    match ofBase64? (text.filter fun b => b ≠ Text.newline ∧ b ≠ Text.carriageReturn) with
    | some data => .ok (.text data)
    | none => .error (.content (ascii "!!binary value contains invalid base64 data"))
  else if readableTags.contains tag then
    let r := readingUnder tag text
    if !r.fits tag then
      .error (.content (ascii "cannot decode " ++ r.tag ++ ascii " `" ++ text ++ ascii "` as a "
        ++ tag))
    else .ok (match r with
      | .null => .null
      | .bool b => .bool b
      | .int n => if tag = ascii "!!float" then .float text else .int n
      | .float => .float text
      | .timestamp => .time text
      | .str => .text text)
  else .ok (.text text)

def shownInFull : Nat := 10

def shownOfLonger : Nat := 7

def excerpt (text : Bytes) : Bytes :=
  if shownInFull < text.length then text.take shownOfLonger ++ ascii "..." else text

def mismatch (line : Nat) (tag text : Bytes) (wanted : String) : Bytes :=
  let value :=
    if tag = ascii "!!seq" ∨ tag = ascii "!!map" then text
    else ascii " `" ++ excerpt text ++ ascii "`"
  ascii "line " ++ Decimal.natural line ++ ascii ": cannot unmarshal " ++ tag ++ value
    ++ ascii " into " ++ ascii wanted

namespace Node

-- What makes two keys of a mapping the same: their form, and the text of a scalar or the name of a
-- reference.
def identity : Node → Nat × Bytes
  | scalar _ _ t => (0, t)
  | sequence _ _ _ => (1, [])
  | mapping _ _ _ => (2, [])
  | reference _ name _ _ => (3, name)

def isMerge : Node → Bool
  | scalar _ tag text => text = ascii "<<" && tag = ascii "!!merge"
  | _ => false

def isMapping : Node → Bool
  | mapping _ _ _ => true
  | _ => false

end Node

def repeatedKeys : List (Node × Node) → List Bytes
  | [] => []
  | (k, _) :: rest =>
    let again := rest.filter fun p => p.1.identity = k.identity
    again.map (fun p =>
      ascii "line " ++ Decimal.natural p.1.line ++ ascii ": mapping key "
        ++ Text.quoted p.1.identity.2 ++ ascii " already defined at line "
        ++ Decimal.natural k.line)
    ++ repeatedKeys rest

inductive Stop where
  | problem (p : Problem)
  | unusableKey

structure Progress where
  read : Nat := 0
  referred : Nat := 0
  active : List Nat := []
  errors : List Bytes := []
  merged : Option (List Atom) := none

abbrev Decoding := StateT Progress (Except Stop)

namespace Decoding

def fail {α : Type} (text : Bytes) : Decoding α :=
  throw (.problem (.content text))

def complain (errors : List Bytes) : Decoding Unit :=
  modify fun p => { p with errors := errors.reverse ++ p.errors }

-- Whether too many of the parts were reached through references: more than 99 of 100, or, from
-- 400000 parts on, a share that falls to one tenth at 4000000.
def isExcessive (referred read : Nat) : Bool :=
  100 < referred && 1000 < read &&
    (if read ≤ 400000 then 99 * read < 100 * referred
     else if 4000000 ≤ read then read < 10 * referred
     else read * (99 * 3600000 - 89 * (read - 400000)) < 360000000 * referred)

def tick : Decoding Unit := do
  let p ← get
  let q := { p with
    read := p.read + 1
    referred := if p.active.isEmpty then p.referred else p.referred + 1 }
  set q
  if isExcessive q.referred q.read then fail (ascii "document contains excessive aliasing")

-- Reads a part; behind a reference that is the part that it names. A reference must not lead back
-- to itself.
def visit {α : Type} (d : Document) (n : Node) (f : Node → Decoding α) : Decoding α := do
  tick
  match n with
  | .reference _ name number target =>
    if (← get).active.contains number then
      fail (ascii "anchor '" ++ name ++ ascii "' value contains itself")
    modify fun p => { p with active := number :: p.active }
    tick
    let a ← f (d.part target)
    modify fun p => { p with active := p.active.drop 1 }
    return a
  | n => f n

def atomOf (tag text : Bytes) : Decoding Atom :=
  match atom tag text with
  | .ok a => pure a
  | .error e => throw (.problem e)

def refuse (wanted : String) : Node → Decoding Unit
  | .scalar line tag text => complain [mismatch line tag text wanted]
  | .sequence line tag _ => complain [mismatch line tag [] wanted]
  | .mapping line tag pairs =>
    match repeatedKeys pairs with
    | [] => complain [mismatch line tag [] wanted]
    | errors => complain errors
  | .reference _ _ _ _ => pure ()

-- The value of a scalar that stands for one; `f` takes its text and what it stands for. A part that
-- stands for nothing gives no value.
def valueOf {α : Type} (wanted : String) (f : Bytes → Atom → Option α) (n : Node) :
    Decoding (Option α) := do
  match n with
  | .scalar _ tag text =>
    match ← atomOf tag text with
    | .null => return none
    | a =>
      let v := f text a
      if v.isNone then refuse wanted n
      return v
  | n =>
    refuse wanted n
    return none

def value {α : Type} (d : Document) (wanted : String) (f : Bytes → Atom → Option α) (n : Node) :
    Decoding (Option α) :=
  visit d n (valueOf wanted f)

def text (d : Document) : Node → Decoding (Option Bytes) :=
  value d "string" fun text a => match a with
    | .text t => some t
    | _ => some text

-- Reads a part as true or false; the words of older versions of the format are taken too.
def bool (d : Document) : Node → Decoding (Option Bool) :=
  value d "bool" fun _ a => match a with
    | .bool b => some b
    | .text t =>
      if oldTrueWords.contains t then some true
      else if oldFalseWords.contains t then some false
      else none
    | _ => none

def isMerged (a : Atom) : Decoding Bool := do
  return (← get).merged.any fun taken => taken.contains a

def noteMerged (a : Atom) : Decoding Unit :=
  modify fun p => { p with merged := p.merged.map (a :: ·) }

def withMerged {α : Type} (merged : Option (List Atom)) (f : Decoding α) : Decoding α := do
  let old := (← get).merged
  modify fun p => { p with merged := merged }
  let a ← f
  modify fun p => { p with merged := old }
  return a

def mergeProblem : Bytes := ascii "map merge requires map or sequence of maps as the value"

def leadsToMapping (d : Document) : Node → Bool
  | .reference _ _ _ target => (d.part target).isMapping
  | n => n.isMapping

def mergeParts {σ : Type} (d : Document) (f : σ → Node → Decoding σ) (a : σ) (n : Node) :
    Decoding σ := do
  let step (a : σ) (n : Node) : Decoding σ :=
    if leadsToMapping d n then f a n else fail mergeProblem
  match n with
  | .sequence _ _ items => items.foldlM step a
  | n => step a n

end Decoding

end Denary.Yaml
