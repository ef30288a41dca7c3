import Denary.Yaml.Decode

-- Data of any type: what a part of a document stands for when nothing is known of its type. The
-- keys of a mapping that merges others are read in this way. Lists and mappings are no keys.

namespace Denary.Yaml

inductive Datum where
  | atom (a : Atom)
  | list (items : List Datum)
  -- a mapping; `textKeys` says that its keys are texts by their type
  | mapping (textKeys : Bool) (pairs : List (Datum × Datum))
  deriving Inhabited

def floatOf (text : Bytes) : Float :=
  let (sign, body) := splitSign (text.filter (· ≠ 0x5F))
  let magnitude : Float :=
    match decimalParts? body with
    | some p =>
      let n := Decimal.valueOf p.digits
      let e := p.exponent - p.places
      if e + (Decimal.natural n).length < -400 then 0
      else if 0 ≤ e then Float.ofScientific n false e.toNat
      else Float.ofScientific n true (-e).toNat
    | none => if floatWords.drop 3 |>.contains text then 1.0 / 0.0 else 0.0 / 0.0
  if sign = some 0x2D then -magnitude else magnitude

-- A scalar in full. Integers beyond 63 bits are written in base sixteen.
def Atom.render : Atom → Bytes
  | .null => ascii "interface \x7b\x7d(nil)"
  | .bool b => Text.ofBool b
  | .int n =>
    if n < 0x8000000000000000 then Decimal.integer n else ascii "0x" ++ Text.hex false 16 n.toNat
  | .float t => Decimal.shortest (floatOf t)
  | .time t => t
  | .text t => Text.quoted t

namespace Datum

def keyBefore : Datum → Datum → Bool
  | .atom .null, _ => true
  | .atom (.int a), .atom (.int b) => a ≤ b
  | .atom (.bool a), .atom (.bool b) => !a || b
  | .atom (.text a), .atom (.text b) => a ≤ b
  | _, _ => true

mutual

def render : Datum → Bytes
  | .atom a => a.render
  | .list items => ascii "[]interface \x7b\x7d\x7b" ++ renderItems items ++ ascii "\x7d"
  | .mapping textKeys pairs =>
    let keys := if textKeys then ascii "string" else ascii "interface \x7b\x7d"
    ascii "map[" ++ keys ++ ascii "]interface \x7b\x7d\x7b" ++ renderPairs pairs ++ ascii "\x7d"

def renderItems : List Datum → Bytes
  | [] => []
  | [d] => d.render
  | d :: ds => d.render ++ ascii ", " ++ renderItems ds

def renderPairs : List (Datum × Datum) → Bytes
  | [] => []
  | [(k, v)] => k.render ++ ascii ":" ++ v.render
  | (k, v) :: ps => k.render ++ ascii ":" ++ v.render ++ ascii ", " ++ renderPairs ps

end

def ofPairs (textKeys : Bool) (pairs : List (Datum × Datum)) : Datum :=
  .mapping textKeys (pairs.mergeSort fun a b => keyBefore a.1 b.1)

end Datum

def Document.tagOf (d : Document) : Node → Bytes
  | .scalar _ tag _ => tag
  | .sequence _ tag _ => tag
  | .mapping _ tag _ => tag
  | .reference _ _ _ target =>
    match d.part target with
    | .scalar _ tag _ => tag
    | .sequence _ tag _ => tag
    | .mapping _ tag _ => tag
    | .reference _ _ _ _ => []

def Document.hasTextKeys (d : Document) (pairs : List (Node × Node)) : Bool :=
  pairs.all fun p => [ascii "!!str", ascii "!!merge"].contains (d.tagOf p.1)

def mergeValue? (pairs : List (Node × Node)) : Option Node :=
  (pairs.find? fun p => p.1.isMerge).map (·.2)

structure Gathered where
  pairs : List (Datum × Datum)
  taken : Option (List Atom)

-- Whether a key is new in a merge, and the keys with it. A list or mapping cannot be looked up.
def Gathered.admit (g : Gathered) : Datum → Decoding (Option Gathered)
  | .atom a =>
    match g.taken with
    | none => return some g
    | some taken => return if taken.contains a then none else some { g with taken := a :: taken }
  | k =>
    match g.taken with
    | none => Decoding.fail (ascii "invalid map key: " ++ k.render)
    | some _ => throw .unusableKey

namespace Decoding

mutual

def datum (d : Document) : (fuel : Nat) → Node → Decoding (Option Datum)
  | 0, _ => return none
  | fuel + 1, n => visit d n fun n => do
    match n with
    | .scalar _ tag text => return some (.atom (← atomOf tag text))
    | .sequence _ _ items => return some (.list (← items.filterMapM (datum d fuel)))
    | .mapping _ _ pairs =>
      let textKeys := d.hasTextKeys pairs
      let gathered ← gather d textKeys fuel none n
      return gathered.map (.ofPairs textKeys)
    | .reference _ _ _ _ => return none

-- Reads the pairs of a mapping and of those that it merges, behind pairs that are there already.
-- Repeated keys leave these as they are.
def gather (d : Document) (textKeys : Bool) :
    (fuel : Nat) → Option (List (Datum × Datum)) → Node → Decoding (Option (List (Datum × Datum)))
  | 0, before, _ => return before
  | fuel + 1, before, n => do
    match n with
    | .mapping _ _ pairs =>
      let errors := repeatedKeys pairs
      if errors ≠ [] then
        complain errors
        return before
      let taken := (← get).merged
      modify fun p => { p with merged := none }
      let g ← pairs.foldlM (pair d textKeys fuel) ⟨before.getD [], taken⟩
      modify fun p => { p with merged := g.taken }
      match mergeValue? pairs with
      | none => return some g.pairs
      | some v =>
        merging d fuel pairs do
          mergeParts d (fun before n => visit d n (gather d textKeys fuel before)) (some g.pairs) v
    | _ => return before

def pair (d : Document) (textKeys : Bool) :
    (fuel : Nat) → Gathered → Node × Node → Decoding Gathered
  | 0, g, _ => return g
  | fuel + 1, g, (k, v) => do
    if k.isMerge then return g
    let key ←
      if textKeys then do pure ((← text d k).map fun t => Datum.atom (.text t))
      else datum d fuel k
    match key with
    | none => return g
    | some key =>
      match ← g.admit key with
      | none => return g
      | some g =>
        match ← datum d fuel v with
        | none => return g
        | some value =>
          return { g with pairs := g.pairs ++ [(key, value)] }

-- Reads what a mapping merges. The keys of the outermost mapping are not set again, and they are
-- read for that as data of any type.
def merging {α : Type} (d : Document) :
    (fuel : Nat) → List (Node × Node) → Decoding α → Decoding α
  | 0, _, f => f
  | fuel + 1, pairs, f => do
    if (← get).merged.isSome then f
    else withMerged (some []) do
      for (k, _) in pairs do
        match ← datum d fuel k with
        | some (.atom a) => noteMerged a
        | some _ => throw .unusableKey
        | none => pure ()
      f

end

end Decoding

end Denary.Yaml
