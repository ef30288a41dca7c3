import Denary.Yaml.Event
import Denary.Yaml.Plain

-- Documents: the tree of scalars, lists and mappings that the events of a YAML text build. A named
-- part gets a number, and a reference holds the number of the part that it names, so that a part
-- can refer to itself.

namespace Denary.Yaml

inductive Node where
  | scalar (line : Nat) (tag : Bytes) (text : Bytes)
  | sequence (line : Nat) (tag : Bytes) (items : List Node)
  | mapping (line : Nat) (tag : Bytes) (pairs : List (Node × Node))
  -- a reference, which has a number of its own, to the named part with the number `target`
  | reference (line : Nat) (name : Bytes) (number target : Nat)
  deriving Inhabited

def Node.line : Node → Nat
  | scalar l _ _ => l
  | sequence l _ _ => l
  | mapping l _ _ => l
  | reference l _ _ _ => l

structure Document where
  root : Node
  named : Array Node
  -- a bound on the depth of the document when its references are followed
  bound : Nat
  deriving Inhabited

def Document.part (d : Document) (number : Nat) : Node :=
  d.named[number]?.getD default

def shortTag (t : Bytes) : Bytes :=
  if coreTag.isPrefixOf t then ascii "!!" ++ t.drop coreTag.length else t

-- The type of a scalar: the one that it is given, text for a quoted one, and otherwise what it is
-- read as.
def scalarTag (given : Bytes) (plain : Bool) (text : Bytes) : Bytes :=
  if given ≠ [] ∧ given ≠ ascii "!" then shortTag given
  else if !plain then ascii "!!str"
  else if text = ascii "<<" then ascii "!!merge"
  else (reading text).tag

def collectionTag (given standard : Bytes) : Bytes :=
  if given ≠ [] ∧ given ≠ ascii "!" then shortTag given else standard

inductive Unfinished where
  | sequence (items : List Node)
  | mapping (pairs : List (Node × Node)) (key : Option Node)

structure Opened where
  line : Nat
  tag : Bytes
  number : Option Nat
  contents : Unfinished

namespace Opened

-- With one more part. In a mapping keys and values alternate.
def add (o : Opened) (n : Node) : Opened :=
  { o with contents := match o.contents with
    | .sequence items => .sequence (n :: items)
    | .mapping pairs none => .mapping pairs (some n)
    | .mapping pairs (some k) => .mapping ((k, n) :: pairs) none }

def node (o : Opened) : Node :=
  match o.contents with
  | .sequence items => .sequence o.line o.tag items.reverse
  | .mapping pairs _ => .mapping o.line o.tag pairs.reverse

end Opened

structure Builder where
  root : Option Node := none
  opened : List Opened := []
  names : List (Bytes × Nat) := []
  named : Array Node := #[]
  references : Nat := 0

namespace Builder

def add (b : Builder) (n : Node) : Builder :=
  match b.opened with
  | o :: rest => { b with opened := o.add n :: rest }
  | [] => { b with root := some n }

-- Gives a part a number, if it has a name. From here on the name means this part.
def name (b : Builder) (anchor : Option Bytes) : Option Nat × Builder :=
  match anchor with
  | none => (none, b)
  | some a =>
    let number := b.named.size
    (some number, { b with names := (a, number) :: b.names, named := b.named.push default })

def finish (b : Builder) (number : Option Nat) (n : Node) : Builder :=
  match number with
  | some i => { b with named := b.named.setIfInBounds i n }
  | none => b

def close (b : Builder) : Builder :=
  match b.opened with
  | o :: rest => ({ b with opened := rest }.finish o.number o.node).add o.node
  | [] => b

def start (b : Builder) (line : Nat) (anchor : Option Bytes) (tag : Bytes) (u : Unfinished) :
    Builder :=
  let (number, b) := b.name anchor
  { b with opened := ⟨line, tag, number, u⟩ :: b.opened }

def event (b : Builder) : Event → Except Problem Builder
  | .scalar line anchor tag plain text =>
    let n : Node := .scalar line (scalarTag tag plain text) text
    let (number, b) := b.name anchor
    .ok ((b.finish number n).add n)
  | .reference line name =>
    match b.names.lookup name with
    | some target =>
      let n : Node := .reference line name b.references target
      .ok ({ b with references := b.references + 1 }.add n)
    | none => .error (.content (ascii "unknown anchor '" ++ name ++ ascii "' referenced"))
  | .sequenceStart line anchor tag =>
    .ok (b.start line anchor (collectionTag tag (ascii "!!seq")) (.sequence []))
  | .mappingStart line anchor tag =>
    .ok (b.start line anchor (collectionTag tag (ascii "!!map")) (.mapping [] none))
  | .sequenceEnd => .ok b.close
  | .mappingEnd => .ok b.close

def run : (fuel : Nat) → Builder → Reader → Except Problem (Builder × Reader)
  | 0, b, r => .ok (b, r)
  | fuel + 1, b, r => do
    match ← r.next with
    | (none, r) => return (b, r)
    | (some e, r) => run fuel (← b.event e) r

end Builder

def document (t : Bytes) : Except Problem (Option Document) := do
  match ← Reader.start t with
  | none => return none
  | some (first, r) =>
    let b ← match first with
      | some e => ({} : Builder).event e
      | none => pure {}
    let limit := r.scanner.place.limit
    let (b, r) ← b.run (8 * limit) r
    r.finish
    return some ⟨b.root.getD default, b.named, 8 * limit * limit⟩

end Denary.Yaml
