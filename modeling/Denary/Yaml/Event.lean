import Denary.Yaml.Token

-- The parts of a document one after the other, as its tokens describe them: scalars, references,
-- and the starts and ends of lists and mappings. What may come next is kept on a stack, with one
-- entry for each list or mapping that is open.

namespace Denary.Yaml

inductive Event where
  | scalar (line : Nat) (anchor : Option Bytes) (tag : Bytes) (plain : Bool) (text : Bytes)
  | reference (line : Nat) (name : Bytes)
  | sequenceStart (line : Nat) (anchor : Option Bytes) (tag : Bytes)
  | sequenceEnd
  | mappingStart (line : Nat) (anchor : Option Bytes) (tag : Bytes)
  | mappingEnd
  deriving Repr, Inhabited

def Event.empty (m : Mark) : Event :=
  .scalar (m.line + 1) none [] true []

inductive Expected where
  -- a part; `block` says that it may be on lines of its own, and `loose` that it may be a list
  -- which is not indented
  | node (block loose : Bool)
  | item (start : Mark)
  | looseItem
  | key (start : Mark)
  | value
  | flowItem (start : Mark) (first : Bool)
  | pairKey
  | pairValue
  | pairEnd
  | flowKey (start : Mark) (first : Bool)
  | flowValue
  | noValue
  deriving Repr, Inhabited

structure Reader where
  scanner : Scanner
  expected : List Expected
  handles : List (Bytes × Bytes)

namespace Reader

def peek (r : Reader) : Except Problem (Token × Reader) := do
  let s ← r.scanner.fetch r.scanner.place.limit
  match s.waiting with
  | t :: _ => return (t, { r with scanner := s })
  | [] => return (⟨.streamEnd, s.place.mark, s.place.mark⟩, { r with scanner := s })

def skip (r : Reader) : Reader :=
  { r with scanner := { r.scanner with
    waiting := r.scanner.waiting.drop 1, taken := r.scanner.taken + 1 } }

def expect (r : Reader) (e : Expected) : Reader :=
  { r with expected := e :: r.expected }

def settle (r : Reader) : Except Problem Unit :=
  match r.scanner.pending with
  | some problem => .error problem
  | none => .ok ()

end Reader

def coreTag : Bytes := ascii "tag:yaml.org,2002:"

def structural {α : Type} (text : String) (context : Mark) (t : Token) : Except Problem α :=
  .error (.structural (ascii text) (some context) t.start)

def Token.isAny (t : Token) (ls : List Lexeme) : Bool :=
  ls.contains t.lexeme

structure Properties where
  start : Mark
  anchor : Option Bytes := none
  tag : Option (Bytes × Bytes × Mark) := none

def readProperties (t : Token) (r : Reader) : Except Problem (Properties × Token × Reader) := do
  let props : Properties := { start := t.start }
  match t.lexeme with
  | .anchor name =>
    let props := { props with anchor := some name }
    let (t, r) ← r.skip.peek
    match t.lexeme with
    | .tag h s =>
      let (t', r) ← r.skip.peek
      return ({ props with tag := some (h, s, t.start) }, t', r)
    | _ => return (props, t, r)
  | .tag h s =>
    let props := { props with tag := some (h, s, t.start) }
    let (t, r) ← r.skip.peek
    match t.lexeme with
    | .anchor name =>
      let (t', r) ← r.skip.peek
      return ({ props with anchor := some name }, t', r)
    | _ => return (props, t, r)
  | _ => return (props, t, r)

def Properties.fullTag (props : Properties) (handles : List (Bytes × Bytes)) :
    Except Problem Bytes :=
  match props.tag with
  | none => .ok []
  | some (handle, suffix, place) =>
    if handle = [] then .ok suffix
    else match handles.lookup handle with
      | some s => .ok (s ++ suffix)
      | none => .error (.structural (ascii "found undefined tag handle") (some props.start) place)

namespace Reader

def node (r : Reader) (block loose : Bool) : Except Problem (Event × Reader) := do
  let (t, r) ← r.peek
  match t.lexeme with
  | .reference name => return (.reference (t.start.line + 1) name, r.skip)
  | _ =>
    let (props, t, r) ← readProperties t r
    let tag ← props.fullTag r.handles
    let line := props.start.line + 1
    let sequence := Event.sequenceStart line props.anchor tag
    let mapping := Event.mappingStart line props.anchor tag
    match t.lexeme, block, loose with
    | .blockEntry, _, true => return (sequence, r.expect .looseItem)
    | .scalar text plain, _, _ => return (.scalar line props.anchor tag plain text, r.skip)
    | .flowSequenceStart, _, _ => return (sequence, r.skip.expect (.flowItem t.start true))
    | .flowMappingStart, _, _ => return (mapping, r.skip.expect (.flowKey t.start true))
    | .blockSequenceStart, true, _ => return (sequence, r.skip.expect (.item t.start))
    | .blockMappingStart, true, _ => return (mapping, r.skip.expect (.key t.start))
    | _, _, _ =>
      if props.anchor.isSome ∨ tag ≠ [] then return (.scalar line props.anchor tag true [], r)
      else structural "did not find expected node content" props.start t

def nodeUnless (r : Reader) (block loose : Bool) (ls : List Lexeme) (empty : Token → Mark) :
    Except Problem (Event × Reader) := do
  let (t, r) ← r.peek
  if t.isAny ls then return (.empty (empty t), r) else r.node block loose

def item (r : Reader) (start : Mark) : Except Problem (Event × Reader) := do
  let (t, r) ← r.peek
  match t.lexeme with
  | .blockEntry =>
    (r.skip.expect (.item start)).nodeUnless true false [.blockEntry, .blockEnd] fun _ => t.stop
  | .blockEnd => return (.sequenceEnd, r.skip)
  | _ => structural "did not find expected '-' indicator" start t

def looseItem (r : Reader) : Except Problem (Event × Reader) := do
  let (t, r) ← r.peek
  match t.lexeme with
  | .blockEntry =>
    (r.skip.expect .looseItem).nodeUnless true false [.blockEntry, .key, .value, .blockEnd]
      fun _ => t.stop
  | _ => return (.sequenceEnd, r)

def key (r : Reader) (start : Mark) : Except Problem (Event × Reader) := do
  let (t, r) ← r.peek
  match t.lexeme with
  | .key =>
    ((r.skip.expect (.key start)).expect .value).nodeUnless true true [.key, .value, .blockEnd]
      fun _ => t.stop
  | .blockEnd => return (.mappingEnd, r.skip)
  | _ => structural "did not find expected key" start t

def value (r : Reader) : Except Problem (Event × Reader) := do
  let (t, r) ← r.peek
  if t.lexeme = .value then
    r.skip.nodeUnless true true [.key, .value, .blockEnd] fun _ => t.stop
  else return (.empty t.start, r)

def flowItem (r : Reader) (start : Mark) (first : Bool) : Except Problem (Event × Reader) := do
  let (t, r) ← r.peek
  if t.lexeme = .flowSequenceEnd then return (.sequenceEnd, r.skip)
  if !first && t.lexeme ≠ .flowEntry then structural "did not find expected ',' or ']'" start t
  let (t, r) ← if first then pure (t, r) else r.skip.peek
  if t.lexeme = .flowSequenceEnd then return (.sequenceEnd, r.skip)
  let r := r.expect (.flowItem start false)
  if t.lexeme = .key then
    return (.mappingStart (t.start.line + 1) none [], r.skip.expect .pairKey)
  else r.node false false

-- Reads the key of a single pair in brackets. A token that means its absence is passed over.
def pairKey (r : Reader) : Except Problem (Event × Reader) := do
  let (t, r) ← r.peek
  let r := r.expect .pairValue
  if t.isAny [.value, .flowEntry, .flowSequenceEnd] then return (.empty t.stop, r.skip)
  else r.node false false

def flowValue (r : Reader) (ends : List Lexeme) : Except Problem (Event × Reader) := do
  let (t, r) ← r.peek
  if t.lexeme = .value then r.skip.nodeUnless false false ends fun t => t.start
  else return (.empty t.start, r)

def flowKey (r : Reader) (start : Mark) (first : Bool) : Except Problem (Event × Reader) := do
  let (t, r) ← r.peek
  if t.lexeme = .flowMappingEnd then return (.mappingEnd, r.skip)
  if !first && t.lexeme ≠ .flowEntry then
    structural "did not find expected ',' or '\x7d'" start t
  let (t, r) ← if first then pure (t, r) else r.skip.peek
  if t.lexeme = .flowMappingEnd then return (.mappingEnd, r.skip)
  let r := r.expect (.flowKey start false)
  if t.lexeme = .key then
    (r.skip.expect .flowValue).nodeUnless false false [.value, .flowEntry, .flowMappingEnd]
      fun t => t.start
  else (r.expect .noValue).node false false

def next (r : Reader) : Except Problem (Option Event × Reader) := do
  match r.expected with
  | [] => return (none, r)
  | e :: rest =>
    let r := { r with expected := rest }
    let (event, r) ← match e with
      | .node block loose => r.node block loose
      | .item start => r.item start
      | .looseItem => r.looseItem
      | .key start => r.key start
      | .value => r.value
      | .flowItem start first => r.flowItem start first
      | .pairKey => r.pairKey
      | .pairValue => (r.expect .pairEnd).flowValue [.flowEntry, .flowSequenceEnd]
      | .pairEnd => r.peek.map fun (_, r) => (.mappingEnd, r)
      | .flowKey start first => r.flowKey start first
      | .flowValue => r.flowValue [.flowEntry, .flowMappingEnd]
      | .noValue => r.peek.map fun (t, r) => (.empty t.start, r)
    r.settle
    return (some event, r)

-- Reads the directives in front of a document; none may be given twice, and the version must be the
-- one that is understood.
def directives (versioned : Bool) (given : List Bytes) :
    (fuel : Nat) → Reader → Except Problem (Token × Reader)
  | 0, r => r.peek
  | fuel + 1, r => do
    let (t, r) ← r.peek
    let refuse (text : String) : Except Problem (Token × Reader) :=
      .error (.structural (ascii text) none t.start)
    match t.lexeme with
    | .directive (.version major minor) =>
      if versioned then refuse "found duplicate %YAML directive"
      else if major ≠ 1 ∨ minor ≠ 1 then refuse "found incompatible YAML document"
      else r.skip.directives true given fuel
    | .directive (.tag h s) =>
      if given.contains h then refuse "found duplicate %TAG directive"
      else
        let named : Reader := { r.skip with handles := (h, s) :: r.handles }
        named.directives versioned (h :: given) fuel
    | _ => return (t, r)

def opensDocument : Lexeme → Bool
  | .directive _ => true
  | .documentStart => true
  | _ => false

-- Reads up to the first part of the first document. A text without one gives nothing. An empty
-- document is an event already.
def start (t : Bytes) : Except Problem (Option (Option Event × Reader)) := do
  let s ← Scanner.start (Place.ofBytes t)
  let r : Reader := ⟨s, [], [(ascii "!", ascii "!"), (ascii "!!", coreTag)]⟩
  let (_, r) ← r.peek
  r.settle
  let (t, r) ← r.skip.peek
  if t.lexeme = .streamEnd then
    r.settle
    return none
  if !opensDocument t.lexeme then
    r.settle
    return some (none, r.expect (.node true false))
  let (t, r) ← r.directives false [] r.scanner.place.limit
  if t.lexeme ≠ .documentStart then
    throw (.structural (ascii "did not find expected <document start>") none t.start)
  r.settle
  let (t, r) ← r.skip.peek
  if opensDocument t.lexeme || t.isAny [.documentEnd, .streamEnd] then
    r.settle
    return some (some (.empty t.start), r)
  else return some (none, r.expect (.node true false))

def finish (r : Reader) : Except Problem Unit := do
  let (_, r) ← r.peek
  r.settle

end Reader

end Denary.Yaml
