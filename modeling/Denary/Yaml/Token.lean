import Std.Data.HashMap
import Denary.Yaml.ScalarToken
import Denary.Yaml.TagToken

-- The tokens of a YAML text. Structure given by indentation becomes tokens of its own, and a key is
-- recognised when the colon behind it is met, so its token is put in front of what was read since.
-- Tokens are read ahead only as far as that takes.

namespace Denary.Yaml

inductive Lexeme where
  | streamStart
  | streamEnd
  | directive (d : Directive)
  | documentStart
  | documentEnd
  | blockSequenceStart
  | blockMappingStart
  | blockEnd
  | flowSequenceStart
  | flowSequenceEnd
  | flowMappingStart
  | flowMappingEnd
  | blockEntry
  | flowEntry
  | key
  | value
  | reference (name : Bytes)
  | anchor (name : Bytes)
  | tag (handle suffix : Bytes)
  | scalar (text : Bytes) (plain : Bool)
  deriving DecidableEq, Repr, Inhabited

structure Token where
  lexeme : Lexeme
  start : Mark
  stop : Mark
  deriving Repr, Inhabited

structure KeyCandidate where
  possible : Bool
  -- whether it has to be a key, because it starts at the indentation of a mapping
  required : Bool
  number : Nat
  mark : Mark
  deriving Repr, Inhabited

def KeyCandidate.none : KeyCandidate := ⟨false, false, 0, Mark.start⟩

structure Scanner where
  place : Place
  waiting : List Token
  taken : Nat
  count : Nat
  columns : List Nat
  -- candidates, one per level of brackets, the outermost first
  candidates : Array KeyCandidate
  -- the levels of candidates by the numbers of their tokens
  levels : Std.HashMap Nat Nat
  keyAllowed : Bool
  -- a problem that was met in a look ahead and is not reported yet
  pending : Option Problem

namespace Scanner

def start (p : Place) : Except Problem Scanner :=
  (p.need 1).map fun p =>
    { place := p
      waiting := [⟨.streamStart, p.mark, p.mark⟩]
      taken := 0
      count := 1
      columns := []
      candidates := #[KeyCandidate.none]
      levels := ∅
      keyAllowed := true
      pending := none }

def inFlow (s : Scanner) : Bool :=
  1 < s.candidates.size

-- The indentation of the innermost open block; without one it is below every column.
def indent (s : Scanner) : Int :=
  match s.columns with
  | c :: _ => c
  | [] => -1

def candidate (s : Scanner) : KeyCandidate :=
  s.candidates.back?.getD KeyCandidate.none

def setCandidate (s : Scanner) (k : KeyCandidate) : Scanner :=
  { s with candidates := s.candidates.pop.push k }

def pushAll (s : Scanner) (ts : List Token) : Scanner :=
  { s with waiting := s.waiting ++ ts, count := s.count + ts.length }

def push (s : Scanner) (l : Lexeme) (start stop : Mark) : Scanner :=
  s.pushAll [⟨l, start, stop⟩]

-- One more token in front of the one with a given number. If that one was taken already, the new
-- one is the last.
def insert (s : Scanner) (number : Nat) (t : Token) : Scanner :=
  if number < s.taken then s.pushAll [t]
  else
    let (before, after) := s.waiting.splitAt (number - s.taken)
    { s with waiting := before ++ t :: after, count := s.count + 1 }

def refuse {α : Type} (s : Scanner) (text : String) : Except Problem α :=
  .error (s.place.problem s.place.mark text)

def keyProblem (s : Scanner) (k : KeyCandidate) : Problem :=
  s.place.problem k.mark "could not find expected ':'"

def endCandidate (s : Scanner) : Scanner :=
  let k := s.candidate
  { s.setCandidate { k with possible := false } with levels := s.levels.erase k.number }

def dropCandidate (s : Scanner) : Except Problem Scanner :=
  let k := s.candidate
  if !k.possible then .ok s
  else if k.required then .error (s.keyProblem k)
  else .ok s.endCandidate

def saveCandidate (s : Scanner) : Except Problem Scanner :=
  if !s.keyAllowed then .ok s
  else
    let k : KeyCandidate :=
      { possible := true
        required := !s.inFlow && s.indent = s.place.mark.column
        number := s.count
        mark := s.place.mark }
    s.dropCandidate.map fun s =>
      { s.setCandidate k with levels := s.levels.insert k.number (s.candidates.size - 1) }

-- Whether a candidate can still be a key: it has to be on this line and not too far away.
def isValid (s : Scanner) (k : KeyCandidate) : Except Problem Bool :=
  if !k.possible then .ok false
  else if k.mark.line < s.place.mark.line ∨ k.mark.index + 1024 < s.place.mark.index then
    if k.required then .error (s.keyProblem k) else .ok false
  else .ok true

def depthLimit : Nat := 10000

def depthProblem (s : Scanner) : Problem :=
  s.place.problem s.candidate.mark "exceeded max depth of 10000"

def unrollTo (s : Scanner) (column : Int) : Scanner :=
  if s.inFlow then s
  else
    let closed := s.columns.takeWhile fun (c : Nat) => column < c
    let close : Token := ⟨.blockEnd, s.place.mark, s.place.mark⟩
    { s.pushAll (closed.map fun _ => close) with columns := s.columns.drop closed.length }

def roll (s : Scanner) (column : Nat) (number : Option Nat) (l : Lexeme) (mark : Mark) :
    Except Problem Scanner :=
  if s.inFlow ∨ (column : Int) ≤ s.indent then .ok s
  else
    let s := { s with columns := column :: s.columns }
    if depthLimit < s.columns.length then .error s.depthProblem
    else match number with
      | some n => .ok (s.insert n ⟨l, mark, mark⟩)
      | none => .ok (s.push l mark mark)

def take (s : Scanner) (n : Nat) (l : Lexeme) : Scanner :=
  let p := s.place.skip n
  { s.push l s.place.mark p.mark with place := p }

def commentReach : Nat := 512

-- The distance of the next comment, if nothing but blanks comes before it; `acrossLines` says that
-- line feeds and carriage returns may come too. A problem in the text ahead ends the look.
def seekComment (acrossLines : Bool) :
    (fuel : Nat) → (distance : Nat) → Place → Option Nat × Place × Option Problem
  | 0, _, p => (none, p, none)
  | fuel + 1, distance, p =>
    match p.look (distance + 1) with
    | (p, some problem) => (none, p, some problem)
    | (p, none) =>
      match p.peek distance with
      | none => (none, p, none)
      | some c =>
        if isBlank c || (acrossLines && (c = '\n' || c = '\r')) then
          seekComment acrossLines fuel (distance + 1) p
        else if c = '#' then (some distance, p, none)
        else if acrossLines && isBreak c then (none, p.look (distance + 2))
        else (none, p, none)

def passComment (index : Nat) : (fuel : Nat) → Place → Except Problem Place
  | 0, p => .ok p
  | fuel + 1, p => do
    let p ← p.need 1
    if !isBreakOrEnd (p.peek 0) then passComment index fuel p.advance
    else if index ≤ p.mark.index then return p
    else passComment index fuel (← p.need 2).lineEnd.2

-- Past a comment and those on the lines below it, from a distance on. The end of the last one's
-- line stays ahead.
def passComments : (fuel : Nat) → (distance : Nat) → Scanner → Except Problem Scanner
  | 0, _, s => .ok s
  | fuel + 1, distance, s => do
    let wide := (s.place.peek 0).any fun c => isBreak c && c ≠ '\n' && c ≠ '\r'
    let (found, p, problem) :=
      if wide then (none, s.place.look (distance + 1))
      else seekComment true (commentReach - distance) distance s.place
    let s := { s with place := p, pending := s.pending.or problem }
    match found with
    | none => return s
    | some d =>
      let p ← passComment (p.mark.index + d) p.limit p
      passComments fuel 1 { s with place := p }

def passLineComment (s : Scanner) : Except Problem Scanner := do
  if s.place.fresh then return s
  let (found, p, problem) := seekComment false commentReach 0 s.place
  let s := { s with place := p, pending := s.pending.or problem }
  match found with
  | none => return s
  | some d => return { s with place := ← passComment (p.mark.index + d) p.limit p }

-- Past blanks, comments and line ends. A tab is no blank where a key may start. If what is known of
-- the text starts with a byte order mark, one character is left out at the start of a line.
def skipToToken : (fuel : Nat) → Scanner → Except Problem Scanner
  | 0, s => .ok s
  | fuel + 1, s => do
    let p ← s.place.need 1
    let p := if p.mark.column = 0 && p.first = some orderMark then p.advance else p
    let tabs := s.inFlow || !s.keyAllowed
    let p ← p.skipWhile fun c => c = ' ' || (tabs && c = '\t')
    let s := { s with place := p }
    let s ← if p.peek 0 = some '#' then passComments p.limit 0 s else pure s
    if (s.place.peek 0).any isBreak then
      let p ← s.place.passLineEnd
      skipToToken fuel { s with place := p, keyAllowed := s.keyAllowed || !s.inFlow }
    else return s

def takeEnd (s : Scanner) : Except Problem Scanner :=
  let m := s.place.mark
  let m := if m.column ≠ 0 then ⟨m.index, m.line + 1, 0⟩ else m
  let s := { s with place := { s.place with mark := m } }.unrollTo (-1)
  s.dropCandidate.map fun s => { s with keyAllowed := false }.push .streamEnd m m

def takeDocumentMark (s : Scanner) (l : Lexeme) : Except Problem Scanner :=
  (s.unrollTo (-1)).dropCandidate.map fun s => { s with keyAllowed := false }.take 3 l

def takeDirective (s : Scanner) : Except Problem Scanner := do
  let s ← (s.unrollTo (-1)).dropCandidate
  let (d, stop, p) ← readDirective s.place
  return { s.push (.directive d) s.place.mark stop with place := p, keyAllowed := false }

def takeFlowStart (s : Scanner) (l : Lexeme) : Except Problem Scanner := do
  let s ← s.saveCandidate
  let inner : KeyCandidate := ⟨false, false, s.count, s.place.mark⟩
  let s := { s with candidates := s.candidates.push inner }
  if depthLimit + 1 < s.candidates.size then throw s.depthProblem
  return { s with keyAllowed := true }.take 1 l

def takeFlowEnd (s : Scanner) (l : Lexeme) : Except Problem Scanner := do
  let s ← s.dropCandidate
  let s :=
    if s.inFlow then
      { s with levels := s.levels.erase s.candidate.number, candidates := s.candidates.pop }
    else s
  return { s with keyAllowed := false }.take 1 l

def takeFlowEntry (s : Scanner) : Except Problem Scanner :=
  s.dropCandidate.map fun s => { s with keyAllowed := true }.take 1 .flowEntry

def takeBlockEntry (s : Scanner) : Except Problem Scanner := do
  if !s.inFlow ∧ !s.keyAllowed then
    s.refuse "block sequence entries are not allowed in this context"
  let s ← s.roll s.place.mark.column none .blockSequenceStart s.place.mark
  let s ← s.dropCandidate
  return { s with keyAllowed := true }.take 1 .blockEntry

def takeKey (s : Scanner) : Except Problem Scanner := do
  if !s.inFlow ∧ !s.keyAllowed then s.refuse "mapping keys are not allowed in this context"
  let s ← s.roll s.place.mark.column none .blockMappingStart s.place.mark
  let s ← s.dropCandidate
  return { s with keyAllowed := !s.inFlow }.take 1 .key

-- A colon in front of a value. If what came before can be a key, it now is one.
def takeValue (s : Scanner) : Except Problem Scanner := do
  let k := s.candidate
  if ← s.isValid k then
    let s := s.insert k.number ⟨.key, k.mark, k.mark⟩
    let s ← s.roll k.mark.column (some k.number) .blockMappingStart k.mark
    return { s.endCandidate with keyAllowed := false }.take 1 .value
  else
    let s := s.setCandidate { k with possible := false }
    if !s.inFlow ∧ !s.keyAllowed then s.refuse "mapping values are not allowed in this context"
    let s ← s.roll s.place.mark.column none .blockMappingStart s.place.mark
    return { s with keyAllowed := !s.inFlow }.take 1 .value

def takeName (s : Scanner) (l : Bytes → Lexeme) : Except Problem Scanner := do
  let s ← s.saveCandidate
  let start := s.place.mark
  let (name, p) ← s.place.advance.span isWord
  let ended := isBlankOrEnd (p.peek 0) || (p.peek 0).any fun c => "?:,]\x7d%@`".toList.contains c
  if name = [] || !ended then
    throw (p.problem start "did not find expected alphabetic or numeric character")
  return { s.push (l (Text.encode name)) start p.mark with place := p, keyAllowed := false }

def takeTag (s : Scanner) : Except Problem Scanner := do
  let s ← s.saveCandidate
  let (handle, suffix, p) ← readTag s.place
  return { s.push (.tag handle suffix) s.place.mark p.mark with place := p, keyAllowed := false }

def takeBlock (s : Scanner) (literal : Bool) : Except Problem Scanner := do
  let s ← s.dropCandidate
  let start := s.place.mark
  let (text, p) ← readBlock s.indent literal start s.place.advance
  return { s.push (.scalar (Text.encode text) false) start p.mark with
    place := p, keyAllowed := true }

def takeQuoted (s : Scanner) (single : Bool) : Except Problem Scanner := do
  let s ← s.saveCandidate
  let start := s.place.mark
  let (text, p) ← readQuoted single start s.place.limit [] s.place.advance
  return { s.push (.scalar (Text.encode text) false) start p.mark with
    place := p, keyAllowed := false }

def takePlain (s : Scanner) : Except Problem Scanner := do
  let s ← s.saveCandidate
  let start := s.place.mark
  let (text, broken, p) ←
    readPlain s.inFlow (s.indent + 1) start s.place.limit [] {} s.place
  return { s.push (.scalar (Text.encode text) true) start p.mark with
    place := p, keyAllowed := broken }

def startsPlain (inFlow : Bool) (c : Char) (next : Option Char) : Bool :=
  !(isBlank c || isBreak c || "-?:,[]\x7b\x7d#&*!|>'\"%@`".toList.contains c)
    || (c = '-' && !next.any isBlank)
    || (!inFlow && (c = '?' || c = ':') && !isBlankOrEnd next)

def takeToken (s : Scanner) (c : Char) (next : Option Char) : Except Problem Scanner := do
  let s ←
    if c = '[' then s.takeFlowStart .flowSequenceStart
    else if c = '\x7b' then s.takeFlowStart .flowMappingStart
    else if c = ']' then s.takeFlowEnd .flowSequenceEnd
    else if c = '\x7d' then s.takeFlowEnd .flowMappingEnd
    else if c = ',' then s.takeFlowEntry
    else if c = '?' ∧ (s.inFlow ∨ isBlankOrEnd next) then s.takeKey
    else if c = ':' ∧ (s.inFlow ∨ isBlankOrEnd next) then s.takeValue
    else if c = '*' then s.takeName .reference
    else if c = '&' then s.takeName .anchor
    else if c = '!' then s.takeTag
    else if c = '|' ∧ !s.inFlow then s.takeBlock true
    else if c = '>' ∧ !s.inFlow then s.takeBlock false
    else if c = '\'' then s.takeQuoted true
    else if c = '"' then s.takeQuoted false
    else if startsPlain s.inFlow c next then s.takePlain
    else s.refuse "found character that cannot start any token"
  s.passLineComment

def next (s : Scanner) : Except Problem Scanner := do
  let s ← skipToToken s.place.limit s
  let s := s.unrollTo s.place.mark.column
  let p ← s.place.need 4
  let s := { s with place := p }
  match p.peek 0 with
  | none => s.takeEnd
  | some c =>
    if p.mark.column = 0 ∧ c = '%' then s.takeDirective
    else if p.atDocumentMark then
      s.takeDocumentMark (if c = '-' then .documentStart else .documentEnd)
    else if c = '-' ∧ isBlankOrEnd (p.peek 1) then s.takeBlockEntry
    else s.takeToken c (p.peek 1)

def lookahead : Nat := 2

-- Reads tokens until it is clear what the next one is: it is not, as long as it may turn out to be
-- a key.
def fetch : (fuel : Nat) → Scanner → Except Problem Scanner
  | 0, s => .ok s
  | fuel + 1, s => do
    if s.count ≤ s.taken + lookahead then fetch fuel (← s.next)
    else match s.levels[s.taken]? with
      | none => return s
      | some level =>
        match s.candidates[level]? with
        | none => return s
        | some k =>
          if ← s.isValid k then fetch fuel (← s.next)
          else
            return { s with
              candidates := s.candidates.setIfInBounds level { k with possible := false } }

end Scanner

end Denary.Yaml
