import Denary.Yaml.Source

-- Scalars of a YAML text as they are read: plain, in quotes, and as blocks. Line ends inside a
-- scalar are folded: one becomes a blank, and of several all but the first are kept. A text is
-- gathered with its newest character first.

namespace Denary.Yaml

-- Blanks and line ends between two stretches of a scalar, newest first.
structure Gap where
  broken : Bool := false
  spaces : List Char := []
  first : List Char := []
  more : List Char := []

def Gap.onto (g : Gap) (text : List Char) : List Char :=
  if !g.broken then g.spaces ++ text
  else if g.first ≠ ['\n'] then g.more ++ g.first ++ text
  else if g.more = [] then ' ' :: text
  else g.more ++ text

def Gap.withLineEnd (g : Gap) (e : List Char) : Gap :=
  if g.broken then { g with more := e ++ g.more }
  else { g with broken := true, spaces := [], first := e }

def Gap.withBlank (g : Gap) (c : Char) : Gap :=
  if g.broken then g else { g with spaces := c :: g.spaces }

-- Reads the blanks and line ends ahead. In a plain scalar a tab must not stand where the
-- indentation `indent` has not been reached.
def readGap (indent : Option Int) (start : Mark) :
    (fuel : Nat) → Gap → Place → Except Problem (Gap × Place)
  | 0, g, p => .ok (g, p)
  | fuel + 1, g, p => do
    let p ← p.need 1
    match p.peek 0 with
    | none => return (g, p)
    | some c =>
      if isBlank c then
        let early := match indent with
          | some i => g.broken && (p.mark.column : Int) < i && c = '\t'
          | none => false
        if early then
          throw (p.problem start "found a tab character that violates indentation")
        else readGap indent start fuel (g.withBlank c) p.advance
      else if isBreak c then
        let (e, p) := (← p.need 2).lineEnd
        readGap indent start fuel (g.withLineEnd e) p
      else return (g, p)

-- Whether a plain scalar ends in front of a character: at a blank, a colon before one, or, inside
-- brackets, a mark of theirs.
def endsPlain (inFlow : Bool) (c : Char) (next : Option Char) : Bool :=
  isBlank c || isBreak c || (c = ':' && isBlankOrEnd next)
    || (inFlow && ",?[]\x7b\x7d".toList.contains c)

def readPlainStretch (inFlow : Bool) :
    (fuel : Nat) → List Char → Place → Except Problem (List Char × Place)
  | 0, text, p => .ok (text, p)
  | fuel + 1, text, p =>
    match p.peek 0 with
    | none => .ok (text, p)
    | some c =>
      if endsPlain inFlow c (p.peek 1) then .ok (text, p)
      else match p.advance.need 2 with
        | .error e => .error e
        | .ok p => readPlainStretch inFlow fuel (c :: text) p

-- A plain scalar: its text, whether it ended behind a line end, and the place behind it.
def readPlain (inFlow : Bool) (indent : Int) (start : Mark) :
    (fuel : Nat) → List Char → Gap → Place → Except Problem (List Char × Bool × Place)
  | 0, text, g, p => .ok (text.reverse, g.broken, p)
  | fuel + 1, text, g, p => do
    let p ← p.need 4
    let ended := match p.peek 0 with
      | some c => c = '#' || endsPlain inFlow c (p.peek 1)
      | none => true
    if ended || p.atDocumentMark then return (text.reverse, g.broken, p)
    let (text, p) ← readPlainStretch inFlow p.limit (g.onto text) p
    if !(p.peek 0).any (fun c => isBlank c || isBreak c) then return (text.reverse, false, p)
    let (g, p) ← readGap (some indent) start p.limit {} p
    if !inFlow && (p.mark.column : Int) < indent then return (text.reverse, g.broken, p)
    readPlain inFlow indent start fuel text g p

def readSingle : (fuel : Nat) → List Char → Place → Except Problem (List Char × Place)
  | 0, text, p => .ok (text, p)
  | fuel + 1, text, p => do
    match p.peek 0 with
    | none => return (text, p)
    | some c =>
      if c = '\'' && p.peek 1 = some '\'' then readSingle fuel (c :: text) (← (p.skip 2).need 2)
      else if c = '\'' || isBlank c || isBreak c then return (text, p)
      else readSingle fuel (c :: text) (← p.advance.need 2)

def escaped? (c : Char) : Option Char :=
  match c with
  | '0' => some (Char.ofNat 0)
  | 'a' => some (Char.ofNat 7)
  | 'b' => some (Char.ofNat 8)
  | 't' => some '\t'
  | '\t' => some '\t'
  | 'n' => some '\n'
  | 'v' => some (Char.ofNat 11)
  | 'f' => some (Char.ofNat 12)
  | 'r' => some '\r'
  | 'e' => some (Char.ofNat 27)
  | ' ' => some ' '
  | '"' => some '"'
  | '\'' => some '\''
  | '\\' => some '\\'
  | 'N' => some (Char.ofNat 0x85)
  | '_' => some (Char.ofNat 0xA0)
  | 'L' => some (Char.ofNat 0x2028)
  | 'P' => some (Char.ofNat 0x2029)
  | _ => none

def escapeLength? (c : Char) : Option Nat :=
  match c with
  | 'x' => some 2
  | 'u' => some 4
  | 'U' => some 8
  | _ => none

def hexNumber? (n : Nat) (cs : List Char) : Option Nat :=
  let digits := cs.take n
  if digits.length = n then
    digits.foldlM (fun v c => (hexDigit? c).map fun d => v * 16 + d) 0
  else none

def readEscape (start : Mark) (p : Place) : Except Problem (Char × Place) := do
  let unknown := p.problem start "found unknown escape character"
  match p.peek 1 with
  | none => throw unknown
  | some c =>
    match escaped? c, escapeLength? c with
    | some d, _ => return (d, p.skip 2)
    | none, none => throw unknown
    | none, some n =>
      let p ← (p.skip 2).need n
      match hexNumber? n p.rest with
      | none => throw (p.problem start "did not find expected hexdecimal number")
      | some v =>
        if isHighSurrogate v || isLowSurrogate v || 0x10FFFF < v then
          throw (p.problem start "found invalid Unicode character escape code")
        else return (Char.ofNat v, p.skip n)

-- The stretch of a double-quoted scalar ahead, with its escapes resolved. The flag says that it
-- ended with an escaped line end.
def readDouble (start : Mark) :
    (fuel : Nat) → List Char → Place → Except Problem (List Char × Bool × Place)
  | 0, text, p => .ok (text, false, p)
  | fuel + 1, text, p => do
    match p.peek 0 with
    | none => return (text, false, p)
    | some c =>
      if c = '"' || isBlank c || isBreak c then return (text, false, p)
      else if c ≠ '\\' then readDouble start fuel (c :: text) (← p.advance.need 2)
      else if (p.peek 1).any isBreak then return (text, true, (← p.need 3).advance.lineEnd.2)
      else
        let (d, p) ← readEscape start p
        readDouble start fuel (d :: text) (← p.need 2)

def readQuoted (single : Bool) (start : Mark) :
    (fuel : Nat) → List Char → Place → Except Problem (List Char × Place)
  | 0, text, p => .ok (text.reverse, p)
  | fuel + 1, text, p => do
    let p ← p.need 4
    if p.atDocumentMark then throw (p.problem start "found unexpected document indicator")
    if (p.peek 0).isNone then throw (p.problem start "found unexpected end of stream")
    let (text, escapedEnd, p) ←
      if single then (readSingle p.limit text p).map fun (text, p) => (text, false, p)
      else readDouble start p.limit text p
    let p ← p.need 1
    if p.peek 0 = some (if single then '\'' else '"') then return (text.reverse, p.advance)
    let (g, p) ← readGap none start p.limit { broken := escapedEnd } p
    readQuoted single start fuel (g.onto text) p

inductive Chomping where
  | strip
  | clip
  | keep
  deriving DecidableEq, Repr, Inhabited

def chompingMark? (p : Place) : Option Chomping :=
  match p.peek 0 with
  | some '+' => some .keep
  | some '-' => some .strip
  | _ => none

def readIndentation (start : Mark) (p : Place) : Except Problem (Nat × Place) :=
  match p.peek 0 with
  | some c =>
    if c = '0' then .error (p.problem start "found an indentation indicator equal to 0")
    else if '1' ≤ c ∧ c ≤ '9' then .ok (c.toNat - 48, p.advance)
    else .ok (0, p)
  | none => .ok (0, p)

def readHeader (start : Mark) (p : Place) : Except Problem (Chomping × Nat × Place) := do
  let p ← p.need 1
  match chompingMark? p with
  | some c =>
    let (n, p) ← readIndentation start (← p.advance.need 1)
    return (c, n, p)
  | none =>
    let (n, p) ← readIndentation start p
    let p ← p.need 1
    match chompingMark? p with
    | some c => return (c, n, p.advance)
    | none => return (.clip, n, p)

-- Past the blanks of the indentation. One of zero is not known yet, and any number of blanks
-- belongs to it.
def passIndentation (indent : Nat) : (fuel : Nat) → Place → Except Problem Place
  | 0, p => .ok p
  | fuel + 1, p => do
    let p ← p.need 1
    if (indent = 0 || p.mark.column < indent) && p.peek 0 = some ' ' then
      passIndentation indent fuel p.advance
    else return p

-- Reads indentation and empty lines, up to a line with text. An indentation of zero becomes that of
-- the deepest blank line or of the line with text.
def readBlockBreaks (outer : Int) (start : Mark) :
    (fuel : Nat) → (indent deepest : Nat) → List Char → Place →
      Except Problem (Nat × List Char × Place)
  | 0, indent, _, breaks, p => .ok (indent, breaks, p)
  | fuel + 1, indent, deepest, breaks, p => do
    let p ← passIndentation indent p.limit p
    let deepest := max deepest p.mark.column
    if (indent = 0 || p.mark.column < indent) && p.peek 0 = some '\t' then
      throw (p.problem start "found a tab character where an indentation space is expected")
    if (p.peek 0).any isBreak then
      let (e, p) := (← p.need 2).lineEnd
      readBlockBreaks outer start fuel indent deepest (e ++ breaks) p
    else
      let settled := if indent = 0 then max (max deepest (outer + 1).toNat) 1 else indent
      return (settled, breaks, p)

structure BlockText where
  text : List Char
  lineEnd : List Char
  breaks : List Char

-- The lines of a block. A line that starts with a blank is never joined with another.
def readBlockLines (outer : Int) (literal : Bool) (start : Mark) (indent : Nat) :
    (fuel : Nat) → (afterBlank : Bool) → BlockText → Place → Except Problem (BlockText × Place)
  | 0, _, b, p => .ok (b, p)
  | fuel + 1, afterBlank, b, p => do
    match p.peek 0 with
    | none => return (b, p)
    | some c =>
      if p.mark.column ≠ indent then return (b, p)
      let folded := !literal && !afterBlank && !isBlank c && b.lineEnd = ['\n']
      let joint := if !folded then b.lineEnd else if b.breaks = [] then [' '] else []
      let (line, p) ← p.span fun c => !isBreak c
      let (lineEnd, p) := (← p.need 2).lineEnd
      let (_, breaks, p) ← readBlockBreaks outer start p.limit indent 0 [] p
      let text := line.reverse ++ (b.breaks ++ (joint ++ b.text))
      readBlockLines outer literal start indent fuel (isBlank c) ⟨text, lineEnd, breaks⟩ p

-- A block, from behind its first mark. `outer` is the indentation of what surrounds it.
def readBlock (outer : Int) (literal : Bool) (start : Mark) (p : Place) :
    Except Problem (List Char × Place) := do
  let (chomping, increment, p) ← readHeader start p
  let p ← p.skipWhile isBlank
  let p ← if p.peek 0 = some '#' then p.skipWhile fun c => !isBreak c else pure p
  if !isBreakOrEnd (p.peek 0) then
    throw (p.problem start "did not find expected comment or line break")
  let p ← p.passLineEnd
  let indent := if increment = 0 then 0 else outer.toNat + increment
  let (indent, breaks, p) ← readBlockBreaks outer start p.limit indent 0 [] p
  let (b, p) ← readBlockLines outer literal start indent p.limit false ⟨[], [], breaks⟩ p
  let tail := match chomping with
    | .strip => []
    | .clip => b.lineEnd
    | .keep => b.breaks ++ b.lineEnd
  return ((tail ++ b.text).reverse, p)

end Denary.Yaml
