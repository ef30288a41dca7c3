import Denary.Yaml.Encoding
import Denary.Yaml.Problem

-- A YAML text while it is read. Characters are decoded only when they are needed, so a place knows
-- some of the characters ahead, and asking for more of them can fail.

namespace Denary.Yaml

def hasAtLeast {α : Type} : (n : Nat) → List α → Bool
  | 0, _ => true
  | _ + 1, [] => false
  | n + 1, _ :: l => hasAtLeast n l

structure Place where
  rest : List Char
  -- how often the end of the text was met behind the characters ahead
  ends : Nat
  later : List Stretch
  -- the character that stood here when more was last decoded
  first : Option Char
  mark : Mark
  fresh : Bool
  -- a bound on the number of steps that it takes to pass the whole text
  limit : Nat
  deriving Inhabited

namespace Place

def ofBytes (t : Bytes) : Place where
  rest := []
  ends := 0
  later := decodeText t
  first := none
  mark := Mark.start
  fresh := false
  limit := t.length + 16

-- Whether `n` characters are known, where the end of the text counts as one.
def knows (p : Place) (n : Nat) : Bool :=
  hasAtLeast (n - p.ends) p.rest

-- Decodes stretches until `n` characters are known or the end is met. A problem stays behind the
-- characters in front of it.
def extend (n : Nat) : List Stretch → Place → Place × Option Problem
  | [], p => ({ p with later := [], ends := p.ends + 1 }, none)
  | s :: later, p =>
    let p := { p with rest := p.rest ++ s.chars, later := later }
    match s.problem with
    | some text => ({ p with later := [⟨[], some text⟩] }, some (.bytes (ascii text)))
    | none => if p.knows n then (p, none) else extend n later p

def look (p : Place) (n : Nat) : Place × Option Problem :=
  if p.knows n then (p, none)
  else
    let (q, problem) := extend n p.later p
    ({ q with first := q.rest.head? }, problem)

def need (p : Place) (n : Nat) : Except Problem Place :=
  match p.look n with
  | (q, none) => .ok q
  | (_, some problem) => .error problem

def peek (p : Place) (n : Nat) : Option Char :=
  p.rest[n]?

def advance (p : Place) : Place :=
  match p.rest with
  | c :: rest => { p with rest := rest, mark := p.mark.over 1, fresh := p.fresh && isBlank c }
  | [] => { p with ends := p.ends - 1, mark := p.mark.over 1, fresh := false }

def skip (p : Place) : (n : Nat) → Place
  | 0 => p
  | n + 1 => p.advance.skip n

def lineEnd (p : Place) : List Char × Place :=
  match p.rest with
  | '\r' :: '\n' :: rest =>
    (['\n'], { p with rest := rest, mark := p.mark.nextLine 2, fresh := true })
  | c :: rest =>
    if isBreak c then
      (if c.toNat = 0x2028 || c.toNat = 0x2029 then [c] else ['\n'],
        { p with rest := rest, mark := p.mark.nextLine 1, fresh := true })
    else ([], p)
  | [] => ([], p)

def passLineEnd (p : Place) : Except Problem Place :=
  if (p.peek 0).any isBreak then (p.need 2).map fun p => p.lineEnd.2 else .ok p

-- The characters ahead that satisfy `f`, none of which ends a line, and the place behind them.
def spanGo (f : Char → Bool) :
    (fuel : Nat) → List Char → Place → Except Problem (List Char × Place)
  | 0, cs, p => .ok (cs.reverse, p)
  | fuel + 1, cs, p => do
    let p ← p.need 1
    match p.peek 0 with
    | some c => if f c then spanGo f fuel (c :: cs) p.advance else return (cs.reverse, p)
    | none => return (cs.reverse, p)

def span (p : Place) (f : Char → Bool) : Except Problem (List Char × Place) :=
  spanGo f p.limit [] p

def skipWhile (p : Place) (f : Char → Bool) : Except Problem Place :=
  (p.span f).map (·.2)

def atDocumentMark (p : Place) : Bool :=
  p.mark.column = 0
    && (match p.rest with
      | '-' :: '-' :: '-' :: _ => true
      | '.' :: '.' :: '.' :: _ => true
      | _ => false)
    && isBlankOrEnd (p.peek 3)

def problem (p : Place) (context : Mark) (text : String) : Problem :=
  .token (ascii text) context p.mark

end Place

end Denary.Yaml
