import Denary.Decimal.Integer

-- Places in a YAML text, and what can be wrong with one. Lines are named in messages only from the
-- second one on.

namespace Denary.Yaml

-- A place in a text, counted in characters, lines and columns from zero.
structure Mark where
  index : Nat
  line : Nat
  column : Nat
  deriving DecidableEq, Repr, Inhabited

def Mark.start : Mark := ⟨0, 0, 0⟩

def Mark.over (m : Mark) (n : Nat) : Mark :=
  ⟨m.index + n, m.line, m.column + n⟩

def Mark.nextLine (m : Mark) (n : Nat) : Mark :=
  ⟨m.index + n, m.line + 1, 0⟩

inductive Problem where
  | bytes (text : Bytes)
  | token (text : Bytes) (context place : Mark)
  | structural (text : Bytes) (context : Option Mark) (place : Mark)
  | content (text : Bytes)
  | types (errors : List Bytes)
  deriving Repr, Inhabited

-- The line that a problem is reported for, if it is not the first one: that of the context, or else
-- that of the place.
def reportedLine (context : Option Mark) (place : Mark) : Option Nat :=
  let fromContext := (context.map (·.line)).getD 0
  if fromContext ≠ 0 then some fromContext
  else if place.line ≠ 0 then some place.line
  else none

def atLine (line : Option Nat) (text : Bytes) : Bytes :=
  match line with
  | some n => ascii "line " ++ Decimal.natural n ++ ascii ": " ++ text
  | none => text

-- The wording of a problem. Lines count from one for tokens; for the structure the count starts one
-- later.
def Problem.message : Problem → Bytes
  | bytes t => ascii "yaml: " ++ t
  | token t context place =>
    ascii "yaml: " ++ atLine ((reportedLine (some context) place).map (· + 1)) t
  | structural t context place => ascii "yaml: " ++ atLine (reportedLine context place) t
  | content t => ascii "yaml: " ++ t
  | types errors =>
    ascii "yaml: unmarshal errors:\n  " ++ Text.joined (ascii "\n  ") errors

end Denary.Yaml
