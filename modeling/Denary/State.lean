import Denary.Bounded
import Denary.Program
import Denary.Settings
import Denary.Snapshot
import Denary.Console

-- The state of a running program: where it is, what it made, and what it counted.

namespace Denary

-- A signed 64-bit number: positions that grow beyond the largest one start again at the smallest.
def wrap64 (n : Int) : Int :=
  n.bmod 0x10000000000000000

structure Frame where
  position : Int
  result : Bool
  deriving DecidableEq, Repr, Inhabited

structure State where
  cursor : Int
  store : Bounded Variable
  conditions : Bounded Frame
  colour : Colour
  loopDepth : Nat
  -- where the open run of binary digits starts, if one is open
  runStart : Option Nat
  executed : Nat
  binaryRuns : Nat
  warnings : Nat

namespace State

def start (s : Settings) : State where
  cursor := 0
  store := .ofRequest s.maxVariables Settings.defaultVariables
  conditions := .ofRequest s.maxConditions Settings.defaultConditions
  colour := Colour.plain
  loopDepth := 0
  runStart := none
  executed := 0
  binaryRuns := 0
  warnings := 0

def skip (s : State) (n : Int) : State :=
  if 0 < n then { s with cursor := wrap64 (s.cursor + n) } else s

def snapshot (s : State) (code : Code) (debug : Bool) : Snapshot where
  position := s.cursor
  entries := s.store.toList
  total := s.store.size
  stackDepth := s.conditions.size
  loopDepth := s.loopDepth
  codeLength := code.size
  debug := debug
  executed := s.executed
  binaryRuns := s.binaryRuns

def summary (s : State) (code : Code) : Bytes :=
  ascii "ExecutionState(pos " ++ Decimal.integer s.cursor ++ ascii "/"
    ++ Decimal.natural code.size ++ ascii ", " ++ Decimal.natural s.store.size
    ++ ascii " vars, " ++ Decimal.natural s.conditions.size ++ ascii " conditions)"

end State

namespace Bounded

-- Goes back through the first `i` entries, newest first, and adds those of the given kinds to what was
-- found. It stops as soon as there are `n` of them.
def search (store : Bounded Variable) (n : Int) (kinds : List Kind) :
    (i : Nat) → i ≤ store.entries.size → (found : Array Variable) → Array Variable
  | 0, _, found => found
  | i + 1, h, found =>
    if found.size < n then
      let v := store.entries[i]
      store.search n kinds i (Nat.le_of_succ_le h)
        (if kinds.contains v.kind then found.push v else found)
    else found

-- The newest variables of the given kinds, newest first, at most `n` of them.
def lastOfKinds (store : Bounded Variable) (n : Int) (kinds : List Kind) : List Variable :=
  (store.search n kinds store.entries.size (Nat.le_refl _) #[]).toList

def lastOfKind? (store : Bounded Variable) (kinds : List Kind) : Option Variable :=
  (store.lastOfKinds 1 kinds).head?

end Bounded
end Denary
