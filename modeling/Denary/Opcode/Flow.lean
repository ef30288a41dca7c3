import Denary.Opcode.Create

-- Conditions and loops. Both make variables of the digits that follow them; which test or how many
-- rounds they take is decided by their position alone.

namespace Denary

inductive Test where
  | parity
  | threshold
  | switch
  | ceiling
  | floor
  deriving DecidableEq, Repr, Inhabited

namespace Test

def ofNumber? (n : Int) : Option Test :=
  match n with
  | 0 => some parity
  | 1 => some threshold
  | 2 => some switch
  | 3 => some ceiling
  | 4 => some floor
  | _ => none

def name : Test → Bytes
  | parity => ascii "parity"
  | threshold => ascii "threshold"
  | switch => ascii "switch"
  | ceiling => ascii "ceiling"
  | floor => ascii "floor"

def nameOfNumber (n : Int) : Bytes :=
  ((ofNumber? n).map name).getD (ascii "unknown")

def passes (t : Test) (compare : Int) : Bool :=
  match t with
  | parity => compare.tmod 2 == 0
  | threshold => 5 < compare
  | switch => true
  | ceiling => compare < 8
  | floor => 7 ≤ compare

def passesNumber (n compare : Int) : Bool :=
  match ofNumber? n with
  | some t => t.passes compare
  | none => false

-- The number of the test at a position: the decade of the position, five tests in turn.
def numberAt (position : Int) : Int :=
  (position.tdiv 10).tmod 5

def holdsAt (position : Int) : Bool :=
  passesNumber (numberAt position) (position.tmod 10)

end Test

inductive Loop where
  | counted
  | whilst
  | doWhile
  | repeated
  deriving DecidableEq, Repr, Inhabited

namespace Loop

def ofNumber? (n : Int) : Option Loop :=
  match n with
  | 0 => some .counted
  | 1 => some .whilst
  | 2 => some .doWhile
  | 3 => some .repeated
  | _ => none

def name : Loop → Bytes
  | .counted => ascii "for"
  | .whilst => ascii "while"
  | .doWhile => ascii "do-while"
  | .repeated => ascii "repeat"

def nameOfNumber (n : Int) : Bytes :=
  ((ofNumber? n).map name).getD (ascii "unknown")

def numberAt (position : Int) : Int :=
  position.tmod 4

def bodyLength : Nat := 2

def maxWhile : Int := 5

def roundsAt (position : Int) : Int :=
  match ofNumber? (numberAt position) with
  | some .counted => position.tmod 5 + 1
  | some .whilst => min (position.tmod 10) maxWhile
  | some .doWhile => 1 + position.tmod 3
  | some .repeated => 2 + position.tmod 3
  | none => 2 + position.tmod 3

end Loop

def Machine.pushFrame (env : Environment) (site : Site) (f : Frame) (m : Machine) : Machine :=
  match m.state.conditions.push? f with
  | some frames => { m with state := { m.state with conditions := frames } }
  | none => m.dropped env site (.plain .stackFull)

namespace Opcode

-- The handler for conditions. A condition that holds makes the variable of the next digit; one that
-- does not skips that digit.
def condition : Handler := fun env site m =>
  let result := Test.holdsAt site.position
  let shown := Test.nameOfNumber (Test.numberAt site.position) ++ ascii "("
    ++ Decimal.integer (site.position.tmod 10) ++ ascii ")"
  let m := m.pushFrame env site ⟨site.position, result⟩
  if result then
    let m := m.debug env Category.flow
      (ascii "Condition " ++ shown ++ ascii " TRUE: executing next instruction")
    ((m.createNested env (site.position + 1)).1, .ok (.done true))
  else
    let m := m.debug env Category.flow
      (ascii "Condition " ++ shown ++ ascii " FALSE: skipping next instruction")
    ({ m with state := m.state.skip 1 }, .ok (.done true))

def loopRound (env : Environment) (position : Int) (m : Machine) : Machine :=
  let m := (m.createNested env (position + 1)).1
  (m.createNested env (position + 2)).1

def loopRounds (env : Environment) (position : Int) : (rounds : Nat) → Machine → Machine
  | 0, m => m
  | rounds + 1, m => loopRounds env position rounds (loopRound env position m)

def loop : Handler := fun env site m =>
  let rounds := Loop.roundsAt site.position
  let m := m.debug env Category.flow
    (ascii "Loop " ++ Loop.nameOfNumber (Loop.numberAt site.position) ++ ascii " at position "
      ++ Decimal.integer site.position ++ ascii ": " ++ Decimal.integer rounds
      ++ ascii " iterations")
  let m := { m with state := { m.state with loopDepth := m.state.loopDepth + 1 } }
  let m := loopRounds env site.position rounds.toNat m
  let m := { m with state := { m.state with loopDepth := m.state.loopDepth - 1 } }
  ({ m with state := m.state.skip Loop.bodyLength }, .ok (.done true))

end Opcode
end Denary
