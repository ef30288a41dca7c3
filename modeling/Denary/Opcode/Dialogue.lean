import Denary.Machine
import Denary.Calendar
import Denary.Text.Blank

-- Dialogue with the user: reading, showing, waiting, colours and the like. Which of the ten
-- operations is done is decided by the last digit of the position.

namespace Denary

inductive DialogueOperation where
  | readInt
  | readLine
  | display
  | clear
  | pause
  | random
  | colour
  | status
  | bell
  | time
  deriving DecidableEq, Repr, Inhabited

namespace DialogueOperation

def ofNumber? (n : Int) : Option DialogueOperation :=
  match n with
  | 0 => some readInt
  | 1 => some readLine
  | 2 => some display
  | 3 => some clear
  | 4 => some pause
  | 5 => some random
  | 6 => some colour
  | 7 => some status
  | 8 => some bell
  | 9 => some time
  | _ => none

def name : DialogueOperation → Bytes
  | readInt => ascii "read-int"
  | readLine => ascii "read-line"
  | display => ascii "display"
  | clear => ascii "clear"
  | pause => ascii "pause"
  | random => ascii "random"
  | colour => ascii "color"
  | status => ascii "status"
  | bell => ascii "bell"
  | time => ascii "time"

def nameOfNumber (n : Int) : Bytes :=
  ((ofNumber? n).map name).getD (ascii "unknown")

def numberAt (position : Int) : Int :=
  position.tmod 10

end DialogueOperation

namespace Opcode

def randomLimit : Nat := 100

def inputFailed (env : Environment) (site : Site) (e : Error) (m : Machine) :
    Machine × Except Fault Status :=
  let text := if e.cause? = some .noInput then ascii "input exhausted" else e.message
  (m.warn env site Category.console text, .ok (.done false))

def takeLine (m : Machine) : Except Error Bytes × Machine :=
  let (line, world) := m.world.readLine
  (line, { m with world := world })

def readInt (env : Environment) (site : Site) (m : Machine) : Machine × Except Fault Status :=
  match takeLine (m.print (ascii "Enter a number: ")) with
  | (.error e, m) => inputFailed env site e m
  | (.ok line, m) =>
    match Decimal.int64? (Text.trim line) with
    | none =>
      (m.warn env site Category.console (ascii "not an integer: " ++ Text.quoted line),
        .ok (.done false))
    | some n =>
      let (m, ok) := m.append env site
        ⟨ascii "input_num_" ++ Decimal.integer site.position, .int n⟩
      (m, .ok (.done ok))

def readText (env : Environment) (site : Site) (m : Machine) : Machine × Except Fault Status :=
  match takeLine (m.print (ascii "Enter text: ")) with
  | (.error e, m) => inputFailed env site e m
  | (.ok line, m) =>
    if line.length ≤ Value.maxTextLength then
      let (m, ok) := m.append env site
        ⟨ascii "input_str_" ++ Decimal.integer site.position, .text line⟩
      (m, .ok (.done ok))
    else
      (m.warn env site Category.console Cause.textTooLong.message, .ok (.done false))

def display (m : Machine) : Machine × Except Fault Status :=
  match m.state.store.last? with
  | none => (m.printLine (ascii "No variables"), .ok (.done false))
  | some v => (m.printLine v.render, .ok (.done true))

def pause (env : Environment) (site : Site) (m : Machine) : Machine × Except Fault Status :=
  match m.world.pause with
  | (.error e, world) => inputFailed env site e { m with world := world }
  | (.ok _, world) => ({ m with world := world }, .ok (.done true))

def random (env : Environment) (site : Site) (m : Machine) : Machine × Except Fault Status :=
  match m.world.random randomLimit with
  | (.error f, world) => ({ m with world := world }, .error f)
  | (.ok n, world) =>
    let (m, ok) := { m with world := world }.append env site
      ⟨ascii "random_" ++ Decimal.integer site.position, .int (Int64.ofNat n)⟩
    (m, .ok (.done ok))

def colourAt (position : Int) : Colour :=
  (position.tdiv 10).tmod Colour.count

def setColour (env : Environment) (c : Colour) (m : Machine) : Machine × Except Fault Status :=
  let m := { m with state := { m.state with colour := c } }
  match m.world.setColour env.terminal c with
  | (.error f, world) => ({ m with world := world }, .error f)
  | (.ok _, world) => ({ m with world := world }, .ok (.done true))

def clear (env : Environment) (m : Machine) : Machine × Except Fault Status :=
  match m.world.clear env.terminal with
  | (.error f, world) => ({ m with world := world }, .error f)
  | (.ok _, world) => ({ m with world := world }, .ok (.done true))

def statusWidth (t : Terminal) : Nat :=
  (min (max t.width 24) 60).toNat

def statusLines (env : Environment) (s : State) : List Bytes :=
  let width := statusWidth env.terminal
  [Text.ruler width 0x3D,
   ascii "Numo 0-9 status",
   Text.ruler width 0x2D,
   ascii "Position:    " ++ Decimal.integer s.cursor ++ ascii "/"
     ++ Decimal.natural env.code.size,
   ascii "Variables:   " ++ Decimal.natural s.store.size,
   ascii "Conditions:  " ++ Decimal.natural s.conditions.size,
   ascii "Loop depth:  " ++ Decimal.natural s.loopDepth,
   ascii "Color:       " ++ Colour.name s.colour,
   ascii "Debug:       " ++ Text.ofBool env.settings.debug,
   Text.ruler width 0x3D]

def dialogue : Handler := fun env site m =>
  let number := DialogueOperation.numberAt site.position
  let m := m.debug env Category.console
    (ascii "IO " ++ DialogueOperation.nameOfNumber number ++ ascii " at position "
      ++ Decimal.integer site.position)
  match DialogueOperation.ofNumber? number with
  | some .readInt => readInt env site m
  | some .readLine => readText env site m
  | some .display => display m
  | some .clear => clear env m
  | some .pause => pause env site m
  | some .random => random env site m
  | some .colour => setColour env (colourAt site.position) m
  | some .status =>
    ((statusLines env m.state).foldl Machine.printLine m, .ok (.done true))
  | some .bell => ({ m with world := m.world.bell }, .ok (.done true))
  | some .time =>
    (m.printLine (ascii "Current time: " ++ Calendar.stamp env.clock), .ok (.done true))
  | none => (m, .ok (.done true))

end Opcode
end Denary
