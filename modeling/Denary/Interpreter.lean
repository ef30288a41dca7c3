import Denary.Dump
import Denary.Library

-- An interpreter: settings, bindings and surroundings that last from one program to the next.

namespace Denary

structure Interpreter where
  settings : Settings
  journal : Journal
  reporter : Option Reporter
  terminal : Terminal
  clock : Int
  table : Table
  world : World

namespace Interpreter

def log (i : Interpreter) (r : Record) : Interpreter :=
  { i with world := i.world.log i.journal r }

def register (i : Interpreter) (digit : UInt8) (h : Option Handler) :
    Interpreter × Except Error Unit :=
  if Table.isBindable digit then
    ({ i with table := i.table.set digit h }.log
      ⟨.trace, Category.command, ascii "Registered opcode: " ++ Text.ofByte digit, -1⟩, .ok ())
  else
    (i, .error (.positioned (ascii "cannot bind digit " ++ Text.quotedByte digit) (-1)
      (some .invalidOpcode)))

def unregister (i : Interpreter) (digit : UInt8) : Interpreter × Bool :=
  if Table.isBindable digit ∧ (i.table digit).isSome then
    ({ i with table := i.table.set digit none }, true)
  else
    (i.log ⟨.warn, Category.none,
      ascii "Attempted to unregister unbound opcode: " ++ Text.ofByte digit, -1⟩, false)

-- Makes the bindings of a library. Digit two has no binding in the core library, but one made
-- before stays.
def registerLibrary (i : Interpreter) (extended : Bool) : Interpreter :=
  (Library.bindings extended).foldl (fun i b => (i.register b.1 (some b.2)).1) i

def start (settings : Settings) (terminal : Terminal) (clock : Int) (world : World) :
    Interpreter :=
  let i : Interpreter :=
    { settings := settings
      journal := Journal.start settings.debug
      reporter := some
        (Report.Destination.ofNames settings.reportDirectory settings.reportFormat).reporter
      terminal := terminal
      clock := clock
      table := Table.empty
      world := world }
  i.registerLibrary settings.extended

def environment (i : Interpreter) (code : Code) : Environment where
  code := code
  settings := i.settings
  journal := i.journal
  reporter := i.reporter
  terminal := i.terminal
  clock := i.clock

structure Execution where
  interpreter : Interpreter
  state : State
  run : Engine.Run

def machine (i : Interpreter) (code : Code) : Machine :=
  let m : Machine := ⟨State.start i.settings, i.world⟩
  m.debug (i.environment code) Category.system
    (ascii "Starting execution of " ++ Decimal.natural code.size ++ ascii " digits")

def conclude (env : Environment) (m : Machine) : Machine :=
  let m := { m with world := m.world.resetColour env.terminal }
  if env.settings.debug then
    m.debug env Category.system
      (ascii "Final state:\n" ++ Dump.snapshot (m.state.snapshot env.code env.settings.debug))
  else m

def execute (i : Interpreter) (code : Code) : Execution :=
  let env := i.environment code
  let run := Engine.run i.table env (i.machine code)
  let m := match run.ending with
    | .finished => conclude env run.machine
    | _ => run.machine
  ⟨{ i with world := m.world }, m.state, run⟩

def executeSource (i : Interpreter) (source : Bytes) : Execution :=
  i.execute (Program.ofSource source)

def executeFile (i : Interpreter) (path : Bytes) : Except Error Execution :=
  (Program.loadFile i.world.archive.disk path).map i.execute

end Interpreter
end Denary
