import Denary.State
import Denary.World

-- The machine: a program's state together with its surroundings, and what a handler of a digit may
-- do to them.

namespace Denary

structure Environment where
  code : Code
  settings : Settings
  journal : Journal
  reporter : Option Reporter
  terminal : Terminal
  clock : Int

structure Site where
  position : Int
  digit : UInt8
  deriving DecidableEq, Repr, Inhabited

structure Machine where
  state : State
  world : World

inductive Status where
  | done (ok : Bool)
  | silent
  deriving DecidableEq, Repr, Inhabited

-- What is done for a digit. A fault stops the program; what was done before it stays.
abbrev Handler := Environment → Site → Machine → Machine × Except Fault Status

namespace Machine

def print (m : Machine) (t : Bytes) : Machine :=
  { m with world := m.world.print t }

def printLine (m : Machine) (t : Bytes) : Machine :=
  { m with world := m.world.printLine t }

def log (env : Environment) (level : Level) (c : Category) (text : Bytes) (position : Int)
    (m : Machine) : Machine :=
  { m with world := m.world.log env.journal ⟨level, c, text, position⟩ }

def debug (env : Environment) (c : Category) (text : Bytes) (m : Machine) : Machine :=
  m.log env .debug c text (-1)

def trace (env : Environment) (c : Category) (text : Bytes) (m : Machine) : Machine :=
  m.log env .trace c text (-1)

def warn (env : Environment) (site : Site) (c : Category) (text : Bytes) (m : Machine) : Machine :=
  let m := { m with state := { m.state with warnings := m.state.warnings + 1 } }
  m.log env .warn c (Journal.opcodeMessage (Text.ofByte site.digit) text) site.position

def dropped (env : Environment) (site : Site) (e : Error) (m : Machine) : Machine :=
  if env.settings.warnOnCapacity then m.warn env site Category.store e.message
  else m.trace env Category.store
    (ascii "dropped at position " ++ Decimal.integer site.position ++ ascii ": " ++ e.message)

def append (env : Environment) (site : Site) (v : Variable) (m : Machine) : Machine × Bool :=
  match m.state.store.push? v with
  | some store => ({ m with state := { m.state with store := store } }, true)
  | none => (m.dropped env site (.plain .storeFull), false)

end Machine
end Denary
