import Denary.Journal
import Denary.Console
import Denary.Report.Archive

-- Everything outside a running program that it can change: the console, the archive of reports, and
-- the history of what was printed and logged.

namespace Denary

inductive Event where
  | printed (text : Bytes)
  | logged (entry : Entry)
  deriving Repr, Inhabited

namespace Event

def console : Event → Bytes
  | printed t => t
  | logged _ => []

def normal : Event → Bytes
  | printed _ => []
  | logged e => e.normalLine

def errors : Event → Bytes
  | printed _ => []
  | logged e => e.errorLine

def copyFor (receiver : Nat) : Event → Bytes
  | printed _ => []
  | logged e => e.copyFor receiver

end Event

structure World where
  console : Console
  archive : Archive
  -- what happened, newest first
  history : List Event
  deriving Inhabited

namespace World

def events (w : World) : List Event :=
  w.history.reverse

def output (w : World) : Bytes :=
  w.events.flatMap Event.console

def print (w : World) (t : Bytes) : World :=
  { w with history := .printed t :: w.history }

def printLine (w : World) (t : Bytes) : World :=
  w.print (Text.line t)

def log (j : Journal) (r : Record) (w : World) : World :=
  match j.written? r with
  | some e => { w with history := .logged e :: w.history }
  | none => w

def readLine (w : World) : Except Error Bytes × World :=
  let (line, console) := w.console.readLine
  (line, { w with console := console })

def random (w : World) (n : Int) : Except Fault Nat × World :=
  let (r, console) := w.console.random n
  (r, { w with console := console })

def setColour (t : Terminal) (c : Colour) (w : World) : Except Fault Unit × World :=
  let w := { w with console := { w.console with colour := c } }
  if t.ansi then
    match Colour.code? c with
    | some code => (.ok (), w.print code)
    | none => (.error .unknownColour, w)
  else (.ok (), w)

-- Clears the screen, or draws a separator where that cannot be done.
def clear (t : Terminal) (w : World) : Except Fault Unit × World :=
  if t.ansi then (.ok (), w.print (ascii "\x1b[2J\x1b[H"))
  else if t.width < 0 then (.error .negativeWidth, w)
  else (.ok (), w.printLine (Text.ruler t.width.toNat 0x2D))

def pause (w : World) : Except Error Unit × World :=
  let (line, w) := (w.print (ascii "Press any key to continue...")).readLine
  (line.map fun _ => (), w.printLine [])

def bell (w : World) : World :=
  w.print [7]

def resetColour (t : Terminal) (w : World) : World :=
  let w' := if t.ansi ∧ w.console.colour ≠ Colour.plain then w.print plainColour else w
  { w' with console := { w'.console with colour := Colour.plain } }

end World
end Denary
