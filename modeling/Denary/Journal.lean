import Denary.Text.Case
import Denary.Text.Json
import Denary.Decimal.Integer

-- The journal: which messages are written, how their lines read, and where they go. Messages of low
-- severity are written only when the journal is enabled for their category; warnings and errors
-- always are.

namespace Denary

-- How serious a message is. Levels outside the list are never written.
inductive Level where
  | trace
  | info
  | debug
  | notice
  | warn
  | error
  | fatal
  | unlisted (number : Int)
  deriving DecidableEq, Repr, Inhabited

namespace Level

def ofNumber (n : Int) : Level :=
  match n with
  | 0 => trace
  | 1 => info
  | 2 => debug
  | 3 => notice
  | 4 => warn
  | 5 => error
  | 6 => fatal
  | n => unlisted n

def isLow : Level → Bool
  | trace => true
  | info => true
  | debug => true
  | _ => false

def severity : Level → Bytes
  | trace => ascii "DEBUG"
  | debug => ascii "DEBUG"
  | info => ascii "INFO"
  | notice => ascii "INFO"
  | warn => ascii "WARN"
  | _ => ascii "ERROR"

end Level

-- The part of the program that a message is about. The empty name stands for none.
abbrev Category := Bytes

namespace Category

def none : Category := []

def parse : Category := ascii "parse"

def command : Category := ascii "command"

def store : Category := ascii "variable"

def console : Category := ascii "io"

def math : Category := ascii "math"

def string : Category := ascii "string"

def flow : Category := ascii "flow"

def binary : Category := ascii "binary"

def report : Category := ascii "report"

def system : Category := ascii "system"

def all : List Category :=
  [parse, command, store, console, math, string, flow, binary, report, system]

end Category

-- One message. A negative position stands for none.
structure Record where
  level : Level
  category : Category
  message : Bytes
  position : Int
  deriving DecidableEq, Repr, Inhabited

namespace Record

def mark (r : Record) : Bytes :=
  let suffix := if r.category = Category.none then [] else 0x3A :: r.category
  match r.level with
  | .trace => ascii "[TRACE" ++ suffix ++ ascii "]"
  | .info => ascii "[INFO" ++ suffix ++ ascii "]"
  | .debug => ascii "[DEBUG" ++ suffix ++ ascii "]"
  | .notice => ascii "[Numo" ++ suffix ++ ascii " NOTICE]"
  | .warn => ascii "[Numo" ++ suffix ++ ascii " WARN]"
  | .error => ascii "[Numo" ++ suffix ++ ascii " ERROR]"
  | .fatal => ascii "[Numo" ++ suffix ++ ascii " ERROR]"
  | .unlisted _ => []

def text (r : Record) : Bytes :=
  r.mark ++ [Text.space] ++ r.message
    ++ (if 0 ≤ r.position then ascii " (at position " ++ Decimal.integer r.position ++ ascii ")"
        else [])

-- The copy of a record, an object on a line of its own. The time of the message, which stands in
-- front of the level, is left out.
def structured (r : Record) : Bytes :=
  Text.line (ascii "\x7b\"level\":\"" ++ r.level.severity ++ ascii "\",\"msg\":"
    ++ Text.json r.message ++ ascii ",\"category\":" ++ Text.json r.category
    ++ (if 0 ≤ r.position then ascii ",\"position\":" ++ Decimal.integer r.position else [])
    ++ ascii "\x7d")

end Record

def warningColour : Bytes := ascii "\x1b[93m"

def plainColour : Bytes := ascii "\x1b[0m"

structure Journal where
  enabled : Bool
  categories : List Category
  coloured : Bool
  receivers : Nat
  deriving Repr, Inhabited

structure Entry where
  record : Record
  coloured : Bool
  receivers : Nat
  deriving DecidableEq, Repr, Inhabited

namespace Entry

def normalLine (e : Entry) : Bytes :=
  if e.record.level.isLow then Text.line e.record.text else []

def errorLine (e : Entry) : Bytes :=
  if e.record.level.isLow then []
  else if e.coloured then Text.line (warningColour ++ e.record.text ++ plainColour)
  else Text.line e.record.text

def copyFor (receiver : Nat) (e : Entry) : Bytes :=
  if receiver < e.receivers then e.record.structured else []

end Entry

namespace Journal

def start (enabled : Bool) : Journal where
  enabled := enabled
  categories := if enabled then Category.all else []
  coloured := false
  receivers := 0

def setEnabled (j : Journal) (enabled : Bool) : Journal :=
  { j with enabled := enabled }

def isEnabled (j : Journal) (c : Category) : Bool :=
  j.categories.contains c

def enable (j : Journal) (c : Category) : Journal :=
  { j with categories := c :: j.categories.filter (· ≠ c) }

def disable (j : Journal) (c : Category) : Journal :=
  { j with categories := j.categories.filter (· ≠ c) }

def enableAll (j : Journal) : Journal :=
  Category.all.foldl enable j

def attach (j : Journal) (receivers : Nat) : Journal :=
  { j with receivers := receivers }

def setColoured (j : Journal) (coloured : Bool) : Journal :=
  { j with coloured := coloured }

def accepts (j : Journal) (level : Level) (c : Category) : Bool :=
  match level with
  | .trace => j.enabled && (c == Category.none || j.isEnabled c)
  | .info => j.enabled && (c == Category.none || j.isEnabled c)
  | .debug => j.enabled && (c == Category.none || j.isEnabled c)
  | .unlisted _ => false
  | _ => true

def written? (j : Journal) (r : Record) : Option Entry :=
  if j.accepts r.level r.category then some ⟨r, j.coloured, j.receivers⟩ else none

def opcodeMessage (opcode message : Bytes) : Bytes :=
  if opcode = [] then message
  else ascii "OPCODE " ++ Text.upper opcode ++ ascii ": " ++ message

end Journal
end Denary
