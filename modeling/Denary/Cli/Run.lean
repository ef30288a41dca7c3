import Denary.Cli.Options
import Denary.Interpreter

-- A run of the command line, from arguments and surroundings to what it leaves behind. Nothing is
-- executed before the arguments are understood, the trace file is there and the program is read.

namespace Denary.Cli

structure Surroundings where
  disk : Disk
  home : Option Bytes
  input : Bytes
  draws : Int64 → List Nat := fun _ => []
  clock : Int := 0
  terminal : Terminal := {}
  colouredOutput : Bool := false
  colouredErrors : Bool := false

structure Outcome where
  exitCode : UInt8
  output : Bytes
  errors : Bytes
  disk : Disk
  execution : Option Interpreter.Execution

def inColour (coloured : Bool) (colour text : Bytes) : Bytes :=
  if coloured then colour ++ text ++ plainColour else text

def settings (p : Preferences) (o : Options) : Settings where
  debug := o.debug
  extended := o.extended
  warnOnCapacity := p.warnOnCapacity
  reportDirectory := o.reportDirectory
  reportFormat := o.reportFormat

def interpreter (s : Surroundings) (p : Preferences) (o : Options) (disk : Disk) : Interpreter :=
  Interpreter.start (settings p o) s.terminal s.clock
    { console := ⟨s.input, none, s.draws o.seed, Colour.plain⟩
      archive := ⟨disk, []⟩
      history := [] }

def outputOf (events : List Event) : Bytes :=
  events.flatMap fun e => e.console ++ e.normal

def opening (banner : Bytes → Bytes) (code : Code) : Bytes :=
  banner (ascii "Loaded Numo 0-9 program: " ++ Decimal.natural code.size ++ ascii " digits\n")
    ++ banner (ascii "Starting Numo 0-9 interpretation...\n")
    ++ Text.line (ascii "Code: " ++ code.toList)
    ++ Text.line (Text.ruler 50 0x3D)

def closing (banner : Bytes → Bytes) (state : State) : Bytes :=
  [Text.newline] ++ banner (ascii "Program execution completed.\n")
    ++ Text.line (ascii "Variables created: " ++ Decimal.natural state.store.size)
    ++ (if 0 < state.warnings then
          Text.line (ascii "Warnings: " ++ Decimal.natural state.warnings)
        else [])

def traceOf (w : World) : Bytes :=
  w.events.flatMap (Event.copyFor 0)

-- A file in which bytes are written at an offset. Bytes between its end and the offset are zero.
def writtenAt (file : Bytes) (offset : Nat) (text : Bytes) : Bytes :=
  if text = [] then file
  else file.take offset ++ Text.ruler (offset - file.length) 0 ++ text
    ++ file.drop (offset + text.length)

def replacedAt (path : Bytes) (run : Engine.Run) : Nat :=
  let replaced := run.dispatches.find? fun d =>
    match d.after.world.archive.disk.read path with
    | .ok data => data ≠ []
    | .error _ => false
  match replaced with
  | some d => (traceOf d.after.world).length
  | none => 0

def withTrace (path : Bytes) (e : Interpreter.Execution) : Disk :=
  let disk := e.interpreter.world.archive.disk
  if path = [] then disk
  else
    let offset := replacedAt path e.run
    let text := (traceOf e.interpreter.world).drop offset
    let file := match disk.read path with
      | .ok data => data
      | .error _ => []
    match disk.write path (writtenAt file offset text) with
    | .ok disk => disk
    | .error _ => disk

def openTrace (o : Options) (disk : Disk) : Except Bytes Disk :=
  if o.trace = [] then .ok disk
  else match disk.write o.trace [] with
    | .ok disk => .ok disk
    | .error e =>
      .error (ascii "Error: cannot create trace file " ++ o.trace ++ ascii ": "
        ++ Text.line e.message)

def ready (i : Interpreter) (o : Options) (disk : Disk) : Interpreter :=
  { i with
    journal := if o.trace = [] then i.journal else i.journal.attach 1
    world := { i.world with archive := { i.world.archive with disk := disk }, history := [] } }

def execute (s : Surroundings) (p : Preferences) (o : Options) (file : Bytes) (disk : Disk) :
    Outcome :=
  let complain (text : Bytes) : Bytes := inColour s.colouredErrors warningColour text
  let banner (text : Bytes) : Bytes := inColour s.colouredOutput p.bannerColour text
  let i := interpreter s p o disk
  let i := { i with journal := i.journal.setColoured s.colouredErrors }
  let started := outputOf i.world.events
  match openTrace o disk with
  | .error text => ⟨1, started, complain text, disk, none⟩
  | .ok disk =>
    match Program.loadFile disk file with
    | .error e =>
      ⟨1, started, complain (ascii "Error: " ++ Text.line e.message), disk, none⟩
    | .ok code =>
      let e := (ready i o disk).execute code
      let events := e.interpreter.world.events
      { exitCode := 0
        output := started ++ opening banner code ++ outputOf events ++ closing banner e.state
        errors := events.flatMap Event.errors
        disk := withTrace o.trace e
        execution := some e }

def obey (s : Surroundings) (p : Preferences) (arguments : List Bytes) (disk : Disk) : Outcome :=
  match Options.parse p arguments with
  | .error e => ⟨1, [], complaint e, disk, none⟩
  | .ok o =>
    if o.help then ⟨0, usage, [], disk, none⟩
    else match o.files with
      | [] => ⟨1, usage, [], disk, none⟩
      | file :: _ => execute s p o file disk

def runWith (s : Surroundings) (arguments : List Bytes) (loaded : Preferences.Loaded) : Outcome :=
  let outcome := obey s loaded.preferences arguments loaded.disk
  { outcome with
    errors := inColour (s.colouredErrors && !loaded.warning.isEmpty) warningColour loaded.warning
      ++ outcome.errors }

def run (s : Surroundings) (arguments : List Bytes) : Option Outcome :=
  (Preferences.load s.disk s.home).map (runWith s arguments)

end Denary.Cli
