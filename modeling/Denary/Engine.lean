import Denary.Bits
import Denary.Machine

-- The engine: it takes the digits of a program one after another. Zeros and ones open a run of
-- binary digits, a two closes it, and the other digits are handled by what the table binds to them.
-- The cursor moves forward, but a handler that skips too far takes it past the largest position and
-- so back.

namespace Denary

abbrev Table := UInt8 → Option Handler

namespace Table

def empty : Table := fun _ => none

def isBindable (digit : UInt8) : Bool :=
  0x32 ≤ digit && digit ≤ 0x39

def set (t : Table) (digit : UInt8) (h : Option Handler) : Table :=
  fun d => if d = digit then h else t d

def bound (t : Table) : Bytes :=
  [0x32, 0x33, 0x34, 0x35, 0x36, 0x37, 0x38, 0x39].filter fun d => (t d).isSome

end Table

namespace Engine

inductive Outcome where
  | collected
  | closed (span : Span)
  | unknown
  | unbound
  | called (status : Status)
  deriving DecidableEq, Repr, Inhabited

structure Dispatch where
  site : Site
  outcome : Outcome
  before : Machine
  -- the machine after the digit, before the cursor moves on
  after : Machine

namespace Dispatch

def status (d : Dispatch) : Option Status :=
  match d.outcome with
  | .called status => some status
  | _ => none

def closed? (d : Dispatch) : Option Span :=
  match d.outcome with
  | .closed span => some span
  | _ => none

end Dispatch

inductive Ending where
  | finished
  | crashed (fault : Fault)
  -- the cursor never passes the last digit
  | runaway
  deriving DecidableEq, Repr, Inhabited

structure Run where
  dispatches : List Dispatch
  -- the run of binary digits that was closed behind the last digit, if one was open there
  trailing : Option Span
  machine : Machine
  ending : Ending

def Run.closed (r : Run) : List Span :=
  r.dispatches.filterMap Dispatch.closed? ++ r.trailing.toList

def siteOf (env : Environment) (m : Machine) : Site :=
  ⟨m.state.cursor, (env.code.at? m.state.cursor).getD 0⟩

-- The run of binary digits that comes to its end at the cursor. A two ends it, and so does the end
-- of the code.
def closing? (env : Environment) (m : Machine) : Option Span :=
  if m.state.cursor < env.code.size then
    if (siteOf env m).digit = 0x32 then
      m.state.runStart.map fun start => ⟨start, m.state.cursor.toNat⟩
    else none
  else m.state.runStart.map fun start => ⟨start, env.code.size⟩

def closeRun (env : Environment) (span : Span) (m : Machine) : Machine × Except Fault Unit :=
  let m := { m with state := { m.state with
    runStart := none, binaryRuns := m.state.binaryRuns + 1 } }
  let m := m.debug env Category.binary
    (ascii "Executing binary sequence from position " ++ Decimal.natural span.start
      ++ ascii " to " ++ Decimal.natural span.stop)
  match env.code.slice? span with
  | some digits => (m.printLine (Bits.decode digits), .ok ())
  | none => (m, .error .brokenSpan)

def openRun (position : Int) (m : Machine) : Machine :=
  match m.state.runStart with
  | some _ => m
  | none => { m with state := { m.state with runStart := some position.toNat } }

def call (h : Handler) (env : Environment) (site : Site) (m : Machine) :
    Machine × Except Fault Status :=
  let m := { m with state := { m.state with executed := m.state.executed + 1 } }
  match h env site m with
  | (m, .ok (.done false)) =>
    (m.debug env Category.command
      (ascii "opcode " ++ Text.ofByte site.digit ++ ascii " at position "
        ++ Decimal.integer site.position ++ ascii " did not complete"), .ok (.done false))
  | answer => answer

def announce (env : Environment) (site : Site) (m : Machine) : Machine :=
  if env.settings.debug then
    m.debug env Category.command
      (ascii "Position " ++ Decimal.integer site.position ++ ascii ": Processing digit '"
        ++ Text.ofByte site.digit ++ ascii "'")
  else m

def warnUnknown (env : Environment) (site : Site) (m : Machine) : Machine :=
  let m := { m with state := { m.state with warnings := m.state.warnings + 1 } }
  m.log env .warn Category.parse (ascii "Unknown digit: " ++ Text.quotedByte site.digit)
    site.position

def step (t : Table) (env : Environment) (m : Machine) : Machine × Except Fault Outcome :=
  let site := siteOf env m
  let m := announce env site m
  if site.digit = 0x30 ∨ site.digit = 0x31 then (openRun site.position m, .ok .collected)
  else match closing? env m with
    | some span =>
      match closeRun env span m with
      | (m, .ok _) => (m, .ok (.closed span))
      | (m, .error fault) => (m, .error fault)
    | none =>
      if ¬ Text.isDigit site.digit then (warnUnknown env site m, .ok .unknown)
      else match t site.digit with
        | none =>
          (m.trace env Category.command
            (ascii "no handler bound for digit " ++ Text.ofByte site.digit), .ok .unbound)
        | some h =>
          match call h env site m with
          | (m, .ok status) => (m, .ok (.called status))
          | (m, .error fault) => (m, .error fault)

def advance (m : Machine) : Machine :=
  { m with state := { m.state with cursor := wrap64 (m.state.cursor + 1) } }

def finish (env : Environment) (m : Machine) : Run :=
  match closing? env m with
  | none => ⟨[], none, m, .finished⟩
  | some span =>
    match closeRun env span m with
    | (m, .ok _) => ⟨[], some span, m, .finished⟩
    | (m, .error fault) => ⟨[], none, m, .crashed fault⟩

end Engine

open Engine in
-- Takes digits until the cursor has passed the last one. There is no run where it never does.
def Machine.run? (m : Machine) (t : Table) (env : Environment) : Option Run :=
  if m.state.cursor < env.code.size then
    match step t env m with
    | (after, .error fault) => some ⟨[], none, after, .crashed fault⟩
    | (after, .ok outcome) => do
      let rest ← advance after |>.run? t env
      some { rest with dispatches := ⟨siteOf env m, outcome, m, after⟩ :: rest.dispatches }
  else some (finish env m)
partial_fixpoint

def Engine.run (t : Table) (env : Environment) (m : Machine) : Engine.Run :=
  (m.run? t env).getD ⟨[], none, m, .runaway⟩

end Denary
