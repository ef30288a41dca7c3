import Denary.Proofs.Library

-- What a machine says on its way: the texts that it prints, its warnings, and the snapshots that it
-- hands over to the reporter. Notes in the journal that are no warnings are not among them; all that
-- is said of these is that a journal that is not enabled takes none.

namespace Denary

namespace Event

def text? : Event → Option Bytes
  | printed t => some t
  | logged _  => none

def warning? : Event → Option Record
  | printed _ => none
  | logged e  => if e.record.level = .warn then some e.record else none

-- What an event adds to the error output: a record that is not of low severity.
def error? : Event → Option Entry
  | printed _ => none
  | logged e  => if e.record.level.isLow then none else some e

-- What an event adds to the normal output besides what is printed: a record of low severity.
def note? : Event → Option Entry
  | printed _ => none
  | logged e  => if e.record.level.isLow then some e else none

theorem flatMap_console (es : List Event) : es.flatMap console = (es.filterMap text?).flatten := by
  induction es
  case nil => rfl
  case cons e es hi =>
    cases e
    case printed t => simp [console, text?, hi]
    case logged e  => simp [console, text?, List.filterMap_cons, hi]

end Event

-- What a journal makes of a record that it writes.
def Journal.entry (j : Journal) (r : Record) : Entry :=
  ⟨r, j.coloured, j.receivers⟩

namespace World

variable (w : World)

-- The texts that were printed, oldest first.
def printed : List Bytes :=
  w.events.filterMap Event.text?

-- The warnings that were written, oldest first.
def warnings : List Record :=
  w.events.filterMap Event.warning?

-- What went to the error output, oldest first.
def errors : List Entry :=
  w.events.filterMap Event.error?

-- The notes that were written, oldest first.
def notes : List Entry :=
  w.events.filterMap Event.note?

theorem output_eq_flatten : w.output = w.printed.flatten :=
  Event.flatMap_console w.events

@[simp]
theorem printed_print (t : Bytes) : (w.print t).printed = w.printed ++ [t] := by
  simp [printed, events, print, Event.text?]

@[simp]
theorem printed_log (j : Journal) (r : Record) : (w.log j r).printed = w.printed := by
  unfold log
  split
  case h_1 => simp [printed, events, Event.text?]
  case h_2 => rfl

@[simp]
theorem warnings_print (t : Bytes) : (w.print t).warnings = w.warnings := by
  simp [warnings, events, print, Event.warning?]

theorem warnings_log_of_ne {r : Record} (h : r.level ≠ .warn) (j : Journal) :
    (w.log j r).warnings = w.warnings := by
  unfold log Journal.written?
  split
  case h_2 => rfl
  case h_1 e he =>
    split at he
    case isFalse => cases he
    case isTrue =>
      cases he
      simp [warnings, events, Event.warning?, h]

-- A warning is written whatever the journal is told to keep.
theorem warnings_log_warn {r : Record} (h : r.level = .warn) (j : Journal) :
    (w.log j r).warnings = w.warnings ++ [r] := by
  simp [log, Journal.written?, Journal.accepts, h, warnings, events, Event.warning?]

@[simp]
theorem errors_print (t : Bytes) : (w.print t).errors = w.errors := by
  simp [errors, events, print, Event.error?]

theorem errors_log_of_isLow {r : Record} (h : r.level.isLow = true) (j : Journal) :
    (w.log j r).errors = w.errors := by
  unfold log Journal.written?
  split
  case h_2 => rfl
  case h_1 e he =>
    split at he
    case isFalse => cases he
    case isTrue =>
      cases he
      simp [errors, events, Event.error?, h]

theorem errors_log_warn {r : Record} (h : r.level = .warn) (j : Journal) :
    (w.log j r).errors = w.errors ++ [j.entry r] := by
  simp [log, Journal.written?, Journal.accepts, h, errors, events, Event.error?, Level.isLow,
    Journal.entry]

@[simp]
theorem notes_print (t : Bytes) : (w.print t).notes = w.notes := by
  simp [notes, events, print, Event.note?]

theorem notes_log {j : Journal} (hj : j.enabled = false) (r : Record) :
    (w.log j r).notes = w.notes := by
  unfold log Journal.written?
  split
  case h_2 => rfl
  case h_1 e he =>
    split at he
    case isFalse => cases he
    case isTrue ha =>
      cases he
      have hl : r.level.isLow = false := by
        cases h : r.level <;> simp_all [Journal.accepts, Level.isLow]
      simp [notes, events, Event.note?, hl]

@[simp]
theorem archive_log (j : Journal) (r : Record) : (w.log j r).archive = w.archive := by
  unfold log
  split <;> rfl

end World

-- What becomes of an archive when snapshots are handed over one after another.
def Reporter.deliver (reporter : Reporter) (archive : Archive) (snaps : List Snapshot) : Archive :=
  snaps.foldl (fun a s => (reporter s a).1) archive

def Environment.deliver (env : Environment) (archive : Archive) (snaps : List Snapshot) : Archive :=
  match env.reporter with
  | none          => archive
  | some reporter => Reporter.deliver reporter archive snaps

@[simp]
theorem Environment.deliver_nil (env : Environment) (archive : Archive) :
    env.deliver archive [] = archive := by
  unfold deliver
  split <;> rfl

theorem Environment.deliver_append (env : Environment) (archive : Archive) (ss ss' : List Snapshot) :
    env.deliver archive (ss ++ ss') = env.deliver (env.deliver archive ss) ss' := by
  unfold deliver
  split
  case h_1 => rfl
  case h_2 => simp [Reporter.deliver]

-- All that a machine has said so far.
def Machine.said (m : Machine) : List Event × Archive × Nat :=
  (m.world.history, m.world.archive, m.state.warnings)

structure Remarks where
  printed  : List Bytes := []
  warned   : List Record := []
  reported : List Snapshot := []

namespace Remarks

protected def append (a b : Remarks) : Remarks where
  printed  := a.printed ++ b.printed
  warned   := a.warned ++ b.warned
  reported := a.reported ++ b.reported

instance : Append Remarks := ⟨Remarks.append⟩

variable (a b : Remarks)

@[simp]
theorem printed_append : (a ++ b).printed = a.printed ++ b.printed :=
  rfl

@[simp]
theorem warned_append : (a ++ b).warned = a.warned ++ b.warned :=
  rfl

@[simp]
theorem reported_append : (a ++ b).reported = a.reported ++ b.reported :=
  rfl

theorem append_assoc (c : Remarks) : a ++ b ++ c = a ++ (b ++ c) := by
  change Remarks.mk .. = Remarks.mk ..
  simp

-- `m'` is what becomes of `m` when all of this, and nothing else, is said.
structure Describes (a : Remarks) (env : Environment) (m m' : Machine) : Prop where
  printed  : m'.world.printed = m.world.printed ++ a.printed
  warnings : m'.world.warnings = m.world.warnings ++ a.warned
  counted  : m'.state.warnings = m.state.warnings + a.warned.length
  errors   : m'.world.errors = m.world.errors ++ a.warned.map env.journal.entry
  notes    : env.journal.enabled = false → m'.world.notes = m.world.notes
  archive  : m'.world.archive = env.deliver m.world.archive a.reported

def warning (site : Site) (c : Category) (t : Bytes) : Record :=
  ⟨.warn, c, Journal.opcodeMessage (Text.ofByte site.digit) t, site.position⟩

def warn (site : Site) (c : Category) (t : Bytes) : Remarks where
  warned := [warning site c t]

-- What is said of something that does not fit, if the settings ask for it.
def lost (s : Settings) (site : Site) (cause : Cause) (full : Bool) : Remarks :=
  if full ∧ s.warnOnCapacity then warn site Category.store cause.message else {}

def offer (env : Environment) (site : Site) (store : Bounded Variable) : Remarks :=
  lost env.settings site .storeFull store.isFull

-- What is said when the digit at a position makes its variable on behalf of a condition or a loop.
def nested (env : Environment) (p : Int) (store : Bounded Variable) : Remarks :=
  match env.code.at? p with
  | some digit => if (Kind.ofDigit? digit).isSome then offer env ⟨p, digit⟩ store else {}
  | none       => {}

def nestedAll (env : Environment) : List Int → Bounded Variable → Remarks
  | [], _          => {}
  | p :: ps, store =>
    nested env p store ++ nestedAll env ps (store.offer (Variable.nested env.code p))

def inputFailed (site : Site) (e : Error) : Remarks :=
  warn site Category.console
    (if e.cause? = some .noInput then ascii "input exhausted" else e.message)

namespace Describes

variable {a b : Remarks} {env : Environment} {m m₁ m' : Machine}

theorem trans (h₁ : a.Describes env m m₁) (h₂ : b.Describes env m₁ m') :
    (a ++ b).Describes env m m' where
  printed  := by simp [h₂.printed, h₁.printed]
  warnings := by simp [h₂.warnings, h₁.warnings]
  counted  := by simp [h₂.counted, h₁.counted, Nat.add_assoc]
  errors   := by simp [h₂.errors, h₁.errors]
  notes h  := (h₂.notes h).trans (h₁.notes h)
  archive  := by simp [h₂.archive, h₁.archive, Environment.deliver_append]

theorem silent (h : m'.said = m.said) : Describes {} env m m' := by
  have ⟨hh, ha, hw⟩ : m'.world.history = m.world.history ∧ m'.world.archive = m.world.archive ∧
      m'.state.warnings = m.state.warnings := by simpa [Machine.said] using h
  refine { printed := ?_, warnings := ?_, counted := hw, errors := ?_, notes := ?_, archive := ?_ }
  · simp [World.printed, World.events, hh]
  · simp [World.warnings, World.events, hh]
  · simp [World.errors, World.events, hh]
  · simp [World.notes, World.events, hh]
  · simp [ha]

theorem after (h₁ : Describes {} env m m₁) (h₂ : a.Describes env m₁ m') : a.Describes env m m' :=
  h₁.trans h₂

theorem before (h₁ : a.Describes env m m₁) (h₂ : Describes {} env m₁ m') : a.Describes env m m' where
  printed  := by simp [h₂.printed, h₁.printed]
  warnings := by simp [h₂.warnings, h₁.warnings]
  counted  := by simp [h₂.counted, h₁.counted]
  errors   := by simp [h₂.errors, h₁.errors]
  notes h  := (h₂.notes h).trans (h₁.notes h)
  archive  := by simp [h₂.archive, h₁.archive]

end Describes
end Remarks

namespace Machine

open Remarks

variable (m : Machine) (env : Environment) (site : Site) (c : Category) (t : Bytes)

theorem describes_print : Describes { printed := [t] } env m (m.print t) where
  printed  := by simp [print]
  warnings := by simp [print]
  counted  := rfl
  errors   := by simp [print]
  notes    := by simp [print]
  archive  := by simp [print, World.print]

theorem describes_printLine : Describes { printed := [Text.line t] } env m (m.printLine t) :=
  m.describes_print env (Text.line t)

theorem describes_printLines (ts : List Bytes) :
    Describes { printed := ts.map Text.line } env m (ts.foldl printLine m) := by
  induction ts generalizing m
  case nil          => exact .silent rfl
  case cons t ts hi => exact (m.describes_printLine env t).trans (hi (m.printLine t))

theorem describes_log {l : Level} (h : l.isLow = true) (p : Int) :
    Describes {} env m (m.log env l c t p) where
  printed  := by simp [log]
  warnings := by
    have hl : l ≠ .warn := by rintro rfl; cases h
    simp [log, World.warnings_log_of_ne _ (r := ⟨l, c, t, p⟩) hl]
  counted  := rfl
  errors   := by simp [log, World.errors_log_of_isLow _ (r := ⟨l, c, t, p⟩) h]
  notes hj := World.notes_log _ hj _
  archive  := by simp [log]

theorem describes_debug : Describes {} env m (m.debug env c t) :=
  m.describes_log env c t (l := .debug) rfl (-1)

theorem describes_trace : Describes {} env m (m.trace env c t) :=
  m.describes_log env c t (l := .trace) rfl (-1)

theorem describes_warn : (Remarks.warn site c t).Describes env m (m.warn env site c t) where
  printed  := by simp [warn, log, Remarks.warn]
  warnings := by simp [warn, log, Remarks.warn, World.warnings_log_warn, warning]
  counted  := rfl
  errors   := by simp [warn, log, Remarks.warn, World.errors_log_warn, warning]
  notes hj := World.notes_log _ hj _
  archive  := by simp [warn, log, Remarks.warn]

theorem describes_dropped (cause : Cause) :
    (lost env.settings site cause true).Describes env m (m.dropped env site (.plain cause)) := by
  unfold lost dropped
  cases env.settings.warnOnCapacity
  case false => exact m.describes_trace env _ _
  case true  => exact m.describes_warn env site _ _

@[simp]
theorem lost_false (s : Settings) (cause : Cause) : lost s site cause false = {} := by
  simp [lost]

theorem describes_append (v : Variable) :
    (offer env site m.state.store).Describes env m (m.append env site v).1 ∧
      (m.append env site v).2 = !m.state.store.isFull := by
  unfold append offer
  cases h : m.state.store.push? v
  case none =>
    rw [Bounded.push?_eq_none_iff.mp h]
    exact ⟨m.describes_dropped env site .storeFull, rfl⟩
  case some b =>
    have hf : m.state.store.isFull = false := by
      rw [← Bool.not_eq_true, ← Bounded.push?_eq_none_iff (a := v), h]
      exact nofun
    rw [hf, lost_false]
    exact ⟨.silent rfl, rfl⟩

theorem describes_createNested (p : Int) :
    (nested env p m.state.store).Describes env m (m.createNested env p).1 := by
  unfold nested createNested
  cases env.code.at? p
  case none => exact .silent rfl
  case some digit =>
    cases hk : Kind.ofDigit? digit
    case none => simpa [hk] using Describes.silent rfl
    case some kind =>
      -- As far as the machine is concerned, the variable is appended at its own position.
      have ha := (m.describes_append env ⟨p, digit⟩ (Variable.created env.code kind p)).left
      unfold append at ha
      simp only [hk, create, Kind.ofTag?_tag, Option.isSome_some, ↓reduceIte]
      cases h : m.state.store.push? (Variable.created env.code kind p)
      case none   => simpa [h] using ha
      case some b => simpa [h] using ha

theorem describes_pushFrame (f : Frame) :
    (lost env.settings site .stackFull m.state.conditions.isFull).Describes env m
      (m.pushFrame env site f) := by
  unfold pushFrame
  cases h : m.state.conditions.push? f
  case none =>
    rw [Bounded.push?_eq_none_iff.mp h]
    exact m.describes_dropped env site .stackFull
  case some b =>
    have hf : m.state.conditions.isFull = false := by
      rw [← Bool.not_eq_true, ← Bounded.push?_eq_none_iff (a := f), h]
      exact nofun
    rw [hf, lost_false]
    exact .silent rfl

end Machine

end Denary
