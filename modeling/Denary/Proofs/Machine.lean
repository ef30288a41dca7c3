import Denary.Engine

-- What the small operations on worlds and machines leave alone: printing and logging only add to the
-- history, and a warning is counted but changes nothing else of the state.

namespace Denary

namespace World

variable (w : World)

@[simp]
theorem console_print (t : Bytes) : (w.print t).console = w.console :=
  rfl

@[simp]
theorem console_printLine (t : Bytes) : (w.printLine t).console = w.console :=
  rfl

@[simp]
theorem console_log (j : Journal) (r : Record) : (w.log j r).console = w.console := by
  unfold log
  split <;> rfl

theorem console_clear (t : Terminal) : (w.clear t).2.console = w.console := by
  unfold clear
  split
  · rfl
  · split <;> rfl

theorem console_setColour (t : Terminal) (c : Colour) :
    (w.setColour t c).2.console = { w.console with colour := c } := by
  unfold setColour
  split
  · split <;> rfl
  · rfl

end World

namespace Machine

variable (m : Machine) (env : Environment) (site : Site) (c : Category) (t : Bytes)

@[simp]
theorem state_print : (m.print t).state = m.state :=
  rfl

@[simp]
theorem state_printLine : (m.printLine t).state = m.state :=
  rfl

@[simp]
theorem state_log (l : Level) (p : Int) : (m.log env l c t p).state = m.state :=
  rfl

@[simp]
theorem state_debug : (m.debug env c t).state = m.state :=
  rfl

@[simp]
theorem state_trace : (m.trace env c t).state = m.state :=
  rfl

@[simp]
theorem state_warn :
    (m.warn env site c t).state = { m.state with warnings := m.state.warnings + 1 } :=
  rfl

@[simp]
theorem console_print : (m.print t).world.console = m.world.console :=
  rfl

@[simp]
theorem console_printLine : (m.printLine t).world.console = m.world.console :=
  rfl

@[simp]
theorem console_log (l : Level) (p : Int) :
    (m.log env l c t p).world.console = m.world.console :=
  m.world.console_log _ _

@[simp]
theorem console_debug : (m.debug env c t).world.console = m.world.console :=
  m.world.console_log _ _

@[simp]
theorem console_trace : (m.trace env c t).world.console = m.world.console :=
  m.world.console_log _ _

@[simp]
theorem console_warn : (m.warn env site c t).world.console = m.world.console :=
  m.world.console_log _ _

@[simp]
theorem console_dropped (e : Error) : (m.dropped env site e).world.console = m.world.console := by
  unfold dropped
  split <;> simp

-- Whether something that did not fit is counted as a warning depends on the settings.
theorem state_dropped (e : Error) :
    (m.dropped env site e).state
      = { m.state with warnings := (m.dropped env site e).state.warnings } := by
  unfold dropped
  split <;> rfl

theorem printLines_state (lines : List Bytes) : (lines.foldl printLine m).state = m.state := by
  induction lines generalizing m
  case nil          => rfl
  case cons l ls hi => exact hi (m.printLine l)

theorem printLines_console (lines : List Bytes) :
    (lines.foldl printLine m).world.console = m.world.console := by
  induction lines generalizing m
  case nil          => rfl
  case cons l ls hi => exact hi (m.printLine l)

end Machine
end Denary
