import Denary.Interpreter
import Denary.Proofs.Control
import Denary.Proofs.Cursor
import Denary.Proofs.Transcript

namespace Denary

namespace World

variable (w : World) (t : Terminal)

-- What it takes to go back to the plain colour.
def resetText : List Bytes :=
  if t.ansi ∧ w.console.colour ≠ Colour.plain then [plainColour] else []

theorem console_resetColour :
    (w.resetColour t).console = { w.console with colour := Colour.plain } := by
  unfold resetColour
  split <;> rfl

end World

theorem Machine.describes_resetColour (m : Machine) (env : Environment) (t : Terminal) :
    Remarks.Describes { printed := m.world.resetText t } env m
      { m with world := m.world.resetColour t } := by
  unfold World.resetColour World.resetText
  split
  case isTrue  => exact (m.describes_print env plainColour).before (.silent rfl)
  case isFalse => exact .silent rfl

namespace Library

variable {extended : Bool} {env : Environment} {m : Machine} {r : Engine.Run}

theorem digit_ne {d : UInt8} (hd : d ∉ env.code.toList) (h₀ : d ≠ 0) :
    (Engine.siteOf env m).digit ≠ d := by
  intro h
  cases ha : env.code.at? m.state.cursor
  case none   => simp [Engine.siteOf, ha, h₀.symm] at h
  case some b =>
    rw [Engine.siteOf, ha] at h
    exact hd (h ▸ Code.mem_of_at? ha)

theorem runs_console (h : Engine.Runs (table extended) env m r) (h₇ : 0x37 ∉ env.code.toList) :
    r.machine.world.console = m.world.console := by
  have hs (m : Machine) : (Engine.step (table extended) env m).1.world.console = m.world.console :=
    step_console (digit_ne h₇ (by decide)) extended
  induction h
  case finish m _       => exact Engine.finish_console env m
  case crash m _ _ _ ht =>
    have hm := hs m
    rwa [ht] at hm
  case step m _ _ _ _ ht _ hi =>
    have hm := hs m
    rw [ht] at hm
    exact hi.trans hm

end Library

namespace Interpreter

variable (i : Interpreter) (code : Code)

@[simp]
theorem console_machine : (i.machine code).world.console = i.world.console :=
  Machine.console_debug ..

theorem describes_machine :
    Remarks.Describes {} (i.environment code) ⟨State.start i.settings, i.world⟩ (i.machine code) :=
  Machine.describes_debug ..

theorem conclude_state (env : Environment) (m : Machine) : (conclude env m).state = m.state := by
  unfold conclude
  split <;> rfl

theorem describes_conclude (env : Environment) (m : Machine) :
    Remarks.Describes { printed := m.world.resetText env.terminal } env m (conclude env m) := by
  have hd := m.describes_resetColour env env.terminal
  unfold conclude
  split
  case isTrue  => exact hd.before (Machine.describes_debug ..)
  case isFalse => exact hd

-- Every program gives the console back in the plain colour.
theorem console_conclude (env : Environment) (m : Machine) :
    (conclude env m).world.console = { m.world.console with colour := Colour.plain } := by
  have hc := m.world.console_resetColour env.terminal
  unfold conclude
  split
  case isTrue  => exact (Machine.console_debug ..).trans hc
  case isFalse => exact hc

-- What an execution leaves behind.
def Execution.machine (e : Execution) : Machine :=
  ⟨e.state, e.interpreter.world⟩

-- A program that comes to its end goes back to the plain colour, and one that does not leaves what
-- its run left.
theorem execute_machine :
    (i.execute code).machine
      = if (i.execute code).run.ending = .finished then
          conclude (i.environment code) (i.execute code).run.machine
        else (i.execute code).run.machine := by
  unfold execute Execution.machine
  dsimp only
  split
  case h_1 hf => rw [if_pos hf]
  case h_2 hf => rw [if_neg hf]

variable {i code}

theorem execute_finished (hf : (i.execute code).run.ending = .finished) :
    (i.execute code).state = (i.execute code).run.machine.state ∧
      (i.execute code).interpreter.world.printed
        = (i.execute code).run.machine.world.printed
          ++ (i.execute code).run.machine.world.resetText i.terminal ∧
      (i.execute code).interpreter.world.warnings = (i.execute code).run.machine.world.warnings := by
  have hm := i.execute_machine code
  rw [if_pos hf] at hm
  have hd := describes_conclude (i.environment code) (i.execute code).run.machine
  rw [← hm] at hd
  exact ⟨(congrArg Machine.state hm).trans (conclude_state ..), hd.printed,
    hd.warnings.trans (List.append_nil _)⟩

theorem registerLibrary_table (i : Interpreter) (extended : Bool) :
    (i.registerLibrary extended).table
      = (Library.bindings extended).foldl (fun t b => t.set b.1 (some b.2)) i.table := by
  have hb : ∀ b ∈ Library.bindings extended, Table.isBindable b.1 = true := by
    cases extended <;> simp [Library.bindings, Library.core, Library.extension, Table.isBindable]
  unfold registerLibrary
  generalize Library.bindings extended = bs at hb
  induction bs generalizing i
  case nil => rfl
  case cons b bs hi =>
    have hr : (i.register b.1 (some b.2)).1.table = i.table.set b.1 (some b.2) := by
      rw [register, if_pos (hb b List.mem_cons_self)]
      rfl
    rw [List.foldl_cons, List.foldl_cons, hi _ fun b' h => hb b' (List.mem_cons_of_mem b h), hr]

theorem start_table (settings : Settings) (terminal : Terminal) (clock : Int) (world : World) :
    (start settings terminal clock world).table = Library.table settings.extended :=
  registerLibrary_table ..

variable {extended : Bool}

theorem execute_runs (code : Code) (hi : i.table = Library.table extended) :
    Engine.Runs (Library.table extended) (i.environment code) (i.machine code) (i.execute code).run := by
  have ⟨r, hr⟩ := Library.exists_runs extended (i.environment code) (i.machine code).world
  have he : (i.execute code).run = r := by
    change Engine.run i.table (i.environment code) (i.machine code) = r
    rw [hi]
    exact hr.run_eq
  exact he ▸ hr

-- However a program ends, nothing but texts comes behind what is said for its digits.
theorem execute_said (code : Code) (hi : i.table = Library.table extended) :
    ∃ ts, (Library.said extended (i.environment code) (i.execute code).run.dispatches
        ++ { printed := ts }).Describes (i.environment code) ⟨State.start i.settings, i.world⟩
      (i.execute code).machine := by
  have ⟨ts, hd⟩ := Library.runs_said (execute_runs code hi)
  have hm := (i.describes_machine code).after hd
  rw [execute_machine]
  split
  case isFalse => exact ⟨ts, hm⟩
  case isTrue  =>
    have hc := hm.trans (describes_conclude ..)
    rw [Remarks.append_assoc] at hc
    exact ⟨_, hc⟩

theorem execute_ending (hi : i.table = Library.table extended)
    (hw : 0 ≤ i.terminal.width ∨ 0x37 ∉ code.toList) : (i.execute code).run.ending = .finished := by
  have hv := Control.valid_start (i.environment code).code
  have ht : Control.start.Tracks (i.machine code).state := ⟨rfl, rfl⟩
  have ⟨r, hr, hc⟩ : ∃ r,
      Engine.Runs (Library.table extended) (i.environment code) (i.machine code) r ∧
      Control.Completes extended (i.environment code) .start (i.machine code) r :=
    Control.exists_completes_of hw hv ht
  have he := (execute_runs code hi).run_eq.symm.trans hr.run_eq
  rw [he]
  exact hc.ending

theorem execute_printed (hi : i.table = Library.table extended) (h₇ : 0x37 ∉ code.toList)
    (h₉ : 0x39 ∉ code.toList) (hc : i.world.console.colour = Colour.plain) :
    (i.execute code).interpreter.world.printed
      = i.world.printed ++ (i.execute code).run.closed.flatMap code.spoken := by
  have hf := execute_ending hi (.inr h₇)
  have hr := execute_runs code hi
  have ⟨_, hp, _⟩ := execute_finished hf
  have hn : (i.execute code).run.machine.world.resetText i.terminal = [] := by
    rw [World.resetText, Library.runs_console hr h₇, console_machine, hc]
    simp
  have hd := (Library.runs_describes hr hf).printed
  rw [Library.printed_remarks fun d hd => Library.printed_transcript hr hd (.inr ?_)] at hd
  · have hm := (i.describes_machine code).printed
    rw [hp, hn, hd, hm]
    simp [environment]
  · have ⟨hs, _, _⟩ := hr.taken_of_mem hd
    rw [hs]
    exact ⟨Library.digit_ne h₇ (by decide), Library.digit_ne h₉ (by decide)⟩

end Interpreter
end Denary
