import Denary.Proofs.Bindings
import Denary.Proofs.Disk
import Denary.Proofs.Parallel

-- Programs that are executed on one interpreter, one after another. All that one of them leaves to
-- the next is what it did not take from the console.

namespace Denary

-- A reporter whose answers do not depend on what it was handed over before.
def Reporter.Memoryless (reporter : Reporter) (archive : Archive) : Prop :=
  ∀ ss s, (reporter s (deliver reporter archive ss)).2 = (reporter s archive).2

-- Whether a file can be written does not depend on the files that were written before.
theorem Report.Destination.memoryless (d : Destination) (archive : Archive) :
    Reporter.Memoryless d.reporter archive :=
  fun ss s => (d.answer_of_sameFolder s (d.sameFolder_deliver ss archive)).symm

namespace Remarks

variable {env env' : Environment}

theorem tolerates_eq (he : env.Parallel env') (hs : env.settings = env'.settings) :
    Tolerates Eq env env' where
  append ha hb := ha ▸ hb ▸ rfl
  prints _     := rfl
  warns _ _    := rfl
  lost _ _ _   := by rw [hs]
  status s     := by
    unfold Opcode.statusLines
    rw [he.code, he.terminal, hs]

theorem reports_eq {start start' : Machine} {archive : Archive} {ss ss' : List Snapshot}
    (he : env.Parallel env') (hs : env.settings = env'.settings)
    (hr : ∀ reporter ∈ env.reporter, Reporter.Memoryless reporter archive)
    (ha : start.world.archive = env.deliver archive ss)
    (ha' : start'.world.archive = env.deliver archive ss') : env.Reports Eq env' start start' := by
  intro m m' site hm
  have ⟨a, _, rfl, hd, hd'⟩ := hm.said
  have hsnap : m.state.snapshot env.code env.settings.debug
      = m'.state.snapshot env'.code env'.settings.debug := by
    rw [hm.state, he.code, hs]
    rfl
  have hx : m.world.archive = env.deliver archive (ss ++ a.reported) := by
    rw [hd.archive, ha, Environment.deliver_append]
  have hx' : m'.world.archive = env.deliver archive (ss' ++ a.reported) := by
    rw [hd'.archive, ha', ← he.deliver, Environment.deliver_append]
  unfold Account.report
  rw [← he.reporter, hsnap]
  cases hq : env.reporter
  case none => exact ⟨rfl, rfl⟩
  case some reporter =>
    have hn := hr reporter hq
    have hans (s : Snapshot) :
        (reporter s m.world.archive).2 = (reporter s m'.world.archive).2 := by
      rw [hx, hx']
      simp only [Environment.deliver, hq]
      rw [hn, hn]
    dsimp only
    rw [hans]
    exact ⟨rfl, rfl⟩

end Remarks

-- Machines that say the same end in the same state if they have counted the same warnings before.
theorem Machine.Parallel.state_eq {env env' : Environment} {start start' m m' : Machine}
    (h : m.Parallel Eq env env' start start' m')
    (hs : start.state.warnings = start'.state.warnings) : m.state = m'.state := by
  have ⟨a, _, rfl, hd, hd'⟩ := h.said
  have hn : m.state.warnings = m'.state.warnings := by rw [hd.counted, hd'.counted, hs]
  rw [h.state, hn]

namespace Interpreter

-- The interpreter after programs were executed on it, one after another.
def after (i : Interpreter) (codes : List Code) : Interpreter :=
  codes.foldl (fun i code => (i.execute code).interpreter) i

-- A new interpreter with the settings, the bindings and the surroundings of another one. It has a
-- console and an archive of its own, and nothing was printed yet.
def fresh (i : Interpreter) (console : Console) (archive : Archive) : Interpreter :=
  { start i.settings i.terminal i.clock { console := console, archive := archive, history := [] } with
    table    := i.table
    reporter := i.reporter }

-- What making bindings leaves as it is.
structure Keeps (i i' : Interpreter) : Prop where
  settings : i'.settings = i.settings
  terminal : i'.terminal = i.terminal
  clock    : i'.clock = i.clock
  console  : i'.world.console = i.world.console
  archive  : i'.world.archive = i.world.archive
  printed  : i'.world.printed = i.world.printed

theorem Rebinds.keeps {i i' : Interpreter} (h : i.Rebinds i') : i.Keeps i' where
  settings := by rw [h.rest]
  terminal := by rw [h.rest]
  clock    := by rw [h.rest]
  console  := by rw [h.rest]
  archive  := by rw [h.rest]
  printed  := h.printed

theorem registerLibrary_keeps (i : Interpreter) (extended : Bool) :
    i.Keeps (i.registerLibrary extended) :=
  (i.rebinds_registerLibrary extended).keeps

variable {i : Interpreter} {extended : Bool}

-- Executing programs changes nothing of an interpreter but its world, and the archive only by what
-- is handed over to it.
theorem after_keeps (hi : i.table = Library.table extended) (codes : List Code) (code : Code) :
    i.after codes = { i with world := (i.after codes).world } ∧
      ∃ ss, (i.after codes).world.archive = (i.environment code).deliver i.world.archive ss := by
  induction codes generalizing i
  case nil => exact ⟨rfl, [], (Environment.deliver_nil ..).symm⟩
  case cons c cs ih =>
    have ⟨ts, hs⟩ := execute_said c hi
    have ⟨hk, ss, ha⟩ := @ih (i.execute c).interpreter hi
    have hc : (i.execute c).interpreter.world.archive
        = (i.environment code).deliver i.world.archive _ := hs.archive
    rw [hc] at ha
    exact ⟨hk, _, ha.trans (Environment.deliver_append ..).symm⟩

theorem colour_execute (hi : i.table = Library.table extended) (hw : 0 ≤ i.terminal.width)
    (code : Code) : (i.execute code).interpreter.world.console.colour = Colour.plain := by
  have hm := i.execute_machine code
  rw [if_pos (execute_ending hi (.inl hw))] at hm
  have hc := congrArg (·.world.console) hm
  rw [console_conclude] at hc
  exact congrArg Console.colour hc

theorem colour_after (hi : i.table = Library.table extended) (hw : 0 ≤ i.terminal.width)
    {codes : List Code} (hc : codes ≠ []) : (i.after codes).world.console.colour = Colour.plain := by
  induction codes generalizing i
  case nil => exact absurd rfl hc
  case cons c cs ih =>
    cases cs
    case nil       => exact colour_execute hi hw c
    case cons _ cs => exact @ih (i.execute c).interpreter hi hw (List.cons_ne_nil _ _)

-- Whatever an interpreter has printed and reported so far, it executes a program like a new one.
theorem execute_fresh (hi : i.table = Library.table extended)
    (hr : ∀ reporter ∈ i.reporter, Reporter.Memoryless reporter i.world.archive) (code : Code)
    {w : World} {ss : List Snapshot}
    (ha : w.archive = (i.environment code).deliver i.world.archive ss) (ss' : List Snapshot) :
    let e := ({ i with world := w } : Interpreter).execute code
    let f := (i.fresh w.console ((i.environment code).deliver i.world.archive ss')).execute code
    e.state = f.state ∧ e.interpreter.world.output = w.output ++ f.interpreter.world.output ∧
      e.interpreter.world.console = f.interpreter.world.console := by
  intro e f
  let left : Interpreter := { i with world := w }
  let world : World := ⟨w.console, (i.environment code).deliver i.world.archive ss', []⟩
  let new := i.fresh world.console world.archive
  have hk : Keeps _ (start i.settings i.terminal i.clock world) := registerLibrary_keeps ..
  have he : (left.environment code).Parallel (new.environment code) :=
    ⟨rfl, hk.terminal.symm, hk.clock.symm, rfl⟩
  have hs : left.settings = new.settings := hk.settings.symm
  have ⟨_, hp⟩ := execute_parallel he hi hi (Remarks.tolerates_eq he hs)
    (Remarks.reports_eq he hs hr ha hk.archive) (congrArg State.start hs) hk.console.symm
  have ⟨a, _, rfl, hd, hd'⟩ := hp.said
  refine ⟨hp.state_eq rfl, ?_, hp.console⟩
  · have hx : e.interpreter.world.printed = w.printed ++ a.printed := hd.printed
    have hq : new.world.printed = [] := hk.printed
    have hx' : f.interpreter.world.printed = [] ++ a.printed :=
      hd'.printed.trans (congrArg (· ++ a.printed) hq)
    rw [World.output_eq_flatten, World.output_eq_flatten, World.output_eq_flatten, hx, hx',
      List.flatten_append, List.nil_append]

-- Executions are isolated from each other. On an interpreter on which any programs were executed
-- before, a program ends in the same state and prints the same as on a new one whose console holds
-- what those programs left on it, wherever the archive of the new one stands. They leave what they
-- did not take, in the plain colour. The program always finishes, it leaves the console in the plain
-- colour again, and it leaves the rest of the interpreter as it was.
theorem executions_isolated (hi : i.table = Library.table extended) (hw : 0 ≤ i.terminal.width)
    (hr : ∀ reporter ∈ i.reporter, Reporter.Memoryless reporter i.world.archive)
    (codes : List Code) (code : Code) (ss : List Snapshot) :
    let left := i.after codes
    let e    := left.execute code
    let f    := (i.fresh left.world.console
      ((i.environment code).deliver i.world.archive ss)).execute code
    (codes ≠ [] → left.world.console.colour = Colour.plain) ∧
      e.run.ending = .finished ∧ e.state = f.state ∧
      e.interpreter.world.output = left.world.output ++ f.interpreter.world.output ∧
      e.interpreter.world.console = f.interpreter.world.console ∧
      e.interpreter.world.console.colour = Colour.plain ∧
      e.interpreter = { i with world := e.interpreter.world } := by
  have hp := @colour_after i extended hi hw codes
  have ⟨hk, ss₀, ha⟩ := after_keeps hi codes code
  rw [hk] at hp ⊢
  generalize (i.after codes).world = w at ha hp
  intro left e f
  have ⟨hst, ho, hc⟩ := execute_fresh hi hr code ha ss
  exact ⟨hp, execute_ending (i := left) hi (.inl hw), hst, ho, hc,
    colour_execute (i := left) hi hw code, rfl⟩

-- The first program reads a number and ends in another colour, the second one reads what it left.
theorem executions_isolated_colour :
    let console : Console := ⟨ascii "12\n34\n", none, [], Colour.plain⟩
    let i       := Interpreter.start {} { ansi := true } 0 ⟨console, default, []⟩
    let colours := Code.ofArray (#[0x37] ++ Array.replicate 15 0x33 ++ #[0x37])
    let reads   := Code.ofArray #[0x37, 0x39]
    let left    := i.after [colours]
    let e       := left.execute reads
    let f       := (i.fresh left.world.console i.world.archive).execute reads
    i.table = Library.table false ∧ 0 ≤ i.terminal.width ∧
    (∀ reporter ∈ i.reporter, Reporter.Memoryless reporter i.world.archive) ∧
    left.world.console.colour = Colour.plain ∧ e.state = f.state ∧
      e.interpreter.world.output = left.world.output ++ f.interpreter.world.output ∧
      e.interpreter.world.console = f.interpreter.world.console := by
  intro console i colours reads left e f
  have hi : i.table = Library.table false := start_table ..
  have hw : 0 ≤ i.terminal.width := by decide
  have hr : ∀ reporter ∈ i.reporter, Reporter.Memoryless reporter i.world.archive := by
    rintro _ ⟨rfl⟩
    exact Report.Destination.memoryless _ _
  have ⟨hp, _, hs, ho, hc, _⟩ := executions_isolated hi hw hr [colours] reads []
  exact ⟨hi, hw, hr, hp (List.cons_ne_nil _ _), hs, ho, hc⟩

end Interpreter
end Denary
