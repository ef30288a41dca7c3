import Denary.Proofs.Losses
import Denary.Proofs.Provenance
import Denary.Proofs.Reports
import Denary.Proofs.Safety

-- What a loop does, to the last variable. The rounds of a loop take the digits of its body again and
-- again, but nothing of a round is left for the next one except in the store, where variables stop to
-- fit at some point. So all rounds together offer one list of variables, and what does not fit is cut
-- off at its end.

namespace Denary

-- Whether the digit at a position makes a variable on behalf of a loop is said by the digit alone.
theorem Variable.nested_cases (code : Code) (q : Int) :
    (∃ kind : Kind, code.at? q = some kind.digit ∧
      nested code q = [created code kind q]) ∨
    (∀ kind : Kind, code.at? q ≠ some kind.digit) ∧ nested code q = [] := by
  unfold nested
  cases hk : (code.at? q).bind Kind.ofDigit?
  case some kind =>
    have ⟨d, hd, hk⟩ := Option.bind_eq_some_iff.mp hk
    exact .inl ⟨kind, Kind.eq_digit_of_ofDigit? hk ▸ hd, rfl⟩
  case none =>
    refine .inr ⟨fun kind hd => ?_, rfl⟩
    have hs : Kind.ofDigit? kind.digit = some kind := by cases kind <;> rfl
    rw [hd, Option.bind_some, hs] at hk
    cases hk

namespace Loop

-- A loop of the second form goes round as often as the last digit of its position says. That digit is
-- never a zero, as positions of this form are odd.
theorem roundsAt_bounds {p : Int} (h : 0 ≤ p) : 1 ≤ roundsAt p ∧ roundsAt p ≤ 5 := by
  have hm (n : Int) : p.tmod n = p % n := Int.tmod_eq_emod_of_nonneg h
  unfold roundsAt ofNumber? numberAt maxWhile
  simp only [hm]
  split <;> rename_i hn
  all_goals split at hn <;> cases hn
  all_goals omega

-- The entries of a store, and behind them all that the rounds of a loop make.
def wanted (code : Code) (p : Int) (entries : List Variable) : List Variable :=
  entries ++ (List.replicate (roundsAt p).toNat
    (Variable.nested code (p + 1) ++ Variable.nested code (p + 2))).flatten

-- `r` is what a loop at `p` makes of `m`.
structure Exact (env : Environment) (p : Int) (m : Machine) (r : Machine × Except Fault Status) :
    Prop where
  status     : r.2 = .ok (.done true)
  store      : r.1.state.store.toList
    = (wanted env.code p m.state.store.toList).take m.state.store.capacity
  capacity   : r.1.state.store.capacity = m.state.store.capacity
  cursor     : r.1.state.cursor = wrap64 (p + 2)
  loopDepth  : r.1.state.loopDepth = m.state.loopDepth
  conditions : r.1.state.conditions = m.state.conditions
  colour     : r.1.state.colour = m.state.colour
  console    : r.1.world.console = m.world.console
  printed    : r.1.world.printed = m.world.printed
  warnings   : env.settings.warnOnCapacity = true → r.1.state.warnings = m.state.warnings
    + ((wanted env.code p m.state.store.toList).length - m.state.store.capacity)

end Loop

namespace Remarks

-- Where digits are taken on behalf of a loop, nothing is warned of but what does not fit.
theorem warned_nestedAll (env : Environment) (ps : List Int) (store : Bounded Variable) :
    ∀ r ∈ (nestedAll env ps store).warned, r.category = Category.store := by
  induction ps generalizing store
  case nil => exact nofun
  case cons p ps hi =>
    intro r hr
    rcases List.mem_append.mp hr with hr | hr
    case inr => exact hi _ r hr
    case inl =>
      unfold nested offer lost at hr
      repeat' split at hr
      case h_1.isTrue.isTrue =>
        rw [List.mem_singleton.mp hr]
        rfl
      all_goals cases hr

theorem length_warned_nestedAll {env : Environment} (hs : env.settings.warnOnCapacity = true)
    (ps : List Int) (store : Bounded Variable) :
    (nestedAll env ps store).warned.length
      = store.excess (ps.flatMap (Variable.nested env.code)) := by
  rw [← losses_nestedAll hs, losses, eq_comm, List.countP_eq_length]
  intro r hr
  exact decide_eq_true (warned_nestedAll env ps store r hr)

end Remarks

theorem Bounded.excess_eq {α : Type} (b : Bounded α) (as : List α) :
    b.excess as = (b.toList ++ as).length - b.capacity := by
  have hb := b.size_le_capacity
  rw [excess, size_offer, List.length_append, length_toList]
  omega

theorem Opcode.loop_exact {env : Environment} {site : Site} {m : Machine}
    (hc : m.state.cursor = site.position) : Loop.Exact env site.position m (loop env site m) := by
  have hd := loop_describes m env site
  have ha := loop_account m env site
  have hs := hd.state
  refine ⟨rfl, ?_, ?_, ?_, ?_, ?_, ?_, hd.console, ?_, ?_⟩
  · rw [hs]
    exact Bounded.toList_offer ..
  · rw [hs]
    exact Bounded.capacity_offer ..
  · rw [hs]
    exact (State.skip_cursor ..).trans (by rw [hc]; rfl)
  · rw [hs]
    rfl
  · rw [hs]
    rfl
  · rw [hs]
    rfl
  · have hp := ha.remarks.printed
    rwa [Account.loop, Library.printed_nestedAll, List.append_nil] at hp
  · intro hw
    have hn := ha.remarks.counted
    rwa [Account.loop, Remarks.length_warned_nestedAll hw, Account.flatMap_loopPositions,
      Bounded.excess_eq] at hn

theorem State.snapshot_loopDepth {s : State} (h : s.loopDepth = 0) (code : Code) (debug : Bool) :
    (s.snapshot code debug).loopDepth = 0 :=
  congrArg Int.ofNat h

-- A status block has a line for the loops that are entered.
theorem Opcode.mem_statusLines (env : Environment) {s : State} (h : s.loopDepth = 0) :
    ascii "Loop depth:  0" ∈ statusLines env s := by
  have hn : Decimal.natural 0 = ascii "0" := by
    rw [Decimal.natural]
    decide
  have ht : ascii "Loop depth:  " ++ ascii "0" = ascii "Loop depth:  0" := by decide
  simp only [statusLines, h, hn, ht, List.mem_cons, true_or, or_true]

namespace Library

variable {extended : Bool} {env : Environment} {m : Machine} {r : Engine.Run}

-- Wherever a digit is taken, the loops that were entered before are left again.
theorem machines_loopDepth (h : Engine.Runs (table extended) env m r) :
    ∀ m' ∈ r.machines, m'.state.loopDepth = m.state.loopDepth := by
  refine h.forall_machines (I := (·.state.loopDepth = m.state.loopDepth)) id ?_ ?_ rfl
  · intro m₁ after answer hm _ hs
    have hl := step_loopDepth extended env m₁
    rw [hs] at hl
    exact ⟨hl.trans hm, fun _ => hl.trans hm⟩
  · intro m₁ hm
    have hk := Engine.finish_finished env m₁
    generalize Engine.finish env m₁ = r at hk ⊢
    cases hk
    case none             => exact hm
    case close _ _ hst _  => exact (congrArg State.loopDepth hst).trans hm
    case broken _ _ hst _ => exact (congrArg State.loopDepth hst).trans hm

-- What is said for a digit that something other than a loop is bound to.
theorem transcript_of_binds {h : Handler} (hc : m.state.cursor < env.code.size)
    (hb : Binds extended (Engine.siteOf env m).digit h) (h₂ : (Engine.siteOf env m).digit ≠ 0x32) :
    (transcript extended env m).toRemarks
      = (account extended env (Engine.siteOf env m) (Engine.handed env m)).toRemarks := by
  have hn : ¬ ((Engine.siteOf env m).digit = 0x30 ∨ (Engine.siteOf env m).digit = 0x31) := by
    generalize (Engine.siteOf env m).digit = d at hb
    cases hb <;> decide
  have hcl : Engine.closing? env m = none := by
    rw [Engine.closing?, if_pos hc, if_neg h₂]
  unfold transcript
  rw [if_neg hn, hcl]
  simp only [isDigit_of_binds hb, table_of_binds hb, Option.isSome_some, ↓reduceIte]

-- A status block shows the state as it is when its digit is taken.
theorem printed_status (h : Engine.Runs (table extended) env m r) {d : Engine.Dispatch}
    (hd : d ∈ r.dispatches) (h₇ : d.site.digit = 0x37)
    (hp : DialogueOperation.numberAt d.site.position = 7) :
    d.printed = (Opcode.statusLines env d.before.state).map Text.line := by
  have ⟨hs, hc, _⟩ := h.taken_of_mem hd
  rw [hs] at h₇ hp
  have hb : Binds extended (Engine.siteOf env d.before).digit Opcode.dialogue := h₇ ▸ .dialogue
  have ha : account extended env (Engine.siteOf env d.before) (Engine.handed env d.before)
      = { printed := (Opcode.statusLines env (Engine.handed env d.before).state).map Text.line } := by
    unfold account Account.dialogue
    rw [h₇, hp]
    rfl
  rw [printed_dispatch h hd, transcript_of_binds hc hb (by rw [h₇]; decide), ha, Engine.state_handed]
  rfl

end Library

namespace Interpreter

variable {i : Interpreter} {extended : Bool}

theorem execute_loopDepth (hi : i.table = Library.table extended) (code : Code) :
    (i.execute code).state.loopDepth = 0 := by
  have hr := Library.runs_loopDepth (execute_runs code hi)
  have hm := i.execute_machine code
  have hs : (i.execute code).state = (i.execute code).run.machine.state := by
    split at hm
    case isTrue  => exact (congrArg Machine.state hm).trans (conclude_state ..)
    case isFalse => exact congrArg Machine.state hm
  rw [hs, hr]
  rfl

-- All that a program archives comes from the snapshots at its nines.
theorem execute_archive (hi : i.table = Library.table extended) (code : Code) :
    (i.execute code).interpreter.world.archive
      = (i.environment code).deliver i.world.archive
          (((i.execute code).run.dispatches.filter (·.site.digit = 0x39)).map
            (Engine.Dispatch.snapshot (i.environment code))) := by
  have ⟨ts, hs⟩ := execute_said code hi
  have ha := hs.archive
  cases hr : (i.environment code).reporter
  case none =>
    unfold Environment.deliver at ha ⊢
    rw [hr] at ha ⊢
    exact ha
  case some reporter =>
    rwa [Remarks.reported_append, List.append_nil,
      Library.reported_said hr (execute_runs code hi)] at ha

-- Loops are exact, and none of them is seen from inside. At any position of the code, a loop goes
-- round one to five times and leaves what `Loop.Exact` says, where the digits that make a variable are
-- the five from three to seven. So whatever program is executed, no loop is entered in the states that
-- are shown: neither in a status block, nor in a report, nor at the end.
theorem loops_exact (env : Environment) (site : Site) (m : Machine) (h₀ : 0 ≤ site.position)
    (hc : m.state.cursor = site.position) (hi : i.table = Library.table extended) (code : Code) :
    (1 ≤ Loop.roundsAt site.position ∧ Loop.roundsAt site.position ≤ 5) ∧
    Loop.Exact env site.position m (Opcode.loop env site m) ∧
    (site.position + 2 < 0x8000000000000000 →
      (Opcode.loop env site m).1.state.cursor = site.position + 2) ∧
    (∀ q : Int, (∃ kind : Kind, env.code.at? q = some kind.digit ∧
        Variable.nested env.code q = [Variable.created env.code kind q]) ∨
      (∀ kind : Kind, env.code.at? q ≠ some kind.digit) ∧ Variable.nested env.code q = []) ∧
    let e       := i.execute code
    let env     := i.environment code
    let reports := e.run.dispatches.filter (·.site.digit = 0x39)
    (∀ d ∈ e.run.dispatches, d.site.digit = 0x37 →
      DialogueOperation.numberAt d.site.position = 7 →
        d.printed = (Opcode.statusLines env d.before.state).map Text.line ∧
        d.before.state.loopDepth = 0 ∧ Text.line (ascii "Loop depth:  0") ∈ d.printed) ∧
    e.interpreter.world.archive
      = env.deliver i.world.archive (reports.map (Engine.Dispatch.snapshot env)) ∧
    (∀ d ∈ reports, (d.snapshot env).loopDepth = 0) ∧
    e.state.loopDepth = 0 ∧ (e.state.snapshot code i.settings.debug).loopDepth = 0 := by
  have hx : Loop.Exact env site.position m (Opcode.loop env site m) := Opcode.loop_exact hc
  have hr := execute_runs code hi
  have hl := execute_loopDepth hi code
  have hz {d} (hd : d ∈ (i.execute code).run.dispatches) : d.before.state.loopDepth = 0 :=
    Library.machines_loopDepth hr d.before (Engine.Run.before_mem_machines hd)
  refine ⟨Loop.roundsAt_bounds h₀, hx, fun hp => ?_, Variable.nested_cases env.code,
    fun d hd h₇ hn => ?_, execute_archive hi code, fun d hd => ?_, hl, State.snapshot_loopDepth hl ..⟩
  · rw [hx.cursor, wrap64_eq_self (by omega) hp]
  · have hp := Library.printed_status hr hd h₇ hn
    exact ⟨hp, hz hd, hp ▸ List.mem_map_of_mem (Opcode.mem_statusLines _ (hz hd))⟩
  · refine State.snapshot_loopDepth ?_ ..
    rw [Engine.state_handed]
    exact hz (List.mem_of_mem_filter hd)

-- A loop that goes round five times wants ten variables, of which three fit.
theorem loops_exact_cut :
    let settings : Settings := { extended := true, maxVariables := 3, warnOnCapacity := true }
    let i    := Interpreter.start settings {} 0 default
    let code := Code.ofArray #[0x37, 0x37, 0x37, 0x37, 0x32, 0x33, 0x34, 0x37]
    let m    : Machine := ⟨{ State.start settings with cursor := 4 }, default⟩
    let s    := (Opcode.loop (i.environment code) ⟨4, 0x32⟩ m).1.state
    i.table = Library.table true ∧ m.state.cursor = 4 ∧ Loop.roundsAt 4 = 5 ∧
      s.store.toList.length = 3 ∧ s.warnings = 7 ∧ s.cursor = 6 ∧
      (i.execute code).state.loopDepth = 0 := by
  intro settings i code m s
  have hi : i.table = Library.table true := start_table ..
  have ⟨_, hx, hp, _, _, _, _, hl, _⟩ :=
    loops_exact (i.environment code) ⟨4, 0x32⟩ m (by decide) rfl hi code
  refine ⟨hi, rfl, by decide, ?_, ?_, hp (by decide), hl⟩
  · rw [hx.store]
    decide
  · rw [hx.warnings (by rfl)]
    decide

end Interpreter

end Denary
