import Denary.Proofs.Interpreter

-- Two programs side by side. They run over the same code, with the same bindings and at the same
-- terminal, but their settings, their journals and what was reported before may differ. So may what
-- they say, as far as a given relation between remarks allows.

namespace Denary

-- Environments that differ in their settings and in their journals alone.
structure Environment.Parallel (env env' : Environment) : Prop where
  code     : env.code = env'.code
  terminal : env.terminal = env'.terminal
  clock    : env.clock = env'.clock
  reporter : env.reporter = env'.reporter

theorem Environment.Parallel.deliver {env env' : Environment} (he : env.Parallel env') :
    env.deliver = env'.deliver := by
  funext archive ss
  rw [Environment.deliver, Environment.deliver, he.reporter]

-- A relation between what is said in two environments. Only what the settings decide may be told
-- apart: whether something was lost, and the status.
structure Remarks.Tolerates (R : Remarks → Remarks → Prop) (env env' : Environment) : Prop where
  append : ∀ {a a' b b'}, R a a' → R b b' → R (a ++ b) (a' ++ b')
  prints : ∀ ts, R { printed := ts } { printed := ts }
  warns  : ∀ r : Record, r.category ≠ Category.store → R { warned := [r] } { warned := [r] }
  lost   : ∀ site cause full, R (lost env.settings site cause full) (lost env'.settings site cause full)
  status : ∀ s, R { printed := (Opcode.statusLines env s).map Text.line }
    { printed := (Opcode.statusLines env' s).map Text.line }

-- Machines that run side by side from the given ones on. Warnings are among what is said.
structure Machine.Parallel (m : Machine) (R : Remarks → Remarks → Prop) (env env' : Environment)
    (start start' m' : Machine) : Prop where
  state   : m.state = { m'.state with warnings := m.state.warnings }
  console : m.world.console = m'.world.console
  said    : ∃ a a', R a a' ∧ a.Describes env start m ∧ a'.Describes env' start' m'

structure Account.Parallel (a : Account) (R : Remarks → Remarks → Prop) (a' : Account) : Prop where
  remarks   : R a.toRemarks a'.toRemarks
  completed : a.completed = a'.completed

-- Wherever the two machines get to, reports are answered in ways that the relation allows.
def Environment.Reports (env : Environment) (R : Remarks → Remarks → Prop) (env' : Environment)
    (start start' : Machine) : Prop :=
  ∀ ⦃m m' : Machine⦄ (site : Site), m.Parallel R env env' start start' m' →
    (Account.report env site m).Parallel R (Account.report env' site m')

variable {R : Remarks → Remarks → Prop} {env env' : Environment} {start start' m m' : Machine}
  {site : Site} {extended : Bool}

namespace Machine.Parallel

theorem extend {a a' : Remarks} {m₁ m₁' : Machine} (hR : Remarks.Tolerates R env env')
    (hm : m.Parallel R env env' start start' m') (ha : R a a') (hd : a.Describes env m m₁)
    (hd' : a'.Describes env' m' m₁')
    (hs : m₁.state = { m₁'.state with warnings := m₁.state.warnings })
    (hc : m₁.world.console = m₁'.world.console) : m₁.Parallel R env env' start start' m₁' where
  state   := hs
  console := hc
  said    :=
    have ⟨_, _, hb, hx, hx'⟩ := hm.said
    ⟨_, _, hR.append hb ha, hx.trans hd, hx'.trans hd'⟩

theorem silently {m₁ m₁' : Machine} (hR : Remarks.Tolerates R env env')
    (hm : m.Parallel R env env' start start' m') (hd : Remarks.Describes {} env m m₁)
    (hd' : Remarks.Describes {} env' m' m₁')
    (hs : m₁.state = { m₁'.state with warnings := m₁.state.warnings })
    (hc : m₁.world.console = m₁'.world.console) : m₁.Parallel R env env' start start' m₁' :=
  hm.extend hR (hR.prints []) hd hd' hs hc

theorem refl (hR : Remarks.Tolerates R env env') (hs : start.state = start'.state)
    (hc : start.world.console = start'.world.console) :
    start.Parallel R env env' start start' start' where
  state   := by rw [hs]
  console := hc
  said    := ⟨{}, {}, hR.prints [], .silent rfl, .silent rfl⟩

variable (hm : m.Parallel R env env' start start' m')
include hm

theorem cursor : m.state.cursor = m'.state.cursor := by
  rw [hm.state]

theorem store : m.state.store = m'.state.store := by
  rw [hm.state]

theorem conditions : m.state.conditions = m'.state.conditions := by
  rw [hm.state]

theorem siteOf (he : env.Parallel env') : Engine.siteOf env m = Engine.siteOf env' m' := by
  rw [Engine.siteOf, Engine.siteOf, he.code, hm.cursor]

theorem closing? (he : env.Parallel env') : Engine.closing? env m = Engine.closing? env' m' := by
  have hr : m.state.runStart = m'.state.runStart := by rw [hm.state]
  rw [Engine.closing?, Engine.closing?, hm.siteOf he, he.code, hm.cursor, hr]

theorem advance (hR : Remarks.Tolerates R env env') :
    (Engine.advance m).Parallel R env env' start start' (Engine.advance m') := by
  refine hm.silently hR (.silent rfl) (.silent rfl) ?_ hm.console
  rw [Engine.advance, Engine.advance, hm.state]

theorem handed (hR : Remarks.Tolerates R env env') :
    (Engine.handed env m).Parallel R env env' start start' (Engine.handed env' m') := by
  refine hm.silently hR (.before (Library.describes_announce ..) (.silent (by rfl)))
    (.before (Library.describes_announce ..) (.silent (by rfl))) ?_ ?_
  · rw [Engine.state_handed, Engine.state_handed, hm.state]
  · rw [Engine.console_handed, Engine.console_handed, hm.console]

end Machine.Parallel

namespace Account.Parallel

variable {a a' b b' : Remarks} {c c' : Account}

theorem failed (h : R a a') : (Account.failed a).Parallel R (Account.failed a') :=
  ⟨h, rfl⟩

theorem after (hR : Remarks.Tolerates R env env') (hb : R b b') (hc : c.Parallel R c') :
    (Account.after b c).Parallel R (Account.after b' c') :=
  ⟨hR.append hb hc.remarks, hc.completed⟩

end Account.Parallel

namespace Remarks.Tolerates

variable (hR : Remarks.Tolerates R env env')
include hR

theorem nil : R {} {} :=
  hR.prints []

theorem warn {c : Category} (hc : c ≠ Category.store) (site : Site) (t : Bytes) :
    R (.warn site c t) (.warn site c t) :=
  hR.warns _ hc

theorem shows (ts : List Bytes) (completed : Bool) :
    Account.Parallel { printed := ts, completed } R { printed := ts, completed } :=
  ⟨hR.prints ts, rfl⟩

theorem inputFailed (site : Site) (e : Error) : R (.inputFailed site e) (.inputFailed site e) :=
  hR.warn (by decide) site _

theorem appends (site : Site) (store : Bounded Variable) :
    (Account.append env site store).Parallel R (Account.append env' site store) :=
  ⟨hR.lost site .storeFull store.isFull, rfl⟩

variable (he : env.Parallel env')
include he

theorem nested (p : Int) (store : Bounded Variable) :
    R (.nested env p store) (.nested env' p store) := by
  unfold Remarks.nested
  rw [he.code]
  split
  case h_2 => exact hR.nil
  case h_1 =>
    split
    case isTrue  => exact hR.lost ..
    case isFalse => exact hR.nil

theorem nestedAll (ps : List Int) (store : Bounded Variable) :
    R (.nestedAll env ps store) (.nestedAll env' ps store) := by
  induction ps generalizing store
  case nil          => exact hR.nil
  case cons p ps hi =>
    rw [Remarks.nestedAll, Remarks.nestedAll, he.code]
    exact hR.append (hR.nested he p store) (hi _)

end Remarks.Tolerates

namespace Library

variable (hR : Remarks.Tolerates R env env') (he : env.Parallel env')
  (hm : m.Parallel R env env' start start' m')
include hR he hm

theorem math_parallel : (Account.math env site m).Parallel R (Account.math env' site m') := by
  unfold Account.math
  rw [hm.store, he.code]
  split
  case h_2 => exact .failed (hR.warn (by decide) _ _)
  case h_1 =>
    refine .after hR ?_ (hR.appends ..)
    unfold Account.undefined
    split
    case h_1 => exact hR.warn (by decide) _ _
    case h_2 => exact hR.nil

omit he in
theorem strings_parallel : (Account.strings env site m).Parallel R (Account.strings env' site m') := by
  unfold Account.strings
  rw [hm.store]
  split
  case h_2 => exact .failed hR.nil
  case h_1 =>
    dsimp only
    split
    case h_1 => exact .failed (hR.warn (by decide) _ _)
    case h_2 => exact hR.appends ..

theorem condition_parallel :
    (Account.condition env site m).Parallel R (Account.condition env' site m') := by
  unfold Account.condition
  rw [hm.store, hm.conditions]
  refine ⟨hR.append (hR.lost ..) ?_, rfl⟩
  split
  case isTrue  => exact hR.nested he ..
  case isFalse => exact hR.nil

theorem dialogue_parallel :
    (Account.dialogue env site m).Parallel R (Account.dialogue env' site m') := by
  unfold Account.dialogue
  cases DialogueOperation.ofNumber? (DialogueOperation.numberAt site.position)
  case none => exact hR.shows [] true
  case some op =>
    cases op
    case clear  => rw [he.terminal]; exact hR.shows ..
    case colour => rw [he.terminal]; exact hR.shows ..
    case bell   => exact hR.shows ..
    case time   => rw [he.clock]; exact hR.shows ..
    case random => rw [hm.store]; exact hR.appends ..
    case status =>
      rw [hm.state]
      exact ⟨hR.status _, rfl⟩
    case display =>
      unfold Account.display
      rw [hm.store]
      cases m'.state.store.last?
      case none   => exact .failed (hR.prints _)
      case some v => exact hR.shows ..
    case pause =>
      unfold Account.pause
      rw [hm.console]
      refine .after hR (hR.prints _) ?_
      cases m'.world.console.readLine.1
      case error e => exact .failed (hR.inputFailed ..)
      case ok line => exact hR.shows [] true
    case readInt =>
      unfold Account.readInt
      rw [hm.console, hm.store]
      refine .after hR (hR.prints _) ?_
      cases m'.world.console.readLine.1
      case error e => exact .failed (hR.inputFailed ..)
      case ok line =>
        dsimp only
        cases Decimal.int64? (Text.trim line)
        case none   => exact .failed (hR.warn (by decide) _ _)
        case some n => exact hR.appends ..
    case readLine =>
      unfold Account.readText
      rw [hm.console, hm.store]
      refine .after hR (hR.prints _) ?_
      cases m'.world.console.readLine.1
      case error e => exact .failed (hR.inputFailed ..)
      case ok line =>
        dsimp only
        split
        case isTrue  => exact hR.appends ..
        case isFalse => exact .failed (hR.warn (by decide) _ _)

theorem account_parallel
    (hr : site.digit = 0x39 →
      (Account.report env site m).Parallel R (Account.report env' site m')) :
    (account extended env site m).Parallel R (account extended env' site m') := by
  have ha : (Account.append env site m.state.store).Parallel R
      (Account.append env' site m'.state.store) := hm.store ▸ hR.appends site m.state.store
  unfold account
  split
  case h_1 =>
    rw [Account.loop, Account.loop, hm.store]
    exact ⟨hR.nestedAll he _ _, rfl⟩
  case h_2 =>
    split
    case isTrue  => exact condition_parallel hR he hm
    case isFalse => exact ha
  case h_3 =>
    split
    case isTrue  => exact strings_parallel hR hm
    case isFalse => exact ha
  case h_4 => exact dialogue_parallel hR he hm
  case h_5 => exact math_parallel hR he hm
  case h_6 hd => exact hr hd
  case h_7 => exact ha

theorem transcript_parallel (hr : env.Reports R env' start start') :
    R (transcript extended env m).toRemarks (transcript extended env' m').toRemarks := by
  unfold transcript
  rw [hm.siteOf he, hm.closing? he, he.code]
  split
  case isTrue => exact hR.nil
  case isFalse =>
    split
    case h_1 => exact hR.prints _
    case h_2 =>
      split
      case isFalse =>
        have hc : Category.parse ≠ Category.store := by decide
        exact hR.warns _ hc
      case isTrue =>
        split
        case isFalse => exact hR.nil
        case isTrue  =>
          exact (account_parallel hR he (hm.handed hR) fun _ => hr _ (hm.handed hR)).remarks

omit hR in
theorem effectAt_parallel : effectAt extended env m = effectAt extended env' m' := by
  rw [effectAt, effectAt, hm.siteOf he, he.code, he.terminal, hm.store, hm.console]

omit hR in
theorem outline_parallel :
    (outline extended env m).state
        = { (outline extended env' m').state with warnings := m.state.warnings } ∧
      (outline extended env m).console = (outline extended env' m').console ∧
      (outline extended env m).fault = (outline extended env' m').fault := by
  have hw (span : Span) : Engine.Whole env span ↔ Engine.Whole env' span := by
    rw [Engine.Whole, Engine.Whole, he.code]
  unfold outline
  rw [hm.siteOf he, hm.closing? he, effectAt_parallel he hm]
  simp only [hw]
  split
  case isTrue => exact ⟨by rw [hm.state], hm.console, rfl⟩
  case isFalse =>
    split
    case h_1 => exact ⟨by rw [hm.state], hm.console, rfl⟩
    case h_2 =>
      split
      case isFalse => exact ⟨hm.state, hm.console, rfl⟩
      case isTrue =>
        refine ⟨?_, rfl, rfl⟩
        rw [hm.state]
        simp only [Effect.apply, State.skip_cursor]

-- A step takes both machines on.
theorem step_parallel (hr : env.Reports R env' start start') :
    (Engine.step (table extended) env m).1.Parallel R env env' start start'
        (Engine.step (table extended) env' m').1 ∧
      fault? (Engine.step (table extended) env m).2
        = fault? (Engine.step (table extended) env' m').2 := by
  have ho := step_outline extended env m
  have ho' := step_outline extended env' m'
  have ⟨hs, hc, hf⟩ : (outline extended env m).state = _ ∧ _ := outline_parallel he hm
  refine ⟨hm.extend hR (transcript_parallel hR he hm hr) (step_transcript ..).remarks
    (step_transcript ..).remarks ?_ ?_, ?_⟩
  · rw [ho.state, hs, ho'.state]
  · rw [ho.console, ho'.console, hc]
  · rw [ho.fault, ho'.fault, hf]

end Library

namespace Engine

theorem finish_parallel (hR : Remarks.Tolerates R env env') (he : env.Parallel env')
    (hm : m.Parallel R env env' start start' m') :
    (finish env m).machine.Parallel R env env' start start' (finish env' m').machine ∧
      (finish env m).ending = (finish env' m').ending := by
  have hd := Library.describes_finish env m
  have hd' := Library.describes_finish env' m'
  rw [← hm.closing? he, ← he.code] at hd'
  have ⟨hs, hc, hf⟩ : (finish env m).machine.state
        = { (finish env' m').machine.state with
            warnings := (finish env m).machine.state.warnings } ∧
      (finish env m).machine.world.console = (finish env' m').machine.world.console ∧
      (finish env m).ending = (finish env' m').ending := by
    unfold finish
    rw [← hm.closing? he]
    cases closing? env m
    case none => exact ⟨hm.state, hm.console, rfl⟩
    case some span =>
      have ⟨after, hst, hco, hcl⟩ := closeRun_cases env span m
      have ⟨after', hst', hco', hcl'⟩ := closeRun_cases env' span m'
      have hs : after.state = { after'.state with warnings := after.state.warnings } := by
        rw [hst, hst', hm.state]
      have hc : after.world.console = after'.world.console := by rw [hco, hco', hm.console]
      have hw : Whole env span ↔ Whole env' span := by rw [Whole, Whole, he.code]
      dsimp only
      rcases hcl with ⟨hw₁, h⟩ | ⟨hw₁, h⟩ <;> rcases hcl' with ⟨hw₂, h'⟩ | ⟨hw₂, h'⟩
      · rw [h, h']; exact ⟨hs, hc, rfl⟩
      · exact absurd (hw.mp hw₁) hw₂
      · exact absurd (hw.mpr hw₂) hw₁
      · rw [h, h']; exact ⟨hs, hc, rfl⟩
  exact ⟨hm.extend hR (hR.prints _) hd hd' hs hc, hf⟩

end Engine

namespace Library

variable (hR : Remarks.Tolerates R env env') (he : env.Parallel env')
  (hr : env.Reports R env' start start')
include hR he hr

theorem alongside_parallel :
    Engine.Alongside (table extended) (table extended) env env'
      (Machine.Parallel · R env env' start start' ·) where
  size          := by rw [he.code]
  cursor hm     := hm.cursor
  step hm _     := step_parallel hR he hm hr
  advance hm    := hm.advance hR
  finish hm _   := Engine.finish_parallel hR he hm

end Library

namespace Interpreter

variable {i i' : Interpreter} {code : Code}

theorem conclude_parallel (hR : Remarks.Tolerates R env env') (he : env.Parallel env')
    (hm : m.Parallel R env env' start start' m') :
    (conclude env m).Parallel R env env' start start' (conclude env' m') := by
  have ht : m.world.resetText env.terminal = m'.world.resetText env'.terminal := by
    rw [World.resetText, World.resetText, hm.console, he.terminal]
  refine hm.extend hR (hR.prints _) (describes_conclude env m) (ht ▸ describes_conclude env' m') ?_ ?_
  · rw [conclude_state, conclude_state, hm.state]
  · rw [console_conclude, console_conclude, hm.console]

-- Programs that are executed side by side end alike.
theorem execute_parallel (he : (i.environment code).Parallel (i'.environment code))
    (hi : i.table = Library.table extended) (hi' : i'.table = Library.table extended)
    (hR : Remarks.Tolerates R (i.environment code) (i'.environment code))
    (hr : (i.environment code).Reports R (i'.environment code)
      ⟨State.start i.settings, i.world⟩ ⟨State.start i'.settings, i'.world⟩)
    (hs : State.start i.settings = State.start i'.settings)
    (hc : i.world.console = i'.world.console) :
    (i.execute code).run.ending = (i'.execute code).run.ending ∧
      (i.execute code).machine.Parallel R (i.environment code) (i'.environment code)
        ⟨State.start i.settings, i.world⟩ ⟨State.start i'.settings, i'.world⟩
        (i'.execute code).machine := by
  have hm : (i.machine code).Parallel R (i.environment code) (i'.environment code)
      ⟨State.start i.settings, i.world⟩ ⟨State.start i'.settings, i'.world⟩ (i'.machine code) := by
    refine (Machine.Parallel.refl hR hs hc).silently hR (i.describes_machine code)
      (i'.describes_machine code) ?_ ?_
    · exact hs
    · rw [console_machine, console_machine, hc]
  have ⟨r, hr', hp, hn⟩ := (execute_runs code hi).alongside
    (Library.alongside_parallel hR he hr) hm
  have hq := (execute_runs code hi').run_eq.symm.trans hr'.run_eq
  rw [← hq] at hn hp
  refine ⟨hn, ?_⟩
  rw [execute_machine, execute_machine, ← hn]
  split
  case isTrue  => exact conclude_parallel hR he hp
  case isFalse => exact hp

end Interpreter
end Denary
