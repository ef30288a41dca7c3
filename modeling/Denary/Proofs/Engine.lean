import Denary.Proofs.Effect

namespace Denary.Engine

section

variable (env : Environment) (site : Site) (span : Span) (m : Machine)

@[simp]
theorem state_announce : (announce env site m).state = m.state := by
  unfold announce
  split <;> simp

@[simp]
theorem console_announce : (announce env site m).world.console = m.world.console := by
  unfold announce
  split <;> simp

@[simp]
theorem closing?_announce : closing? env (announce env site m) = closing? env m := by
  unfold closing? siteOf
  rw [state_announce]

theorem state_openRun (p : Int) :
    (openRun p m).state = { m.state with runStart := m.state.runStart.or (some p.toNat) } := by
  unfold openRun
  cases h : m.state.runStart
  case none   => rfl
  case some s =>
    have hs : m.state = { m.state with runStart := some s } := by rw [← h]
    exact hs

theorem console_openRun (p : Int) : (openRun p m).world.console = m.world.console := by
  unfold openRun
  split <;> rfl

theorem state_closeRun :
    (closeRun env span m).1.state
      = { m.state with runStart := none, binaryRuns := m.state.binaryRuns + 1 } := by
  unfold closeRun
  split <;> rfl

theorem console_closeRun : (closeRun env span m).1.world.console = m.world.console := by
  unfold closeRun
  split <;> simp

-- A stretch of the code that can be read: it does not run backwards, nor beyond the last byte.
def Whole (env : Environment) (span : Span) : Prop :=
  span.start ≤ span.stop ∧ span.stop ≤ env.code.size

instance : Decidable (Whole env span) :=
  inferInstanceAs (Decidable (_ ∧ _))

theorem closeRun_cases :
    ∃ after : Machine,
      after.state = { m.state with runStart := none, binaryRuns := m.state.binaryRuns + 1 } ∧
      after.world.console = m.world.console ∧
      (Whole env span ∧ closeRun env span m = (after, .ok ()) ∨
        ¬ Whole env span ∧ closeRun env span m = (after, .error .brokenSpan)) := by
  refine ⟨(closeRun env span m).1, state_closeRun env span m, console_closeRun env span m, ?_⟩
  by_cases hw : Whole env span
  case pos => exact .inl ⟨hw, Prod.ext rfl (by unfold Whole at hw; simp [closeRun, Code.slice?, hw])⟩
  case neg => exact .inr ⟨hw, Prod.ext rfl (by unfold Whole at hw; simp [closeRun, Code.slice?, hw])⟩

-- The machine that a handler is called on: the digit is announced, and the call counted.
def handed (env : Environment) (m : Machine) : Machine :=
  let m := announce env (siteOf env m) m
  { m with state := { m.state with executed := m.state.executed + 1 } }

theorem state_handed :
    (handed env m).state = { m.state with executed := m.state.executed + 1 } := by
  simp [handed]

@[simp]
theorem console_handed : (handed env m).world.console = m.world.console := by
  simp [handed]

-- A call that was not completed is noted in the journal, which changes nothing else.
theorem call_agrees (h : Handler) :
    (call h env (siteOf env m) (announce env (siteOf env m) m)).1.state
        = (h env (siteOf env m) (handed env m)).1.state ∧
      (call h env (siteOf env m) (announce env (siteOf env m) m)).1.world.console
        = (h env (siteOf env m) (handed env m)).1.world.console ∧
      (call h env (siteOf env m) (announce env (siteOf env m) m)).2
        = (h env (siteOf env m) (handed env m)).2 := by
  unfold call handed
  dsimp only
  split
  case h_1 heq =>
    rw [heq]
    exact ⟨rfl, Machine.console_debug .., rfl⟩
  case h_2 heq => exact ⟨rfl, rfl, rfl⟩

end

section

variable (t : Table) (env : Environment) (m : Machine)

-- All that taking a digit can do. The cases exclude each other, and each says what becomes of the
-- state and of the console.
inductive Taken : Machine × Except Fault Outcome → Prop
  | bit {after}
      (digit   : (siteOf env m).digit = 0x30 ∨ (siteOf env m).digit = 0x31)
      (state   : after.state
        = { m.state with runStart := m.state.runStart.or (some m.state.cursor.toNat) })
      (console : after.world.console = m.world.console) :
      Taken (after, .ok .collected)
  | close {after span}
      (bit     : (siteOf env m).digit ≠ 0x30 ∧ (siteOf env m).digit ≠ 0x31)
      (closing : closing? env m = some span)
      (whole   : Whole env span)
      (state   : after.state
        = { m.state with runStart := none, binaryRuns := m.state.binaryRuns + 1 })
      (console : after.world.console = m.world.console) :
      Taken (after, .ok (.closed span))
  | broken {after span}
      (bit     : (siteOf env m).digit ≠ 0x30 ∧ (siteOf env m).digit ≠ 0x31)
      (closing : closing? env m = some span)
      (broken  : ¬ Whole env span)
      (state   : after.state
        = { m.state with runStart := none, binaryRuns := m.state.binaryRuns + 1 })
      (console : after.world.console = m.world.console) :
      Taken (after, .error .brokenSpan)
  | unknown {after}
      (bit     : (siteOf env m).digit ≠ 0x30 ∧ (siteOf env m).digit ≠ 0x31)
      (closing : closing? env m = none)
      (digit   : Text.isDigit (siteOf env m).digit = false)
      (state   : after.state = { m.state with warnings := m.state.warnings + 1 })
      (console : after.world.console = m.world.console) :
      Taken (after, .ok .unknown)
  | unbound {after}
      (bit     : (siteOf env m).digit ≠ 0x30 ∧ (siteOf env m).digit ≠ 0x31)
      (closing : closing? env m = none)
      (digit   : Text.isDigit (siteOf env m).digit = true)
      (table   : t (siteOf env m).digit = none)
      (state   : after.state = m.state)
      (console : after.world.console = m.world.console) :
      Taken (after, .ok .unbound)
  | called {after h status}
      (bit     : (siteOf env m).digit ≠ 0x30 ∧ (siteOf env m).digit ≠ 0x31)
      (closing : closing? env m = none)
      (digit   : Text.isDigit (siteOf env m).digit = true)
      (table   : t (siteOf env m).digit = some h)
      (answer  : (h env (siteOf env m) (handed env m)).2 = .ok status)
      (state   : after.state = (h env (siteOf env m) (handed env m)).1.state)
      (console : after.world.console = (h env (siteOf env m) (handed env m)).1.world.console) :
      Taken (after, .ok (.called status))
  | stopped {after h fault}
      (bit     : (siteOf env m).digit ≠ 0x30 ∧ (siteOf env m).digit ≠ 0x31)
      (closing : closing? env m = none)
      (digit   : Text.isDigit (siteOf env m).digit = true)
      (table   : t (siteOf env m).digit = some h)
      (answer  : (h env (siteOf env m) (handed env m)).2 = .error fault)
      (state   : after.state = (h env (siteOf env m) (handed env m)).1.state)
      (console : after.world.console = (h env (siteOf env m) (handed env m)).1.world.console) :
      Taken (after, .error fault)

theorem step_taken : Taken t env m (step t env m) := by
  unfold step
  dsimp only
  split
  case isTrue hb =>
    refine .bit hb ?_ ?_
    · rw [state_openRun, state_announce]
      rfl
    · rw [console_openRun, console_announce]
  case isFalse hb =>
    have hb' := not_or.mp hb
    rw [closing?_announce]
    cases hc : closing? env m
    case some span =>
      have ⟨after, hs, hk, hr⟩ := closeRun_cases env span (announce env (siteOf env m) m)
      rw [state_announce] at hs
      rw [console_announce] at hk
      rcases hr with ⟨hw, hr⟩ | ⟨hw, hr⟩
      · simp only [hr]
        exact .close hb' hc hw hs hk
      · simp only [hr]
        exact .broken hb' hc hw hs hk
    case none =>
      dsimp only
      split
      case isTrue hd =>
        exact .unknown hb' hc (by simpa using hd) (by simp [warnUnknown]) (by simp [warnUnknown])
      case isFalse hd =>
        rw [Bool.not_eq_true, Bool.not_eq_false] at hd
        cases ht : t (siteOf env m).digit
        case none => exact .unbound hb' hc hd ht (by simp) (by simp)
        case some h =>
          have ⟨hs, hk, ha⟩ := call_agrees env m h
          dsimp only
          cases hr : call h env (siteOf env m) (announce env (siteOf env m) m)
          case mk after answer =>
            rw [hr] at hs hk ha
            cases answer
            case ok status   => exact .called hb' hc hd ht ha.symm hs hk
            case error fault => exact .stopped hb' hc hd ht ha.symm hs hk

theorem step_ok_taken {after : Machine} {outcome : Outcome}
    (h : step t env m = (after, .ok outcome)) : Taken t env m (after, .ok outcome) :=
  h ▸ step_taken t env m

end

section

variable (env : Environment) (m : Machine)

-- All that can happen behind the last digit.
inductive Finished : Run → Prop
  | none
      (closing : closing? env m = .none) :
      Finished ⟨[], .none, m, .finished⟩
  | close {after span}
      (closing : closing? env m = some span)
      (whole   : Whole env span)
      (state   : after.state
        = { m.state with runStart := .none, binaryRuns := m.state.binaryRuns + 1 })
      (console : after.world.console = m.world.console) :
      Finished ⟨[], some span, after, .finished⟩
  | broken {after span}
      (closing : closing? env m = some span)
      (broken  : ¬ Whole env span)
      (state   : after.state
        = { m.state with runStart := .none, binaryRuns := m.state.binaryRuns + 1 })
      (console : after.world.console = m.world.console) :
      Finished ⟨[], .none, after, .crashed .brokenSpan⟩

theorem finish_finished : Finished env m (finish env m) := by
  unfold finish
  cases hc : closing? env m
  case none => exact .none hc
  case some span =>
    have ⟨after, hs, hk, hr⟩ := closeRun_cases env span m
    rcases hr with ⟨hw, hr⟩ | ⟨hw, hr⟩
    · simp only [hr]
      exact .close hc hw hs hk
    · simp only [hr]
      exact .broken hc hw hs hk

theorem finish_dispatches : (finish env m).dispatches = [] := by
  have h := finish_finished env m
  generalize finish env m = r at h
  cases h <;> rfl

theorem finish_trailing {env : Environment} {m : Machine} (hf : (finish env m).ending = .finished) :
    (finish env m).trailing = closing? env m := by
  have h := finish_finished env m
  generalize finish env m = r at h hf ⊢
  cases h
  case none hcl        => exact hcl.symm
  case close hcl _ _ _ => exact hcl.symm
  case broken          => cases hf

theorem finish_store : (finish env m).machine.state.store = m.state.store := by
  have h := finish_finished env m
  generalize finish env m = r at h ⊢
  cases h
  case none             => rfl
  case close _ _ hst _  => rw [hst]
  case broken _ _ hst _ => rw [hst]

theorem finish_console : (finish env m).machine.world.console = m.world.console := by
  have h := finish_finished env m
  generalize finish env m = r at h ⊢
  cases h
  case none             => rfl
  case close _ _ _ hco  => exact hco
  case broken _ _ _ hco => exact hco

end

end Denary.Engine
