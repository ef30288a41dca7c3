import Denary.Proofs.Engine

namespace Denary

-- What surrounds a code where nothing special is asked for.
def Environment.plain (code : Code) (settings : Settings) : Environment where
  code     := code
  settings := settings
  journal  := Journal.start settings.debug
  reporter := none
  terminal := {}
  clock    := 0

namespace Engine

-- A machine reaches those that it passes when it takes digits.
inductive Reaches (t : Table) (env : Environment) : Machine → Machine → Prop
  | refl {m : Machine} : Reaches t env m m
  | step {m m' after : Machine} {outcome : Outcome}
      (inside : m.state.cursor < env.code.size)
      (taken  : step t env m = (after, .ok outcome))
      (rest   : Reaches t env (advance after) m') : Reaches t env m m'

-- The runs of the engine, one digit at a time.
inductive Runs (t : Table) (env : Environment) : Machine → Run → Prop
  | finish {m : Machine}
      (behind : ¬ m.state.cursor < env.code.size) : Runs t env m (finish env m)
  | crash {m after : Machine} {fault : Fault}
      (inside : m.state.cursor < env.code.size)
      (taken  : step t env m = (after, .error fault)) :
      Runs t env m ⟨[], none, after, .crashed fault⟩
  | step {m after : Machine} {outcome : Outcome} {r : Run}
      (inside : m.state.cursor < env.code.size)
      (taken  : step t env m = (after, .ok outcome))
      (rest   : Runs t env (advance after) r) :
      Runs t env m { r with dispatches := ⟨siteOf env m, outcome, m, after⟩ :: r.dispatches }

variable {t t' : Table} {env env' : Environment} {m m' : Machine} {r : Run}

theorem Runs.run?_eq (h : Runs t env m r) : m.run? t env = some r := by
  induction h
  case finish hb       => rw [Machine.run?, if_neg hb]
  case crash hc hs     => rw [Machine.run?, if_pos hc, hs]
  case step hc hs _ hi => rw [Machine.run?, if_pos hc, hs]; simp [hi]

theorem runs_of_run?_eq (h : m.run? t env = some r) : Runs t env m r := by
  refine Machine.run?.partial_correctness t env (Runs t env) ?_ m r h
  intro loop hi m r h
  split at h
  case isFalse hb =>
    cases h
    exact .finish hb
  case isTrue hc =>
    split at h
    case h_1 after fault hs =>
      cases h
      exact .crash hc hs
    case h_2 after outcome hs =>
      obtain ⟨rest, hr, he⟩ := Option.bind_eq_some_iff.mp h
      cases he
      exact .step hc hs (hi _ _ hr)

theorem run?_eq_some_iff : m.run? t env = some r ↔ Runs t env m r :=
  ⟨runs_of_run?_eq, Runs.run?_eq⟩

theorem Runs.run_eq (h : Runs t env m r) : run t env m = r := by
  rw [run, h.run?_eq, Option.getD_some]

theorem Runs.ending_ne_runaway (h : Runs t env m r) : r.ending ≠ .runaway := by
  induction h
  case finish m _ =>
    have hf := finish_finished env m
    generalize Engine.finish env m = r at hf ⊢
    cases hf <;> exact nofun
  case crash       => exact nofun
  case step _ _ hi => exact hi

-- A run exists when the cursor moves forward wherever the engine can get to.
theorem exists_runs {I : Machine → Prop}
    (hi : ∀ {m after : Machine} {outcome : Outcome}, I m → m.state.cursor < env.code.size →
      step t env m = (after, .ok outcome) →
      I (advance after) ∧ m.state.cursor < (advance after).state.cursor)
    (hm : I m) : ∃ r, Runs t env m r := by
  -- The induction is on the number of positions that are left.
  induction hn : (env.code.size - m.state.cursor).toNat using Nat.strongRecOn generalizing m
  case ind n ih =>
    by_cases hc : m.state.cursor < env.code.size
    case neg => exact ⟨_, .finish hc⟩
    case pos =>
      cases hs : step t env m
      case mk after answer =>
        cases answer
        case error fault => exact ⟨_, .crash hc hs⟩
        case ok outcome =>
          have ⟨hi', hlt⟩ := hi hm hc hs
          have ⟨r, hr⟩ := ih _ (by omega) hi' rfl
          exact ⟨_, .step hc hs hr⟩

-- The digits of a run are taken the way the engine takes a digit.
theorem Runs.taken_of_mem (h : Runs t env m r) {d : Dispatch} (hd : d ∈ r.dispatches) :
    d.site = siteOf env d.before ∧ d.before.state.cursor < env.code.size ∧
      Engine.step t env d.before = (d.after, .ok d.outcome) := by
  induction h
  case finish m _ =>
    rw [finish_dispatches] at hd
    cases hd
  case crash => cases hd
  case step hc hs _ hi =>
    rcases List.mem_cons.mp hd with rfl | hd
    · exact ⟨rfl, hc, hs⟩
    · exact hi hd

-- The machines that a run shows: before and after each digit, and at its end.
def Run.machines (r : Run) : List Machine :=
  r.dispatches.flatMap (fun d => [d.before, d.after]) ++ [r.machine]

theorem Run.machines_cons (r : Run) (d : Dispatch) :
    Run.machines { r with dispatches := d :: r.dispatches }
      = d.before :: d.after :: r.machines := by
  simp [machines]

theorem Run.before_mem_machines {r : Run} {d : Dispatch} (hd : d ∈ r.dispatches) :
    d.before ∈ r.machines :=
  List.mem_append_left _ (List.mem_flatMap.mpr ⟨d, hd, List.mem_cons_self⟩)

-- What a run preserves, from what a step preserves: `I` holds wherever the engine takes a digit,
-- and implies `P`, which also holds of what a step or the end of the code leaves behind.
theorem Runs.forall_machines {I P : Machine → Prop}
    (hp : ∀ {m}, I m → P m)
    (hi : ∀ {m after : Machine} {answer : Except Fault Outcome}, I m → m.state.cursor < env.code.size →
      Engine.step t env m = (after, answer) → P after ∧ (fault? answer = none → I (advance after)))
    (hf : ∀ {m}, I m → P (Engine.finish env m).machine)
    (h : Runs t env m r) (hm : I m) : ∀ m' ∈ r.machines, P m' := by
  induction h
  case finish m hb =>
    intro m' hm'
    simp only [Run.machines, finish_dispatches, List.flatMap_nil, List.nil_append,
      List.mem_singleton] at hm'
    exact hm' ▸ hf hm
  case crash hc hs =>
    intro m' hm'
    simp only [Run.machines, List.flatMap_nil, List.nil_append, List.mem_singleton] at hm'
    exact hm' ▸ (hi hm hc hs).left
  case step hc hs _ ih =>
    have ⟨ha, hn⟩ := hi hm hc hs
    intro m' hm'
    rw [Run.machines_cons, List.mem_cons, List.mem_cons] at hm'
    rcases hm' with rfl | rfl | hm'
    · exact hp hm
    · exact ha
    · exact ih (hn rfl) m' hm'

-- Two runs go along with each other when a relation between their machines survives each step.
structure Alongside (t t' : Table) (env env' : Environment) (R : Machine → Machine → Prop) : Prop where
  size    : env.code.size = env'.code.size
  cursor  : ∀ {m m' : Machine}, R m m' → m.state.cursor = m'.state.cursor
  step    : ∀ {m m' : Machine}, R m m' → m.state.cursor < env.code.size →
    R (step t env m).1 (step t' env' m').1 ∧ fault? (step t env m).2 = fault? (step t' env' m').2
  advance : ∀ {m m'}, R m m' → R (advance m) (advance m')
  finish  : ∀ {m m' : Machine}, R m m' → ¬ m.state.cursor < env.code.size →
    R (finish env m).machine (finish env' m').machine ∧
      (finish env m).ending = (finish env' m').ending

theorem Runs.alongside {R : Machine → Machine → Prop} (ha : Alongside t t' env env' R)
    (h : Runs t env m r) (hr : R m m') :
    ∃ r', Runs t' env' m' r' ∧ R r.machine r'.machine ∧ r.ending = r'.ending := by
  induction h generalizing m'
  case finish hb =>
    have ⟨hm, he⟩ := ha.finish hr hb
    exact ⟨_, .finish (ha.size ▸ ha.cursor hr ▸ hb), hm, he⟩
  case crash hc hs =>
    have ⟨hm, hf⟩ := ha.step hr hc
    rw [hs] at hm hf
    have he := eq_error_of_fault? hf.symm
    exact ⟨_, .crash (ha.size ▸ ha.cursor hr ▸ hc) (Prod.ext rfl he), hm, rfl⟩
  case step hc hs _ hi =>
    have ⟨hm, hf⟩ := ha.step hr hc
    rw [hs] at hm hf
    have ⟨_, ho⟩ := eq_ok_of_fault? hf.symm
    have ⟨_, hr', hm', he⟩ := hi (ha.advance hm)
    exact ⟨_, .step (ha.size ▸ ha.cursor hr ▸ hc) (Prod.ext rfl ho) hr', hm', he⟩

end Engine
end Denary
