import Denary.Proofs.Cursor

namespace Denary

namespace Bounded

variable {α : Type} {b b' : Bounded α} {as as' : List α}

-- The smaller list holds the oldest entries of the larger one.
def Truncates (b b' : Bounded α) : Prop :=
  b.capacity ≤ b'.capacity → b.toList = b'.toList.take b.capacity

theorem truncates_empty {n n' : Nat} : (empty n : Bounded α).Truncates (empty n') := by
  intro _
  simp

theorem Truncates.eq (h : b.Truncates b') (hc : b.capacity = b'.capacity) : b.toList = b'.toList := by
  rw [h (Nat.le_of_eq hc), hc, List.take_of_length_le b'.length_toList_le]

-- What is offered to both lists need only be the same while they are: once they differ, the smaller
-- one is full.
theorem Truncates.offer (h : b.Truncates b') (ha : b.toList = b'.toList → as = as') :
    (b.offer as).Truncates (b'.offer as') := by
  intro hc
  rw [capacity_offer, capacity_offer] at hc
  rw [toList_offer, toList_offer, capacity_offer, List.take_take, Nat.min_eq_left hc]
  by_cases hl : b.capacity ≤ b'.toList.length
  case pos =>
    have hf : b.capacity ≤ (b'.toList.take b.capacity).length := by simp [hl]
    rw [h hc, List.take_append_of_le_length hl, List.take_append_of_le_length hf, List.take_take,
      Nat.min_self]
  case neg =>
    have he : b.toList = b'.toList := by rw [h hc, List.take_of_length_le (by omega)]
    rw [he, ha he]

end Bounded

-- Environments that agree on all that a step of a library depends on. The settings, the journal, the
-- reporter and the time may differ.
structure Environment.Agrees (env env' : Environment) : Prop where
  code     : env.code = env'.code
  terminal : env.terminal = env'.terminal

-- States that later digits cannot tell apart, but for what did not fit into them.
structure State.Alike (s s' : State) : Prop where
  cursor     : s.cursor = s'.cursor
  runStart   : s.runStart = s'.runStart
  store      : s.store.Truncates s'.store
  conditions : s.conditions.Truncates s'.conditions

structure Machine.Alike (m m' : Machine) : Prop where
  state   : m.state.Alike m'.state
  console : m.world.console = m'.world.console

theorem State.alike_start (settings settings' : Settings) :
    (State.start settings).Alike (State.start settings') where
  cursor     := rfl
  runStart   := rfl
  store      := Bounded.truncates_empty
  conditions := Bounded.truncates_empty

namespace Library

variable {extended : Bool} {env env' : Environment} {m m' : Machine}

theorem siteOf_alike (he : env.Agrees env') (hm : m.Alike m') :
    Engine.siteOf env m = Engine.siteOf env' m' := by
  rw [Engine.siteOf, Engine.siteOf, he.code, hm.state.cursor]

theorem closing?_alike (he : env.Agrees env') (hm : m.Alike m') :
    Engine.closing? env m = Engine.closing? env' m' := by
  rw [Engine.closing?, Engine.closing?, siteOf_alike he hm, he.code, hm.state.cursor,
    hm.state.runStart]

theorem whole_agrees (he : env.Agrees env') (span : Span) :
    Engine.Whole env span ↔ Engine.Whole env' span := by
  rw [Engine.Whole, Engine.Whole, he.code]

theorem effectAt_alike (he : env.Agrees env') (hm : m.Alike m') :
    (effectAt extended env m).Similar (effectAt extended env' m') := by
  unfold effectAt
  rw [siteOf_alike he hm, he.code, he.terminal, hm.console]
  exact effect_entries ..

theorem effectAt_eq (he : env.Agrees env') (hm : m.Alike m')
    (hs : m.state.store.toList = m'.state.store.toList) :
    effectAt extended env m = effectAt extended env' m' := by
  unfold effectAt
  rw [siteOf_alike he hm, he.code, he.terminal, hm.console, hs]

theorem apply_alike (he : env.Agrees env') (hm : m.Alike m') :
    ((effectAt extended env m).apply m.state).Alike ((effectAt extended env' m').apply m'.state) where
  cursor     := by
    simp only [Effect.apply, State.skip_cursor, hm.state.cursor, (effectAt_alike he hm).skipped]
  runStart   := hm.state.runStart
  store      := hm.state.store.offer (effectAt_eq he hm · ▸ rfl)
  conditions := hm.state.conditions.offer fun _ => (effectAt_alike he hm).pushed

theorem outline_alike (he : env.Agrees env') (hm : m.Alike m') :
    (outline extended env m).state.Alike (outline extended env' m').state ∧
      (outline extended env m).console = (outline extended env' m').console ∧
      (outline extended env m).fault = (outline extended env' m').fault := by
  have ⟨⟨hc, hr, hs, hf⟩, hk⟩ := hm
  unfold outline
  rw [siteOf_alike he hm, closing?_alike he hm]
  split
  case isTrue => exact ⟨⟨hc, by rw [hr, hc], hs, hf⟩, hk, rfl⟩
  case isFalse =>
    cases Engine.closing? env' m'
    case some span => exact ⟨⟨hc, rfl, hs, hf⟩, hk, by simp only [whole_agrees he]⟩
    case none =>
      dsimp only
      split
      case isFalse => exact ⟨⟨hc, hr, hs, hf⟩, hk, rfl⟩
      case isTrue =>
        have h : (effectAt extended env m).Similar _ := effectAt_alike he hm
        have ha : ((effectAt extended env m).apply m.state).Alike _ := apply_alike he hm
        exact ⟨⟨ha.cursor, ha.runStart, ha.store, ha.conditions⟩, h.console, h.fault⟩

-- A step only sees what its outline shows.
theorem step_alike (he : env.Agrees env') (hm : m.Alike m') :
    (Engine.step (table extended) env m).1.Alike (Engine.step (table extended) env' m').1 ∧
      fault? (Engine.step (table extended) env m).2
        = fault? (Engine.step (table extended) env' m').2 := by
  have h := step_outline extended env m
  have h' := step_outline extended env' m'
  have ⟨⟨hc, hr, hs, hf⟩, hk, hx⟩ : (outline extended env m).state.Alike _ ∧ _ := outline_alike he hm
  refine ⟨⟨?_, ?_⟩, ?_⟩
  · rw [h.state, h'.state]
    exact ⟨hc, hr, hs, hf⟩
  · rw [h.console, h'.console, hk]
  · rw [h.fault, h'.fault, hx]

theorem finish_alike (he : env.Agrees env') (hm : m.Alike m') :
    (Engine.finish env m).machine.Alike (Engine.finish env' m').machine ∧
      (Engine.finish env m).ending = (Engine.finish env' m').ending := by
  have hq := closing?_alike he hm
  have h := Engine.finish_finished env m
  have h' := Engine.finish_finished env' m'
  generalize Engine.finish env m = r at h ⊢
  generalize Engine.finish env' m' = r' at h' ⊢
  have ⟨⟨hc, _, hs, hf⟩, hk⟩ := hm
  cases h
  case none hcl =>
    cases h'
    case none => exact ⟨hm, rfl⟩
    all_goals simp_all
  case close hcl hwh hst hco =>
    cases h'
    case close hst' hco' =>
      refine ⟨⟨?_, hco.trans hk |>.trans hco'.symm⟩, rfl⟩
      rw [hst, hst']
      exact ⟨hc, rfl, hs, hf⟩
    all_goals simp_all [whole_agrees he]
  case broken hcl hwh hst hco =>
    cases h'
    case broken hst' hco' =>
      refine ⟨⟨?_, hco.trans hk |>.trans hco'.symm⟩, rfl⟩
      rw [hst, hst']
      exact ⟨hc, rfl, hs, hf⟩
    all_goals simp_all [whole_agrees he]

theorem alongside (he : env.Agrees env') :
    Engine.Alongside (table extended) (table extended) env env' Machine.Alike where
  size          := by rw [he.code]
  cursor hm     := hm.state.cursor
  step hm _     := step_alike he hm
  advance hm    := ⟨⟨congrArg (wrap64 <| · + 1) hm.state.cursor, hm.state.runStart, hm.state.store,
    hm.state.conditions⟩, hm.console⟩
  finish hm _   := finish_alike he hm

-- The capacities are set before the first digit and never change.
structure Keeps (s s' : State) : Prop where
  store      : s'.store.capacity = s.store.capacity
  conditions : s'.conditions.capacity = s.conditions.capacity

theorem step_keeps (extended : Bool) (env : Environment) (m : Machine) :
    Keeps m.state (Engine.step (table extended) env m).1.state := by
  have ho : Keeps m.state (outline extended env m).state := by
    unfold outline
    repeat' split
    all_goals exact ⟨by simp [Effect.apply], by simp [Effect.apply]⟩
  rw [(step_outline extended env m).state]
  exact ⟨ho.store, ho.conditions⟩

theorem finish_keeps (env : Environment) (m : Machine) :
    Keeps m.state (Engine.finish env m).machine.state := by
  have h := Engine.finish_finished env m
  generalize Engine.finish env m = r at h ⊢
  cases h
  case none              => exact ⟨rfl, rfl⟩
  case close _ _ hst _   => exact ⟨by rw [hst], by rw [hst]⟩
  case broken _ _ hst _  => exact ⟨by rw [hst], by rw [hst]⟩

theorem runs_keeps {r : Engine.Run} (h : Engine.Runs (table extended) env m r) :
    Keeps m.state r.machine.state := by
  induction h
  case finish m _ => exact finish_keeps env m
  case crash m after fault _ hs =>
    have := step_keeps extended env m
    rwa [hs] at this
  case step m after outcome r _ hs _ hi =>
    have := step_keeps extended env m
    rw [hs] at this
    exact ⟨hi.store.trans this.store, hi.conditions.trans this.conditions⟩

end Library

-- The same surroundings with other capacities.
def Environment.withCapacities (env : Environment) (v d : Int) : Environment :=
  { env with settings := { env.settings with maxVariables := v, maxConditions := d } }

namespace Library

variable (extended : Bool) (env : Environment) (world : World)

-- The run of a library with the given capacities in place of the ones of the settings.
def runWith (v d : Int) : Engine.Run :=
  let env := env.withCapacities v d
  Engine.run (table extended) env ⟨State.start env.settings, world⟩

-- The variables and the frames at the end of such a run.

def finalVariables (v d : Int) : List Variable :=
  (runWith extended env world v d).machine.state.store.toList

def finalFrames (v d : Int) : List Frame :=
  (runWith extended env world v d).machine.state.conditions.toList

theorem runWith_runs (v d : Int) :
    Engine.Runs (table extended) (env.withCapacities v d)
      ⟨State.start (env.withCapacities v d).settings, world⟩ (runWith extended env world v d) := by
  have ⟨r, hr⟩ := exists_runs extended (env.withCapacities v d) world
  have he : runWith extended env world v d = r := hr.run_eq
  exact he ▸ hr

theorem runWith_alike (v v' d d' : Int) :
    (runWith extended env world v d).machine.Alike (runWith extended env world v' d').machine ∧
      (runWith extended env world v d).ending = (runWith extended env world v' d').ending := by
  have he : (env.withCapacities v d).Agrees (env.withCapacities v' d') := ⟨rfl, rfl⟩
  have hm : Machine.Alike ⟨State.start (env.withCapacities v d).settings, world⟩
      ⟨State.start (env.withCapacities v' d').settings, world⟩ := ⟨State.alike_start _ _, rfl⟩
  have hr := runWith_runs extended env world v d
  have ⟨r', hr', ha⟩ := hr.alongside (alongside he) hm
  have heq : runWith extended env world v' d' = r' := hr'.run_eq
  exact heq ▸ ha

theorem runWith_keeps (v d : Int) :
    Keeps (State.start (env.withCapacities v d).settings)
      (runWith extended env world v d).machine.state :=
  runs_keeps (runWith_runs extended env world v d)

theorem capacity_ofRequest {α : Type} {request : Int} (h : 0 < request) (fallback : Nat) :
    (Bounded.ofRequest request fallback : Bounded α).capacity = request.toNat :=
  if_neg (Int.not_le.mpr h)

-- Capacities only cut off. A run with room for `c` variables ends with the first `c` ones of a run
-- with more room, and likewise for frames. The limit on frames does not show in the variables.
theorem capacity_truncates (extended : Bool) (env : Environment) (world : World)
    {c c' d d' : Int} (hc : 0 < c) (hcc : c ≤ c') (hd : 0 < d) (hdd : d ≤ d') :
    (∀ e, finalVariables extended env world c e
        = (finalVariables extended env world c' e).take c.toNat) ∧
      (∀ e, finalFrames extended env world e d
        = (finalFrames extended env world e d').take d.toNat) ∧
      (∀ k e e', finalVariables extended env world k e = finalVariables extended env world k e') ∧
      (∀ k k' e e',
        (runWith extended env world k e).ending = (runWith extended env world k' e').ending ∧
        (runWith extended env world k e).ending ≠ .runaway) := by
  have hk (v d : Int) := runWith_keeps extended env world v d
  have ha (v v' d d' : Int) := runWith_alike extended env world v v' d d'
  have hc' : 0 < c' := Int.lt_of_lt_of_le hc hcc
  have hd' : 0 < d' := Int.lt_of_lt_of_le hd hdd
  refine ⟨fun e => ?_, fun e => ?_, fun k e e' => ?_, fun k k' e e' => ⟨?_, ?_⟩⟩
  · have h₁ : _ = c.toNat  := (hk c e).store.trans (capacity_ofRequest hc _)
    have h₂ : _ = c'.toNat := (hk c' e).store.trans (capacity_ofRequest hc' _)
    exact h₁ ▸ (ha c c' e e).left.state.store (by omega)
  · have h₁ : _ = d.toNat  := (hk e d).conditions.trans (capacity_ofRequest hd _)
    have h₂ : _ = d'.toNat := (hk e d').conditions.trans (capacity_ofRequest hd' _)
    exact h₁ ▸ (ha e e d d').left.state.conditions (by omega)
  · have hs := (hk k e).store.trans (hk k e').store.symm
    exact (ha k k e e').left.state.store.eq hs
  · exact (ha k k' e e').right
  · exact (runWith_runs extended env world k e).ending_ne_runaway

-- In `23385`, the smaller store is full in the middle of the loop, and the operation behind it finds
-- other operands.
theorem capacity_truncates_loop :
    let env := Environment.plain (Code.ofArray #[0x32, 0x33, 0x33, 0x38, 0x35]) {}
    (0 < (1 : Int) ∧ (1 : Int) ≤ 3) ∧
      finalVariables true env default 1 100 = (finalVariables true env default 3 100).take 1 ∧
      finalFrames true env default 3 1 = (finalFrames true env default 3 2).take 1 ∧
      finalVariables true env default 3 1 = finalVariables true env default 3 2 := by
  intro env
  have hc : 0 < (1 : Int) ∧ (1 : Int) ≤ 3 := by decide
  have ⟨hv, hf, hi, _⟩ := capacity_truncates true env default hc.left hc.right
    (by decide : 0 < (1 : Int)) (by decide : (1 : Int) ≤ 2)
  exact ⟨hc, hv 100, hf 3, hi 3 1 2⟩

end Library

end Denary
