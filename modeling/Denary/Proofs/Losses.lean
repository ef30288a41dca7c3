import Mathlib.Algebra.GroupWithZero.Nat
import Denary.Proofs.Transcript

-- What is dropped for lack of capacity, and what is said of it. A handler offers variables to the
-- store and pushes frames on the stack of conditions. Those by which neither of them grows are lost,
-- and if the settings ask for it, each of them is worth a warning of its own.

namespace Denary

namespace Bounded

variable {α : Type} (b : Bounded α)

theorem size_offer (as : List α) : (b.offer as).size = min b.capacity (b.size + as.length) := by
  rw [← length_toList, toList_offer, List.length_take, List.length_append, length_toList]

-- How many of the entries that are offered do not fit.
def excess (as : List α) : Nat :=
  as.length - ((b.offer as).size - b.size)

@[simp]
theorem excess_nil : b.excess [] = 0 := by
  simp [excess]

theorem excess_append (as as' : List α) :
    b.excess (as ++ as') = b.excess as + (b.offer as).excess as' := by
  have hb := b.size_le_capacity
  unfold excess
  simp only [size_offer, capacity_offer, List.length_append]
  omega

theorem excess_singleton (a : α) : b.excess [a] = b.isFull.toNat := by
  have hb := b.size_le_capacity
  have hf : b.isFull = decide (b.capacity ≤ b.size) := rfl
  rw [hf, excess, size_offer, List.length_singleton]
  by_cases h : b.capacity ≤ b.size
  case pos =>
    rw [decide_eq_true h, Bool.toNat_true]
    omega
  case neg =>
    rw [decide_eq_false h, Bool.toNat_false]
    omega

end Bounded

namespace Remarks

-- How many of the warnings are about something that did not fit.
def losses (a : Remarks) : Nat :=
  a.warned.countP (·.category = Category.store)

@[simp]
theorem losses_append (a b : Remarks) : (a ++ b).losses = a.losses + b.losses :=
  List.countP_append

@[simp]
theorem losses_prints (ts : List Bytes) : losses { printed := ts } = 0 :=
  rfl

@[simp]
theorem losses_reports (ss : List Snapshot) : losses { reported := ss } = 0 :=
  rfl

theorem losses_warn {c : Category} (hc : c ≠ Category.store) (site : Site) (t : Bytes) :
    (warn site c t).losses = 0 := by
  simp [losses, warn, warning, hc]

@[simp]
theorem losses_inputFailed (site : Site) (e : Error) : (inputFailed site e).losses = 0 :=
  losses_warn (by decide) _ _

section

variable {env : Environment} (hs : env.settings.warnOnCapacity = true)
include hs

theorem losses_lost (site : Site) (cause : Cause) (full : Bool) :
    (lost env.settings site cause full).losses = full.toNat := by
  unfold lost
  rw [hs]
  cases full <;> rfl

theorem losses_offer (site : Site) (store : Bounded Variable) (v : Variable) :
    (offer env site store).losses = store.excess [v] := by
  rw [offer, losses_lost hs, store.excess_singleton]

theorem losses_nested (p : Int) (store : Bounded Variable) :
    (nested env p store).losses = store.excess (Variable.nested env.code p) := by
  unfold nested Variable.nested
  cases env.code.at? p
  case none => simp
  case some digit =>
    cases hk : Kind.ofDigit? digit
    case none      => simp [hk]
    case some kind =>
      simp only [hk, Option.isSome_some, ↓reduceIte, Option.bind_some]
      exact losses_offer hs ..

theorem losses_nestedAll (ps : List Int) (store : Bounded Variable) :
    (nestedAll env ps store).losses = store.excess (ps.flatMap (Variable.nested env.code)) := by
  induction ps generalizing store
  case nil          => simp [nestedAll]
  case cons p ps hi =>
    rw [nestedAll, losses_append, losses_nested hs, hi, List.flatMap_cons, Bounded.excess_append]

end
end Remarks

namespace Account

theorem flatMap_loopPositions (code : Code) (p : Int) :
    (loopPositions p).flatMap (Variable.nested code)
      = (List.replicate (Loop.roundsAt p).toNat (Opcode.loopBody code p)).flatten := by
  unfold loopPositions
  generalize (Loop.roundsAt p).toNat = n
  induction n
  case zero      => rfl
  case succ n hi =>
    rw [List.replicate_succ, List.replicate_succ, List.flatten_cons, List.flatten_cons,
      List.flatMap_append, hi]
    simp [Opcode.loopBody]

variable {env : Environment} {site : Site} {m : Machine}

@[simp]
theorem losses_after (b : Remarks) (a : Account) :
    (after b a).losses = b.losses + a.losses :=
  Remarks.losses_append ..

variable (hs : env.settings.warnOnCapacity = true)
include hs

theorem losses_append (site : Site) (store : Bounded Variable) (v : Variable) :
    (append env site store).losses = store.excess [v] :=
  Remarks.losses_offer hs site store v

theorem losses_condition :
    (condition env site m).losses
      = m.state.store.excess (Effect.condition env.code site.position m.world.console).offered
        + m.state.conditions.excess
          (Effect.condition env.code site.position m.world.console).pushed := by
  unfold condition Effect.condition
  rw [Remarks.losses_append, Remarks.losses_lost hs, Bounded.excess_singleton]
  split
  case isTrue  => rw [Remarks.losses_nested hs, Nat.add_comm]
  case isFalse => simp

theorem losses_loop :
    (loop env site m).losses
      = m.state.store.excess (Effect.loop env.code site.position m.world.console).offered := by
  rw [loop, Remarks.losses_nestedAll hs, flatMap_loopPositions]
  rfl

theorem losses_math :
    (math env site m).losses
      = m.state.store.excess (Effect.calculated env.code site.position m.state.store.toList) := by
  have hu (u : Option Undefined) : (undefined site u).losses = 0 := by
    cases u
    case none   => rfl
    case some u => exact Remarks.losses_warn (by decide) _ _
  have hw (t : Bytes) : (failed (.warn site Category.math t)).losses = 0 :=
    Remarks.losses_warn (by decide) site t
  unfold math Effect.calculated
  rcases Variable.newest 2 [.int, .float] m.state.store.toList with _ | ⟨newest, _ | ⟨second, _⟩⟩
  · simp [hw]
  · simp [hw]
  · rw [losses_after, hu, Nat.zero_add]
    exact losses_append hs ..

theorem losses_strings :
    (strings env site m).losses
      = m.state.store.excess (Effect.written site.position m.state.store.toList) := by
  unfold strings Effect.written
  rcases Variable.newest 2 [.text] m.state.store.toList with _ | ⟨newest, _ | ⟨second, _⟩⟩
  · simp [failed]
  · simp [failed]
  · dsimp only
    cases TextOperation.evaluate (TextOperation.numberAt site.position) second.value.render
      newest.value.render
    case error e =>
      rw [Bounded.excess_nil]
      exact Remarks.losses_warn (by decide) _ _
    case ok t    => exact losses_append hs ..

theorem losses_readInt :
    (readInt env site m).losses
      = m.state.store.excess (Effect.enteredInt site.position m.world.console.readLine.1) := by
  unfold readInt Effect.enteredInt
  rw [losses_after, Remarks.losses_prints, Nat.zero_add]
  cases m.world.console.readLine.1
  case error e => simp [failed]
  case ok line =>
    dsimp only
    cases Decimal.int64? (Text.trim line)
    case none =>
      rw [Bounded.excess_nil]
      exact Remarks.losses_warn (by decide) _ _
    case some n => exact losses_append hs ..

theorem losses_readText :
    (readText env site m).losses
      = m.state.store.excess (Effect.enteredText site.position m.world.console.readLine.1) := by
  unfold readText Effect.enteredText
  rw [losses_after, Remarks.losses_prints, Nat.zero_add]
  cases m.world.console.readLine.1
  case error e => simp [failed]
  case ok line =>
    dsimp only
    split
    case isTrue  => exact losses_append hs ..
    case isFalse =>
      rw [Bounded.excess_nil]
      exact Remarks.losses_warn (by decide) _ _

theorem losses_dialogue :
    (dialogue env site m).losses
      = m.state.store.excess
        (Effect.dialogue env.terminal site.position m.world.console).offered := by
  unfold dialogue Effect.dialogue
  cases DialogueOperation.ofNumber? (DialogueOperation.numberAt site.position)
  case none => simp
  case some op =>
    cases op
    case readInt  => exact losses_readInt hs
    case readLine => exact losses_readText hs
    case random   => exact losses_append hs ..
    case display =>
      unfold display
      cases m.state.store.last? <;> simp [failed]
    case pause =>
      unfold pause
      cases m.world.console.readLine.1 <;> simp [failed]
    all_goals simp [clear, setColour]

omit hs in
theorem losses_report (env : Environment) (site : Site) (m : Machine) :
    (report env site m).losses = m.state.store.excess [] := by
  rw [Bounded.excess_nil]
  unfold report
  cases env.reporter
  case none => rfl
  case some reporter =>
    dsimp only
    rw [losses_after, Remarks.losses_reports, Nat.zero_add]
    cases (reporter (m.state.snapshot env.code env.settings.debug) m.world.archive).2
    case error e  => exact Remarks.losses_warn (by decide) _ _
    case ok place => rfl

end Account

namespace Engine

-- How many of the variables and frames that the handler of a digit came up with were dropped.
def Dispatch.dropped (extended : Bool) (env : Environment) (d : Dispatch) : Nat :=
  match d.outcome with
  | .called _ =>
    let e := Library.effectAt extended env d.before
    (e.offered.length - (d.after.state.store.size - d.before.state.store.size))
      + (e.pushed.length - (d.after.state.conditions.size - d.before.state.conditions.size))
  | _ => 0

def Run.dropped (extended : Bool) (env : Environment) (r : Run) : Nat :=
  (r.dispatches.map (Dispatch.dropped extended env)).sum

end Engine

namespace Library

variable {extended : Bool} {env : Environment} {h : Handler} {m : Machine} {r : Engine.Run}

theorem losses_account {site : Site} (hs : env.settings.warnOnCapacity = true)
    (ht : table extended site.digit = some h) (m : Machine) :
    let e := effect extended env.code env.terminal site m.state.store.toList m.world.console
    (account extended env site m).losses
      = m.state.store.excess e.offered + m.state.conditions.excess e.pushed := by
  -- Only a condition pushes a frame.
  have hp {a : Account} {vs : List Variable} {fs : List Frame}
      (ha : a.losses = m.state.store.excess vs) (hf : fs = []) :
      a.losses = m.state.store.excess vs + m.state.conditions.excess fs := by
    rw [ha, hf, Bounded.excess_nil, Nat.add_zero]
  obtain ⟨p, d⟩ := site
  cases binds_of_table ht
  case condition => exact Account.losses_condition hs
  case loop      => exact hp (Account.losses_loop hs) rfl
  case strings   => exact hp (Account.losses_strings hs) rfl
  case math      => exact hp (Account.losses_math hs) rfl
  case report    => exact hp (Account.losses_report ..) rfl
  case dialogue  =>
    refine hp (Account.losses_dialogue hs) ?_
    rw [effect_pushed, if_neg]
    rintro ⟨_, hd⟩
    cases hd
  all_goals exact hp (Account.losses_append hs ..) rfl

-- What is said of losses when a digit is taken.
theorem losses_transcript (hs : env.settings.warnOnCapacity = true) (m : Machine) :
    (transcript extended env m).losses
      = match (transcript extended env m).outcome with
        | .called _ =>
          m.state.store.excess (effectAt extended env m).offered
            + m.state.conditions.excess (effectAt extended env m).pushed
        | _ => 0 := by
  unfold transcript
  split
  case isTrue => rfl
  case isFalse =>
    cases Engine.closing? env m
    case some span => rfl
    case none =>
      dsimp only
      split
      case isFalse => rfl
      case isTrue =>
        cases ht : table extended (Engine.siteOf env m).digit
        case none   => rfl
        case some h =>
          have ha := losses_account hs ht (Engine.handed env m)
          rw [Engine.state_handed, Engine.console_handed] at ha
          exact ha

theorem step_losses (hs : env.settings.warnOnCapacity = true) {after : Machine}
    {outcome : Engine.Outcome} (ht : Engine.step (table extended) env m = (after, .ok outcome)) :
    (transcript extended env m).losses
      = Engine.Dispatch.dropped extended env ⟨Engine.siteOf env m, outcome, m, after⟩ := by
  have ho := (step_transcript extended env m).outcome outcome (by rw [ht])
  have hk := Engine.step_taken (table extended) env m
  rw [losses_transcript hs, ← ho, Engine.Dispatch.dropped]
  rw [ht] at hk
  cases hk
  case called hb hcl hd ht' ha hst hco =>
    have hst := handed_state ht' hst
    dsimp only
    rw [hst]
    rfl
  all_goals rfl

-- What is said of losses for the digits of a run is what they lost.
theorem losses_said (hs : env.settings.warnOnCapacity = true)
    (h : Engine.Runs (table extended) env m r) :
    (said extended env r.dispatches).losses = r.dropped extended env := by
  have hd (d) (hm : d ∈ r.dispatches) :
      (transcript extended env d.before).losses = d.dropped extended env := by
    have ⟨hsite, _, ht⟩ := h.taken_of_mem hm
    rw [step_losses hs ht, ← hsite]
  unfold Engine.Run.dropped
  generalize r.dispatches = ds at hd
  induction ds
  case nil => rfl
  case cons d ds hi =>
    rw [said_cons, Remarks.losses_append, hd d List.mem_cons_self,
      hi fun d' hm => hd d' (List.mem_cons_of_mem d hm), List.map_cons, List.sum_cons]

end Library
end Denary
