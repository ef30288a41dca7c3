import Denary.Library
import Denary.Proofs.Lookup
import Denary.Proofs.Machine

-- What the handlers of the libraries do, as far as later digits can tell. A handler prints, logs and
-- counts warnings, but nothing of this is ever read again. What is read again is gathered in an
-- `Effect`, and each handler has one that is given by the code, the terminal, the site, the entries
-- of the store and the console alone.

namespace Denary

-- Positions up to the largest one are kept as they are.
theorem wrap64_eq_self {n : Int} (h₁ : -0x8000000000000000 ≤ n) (h₂ : n < 0x8000000000000000) :
    wrap64 n = n := by
  unfold wrap64
  apply Int.bmod_eq_of_le <;> omega

@[simp]
theorem State.skip_zero (s : State) : s.skip 0 = s := by
  simp [State.skip]

theorem State.skip_eq (s : State) (n : Int) : s.skip n = { s with cursor := (s.skip n).cursor } := by
  unfold State.skip
  split <;> rfl

theorem State.skip_cursor (s : State) (n : Int) :
    (s.skip n).cursor = if 0 < n then wrap64 (s.cursor + n) else s.cursor := by
  unfold State.skip
  split <;> rfl

theorem State.skip_cursor_eq_add {s : State} {n : Nat} (h₁ : 0 ≤ s.cursor)
    (h₂ : s.cursor + n < 0x8000000000000000) : (s.skip n).cursor = s.cursor + n := by
  rw [State.skip_cursor]
  split
  case isTrue  => exact wrap64_eq_self (by omega) h₂
  case isFalse => omega

-- The fault that stopped a handler, if one did.
def fault? {α : Type} : Except Fault α → Option Fault
  | .ok _    => none
  | .error f => some f

theorem eq_error_of_fault? {α : Type} {f : Fault} {x : Except Fault α} (h : fault? x = some f) :
    x = .error f := by
  cases x <;> cases h
  rfl

theorem eq_ok_of_fault? {α : Type} {x : Except Fault α} (h : fault? x = none) :
    ∃ a, x = .ok a := by
  cases x
  case ok a    => exact ⟨a, rfl⟩
  case error f => cases h

structure Effect where
  offered : List Variable := []
  pushed  : List Frame := []
  skipped : Nat := 0
  colour  : Option Colour := none
  fault   : Option Fault := none
  console : Console

namespace Effect

def apply (e : Effect) (s : State) : State :=
  { s with
    cursor     := (s.skip e.skipped).cursor
    store      := s.store.offer e.offered
    conditions := s.conditions.offer e.pushed
    colour     := e.colour.getD s.colour }

-- An effect says nothing about the number of warnings, so the result's own number stands in.
structure Describes (e : Effect) (m : Machine) (r : Machine × Except Fault Status) : Prop where
  state   : r.1.state = { e.apply m.state with warnings := r.1.state.warnings }
  console : r.1.world.console = e.console
  fault   : fault? r.2 = e.fault

-- Effects that only differ in what they offer to the store.
structure Similar (e e' : Effect) : Prop where
  pushed  : e.pushed = e'.pushed
  skipped : e.skipped = e'.skipped
  colour  : e.colour = e'.colour
  fault   : e.fault = e'.fault
  console : e.console = e'.console

end Effect

-- The variable that the digit at a position makes on behalf of a condition or a loop, if it makes
-- one.
def Variable.nested (code : Code) (position : Int) : List Variable :=
  match (code.at? position).bind Kind.ofDigit? with
  | some kind => [created code kind position]
  | none      => []

-- The newest entries of the given kinds, newest first.
def Variable.newest (n : Int) (kinds : List Kind) (entries : List Variable) : List Variable :=
  (entries.reverse.filter fun v => kinds.contains v.kind).take n.toNat

theorem Bounded.lastOfKinds_eq_newest (store : Bounded Variable) (n : Int) (kinds : List Kind) :
    store.lastOfKinds n kinds = Variable.newest n kinds store.toList :=
  store.lastOfKinds_eq n kinds

namespace State

-- `s'` is what becomes of `s` when variables are offered to its store, up to the number of warnings.
def Offers (s s' : State) (vs : List Variable) : Prop :=
  s' = { s with store := s.store.offer vs, warnings := s'.warnings }

variable {s s₁ s₂ : State} {vs ws : List Variable}

theorem Offers.refl (s : State) : s.Offers s [] :=
  rfl

theorem Offers.trans (h₁ : s.Offers s₁ vs) (h₂ : s₁.Offers s₂ ws) : s.Offers s₂ (vs ++ ws) := by
  unfold Offers at *
  rw [h₂, h₁]
  simp only [Bounded.offer_append]

end State

namespace Machine

variable (m : Machine) (env : Environment) (site : Site) (p : Int)

theorem offers_dropped {v : Variable} (h : m.state.store.push? v = none) (site : Site) (e : Error) :
    m.state.Offers (m.dropped env site e).state [v] := by
  unfold State.Offers
  rw [Bounded.offer_eq_of_push?_none h]
  exact m.state_dropped env site e

theorem offers_append (v : Variable) : m.state.Offers (m.append env site v).1.state [v] := by
  unfold append
  cases h : m.state.store.push? v
  case some b => simp [State.Offers, Bounded.offer_eq_of_push?_some h]
  case none   => exact m.offers_dropped env h site _

@[simp]
theorem console_append (v : Variable) :
    (m.append env site v).1.world.console = m.world.console := by
  unfold append
  split <;> simp

theorem offers_createNested :
    m.state.Offers (m.createNested env p).1.state (Variable.nested env.code p) := by
  unfold createNested Variable.nested
  cases env.code.at? p
  case none => exact .refl _
  case some digit =>
    cases hk : Kind.ofDigit? digit
    case none => simpa [hk] using State.Offers.refl _
    case some kind =>
      simp only [Option.bind_some, hk, create, Kind.ofTag?_tag]
      cases h : m.state.store.push? (Variable.created env.code kind p)
      case some b => simp [State.Offers, Bounded.offer_eq_of_push?_some h]
      case none   => exact m.offers_dropped env h _ _

@[simp]
theorem console_createNested :
    (m.createNested env p).1.world.console = m.world.console := by
  unfold createNested create
  cases env.code.at? p
  case none => rfl
  case some digit =>
    cases hk : Kind.ofDigit? digit
    case none => simp [hk]
    case some kind =>
      simp only [hk, Kind.ofTag?_tag]
      cases m.state.store.push? (Variable.created env.code kind p)
      case some => rfl
      case none => simp

end Machine

theorem Machine.pushFrame_state (m : Machine) (env : Environment) (site : Site) (f : Frame) :
    (m.pushFrame env site f).state
      = { m.state with
          conditions := m.state.conditions.offer [f]
          warnings   := (m.pushFrame env site f).state.warnings } := by
  unfold pushFrame
  cases h : m.state.conditions.push? f
  case some b => simp [Bounded.offer_eq_of_push?_some h]
  case none =>
    rw [Bounded.offer_eq_of_push?_none h]
    exact m.state_dropped env site _

@[simp]
theorem Machine.console_pushFrame (m : Machine) (env : Environment) (site : Site) (f : Frame) :
    (m.pushFrame env site f).world.console = m.world.console := by
  unfold pushFrame
  split <;> simp

namespace Opcode

variable (m : Machine) (env : Environment) (p : Int)

-- What one round of a loop offers.
def loopBody (code : Code) (p : Int) : List Variable :=
  Variable.nested code (p + 1) ++ Variable.nested code (p + 2)

theorem offers_loopRounds (n : Nat) :
    m.state.Offers (loopRounds env p n m).state (List.replicate n (loopBody env.code p)).flatten := by
  induction n generalizing m
  case zero => exact .refl _
  case succ n hi =>
    have h₁ := m.offers_createNested env (p + 1)
    have h₂ := (m.createNested env (p + 1)).1.offers_createNested env (p + 2)
    have h₃ := hi (loopRound env p m)
    exact h₁.trans h₂ |>.trans h₃

theorem console_loopRounds (n : Nat) :
    (loopRounds env p n m).world.console = m.world.console := by
  induction n generalizing m
  case zero      => rfl
  case succ n hi => exact (hi _).trans (by simp [loopRound])

end Opcode
end Denary
