import Denary.Proofs.Account
import Denary.Proofs.Run

-- What no handler touches, and what a handler leaves that fails. Handlers print, read a line, draw a
-- number or warn before they find out that they cannot do what they were called for. But of the
-- state, all of this changes nothing but the number of warnings.

namespace Denary

namespace Bounded

variable {α : Type} {b b' : Bounded α}

-- A list becomes another one by new entries at its end, as far as there is room for them.
structure Grows (b b' : Bounded α) : Prop where
  entries  : b.toList <+: b'.toList
  capacity : b'.capacity = b.capacity
  room     : b'.toList.length ≤ b.capacity

theorem grows_offer (b : Bounded α) (as : List α) : b.Grows (b.offer as) where
  entries  := by
    rw [toList_offer, List.prefix_take_iff]
    exact ⟨List.prefix_append _ _, b.length_toList_le⟩
  capacity := b.capacity_offer as
  room     := b.capacity_offer as ▸ (b.offer as).length_toList_le

theorem offer_of_isFull (h : b.isFull = true) (as : List α) : b.offer as = b := by
  induction as
  case nil => rfl
  case cons a as hi =>
    have hn : b.push? a = none := push?_eq_none_iff.mpr h
    rw [offer, hn, Option.getD_none, hi]

end Bounded

-- What a handler keeps of a state. The code and the settings are given to it and never returned.
structure State.Keeps (s s' : State) : Prop where
  store      : s.store.Grows s'.store
  conditions : s.conditions.Grows s'.conditions
  loopDepth  : s'.loopDepth = s.loopDepth
  runStart   : s'.runStart = s.runStart
  executed   : s'.executed = s.executed
  binaryRuns : s'.binaryRuns = s.binaryRuns

namespace Effect

variable {e : Effect} {m : Machine} {r : Machine × Except Fault Status}

theorem Describes.keeps (h : e.Describes m r) : m.state.Keeps r.1.state := by
  rw [h.state]
  exact ⟨m.state.store.grows_offer _, m.state.conditions.grows_offer _, rfl, rfl, rfl, rfl⟩

theorem Describes.store (h : e.Describes m r) :
    r.1.state.store = m.state.store.offer e.offered := by
  rw [h.state]
  rfl

theorem Describes.cursor (h : e.Describes m r) (he : e.skipped = 0) :
    r.1.state.cursor = m.state.cursor := by
  rw [h.state]
  simp [apply, he]

theorem Describes.conditions (h : e.Describes m r) (he : e.pushed = []) :
    r.1.state.conditions = m.state.conditions := by
  rw [h.state]
  simp [apply, he]

theorem Describes.colour (h : e.Describes m r) (he : e.colour = none) :
    r.1.state.colour = m.state.colour := by
  rw [h.state]
  simp [apply, he]

-- An effect of which nothing stays in a state.
structure Void (e : Effect) (s : State) : Prop where
  offered : s.store.offer e.offered = s.store
  pushed  : e.pushed = []
  skipped : e.skipped = 0
  colour  : e.colour = none

-- Whoever fails to append a variable has found the store full.
theorem void_append {s : State} (h : (!s.store.isFull) = false) (vs : List Variable)
    (fault : Option Fault) (console : Console) :
    Void { offered := vs, fault := fault, console := console } s :=
  ⟨Bounded.offer_of_isFull (by simpa using h) vs, rfl, rfl, rfl⟩

theorem void_nil (s : State) (fault : Option Fault) (console : Console) :
    Void { fault := fault, console := console } s :=
  ⟨rfl, rfl, rfl, rfl⟩

end Effect

namespace Account

open Effect

variable {env : Environment} {site : Site} {m : Machine}

theorem void_math (h : (math env site m).completed = false) (console : Console) :
    (Effect.math env.code site.position m.state.store.toList console).Void m.state := by
  unfold Effect.math calculated
  unfold math at h
  generalize Variable.newest 2 [.int, .float] m.state.store.toList = found at h ⊢
  rcases found with _ | ⟨newest, _ | ⟨second, _⟩⟩
  · exact void_nil ..
  · exact void_nil ..
  · exact void_append h ..

theorem void_strings (h : (strings env site m).completed = false) (console : Console) :
    (Effect.strings site.position m.state.store.toList console).Void m.state := by
  unfold Effect.strings written
  unfold strings at h
  generalize Variable.newest 2 [.text] m.state.store.toList = found at h ⊢
  rcases found with _ | ⟨newest, _ | ⟨second, _⟩⟩
  · exact void_nil ..
  · exact void_nil ..
  · dsimp only at h ⊢
    cases he : TextOperation.evaluate (TextOperation.numberAt site.position) second.value.render
      newest.value.render
    case error e => exact void_nil ..
    case ok t    =>
      rw [he] at h
      exact void_append h ..

theorem void_readInt (h : (readInt env site m).completed = false) (console : Console) :
    Void { offered := enteredInt site.position m.world.console.readLine.1, console := console }
      m.state := by
  unfold enteredInt
  unfold readInt at h
  cases hl : m.world.console.readLine.1
  case error e => exact void_nil ..
  case ok line =>
    rw [hl] at h
    dsimp only at h ⊢
    cases hn : Decimal.int64? (Text.trim line)
    case none   => exact void_nil ..
    case some n =>
      rw [hn] at h
      exact void_append h ..

theorem void_readText (h : (readText env site m).completed = false) (console : Console) :
    Void { offered := enteredText site.position m.world.console.readLine.1, console := console }
      m.state := by
  unfold enteredText
  unfold readText at h
  cases hl : m.world.console.readLine.1
  case error e => exact void_nil ..
  case ok line =>
    rw [hl] at h
    dsimp only at h ⊢
    split
    case isFalse   => exact void_nil ..
    case isTrue ht =>
      rw [if_pos ht] at h
      exact void_append h ..

theorem void_dialogue (h : (dialogue env site m).completed = false) :
    (Effect.dialogue env.terminal site.position m.world.console).Void m.state := by
  unfold Effect.dialogue
  unfold dialogue at h
  cases ho : DialogueOperation.ofNumber? (DialogueOperation.numberAt site.position)
  case none => exact void_nil ..
  case some op =>
    rw [ho] at h
    cases op
    case readInt  => exact void_readInt h _
    case readLine => exact void_readText h _
    case random   => exact void_append h ..
    -- The other operations that set something always complete.
    case colour   => cases h
    all_goals exact void_nil ..

end Account

namespace Opcode

variable {env : Environment} {m : Machine} {r : Machine × Except Fault Status}
  {e : Effect} {a : Account} {v : Variable} {console : Console}

-- A variable is put behind all entries, if there is room for it, and that is all.
structure Appends (env : Environment) (v : Variable) (a : Remarks) (console : Console)
    (m : Machine) (r : Machine × Except Fault Status) : Prop where
  status   : r.2 = .ok (.done (!m.state.store.isFull))
  entries  : r.1.state.store.toList
    = m.state.store.toList ++ if m.state.store.isFull then [] else [v]
  capacity : r.1.state.store.capacity = m.state.store.capacity
  state    : r.1.state
    = { m.state with store := r.1.state.store, warnings := r.1.state.warnings }
  console  : r.1.world.console = console
  remarks  : a.Describes env m r.1

-- All that is left of an attempt is a warning.
structure Declines (env : Environment) (a : Remarks) (console : Console) (m : Machine)
    (r : Machine × Except Fault Status) : Prop where
  status  : r.2 = .ok (.done false)
  state   : r.1.state = { m.state with warnings := m.state.warnings + 1 }
  console : r.1.world.console = console
  remarks : a.Describes env m r.1

theorem status_of_describes (he : e.Describes m r) (ha : a.Describes env m r)
    (hf : e.fault = none) : r.2 = .ok (.done a.completed) := by
  have ⟨status, hs⟩ := eq_ok_of_fault? (he.fault.trans hf)
  rw [hs, ha.status status hs]

theorem appends_of_describes (he : Effect.Describes { offered := [v], console := console } m r)
    (ha : a.Describes env m r) (hc : a.completed = !m.state.store.isFull) :
    Appends env v a.toRemarks console m r := by
  refine ⟨hc ▸ status_of_describes he ha rfl, ?_, ?_, ?_, he.console, ha.remarks⟩
  all_goals rw [he.store]
  · exact Bounded.toList_offer_singleton ..
  · exact Bounded.capacity_offer ..
  · exact he.state

theorem declines_of_describes (he : Effect.Describes { console := console } m r)
    (ha : a.Describes env m r) (hc : a.completed = false) (hw : a.warned.length = 1) :
    Declines env a.toRemarks console m r := by
  refine ⟨hc ▸ status_of_describes he ha rfl, ?_, he.console, ha.remarks⟩
  rw [he.state, ha.remarks.counted, hw]
  rfl

end Opcode

-- The handlers that come with an interpreter. The one that makes arrays is in neither library.
inductive Builtin where
  | create (kind : Kind)
  | dialogue
  | math
  | strings
  | report
  | condition
  | loop
  deriving DecidableEq, Repr

namespace Builtin

def handler : Builtin → Handler
  | create kind => Opcode.create kind.tag
  | dialogue    => Opcode.dialogue
  | math        => Opcode.math
  | strings     => Opcode.strings
  | report      => Opcode.report
  | condition   => Opcode.condition
  | loop        => Opcode.loop

section

variable (env : Environment) (site : Site) (m : Machine)

def effect : Builtin → Effect
  | create kind => .create env.code kind site.position m.world.console
  | dialogue    => .dialogue env.terminal site.position m.world.console
  | math        => .math env.code site.position m.state.store.toList m.world.console
  | strings     => .strings site.position m.state.store.toList m.world.console
  | report      => { console := m.world.console }
  | condition   => .condition env.code site.position m.world.console
  | loop        => .loop env.code site.position m.world.console

def account : Builtin → Account
  | create _  => .append env site m.state.store
  | dialogue  => .dialogue env site m
  | math      => .math env site m
  | strings   => .strings env site m
  | report    => .report env site m
  | condition => .condition env site m
  | loop      => .loop env site m

variable (b : Builtin)

theorem effect_describes : (b.effect env site m).Describes m (b.handler env site m) := by
  cases b
  case create kind => exact Opcode.create_describes ..
  case dialogue    => exact Opcode.dialogue_describes ..
  case math        => exact Opcode.math_describes ..
  case strings     => exact Opcode.strings_describes ..
  case report      => exact Opcode.report_describes ..
  case condition   => exact Opcode.condition_describes ..
  case loop        => exact Opcode.loop_describes ..

theorem account_describes : (b.account env site m).Describes env m (b.handler env site m) := by
  cases b
  case create kind => exact Opcode.create_account ..
  case dialogue    => exact Opcode.dialogue_account ..
  case math        => exact Opcode.math_account ..
  case strings     => exact Opcode.strings_account ..
  case report      => exact Opcode.report_account ..
  case condition   => exact Opcode.condition_account ..
  case loop        => exact Opcode.loop_account ..

end

variable {b : Builtin} {env : Environment} {site : Site} {m : Machine}

theorem void_of_failed (h : (b.account env site m).completed = false) :
    (b.effect env site m).Void m.state := by
  cases b
  case create kind => exact Effect.void_append h ..
  case dialogue    => exact Account.void_dialogue h
  case math        => exact Account.void_math h _
  case strings     => exact Account.void_strings h _
  case report      => exact Effect.void_nil ..
  case condition   => cases h
  case loop        => cases h

theorem effect_skipped (h : b ≠ .condition ∧ b ≠ .loop) : (b.effect env site m).skipped = 0 := by
  cases b
  case condition => exact absurd rfl h.left
  case loop      => exact absurd rfl h.right
  case dialogue  =>
    unfold effect Effect.dialogue
    dsimp only
    split <;> rfl
  all_goals rfl

theorem effect_pushed (h : b ≠ .condition) : (b.effect env site m).pushed = [] := by
  cases b
  case condition => exact absurd rfl h
  case dialogue  =>
    unfold effect Effect.dialogue
    dsimp only
    split <;> rfl
  all_goals rfl

theorem effect_colour (h : b ≠ .dialogue) : (b.effect env site m).colour = none := by
  cases b
  case dialogue => exact absurd rfl h
  all_goals rfl

-- A colour is only set at a position that has a last digit to choose it by.
theorem nonneg_of_colour {p : Int}
    (h : DialogueOperation.ofNumber? (DialogueOperation.numberAt p) = some .colour) : 0 ≤ p := by
  have hn : p.tmod 10 = 6 := DialogueOperation.ofNumber?_eq_some_iff.mp h
  refine Int.not_lt.mp fun hp => ?_
  have hm : (-p).tmod 10 = -6 := by rw [Int.neg_tmod, hn]
  have hs : 0 ≤ (-p).tmod 10 := Int.tmod_nonneg 10 (by omega)
  omega

theorem effect_fault (hw : 0 ≤ env.terminal.width) : (b.effect env site m).fault = none := by
  cases b
  case dialogue =>
    unfold effect Effect.dialogue
    dsimp only
    split
    case h_5 =>
      unfold Effect.clearFault
      rw [if_neg (by omega)]
    case h_6 ho =>
      have hs := Library.code?_isSome (Library.colourAt_bounds (nonneg_of_colour ho))
      simp [Effect.colourFault, Option.isNone_eq_false_iff.mpr hs]
    all_goals rfl
  all_goals rfl

-- Every handler of a library is one of these.
theorem exists_handler_eq {extended : Bool} {d : UInt8} {h : Handler}
    (ht : Library.table extended d = some h) : ∃ b : Builtin, b.handler = h := by
  cases Library.binds_of_table ht
  case int       => exact ⟨.create .int, rfl⟩
  case text      => exact ⟨.create .text, rfl⟩
  case bool      => exact ⟨.create .bool, rfl⟩
  case float     => exact ⟨.create .float, rfl⟩
  case dialogue  => exact ⟨.dialogue, rfl⟩
  case math      => exact ⟨.math, rfl⟩
  case report    => exact ⟨.report, rfl⟩
  case loop      => exact ⟨.loop, rfl⟩
  case condition => exact ⟨.condition, rfl⟩
  case strings   => exact ⟨.strings, rfl⟩

theorem handler_status (hw : 0 ≤ env.terminal.width) :
    (b.handler env site m).2 = .ok (.done (b.account env site m).completed) :=
  Opcode.status_of_describes (b.effect_describes ..) (b.account_describes ..) (effect_fault hw)

-- What a handler keeps, and each handler of a library is one of these. Wherever it is called, it comes
-- to an end and says whether it has done what it was called for. It keeps all entries of the store and
-- all conditions and adds to them within their capacities; only conditions and loops move the cursor,
-- only conditions push a frame, and only the dialogue sets a colour. A handler that has failed leaves
-- all of this as it was, whatever it has printed, read, drawn or warned of before.
theorem handler_keeps (b : Builtin) (site : Site) (m : Machine) (hw : 0 ≤ env.terminal.width) :
    let s := m.state
    let s' := (b.handler env site m).1.state
    (∀ extended d h, Library.table extended d = some h → ∃ b' : Builtin, b'.handler = h) ∧
    ∃ ok, (b.handler env site m).2 = .ok (.done ok) ∧ s.Keeps s' ∧
      (b ≠ .condition → b ≠ .loop → s'.cursor = s.cursor) ∧
      (b ≠ .condition → s'.conditions = s.conditions) ∧
      (b ≠ .dialogue → s'.colour = s.colour) ∧
      (ok = false → s'.store = s.store ∧ s'.conditions = s.conditions ∧ s'.cursor = s.cursor ∧
        s'.colour = s.colour) := by
  intro s s'
  have hd := b.effect_describes env site m
  refine ⟨fun _ _ _ => exists_handler_eq, _, handler_status hw, hd.keeps, fun hc hl => ?_,
    fun hc => ?_, fun hd' => ?_, fun hk => ?_⟩
  · exact hd.cursor (effect_skipped ⟨hc, hl⟩)
  · exact hd.conditions (effect_pushed hc)
  · exact hd.colour (effect_colour hd')
  · have hv := void_of_failed hk
    refine ⟨?_, hd.conditions hv.pushed, hd.cursor hv.skipped, hd.colour hv.colour⟩
    exact hd.store.trans hv.offered

-- A dialogue reads a line for which the store has no room. The line is gone, and the warning counts.
theorem handler_keeps_full :
    let env := Environment.plain (Code.ofArray #[]) { warnOnCapacity := true }
    let v : Variable := ⟨ascii "v", .bool true⟩
    let s := { State.start {} with store := (Bounded.empty 1).offer [v], cursor := 11 }
    let m : Machine := ⟨s, ⟨⟨[0x61, 0x0A, 0x62, 0x0A], none, [], Colour.plain⟩, default, []⟩⟩
    let r := Opcode.dialogue env ⟨11, 0x37⟩ m
    0 ≤ env.terminal.width ∧ r.2 = .ok (.done false) ∧ r.1.world.console.input = [0x62, 0x0A] ∧
      r.1.state.warnings = 1 ∧ r.1.state.store = s.store ∧ r.1.state.cursor = 11 := by
  intro env v s m r
  have hw : 0 ≤ env.terminal.width := by decide
  have hs : r.2 = .ok (.done false) := rfl
  have ⟨_, ok, ho, _, _, _, _, hk⟩ := handler_keeps .dialogue ⟨11, 0x37⟩ m hw
  have hf : ok = false := by
    cases hs.symm.trans ho
    rfl
  have ⟨hst, _, hc, _⟩ := hk hf
  exact ⟨hw, hs, by decide, by decide, hst, hc⟩

end Builtin

end Denary
