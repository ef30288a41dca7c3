import Denary.Proofs.Engine
import Denary.Proofs.Handler

namespace Denary.Library

-- Which handler a library binds to which digit. The extended library rebinds five and six.
inductive Binds : Bool → UInt8 → Handler → Prop
  | int {extended}      : Binds extended 0x33 (Opcode.create Kind.int.tag)
  | text {extended}     : Binds extended 0x34 (Opcode.create Kind.text.tag)
  | bool                : Binds false 0x35 (Opcode.create Kind.bool.tag)
  | float               : Binds false 0x36 (Opcode.create Kind.float.tag)
  | dialogue {extended} : Binds extended 0x37 Opcode.dialogue
  | math {extended}     : Binds extended 0x38 Opcode.math
  | report {extended}   : Binds extended 0x39 Opcode.report
  | loop                : Binds true 0x32 Opcode.loop
  | condition           : Binds true 0x35 Opcode.condition
  | strings             : Binds true 0x36 Opcode.strings

variable {extended : Bool} {d : UInt8} {h : Handler}

theorem binds_of_table (ht : table extended d = some h) : Binds extended d h := by
  cases extended
  case false =>
    simp only [table, bindings, core, Table.set, Table.empty, List.foldl, Bool.false_eq_true,
      ↓reduceIte] at ht
    repeat' split at ht
    all_goals cases ht
    all_goals subst_vars
    all_goals constructor
  case true =>
    simp only [table, bindings, core, extension, Table.set, Table.empty, List.foldl, List.cons_append,
      List.nil_append, ↓reduceIte] at ht
    repeat' split at ht
    all_goals cases ht
    all_goals subst_vars
    all_goals constructor

theorem table_of_binds (hb : Binds extended d h) : table extended d = some h := by
  cases hb
  case int      => cases extended <;> rfl
  case text     => cases extended <;> rfl
  case dialogue => cases extended <;> rfl
  case math     => cases extended <;> rfl
  case report   => cases extended <;> rfl
  all_goals rfl

theorem two_of_binds (hb : Binds extended d h) (hd : d = 0x32) : extended = true := by
  cases hb <;> simp_all

theorem digit_cases (hd : Text.isDigit d = true) :
    d = 0x30 ∨ d = 0x31 ∨ d = 0x32 ∨ d = 0x33 ∨ d = 0x34 ∨
      d = 0x35 ∨ d = 0x36 ∨ d = 0x37 ∨ d = 0x38 ∨ d = 0x39 := by
  simp only [Text.isDigit, Bool.and_eq_true, decide_eq_true_eq, UInt8.le_iff_toNat_le] at hd
  simp only [← UInt8.toNat_inj, UInt8.reduceToNat] at hd ⊢
  omega

-- A digit that joins no run of binary digits and that nothing is bound to is a two, and the library
-- is the core one.
theorem two_of_table_eq_none (hd : Text.isDigit d = true) (hb : d ≠ 0x30 ∧ d ≠ 0x31)
    (ht : table extended d = none) : d = 0x32 ∧ extended = false := by
  rcases digit_cases hd with rfl | rfl | rfl | rfl | rfl | rfl | rfl | rfl | rfl | rfl
  case inl     => exact absurd rfl hb.left
  case inr.inl => exact absurd rfl hb.right
  all_goals cases extended <;> simp_all [table, bindings, core, extension, Table.set]

-- The effect of the handler that a library binds to the digit of a site.
def effect (extended : Bool) (code : Code) (t : Terminal) (site : Site) (entries : List Variable)
    (console : Console) : Effect :=
  match site.digit with
  | 0x32 => .loop code site.position console
  | 0x33 => .create code .int site.position console
  | 0x34 => .create code .text site.position console
  | 0x35 =>
    if extended then .condition code site.position console
    else .create code .bool site.position console
  | 0x36 =>
    if extended then .strings site.position entries console
    else .create code .float site.position console
  | 0x37 => .dialogue t site.position console
  | 0x38 => .math code site.position entries console
  | _    => { console := console }

theorem effect_describes {site : Site} (ht : table extended site.digit = some h) (m : Machine)
    (env : Environment) :
    (effect extended env.code env.terminal site m.state.store.toList m.world.console).Describes m
      (h env site m) := by
  obtain ⟨p, d⟩ := site
  cases binds_of_table ht
  case int       => exact Opcode.create_describes m env _ .int
  case text      => exact Opcode.create_describes m env _ .text
  case bool      => exact Opcode.create_describes m env _ .bool
  case float     => exact Opcode.create_describes m env _ .float
  case dialogue  => exact Opcode.dialogue_describes ..
  case math      => exact Opcode.math_describes ..
  case report    => exact Opcode.report_describes ..
  case loop      => exact Opcode.loop_describes ..
  case condition => exact Opcode.condition_describes ..
  case strings   => exact Opcode.strings_describes ..

section

variable (extended : Bool) (code : Code) (t : Terminal) (site : Site) (entries : List Variable)
  (console : Console)

-- Where the cursor goes, what becomes of conditions and which colour is set are decided by the site
-- alone: neither the entries of the store nor the console have a say in it.

theorem effect_skipped :
    (effect extended code t site entries console).skipped
      = if site.digit = 0x32 then 2
        else if extended ∧ site.digit = 0x35 ∧ ¬ Test.holdsAt site.position then 1
        else 0 := by
  unfold effect
  split <;> rename_i hd
  case h_4 =>
    cases extended
    case false => simp [hd, Effect.create]
    case true  => cases hh : Test.holdsAt site.position <;> simp [hd, hh, Effect.condition]
  case h_5 => cases extended <;> simp [hd, Effect.create, Effect.strings]
  case h_6 =>
    simp only [hd]
    unfold Effect.dialogue
    split <;> simp
  all_goals simp_all [Effect.create, Effect.loop, Effect.math, Loop.bodyLength]

theorem effect_pushed :
    (effect extended code t site entries console).pushed
      = if extended ∧ site.digit = 0x35 then [⟨site.position, Test.holdsAt site.position⟩] else [] := by
  unfold effect
  split <;> rename_i hd
  case h_4 => cases extended <;> simp [hd, Effect.create, Effect.condition]
  case h_5 => cases extended <;> simp [hd, Effect.create, Effect.strings]
  case h_6 =>
    simp only [hd]
    unfold Effect.dialogue
    split <;> simp
  all_goals simp_all [Effect.create, Effect.loop, Effect.math]

theorem dialogue_colour (p : Int) :
    (Effect.dialogue t p console).colour
      = if p.tmod 10 = 6 then some (Opcode.colourAt p) else none := by
  unfold Effect.dialogue
  split <;> rename_i ho
  case h_7 =>
    exact (if_neg fun hn => ho <| DialogueOperation.ofNumber?_eq_some_iff.mpr hn).symm
  all_goals
    have hn := DialogueOperation.ofNumber?_eq_some_iff.mp ho
    rw [DialogueOperation.numberAt] at hn
    simp [hn, DialogueOperation.number]

theorem effect_colour :
    (effect extended code t site entries console).colour
      = if site.digit = 0x37 ∧ site.position.tmod 10 = 6 then some (Opcode.colourAt site.position)
        else none := by
  unfold effect
  split <;> rename_i hd
  case h_4 => cases extended <;> simp [hd, Effect.create, Effect.condition]
  case h_5 => cases extended <;> simp [hd, Effect.create, Effect.strings]
  case h_6 => simp [hd, dialogue_colour]
  all_goals simp_all [Effect.create, Effect.loop, Effect.math]

-- The entries of the store decide on nothing but what is offered to it.
theorem effect_entries (entries' : List Variable) :
    (effect extended code t site entries console).Similar
      (effect extended code t site entries' console) := by
  unfold effect
  split
  case h_5 => cases extended <;> exact ⟨rfl, rfl, rfl, rfl, rfl⟩
  all_goals exact ⟨rfl, rfl, rfl, rfl, rfl⟩

theorem random_fault : fault? (console.random Opcode.randomLimit).1 = none :=
  rfl

theorem colourAt_bounds {p : Int} (hp : 0 ≤ p) :
    0 ≤ Opcode.colourAt p ∧ Opcode.colourAt p < Colour.count := by
  unfold Opcode.colourAt Colour.count
  have hq : 0 ≤ p.tdiv 10 := Int.tdiv_nonneg hp (by decide)
  exact ⟨Int.tmod_nonneg _ hq, Int.tmod_lt_of_pos _ (by decide)⟩

theorem code?_isSome {c : Colour} (hc : 0 ≤ c ∧ c < Colour.count) : (Colour.code? c).isSome := by
  have hl : Colour.table.length = Colour.count := rfl
  have hi : c.toNat < Colour.table.length := hl ▸ (Int.toNat_lt hc.left).mpr hc.right
  rw [Colour.code?, Colour.row?, if_neg (Int.not_lt.mpr hc.left), List.getElem?_eq_getElem hi]
  rfl

theorem dialogue_fault {p : Int} (hp : 0 ≤ p) (hw : 0 ≤ t.width) :
    (Effect.dialogue t p console).fault = none := by
  unfold Effect.dialogue
  split
  case h_4 => exact random_fault console
  case h_5 =>
    unfold Effect.clearFault
    rw [if_neg (by omega)]
  case h_6 =>
    have hs := code?_isSome (colourAt_bounds hp)
    simp [Effect.colourFault, Option.isNone_eq_false_iff.mpr hs]
  all_goals rfl

-- The only faults are those of the dialogue, and they need a place that no run gets to, or a
-- terminal of negative width.
theorem effect_fault (hp : 0 ≤ site.position) (hw : 0 ≤ t.width ∨ site.digit ≠ 0x37) :
    (effect extended code t site entries console).fault = none := by
  unfold effect
  split
  case h_6 hd => exact dialogue_fault t console hp (hw.resolve_right (absurd hd))
  all_goals try split
  all_goals rfl

theorem effect_console (hd : site.digit ≠ 0x37) :
    (effect extended code t site entries console).console = console := by
  unfold effect
  split
  case h_6 h => exact absurd h hd
  all_goals try split
  all_goals rfl

end

-- The effect of the handler that is bound to the digit under the cursor.
def effectAt (extended : Bool) (env : Environment) (m : Machine) : Effect :=
  effect extended env.code env.terminal (Engine.siteOf env m) m.state.store.toList m.world.console

theorem handed_describes {env : Environment} {m : Machine}
    (ht : table extended (Engine.siteOf env m).digit = some h) :
    (effectAt extended env m).Describes (Engine.handed env m)
      (h env (Engine.siteOf env m) (Engine.handed env m)) := by
  have hd := effect_describes ht (Engine.handed env m) env
  rwa [Engine.state_handed, Engine.console_handed] at hd

theorem handed_state {env : Environment} {m after : Machine}
    (ht : table extended (Engine.siteOf env m).digit = some h)
    (hs : after.state = (h env (Engine.siteOf env m) (Engine.handed env m)).1.state) :
    after.state
      = { (effectAt extended env m).apply m.state with
          executed := m.state.executed + 1
          warnings := after.state.warnings } := by
  have hd := (handed_describes ht).state
  rw [← hs, Engine.state_handed] at hd
  rw [hd]
  simp only [Effect.apply, State.skip_cursor]

theorem isDigit_of_binds (hb : Binds extended d h) : Text.isDigit d = true := by
  cases hb <;> rfl

-- All that later digits can tell of a step: the state, up to the number of warnings, the console and
-- the fault that stops the program.
structure Outline where
  state   : State
  console : Console
  fault   : Option Fault := none

def outline (extended : Bool) (env : Environment) (m : Machine) : Outline :=
  if (Engine.siteOf env m).digit = 0x30 ∨ (Engine.siteOf env m).digit = 0x31 then
    { state   := { m.state with runStart := m.state.runStart.or (some m.state.cursor.toNat) }
      console := m.world.console }
  else match Engine.closing? env m with
    | some span =>
      { state   := { m.state with runStart := none, binaryRuns := m.state.binaryRuns + 1 }
        console := m.world.console
        fault   := if Engine.Whole env span then none else some .brokenSpan }
    | none =>
      if (table extended (Engine.siteOf env m).digit).isSome then
        { state   :=
            { (effectAt extended env m).apply m.state with executed := m.state.executed + 1 }
          console := (effectAt extended env m).console
          fault   := (effectAt extended env m).fault }
      else { state := m.state, console := m.world.console }

structure Outline.Describes (o : Outline) (r : Machine × Except Fault Engine.Outcome) : Prop where
  state   : r.1.state = { o.state with warnings := r.1.state.warnings }
  console : r.1.world.console = o.console
  fault   : fault? r.2 = o.fault

theorem step_outline (extended : Bool) (env : Environment) (m : Machine) :
    (outline extended env m).Describes (Engine.step (table extended) env m) := by
  have hk := Engine.step_taken (table extended) env m
  generalize Engine.step (table extended) env m = r at hk ⊢
  unfold outline
  cases hk
  case bit hd hst hco =>
    rw [if_pos hd]
    exact ⟨by simp [hst], hco, rfl⟩
  case close hb hcl hwh hst hco =>
    rw [if_neg (not_or.mpr hb), hcl]
    exact ⟨by simp [hst], hco, by simp [hwh, fault?]⟩
  case broken hb hcl hwh hst hco =>
    rw [if_neg (not_or.mpr hb), hcl]
    exact ⟨by simp [hst], hco, by simp [hwh, fault?]⟩
  case unknown hb hcl hd hst hco =>
    have ht : table extended (Engine.siteOf env m).digit = none := by
      cases ht : table extended (Engine.siteOf env m).digit
      case none   => rfl
      case some h => cases hd.symm.trans <| isDigit_of_binds (binds_of_table ht)
    rw [if_neg (not_or.mpr hb), hcl, ht]
    exact ⟨by simp [hst], hco, rfl⟩
  case unbound hb hcl hd ht hst hco =>
    rw [if_neg (not_or.mpr hb), hcl, ht]
    exact ⟨by simp [hst], hco, rfl⟩
  case called hb hcl hd ht ha hst hco =>
    have hh := handed_describes ht
    rw [if_neg (not_or.mpr hb), hcl, ht]
    exact ⟨handed_state ht hst, hco.trans hh.console, hh.fault ▸ ha ▸ rfl⟩
  case stopped hb hcl hd ht ha hst hco =>
    have hh := handed_describes ht
    rw [if_neg (not_or.mpr hb), hcl, ht]
    exact ⟨handed_state ht hst, hco.trans hh.console, hh.fault ▸ ha ▸ rfl⟩

theorem at?_of_table {env : Environment} {m : Machine}
    (ht : table extended (Engine.siteOf env m).digit = some h) :
    env.code.at? (Engine.siteOf env m).position = some (Engine.siteOf env m).digit := by
  have hd := isDigit_of_binds (binds_of_table ht)
  cases ha : env.code.at? m.state.cursor
  case none   => simp [Engine.siteOf, ha, Text.isDigit] at hd
  case some d => simp [Engine.siteOf, ha]

-- A step leaves the store alone, or a handler offers something to it.
theorem step_store (extended : Bool) (env : Environment) (m : Machine) :
    (Engine.step (table extended) env m).1.state.store = m.state.store ∨
      (∃ h, table extended (Engine.siteOf env m).digit = some h) ∧
      (Engine.step (table extended) env m).1.state.store
        = m.state.store.offer (effectAt extended env m).offered := by
  rw [(step_outline extended env m).state]
  unfold outline
  repeat' split
  case h_2.isTrue ht => exact .inr ⟨Option.isSome_iff_exists.mp ht, rfl⟩
  all_goals exact .inl rfl

-- Only the dialogue has to do with the console.
theorem step_console {env : Environment} {m : Machine} (hd : (Engine.siteOf env m).digit ≠ 0x37)
    (extended : Bool) :
    (Engine.step (table extended) env m).1.world.console = m.world.console := by
  rw [(step_outline extended env m).console]
  unfold outline
  repeat' split
  case h_2.isTrue => exact effect_console _ _ _ _ _ _ hd
  all_goals rfl

-- No handler of the core library skips anything.
theorem step_cursor_core (env : Environment) (m : Machine) :
    (Engine.step (table false) env m).1.state.cursor = m.state.cursor := by
  rw [(step_outline false env m).state]
  unfold outline
  repeat' split
  case h_2.isTrue ht =>
    have ⟨h, ht⟩ := Option.isSome_iff_exists.mp ht
    have hd : (Engine.siteOf env m).digit ≠ 0x32 := by
      intro hd
      cases two_of_binds (binds_of_table ht) hd
    have hs : (effectAt false env m).skipped = 0 := by
      rw [effectAt, effect_skipped]
      simp [hd]
    simp [Effect.apply, hs]
  all_goals rfl

end Denary.Library
