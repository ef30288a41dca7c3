import Denary.Proofs.Loop

-- What a condition does, and when it holds. Its test is chosen by the decade of its position, so the
-- last digit of the position does not settle what it comes to.

namespace Denary

namespace Test

variable {p : Int} (h₀ : 0 ≤ p)
include h₀

theorem holdsAt_iff :
    holdsAt p = true ↔
      p / 10 % 5 = 0 ∧ p % 10 % 2 = 0 ∨ p / 10 % 5 = 1 ∧ 5 < p % 10 ∨ p / 10 % 5 = 2 ∨
      p / 10 % 5 = 3 ∧ p % 10 < 8 ∨ p / 10 % 5 = 4 ∧ 7 ≤ p % 10 := by
  have hm : p.tmod 10 = p % 10 := Int.tmod_eq_emod_of_nonneg h₀
  have hm₂ : (p % 10).tmod 2 = p % 10 % 2 := Int.tmod_eq_emod_of_nonneg (by omega)
  have hn : numberAt p = p / 10 % 5 := by
    unfold numberAt
    rw [Int.tdiv_eq_ediv_of_nonneg h₀, Int.tmod_eq_emod_of_nonneg (by omega)]
  have hk : p / 10 % 5 = 0 ∨ p / 10 % 5 = 1 ∨ p / 10 % 5 = 2 ∨ p / 10 % 5 = 3 ∨ p / 10 % 5 = 4 := by
    omega
  rw [holdsAt, hn, hm]
  rcases hk with hk | hk | hk | hk | hk
  all_goals
    rw [hk]
    simp [passesNumber, ofNumber?, passes, hm₂]

-- Where the last digit of the position is a four, three tests of five hold.
theorem holdsAt_iff_of_four (h : p % 10 = 4) :
    holdsAt p = true ↔ p / 10 % 5 = 0 ∨ p / 10 % 5 = 2 ∨ p / 10 % 5 = 3 := by
  rw [holdsAt_iff h₀]
  omega

-- Where it is a seven, all hold but one.
theorem holdsAt_eq_false_iff_of_seven (h : p % 10 = 7) : holdsAt p = false ↔ p / 10 % 5 = 0 := by
  rw [← Bool.not_eq_true, holdsAt_iff h₀]
  omega

end Test

namespace Engine

variable {t : Table} {env : Environment} {m : Machine} {r : Run}

-- No digit is taken between a digit and the place that it moves the cursor to.
theorem Forward.passes_over (hf : Forward t env m) (hr : Runs t env m r) {d d' : Dispatch}
    (hd : d ∈ r.dispatches) (hd' : d' ∈ r.dispatches) :
    d'.site.position ≤ d.site.position ∨ (advance d.after).state.cursor ≤ d'.site.position := by
  induction hr
  case finish m _ =>
    rw [finish_dispatches] at hd
    cases hd
  case crash => cases hd
  case step m after _ r hc h hr hi =>
    have hlt := hf .refl hc h
    have ha := (hf.rest hc h).ascends hr
    rcases List.mem_cons.mp hd with rfl | hd <;> rcases List.mem_cons.mp hd' with rfl | hd'
    · exact .inl (Int.le_refl _)
    · exact .inr (ha.inside d' hd').left
    · exact .inl (Int.le_of_lt (Int.lt_of_lt_of_le hlt (ha.inside d hd).left))
    · exact hi (hf.rest hc h) hd hd'

end Engine

theorem Opcode.condition_status (env : Environment) (site : Site) (m : Machine) :
    (condition env site m).2 = .ok (.done true) := by
  unfold condition
  dsimp only
  split <;> rfl

namespace Condition

-- The digit `d` is taken as a condition.
structure Exact (code : Code) (d : Engine.Dispatch) : Prop where
  outcome    : d.outcome = .called (.done true)
  conditions : d.after.state.conditions.toList = d.before.state.conditions.toList
    ++ if d.before.state.conditions.isFull then []
       else [⟨d.site.position, Test.holdsAt d.site.position⟩]
  store      : d.after.state.store = d.before.state.store.offer
    (if Test.holdsAt d.site.position then Variable.nested code (d.site.position + 1) else [])
  cursor     : (Engine.advance d.after).state.cursor
    = d.site.position + if Test.holdsAt d.site.position then 1 else 2

end Condition

namespace Library

variable {env : Environment} {m : Machine} {r : Engine.Run}

-- A five is always taken as a condition: it closes no run of binary digits.
theorem step_condition {after : Machine} {outcome : Engine.Outcome}
    (hc : m.state.cursor < env.code.size) (h₅ : (Engine.siteOf env m).digit = 0x35)
    (h : Engine.step (table true) env m = (after, .ok outcome)) :
    outcome = .called (.done true) ∧
      after.state
        = { (Effect.condition env.code m.state.cursor m.world.console).apply m.state with
            executed := m.state.executed + 1
            warnings := after.state.warnings } := by
  have hn : Engine.closing? env m = none := by
    rw [Engine.closing?, if_pos hc, if_neg (by rw [h₅]; decide)]
  have htb : table true (Engine.siteOf env m).digit = some Opcode.condition :=
    h₅ ▸ table_of_binds .condition
  have he : effectAt true env m = Effect.condition env.code m.state.cursor m.world.console := by
    rw [effectAt, effect, h₅]
    rfl
  cases Engine.step_ok_taken _ _ _ h
  case bit hb _ _ => simp [h₅] at hb
  case close hcl _ _ _ => cases hn.symm.trans hcl
  case unknown hd _ _ => simp [h₅, Text.isDigit] at hd
  case unbound ht _ _ => cases htb.symm.trans ht
  case called ht ha hst _ =>
    cases htb.symm.trans ht
    have hs := handed_state htb hst
    rw [he] at hs
    rw [Opcode.condition_status] at ha
    cases ha
    exact ⟨rfl, hs⟩

theorem condition_dispatch (h : Engine.Runs (table true) env m r) (hm : Engine.Sound env m.state)
    {d : Engine.Dispatch} (hd : d ∈ r.dispatches) (h₅ : d.site.digit = 0x35) :
    Condition.Exact env.code d := by
  have ⟨hs, hc, ht⟩ := h.taken_of_mem hd
  have hp : d.site.position = d.before.state.cursor := by rw [hs]; rfl
  have h₀ : 0 ≤ d.before.state.cursor := by
    rw [← hp]
    exact Int.le_trans hm.cursor (((forward hm).ascends h).inside d hd).left
  have hz : env.code.size ≤ 0x4000000000000000 := env.code.size_le
  rw [hs] at h₅
  have ⟨ho, hst⟩ := step_condition hc h₅ ht
  rw [← hp] at hst
  refine ⟨ho, ?_, ?_, ?_⟩
  · rw [hst]
    exact Bounded.toList_offer_singleton ..
  · rw [hst]
    rfl
  · have hl : d.before.state.cursor + (if Test.holdsAt d.site.position then 0 else 1 : Nat)
        < 0x8000000000000000 := by
      split <;> omega
    have hk : d.after.state.cursor
        = d.before.state.cursor + (if Test.holdsAt d.site.position then 0 else 1 : Nat) := by
      rw [hst]
      exact State.skip_cursor_eq_add h₀ hl
    change wrap64 (d.after.state.cursor + 1) = _
    rw [hk, hp]
    split <;> rw [wrap64_eq_self] <;> omega

end Library

namespace Control

variable {extended : Bool} {env : Environment} {c : Control} {m : Machine} {r : Engine.Run}

theorem Completes.sites_eq (h : Completes extended env c m r) :
    r.dispatches.map (·.site)
      = (c.path extended env.code).map fun c => ⟨c.cursor, c.digit env.code⟩ := by
  have hs := h.shows
  generalize c.path extended env.code = cs at hs ⊢
  generalize r.dispatches = ds at hs ⊢
  induction hs
  case nil          => rfl
  case cons hs _ hi => rw [List.map_cons, List.map_cons, hs.site, hi]

end Control

namespace Interpreter

variable {i : Interpreter}

theorem execute_completes {extended : Bool} (hi : i.table = Library.table extended) (code : Code)
    (hw : 0 ≤ i.terminal.width ∨ 0x37 ∉ code.toList) :
    Control.Completes extended (i.environment code) .start (i.machine code) (i.execute code).run :=
  Control.completes_of_finished (execute_runs code hi) (execute_ending hi hw)
    (Control.valid_start (i.environment code).code) ⟨rfl, rfl⟩

-- Conditions are exact. Each five that is taken leaves what `Condition.Exact` says, and a digit that it
-- skips is not taken at all. What a condition comes to is said by the decade of its position and the
-- last digit together: at a four it holds in three decades of five, and at a seven in all but one.
theorem conditions_exact (hi : i.table = Library.table true) (code : Code) :
    ∀ d ∈ (i.execute code).run.dispatches, d.site.digit = 0x35 →
      let p := d.site.position
      0 ≤ p ∧ Condition.Exact code d ∧
      ((∃ kind : Kind, code.at? (p + 1) = some kind.digit ∧
          Variable.nested code (p + 1) = [Variable.created code kind (p + 1)]) ∨
        (∀ kind : Kind, code.at? (p + 1) ≠ some kind.digit) ∧ Variable.nested code (p + 1) = []) ∧
      (Test.holdsAt p = false →
        ∀ d' ∈ (i.execute code).run.dispatches, d'.site.position ≠ p + 1) ∧
      (p % 10 = 4 → (Test.holdsAt p = true ↔ p / 10 % 5 = 0 ∨ p / 10 % 5 = 2 ∨ p / 10 % 5 = 3)) ∧
      (p % 10 = 7 → (Test.holdsAt p = false ↔ p / 10 % 5 = 0)) := by
  intro d hd h₅ p
  have h := execute_runs code hi
  have hm : Engine.Sound (i.environment code) (i.machine code).state := Engine.sound_start _
  have hf : Engine.Forward (Library.table true) (i.environment code) (i.machine code) :=
    Library.forward hm
  have h₀ : 0 ≤ p := Int.le_trans hm.cursor ((hf.ascends h).inside d hd).left
  have hx : Condition.Exact code d := Library.condition_dispatch h hm hd h₅
  refine ⟨h₀, hx, Variable.nested_cases code (p + 1), fun hp d' hd' => ?_,
    Test.holdsAt_iff_of_four h₀, Test.holdsAt_eq_false_iff_of_seven h₀⟩
  have hc := hx.cursor
  rw [hp] at hc
  have := hf.passes_over h hd hd'
  simp only [Bool.false_eq_true, ↓reduceIte] at hc
  omega

-- In `44445344453`, the condition at position four holds. The three behind it makes a variable twice,
-- and the next condition, at position nine, skips the last digit.
theorem conditions_exact_first_decade :
    let i    := Interpreter.start { extended := true } {} 0 default
    let code := Code.ofArray #[0x34, 0x34, 0x34, 0x34, 0x35, 0x33, 0x34, 0x34, 0x34, 0x35, 0x33]
    i.table = Library.table true ∧
    (∃ d ∈ (i.execute code).run.dispatches, d.site = ⟨4, 0x35⟩ ∧
      d.after.state.store = d.before.state.store.offer [Variable.created code .int 5] ∧
      (Engine.advance d.after).state.cursor = 5) ∧
    ∀ d ∈ (i.execute code).run.dispatches, d.site.position ≠ 10 := by
  intro i code
  have hi : i.table = Library.table true := start_table ..
  have hs := (execute_completes hi code (.inl (by decide))).sites_eq
  have find (site : Site) (h : site ∈ (Control.start.path true code).map
      fun c => (⟨c.cursor, c.digit code⟩ : Site)) :
      ∃ d ∈ (i.execute code).run.dispatches, d.site = site :=
    List.mem_map.mp (hs ▸ h)
  obtain ⟨d, hd, hp⟩ := find ⟨4, 0x35⟩ (by decide +kernel)
  obtain ⟨d', hd', hp'⟩ := find ⟨9, 0x35⟩ (by decide +kernel)
  have ⟨_, hx, _, _, _, _⟩ := conditions_exact hi code d hd (by rw [hp])
  have ⟨_, _, _, hn, _, _⟩ := conditions_exact hi code d' hd' (by rw [hp'])
  have hst := hx.store
  have hc := hx.cursor
  rw [hp] at hst hc
  rw [hp'] at hn
  exact ⟨hi, ⟨d, hd, hp, hst, hc⟩, hn rfl⟩

-- The condition at position 14 does not hold, and skips the four behind it. The one at position 17
-- holds, and the three behind it is taken.
theorem conditions_by_decade :
    let i    := Interpreter.start { extended := true } {} 0 default
    let code := Code.ofArray (Array.replicate 14 0x34 ++ #[0x35, 0x34, 0x34, 0x35, 0x33])
    let e    := i.execute code
    i.table = Library.table true ∧
    e.run.dispatches.map (·.site)
      = (List.range 14).map (⟨·, 0x34⟩) ++ [⟨14, 0x35⟩, ⟨16, 0x34⟩, ⟨17, 0x35⟩, ⟨18, 0x33⟩] ∧
    e.state.conditions.toList = [⟨14, false⟩, ⟨17, true⟩] := by
  intro i code e
  have hi : i.table = Library.table true := start_table ..
  have hc := execute_completes hi code (.inl (by decide))
  have ⟨hs, _, _⟩ := execute_finished hc.ending
  refine ⟨hi, hc.sites_eq.trans (by decide +kernel), ?_⟩
  rw [hs, hc.leaves.conditions, Bounded.toList_offer]
  decide +kernel

end Interpreter
end Denary
