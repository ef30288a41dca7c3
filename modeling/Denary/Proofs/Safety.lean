import Denary.Proofs.Segments

-- Some operations are only defined for arguments in a certain range: reading a stretch of the code,
-- looking into a table, drawing a line, drawing a number. A digit comes to some of them, and each of
-- them demands something. A digit is stopped by a fault exactly when one of its demands is not met,
-- and no digit of a program ever is.

namespace Denary

-- Handlers are kept in a table of ten slots, one for each decimal digit.
def Table.slots : Nat := 10

inductive Demand where
  | slice (span : Span)
  -- the handler in one of the slots
  | slot (index : Nat)
  -- the text that sets a colour
  | colour (c : Colour)
  -- one of the operands that were found in the store
  | operand (index found : Nat)
  -- a line of that many characters
  | ruler (width : Int)
  -- a random number below a limit
  | draw (limit : Int)
  deriving DecidableEq, Repr

def Demand.Met (code : Code) : Demand → Prop
  | slice span          => span.start ≤ span.stop ∧ span.stop ≤ code.size
  | slot index          => index < Table.slots
  | colour c            => 0 ≤ c ∧ c < Colour.count
  | operand index found => index < found
  | ruler width         => 0 ≤ width
  | draw limit          => 0 < limit

namespace Demand

-- Two operands are taken, where as many were found.
def operands (kinds : List Kind) (entries : List Variable) : List Demand :=
  let found := (Variable.newest 2 kinds entries).length
  if found < 2 then [] else [.operand 0 found, .operand 1 found]

def dialogue (t : Terminal) (p : Int) : List Demand :=
  match DialogueOperation.ofNumber? (DialogueOperation.numberAt p) with
  | some .clear  => if t.ansi then [] else [.ruler t.width]
  | some .random => [.draw Opcode.randomLimit]
  | some .colour => if t.ansi then [.colour (Opcode.colourAt p)] else []
  | some .status => [.ruler (min (max t.width 24) 60)]
  | _            => []

variable {code : Code}

theorem met_operands {kinds : List Kind} {entries : List Variable} :
    ∀ q ∈ operands kinds entries, q.Met code := by
  unfold operands
  intro q hq
  dsimp only at hq
  split at hq
  case isTrue => cases hq
  case isFalse hf =>
    rcases List.mem_pair.mp hq with rfl | rfl
    · exact Nat.lt_of_lt_of_le Nat.zero_lt_two (Nat.le_of_not_lt hf)
    · exact Nat.lt_of_lt_of_le Nat.one_lt_two (Nat.le_of_not_lt hf)

end Demand

namespace Library

theorem code?_eq_none {c : Int} (hc : ¬ (0 ≤ c ∧ c < Colour.count)) : Colour.code? c = none := by
  unfold Colour.code? Colour.row?
  split
  case isTrue => rfl
  case isFalse h₀ =>
    have hn : (Colour.count : Int) ≤ c := by
      by_contra hn
      exact hc ⟨Int.not_lt.mp h₀, Int.not_le.mp hn⟩
    have hl : Colour.table.length ≤ c.toNat := Int.le_toNat (Int.not_lt.mp h₀) |>.mpr hn
    rw [List.getElem?_eq_none hl]
    rfl

theorem clearFault_eq_none_iff {t : Terminal} {code : Code} :
    Effect.clearFault t = none
      ↔ ∀ q ∈ (if t.ansi then [] else [Demand.ruler t.width]), q.Met code := by
  unfold Effect.clearFault
  cases t.ansi <;> simp [Demand.Met]

theorem colourFault_eq_none_iff {t : Terminal} {c : Colour} {code : Code} :
    Effect.colourFault t c = none
      ↔ ∀ q ∈ (if t.ansi then [Demand.colour c] else []), q.Met code := by
  unfold Effect.colourFault
  cases t.ansi
  case false => simp
  case true =>
    by_cases hc : 0 ≤ c ∧ c < Colour.count
    case pos =>
      have hs := code?_isSome hc
      simp [Demand.Met, hc, Option.isNone_eq_false_iff.mpr hs]
    case neg => simpa [Demand.Met, code?_eq_none hc] using hc

theorem dialogue_fault_iff {t : Terminal} {p : Int} {console : Console} {code : Code} :
    (Effect.dialogue t p console).fault = none ↔ ∀ q ∈ Demand.dialogue t p, q.Met code := by
  unfold Effect.dialogue Demand.dialogue
  cases DialogueOperation.ofNumber? (DialogueOperation.numberAt p)
  case none => simp
  case some op =>
    cases op
    case clear  => exact clearFault_eq_none_iff
    case colour => exact colourFault_eq_none_iff
    case random =>
      have hl : (Demand.draw Opcode.randomLimit).Met code := Int.natCast_pos.mpr (by decide)
      simp only [random_fault, List.mem_singleton, forall_eq, hl]
    case status =>
      have hw : 0 ≤ min (max t.width 24) 60 := by omega
      simp [Demand.Met, hw]
    all_goals simp

-- What the handler that a library binds to the digit of a site demands.
def demands (extended : Bool) (t : Terminal) (site : Site) (entries : List Variable) : List Demand :=
  match site.digit with
  | 0x36 => if extended then Demand.operands [.text] entries else []
  | 0x37 => Demand.dialogue t site.position
  | 0x38 => Demand.operands [.int, .float] entries
  | _    => []

theorem effect_fault_iff {extended : Bool} {h : Handler} {code : Code} {t : Terminal} {site : Site}
    {entries : List Variable} {console : Console} (ht : table extended site.digit = some h) :
    (effect extended code t site entries console).fault = none
      ↔ ∀ q ∈ demands extended t site entries, q.Met code := by
  obtain ⟨p, d⟩ := site
  cases binds_of_table ht
  case dialogue => exact dialogue_fault_iff
  case math     => exact iff_of_true rfl Demand.met_operands
  case strings  => exact iff_of_true rfl Demand.met_operands
  all_goals exact iff_of_true rfl (List.forall_mem_nil _)

-- What taking the digit under the cursor demands: a stretch of the code where a run of binary digits
-- comes to its end, and a handler for any other digit that does not join one.
def demandsAt (extended : Bool) (env : Environment) (m : Machine) : List Demand :=
  let site := Engine.siteOf env m
  if site.digit = 0x30 ∨ site.digit = 0x31 then []
  else match Engine.closing? env m with
    | some span => [.slice span]
    | none =>
      if Text.isDigit site.digit then
        .slot (site.digit - 0x30).toNat ::
          if (table extended site.digit).isSome then
            demands extended env.terminal site m.state.store.toList
          else []
      else []

theorem met_slot {code : Code} {d : UInt8} (hd : Text.isDigit d = true) :
    (Demand.slot (d - 0x30).toNat).Met code := by
  change (d - 0x30).toNat < Table.slots
  rcases digit_cases hd with rfl | rfl | rfl | rfl | rfl | rfl | rfl | rfl | rfl | rfl
  all_goals decide

-- A digit is stopped by a fault exactly when one of its demands is not met.
theorem step_fault_iff (extended : Bool) (env : Environment) (m : Machine) :
    fault? (Engine.step (table extended) env m).2 = none
      ↔ ∀ q ∈ demandsAt extended env m, q.Met env.code := by
  rw [(step_outline extended env m).fault]
  unfold outline demandsAt
  dsimp only
  split
  case isTrue => exact iff_of_true rfl (List.forall_mem_nil _)
  case isFalse =>
    cases Engine.closing? env m
    case some span =>
      have hw : Engine.Whole env span ↔ (Demand.slice span).Met env.code := .rfl
      simp [hw]
    case none =>
      dsimp only
      cases hd : Text.isDigit (Engine.siteOf env m).digit
      case false =>
        have ht : table extended (Engine.siteOf env m).digit = none := by
          cases ht : table extended (Engine.siteOf env m).digit
          case none   => rfl
          case some h => cases hd.symm.trans <| isDigit_of_binds (binds_of_table ht)
        rw [ht]
        exact iff_of_true rfl (List.forall_mem_nil _)
      case true =>
        rw [if_pos rfl, List.forall_mem_cons, and_iff_right (met_slot hd)]
        cases ht : table extended (Engine.siteOf env m).digit
        case none   => exact iff_of_true rfl (List.forall_mem_nil _)
        case some h => exact effect_fault_iff ht

section

variable {extended : Bool} {env : Environment} {m : Machine} {r : Engine.Run}

-- All that the digits of a run demanded was in range, as each of them was taken.
theorem met_demands (h : Engine.Runs (table extended) env m r) :
    ∀ d ∈ r.dispatches, ∀ q ∈ demandsAt extended env d.before, q.Met env.code := by
  intro d hd
  have ⟨_, _, ht⟩ := h.taken_of_mem hd
  exact step_fault_iff extended env d.before |>.mp (by rw [ht]; rfl)

theorem step_loopDepth (extended : Bool) (env : Environment) (m : Machine) :
    (Engine.step (table extended) env m).1.state.loopDepth = m.state.loopDepth := by
  rw [(step_outline extended env m).state]
  unfold outline
  repeat' split
  all_goals rfl

-- A loop that was entered is left again before the next digit is taken.
theorem runs_loopDepth (h : Engine.Runs (table extended) env m r) :
    r.machine.state.loopDepth = m.state.loopDepth := by
  induction h
  case finish m _ =>
    have hk := Engine.finish_finished env m
    generalize Engine.finish env m = r at hk ⊢
    cases hk
    case none             => rfl
    case close _ _ hst _  => rw [hst]
    case broken _ _ hst _ => rw [hst]
  case crash m after _ _ hs =>
    have hl := step_loopDepth extended env m
    rwa [hs] at hl
  case step m after _ r _ hs _ hi =>
    have hl := step_loopDepth extended env m
    rw [hs] at hl
    exact hi.trans hl

-- The runs of binary digits that are closed lie in the code, and none of them is empty.
theorem closed_inside (h : Engine.Runs (table extended) env m r) (hm : Engine.Sound env m.state)
    {span : Span} (hs : span ∈ r.closed) : span.start < span.stop ∧ span.stop ≤ env.code.size := by
  have hf := (clear extended env m).forward (table_skips extended) hm
  have ⟨m', hr, hc⟩ := h.closing?_of_mem_closed hs
  exact (hm.reaches (table_skips extended) hf hr).closing? hc

end
end Library

namespace Interpreter

variable {i : Interpreter} {extended : Bool}

-- No fault escapes from a program. Whatever the code, the settings, the input and its errors, the
-- draws and the reporter are, the program comes to its end; the stretches of the code that it reads
-- lie in the code; and wherever it took a digit, all that was demanded there was in range. At the
-- end, no run of binary digits is open and no loop is entered.
theorem no_fault_escapes (hi : i.table = Library.table extended) (hw : 0 ≤ i.terminal.width)
    (code : Code) :
    let e := i.execute code
    e.run.ending = .finished ∧
      (∀ span ∈ e.run.closed, span.start < span.stop ∧ span.stop ≤ code.size) ∧
      (∀ d ∈ e.run.dispatches, ∀ q ∈ Library.demandsAt extended (i.environment code) d.before,
        q.Met code) ∧
      e.state.runStart = none ∧ e.state.loopDepth = 0 := by
  intro e
  have hf : e.run.ending = .finished := execute_ending hi (.inl hw)
  have hr : Engine.Runs (Library.table extended) (i.environment code) (i.machine code) e.run :=
    execute_runs code hi
  have hs : e.state = e.run.machine.state := (execute_finished hf).left
  refine ⟨hf, fun span h => ?_, Library.met_demands hr, ?_, ?_⟩
  · exact Library.closed_inside hr (Engine.sound_start _) h
  · rw [hs, Library.runStart_of_finished hr hf]
  · rw [hs, Library.runs_loopDepth hr]
    rfl

-- A run of binary digits stays open over fifteen variables and a digit that sets a colour, up to the
-- end of the code. Neither capacity is positive, and the input is broken.
theorem no_fault_escapes_colour :
    let settings : Settings :=
      { extended := true, maxVariables := -1, maxConditions := 0, reportFormat := ascii "xml" }
    let console : Console := ⟨[], some (ascii "broken"), [], Colour.plain⟩
    let i    := Interpreter.start settings { ansi := true, width := 0 } 0 ⟨console, default, []⟩
    let code := Code.ofArray (#[0x30] ++ Array.replicate 15 0x33 ++ #[0x37])
    let e    := i.execute code
    i.table = Library.table true ∧ 0 ≤ i.terminal.width ∧ e.run.ending = .finished ∧
      (∀ d ∈ e.run.dispatches, ∀ q ∈ Library.demandsAt true (i.environment code) d.before,
        q.Met code) ∧
      e.state.runStart = none ∧ e.state.loopDepth = 0 := by
  intro settings console i code e
  have hi : i.table = Library.table true := start_table ..
  have hw : 0 ≤ i.terminal.width := by decide
  have ⟨hf, _, hq, hr, hl⟩ := no_fault_escapes hi hw code
  exact ⟨hi, hw, hf, hq, hr, hl⟩

end Interpreter
end Denary
