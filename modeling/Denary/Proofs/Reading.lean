import Denary.Proofs.Cursor
import Denary.Proofs.Lines
import Denary.Proofs.Transcript

namespace Denary

namespace Console

open Text

variable {c : Console} {l : Bytes} {ls : List Bytes}

theorem trimEnd_newline (t : Bytes) : trimEnd isLineEnd (t ++ [newline]) = trimEnd isLineEnd t := by
  have hn : isLineEnd newline = true := rfl
  simp [trimEnd, hn]

-- A console whose input comes to its end reads the lines of it one after another.
theorem readLine_of_lines_nil (hf : c.failure = none) (h : lines c.input = []) :
    c.readLine = (.error (.plain .noInput), c) := by
  have hi : c.input = [] := by rw [← flatten_lines c.input, h]; rfl
  simp [readLine, hi, hf]

theorem readLine_of_lines_cons (hf : c.failure = none) (h : lines c.input = l :: ls) :
    c.readLine = (.ok (trimEnd isLineEnd l), { c with input := ls.flatten }) ∧
      lines ls.flatten = ls := by
  unfold readLine
  dsimp only
  split
  case h_1 b rest hd =>
    rw [lines_of_newline hd] at h
    cases h
    rw [flatten_lines, trimEnd_newline]
    exact ⟨rfl, rfl⟩
  case h_2 hd =>
    have hi : c.input ≠ [] := by
      intro hi
      rw [hi] at h
      cases h
    have ht : c.input.takeWhile (· ≠ newline) = c.input := by
      have := List.takeWhile_append_dropWhile (p := (· ≠ newline)) (l := c.input)
      rwa [hd, List.append_nil] at this
    rw [lines_of_no_newline hi hd] at h
    cases h
    rw [hf, ht]
    simp only [hi, ↓reduceIte]
    exact ⟨rfl, rfl⟩

end Console
-- A site where a line of input is read: a number or a text is made of it, or it is only waited for.
def Site.Reads (site : Site) : Prop :=
  site.digit = 0x37 ∧ DialogueOperation.numberAt site.position ∈ [0, 1, 4]

instance (site : Site) : Decidable site.Reads :=
  inferInstanceAs (Decidable (_ ∧ _))

-- What is made of the answer to a read at a position.
def DialogueOperation.entered (p : Int) (answer : Except Error Bytes) : List Variable :=
  if numberAt p = 0 then Effect.enteredInt p answer
  else if numberAt p = 1 then Effect.enteredText p answer
  else []

theorem DialogueOperation.entered_error (p : Int) (e : Error) : entered p (.error e) = [] := by
  unfold entered
  repeat' split
  all_goals rfl

-- Waiting is over with any line. Otherwise something has to be made of it, and to fit.
def DialogueOperation.accepts (p : Int) (line : Bytes) (store : Bounded Variable) : Bool :=
  numberAt p = 4 || (!(entered p (.ok line)).isEmpty && !store.isFull)

namespace Engine

-- The line that is read for a digit, and what comes of it.
structure Dispatch.Receives (d : Dispatch) (line : Bytes) : Prop where
  read    : d.before.world.console.readLine.1 = .ok line
  store   : d.after.state.store
    = d.before.state.store.offer (DialogueOperation.entered d.site.position (.ok line))
  outcome : d.outcome
    = .called (.done (DialogueOperation.accepts d.site.position line d.before.state.store))

-- There is no line left for a digit that reads one.
structure Dispatch.Exhausted (d : Dispatch) : Prop where
  outcome : d.outcome = .called (.done false)
  state   : d.after.state = { d.before.state with
    executed := d.before.state.executed + 1
    warnings := d.before.state.warnings + 1 }
  warned  : d.after.world.warnings = d.before.world.warnings ++
    [Remarks.warning d.site Category.console (ascii "input exhausted")]

-- A digit is given a line, without its line end, or finds that there is none.
def Dispatch.Hears (d : Dispatch) : Option Bytes → Prop
  | some l => d.Receives (Text.trimEnd Console.isLineEnd l)
  | none   => d.Exhausted

-- The digits that read a line.
def Run.readings (r : Run) : List Dispatch :=
  r.dispatches.filter (·.site.Reads)

-- Lines of input go to the digits that read one, in order and each to one of them.
structure Run.Aligned (r : Run) (lines : List Bytes) : Prop where
  heard  : ∀ (i : Nat) (d : Dispatch), r.readings[i]? = some d → d.Hears lines[i]?
  unread : r.machine.world.console.input = (lines.drop r.readings.length).flatten

end Engine

namespace Library

section

variable {extended : Bool} {code : Code} {t : Terminal} {site : Site} {entries : List Variable}
  {console : Console}

theorem input_random (n : Int) :
    (console.random n).2.input = console.input ∧ (console.random n).2.failure = console.failure := by
  unfold Console.random
  split <;> exact ⟨rfl, rfl⟩

theorem effect_input (hr : ¬ site.Reads) :
    (effect extended code t site entries console).console.input = console.input ∧
      (effect extended code t site entries console).console.failure = console.failure := by
  unfold effect
  split <;> rename_i hd
  case h_4 => cases extended <;> exact ⟨rfl, rfl⟩
  case h_5 => cases extended <;> exact ⟨rfl, rfl⟩
  case h_6 =>
    have hn {op : DialogueOperation}
        (ho : DialogueOperation.ofNumber? (DialogueOperation.numberAt site.position) = some op) :
        op.number ∉ [0, 1, 4] :=
      fun h => hr ⟨hd, DialogueOperation.ofNumber?_eq_some_iff.mp ho ▸ h⟩
    unfold Effect.dialogue
    split <;> rename_i ho
    case h_1 => exact absurd (by decide) (hn ho)
    case h_2 => exact absurd (by decide) (hn ho)
    case h_3 => exact absurd (by decide) (hn ho)
    case h_4 => exact input_random _
    all_goals exact ⟨rfl, rfl⟩
  all_goals exact ⟨rfl, rfl⟩

theorem effect_reads (hr : site.Reads) :
    effect extended code t site entries console
      = { offered := DialogueOperation.entered site.position console.readLine.1
          console := console.readLine.2 } := by
  have ⟨hd, hn⟩ := hr
  simp only [effect, hd, Effect.dialogue, DialogueOperation.entered]
  simp only [List.mem_cons, List.not_mem_nil, or_false] at hn
  rcases hn with hn | hn | hn <;> simp [hn, DialogueOperation.ofNumber?]

end

variable {extended : Bool} {env : Environment} {m after : Machine} {outcome : Engine.Outcome}
  {answer : Except Fault Engine.Outcome}

-- A digit that reads belongs to no run of binary digits, and the dialogue is called for it.
theorem reads_called (extended : Bool) (hc : m.state.cursor < env.code.size)
    (hr : (Engine.siteOf env m).Reads) :
    Engine.closing? env m = none ∧ (table extended (Engine.siteOf env m).digit).isSome := by
  have hd := hr.left
  constructor
  · rw [Engine.closing?, if_pos hc, if_neg (by rw [hd]; decide)]
  · rw [hd]
    cases extended <;> rfl

theorem outline_reads (hc : m.state.cursor < env.code.size) (hr : (Engine.siteOf env m).Reads) :
    outline extended env m
      = { state   :=
            { (effectAt extended env m).apply m.state with executed := m.state.executed + 1 }
          console := m.world.console.readLine.2 } := by
  have ⟨hcl, ht⟩ := reads_called extended hc hr
  unfold outline
  rw [if_neg (by rw [hr.left]; decide), hcl]
  simp only [ht, ↓reduceIte]
  rw [effectAt, effect_reads hr]

theorem transcript_reads (hc : m.state.cursor < env.code.size) (hr : (Engine.siteOf env m).Reads) :
    transcript extended env m
      = { toRemarks := (Account.dialogue env (Engine.siteOf env m) (Engine.handed env m)).toRemarks
          outcome   := .called (.done
            (Account.dialogue env (Engine.siteOf env m) (Engine.handed env m)).completed) } := by
  have ⟨hcl, ht⟩ := reads_called extended hc hr
  have hd : Text.isDigit (Engine.siteOf env m).digit = true := by rw [hr.left]; rfl
  have ha : account extended env (Engine.siteOf env m) (Engine.handed env m)
      = Account.dialogue env (Engine.siteOf env m) (Engine.handed env m) := by
    rw [account, hr.left]
    rfl
  unfold transcript
  rw [if_neg (by rw [hr.left]; decide), hcl]
  simp only [hd, ht, ha, ↓reduceIte]

-- Whether the dialogue completes a read, and what it says where there is no line left.
theorem dialogue_reads {site : Site} (hr : site.Reads) (env : Environment) (m : Machine) :
    (∀ line, m.world.console.readLine.1 = .ok line → (Account.dialogue env site m).completed
      = DialogueOperation.accepts site.position line m.state.store) ∧
    (m.world.console.readLine.1 = .error (.plain .noInput) →
      (Account.dialogue env site m).completed = false ∧
      (Account.dialogue env site m).warned
        = [Remarks.warning site Category.console (ascii "input exhausted")]) := by
  have hn := hr.right
  simp only [List.mem_cons, List.not_mem_nil, or_false] at hn
  constructor
  case left =>
    intro line hl
    rcases hn with hn | hn | hn
    · have ho : DialogueOperation.ofNumber? 0 = some .readInt := rfl
      simp only [Account.dialogue, hn, ho, Account.readInt, hl, DialogueOperation.accepts,
        DialogueOperation.entered, Effect.enteredInt]
      cases Decimal.int64? (Text.trim line) <;> simp [Account.after, Account.failed, Account.append]
    · have ho : DialogueOperation.ofNumber? 1 = some .readLine := rfl
      simp only [Account.dialogue, hn, ho, Account.readText, hl, DialogueOperation.accepts,
        DialogueOperation.entered, Effect.enteredText]
      split <;> simp [Account.after, Account.failed, Account.append]
    · have ho : DialogueOperation.ofNumber? 4 = some .pause := rfl
      simp [Account.dialogue, hn, ho, Account.pause, hl, DialogueOperation.accepts, Account.after]
  case right =>
    intro hl
    have hc : Error.cause? (.plain .noInput) = some .noInput := rfl
    rcases hn with hn | hn | hn
    · have ho : DialogueOperation.ofNumber? 0 = some .readInt := rfl
      simp [Account.dialogue, hn, ho, Account.readInt, hl, Account.after, Account.failed,
        Remarks.inputFailed, Remarks.warn, hc]
    · have ho : DialogueOperation.ofNumber? 1 = some .readLine := rfl
      simp [Account.dialogue, hn, ho, Account.readText, hl, Account.after, Account.failed,
        Remarks.inputFailed, Remarks.warn, hc]
    · have ho : DialogueOperation.ofNumber? 4 = some .pause := rfl
      simp [Account.dialogue, hn, ho, Account.pause, hl, Account.after, Account.failed,
        Remarks.inputFailed, Remarks.warn, hc]

theorem step_receives (hc : m.state.cursor < env.code.size) (hr : (Engine.siteOf env m).Reads)
    (h : Engine.step (table extended) env m = (after, .ok outcome)) {line : Bytes}
    (hl : m.world.console.readLine.1 = .ok line) :
    Engine.Dispatch.Receives ⟨Engine.siteOf env m, outcome, m, after⟩ line := by
  have ho := step_outline extended env m
  have ht := step_transcript extended env m
  rw [outline_reads hc hr, h] at ho
  rw [transcript_reads hc hr, h] at ht
  have hd := (dialogue_reads hr env (Engine.handed env m)).left line
  rw [Engine.console_handed, Engine.state_handed] at hd
  refine { read := hl, store := ?_, outcome := ?_ }
  · have hs := ho.state
    rw [effectAt, effect_reads hr, hl] at hs
    rw [hs]
    rfl
  · rw [ht.outcome outcome rfl, hd hl]

theorem step_exhausted (hc : m.state.cursor < env.code.size) (hr : (Engine.siteOf env m).Reads)
    (h : Engine.step (table extended) env m = (after, .ok outcome))
    (hl : m.world.console.readLine.1 = .error (.plain .noInput)) :
    Engine.Dispatch.Exhausted ⟨Engine.siteOf env m, outcome, m, after⟩ := by
  have ho := step_outline extended env m
  have ht := step_transcript extended env m
  rw [outline_reads hc hr, h] at ho
  rw [transcript_reads hc hr, h] at ht
  have hd := (dialogue_reads hr env (Engine.handed env m)).right
  rw [Engine.console_handed] at hd
  have ⟨hcp, hwd⟩ := hd hl
  refine { outcome := ?_, state := ?_, warned := ?_ }
  · rw [ht.outcome outcome rfl, hcp]
  · have hs := ho.state
    have hw := ht.remarks.counted
    rw [effectAt, effect_reads hr, hl, DialogueOperation.entered_error, hw, hwd] at hs
    simpa [Effect.apply] using hs
  · rw [← hwd]
    exact ht.remarks.warnings

-- A digit that reads takes the first of the lines that are left, and no more.
theorem step_hears (hc : m.state.cursor < env.code.size) (hr : (Engine.siteOf env m).Reads)
    (hf : m.world.console.failure = none)
    (h : Engine.step (table extended) env m = (after, .ok outcome)) :
    Engine.Dispatch.Hears ⟨Engine.siteOf env m, outcome, m, after⟩
        (Text.lines m.world.console.input).head? ∧
      Text.lines after.world.console.input = (Text.lines m.world.console.input).tail ∧
      after.world.console.failure = none := by
  have ho := (step_outline extended env m).console
  rw [outline_reads hc hr, h] at ho
  change after.world.console = _ at ho
  rw [ho]
  cases hl : Text.lines m.world.console.input
  case nil =>
    have hn := Console.readLine_of_lines_nil hf hl
    exact ⟨step_exhausted hc hr h (by rw [hn]), by rw [hn]; exact hl, by rw [hn]; exact hf⟩
  case cons l ls =>
    have ⟨hn, hls⟩ := Console.readLine_of_lines_cons hf hl
    exact ⟨step_receives hc hr h (by rw [hn]), by rw [hn]; exact hls, by rw [hn]; exact hf⟩

-- Other digits leave the input alone, also where a fault stops them.
theorem step_input (hr : ¬ (Engine.siteOf env m).Reads)
    (h : Engine.step (table extended) env m = (after, answer)) :
    after.world.console.input = m.world.console.input ∧
      after.world.console.failure = m.world.console.failure := by
  have ho := (step_outline extended env m).console
  rw [h] at ho
  change after.world.console = _ at ho
  rw [ho]
  unfold outline
  repeat' split
  case h_2.isTrue => exact effect_input hr
  all_goals exact ⟨rfl, rfl⟩

theorem reads_no_fault (hc : m.state.cursor < env.code.size) (hr : (Engine.siteOf env m).Reads)
    {fault : Fault} : Engine.step (table extended) env m ≠ (after, .error fault) := by
  intro h
  have ho := (step_outline extended env m).fault
  rw [outline_reads hc hr, h] at ho
  cases ho

theorem readings_cons_of_reads {d : Engine.Dispatch} (r : Engine.Run) (hd : d.site.Reads) :
    Engine.Run.readings { r with dispatches := d :: r.dispatches } = d :: r.readings :=
  List.filter_cons_of_pos (by simpa using hd)

theorem readings_cons_of_not_reads {d : Engine.Dispatch} (r : Engine.Run) (hd : ¬ d.site.Reads) :
    Engine.Run.readings { r with dispatches := d :: r.dispatches } = r.readings :=
  List.filter_cons_of_neg (by simpa using hd)

theorem runs_aligned {r : Engine.Run} (h : Engine.Runs (table extended) env m r)
    (hf : m.world.console.failure = none) : r.Aligned (Text.lines m.world.console.input) := by
  induction h
  case finish m _ =>
    have hn : (Engine.finish env m).readings = [] := by
      rw [Engine.Run.readings, Engine.finish_dispatches]
      rfl
    refine { heard := by simp [hn], unread := ?_ }
    rw [hn, Engine.finish_console]
    exact (Text.flatten_lines _).symm
  case crash m after fault hc hs =>
    have hr : ¬ (Engine.siteOf env m).Reads := fun hr => reads_no_fault hc hr hs
    refine { heard := ?_, unread := (step_input hr hs).left.trans (Text.flatten_lines _).symm }
    simp [Engine.Run.readings]
  case step m after outcome r hc hs _ hi =>
    by_cases hr : (Engine.siteOf env m).Reads
    case neg =>
      have ⟨hin, hfa⟩ := step_input hr hs
      have ha := hi (hfa.trans hf)
      change r.Aligned (Text.lines after.world.console.input) at ha
      rw [hin] at ha
      refine { heard := ?_, unread := ?_ }
      · rw [readings_cons_of_not_reads r hr]
        exact ha.heard
      · rw [readings_cons_of_not_reads r hr]
        exact ha.unread
    case pos =>
      have ⟨hh, hin, hfa⟩ := step_hears hc hr hf hs
      have ha := hi hfa
      change r.Aligned (Text.lines after.world.console.input) at ha
      rw [hin] at ha
      refine { heard := ?_, unread := ?_ }
      · rw [readings_cons_of_reads r hr]
        intro i d hd
        cases i
        case zero =>
          cases hd
          rwa [← List.head?_eq_getElem?]
        case succ i =>
          have hg := ha.heard i d hd
          rwa [List.getElem?_tail] at hg
      · rw [readings_cons_of_reads r hr, List.length_cons, ← List.drop_tail]
        exact ha.unread

-- The digits that read get the lines of the input one after another, whatever became of the lines
-- before. Where there are fewer lines, the digits left over fail and change nothing, and where there
-- are more, the lines left over stay unread.
theorem lines_in_order (extended : Bool) (env : Environment) (world : World)
    (hf : world.console.failure = none) :
    let m : Machine := ⟨State.start env.settings, world⟩
    ∃ r, m.run? (table extended) env = some r ∧ r.Aligned (Text.lines world.console.input) := by
  intro m
  have ⟨r, h⟩ := exists_runs extended env world
  exact ⟨r, h.run?_eq, runs_aligned h hf⟩

-- In `77`, the first digit asks for a number and the second for a text. The second line has no end.
theorem lines_in_order_number_text :
    let env := Environment.plain (Code.ofArray #[0x37, 0x37]) {}
    let world : World := { (default : World) with
      console := { input := ascii "five\r\nsix", failure := none, draws := [], colour := Colour.plain } }
    let m : Machine := ⟨State.start env.settings, world⟩
    world.console.failure = none ∧ ∃ r, m.run? (table false) env = some r ∧
      r.Aligned [ascii "five\r\n", ascii "six"] :=
  ⟨rfl, lines_in_order false _ _ rfl⟩

end Library
end Denary
