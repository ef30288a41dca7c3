import Denary.Proofs.Control
import Denary.Proofs.Interpreter

namespace Denary

def Bits.isBit (b : UInt8) : Bool :=
  b == zero || b == one

-- The text of the run of binary digits in a stretch of a code, if there is one.
def Bits.message? (bs : Bytes) : Option Bytes :=
  if bs.any isBit then some (decode (bs.dropWhile (!isBit ·))) else none

-- A stretch of a code between two twos, or between one and an end of the code.
structure Segment where
  start : Nat
  bytes : Bytes
  deriving DecidableEq, Repr

namespace Segment

variable (s : Segment)

def stop : Nat :=
  s.start + s.bytes.length

-- The run of binary digits in a segment: it starts with the first binary digit, and lasts to the end
-- of the segment, whatever comes on the way.
def run? : Option Span :=
  (s.bytes.findIdx? Bits.isBit).map fun k => ⟨s.start + k, s.stop⟩

-- The segments that consecutive stretches make, from a position on. There is a two between them.
def place (p : Nat) : List Bytes → List Segment
  | []      => []
  | b :: bs => ⟨p, b⟩ :: place (p + b.length + 1) bs

theorem map_bytes_place (p : Nat) (bs : List Bytes) : (place p bs).map bytes = bs := by
  induction bs generalizing p
  case nil          => rfl
  case cons b bs hi => rw [place, List.map_cons, hi]

-- The run of binary digits that ends with a segment, if one was opened before it or is opened in it.
def closes? (opened : Option Nat) : Option Span :=
  match opened with
  | some start => some ⟨start, s.stop⟩
  | none       => s.run?

theorem closes?_nil (p : Nat) (opened : Option Nat) :
    closes? ⟨p, []⟩ opened = opened.map (⟨·, p⟩) := by
  cases opened <;> rfl

theorem closes?_cons_bit (p : Nat) {b : UInt8} (bs : Bytes) (opened : Option Nat)
    (hb : Bits.isBit b = true) :
    closes? ⟨p, b :: bs⟩ opened = closes? ⟨p + 1, bs⟩ (some (opened.getD p)) := by
  cases opened <;> simp [closes?, run?, stop, List.findIdx?_cons, hb] <;> omega

theorem closes?_cons_other (p : Nat) {b : UInt8} (bs : Bytes) (opened : Option Nat)
    (hb : Bits.isBit b = false) :
    closes? ⟨p, b :: bs⟩ opened = closes? ⟨p + 1, bs⟩ opened := by
  cases opened
  case some start => simp [closes?, stop]; omega
  case none =>
    simp only [closes?, run?, stop, List.findIdx?_cons, hb, List.length_cons]
    cases bs.findIdx? Bits.isBit
    case none   => rfl
    case some k => simp; omega

end Segment

namespace Code

variable (code : Code)

-- The stretches that the twos of a code leave.
def segments : List Segment :=
  Segment.place 0 (code.toList.splitOn 0x32)

-- The texts that the runs of binary digits of a code stand for.
def messages : List Bytes :=
  (code.toList.splitOn 0x32).filterMap Bits.message?

end Code

namespace Control

variable {code : Code} {c : Control} {p : Nat} {opened : Option Nat} {b : UInt8} {bs : Bytes}

theorem digit_of_drop (h : code.toList.drop p = b :: bs) : digit code ⟨p, opened⟩ = b := by
  rw [digit, Code.at?_natCast, ← List.head?_drop, h]
  rfl

theorem lt_of_drop (h : code.toList.drop p = b :: bs) : p < code.size := by
  by_contra hp
  have hn : code.toList.length ≤ p := Nat.le_of_not_lt hp
  rw [List.drop_eq_nil_of_le hn] at h
  cases h

theorem drop_succ (h : code.toList.drop p = b :: bs) : code.toList.drop (p + 1) = bs := by
  rw [← List.drop_drop, h]
  rfl

theorem next_of_isBit (extended : Bool) (h : Bits.isBit (digit code c) = true) :
    c.next extended code = ⟨c.cursor + 1, some (c.opened.getD c.cursor)⟩ := by
  have hd : c.digit code = 0x30 ∨ c.digit code = 0x31 := by
    simpa [Bits.isBit, Bits.zero, Bits.one] using h
  exact if_pos hd

theorem next_core_two (h : digit code c = 0x32) : c.next false code = ⟨c.cursor + 1, none⟩ := by
  simp [next, h]

theorem next_core_other (h : Bits.isBit (digit code c) = false) (h₂ : digit code c ≠ 0x32) :
    c.next false code = ⟨c.cursor + 1, c.opened⟩ := by
  have hd : ¬ (c.digit code = 0x30 ∨ c.digit code = 0x31) := by
    simpa [Bits.isBit, Bits.zero, Bits.one] using h
  simp [next, hd, h₂]

-- The induction is on the bytes that are left. A run that was opened before them ends with their first
-- segment.
theorem spans_core (hp : p ≤ code.size) (h : code.toList.drop p = bs) {s : Bytes} {ss : List Bytes}
    (hs : bs.splitOn 0x32 = s :: ss) :
    spans false code ⟨p, opened⟩
      = (Segment.closes? ⟨p, s⟩ opened).toList
        ++ (Segment.place (p + s.length + 1) ss).filterMap Segment.run? := by
  induction bs generalizing p opened s ss
  case nil =>
    have hz : p = code.size := by
      have hl := List.drop_eq_nil_iff.mp h
      exact Nat.le_antisymm hp hl
    obtain ⟨rfl, rfl⟩ : s = [] ∧ ss = [] := by simpa [eq_comm] using hs
    rw [spans_of_not_lt (by simp only; omega), Segment.closes?_nil, hz]
    exact (List.append_nil _).symm
  case cons b bs hi =>
    have hc : p < code.size := lt_of_drop h
    have hd : digit code ⟨p, opened⟩ = b := digit_of_drop h
    have ⟨s', ss', hs'⟩ := List.exists_cons_of_ne_nil (List.splitOn_ne_nil 0x32 bs)
    rw [List.splitOn_cons_eq_if_modifyHead, hs'] at hs
    rw [spans_of_lt hc]
    by_cases h₂ : b = 0x32
    case pos =>
      simp only [h₂, beq_self_eq_true, ↓reduceIte, List.cons.injEq] at hs
      obtain ⟨rfl, rfl⟩ := hs
      rw [next_core_two (hd.trans h₂), hi hc (drop_succ h) hs', Segment.closes?_nil, closes?,
        if_pos (hd.trans h₂)]
      congr 1
      simp only [List.length_nil, Segment.place, List.filterMap_cons, Segment.closes?]
      cases Segment.run? ⟨p + 1, s'⟩ <;> rfl
    case neg =>
      simp only [beq_iff_eq, h₂, ↓reduceIte, List.modifyHead_cons, List.cons.injEq] at hs
      obtain ⟨rfl, rfl⟩ := hs
      have hl : p + (b :: s').length + 1 = p + 1 + s'.length + 1 := by
        simp only [List.length_cons]
        omega
      have hn : closes? code ⟨p, opened⟩ = none := if_neg (hd ▸ h₂)
      rw [hn, Option.toList_none, List.nil_append, hl]
      cases hb : Bits.isBit b
      case true =>
        rw [next_of_isBit false (hd ▸ hb), hi hc (drop_succ h) hs', Segment.closes?_cons_bit _ _ _ hb]
      case false =>
        rw [next_core_other (hd ▸ hb) (hd ▸ h₂), hi hc (drop_succ h) hs',
          Segment.closes?_cons_other _ _ _ hb]

theorem spans_start_core (code : Code) :
    start.spans false code = code.segments.filterMap Segment.run? := by
  have ⟨s, ss, hs⟩ := List.exists_cons_of_ne_nil (List.splitOn_ne_nil 0x32 code.toList)
  rw [start, spans_core (Nat.zero_le _) rfl hs, Code.segments, hs, Segment.place,
    List.filterMap_cons, Segment.closes?]
  cases Segment.run? ⟨0, s⟩ <;> rfl

end Control
namespace Segment

variable {code : Code} {s : Segment} {bs : Bytes} {p : Nat}

-- The segments stand where they are said to.
theorem prefix_of_mem_place (h : code.toList.drop p = bs) (hs : s ∈ place p (bs.splitOn 0x32)) :
    s.bytes <+: code.toList.drop s.start := by
  induction bs generalizing p s
  case nil =>
    simp only [List.splitOn_nil, place, List.mem_singleton] at hs
    simp [hs]
  case cons b bs hi =>
    have h' : code.toList.drop (p + 1) = bs := Control.drop_succ h
    have ⟨s', ss', hs'⟩ := List.exists_cons_of_ne_nil (List.splitOn_ne_nil 0x32 bs)
    rw [List.splitOn_cons_eq_if_modifyHead, hs'] at hs
    rw [hs'] at hi
    by_cases h₂ : b = 0x32
    case pos =>
      simp only [h₂, beq_self_eq_true, ↓reduceIte] at hs
      rcases List.mem_cons.mp hs with rfl | hs
      · exact List.nil_prefix
      · exact hi h' hs
    case neg =>
      simp only [beq_iff_eq, h₂, ↓reduceIte, List.modifyHead_cons] at hs
      rcases List.mem_cons.mp hs with rfl | hs
      · have hp : s' <+: code.toList.drop (p + 1) := hi (s := ⟨p + 1, s'⟩) h' List.mem_cons_self
        rw [h'] at hp
        change b :: s' <+: code.toList.drop p
        rw [h]
        exact List.prefix_cons_inj b |>.mpr hp
      · have hl : p + (b :: s').length + 1 = p + 1 + s'.length + 1 := by
          simp only [List.length_cons]
          omega
        exact hi h' (List.mem_cons_of_mem _ (hl ▸ hs))

theorem slice?_of_prefix (h : s.bytes <+: code.toList.drop s.start) {k : Nat}
    (hk : k < s.bytes.length) : code.slice? ⟨s.start + k, s.stop⟩ = some (s.bytes.drop k) := by
  obtain ⟨rest, hr⟩ := h
  have hl := congrArg List.length hr
  simp only [List.length_append, List.length_drop, Code.toList, Array.length_toList] at hl
  have hw : s.start + k ≤ s.stop ∧ s.stop ≤ code.size := by
    simp only [stop, Code.size]
    omega
  have hn : s.start + s.bytes.length - (s.start + k) = (s.bytes.drop k).length := by
    rw [List.length_drop]
    omega
  rw [Code.slice?, if_pos hw, Array.toList_extract, List.extract_eq_take_drop, stop, hn,
    ← List.drop_drop, ← Code.toList, ← hr, List.drop_append_of_le_length (Nat.le_of_lt hk),
    List.take_left]

-- A segment has one line to be printed for it, or none at all.
theorem run?_cases (h : s.bytes <+: code.toList.drop s.start) :
    s.run? = none ∧ Bits.message? s.bytes = none ∨
      ∃ span t, s.run? = some span ∧ Bits.message? s.bytes = some t ∧
        code.spoken span = [Text.line t] := by
  unfold run? Bits.message?
  cases hk : s.bytes.findIdx? Bits.isBit
  case none =>
    have ha : s.bytes.any Bits.isBit = false := by
      simpa [List.any_eq_false] using List.findIdx?_eq_none_iff.mp hk
    exact .inl ⟨rfl, by simp [ha]⟩
  case some k =>
    have ⟨hf, hi⟩ := List.findIdx?_eq_some_iff_findIdx_eq.mp hk
    have ha : s.bytes.any Bits.isBit = true := by
      rw [List.any_eq_true]
      exact List.findIdx_lt_length.mp (hi.symm ▸ hf)
    refine .inr ⟨_, _, rfl, if_pos ha, ?_⟩
    have hd : s.bytes.dropWhile (!Bits.isBit ·) = s.bytes.drop k := by
      rw [List.dropWhile_eq_drop_findIdx_not, ← hi]
      simp
    rw [Code.spoken, slice?_of_prefix h hf, hd]
    rfl

theorem forall₂_spoken {l : List Segment} (h : ∀ s ∈ l, s.bytes <+: code.toList.drop s.start) :
    List.Forall₂ (fun span t => code.spoken span = [Text.line t])
      (l.filterMap run?) ((l.map bytes).filterMap Bits.message?) := by
  induction l
  case nil => exact .nil
  case cons s l hi =>
    have hi := hi fun s' hs' => h s' (List.mem_cons_of_mem s hs')
    rw [List.map_cons]
    rcases run?_cases (h s List.mem_cons_self) with ⟨hr, hm⟩ | ⟨span, t, hr, hm, hp⟩
    · rwa [List.filterMap_cons_none hr, List.filterMap_cons_none hm]
    · rw [List.filterMap_cons_some hr, List.filterMap_cons_some hm]
      exact .cons hp hi

end Segment

theorem Code.forall₂_messages (code : Code) :
    List.Forall₂ (fun span t => code.spoken span = [Text.line t])
      (code.segments.filterMap Segment.run?) code.messages := by
  have h : List.Forall₂ _ (code.segments.filterMap Segment.run?) _ :=
    Segment.forall₂_spoken fun s hs => Segment.prefix_of_mem_place rfl hs
  rwa [Code.segments, Segment.map_bytes_place] at h

theorem Code.flatten_spoken {code : Code} {spans : List Span} {ts : List Bytes}
    (h : List.Forall₂ (fun span t => code.spoken span = [Text.line t]) spans ts) :
    (spans.flatMap code.spoken).flatten = ts.flatMap Text.line := by
  induction h
  case nil          => rfl
  case cons hs _ hi => simp [hs, hi]

namespace Engine

-- The machine that a run from `m` on ends its last digit with.
def Run.last (m : Machine) (r : Run) : Machine :=
  (r.dispatches.getLast?.map (·.after)).getD m

-- A run prints the messages of its code, each of them where its run of binary digits comes to its end:
-- with a two, or behind the last digit. Other digits that no handler is called for print nothing.
structure Run.Speaks (code : Code) (m : Machine) (r : Run) : Prop where
  closed     : r.closed = code.segments.filterMap Segment.run?
  lines      : List.Forall₂ (fun span t => code.spoken span = [Text.line t]) r.closed code.messages
  site       : ∀ d ∈ r.dispatches, ∀ span ∈ d.closed?, d.site = ⟨span.stop, 0x32⟩
  printed    : ∀ d ∈ r.dispatches, d.status = none →
    d.after.world.printed = d.before.world.printed ++ d.closed?.toList.flatMap code.spoken
  behind     : ∀ span ∈ r.trailing, span.stop = code.size
  trailing   : r.machine.world.printed
    = (r.last m).world.printed ++ r.trailing.toList.flatMap code.spoken
  binaryRuns : r.machine.state.binaryRuns = m.state.binaryRuns + code.messages.length
  runStart   : r.machine.state.runStart = none

end Engine

namespace Library

variable {extended : Bool} {env : Environment} {m : Machine} {r : Engine.Run}

theorem runStart_of_finished (h : Engine.Runs (table extended) env m r) (hf : r.ending = .finished) :
    r.machine.state.runStart = none := by
  induction h
  case finish m hb =>
    have hk := Engine.finish_finished env m
    generalize Engine.finish env m = r at hf hk ⊢
    cases hk
    case none hcl =>
      rw [Engine.closing?, if_neg hb] at hcl
      exact Option.map_eq_none_iff.mp hcl
    case close _ _ hst _ => rw [hst]
    case broken => cases hf
  case crash => cases hf
  case step hi => exact hi hf

theorem printed_trailing (h : Engine.Runs (table extended) env m r) (hf : r.ending = .finished) :
    r.machine.world.printed
      = (r.last m).world.printed ++ r.trailing.toList.flatMap env.code.spoken := by
  induction h
  case finish m _ =>
    rw [Engine.Run.last, Engine.finish_dispatches, Engine.finish_trailing hf]
    exact (describes_finish env m).printed
  case crash => cases hf
  case step m after outcome r _ _ _ hi =>
    have hl : Engine.Run.last m
        { r with dispatches := ⟨Engine.siteOf env m, outcome, m, after⟩ :: r.dispatches }
        = (r.dispatches.getLast?.map (·.after)).getD after := by
      rw [Engine.Run.last, List.getLast?_cons]
      cases r.dispatches.getLast? <;> rfl
    have hw : (r.last (Engine.advance after)).world
        = ((r.dispatches.getLast?.map (·.after)).getD after).world := by
      unfold Engine.Run.last
      cases r.dispatches.getLast? <;> rfl
    rw [hl, ← hw]
    exact hi hf

theorem runs_speaks (h : Engine.Runs (table false) env m r) (hf : r.ending = .finished)
    (hm : Control.start.Tracks m.state) : r.Speaks env.code m := by
  have hc : Control.Completes false env .start m r :=
    Control.completes_of_finished h hf (Control.valid_start env.code) hm
  have hr : r.closed = env.code.segments.filterMap Segment.run? :=
    hc.closed_eq.trans (Control.spans_start_core env.code)
  have hl : List.Forall₂ (fun span t => env.code.spoken span = [Text.line t]) r.closed
      env.code.messages := hr ▸ env.code.forall₂_messages
  refine
    { closed     := hr
      lines      := hl
      site       := ?site
      printed    := ?printed
      behind     := ?behind
      trailing   := printed_trailing h hf
      binaryRuns := ?binaryRuns
      runStart   := runStart_of_finished h hf }
  case site =>
    intro d hd span hs
    have ⟨_, _, hsh⟩ := hc.exists_shows hd
    rw [hsh.closed] at hs
    have ⟨h₂, _, hp⟩ := Control.closes?_eq_some_iff.mp hs
    rw [hsh.site, h₂, hp]
  case printed =>
    intro d hd hs
    have ⟨_, _, ht⟩ := h.taken_of_mem hd
    have hp := (step_transcript false env d.before).remarks.printed
    rwa [ht, printed_transcript h hd (.inl hs)] at hp
  case behind =>
    intro span hs
    rw [hc.trailing] at hs
    have ⟨_, _, he⟩ := Option.map_eq_some_iff.mp hs
    rw [← he]
  case binaryRuns =>
    rw [hc.leaves.binaryRuns, ← hc.closed_eq, hl.length_eq]

end Library

namespace Interpreter

-- What the core library prints for the binary digits of a code, whatever else the code holds. Where
-- nothing else in the code prints, this is all that the console gets to see. A program only fails to
-- come to its end where the dialogue has to draw a line of negative length.
theorem core_output (i : Interpreter) (hi : i.table = Library.table false) (code : Code) :
    let e := i.execute code
    (0 ≤ i.terminal.width ∨ 0x37 ∉ code.toList → e.run.ending = .finished) ∧
      (e.run.ending = .finished → e.run.Speaks code (i.machine code) ∧
        e.state.binaryRuns = code.messages.length ∧ e.state.runStart = none) ∧
      (0x37 ∉ code.toList → 0x39 ∉ code.toList → i.world.console.colour = Colour.plain →
        e.interpreter.world.output = i.world.output ++ code.messages.flatMap Text.line) := by
  intro e
  have hr : Engine.Runs (Library.table false) (i.environment code) (i.machine code) e.run :=
    execute_runs code hi
  have hs (hf : e.run.ending = .finished) : e.run.Speaks code (i.machine code) :=
    Library.runs_speaks hr hf ⟨rfl, rfl⟩
  refine ⟨execute_ending hi, fun hf => ⟨hs hf, ?_, ?_⟩, fun h₇ h₉ hc => ?_⟩
  · have hb := (hs hf).binaryRuns
    rw [(execute_finished hf).left, hb]
    exact Nat.zero_add _
  · rw [(execute_finished hf).left, (hs hf).runStart]
  · have hl := (hs (execute_ending hi (.inr h₇))).lines
    rw [World.output_eq_flatten, World.output_eq_flatten, execute_printed hi h₇ h₉ hc,
      List.flatten_append, Code.flatten_spoken hl]

-- In `301001000284`, the first segment is the letter `H`, and the second holds no binary digit.
theorem core_output_letter :
    let i    := start {} {} 0 default
    let code := Code.ofArray #[0x33, 0x30, 0x31, 0x30, 0x30, 0x31, 0x30, 0x30, 0x30, 0x32, 0x38, 0x34]
    i.table = Library.table false ∧ (i.execute code).state.binaryRuns = 1 ∧
      (i.execute code).interpreter.world.output = i.world.output ++ ascii "H\n" := by
  intro i code
  have ht : i.table = Library.table false := start_table ..
  have hm : code.messages = [ascii "H"] := by decide
  have ⟨hf, hs, ho⟩ := core_output i ht code
  have ⟨_, hb, _⟩ := hs (hf (.inl (by decide)))
  exact ⟨ht, hb.trans (by rw [hm]; rfl), (ho (by decide) (by decide) rfl).trans (by rw [hm]; rfl)⟩

end Interpreter
end Denary
