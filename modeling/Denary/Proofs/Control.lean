import Mathlib.Data.List.Forall2
import Denary.Proofs.Library
import Denary.Proofs.Run

namespace Denary

-- The control of a program: the position of its cursor, and the start of the run of binary digits
-- that is open, if one is. How it moves on is decided by the code and by the library alone.
structure Control where
  cursor : Nat
  opened : Option Nat
  deriving DecidableEq, Repr

theorem Code.at?_natCast (code : Code) (p : Nat) : code.at? p = code.toList[p]? := by
  rw [Code.at?, if_neg (Int.not_lt.mpr (Int.natCast_nonneg p)), Int.toNat_natCast, Code.toList,
    Array.getElem?_toList]

theorem Code.mem_of_at? {code : Code} {p : Int} {b : UInt8} (h : code.at? p = some b) :
    b ∈ code.toList := by
  unfold at? at h
  split at h
  case isTrue  => cases h
  case isFalse => exact Array.mem_toList_iff.mpr (Array.mem_of_getElem? h)

namespace Control

def start : Control :=
  ⟨0, none⟩

section

variable (extended : Bool) (code : Code) (c : Control)

def digit : UInt8 :=
  (code.at? c.cursor).getD 0

def next : Control :=
  if c.digit code = 0x30 ∨ c.digit code = 0x31 then
    ⟨c.cursor + 1, some (c.opened.getD c.cursor)⟩
  else if c.digit code = 0x32 then
    if c.opened.isSome then ⟨c.cursor + 1, none⟩
    else if extended then ⟨c.cursor + 3, none⟩
    else ⟨c.cursor + 1, none⟩
  else if extended ∧ c.digit code = 0x35 then
    if Test.holdsAt c.cursor then ⟨c.cursor + 1, c.opened⟩
    else ⟨c.cursor + 2, c.opened⟩
  else ⟨c.cursor + 1, c.opened⟩

-- The run of binary digits that a control closes.
def closes? : Option Span :=
  if c.digit code = 0x32 then c.opened.map (⟨·, c.cursor⟩) else none

variable {code c} in
theorem closes?_eq_some_iff {span : Span} :
    c.closes? code = some span
      ↔ c.digit code = 0x32 ∧ c.opened = some span.start ∧ span.stop = c.cursor := by
  obtain ⟨start, stop⟩ := span
  unfold closes?
  split
  case isTrue hd =>
    cases c.opened <;> simp [hd, eq_comm]
  case isFalse hd => simp [hd]

variable {code c} in
theorem opened_eq_none_of_closes? (h : c.closes? code = none) (hd : c.digit code = 0x32) :
    c.opened = none := by
  simpa [closes?, hd] using h

-- Whether a control calls a handler.
def calls : Bool :=
  if c.digit code = 0x30 ∨ c.digit code = 0x31 then false
  else if c.digit code = 0x32 then extended && c.opened.isNone
  else Text.isDigit (c.digit code)

-- The frame that a control adds to the conditions.
def frame? : Option Frame :=
  if extended ∧ c.digit code = 0x35 then some ⟨c.cursor, Test.holdsAt c.cursor⟩ else none

-- The colour that a control selects.
def colour? : Option Colour :=
  if c.digit code = 0x37 ∧ c.cursor % 10 = 6 then some (c.cursor / 10 % 8 : Nat) else none

theorem colour?_eq :
    c.colour? code
      = if c.digit code = 0x37 ∧ (c.cursor : Int).tmod 10 = 6 then some (Opcode.colourAt c.cursor)
        else none := by
  have hm : (c.cursor : Int).tmod 10 = (c.cursor % 10 : Nat) := (Int.ofNat_tmod c.cursor 10).symm
  have hd : Opcode.colourAt c.cursor = (c.cursor / 10 % 8 : Nat) := rfl
  rw [colour?, hm, hd]
  norm_cast

theorem cursor_lt_next : c.cursor < (c.next extended code).cursor := by
  unfold next
  repeat' split
  all_goals simp

theorem next_cursor_le : (c.next extended code).cursor ≤ c.cursor + 3 := by
  unfold next
  repeat' split
  all_goals simp

variable {extended code c} in
theorem opened_of_next {s : Nat} (h : s ∈ (c.next extended code).opened) :
    s ∈ c.opened ∨ s = c.cursor := by
  unfold next at h
  cases ho : c.opened <;> grind

-- The controls of a program, up to the end of its code.
def path (c : Control) : List Control :=
  if c.cursor < code.size then c :: path (c.next extended code) else []
termination_by code.size - c.cursor
decreasing_by
  have := c.cursor_lt_next extended code
  omega

-- The control that a program comes to rest in.
def final (c : Control) : Control :=
  if c.cursor < code.size then final (c.next extended code) else c
termination_by code.size - c.cursor
decreasing_by
  have := c.cursor_lt_next extended code
  omega

-- The run of binary digits that is still open at the end.
def trailing? : Option Span :=
  (c.final extended code).opened.map (⟨·, code.size⟩)

-- The runs of binary digits that a program closes.
def spans : List Span :=
  (c.path extended code).filterMap (closes? code) ++ (c.trailing? extended code).toList

variable {extended code c}

theorem path_of_lt (hc : c.cursor < code.size) :
    c.path extended code = c :: (c.next extended code).path extended code := by
  rw [path, if_pos hc]

theorem path_of_not_lt (hc : ¬ c.cursor < code.size) : c.path extended code = [] := by
  rw [path, if_neg hc]

theorem final_of_lt (hc : c.cursor < code.size) :
    c.final extended code = (c.next extended code).final extended code := by
  rw [final, if_pos hc]

theorem final_of_not_lt (hc : ¬ c.cursor < code.size) : c.final extended code = c := by
  rw [final, if_neg hc]

theorem spans_of_lt (hc : c.cursor < code.size) :
    c.spans extended code
      = (c.closes? code).toList ++ (c.next extended code).spans extended code := by
  unfold spans trailing?
  rw [path_of_lt hc, final_of_lt hc, ← List.append_assoc, List.filterMap_cons]
  cases c.closes? code <;> rfl

theorem spans_of_not_lt (hc : ¬ c.cursor < code.size) :
    c.spans extended code = (c.opened.map (⟨·, code.size⟩)).toList := by
  rw [spans, trailing?, path_of_not_lt hc, final_of_not_lt hc]
  rfl

end

-- The controls that a program passes: an open run of binary digits starts inside of the code and
-- before the cursor.
structure Valid (code : Code) (c : Control) : Prop where
  room   : c.cursor ≤ code.size + 2
  opened : ∀ s ∈ c.opened, s < c.cursor ∧ s < code.size

theorem valid_start (code : Code) : start.Valid code where
  room   := by simp [start]
  opened := nofun

theorem Valid.next {extended : Bool} {code : Code} {c : Control} (h : c.Valid code)
    (hc : c.cursor < code.size) : (c.next extended code).Valid code := by
  have hl := c.cursor_lt_next extended code
  have hu := c.next_cursor_le extended code
  refine { room := by omega, opened := fun s hs => ?_ }
  rcases opened_of_next hs with ho | rfl
  · have ⟨_, _⟩ := h.opened s ho
    omega
  · omega

-- A state stands where a control does.
structure Tracks (c : Control) (s : State) : Prop where
  cursor : s.cursor = c.cursor
  opened : s.runStart = c.opened

-- A digit is taken the way a control says.
structure Shows (extended : Bool) (code : Code) (c : Control) (d : Engine.Dispatch) : Prop where
  site   : d.site = ⟨c.cursor, c.digit code⟩
  before : c.Tracks d.before.state
  called : d.status.isSome = c.calls extended code
  closed : d.closed? = c.closes? code

-- What controls that close the given runs of binary digits leave behind in a state.
structure Leaves (extended : Bool) (code : Code) (cs : List Control) (spans : List Span)
    (s s' : State) : Prop where
  executed   : s'.executed = s.executed + cs.countP (calls extended code)
  binaryRuns : s'.binaryRuns = s.binaryRuns + spans.length
  conditions : s'.conditions = s.conditions.offer (cs.filterMap (frame? extended code))
  colour     : s'.colour = (cs.filterMap (colour? code)).getLast?.getD s.colour

namespace Leaves

variable {extended : Bool} {code : Code} {cs cs' : List Control} {spans spans' : List Span}
  {s s₁ s₂ : State}

theorem trans (h₁ : Leaves extended code cs spans s s₁) (h₂ : Leaves extended code cs' spans' s₁ s₂) :
    Leaves extended code (cs ++ cs') (spans ++ spans') s s₂ where
  executed   := by rw [h₂.executed, h₁.executed, List.countP_append, Nat.add_assoc]
  binaryRuns := by rw [h₂.binaryRuns, h₁.binaryRuns, List.length_append, Nat.add_assoc]
  conditions := by rw [h₂.conditions, h₁.conditions, List.filterMap_append, Bounded.offer_append]
  colour     := by
    rw [h₂.colour, h₁.colour, List.filterMap_append, List.getLast?_append]
    cases (cs'.filterMap (colour? code)).getLast? <;> rfl

theorem singleton {c : Control}
    (he : s₁.executed = s.executed + (c.calls extended code).toNat)
    (hb : s₁.binaryRuns = s.binaryRuns + (c.closes? code).toList.length)
    (hf : s₁.conditions = s.conditions.offer (c.frame? extended code).toList)
    (hl : s₁.colour = (c.colour? code).getD s.colour) :
    Leaves extended code [c] (c.closes? code).toList s s₁ where
  executed   := by
    rw [he]
    cases hc : c.calls extended code <;> simp [hc]
  binaryRuns := hb
  conditions := by
    rw [hf]
    cases hc : c.frame? extended code <;> simp [hc]
  colour     := by
    rw [hl]
    cases hc : c.colour? code <;> simp [hc]

theorem advance {m : Machine} (h : Leaves extended code cs spans s m.state) :
    Leaves extended code cs spans s (Engine.advance m).state :=
  ⟨h.executed, h.binaryRuns, h.conditions, h.colour⟩

-- Behind the last digit, all that is left to do is to close a run of binary digits.
theorem closing
    (hs : s₁ = { s with runStart := s₁.runStart, binaryRuns := s.binaryRuns + spans.length }) :
    Leaves extended code [] spans s s₁ where
  executed   := by rw [hs]; rfl
  binaryRuns := by rw [hs]
  conditions := by rw [hs]; rfl
  colour     := by rw [hs]; rfl

end Leaves

section

variable {extended : Bool} {env : Environment} {c : Control} {m after : Machine}

theorem Tracks.siteOf_eq (h : c.Tracks m.state) :
    Engine.siteOf env m = ⟨c.cursor, c.digit env.code⟩ := by
  simp [Engine.siteOf, digit, h.cursor]

theorem Tracks.closing?_eq (h : c.Tracks m.state) (hc : c.cursor < env.code.size) :
    Engine.closing? env m = c.closes? env.code := by
  unfold Engine.closing? closes?
  rw [h.siteOf_eq, h.opened, h.cursor, if_pos (by omega)]
  simp

theorem tracks_advance (hv : c.Valid env.code) (hc : after.state.cursor + 1 = c.cursor)
    (ho : after.state.runStart = c.opened) : c.Tracks (Engine.advance after).state where
  cursor := by
    have hr : c.cursor ≤ env.code.size + 2 := hv.room
    have hs : env.code.size ≤ 0x4000000000000000 := env.code.size_le
    rw [← hc]
    exact wrap64_eq_self (by omega) (by omega)
  opened := ho

theorem Valid.whole_of_closes? {span : Span} (hv : c.Valid env.code) (hc : c.cursor < env.code.size)
    (h : c.closes? env.code = some span) : Engine.Whole env span := by
  have ⟨_, ho, hp⟩ := closes?_eq_some_iff.mp h
  have ⟨hs, _⟩ := hv.opened _ ho
  exact ⟨by omega, by omega⟩

-- A control that leaves nothing behind but the position of the cursor and of the open run.
structure Quiet (extended : Bool) (code : Code) (c : Control) : Prop where
  calls  : c.calls extended code = false
  closes : c.closes? code = none
  frame  : c.frame? extended code = none
  colour : c.colour? code = none

theorem quiet_of_bit {code : Code} (hd : c.digit code = 0x30 ∨ c.digit code = 0x31) :
    c.Quiet extended code := by
  rcases hd with hd | hd
  all_goals constructor <;> simp [Control.calls, closes?, frame?, colour?, hd]

theorem quiet_of_not_isDigit {code : Code} (hd : Text.isDigit (c.digit code) = false) :
    c.Quiet extended code := by
  have hd' (d : UInt8) (h : Text.isDigit d = true) : c.digit code ≠ d := by
    rintro rfl
    exact Bool.false_ne_true (hd.symm.trans h)
  constructor
  case calls  => simp [Control.calls, hd' 0x32 rfl, hd]
  case closes => exact if_neg (hd' 0x32 rfl)
  case frame  => exact if_neg (hd' 0x35 rfl ·.right)
  case colour => exact if_neg (hd' 0x37 rfl ·.left)

theorem quiet_of_two {code : Code} (hd : c.digit code = 0x32) (ho : c.opened = none) :
    c.Quiet false code := by
  constructor <;> simp [Control.calls, closes?, frame?, colour?, hd, ho]

theorem Quiet.leaves {code : Code} {s s' : State} (hq : c.Quiet extended code)
    (he : s'.executed = s.executed) (hb : s'.binaryRuns = s.binaryRuns)
    (hf : s'.conditions = s.conditions) (hl : s'.colour = s.colour) :
    Leaves extended code [c] (c.closes? code).toList s s' :=
  .singleton (by simp [hq.calls, he]) (by simp [hq.closes, hb]) (by simp [hq.frame, hf])
    (by simp [hq.colour, hl])

-- A step of the engine goes along with a control: no fault stops it, the digit is taken the way the
-- control says, and the machine stands where the next control does.
structure Follows (extended : Bool) (env : Environment) (c : Control) (m : Machine)
    (result : Machine × Except Fault Engine.Outcome) : Prop where
  shows  : ∃ outcome, result.2 = .ok outcome ∧
    c.Shows extended env.code ⟨Engine.siteOf env m, outcome, m, result.1⟩
  leaves : Leaves extended env.code [c] (c.closes? env.code).toList m.state result.1.state
  next   : (c.next extended env.code).Tracks (Engine.advance result.1).state

theorem next_of_not_isDigit {code : Code} (hd : Text.isDigit (c.digit code) = false) :
    c.next extended code = ⟨c.cursor + 1, c.opened⟩ := by
  unfold Control.next
  grind [Text.isDigit]

theorem next_of_calls {code : Code} (h : c.calls extended code = true) :
    c.next extended code
      = ⟨c.cursor + (if c.digit code = 0x32 then 2
          else if extended ∧ c.digit code = 0x35 ∧ ¬ Test.holdsAt c.cursor then 1
          else 0) + 1, c.opened⟩ := by
  unfold Control.next
  unfold Control.calls at h
  cases ho : c.opened <;> grind

theorem calls_of_table {code : Code} {h : Handler}
    (hd : Text.isDigit (c.digit code) = true) (hb : c.digit code ≠ 0x30 ∧ c.digit code ≠ 0x31)
    (hc : c.closes? code = none) (ht : Library.table extended (c.digit code) = some h) :
    c.calls extended code = true := by
  have h₂ := Library.two_of_binds (Library.binds_of_table ht)
  grind [Control.calls, opened_eq_none_of_closes? hc]

theorem Tracks.cursor_next (h : c.Tracks m.state) (hc : c.calls extended env.code = true) :
    (c.next extended env.code).cursor
      = c.cursor + (Library.effectAt extended env m).skipped + 1 := by
  rw [next_of_calls hc, Library.effectAt, Library.effect_skipped, h.siteOf_eq]

theorem step_fault (hw : 0 ≤ env.terminal.width ∨ c.digit env.code ≠ 0x37) (hv : c.Valid env.code)
    (hc : c.cursor < env.code.size) (ht : c.Tracks m.state) :
    fault? (Engine.step (Library.table extended) env m).2 = none := by
  have hp : (Engine.siteOf env m).position = c.cursor := by rw [ht.siteOf_eq]
  have hg : (Engine.siteOf env m).digit = c.digit env.code := by rw [ht.siteOf_eq]
  have hk := Engine.step_taken (Library.table extended) env m
  generalize Engine.step (Library.table extended) env m = result at hk ⊢
  cases hk
  case broken hcl hwh _ _ =>
    rw [ht.closing?_eq hc] at hcl
    exact absurd (hv.whole_of_closes? hc hcl) hwh
  case stopped htb hans _ _ =>
    have hf := (Library.handed_describes htb).fault
    rw [hans, Library.effectAt, Library.effect_fault _ _ _ _ _ _ (by omega) (hg ▸ hw)] at hf
    exact hf
  all_goals rfl

theorem step_follows (hf : fault? (Engine.step (Library.table extended) env m).2 = none)
    (hv : c.Valid env.code) (hc : c.cursor < env.code.size) (ht : c.Tracks m.state) :
    Follows extended env c m (Engine.step (Library.table extended) env m) := by
  have hn : (c.next extended env.code).Valid env.code := hv.next hc
  have hs : Engine.siteOf env m = ⟨c.cursor, c.digit env.code⟩ := ht.siteOf_eq
  have hp : (Engine.siteOf env m).position = c.cursor := by rw [hs]
  have hg : (Engine.siteOf env m).digit = c.digit env.code := by rw [hs]
  have hk := Engine.step_taken (Library.table extended) env m
  generalize Engine.step (Library.table extended) env m = result at hf hk ⊢
  cases hk
  case bit after hd hst hco =>
    rw [hg] at hd
    have hx : c.next extended env.code = ⟨c.cursor + 1, some (c.opened.getD c.cursor)⟩ := if_pos hd
    have hu : c.Quiet extended env.code := quiet_of_bit hd
    refine
      { shows  := ⟨_, rfl, hs, ht, hu.calls.symm, hu.closes.symm⟩
        leaves := hu.leaves (by rw [hst]) (by rw [hst]) (by rw [hst]) (by rw [hst])
        next   := tracks_advance hn ?_ ?_ }
    · rw [hst, hx, ht.cursor]
      rfl
    · rw [hst, hx, ht.opened, ht.cursor]
      cases c.opened <;> rfl
  case close after span hb hcl hwh hst hco =>
    rw [ht.closing?_eq hc] at hcl
    have ⟨hd, ho, _⟩ := closes?_eq_some_iff.mp hcl
    have hx : c.next extended env.code = ⟨c.cursor + 1, none⟩ := by simp [Control.next, hd, ho]
    refine
      { shows  := ⟨_, rfl, hs, ht, ?_, hcl.symm⟩
        leaves := .singleton ?_ ?_ ?_ ?_
        next   := tracks_advance hn ?_ ?_ }
    all_goals
      simp [hst, hx, ht.cursor, hcl, Control.calls, frame?, colour?, hd, ho, Engine.Dispatch.status]
  case broken hcl hwh hst hco =>
    rw [ht.closing?_eq hc] at hcl
    exact absurd (hv.whole_of_closes? hc hcl) hwh
  case unknown after hb hcl hd hst hco =>
    rw [hg] at hd
    have hx : c.next extended env.code = ⟨c.cursor + 1, c.opened⟩ := next_of_not_isDigit hd
    have hu : c.Quiet extended env.code := quiet_of_not_isDigit hd
    refine
      { shows  := ⟨_, rfl, hs, ht, hu.calls.symm, hu.closes.symm⟩
        leaves := hu.leaves (by rw [hst]) (by rw [hst]) (by rw [hst]) (by rw [hst])
        next   := tracks_advance hn ?_ ?_ }
    all_goals simp [hst, hx, ht.cursor, ht.opened]
  case unbound after hb hcl hd htb hst hco =>
    rw [ht.closing?_eq hc] at hcl
    rw [hg] at hb hd htb
    have ⟨hd₂, hex⟩ := Library.two_of_table_eq_none hd hb htb
    subst hex
    have ho := opened_eq_none_of_closes? hcl hd₂
    have hx : c.next false env.code = ⟨c.cursor + 1, none⟩ := by simp [Control.next, hd₂, ho]
    have hu : c.Quiet false env.code := quiet_of_two hd₂ ho
    refine
      { shows  := ⟨_, rfl, hs, ht, hu.calls.symm, hu.closes.symm⟩
        leaves := hu.leaves (by rw [hst]) (by rw [hst]) (by rw [hst]) (by rw [hst])
        next   := tracks_advance hn ?_ ?_ }
    all_goals simp [hst, hx, ht.cursor, ht.opened, ho]
  case called after h status hb hcl hd htb hans hst hco =>
    rw [ht.closing?_eq hc] at hcl
    have hr := Library.handed_state htb hst
    rw [hg] at hb hd htb
    have hca : c.calls extended env.code = true := calls_of_table hd hb hcl htb
    have hsk := ht.cursor_next hca
    refine
      { shows  := ⟨_, rfl, hs, ht, hca.symm, hcl.symm⟩
        leaves := .singleton ?_ ?_ ?_ ?_
        next   := tracks_advance hn ?_ ?_ }
    · rw [hr, hca]
      rfl
    · rw [hr, hcl]
      rfl
    · rw [hr, Effect.apply, Library.effectAt, Library.effect_pushed, hp, hg, frame?]
      split <;> rfl
    · rw [hr, Effect.apply, Library.effectAt, Library.effect_colour, hp, hg, colour?_eq]
    · have hm := hn.room
      have hz : env.code.size ≤ 0x4000000000000000 := env.code.size_le
      rw [hr, Effect.apply]
      simp only
      rw [State.skip_cursor_eq_add] <;> rw [ht.cursor] <;> omega
    · rw [hr, next_of_calls hca, ← ht.opened]
      rfl
  case stopped => cases hf

-- A run goes along with the path of a control.
structure Completes (extended : Bool) (env : Environment) (c : Control) (m : Machine)
    (r : Engine.Run) : Prop where
  ending   : r.ending = .finished
  shows    : List.Forall₂ (Shows extended env.code) (c.path extended env.code) r.dispatches
  trailing : r.trailing = c.trailing? extended env.code
  leaves   : Leaves extended env.code (c.path extended env.code) (c.spans extended env.code)
    m.state r.machine.state
  cursor   : r.machine.state.cursor = (c.final extended env.code).cursor

theorem finish_completes (hv : c.Valid env.code) (hc : ¬ c.cursor < env.code.size)
    (ht : c.Tracks m.state) : Completes extended env c m (Engine.finish env m) := by
  have hp : c.path extended env.code = [] := path_of_not_lt hc
  have hl : c.final extended env.code = c := final_of_not_lt hc
  have hq : Engine.closing? env m = c.trailing? extended env.code := by
    unfold Engine.closing? trailing?
    rw [ht.cursor, ht.opened, if_neg (by omega), hl]
  have hs : c.spans extended env.code = (c.trailing? extended env.code).toList := by rw [spans, hp]; rfl
  have hk := Engine.finish_finished env m
  generalize Engine.finish env m = r at hk ⊢
  cases hk
  case none hcl =>
    rw [hq] at hcl
    exact
      { ending   := rfl
        shows    := hp ▸ .nil
        trailing := hcl.symm
        leaves   := by rw [hp, hs, hcl]; exact .closing rfl
        cursor   := by rw [hl]; exact ht.cursor }
  case close after span hcl _ hst _ =>
    rw [hq] at hcl
    exact
      { ending   := rfl
        shows    := hp ▸ .nil
        trailing := hcl.symm
        leaves   := by rw [hp, hs, hcl]; exact .closing (by rw [hst]; rfl)
        cursor   := by rw [hl, hst]; exact ht.cursor }
  case broken after span hcl hwh _ _ =>
    rw [hq] at hcl
    have ⟨s, ho, hsp⟩ := Option.map_eq_some_iff.mp hcl
    have ⟨_, hlt⟩ := hv.opened s (hl ▸ ho)
    subst hsp
    exact absurd ⟨Nat.le_of_lt hlt, Nat.le_refl _⟩ hwh

theorem Follows.completes {result : Machine × Except Fault Engine.Outcome} {outcome : Engine.Outcome}
    {r : Engine.Run} (hf : Follows extended env c m result) (hc : c.cursor < env.code.size)
    (ho : result.2 = .ok outcome)
    (hr : Completes extended env (c.next extended env.code) (Engine.advance result.1) r) :
    Completes extended env c m
      { r with dispatches := ⟨Engine.siteOf env m, outcome, m, result.1⟩ :: r.dispatches } := by
  have ⟨_, ho', hsh⟩ := hf.shows
  cases ho.symm.trans ho'
  exact
    { ending   := hr.ending
      shows    := path_of_lt hc ▸ .cons hsh hr.shows
      trailing := by rw [hr.trailing, trailing?, trailing?, final_of_lt hc]
      leaves   := by rw [path_of_lt hc, spans_of_lt hc]; exact hf.leaves.advance.trans hr.leaves
      cursor   := final_of_lt hc ▸ hr.cursor }

-- Any run that comes to its end goes along with the path of a control.
theorem completes_of_finished {r : Engine.Run} (hr : Engine.Runs (Library.table extended) env m r)
    (hf : r.ending = .finished) (hv : c.Valid env.code) (ht : c.Tracks m.state) :
    Completes extended env c m r := by
  induction hr generalizing c
  case finish m hb => exact finish_completes hv (by rw [ht.cursor] at hb; omega) ht
  case crash => cases hf
  case step m after outcome r hc hs _ hi =>
    have hc : c.cursor < env.code.size := by rw [ht.cursor] at hc; omega
    have hfo : Follows extended env c m (Engine.step (Library.table extended) env m) :=
      step_follows (by rw [hs]; rfl) hv hc ht
    rw [hs] at hfo
    exact hfo.completes hc rfl (hi hf (hv.next hc) hfo.next)

theorem exists_completes_of (hw : 0 ≤ env.terminal.width ∨ 0x37 ∉ env.code.toList)
    (hv : c.Valid env.code) (ht : c.Tracks m.state) :
    ∃ r, Engine.Runs (Library.table extended) env m r ∧ Completes extended env c m r := by
  induction hn : env.code.size - c.cursor using Nat.strongRecOn generalizing c m
  case ind n hi =>
    by_cases hc : c.cursor < env.code.size
    case neg =>
      exact ⟨_, .finish (by rw [ht.cursor]; omega), finish_completes hv hc ht⟩
    case pos =>
      have hd : 0x37 ∉ env.code.toList → c.digit env.code ≠ 0x37 := by
        intro hd he
        cases ha : env.code.at? c.cursor
        case none   => simp [digit, ha] at he
        case some b =>
          rw [digit, ha] at he
          exact hd (he ▸ Code.mem_of_at? ha)
      have hf : Follows extended env c m _ :=
        step_follows (step_fault (hw.imp_right hd) hv hc ht) hv hc ht
      have ⟨outcome, ho, _⟩ := hf.shows
      have hlt := c.cursor_lt_next extended env.code
      have ⟨r, hr, hco⟩ := hi _ (by omega) (hv.next hc) hf.next rfl
      exact ⟨_, .step (by rw [ht.cursor]; omega) (Prod.ext rfl ho) hr, hf.completes hc ho hco⟩

theorem exists_completes (hw : 0 ≤ env.terminal.width) (hv : c.Valid env.code) (ht : c.Tracks m.state) :
    ∃ r, Engine.Runs (Library.table extended) env m r ∧ Completes extended env c m r :=
  exists_completes_of (.inl hw) hv ht

theorem Completes.closed_eq {r : Engine.Run} (h : Completes extended env c m r) :
    r.closed = c.spans extended env.code := by
  have hd {cs : List Control} {ds : List Engine.Dispatch}
      (h : List.Forall₂ (Shows extended env.code) cs ds) :
      ds.filterMap Engine.Dispatch.closed? = cs.filterMap (closes? env.code) := by
    induction h
    case nil              => rfl
    case cons hs _ hi => simp only [List.filterMap_cons, hs.closed, hi]
  rw [Engine.Run.closed, spans, hd h.shows, h.trailing]

theorem Completes.exists_shows {r : Engine.Run} (h : Completes extended env c m r)
    {d : Engine.Dispatch} (hd : d ∈ r.dispatches) :
    ∃ c' ∈ c.path extended env.code, c'.Shows extended env.code d := by
  have hs := h.shows
  generalize c.path extended env.code = cs at hs
  generalize r.dispatches = ds at hs hd
  induction hs
  case nil => cases hd
  case cons c' d' _ _ hs _ hi =>
    rcases List.mem_cons.mp hd with rfl | hd
    · exact ⟨c', List.mem_cons_self, hs⟩
    · have ⟨c'', hc, hs⟩ := hi hd
      exact ⟨c'', List.mem_cons_of_mem c' hc, hs⟩

theorem Valid.final_cursor (hv : c.Valid env.code) :
    env.code.size ≤ (c.final extended env.code).cursor ∧
      (c.final extended env.code).cursor ≤ env.code.size + 2 := by
  induction hn : env.code.size - c.cursor using Nat.strongRecOn generalizing c
  case ind n hi =>
    rw [final]
    split
    case isFalse hc => exact ⟨by omega, hv.room⟩
    case isTrue hc =>
      have hlt := c.cursor_lt_next extended env.code
      exact hi _ (by omega) (hv.next hc) rfl

end

-- The runs of a library go along with the path of the control that starts at the first digit. So
-- which digits are taken, which handlers are called, which runs of binary digits are closed, and
-- the frames, the colour and the cursor at the end are given by the code and the library, whatever
-- the settings, the input, the random draws, the time, the reporter and the archive are. The
-- settings only limit the number of frames that are kept.
theorem library_run_follows (extended : Bool) (env : Environment) (world : World)
    (hw : 0 ≤ env.terminal.width) :
    let r     := Engine.run (Library.table extended) env ⟨State.start env.settings, world⟩
    let path  := start.path extended env.code
    let spans := start.spans extended env.code
    let final := start.final extended env.code
    let depth := if env.settings.maxConditions ≤ 0 then Settings.defaultConditions
      else env.settings.maxConditions.toNat
    r.ending = .finished ∧
      List.Forall₂ (Shows extended env.code) path r.dispatches ∧
      r.closed = spans ∧
      r.machine.state.binaryRuns = spans.length ∧
      r.machine.state.executed = path.countP (calls extended env.code) ∧
      r.machine.state.conditions.toList = (path.filterMap (frame? extended env.code)).take depth ∧
      r.machine.state.colour = (path.filterMap (colour? env.code)).getLast?.getD Colour.plain ∧
      r.machine.state.cursor = final.cursor ∧
      env.code.size ≤ final.cursor ∧ final.cursor ≤ env.code.size + 2 := by
  have hv := valid_start env.code
  have ht : start.Tracks (State.start env.settings) := ⟨rfl, rfl⟩
  have ⟨r, hr, h⟩ : ∃ r,
      Engine.Runs (Library.table extended) env ⟨State.start env.settings, world⟩ r ∧
      Completes extended env start ⟨State.start env.settings, world⟩ r :=
    exists_completes hw hv ht
  have hl := h.leaves
  have ⟨hl₁, hl₂⟩ : env.code.size ≤ (start.final extended env.code).cursor ∧ _ := hv.final_cursor
  rw [hr.run_eq]
  refine ⟨h.ending, h.shows, h.closed_eq, ?_, ?_, ?_, hl.colour, h.cursor, hl₁, hl₂⟩
  · rw [hl.binaryRuns]
    exact Nat.zero_add _
  · rw [hl.executed]
    exact Nat.zero_add _
  · rw [hl.conditions, Bounded.toList_offer]
    rfl

-- In `50122010`, the loop at position four skips a digit that would open a run.
theorem library_run_follows_over_opener :
    let env := Environment.plain (Code.ofArray #[0x35, 0x30, 0x31, 0x32, 0x32, 0x30, 0x31, 0x30]) {}
    let r   := Engine.run (Library.table true) env ⟨State.start env.settings, default⟩
    0 ≤ env.terminal.width ∧ r.closed = [⟨1, 3⟩, ⟨7, 8⟩] ∧ r.machine.state.executed = 2 ∧
      r.machine.state.conditions.toList = [⟨0, true⟩] ∧ r.machine.state.cursor = 8 := by
  intro env r
  have hw : 0 ≤ env.terminal.width := by decide
  have ⟨_, _, hc, _, he, hf, _, hp, _⟩ := library_run_follows true env default hw
  exact ⟨hw, hc.trans (by decide +kernel), he.trans (by decide +kernel),
    hf.trans (by decide +kernel), hp.trans (by decide +kernel)⟩

end Control
end Denary
