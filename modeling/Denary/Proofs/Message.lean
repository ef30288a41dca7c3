import Denary.Proofs.Program
import Denary.Proofs.Segments

namespace Denary

namespace Bits

variable {t xs : Bytes}

-- The characters that survive as binary digits.
def Printable (t : Bytes) : Prop :=
  ∀ b ∈ t, 32 ≤ b ∧ b ≤ 126

instance (t : Bytes) : Decidable (Printable t) :=
  List.decidableBAll (fun b => 32 ≤ b ∧ b ≤ 126) t

theorem valueOf_concat (xs : Bytes) (d : UInt8) :
    valueOf (xs ++ [d]) = 2 * valueOf xs + if d = one then 1 else 0 := by
  simp [valueOf]

theorem length_digits (width n : Nat) : (digits width n).length = width := by
  induction width generalizing n
  case zero      => rfl
  case succ w hi => simp [digits, hi]

theorem isBit_of_mem_digits {width n : Nat} {b : UInt8} (hb : b ∈ digits width n) :
    isBit b = true := by
  induction width generalizing n
  case zero => cases hb
  case succ w hi =>
    rcases List.mem_append.mp hb with hb | hb
    · exact hi hb
    · rw [List.mem_singleton.mp hb]
      split <;> rfl

theorem valueOf_digits (width n : Nat) : valueOf (digits width n) = n % Nat.pow 2 width := by
  induction width generalizing n
  case zero => simp [digits, valueOf, Nat.mod_one]
  case succ w hi =>
    have hm : n % Nat.pow 2 (w + 1) = 2 * (n / 2 % Nat.pow 2 w) + n % 2 := by
      have hp : Nat.pow 2 (w + 1) = 2 * Nat.pow 2 w := Nat.mul_comm ..
      rw [hp, Nat.mod_mul, Nat.add_comm]
    have hd : (if (if n % 2 = 1 then one else zero) = one then 1 else 0) = n % 2 := by
      rcases Nat.mod_two_eq_zero_or_one n with h | h <;> rw [h] <;> rfl
    rw [digits, valueOf_concat, hi, hd, hm]

theorem decode_append (h : xs.length = 8) (rest : Bytes) :
    decode (xs ++ rest) = shown (valueOf xs) ++ decode rest := by
  match xs, h with
  | [_, _, _, _, _, _, _, _], _ => rfl

theorem shown_toNat {b : UInt8} (hb : 32 ≤ b ∧ b ≤ 126) : shown b.toNat = [b] := by
  have h₁ : 32 ≤ b.toNat := UInt8.le_iff_toNat_le.mp hb.left
  have h₂ : b.toNat ≤ 126 := UInt8.le_iff_toNat_le.mp hb.right
  simp [shown, h₁, h₂]

theorem decode_encode (ht : Printable t) : decode (encode t) = t := by
  induction t
  case nil => rfl
  case cons b t hi =>
    have hv : valueOf (digits 8 b.toNat) = b.toNat := by
      rw [valueOf_digits]
      exact Nat.mod_eq_of_lt b.toNat_lt
    have hi := hi fun b' hb' => ht b' (List.mem_cons_of_mem b hb')
    rw [encode, List.flatMap_cons, decode_append (length_digits ..), hv,
      shown_toNat (ht b List.mem_cons_self), ← encode, hi]
    rfl

theorem length_encode (t : Bytes) : (encode t).length = 8 * t.length := by
  induction t
  case nil => rfl
  case cons b t hi =>
    rw [encode, List.flatMap_cons, List.length_append, length_digits, ← encode, hi,
      List.length_cons]
    omega

theorem isBit_of_mem_encode {b : UInt8} (hb : b ∈ encode t) : isBit b = true := by
  have ⟨_, _, hb⟩ := List.mem_flatMap.mp hb
  exact isBit_of_mem_digits hb

theorem encode_ne_nil (ht : t ≠ []) : encode t ≠ [] := by
  intro h
  have hl := length_encode t
  have hp := List.length_pos_iff.mpr ht
  rw [h, List.length_nil] at hl
  omega

theorem two_not_mem_encode (t : Bytes) : 0x32 ∉ encode t :=
  fun h => Bool.false_ne_true (isBit_of_mem_encode h)

theorem message?_nil : message? [] = none :=
  rfl

-- The code of a text is all one run of binary digits, from its first byte on.
theorem message?_encode (hn : t ≠ []) (ht : Printable t) : message? (encode t) = some t := by
  have ⟨b, bs, hb⟩ := List.exists_cons_of_ne_nil (encode_ne_nil hn)
  have h₁ : isBit b = true := isBit_of_mem_encode (hb ▸ List.mem_cons_self)
  have hd : (encode t).dropWhile (!isBit ·) = encode t := by
    rw [hb, List.dropWhile_cons_of_neg (by simp [h₁])]
  have ha : (encode t).any isBit = true := by rw [hb, List.any_cons, h₁, Bool.true_or]
  rw [message?, if_pos ha, hd, decode_encode ht]

-- Bytes that are binary digits throughout, but for twos that each end a run of them. One may have been
-- opened before.
def Closes (opened : Bool) : Bytes → Prop
  | []      => True
  | b :: bs => isBit b = true ∧ Closes true bs ∨ b = 0x32 ∧ opened = true ∧ Closes false bs

theorem closes_append (hx : ∀ b ∈ xs, isBit b = true) {opened : Bool} {bs : Bytes}
    (hb : Closes (opened || !xs.isEmpty) bs) : Closes opened (xs ++ bs) := by
  induction xs generalizing opened
  case nil => simpa using hb
  case cons x xs hi =>
    refine .inl ⟨hx x List.mem_cons_self, hi (fun b h => hx b (List.mem_cons_of_mem x h)) ?_⟩
    simpa using hb

theorem mem_of_closes {opened : Bool} {bs : Bytes} (h : Closes opened bs) {b : UInt8} (hb : b ∈ bs) :
    isBit b = true ∨ b = 0x32 := by
  induction bs generalizing opened
  case nil => cases hb
  case cons b' bs hi =>
    rcases h with ⟨hb', h⟩ | ⟨hb', _, h⟩
    all_goals rcases List.mem_cons.mp hb with rfl | hb
    · exact .inl hb'
    · exact hi h hb
    · exact .inr hb'
    · exact hi h hb

-- Texts as they are written into a program, one after another.
def written (texts : List Bytes) : Bytes :=
  texts.flatMap fun t => encode t ++ [0x32]

theorem closes_written {texts : List Bytes} (ht : ∀ t ∈ texts, t ≠ []) {bs : Bytes}
    (hb : Closes false bs) : Closes false (written texts ++ bs) := by
  induction texts
  case nil => exact hb
  case cons t ts hi =>
    have hi := hi fun t' h => ht t' (List.mem_cons_of_mem t h)
    have he : written (t :: ts) ++ bs = encode t ++ 0x32 :: (written ts ++ bs) := by simp [written]
    have hn : (encode t).isEmpty = false := by
      simpa using encode_ne_nil (ht t List.mem_cons_self)
    rw [he]
    exact closes_append (fun _ h => isBit_of_mem_encode h) (.inr ⟨rfl, by simp [hn], hi⟩)

theorem splitOn_written (texts : List Bytes) {bs : Bytes} (hb : 0x32 ∉ bs) :
    (written texts ++ bs).splitOn 0x32 = texts.map encode ++ [bs] := by
  induction texts
  case nil          => exact List.splitOn_eq_singleton hb
  case cons t ts hi =>
    have he : written (t :: ts) ++ bs = encode t ++ 0x32 :: (written ts ++ bs) := by simp [written]
    rw [he, List.splitOn_append_cons_self_of_not_mem (two_not_mem_encode t), hi]
    rfl

theorem messages_written {texts : List Bytes} (ht : ∀ t ∈ texts, t ≠ [] ∧ Printable t) {bs : Bytes}
    (hb : 0x32 ∉ bs) {code : Code} (hc : code.toList = written texts ++ bs) :
    code.messages = texts ++ (message? bs).toList := by
  have hm : (texts.map encode).filterMap message? = texts := by
    have he : ∀ t ∈ texts, (message? ∘ encode) t = some t :=
      fun t h => message?_encode (ht t h).left (ht t h).right
    rw [List.filterMap_map, List.filterMap_congr he, List.filterMap_some]
  have hl : [bs].filterMap message? = (message? bs).toList := by
    cases h : message? bs <;> simp [h]
  rw [Code.messages, hc, splitOn_written texts hb, List.filterMap_append, hm, hl]

-- Without the two at its end, the last text is still one run of binary digits.
theorem dropLast_written (texts : List Bytes) (t : Bytes) :
    (written (texts ++ [t])).dropLast = written texts ++ encode t := by
  have he : written (texts ++ [t]) = (written texts ++ encode t) ++ [0x32] := by simp [written]
  rw [he, List.dropLast_concat]

theorem length_written (texts : List Bytes) :
    (written texts).length = 8 * texts.flatten.length + texts.length := by
  induction texts
  case nil => rfl
  case cons t ts hi =>
    have he : written (t :: ts) = encode t ++ [0x32] ++ written ts := rfl
    rw [he, List.length_append, List.length_append, length_encode, hi]
    simp only [List.flatten_cons, List.length_append, List.length_cons, List.length_nil]
    omega

end Bits
namespace Control

variable {extended : Bool} {code : Code} {c : Control} {p : Nat} {opened : Option Nat} {bs : Bytes}

-- A control that has nothing to do but to go on with a run of binary digits, or to close it.
def Binary (code : Code) (c : Control) : Prop :=
  Bits.isBit (c.digit code) = true ∨ (c.closes? code).isSome = true

-- A path that stays within runs of binary digits. It is the same in both libraries.
structure Plain (extended : Bool) (code : Code) (c : Control) : Prop where
  binary : ∀ c' ∈ c.path extended code, c'.Binary code
  spans  : c.spans extended code = c.spans false code
  final  : (c.final extended code).cursor = code.size

theorem next_of_closes? (h : (c.closes? code).isSome = true) :
    c.next extended code = ⟨c.cursor + 1, none⟩ := by
  have ⟨span, hs⟩ := Option.isSome_iff_exists.mp h
  have ⟨hd, ho, _⟩ := closes?_eq_some_iff.mp hs
  simp [next, hd, ho]

theorem Binary.next_eq (h : c.Binary code) : c.next extended code = c.next false code := by
  rcases h with h | h
  · rw [next_of_isBit extended h, next_of_isBit false h]
  · rw [next_of_closes? h, next_of_closes? h]

theorem Plain.cons (hb : c.Binary code) (hc : c.cursor < code.size)
    (h : Plain extended code (c.next extended code)) : Plain extended code c where
  binary := by
    rw [path_of_lt hc]
    exact List.forall_mem_cons.mpr ⟨hb, h.binary⟩
  spans  := by rw [spans_of_lt hc, spans_of_lt hc, h.spans, hb.next_eq]
  final  := by rw [final_of_lt hc, h.final]

theorem plain_of_closes (hp : p ≤ code.size) (h : code.toList.drop p = bs)
    (hb : Bits.Closes opened.isSome bs) : Plain extended code ⟨p, opened⟩ := by
  induction bs generalizing p opened
  case nil =>
    have hz : p = code.size := Nat.le_antisymm hp (List.drop_eq_nil_iff.mp h)
    have hc : ¬ p < code.size := by omega
    exact
      { binary := by rw [path_of_not_lt hc]; exact nofun
        spans  := by rw [spans_of_not_lt hc, spans_of_not_lt hc]
        final  := by rw [final_of_not_lt hc]; exact hz }
  case cons b bs hi =>
    have hc : p < code.size := lt_of_drop h
    have hd : digit code ⟨p, opened⟩ = b := digit_of_drop h
    rcases hb with ⟨hb, hr⟩ | ⟨rfl, ho, hr⟩
    · have hbit : Bits.isBit (digit code ⟨p, opened⟩) = true := hd ▸ hb
      refine .cons (.inl hbit) hc ?_
      rw [next_of_isBit extended hbit]
      exact hi hc (drop_succ h) hr
    · have hcl : (closes? code ⟨p, opened⟩).isSome = true := by
        rw [closes?, if_pos hd, Option.isSome_map]
        exact ho
      refine .cons (.inr hcl) hc ?_
      rw [next_of_closes? hcl]
      exact hi hc (drop_succ h) hr

end Control

namespace Engine

-- A digit that belongs to a run of binary digits, or closes one.
def Dispatch.Binary (d : Dispatch) : Prop :=
  d.outcome = .collected ∨ ∃ span, d.outcome = .closed span

variable {t : Table} {env : Environment} {m : Machine} {r : Run}

theorem Dispatch.Binary.status_eq {d : Dispatch} (h : d.Binary) : d.status = none := by
  rcases h with h | ⟨_, h⟩ <;> rw [status, h]

theorem finish_state :
    (finish env m).machine.state
      = { m.state with
          runStart   := (finish env m).machine.state.runStart
          binaryRuns := (finish env m).machine.state.binaryRuns } := by
  have h := finish_finished env m
  generalize finish env m = r at h ⊢
  cases h
  case none             => rfl
  case close _ _ hst _  => rw [hst]
  case broken _ _ hst _ => rw [hst]

-- Runs of binary digits leave nothing behind but their number.
theorem Runs.state_of_binary (h : Runs t env m r) (hf : r.ending = .finished)
    (hb : ∀ d ∈ r.dispatches, d.Binary) :
    r.machine.state = { m.state with
      cursor     := r.machine.state.cursor
      runStart   := r.machine.state.runStart
      binaryRuns := r.machine.state.binaryRuns } := by
  induction h
  case finish m _ =>
    rw [finish_state]
  case crash => cases hf
  case step m after outcome r hc hs _ hi =>
    have ⟨hd, hb⟩ := List.forall_mem_cons.mp hb
    have ha : after.state = { m.state with
        cursor     := after.state.cursor
        runStart   := after.state.runStart
        binaryRuns := after.state.binaryRuns } := by
      cases step_ok_taken t env m hs
      case bit _ hst _     => rw [hst]
      case close _ _ hst _ => rw [hst]
      all_goals rcases hd with hd | ⟨_, hd⟩ <;> cases hd
    have hr := hi hf hb
    rw [advance, ha] at hr
    exact hr

end Engine

namespace Library

variable {extended : Bool} {env : Environment} {m : Machine} {r : Engine.Run}

theorem warned_transcript {d : Engine.Dispatch} (h : Engine.Runs (table extended) env m r)
    (hd : d ∈ r.dispatches) (hb : d.Binary) : (transcript extended env d.before).warned = [] := by
  have ⟨_, _, ht⟩ := h.taken_of_mem hd
  have ho := (step_transcript extended env d.before).outcome d.outcome (by rw [ht])
  unfold Engine.Dispatch.Binary at hb
  rw [ho] at hb
  unfold transcript at hb ⊢
  repeat' split
  all_goals first | rfl | simp_all

theorem warned_remarks (h : Engine.Runs (table extended) env m r)
    (hb : ∀ d ∈ r.dispatches, d.Binary) : (remarks extended env r).warned = [] := by
  have hw (d) (hd : d ∈ r.dispatches) := warned_transcript h hd (hb d hd)
  unfold remarks
  generalize r.dispatches = ds at hw
  induction ds
  case nil => rfl
  case cons d ds hi =>
    rw [List.foldr_cons, Remarks.warned_append, hw d List.mem_cons_self,
      hi fun d' hd' => hw d' (List.mem_cons_of_mem d hd')]
    rfl

theorem binary_of_shows {c : Control} {d : Engine.Dispatch}
    (h : Engine.Runs (table extended) env m r) (hd : d ∈ r.dispatches)
    (hs : c.Shows extended env.code d) (hb : c.Binary env.code) : d.Binary := by
  rcases hb with hb | hb
  · have ⟨hsite, _, ht⟩ := h.taken_of_mem hd
    have hg :
        (Engine.siteOf env d.before).digit = 0x30 ∨ (Engine.siteOf env d.before).digit = 0x31 := by
      rw [← hsite, hs.site]
      simpa [Bits.isBit, Bits.zero, Bits.one] using hb
    have ho := (step_transcript extended env d.before).outcome d.outcome (by rw [ht])
    rw [transcript, if_pos hg] at ho
    exact .inl ho
  · rw [← hs.closed] at hb
    unfold Engine.Dispatch.closed? at hb
    split at hb
    case h_1 span ho => exact .inr ⟨span, ho⟩
    case h_2         => cases hb

end Library

namespace Interpreter

-- An execution that prints texts and does nothing else. Its code is of the given length.
structure Execution.Tells (i : Interpreter) (texts : List Bytes) (length : Nat) (e : Execution) :
    Prop where
  ending     : e.run.ending = .finished
  output     : e.interpreter.world.output = i.world.output ++ texts.flatMap Text.line
  warnings   : e.interpreter.world.warnings = i.world.warnings
  uncalled   : ∀ d ∈ e.run.dispatches, d.status = none
  state      : e.state
    = { State.start i.settings with cursor := length, binaryRuns := texts.length }
  store      : e.state.store.toList = []
  conditions : e.state.conditions.toList = []

variable {i : Interpreter} {extended : Bool} {code : Code}

theorem execute_tells (hi : i.table = Library.table extended)
    (hc : i.world.console.colour = Colour.plain) (hb : Bits.Closes false code.toList) :
    (i.execute code).Tells i code.messages code.size := by
  have hn {d : UInt8} (hd : Bits.isBit d = false ∧ d ≠ 0x32) : d ∉ code.toList := by
    intro h
    rcases Bits.mem_of_closes hb h with h | h
    · exact Bool.false_ne_true (hd.left.symm.trans h)
    · exact hd.right h
  have h₇ : 0x37 ∉ code.toList := hn (by decide)
  have h₉ : 0x39 ∉ code.toList := hn (by decide)
  have hf : (i.execute code).run.ending = .finished := execute_ending hi (.inr h₇)
  have hr := execute_runs code hi
  have ht : Control.start.Tracks (i.machine code).state := ⟨rfl, rfl⟩
  have hco : Control.Completes extended (i.environment code) .start (i.machine code)
      (i.execute code).run :=
    Control.completes_of_finished hr hf (Control.valid_start code) ht
  have hp : Control.Plain extended code .start := Control.plain_of_closes (Nat.zero_le _) rfl hb
  have hd : ∀ d ∈ (i.execute code).run.dispatches, d.Binary := by
    intro d hd
    have ⟨c, hm, hs⟩ := hco.exists_shows hd
    exact Library.binary_of_shows hr hd hs (hp.binary c hm)
  have hcl : (i.execute code).run.closed = code.segments.filterMap Segment.run? := by
    rw [hco.closed_eq]
    exact hp.spans.trans (Control.spans_start_core code)
  have hl := code.forall₂_messages
  have ⟨hst, _, hw⟩ := execute_finished hf
  have hs : (i.execute code).state
      = { State.start i.settings with cursor := code.size, binaryRuns := code.messages.length } := by
    have hcu : (i.execute code).run.machine.state.cursor = code.size := by
      rw [hco.cursor]
      exact congrArg Nat.cast hp.final
    have hbr : (i.execute code).run.machine.state.binaryRuns = code.messages.length := by
      rw [hco.leaves.binaryRuns, ← hco.closed_eq, hcl, hl.length_eq]
      exact Nat.zero_add _
    rw [hst, hr.state_of_binary hf hd, hcu, hbr, Library.runStart_of_finished hr hf]
    rfl
  refine
    { ending     := hf
      output     := ?output
      warnings   := ?warnings
      uncalled   := fun d h => (hd d h).status_eq
      state      := hs
      store      := by rw [hs]; rfl
      conditions := by rw [hs]; rfl }
  case output =>
    rw [World.output_eq_flatten, World.output_eq_flatten, execute_printed hi h₇ h₉ hc,
      List.flatten_append, hcl, Code.flatten_spoken hl]
  case warnings =>
    have hm := (i.describes_machine code).warnings
    rw [hw, (Library.runs_describes hr hf).warnings, Library.warned_remarks hr hd, hm]
    simp

-- What is written behind the last two may be another text, or nothing.
theorem executeSource_tells (hi : i.table = Library.table extended)
    (hc : i.world.console.colour = Colour.plain) {texts : List Bytes}
    (ht : ∀ t ∈ texts, t ≠ [] ∧ Bits.Printable t) {bs : Bytes} (hb : ∀ b ∈ bs, Bits.isBit b = true)
    {source : Bytes} (hs : (Program.ofSource source).toList = Bits.written texts ++ bs) :
    (i.executeSource source).Tells i (texts ++ (Bits.message? bs).toList)
      (Program.ofSource source).size := by
  have h₂ : 0x32 ∉ bs := fun h => Bool.false_ne_true (hb 0x32 h)
  have hcl : Bits.Closes false (Program.ofSource source).toList := by
    have hbs : Bits.Closes false (bs ++ []) := Bits.closes_append hb trivial
    rw [List.append_nil] at hbs
    exact hs ▸ Bits.closes_written (fun t h => (ht t h).left) hbs
  have h := execute_tells hi hc hcl
  rwa [Bits.messages_written ht h₂ hs] at h

-- Printable texts get through the encoder, the loader, the engine of either library and the console.
-- They may be written with anything but digits in between, and the last two may be left out.
theorem texts_survive (hi : i.table = Library.table extended)
    (hc : i.world.console.colour = Colour.plain) {texts : List Bytes}
    (ht : ∀ t ∈ texts, t ≠ [] ∧ Bits.Printable t)
    (hn : 8 * texts.flatten.length + texts.length ≤ 9999) {source : Bytes}
    (hs : source.filter Text.isDigit = Bits.written texts) :
    (Program.ofSource source).size = 8 * texts.flatten.length + texts.length ∧
      (i.executeSource source).Tells i texts (Program.ofSource source).size ∧
      ∀ source', texts ≠ [] → source'.filter Text.isDigit = (Bits.written texts).dropLast →
        (Program.ofSource source').size + 1 = (Program.ofSource source).size ∧
        (i.executeSource source').Tells i texts (Program.ofSource source').size := by
  have hz (code : Code) : code.size = code.toList.length := rfl
  have hx : Program.maxLength = 9999 := rfl
  have hl := Bits.length_written texts
  have hw : (Program.ofSource source).toList = Bits.written texts :=
    Program.toList_ofSource_of_le hs (hl ▸ hn)
  refine ⟨by rw [hz, hw, hl], ?whole, fun source' hne hs' => ⟨?size, ?cut⟩⟩
  case whole =>
    have h := executeSource_tells hi hc ht (List.forall_mem_nil _) (hw.trans (List.append_nil _).symm)
    rwa [Bits.message?_nil, Option.toList_none, List.append_nil] at h
  case size =>
    have hp := List.length_pos_iff.mpr hne
    rw [hz, hz, hw, Program.toList_ofSource_of_le hs' (by rw [List.length_dropLast]; omega),
      List.length_dropLast]
    omega
  case cut =>
    obtain ⟨ts, t, rfl⟩ : ∃ ts t, texts = ts ++ [t] :=
      ⟨_, _, (List.dropLast_append_getLast hne).symm⟩
    have ⟨hts, htt⟩ := List.forall_mem_append.mp ht
    have ⟨hne, hp⟩ := htt t List.mem_cons_self
    have hw' : (Program.ofSource source').toList = Bits.written ts ++ Bits.encode t := by
      rw [Program.toList_ofSource_of_le hs' (by rw [List.length_dropLast]; omega),
        Bits.dropLast_written]
    have h := executeSource_tells hi hc hts (fun _ h => Bits.isBit_of_mem_encode h) hw'
    rwa [Bits.message?_encode hne hp] at h

-- The texts `a` and `b`, with blanks between some of their digits.
theorem texts_survive_two :
    let i      := start { extended := true } {} 0 default
    let source := ascii "0110 00012\n0110 0010 2"
    i.table = Library.table true ∧ i.world.console.colour = Colour.plain ∧
      source.filter Text.isDigit = Bits.written [ascii "a", ascii "b"] ∧
      (i.executeSource source).interpreter.world.output = i.world.output ++ ascii "a\nb\n" ∧
      (i.executeSource source).state.cursor = 18 := by
  intro i source
  have hi : i.table = Library.table true := start_table ..
  have hs : source.filter Text.isDigit = Bits.written [ascii "a", ascii "b"] := by decide
  have hc : i.world.console.colour = Colour.plain := rfl
  have ⟨hz, h, _⟩ := texts_survive hi hc (by decide) (by decide) hs
  exact ⟨hi, hc, hs, h.output, (congrArg State.cursor h.state).trans (congrArg Nat.cast hz)⟩

end Interpreter
end Denary
