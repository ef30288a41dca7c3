import Denary.Proofs.Bindings
import Denary.Proofs.Pieces
import Denary.Proofs.Program
import Denary.Proofs.Warnings

-- Programs that are loaded hold nothing but digits, so there is no byte in them that an engine does
-- not know. What it may not know is found before the first digit alone, where there is nothing, and no
-- handler takes the cursor there that moves it forward.

namespace Denary

-- The text of a warning that is given where a byte is not known.
def Record.IsUnknownDigit (r : Record) : Prop :=
  ascii "Unknown digit: " <+: r.message

-- A code that holds nothing but digits.
def Code.IsDecimal (code : Code) : Prop :=
  ∀ b ∈ code.toList, Text.isDigit b = true

theorem Program.isDecimal_ofSource (source : Bytes) : (ofSource source).IsDecimal := by
  intro b hb
  rw [toList_ofSource] at hb
  exact (List.mem_filter.mp (List.mem_of_mem_take hb)).right

theorem Text.ofByte_of_isDigit {b : UInt8} (hb : isDigit b = true) : ofByte b = [b] := by
  refine Piece.encodeChar_ofByte ?_
  simp only [isDigit, Bool.and_eq_true, decide_eq_true_eq, UInt8.le_iff_toNat_le,
    UInt8.reduceToNat] at hb
  omega

-- The warnings of handlers begin with the digit that they were bound to.
theorem Remarks.not_isUnknownDigit_warning {site : Site} (hd : Text.isDigit site.digit = true)
    (c : Category) (t : Bytes) : ¬ (warning site c t).IsUnknownDigit := by
  intro h
  have hm : (warning site c t).message
      = ascii "OPCODE " ++ Text.upper [site.digit] ++ ascii ": " ++ t := by
    unfold warning Journal.opcodeMessage
    rw [Text.ofByte_of_isDigit hd]
    rfl
  have hu : (warning site c t).message.head? = some 0x4F := by rw [hm]; rfl
  have ho : (ascii "Unknown digit: ").head? = some 0x55 := rfl
  rw [Record.IsUnknownDigit, List.prefix_iff_eq_append] at h
  rw [← h, List.head?_append, ho] at hu
  cases hu

theorem Library.Blames.not_isUnknownDigit {extended : Bool} {code : Code} {site : Site} {r : Record}
    (h : Blames extended code site r) (hc : code.IsDecimal)
    (hd : code.at? site.position = some site.digit) : ¬ r.IsUnknownDigit := by
  cases h
  case unknown hn =>
    rw [hc _ (Code.mem_of_at? hd)] at hn
    cases hn
  case own hs _      => exact Remarks.not_isUnknownDigit_warning hs _ _
  case nested _ hb _ => exact Remarks.not_isUnknownDigit_warning (hc _ (Code.mem_of_at? hb)) _ _

namespace Engine

variable {t : Table} {env : Environment} {m : Machine} {r : Run}

-- Whatever handlers are bound, a byte is not known only where the cursor was taken out of the code.
theorem outcome_ne_unknown (hc : env.code.IsDecimal) {d : Dispatch}
    (hd : d ∈ (run t env m).dispatches) (h₀ : 0 ≤ d.site.position) : d.outcome ≠ .unknown := by
  intro ho
  have ⟨hs, hi, ht⟩ := (runs_of_mem_run hd).taken_of_mem hd
  rw [hs] at h₀
  have ha := at?_siteOf h₀ hi
  rw [ho] at ht
  cases step_ok_taken t env d.before ht
  case unknown hn _ _ =>
    rw [hc _ (Code.mem_of_at? ha)] at hn
    cases hn

-- A digit moves the cursor forward.
def Dispatch.Ascends (d : Dispatch) : Prop :=
  d.site.position < (advance d.after).state.cursor

theorem Runs.cursor_le (h : Runs t env m r) (ha : ∀ d ∈ r.dispatches, d.Ascends) {d : Dispatch}
    (hd : d ∈ r.dispatches) : m.state.cursor ≤ d.site.position := by
  induction h
  case finish m _ =>
    rw [finish_dispatches] at hd
    cases hd
  case crash => cases hd
  case step hi =>
    have hf := ha _ List.mem_cons_self
    rcases List.mem_cons.mp hd with rfl | hd
    · exact Int.le_refl _
    · have hl := hi (fun d hd => ha d (List.mem_cons_of_mem _ hd)) hd
      exact Int.le_of_lt (Int.lt_of_lt_of_le hf hl)

end Engine

namespace Interpreter

variable {i : Interpreter} {code : Code}

-- All bytes that are taken are known. This is so whatever is bound, unless the cursor was taken back to
-- before the first digit. With a library it never is, and none of the warnings is about such a byte.
structure KnowsDigits (i : Interpreter) (e : Execution) : Prop where
  inside  : ∀ d ∈ e.run.dispatches, 0 ≤ d.site.position → d.outcome ≠ .unknown
  forward : (∀ d ∈ e.run.dispatches, d.Ascends) → ∀ d ∈ e.run.dispatches, d.outcome ≠ .unknown
  library : ∀ extended, i.table = Library.table extended →
    (∀ d ∈ e.run.dispatches, d.outcome ≠ .unknown) ∧
    ∃ written, e.interpreter.world.errors = i.world.errors ++ written ∧
      ∀ x ∈ written, ¬ x.record.IsUnknownDigit

theorem outcome_ne_unknown (i : Interpreter) (hc : code.IsDecimal) :
    ∀ d ∈ (i.execute code).run.dispatches, 0 ≤ d.site.position → d.outcome ≠ .unknown := by
  have hc : (i.environment code).code.IsDecimal := hc
  exact fun _ hd h₀ => Engine.outcome_ne_unknown hc hd h₀

theorem not_isUnknownDigit {extended : Bool} (hi : i.table = Library.table extended)
    (hc : code.IsDecimal) :
    ∃ written, (i.execute code).interpreter.world.errors = i.world.errors ++ written ∧
      ∀ x ∈ written, ¬ x.record.IsUnknownDigit := by
  have h := execute_runs code hi
  obtain ⟨ts, hs⟩ := execute_said code hi
  refine ⟨_, hs.errors, fun x hx => ?_⟩
  obtain ⟨r, hr, rfl⟩ := List.mem_map.mp hx
  rw [Remarks.warned_append, List.append_nil] at hr
  obtain ⟨d, hd, hr⟩ := List.mem_flatMap.mp hr
  have ⟨hsite, _, _⟩ := h.taken_of_mem hd
  have hb := Library.blames_transcript extended (i.environment code) d.before r hr
  rw [← hsite] at hb
  exact hb.not_isUnknownDigit hc (Library.at?_dispatch h (Engine.sound_start _) hd)

theorem knowsDigits_execute (i : Interpreter) (hc : code.IsDecimal) :
    i.KnowsDigits (i.execute code) := by
  have hk := i.outcome_ne_unknown hc
  refine ⟨hk, fun ha d hd => ?_, fun extended hi => ⟨fun d hd => ?_, not_isUnknownDigit hi hc⟩⟩
  · exact hk d hd ((Engine.runs_of_mem_run hd).cursor_le ha hd)
  · have hm : Engine.Sound (i.environment code) (i.machine code).state := Engine.sound_start _
    have hp := ((Library.forward hm).ascends (execute_runs code hi)).inside d hd
    exact hk d hd (Int.le_trans hm.cursor hp.left)

end Interpreter

namespace Program

theorem executeSource_congr {source source' : Bytes}
    (h : (source'.filter Text.isDigit).take maxLength = (source.filter Text.isDigit).take maxLength)
    (i : Interpreter) : i.executeSource source' = i.executeSource source := by
  have hc : ofSource source' = ofSource source := by
    refine Code.toList_injective ?_
    rw [toList_ofSource, toList_ofSource, h]
  rw [Interpreter.executeSource, hc, Interpreter.executeSource]

-- A failure may keep a program from being loaded, but never changes it.
theorem eq_ofSource_of_load {source : Bytes} {failure : Option Bytes} {code : Code}
    (h : load source failure = .ok code) : code = ofSource source := by
  by_cases hl : maxLength ≤ (source.filter Text.isDigit).length
  case pos =>
    rw [load_of_le hl] at h
    exact (Except.ok.inj h).symm
  case neg =>
    cases failure
    case none =>
      rw [load_eq_ofSource] at h
      exact (Except.ok.inj h).symm
    case some text =>
      rw [load_of_lt (Nat.lt_of_not_le hl)] at h
      cases h

theorem ofSource_toList {code : Code} (hc : code.IsDecimal) (hl : code.toList.length ≤ maxLength) :
    ofSource code.toList = code :=
  Code.toList_injective <| toList_ofSource_of_le (List.filter_eq_self.mpr hc) hl

-- What is loaded is loaded again as it is.
theorem load_toList {source : Bytes} {failure : Option Bytes} {code : Code}
    (h : load source failure = .ok code) : load code.toList none = .ok code := by
  obtain rfl := eq_ofSource_of_load h
  have hl : (ofSource source).toList.length ≤ maxLength := by
    rw [toList_ofSource]
    exact List.length_take_le ..
  rw [load_eq_ofSource, ofSource_toList (isDecimal_ofSource source) hl]

theorem isDecimal_of_loadFile {disk : Disk} {path : Bytes} {code : Code}
    (h : loadFile disk path = .ok code) : code.IsDecimal := by
  unfold loadFile at h
  split at h
  case h_1 data _ =>
    cases h
    exact isDecimal_ofSource data
  case h_2 => cases h

-- Loading is exact. A source that holds enough digits gives the first of them, whatever follows and
-- also where it cannot be read to its end. Any other source gives all of its digits, or the failure
-- that is met behind its last byte. So what is loaded is loaded again as it is, programs with the same
-- digits are the same, and none of them has a byte that is not known.
theorem loading_exact (source : Bytes) (failure : Option Bytes) :
    let digits := source.filter Text.isDigit
    (9999 ≤ digits.length →
      (load source failure).map Code.toList = .ok (digits.take 9999)) ∧
    (digits.length < 9999 →
      (load source none).map Code.toList = .ok digits ∧
      ∀ text, load source (some text) = .error (.device text)) ∧
    (∀ code, load source failure = .ok code → load code.toList none = .ok code) ∧
    (∀ source', (source'.filter Text.isDigit).take 9999 = digits.take 9999 →
      ∀ i : Interpreter, i.executeSource source' = i.executeSource source) ∧
    ∀ i : Interpreter, i.KnowsDigits (i.executeSource source) ∧
      ∀ path e, i.executeFile path = .ok e → i.KnowsDigits e := by
  intro digits
  refine ⟨?_, ?_, fun _ => load_toList, fun _ => executeSource_congr, fun i => ⟨?_, ?_⟩⟩
  · intro hl
    rw [load_of_le hl, Except.map, toList_ofSource]
    rfl
  · intro hl
    refine ⟨?_, load_of_lt hl⟩
    rw [load_eq_ofSource, Except.map, toList_ofSource_of_le rfl (Nat.le_of_lt hl)]
  · exact i.knowsDigits_execute (isDecimal_ofSource source)
  · intro path e he
    unfold Interpreter.executeFile at he
    cases hf : loadFile i.world.archive.disk path
    case error =>
      rw [hf] at he
      cases he
    case ok code =>
      rw [hf] at he
      cases he
      exact i.knowsDigits_execute (isDecimal_of_loadFile hf)

-- Just as many threes as are needed, a byte that is no digit, and a failure that is not met any more.
theorem loading_exact_enough :
    let source := List.replicate 9999 0x33 ++ ascii "x"
    let i      := Interpreter.start { extended := true } {} 0 default
    9999 ≤ (source.filter Text.isDigit).length ∧
    (load source (some (ascii "reset"))).map Code.toList = .ok (List.replicate 9999 0x33) ∧
    i.table = Library.table true ∧
    ∀ d ∈ (i.executeSource source).run.dispatches, d.outcome ≠ .unknown := by
  intro source i
  have hd : source.filter Text.isDigit = List.replicate 9999 0x33 := by
    rw [List.filter_append, List.filter_replicate_of_pos rfl]
    exact List.append_nil _
  have hl : 9999 ≤ (source.filter Text.isDigit).length :=
    Nat.le_of_eq (by rw [hd, List.length_replicate])
  have ⟨h, _, _, _, hk⟩ := loading_exact source (some (ascii "reset"))
  have hi : i.table = Library.table true := Interpreter.start_table ..
  have hs := h hl
  rw [hd, List.take_of_length_le (Nat.le_of_eq List.length_replicate)] at hs
  exact ⟨hl, hs, hi, ((hk i).left.library true hi).left⟩

end Program
end Denary
