import Denary.Proofs.Frame

-- Arithmetic: which two numbers it takes, which operator it applies to them, and what becomes of
-- the result. Numbers may lie anywhere among the entries of the store, and an operator may have no
-- result for them, in which case a zero stands in.

namespace Denary

namespace Decimal.Binary64

open Float.Model

-- A zero, with or without a minus sign.
def IsZero (x : Float) : Prop :=
  x.toBits = 0 ∨ x.toBits = 0x8000000000000000

theorem unpack_eq_zero_iff {b : BitVec 64} :
    (∃ sign, UnpackedFloat.unpack Format.binary64 b = .zero sign) ↔
      b = 0 ∨ b = 0x8000000000000000 := by
  constructor
  case mp =>
    intro ⟨sign, h⟩
    unfold UnpackedFloat.unpack at h
    dsimp only at h
    -- Only where both the exponent and the mantissa are zero, a zero is unpacked.
    by_cases hx : @UnpackedFloat.unpackExponent Format.binary64 b = -1#_
    case pos =>
      rw [if_pos hx] at h
      split at h <;> cases h
    by_cases he : @UnpackedFloat.unpackExponent Format.binary64 b = 0#_
    case neg =>
      rw [if_neg hx, if_neg he] at h
      cases h
    by_cases hm : @UnpackedFloat.unpackMantissa Format.binary64 b = 0#_
    case neg =>
      rw [if_neg hx, if_pos he, dif_neg hm] at h
      cases h
    -- They are all bits but the highest one.
    have hb : b.toNat < 0x10000000000000000 := b.isLt
    simp only [UnpackedFloat.unpackExponent, UnpackedFloat.unpackMantissa] at he hm
    simp [← BitVec.toNat_inj, Nat.shiftRight_eq_div_pow] at he hm ⊢
    omega
  case mpr =>
    rintro (rfl | rfl)
    · exact ⟨.positive, rfl⟩
    · exact ⟨.negative, rfl⟩

theorem compare_zero_iff {u : UnpackedFloat} {sign : UnpackedFloat.Sign} :
    u.compare (.zero sign) = some .eq ↔ ∃ sign', u = .zero sign' := by
  constructor
  case mpr =>
    intro ⟨sign', hu⟩
    rw [hu]
    rfl
  case mp =>
    intro h
    cases u
    case zero sign'         => exact ⟨sign', rfl⟩
    case notANumber         => cases h
    case infinity sign'     => cases sign' <;> cases h
    case finite sign' _ _ _ => cases sign' <;> cases h

-- A comparison with zero does not see the sign.
theorem beq_zero_iff {x : Float} : (x == 0) = true ↔ IsZero x := by
  have hz : (0 : Float).toModel.unpack = .zero .positive := rfl
  have hc : (x == 0) = (x.toModel.unpack.compare (0 : Float).toModel.unpack == some .eq) := rfl
  rw [hc, hz, beq_iff_eq, compare_zero_iff, Float.Model.unpack, unpack_eq_zero_iff, IsZero,
    ← UInt64.toBitVec_inj, ← UInt64.toBitVec_inj]
  rfl

end Decimal.Binary64

namespace Variable

variable {entries : List Variable}

-- The number at a place of the store, if there is one.
def numberAt? (entries : List Variable) (i : Nat) : Option Float :=
  entries[i]?.bind fun v => v.value.asFloat?

-- The last number among some entries is at `i`, and the last one before it at `j`.
structure Operands (entries : List Variable) (i j : Nat) (a b : Float) : Prop where
  newest : numberAt? entries i = some a
  second : numberAt? entries j = some b
  lt     : j < i
  others : ∀ (k : Nat) (x : Float), numberAt? entries k = some x → k = i ∨ k ≤ j

theorem contains_kind (v : Variable) : [Kind.int, .float].contains v.kind = v.value.isNumeric := by
  cases h : v.value <;> simp [kind, h, Value.kind, Value.isNumeric, Value.asFloat?]

-- The numbers among some entries, newest first.
def numbers (entries : List Variable) : List Variable :=
  entries.reverse.filter (·.value.isNumeric)

theorem newest_numbers (entries : List Variable) :
    newest 2 [.int, .float] entries = (numbers entries).take 2 := by
  simp only [newest, contains_kind]
  rfl

theorem length_numbers (entries : List Variable) :
    (numbers entries).length = entries.countP (·.value.isNumeric) := by
  rw [numbers, ← List.countP_eq_length_filter, List.countP_reverse]

-- The newest number has a place, behind which there are no numbers, and the others are in front of
-- it.
theorem exists_newest {v : Variable} {vs : List Variable} (h : numbers entries = v :: vs) :
    ∃ i a, entries[i]? = some v ∧ v.value.asFloat? = some a ∧
      (∀ k x, numberAt? entries k = some x → k ≤ i) ∧ numbers (entries.take i) = vs := by
  have ⟨later, older, he, hl, hv, hr⟩ := List.filter_eq_cons_iff.mp h
  have he : entries = older.reverse ++ v :: later.reverse := by
    rw [← List.reverse_reverse entries, he]
    simp
  have ⟨a, ha⟩ := Option.isSome_iff_exists.mp hv
  refine ⟨older.length, a, ?_, ha, fun k x hx => ?_, ?_⟩
  · rw [he, List.getElem?_append_right (by simp)]
    simp
  · refine Nat.le_of_not_lt fun hk => ?_
    have ⟨w, hw, hx⟩ := Option.bind_eq_some_iff.mp hx
    have hm : w ∈ later.reverse := by
      rw [he, List.getElem?_append_right (by simp; omega)] at hw
      have hk : k - older.reverse.length = k - older.length - 1 + 1 := by simp; omega
      rw [hk, List.getElem?_cons_succ] at hw
      exact List.mem_of_getElem? hw
    exact hl w (List.mem_reverse.mp hm) (by simp [Value.isNumeric, hx])
  · rw [he, List.take_left' (by simp), numbers, List.reverse_reverse]
    exact hr

theorem exists_operands {v w : Variable} {vs : List Variable} (h : numbers entries = v :: w :: vs) :
    ∃ i j a b, Operands entries i j a b ∧ v.value.asFloat? = some a ∧
      w.value.asFloat? = some b := by
  have ⟨i, a, hi, ha, hk, hr⟩ := exists_newest h
  have ⟨j, b, hj, hb, hk', _⟩ := exists_newest hr
  have ht {k : Nat} (h : k < i) : (entries.take i)[k]? = entries[k]? := by
    rw [List.getElem?_take, if_pos h]
  have hlt : j < i := by
    refine Nat.lt_of_not_le fun hle => ?_
    rw [List.getElem?_take, if_neg (by omega)] at hj
    cases hj
  refine ⟨i, j, a, b, ⟨?_, ?_, hlt, fun k x hx => ?_⟩, ha, hb⟩
  · rw [numberAt?, hi, Option.bind_some, ha]
  · rw [numberAt?, ← ht hlt, hj, Option.bind_some, hb]
  · rcases Nat.lt_or_eq_of_le (hk k x hx) with hi | hi
    · refine .inr (hk' k x ?_)
      rw [numberAt?, ht hi]
      exact hx
    · exact .inl hi

end Variable

namespace Operator

open Decimal

variable {code : Code} {p : Int} {op : Operator} {a b : Float}

-- The digit that an operator is chosen by.
def number : Operator → Nat
  | add      => 0
  | subtract => 1
  | multiply => 2
  | divide   => 3
  | power    => 4
  | sqrt     => 5
  | sin      => 6
  | cos      => 7
  | log      => 8
  | modulo   => 9

theorem number_ofNumber : ∀ n : Nat, n < 10 → (ofNumber n).number = n := by
  decide

theorem number_before {d : UInt8} (h : code.at? (p - 1) = some d) (hd : Text.isDigit d = true) :
    (before code p).number = Text.digitValue d := by
  have hv : Text.digitValue d < 10 := by
    simp only [Text.isDigit, Bool.and_eq_true, decide_eq_true_eq, UInt8.le_iff_toNat_le] at hd
    have h₉ : d.toNat ≤ 57 := hd.right
    unfold Text.digitValue
    omega
  unfold before
  simp only [h, hd, ↓reduceIte]
  exact number_ofNumber _ hv

theorem before_eq_add (h : ∀ d, code.at? (p - 1) = some d → Text.isDigit d = false) :
    before code p = add := by
  unfold before
  split
  case h_2      => rfl
  case h_1 d hd => rw [h d hd, if_neg Bool.false_ne_true]

theorem fallback_iff : (op.apply b a).2.isSome = true ↔
    (op = divide ∨ op = modulo) ∧ Binary64.IsZero a ∨ op = log ∧ a ≤ 0 := by
  rw [← Binary64.beq_zero_iff]
  cases op
  case divide | modulo | log => simp [apply]; split <;> simp_all
  all_goals simp [apply]

theorem apply_of_fallback (h : (op.apply b a).2.isSome = true) : (op.apply b a).1 = 0 := by
  cases op
  case divide | modulo | log =>
    unfold apply at h ⊢
    dsimp only at h ⊢
    split
    case isTrue     => rfl
    case isFalse hn => rw [if_neg hn] at h; cases h
  all_goals cases h

-- The result of an operator, with other functions in the place of quotient and remainder.
def applyWith (quotient remainder : Float → Float → Float) (op : Operator) (b a : Float) :
    Float × Option Undefined :=
  match op with
  | divide => if a == 0 then (0, some .division) else (quotient b a, none)
  | modulo => if a == 0 then (0, some .remainder) else (remainder b a, none)
  | op     => op.apply b a

-- What a quotient or a remainder by zero would be does not matter.
theorem applyWith_eq_apply {quotient remainder : Float → Float → Float}
    (h : ∀ b a, ¬ Binary64.IsZero a →
      quotient b a = b / a ∧ remainder b a = Binary64.remainder b a) :
    op.applyWith quotient remainder b a = op.apply b a := by
  unfold applyWith apply
  cases op
  case divide | modulo =>
    dsimp only
    split
    case isTrue     => rfl
    case isFalse hn =>
      have ⟨hq, hr⟩ := h b a fun hz => hn (Binary64.beq_zero_iff.mpr hz)
      simp only [hq, hr]
  all_goals rfl

end Operator

namespace Opcode

open Decimal

variable {env : Environment} {site : Site} {m : Machine}

theorem math_declines (h : m.state.store.toList.countP (·.value.isNumeric) < 2) :
    Declines env (.warn site Category.math
        (shortageMessage (m.state.store.toList.countP (·.value.isNumeric))))
      m.world.console m (math env site m) := by
  have hl : (Variable.newest 2 [.int, .float] m.state.store.toList).length
      = m.state.store.toList.countP (·.value.isNumeric) := by
    rw [Variable.newest_numbers, List.length_take, Variable.length_numbers]
    omega
  have he := math_describes m env site
  have ha := math_account m env site
  unfold Effect.math Effect.calculated at he
  unfold Account.math at ha
  rw [← hl] at h ⊢
  generalize Variable.newest 2 [.int, .float] m.state.store.toList = found at he ha h ⊢
  rcases found with _ | ⟨newest, _ | ⟨second, vs⟩⟩
  · exact declines_of_describes he ha rfl rfl
  · exact declines_of_describes he ha rfl rfl
  · simp only [List.length_cons] at h
    omega

-- What is done with the result `x` of an operator.
def Yields (env : Environment) (site : Site) (x : Float × Option Undefined) (m : Machine)
    (r : Machine × Except Fault Status) : Prop :=
  Appends env ⟨ascii "result_" ++ Decimal.integer site.position, .float x.1⟩
    (Account.undefined site x.2 ++ Remarks.offer env site m.state.store) m.world.console m r

theorem math_yields (env : Environment) (site : Site)
    (h : 2 ≤ m.state.store.toList.countP (·.value.isNumeric)) :
    ∃ i j a b, Variable.Operands m.state.store.toList i j a b ∧
      Yields env site ((Operator.before env.code site.position).apply b a) m (math env site m) := by
  rw [← Variable.length_numbers] at h
  match hn : Variable.numbers m.state.store.toList, h with
  | v :: w :: vs, _ =>
    have ⟨i, j, a, b, ho, ha, hb⟩ := Variable.exists_operands hn
    have hf : Variable.newest 2 [.int, .float] m.state.store.toList = [v, w] := by
      rw [Variable.newest_numbers, hn]
      rfl
    have hx : calculation env.code site.position w v
        = (Operator.before env.code site.position).apply b a := by
      rw [calculation, ha, hb, Option.getD_some, Option.getD_some]
    have he := math_describes m env site
    have hs := math_account m env site
    simp only [Effect.math, Effect.calculated, hf, hx] at he
    simp only [Account.math, hf, hx] at hs
    exact ⟨i, j, a, b, ho, appends_of_describes he hs rfl⟩

-- What arithmetic does at any position of any program. The operator is the digit in front, if
-- there is one. Without two numbers in the store nothing is done. Otherwise the newest number `a`
-- and the second newest number `b` are taken, wherever they are, and the result goes behind all
-- entries. Zero stands in for it exactly where dividing by zero or the logarithm of no positive
-- number is asked for, so that nothing depends on what a quotient or a remainder by zero is.
theorem math_exact (env : Environment) (site : Site) (m : Machine) :
    let entries := m.state.store.toList
    let count   := entries.countP (·.value.isNumeric)
    let op      := Operator.before env.code site.position
    let before? := env.code.at? (site.position - 1)
    let r       := math env site m
    (∀ d, before? = some d → Text.isDigit d = true → op.number = Text.digitValue d) ∧
    ((∀ d, before? = some d → Text.isDigit d = false) → op = .add) ∧
    (count < 2 → Declines env (.warn site Category.math (shortageMessage count))
      m.world.console m r) ∧
    (2 ≤ count →
      ∃ i j a b, Variable.Operands entries i j a b ∧ Yields env site (op.apply b a) m r ∧
        ((op.apply b a).2.isSome = true ↔
          (op = .divide ∨ op = .modulo) ∧ Binary64.IsZero a ∨ op = .log ∧ a ≤ 0) ∧
        ((op.apply b a).2.isSome = true → (op.apply b a).1.toBits = 0) ∧
        ∀ quotient remainder : Float → Float → Float,
          (∀ b a, ¬ Binary64.IsZero a →
            quotient b a = b / a ∧ remainder b a = Binary64.remainder b a) →
          op.applyWith quotient remainder b a = op.apply b a) := by
  intro entries count op before? r
  refine ⟨fun d => Operator.number_before, Operator.before_eq_add, math_declines, fun h => ?_⟩
  have ⟨i, j, a, b, ho, hy⟩ := math_yields env site h
  refine ⟨i, j, a, b, ho, hy, Operator.fallback_iff, fun hf => ?_,
    fun _ _ => Operator.applyWith_eq_apply⟩
  rw [Operator.apply_of_fallback hf]
  rfl

-- In `38`, the newest number is a zero with a minus sign, and a text lies between it and the second
-- newest one.
theorem math_exact_negative_zero :
    let env := Environment.plain (Code.ofArray #[0x33, 0x38]) {}
    let entries : List Variable :=
      [⟨ascii "v", .int 6⟩, ⟨ascii "w", .text []⟩, ⟨ascii "x", .float (-0.0)⟩]
    let m : Machine := ⟨{ State.start {} with store := (Bounded.empty 9).offer entries }, default⟩
    let r := math env ⟨1, 0x38⟩ m
    2 ≤ entries.countP (·.value.isNumeric) ∧ r.2 = .ok (.done true) ∧ r.1.state.warnings = 1 ∧
      ∃ x : Float, x.toBits = 0 ∧ r.1.state.store.toList
        = entries ++ [⟨ascii "result_" ++ Decimal.integer 1, .float x⟩] := by
  intro env entries m r
  have hn : 2 ≤ entries.countP (·.value.isNumeric) := by decide
  have ⟨_, _, _, h⟩ := math_exact env ⟨1, 0x38⟩ m
  have ⟨i, j, a, b, ho, hy, hf, hz, _⟩ := h hn
  have ho : Variable.Operands entries i j a b := ho
  have ha : a = -0.0 := by
    rcases ho.others 2 (-0.0) rfl with hi | hi
    · have hx := ho.newest
      rw [← hi] at hx
      exact (Option.some.inj hx).symm
    · have hx := ho.newest
      have hi : entries.length ≤ i := Nat.le_trans (Nat.succ_le_succ hi) ho.lt
      rw [Variable.numberAt?, List.getElem?_eq_none hi] at hx
      cases hx
  have hd : Operator.before env.code 1 = .divide := by decide
  have hs := hf.mpr (.inl ⟨.inl hd, ha ▸ .inr (by decide)⟩)
  have ⟨u, hu⟩ := Option.isSome_iff_exists.mp hs
  have hw := hy.remarks.counted
  rw [hu] at hw
  exact ⟨hn, hy.status, hw, _, hz hs, hy.entries⟩

end Opcode

end Denary
