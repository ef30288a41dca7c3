import Denary.Console
import Denary.Opcode.Strings
import Denary.Text.Case
import Denary.Decimal.Integer

namespace Denary

-- Line ends in texts: reading a line removes them, and no operation on texts brings one back.

namespace Text

-- A text that fits on one line.
def OneLine (t : Bytes) : Prop :=
  newline ∉ t

instance (t : Bytes) : Decidable (OneLine t) :=
  inferInstanceAs (Decidable (newline ∉ t))

theorem OneLine.append {t t' : Bytes} (h : OneLine t) (h' : OneLine t') : OneLine (t ++ t') := by
  simp_all [OneLine]

-- A number that stands for no character is taken for the zero character.
theorem toNat_ofNat_or (n : Nat) : (Char.ofNat n).toNat = n ∨ (Char.ofNat n).toNat = 0 := by
  unfold Char.ofNat
  by_cases h : n.isValidChar
  case pos => exact .inl <| dif_pos h ▸ rfl
  case neg => exact .inr <| dif_neg h ▸ rfl

theorem ofNat_ne_newline {n : Nat} (h : n ≠ 10) : (Char.ofNat n).toNat ≠ 10 := by
  rcases toNat_ofNat_or n with h' | h' <;> omega

theorem newline_ne_ofNat {n : Nat} (h₁ : n < 256) (h₂ : n ≠ 10) : newline ≠ UInt8.ofNat n := by
  intro h
  have h := congrArg UInt8.toNat h
  rw [UInt8.toNat_ofNat', Nat.mod_eq_of_lt h₁] at h
  exact h₂ h.symm

-- All bytes of a character beyond the first 128 have their highest bit set.
theorem oneLine_encodeChar {c : Char} (h : c.toNat ≠ 10) : OneLine (encodeChar c) := by
  have hv : c.val.toNat ≠ 10 := h
  unfold OneLine encodeChar String.utf8EncodeChar
  dsimp only
  repeat' split
  all_goals
    simp only [List.mem_cons, List.not_mem_nil, or_false, not_or]
    repeat' constructor
    all_goals exact newline_ne_ofNat (by omega) (by omega)

theorem oneLine_flatMap {α : Type} {as : List α} {f : α → Bytes} (h : ∀ a ∈ as, OneLine (f a)) :
    OneLine (as.flatMap f) := by
  intro hn
  have ⟨a, ha, hm⟩ := List.mem_flatMap.mp hn
  exact h a ha hm

theorem oneLine_encode {cs : List Char} (h : ∀ c ∈ cs, c.toNat ≠ 10) : OneLine (encode cs) :=
  oneLine_flatMap fun c hc => oneLine_encodeChar (h c hc)

theorem read_suffix (a : UInt8) (rest : Bytes) : (Piece.read a rest).2 <:+ rest := by
  unfold Piece.read
  repeat' split
  all_goals first
    | exact List.suffix_refl _
    | exact List.suffix_cons _ _
    | exact (List.suffix_cons _ _).trans (List.suffix_cons _ _)
    | exact (List.suffix_cons _ _).trans (List.suffix_cons _ _) |>.trans (List.suffix_cons _ _)

-- A character of several bytes has a number far beyond that of the line end. The shortest forms of
-- three and of four bytes get there by the lower limit on their second byte.

theorem assemble2_ne_newline {a : UInt8} (ha : 0xC2 ≤ a) (b : UInt8) :
    (Piece.assemble2 a b).toNat ≠ 10 := by
  have ha : 0xC2 ≤ a.toNat := UInt8.le_iff_toNat_le.mp ha
  exact ofNat_ne_newline (by omega)

theorem assemble3_ne_newline {a b : UInt8} (ha : 0xE0 ≤ a) (hb : Piece.secondOfThree a b = true)
    (c : UInt8) : (Piece.assemble3 a b c).toNat ≠ 10 := by
  have ha : 0xE0 ≤ a.toNat := UInt8.le_iff_toNat_le.mp ha
  apply ofNat_ne_newline
  unfold Piece.secondOfThree at hb
  split at hb
  case isTrue =>
    have ⟨hb, _⟩ := Bool.and_eq_true_iff.mp hb
    have hb : 0xA0 ≤ b.toNat := UInt8.le_iff_toNat_le.mp (of_decide_eq_true hb)
    omega
  case isFalse hn =>
    have hn : a.toNat ≠ 0xE0 := fun h => hn (UInt8.toNat_inj.mp h)
    omega

theorem assemble4_ne_newline {a b : UInt8} (ha : 0xF0 ≤ a) (hb : Piece.secondOfFour a b = true)
    (c d : UInt8) : (Piece.assemble4 a b c d).toNat ≠ 10 := by
  have ha : 0xF0 ≤ a.toNat := UInt8.le_iff_toNat_le.mp ha
  apply ofNat_ne_newline
  unfold Piece.secondOfFour at hb
  split at hb
  case isTrue =>
    have ⟨hb, _⟩ := Bool.and_eq_true_iff.mp hb
    have hb : 0x90 ≤ b.toNat := UInt8.le_iff_toNat_le.mp (of_decide_eq_true hb)
    omega
  case isFalse hn =>
    have hn : a.toNat ≠ 0xF0 := fun h => hn (UInt8.toNat_inj.mp h)
    omega

theorem read_shown_ne_newline {a : UInt8} (h : a ≠ newline) (rest : Bytes) :
    (Piece.read a rest).1.shown.toNat ≠ 10 := by
  have ha : a.toNat ≠ 10 := fun hn => h (UInt8.toNat_inj.mp hn)
  have hs : (Piece.stray a).shown.toNat ≠ 10 := ofNat_ne_newline (by decide)
  fun_cases Piece.read a rest
  case case1 => exact ofNat_ne_newline ha
  case case2 hr b _ _       => exact assemble2_ne_newline hr.left b
  case case5 hr b c _ ht    =>
    have ⟨hb, _⟩ := Bool.and_eq_true_iff.mp ht
    exact assemble3_ne_newline hr.left hb c
  case case8 hr b c d _ ht  =>
    have ⟨ht, _⟩ := Bool.and_eq_true_iff.mp ht
    have ⟨hb, _⟩ := Bool.and_eq_true_iff.mp ht
    exact assemble4_ne_newline hr.left hb c d
  all_goals exact hs

theorem chars_ne_newline {t : Bytes} (h : OneLine t) : ∀ c ∈ chars t, c.toNat ≠ 10 := by
  unfold chars
  induction t using pieces.induct
  case case1 => simp [pieces]
  case case2 a rest hi =>
    have ha : newline ≠ a := List.ne_of_not_mem_cons h
    have hr : newline ∉ rest := List.not_mem_of_not_mem_cons h
    intro c hc
    rw [pieces, List.map_cons, List.mem_cons] at hc
    rcases hc with rfl | hc
    · exact read_shown_ne_newline ha.symm rest
    · exact hi (fun hn => hr <| (read_suffix a rest).mem hn) c hc

theorem OneLine.reversed {t : Bytes} (h : OneLine t) : OneLine (reversed t) := by
  rw [reversed_eq]
  exact oneLine_encode fun c hc => chars_ne_newline h c (List.mem_reverse.mp hc)

-- Each span takes its characters to ones behind the line end.
def CaseSpan.Behind (s : CaseSpan) : Prop :=
  10 < (s.first : Int) + s.shift

theorem mapCase_ne_newline {spans : List CaseSpan} (hs : ∀ s ∈ spans, s.Behind) {c : Char}
    (h : c.toNat ≠ 10) : (mapCase spans c).toNat ≠ 10 := by
  unfold mapCase
  split
  case h_2 => exact h
  case h_1 s hf =>
    have hb := hs s (List.mem_of_find?_eq_some hf)
    have hc := List.find?_some hf
    apply ofNat_ne_newline
    unfold CaseSpan.Behind at hb
    unfold CaseSpan.covers at hc
    simp at hc
    omega

theorem OneLine.mapCase {spans : List CaseSpan} (hs : ∀ s ∈ spans, s.Behind) {t : Bytes}
    (h : OneLine t) : OneLine (mapChars (mapCase spans) t) := by
  refine oneLine_encode fun c hc => ?_
  have ⟨c', hc', he⟩ := List.mem_map.mp hc
  exact he ▸ mapCase_ne_newline hs (chars_ne_newline h c' hc')

instance (s : CaseSpan) : Decidable s.Behind :=
  inferInstanceAs (Decidable (_ < _))

theorem OneLine.upper {t : Bytes} (h : OneLine t) : OneLine (upper t) :=
  h.mapCase (by decide +kernel)

theorem OneLine.lower {t : Bytes} (h : OneLine t) : OneLine (lower t) :=
  h.mapCase (by decide +kernel)

theorem toNat_digit {n : Nat} (h : n < 10) : (digit n).toNat = 48 + n :=
  UInt8.toNat_ofNat_of_lt' (Nat.lt_trans (Nat.add_lt_add_left h 48) (by decide))

theorem isDigit_digit {n : Nat} (h : n < 10) : isDigit (digit n) = true := by
  simp [isDigit, UInt8.le_iff_toNat_le, toNat_digit h]
  omega

theorem digitValue_digit {n : Nat} (h : n < 10) : digitValue (digit n) = n := by
  rw [digitValue, toNat_digit h, Nat.add_sub_cancel_left]

end Text

namespace Decimal

theorem integer_natCast (n : Nat) : integer n = natural n := by
  rw [integer, if_neg (by omega), Int.natAbs_natCast]

theorem isDigit_of_mem_natural {n : Nat} {b : UInt8} (h : b ∈ natural n) : Text.isDigit b = true := by
  induction n using natural.induct
  case case1 n hn =>
    rw [natural, if_pos hn, List.mem_singleton] at h
    exact h ▸ Text.isDigit_digit hn
  case case2 n hn hi =>
    rw [natural, if_neg hn, List.mem_append, List.mem_singleton] at h
    rcases h with h | rfl
    · exact hi h
    · exact Text.isDigit_digit (Nat.mod_lt _ (by decide))

theorem oneLine_natural (n : Nat) : Text.OneLine (natural n) := by
  intro h
  cases isDigit_of_mem_natural h

theorem length_natural_le {n k : Nat} (h : n < Nat.pow 10 (k + 1)) : (natural n).length ≤ k + 1 := by
  induction k generalizing n
  case zero => rw [natural, if_pos (by simpa using h)]; simp
  case succ k hi =>
    rw [natural]
    split
    case isTrue  => simp
    case isFalse =>
      have hd : n / 10 < Nat.pow 10 (k + 1) := Nat.div_lt_of_lt_mul (Nat.mul_comm .. ▸ h)
      simpa using hi hd

theorem valueOf_append (ds : Bytes) (d : UInt8) :
    valueOf (ds ++ [d]) = valueOf ds * 10 + Text.digitValue d := by
  simp [valueOf]

theorem valueOf_natural (n : Nat) : valueOf (natural n) = n := by
  induction n using natural.induct
  case case1 n hn =>
    rw [natural, if_pos hn]
    simp [valueOf, Text.digitValue_digit hn]
  case case2 n hn hi =>
    rw [natural, if_neg hn, valueOf_append, hi, Text.digitValue_digit (Nat.mod_lt _ (by decide))]
    omega

theorem natural_injective {n n' : Nat} (h : natural n = natural n') : n = n' := by
  rw [← valueOf_natural n, h, valueOf_natural]

theorem mem_integer {n : Int} {b : UInt8} (h : b ∈ integer n) :
    b = 0x2D ∨ Text.isDigit b = true := by
  unfold integer at h
  split at h
  case isFalse => exact .inr (isDigit_of_mem_natural h)
  case isTrue  =>
    rcases List.mem_cons.mp h with h | h
    · exact .inl h
    · exact .inr (isDigit_of_mem_natural h)

-- No natural number starts with a minus sign.
theorem integer_injective {n n' : Int} (h : integer n = integer n') : n = n' := by
  have hm (t : Bytes) (k : Nat) : 0x2D :: t ≠ natural k := by
    intro he
    have hd : Text.isDigit 0x2D = true := isDigit_of_mem_natural (he ▸ List.mem_cons_self)
    cases hd
  unfold integer at h
  split at h <;> split at h
  · have := natural_injective (List.tail_eq_of_cons_eq h)
    omega
  · exact absurd h (hm _ _)
  · exact absurd h.symm (hm _ _)
  · have := natural_injective h
    omega

end Decimal

theorem Console.readLine_oneLine {c : Console} {line : Bytes} (h : c.readLine.1 = .ok line) :
    Text.OneLine line := by
  have ht : Text.OneLine (Text.trimEnd isLineEnd (c.input.takeWhile (· ≠ Text.newline))) := by
    intro hn
    have hn := List.mem_reverse.mp hn
    have hn := List.mem_reverse.mp <| (List.dropWhile_sublist _).mem hn
    have hn := List.all_eq_true.mp List.all_takeWhile _ hn
    simp at hn
  unfold readLine at h
  split at h
  case h_1 => cases h; exact ht
  case h_2 =>
    split at h
    case h_1 => cases h
    case h_2 =>
      split at h
      case isTrue  => cases h
      case isFalse => cases h; exact ht

theorem TextOperation.evaluate_ok {n : Int} {second newest t : Bytes}
    (h : evaluate n second newest = .ok t) (hs : Text.OneLine second) (hn : Text.OneLine newest) :
    t.length ≤ Value.maxTextLength ∧ Text.OneLine t := by
  unfold evaluate at h
  split at h
  case h_1 => cases h
  case h_2 op _ =>
    dsimp only at h
    split at h
    case isFalse => cases h
    case isTrue hl =>
      cases h
      refine ⟨hl, ?_⟩
      cases op
      case concat  => exact hs.append hn
      case length  => exact Decimal.oneLine_natural _
      case upper   => exact hn.upper
      case lower   => exact hn.lower
      case reverse => exact hn.reversed

end Denary
