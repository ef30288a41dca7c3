import Denary.Proofs.Text

namespace Denary.Text

-- Characters and their bytes: the pieces of a text hold all of its bytes in order, and the bytes of
-- a character are always read as that character.

theorem toNat_ofNat {n : Nat} (h : n.isValidChar) : (Char.ofNat n).toNat = n := by
  unfold Char.ofNat
  exact dif_pos h ▸ rfl

theorem ofNat_eq_byte {n : Nat} {b : UInt8} (h : n = b.toNat) : UInt8.ofNat n = b := by
  rw [h, UInt8.ofNat_toNat]

namespace Piece

variable {a b c d : UInt8}

theorem isTail_iff : isTail b = true ↔ 0x80 ≤ b.toNat ∧ b.toNat ≤ 0xBF := by
  simp [isTail, UInt8.le_iff_toNat_le]

-- The first byte may ask more of the second one than that it is a tail byte: one first byte sets it
-- a lower limit, so that no character has a longer form than it needs, and another one an upper
-- limit, beyond which there are no characters.
theorem second_iff {x y low high : UInt8} (hxy : x ≠ y) (hl : 0x80 ≤ low.toNat)
    (hh : high.toNat ≤ 0xBF) :
    (if a = x then low ≤ b && b ≤ 0xBF else if a = y then 0x80 ≤ b && b ≤ high else isTail b) = true
      ↔ isTail b = true ∧ (a.toNat = x.toNat → low.toNat ≤ b.toNat) ∧
          (a.toNat = y.toNat → b.toNat ≤ high.toNat) := by
  simp only [UInt8.toNat_inj]
  split
  case isTrue h =>
    simp [isTail_iff, UInt8.le_iff_toNat_le, h, hxy]
    omega
  case isFalse h =>
    split
    case isTrue h' =>
      simp [isTail_iff, UInt8.le_iff_toNat_le, h', hxy.symm]
      omega
    case isFalse h' => simp [h, h']

theorem secondOfThree_iff : secondOfThree a b = true ↔ isTail b = true ∧
    (a.toNat = 0xE0 → 0xA0 ≤ b.toNat) ∧ (a.toNat = 0xED → b.toNat ≤ 0x9F) :=
  second_iff (by decide) (by decide) (by decide)

theorem secondOfFour_iff : secondOfFour a b = true ↔ isTail b = true ∧
    (a.toNat = 0xF0 → 0x90 ≤ b.toNat) ∧ (a.toNat = 0xF4 → b.toNat ≤ 0x8F) :=
  second_iff (by decide) (by decide) (by decide)

theorem encodeChar_ofByte (ha : a.toNat < 0x80) : encodeChar (Char.ofNat a.toNat) = [a] := by
  have hv : (Char.ofNat a.toNat).val.toNat = a.toNat := toNat_ofNat (.inl (by omega))
  simp only [encodeChar, String.utf8EncodeChar, hv]
  rw [if_pos (by omega), UInt8.ofNat_toNat]

theorem encodeChar_assemble2 (ha : 0xC2 ≤ a.toNat) (ha' : a.toNat ≤ 0xDF) (hb : isTail b = true) :
    encodeChar (assemble2 a b) = [a, b] := by
  have hb := isTail_iff.mp hb
  have hv : (assemble2 a b).val.toNat = _ := toNat_ofNat (.inl (by omega))
  simp only [encodeChar, String.utf8EncodeChar, hv]
  rw [if_neg (by omega), if_pos (by omega), ofNat_eq_byte (b := a) (by omega),
    ofNat_eq_byte (b := b) (by omega)]

theorem encodeChar_assemble3 (ha : 0xE0 ≤ a.toNat) (ha' : a.toNat ≤ 0xEF)
    (hb : secondOfThree a b = true) (hc : isTail c = true) :
    encodeChar (assemble3 a b c) = [a, b, c] := by
  have ⟨hb, h₁, h₂⟩ := secondOfThree_iff.mp hb
  have hb := isTail_iff.mp hb
  have hc := isTail_iff.mp hc
  have hv : (assemble3 a b c).val.toNat = _ := toNat_ofNat (by unfold Nat.isValidChar; omega)
  simp only [encodeChar, String.utf8EncodeChar, hv]
  rw [if_neg (by omega), if_neg (by omega), if_pos (by omega), ofNat_eq_byte (b := a) (by omega),
    ofNat_eq_byte (b := b) (by omega), ofNat_eq_byte (b := c) (by omega)]

theorem encodeChar_assemble4 (ha : 0xF0 ≤ a.toNat) (ha' : a.toNat ≤ 0xF4)
    (hb : secondOfFour a b = true) (hc : isTail c = true) (hd : isTail d = true) :
    encodeChar (assemble4 a b c d) = [a, b, c, d] := by
  have ⟨hb, h₁, h₂⟩ := secondOfFour_iff.mp hb
  have hb := isTail_iff.mp hb
  have hc := isTail_iff.mp hc
  have hd := isTail_iff.mp hd
  have hv : (assemble4 a b c d).val.toNat = _ := toNat_ofNat (.inr (by omega))
  simp only [encodeChar, String.utf8EncodeChar, hv]
  rw [if_neg (by omega), if_neg (by omega), if_neg (by omega), ofNat_eq_byte (b := a) (by omega),
    ofNat_eq_byte (b := b) (by omega), ofNat_eq_byte (b := c) (by omega),
    ofNat_eq_byte (b := d) (by omega)]

-- What is read and what is left are the text itself.
theorem bytes_read (a : UInt8) (rest : Bytes) :
    (read a rest).1.bytes ++ (read a rest).2 = a :: rest := by
  have le {a b : UInt8} (h : a ≤ b) : a.toNat ≤ b.toNat := UInt8.le_iff_toNat_le.mp h
  fun_cases read a rest
  case case1 h => simp [bytes, encodeChar_ofByte (UInt8.lt_iff_toNat_lt.mp h)]
  case case2 h b _ hb => simp [bytes, encodeChar_assemble2 (le h.1) (le h.2) hb]
  case case5 h b c _ ht =>
    obtain ⟨hb, hc⟩ := Bool.and_eq_true_iff.mp ht
    simp [bytes, encodeChar_assemble3 (le h.1) (le h.2) hb hc]
  case case8 h b c d _ ht =>
    obtain ⟨ht, hd⟩ := Bool.and_eq_true_iff.mp ht
    obtain ⟨hb, hc⟩ := Bool.and_eq_true_iff.mp ht
    simp [bytes, encodeChar_assemble4 (le h.1) (le h.2) hb hc hd]
  all_goals rfl

theorem read_one (ha : a.toNat < 0x80) (rest : Bytes) :
    read a rest = (char (Char.ofNat a.toNat), rest) := by
  unfold read
  rw [if_pos (UInt8.lt_iff_toNat_lt.mpr ha)]

theorem read_two (ha : 0xC2 ≤ a.toNat) (ha' : a.toNat ≤ 0xDF) (hb : isTail b = true)
    (rest : Bytes) : read a (b :: rest) = (char (assemble2 a b), rest) := by
  have h₁ : ¬ a < 0x80 := by simp [UInt8.lt_iff_toNat_lt]; omega
  have h₂ : 0xC2 ≤ a ∧ a ≤ 0xDF := by simp [UInt8.le_iff_toNat_le]; omega
  simp [read, h₁, h₂, hb]

theorem read_three (ha : 0xE0 ≤ a.toNat) (ha' : a.toNat ≤ 0xEF) (hb : secondOfThree a b = true)
    (hc : isTail c = true) (rest : Bytes) :
    read a (b :: c :: rest) = (char (assemble3 a b c), rest) := by
  have h₁ : ¬ a < 0x80 := by simp [UInt8.lt_iff_toNat_lt]; omega
  have h₂ : ¬ (0xC2 ≤ a ∧ a ≤ 0xDF) := by simp [UInt8.le_iff_toNat_le]; omega
  have h₃ : 0xE0 ≤ a ∧ a ≤ 0xEF := by simp [UInt8.le_iff_toNat_le]; omega
  simp [read, h₁, h₂, h₃, hb, hc]

theorem read_four (ha : 0xF0 ≤ a.toNat) (ha' : a.toNat ≤ 0xF4) (hb : secondOfFour a b = true)
    (hc : isTail c = true) (hd : isTail d = true) (rest : Bytes) :
    read a (b :: c :: d :: rest) = (char (assemble4 a b c d), rest) := by
  have h₁ : ¬ a < 0x80 := by simp [UInt8.lt_iff_toNat_lt]; omega
  have h₂ : ¬ (0xC2 ≤ a ∧ a ≤ 0xDF) := by simp [UInt8.le_iff_toNat_le]; omega
  have h₃ : ¬ (0xE0 ≤ a ∧ a ≤ 0xEF) := by simp [UInt8.le_iff_toNat_le]; omega
  have h₄ : 0xF0 ≤ a ∧ a ≤ 0xF4 := by simp [UInt8.le_iff_toNat_le]; omega
  simp [read, h₁, h₂, h₃, h₄, hb, hc, hd]

theorem isTail_ofNat (n : Nat) : isTail (UInt8.ofNat (n % 64 + 128)) = true := by
  rw [isTail_iff, UInt8.toNat_ofNat_of_lt' (Nat.lt_trans (by omega) (by decide : 0xC0 < 2 ^ 8))]
  omega

-- The bytes of a character are read as that character, whatever follows them. That the second byte
-- keeps to its limits is where it matters that the number of a character is never too small for its
-- form, nor one of those that stand for no character.
theorem read_encodeChar (c : Char) :
    ∃ a as, encodeChar c = a :: as ∧ ∀ rest, read a (as ++ rest) = (char c, rest) := by
  have hv : c.toNat < 0xD800 ∨ 0xDFFF < c.toNat ∧ c.toNat < 0x110000 := c.valid
  have hn : c.val.toNat = c.toNat := rfl
  have hc {n : Nat} (h : n = c.toNat) (rest : Bytes) :
      (char (Char.ofNat n), rest) = (char c, rest) := by
    rw [h, Char.ofNat_toNat]
  simp only [encodeChar, String.utf8EncodeChar, hn]
  repeat' split
  all_goals refine ⟨_, _, rfl, fun rest => ?_⟩
  case isTrue =>
    rw [List.nil_append, read_one (by simp; omega)]
    exact hc (by simp; omega) rest
  case isFalse.isTrue =>
    rw [List.singleton_append, read_two (by simp; omega) (by simp; omega) (isTail_ofNat _)]
    exact hc (by simp; omega) rest
  case isFalse.isFalse.isTrue =>
    rw [List.cons_append, List.singleton_append,
      read_three (by simp; omega) (by simp; omega) _ (isTail_ofNat _)]
    · exact hc (by simp; omega) rest
    · exact secondOfThree_iff.mpr ⟨isTail_ofNat _, by simp; omega, by simp; omega⟩
  case isFalse.isFalse.isFalse =>
    rw [List.cons_append, List.cons_append, List.singleton_append,
      read_four (by simp; omega) (by simp; omega) _ (isTail_ofNat _) (isTail_ofNat _)]
    · exact hc (by simp; omega) rest
    · exact secondOfFour_iff.mpr ⟨isTail_ofNat _, by simp; omega, by simp; omega⟩

-- A byte that starts no character lies beyond the first 128, each of which is one.
def IsProper : Piece → Prop
  | char _  => True
  | stray b => 0x80 ≤ b.toNat

theorem isProper_read (a : UInt8) (rest : Bytes) : (read a rest).1.IsProper := by
  have hs (ha : ¬ a < 0x80) : (stray a).IsProper := by
    simpa [IsProper, UInt8.lt_iff_toNat_lt] using ha
  fun_cases read a rest
  case case1 | case2 | case5 | case8 => trivial
  all_goals exact hs ‹_›

-- What is read first is a character that the text starts with, or else the first byte.
theorem read_cases (a : UInt8) (rest : Bytes) :
    (∃ c, (read a rest).1 = .char c ∧ a :: rest = encodeChar c ++ (read a rest).2) ∨
    read a rest = (.stray a, rest) ∧ ∀ (c : Char) (t : Bytes), a :: rest ≠ encodeChar c ++ t := by
  have hb := bytes_read a rest
  cases hp : (read a rest).1
  case char c =>
    rw [hp] at hb
    exact .inl ⟨c, rfl, hb.symm⟩
  case stray b =>
    rw [hp] at hb
    have ⟨hba, hr⟩ := List.cons.inj hb
    refine .inr ⟨Prod.ext (hp.trans (by rw [hba])) hr, fun c t ht => ?_⟩
    have ⟨a', as, he, hc⟩ := read_encodeChar c
    rw [he, List.cons_append] at ht
    have ⟨ha, hs⟩ := List.cons.inj ht
    rw [ha, hs, hc] at hp
    cases hp

end Piece

theorem pieces_encodeChar_append (c : Char) (t : Bytes) :
    pieces (encodeChar c ++ t) = .char c :: pieces t := by
  have ⟨a, as, he, hr⟩ := Piece.read_encodeChar c
  rw [he, List.cons_append, pieces, hr]

theorem pieces_of_stray {b : UInt8} {t : Bytes}
    (h : ∀ (c : Char) (t' : Bytes), b :: t ≠ encodeChar c ++ t') :
    pieces (b :: t) = .stray b :: pieces t := by
  rcases Piece.read_cases b t with ⟨c, _, hc⟩ | ⟨hr, _⟩
  · exact absurd hc (h c _)
  · rw [pieces, hr]

theorem flatMap_bytes_pieces (t : Bytes) : (pieces t).flatMap Piece.bytes = t := by
  induction t using pieces.induct
  case case1 => rw [pieces, List.flatMap_nil]
  case case2 a rest hi => rw [pieces, List.flatMap_cons, hi, Piece.bytes_read]

theorem isProper_of_mem_pieces {t : Bytes} {p : Piece} (h : p ∈ pieces t) : p.IsProper := by
  induction t using pieces.induct
  case case1 => simp [pieces] at h
  case case2 a rest hi =>
    rw [pieces, List.mem_cons] at h
    rcases h with rfl | h
    · exact Piece.isProper_read a rest
    · exact hi h

-- Pieces that are cut off, from either end, leave the others as they are.

theorem pieces_of_append_right {t : Bytes} {ps qs : List Piece} (h : pieces t = ps ++ qs) :
    pieces (qs.flatMap Piece.bytes) = qs := by
  induction ps generalizing t
  case nil =>
    rw [List.nil_append] at h
    rw [← h, flatMap_bytes_pieces]
  case cons p ps hi =>
    cases t
    case nil         => simp [pieces] at h
    case cons a rest =>
      rw [pieces, List.cons_append] at h
      exact hi (List.tail_eq_of_cons_eq h)

theorem pieces_of_append_left {t : Bytes} {ps qs : List Piece} (h : pieces t = ps ++ qs) :
    pieces (ps.flatMap Piece.bytes) = ps := by
  induction ps generalizing t
  case nil => rw [List.flatMap_nil, pieces]
  case cons p ps hi =>
    have hb := flatMap_bytes_pieces t
    rw [h, List.cons_append, List.flatMap_cons, List.flatMap_append] at hb
    cases t
    case nil         => simp [pieces] at h
    case cons a rest =>
      rw [pieces, List.cons_append] at h
      obtain ⟨hp, ht⟩ := List.cons.inj h
      rw [List.flatMap_cons]
      rcases Piece.read_cases a rest with ⟨c, hc, _⟩ | ⟨hr, hn⟩
      · rw [← hp, hc]
        exact (pieces_encodeChar_append c _).trans (by rw [hi ht])
      · have hp : p = .stray a := by rw [← hp, hr]
        have hs (t : Bytes) : (Piece.stray a).bytes ++ t = a :: t := rfl
        rw [hp, hs] at hb ⊢
        rw [pieces_of_stray, hi ht]
        intro c t' hc
        refine hn c (t' ++ qs.flatMap Piece.bytes) ?_
        rw [← hb, ← List.append_assoc, ← hc, List.cons_append]

-- The first byte of a character never continues one, and all others do. So where one character
-- starts, no other goes on.
theorem isTail_encodeChar (c : Char) :
    ∃ a as, encodeChar c = a :: as ∧ Piece.isTail a = false ∧ ∀ b ∈ as, Piece.isTail b = true := by
  have hv : c.val.toNat < 0x110000 := by
    have hv : c.toNat < 0xD800 ∨ 0xDFFF < c.toNat ∧ c.toNat < 0x110000 := c.valid
    have hn : c.val.toNat = c.toNat := rfl
    omega
  have hf {n : Nat} (h : n < 0x80 ∨ 0xC0 ≤ n ∧ n < 0x100) :
      Piece.isTail (UInt8.ofNat n) = false := by
    rw [← Bool.not_eq_true, Piece.isTail_iff,
      UInt8.toNat_ofNat_of_lt' (by simp [UInt8.size]; omega)]
    omega
  simp only [encodeChar, String.utf8EncodeChar]
  repeat' split
  all_goals refine ⟨_, _, rfl, hf (by omega), ?_⟩
  all_goals
    simp only [List.forall_mem_cons, List.not_mem_nil, false_implies, implies_true,
      Piece.isTail_ofNat, and_self]

theorem pieces_append_encodeChar (t : Bytes) (c : Char) :
    pieces (t ++ encodeChar c) = pieces t ++ [.char c] := by
  induction t using pieces.induct
  case case1 =>
    have h := pieces_encodeChar_append c []
    rw [List.append_nil] at h
    rw [List.nil_append, h, pieces, List.nil_append]
  case case2 a rest hi =>
    rcases Piece.read_cases a rest with ⟨c', hc, hr⟩ | ⟨hr, hn⟩
    · rw [hr, List.append_assoc, pieces_encodeChar_append, pieces_encodeChar_append, hi,
        List.cons_append]
    · rw [hr] at hi
      rw [pieces_of_stray hn, List.cons_append, pieces_of_stray, hi, List.cons_append]
      intro c' t' hc
      have hc : (a :: rest) ++ encodeChar c = encodeChar c' ++ t' := hc
      rcases List.append_eq_append_iff.mp hc with ⟨more, he, hs⟩ | ⟨more, he, _⟩
      case inr => exact hn c' more he
      case inl =>
        -- The character would have to go on where the one at the end starts.
        obtain ⟨x, xs, hx, hxf, _⟩ := isTail_encodeChar c
        obtain ⟨y, ys, hy, _, hyt⟩ := isTail_encodeChar c'
        rw [hy] at he
        rw [hx] at hs
        cases more
        case nil => exact hn c' [] (by rw [hy, he, List.append_nil, List.append_nil])
        case cons x' more =>
          have hx' : x = x' := (List.cons.inj hs).left
          have hm : x' ∈ ys := by
            rw [(List.cons.inj he).right]
            exact List.mem_append_right rest List.mem_cons_self
          rw [hx', hyt x' hm] at hxf
          cases hxf

end Denary.Text
