import Denary.Proofs.Pieces

-- Texts read backwards, character by character. Bytes that belong to no character do not come
-- back: each of them is taken for a replacement character, which is longer. So a text can become
-- too long by being reversed, but only once, since a reversed text holds nothing but characters.

namespace Denary

namespace Text

-- The characters of a text, from left to right. Where no character starts, a single byte is passed
-- over, and a replacement character stands for it.
inductive Decodes : Bytes → List Char → Prop
  | nil : Decodes [] []
  | char {c : Char} {t : Bytes} {cs : List Char} (rest : Decodes t cs) :
    Decodes (encodeChar c ++ t) (c :: cs)
  | stray {b : UInt8} {t : Bytes} {cs : List Char}
    (none : ∀ (c : Char) (t' : Bytes), b :: t ≠ encodeChar c ++ t') (rest : Decodes t cs) :
    Decodes (b :: t) (replacement :: cs)

theorem chars_encodeChar_append (c : Char) (t : Bytes) :
    chars (encodeChar c ++ t) = c :: chars t := by
  rw [chars, pieces_encodeChar_append, List.map_cons]
  rfl

theorem chars_encode (cs : List Char) : chars (encode cs) = cs := by
  induction cs
  case nil          => rw [encode, List.flatMap_nil, chars, pieces, List.map_nil]
  case cons c cs hi => rw [encode, List.flatMap_cons, chars_encodeChar_append, ← encode, hi]

theorem chars_of_stray {b : UInt8} {t : Bytes}
    (h : ∀ (c : Char) (t' : Bytes), b :: t ≠ encodeChar c ++ t') :
    chars (b :: t) = replacement :: chars t := by
  rw [chars, pieces_of_stray h, List.map_cons]
  rfl

theorem decodes_chars (t : Bytes) : Decodes t (chars t) := by
  induction t using pieces.induct
  case case1 =>
    rw [chars, pieces, List.map_nil]
    exact .nil
  case case2 a rest hi =>
    rcases Piece.read_cases a rest with ⟨c, _, hc⟩ | ⟨hr, hn⟩
    · rw [hc, chars_encodeChar_append]
      exact .char hi
    · rw [chars_of_stray hn]
      rw [hr] at hi
      exact .stray hn hi

theorem decodes_iff {t : Bytes} {cs : List Char} : Decodes t cs ↔ cs = chars t := by
  constructor
  case mpr => exact fun h => h ▸ decodes_chars t
  case mp =>
    intro h
    induction h
    case nil             => rw [chars, pieces, List.map_nil]
    case char _ hi       => rw [chars_encodeChar_append, hi]
    case stray hn _ hi   => rw [chars_of_stray hn, hi]

theorem isValidUTF8_iff {t : Bytes} : t.toByteArray.IsValidUTF8 ↔ encode (chars t) = t := by
  constructor
  case mp =>
    intro ⟨cs, h⟩
    have ht : t = encode cs := List.toByteArray_inj.mp h
    rw [ht, chars_encode]
  case mpr => exact fun h => ⟨chars t, by rw [← h, chars_encode]; rfl⟩

theorem isValidUTF8_encode (cs : List Char) : (encode cs).toByteArray.IsValidUTF8 :=
  ⟨cs, rfl⟩

theorem length_encode_reverse (cs : List Char) :
    (encode cs.reverse).length = (encode cs).length :=
  ((List.reverse_perm cs).flatMap_right encodeChar).length_eq

-- A byte that only continues characters starts none.
theorem chars_replicate_tail (n : Nat) :
    chars (List.replicate n 0x80) = List.replicate n replacement := by
  induction n
  case zero => rw [List.replicate_zero, chars, pieces, List.map_nil, List.replicate_zero]
  case succ n hi =>
    have hr (rest : Bytes) : Piece.read 0x80 rest = (.stray 0x80, rest) := rfl
    rw [List.replicate_succ, chars, pieces, hr, List.map_cons, ← chars, hi]
    rfl

theorem length_encode_replicate (n : Nat) (c : Char) :
    (encode (List.replicate n c)).length = n * (encodeChar c).length := by
  simp [encode]

end Text

namespace TextOperation

open Text

theorem evaluate_reverse (second s : Bytes) :
    evaluate 4 second s = if (encode (chars s)).length ≤ 1000 then .ok (encode (chars s).reverse)
      else .error (.plain .textTooLong) := by
  rw [← length_encode_reverse, ← reversed_eq]
  rfl

theorem evaluate_reverse_eq_ok_iff {second s t : Bytes} :
    evaluate 4 second s = .ok t ↔
      (encode (chars s)).length ≤ 1000 ∧ t = encode (chars s).reverse := by
  rw [evaluate_reverse]
  split
  case isTrue hl  => simp [hl, eq_comm]
  case isFalse hl => simp [hl]

-- Characters that are reversed twice are back in their order.
theorem evaluate_reverse_encode {cs : List Char} (hl : (encode cs).length ≤ 1000) (second : Bytes) :
    evaluate 4 second (encode cs) = .ok (encode cs.reverse) ∧
      evaluate 4 second (encode cs.reverse) = .ok (encode cs) := by
  simp [evaluate_reverse_eq_ok_iff, chars_encode, length_encode_reverse, hl]

-- The laws of reversing. The characters `r` of a text are read in one way only. It can be reversed
-- exactly if they fit, and then the result holds `r` from its end on. For bytes that are characters
-- throughout, this is an involution that keeps the length, and for others it becomes one after the
-- first time.
theorem reversal_laws (second s : Bytes) :
    let r := chars s
    (∀ cs, Decodes s cs ↔ cs = r) ∧
    ((∃ t, evaluate 4 second s = .ok t) ↔ (encode r).length ≤ 1000) ∧
    (∀ t, evaluate 4 second s = .ok t → t = encode r.reverse ∧ t.toByteArray.IsValidUTF8) ∧
    (1000 < (encode r).length → evaluate 4 second s = .error (.plain .textTooLong)) ∧
    (∃ s' : Bytes, s'.length ≤ 1000 ∧ evaluate 4 second s' = .error (.plain .textTooLong)) ∧
    (s.toByteArray.IsValidUTF8 → s.length ≤ 1000 →
      ∃ t, evaluate 4 second s = .ok t ∧ t.length = s.length ∧
        ∀ second', evaluate 4 second' t = .ok s) ∧
    (∀ t, evaluate 4 second s = .ok t →
      ∃ u, ∀ second', evaluate 4 second' t = .ok u ∧ evaluate 4 second' u = .ok t) := by
  intro r
  have ho {t : Bytes} :
      evaluate 4 second s = .ok t ↔ (encode r).length ≤ 1000 ∧ t = encode r.reverse :=
    evaluate_reverse_eq_ok_iff
  refine ⟨fun cs => decodes_iff, ⟨fun ⟨t, ht⟩ => (ho.mp ht).left, fun hl => ⟨_, ho.mpr ⟨hl, rfl⟩⟩⟩,
    fun t ht => ?_, fun hl => ?_, ⟨List.replicate 334 0x80, ?_, ?_⟩, fun hv hl => ?_,
    fun t ht => ?_⟩
  · have ⟨_, he⟩ := ho.mp ht
    exact ⟨he, he ▸ isValidUTF8_encode _⟩
  · rw [evaluate_reverse, if_neg (Nat.not_le_of_lt hl)]
  · rw [List.length_replicate]
    decide
  · rw [evaluate_reverse, chars_replicate_tail, length_encode_replicate, if_neg (by decide)]
  · have hs : encode r = s := isValidUTF8_iff.mp hv
    have hl : (encode r).length ≤ 1000 := hs ▸ hl
    refine ⟨encode r.reverse, ho.mpr ⟨hl, rfl⟩, ?_, fun second' => ?_⟩
    · rw [length_encode_reverse, hs]
    · rw [(evaluate_reverse_encode hl second').right, hs]
  · have ⟨hl, he⟩ := ho.mp ht
    exact ⟨encode r, fun second' => he ▸ (evaluate_reverse_encode hl second').symm⟩

-- A stray byte between two letters becomes a character at first, and then the text only turns.
theorem reversal_laws_stray :
    let s : Bytes := [0x61, 0xFF, 0xC3, 0xA9]
    let t : Bytes := [0xC3, 0xA9, 0xEF, 0xBF, 0xBD, 0x61]
    let u : Bytes := [0x61, 0xEF, 0xBF, 0xBD, 0xC3, 0xA9]
    evaluate 4 [] s = .ok t ∧ t.toByteArray.IsValidUTF8 ∧ t.length ≤ 1000 ∧
      evaluate 4 [] t = .ok u ∧ evaluate 4 [] u = .ok t := by
  intro s t u
  have hc : chars s = ['a', replacement, 'é'] := by decide +kernel
  have hc' : chars t = ['é', replacement, 'a'] := by decide +kernel
  have ⟨_, ho, he, _, _, _, _⟩ := reversal_laws [] s
  have ⟨_, _, he', _, _, hv, _⟩ := reversal_laws [] t
  have ⟨t', ht⟩ := ho.mpr (by rw [hc]; decide)
  have hs : t' = t := by
    rw [(he t' ht).left, hc]
    decide
  rw [hs] at ht
  have ⟨u', hu, _, hb⟩ := hv (he t ht).right (by decide)
  have hs : u' = u := by
    rw [(he' u' hu).left, hc']
    decide
  rw [hs] at hu hb
  exact ⟨ht, (he t ht).right, by decide, hu, hb []⟩

end TextOperation
end Denary
