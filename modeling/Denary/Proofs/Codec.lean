import Denary.Proofs.Message

-- The laws of the binary code in both directions. What is written are the bits of the bytes, the
-- highest one first, and what is read are groups of eight digits. Both go byte by byte, so all
-- that is lost on the way is lost by what becomes of a single byte.

namespace Denary.Bits

variable {t d xs : Bytes}

-- What is left of a byte that is written in binary digits and read back.
def survivor (b : UInt8) : Bytes :=
  if b = 0 then [Text.space] else if 32 ≤ b ∧ b ≤ 126 then [b] else []

-- The groups of eight digits that stand for a byte each. Digits at the end that fill no group are
-- in none of them.
def groups (d : Bytes) : List Bytes :=
  (List.range (d.length / 8)).map fun i => (d.drop (8 * i)).take 8

-- Digits taken in groups of eight, down to those that fill no group.
@[elab_as_elim]
theorem group_induction {motive : Bytes → Prop} (short : ∀ d, d.length < 8 → motive d)
    (group : ∀ g rest, g.length = 8 → motive rest → motive (g ++ rest)) (d : Bytes) : motive d := by
  by_cases hd : d.length < 8
  case pos => exact short d hd
  case neg =>
    have hr := group_induction short group (d.drop 8)
    have hg := group (d.take 8) (d.drop 8) (by simp; omega) hr
    rwa [List.take_append_drop] at hg
termination_by d.length
decreasing_by simp; omega

theorem groups_of_short (h : d.length < 8) : groups d = [] := by
  rw [groups, Nat.div_eq_of_lt h]
  rfl

theorem groups_append (h : xs.length = 8) (rest : Bytes) :
    groups (xs ++ rest) = xs :: groups rest := by
  have hl : (xs ++ rest).length / 8 = rest.length / 8 + 1 := by
    rw [List.length_append, h]
    omega
  have hd (i : Nat) : (xs ++ rest).drop (8 * (i + 1)) = rest.drop (8 * i) := by
    rw [List.drop_append, List.drop_of_length_le (by omega), h, List.nil_append]
    congr 1
  rw [groups, hl, List.range_succ_eq_map, List.map_cons, List.map_map, Nat.mul_zero, List.drop_zero,
    List.take_left' h]
  simp only [Function.comp_def, Nat.succ_eq_add_one, hd]
  rfl

theorem length_of_mem_groups {g : Bytes} (h : g ∈ groups d) : g.length = 8 := by
  have ⟨i, hi, hg⟩ := List.mem_map.mp h
  have hi := List.mem_range.mp hi
  rw [← hg, List.length_take, List.length_drop]
  omega

theorem flatten_groups (h : 8 ∣ d.length) : (groups d).flatten = d := by
  induction d using group_induction
  case short d hd =>
    have hn : d = [] := List.length_eq_zero_iff.mp (Nat.eq_zero_of_dvd_of_lt h hd)
    rw [groups_of_short hd, hn]
    rfl
  case group g rest hg hi =>
    have hr : 8 ∣ rest.length := by
      rw [List.length_append, hg] at h
      omega
    rw [groups_append hg, List.flatten_cons, hi hr]

theorem decode_of_short (h : d.length < 8) : decode d = [] := by
  unfold decode
  split
  case h_1 => simp only [List.length_cons] at h; omega
  case h_2 => rfl

theorem decode_eq_flatMap (d : Bytes) :
    decode d = (groups d).flatMap fun g => shown (valueOf g) := by
  induction d using group_induction
  case short d hd         => rw [decode_of_short hd, groups_of_short hd, List.flatMap_nil]
  case group g rest hg hi => rw [decode_append hg, groups_append hg, List.flatMap_cons, hi]

theorem decode_append_of_dvd (h : 8 ∣ xs.length) (ys : Bytes) :
    decode (xs ++ ys) = decode xs ++ decode ys := by
  induction xs using group_induction
  case short xs hx =>
    have hn : xs = [] := List.length_eq_zero_iff.mp (Nat.eq_zero_of_dvd_of_lt h hx)
    rw [hn]
    rfl
  case group g rest hg hi =>
    have hr : 8 ∣ rest.length := by
      rw [List.length_append, hg] at h
      omega
    rw [List.append_assoc, decode_append hg, decode_append hg, hi hr, List.append_assoc]

-- Whatever is read can be printed.
theorem printable_decode (d : Bytes) : Printable (decode d) := by
  intro b hb
  rw [decode_eq_flatMap] at hb
  have ⟨g, _, hb⟩ := List.mem_flatMap.mp hb
  unfold shown at hb
  split at hb
  case isTrue h =>
    rw [List.mem_singleton.mp hb, UInt8.le_iff_toNat_le, UInt8.le_iff_toNat_le,
      UInt8.toNat_ofNat_of_lt' (by simp [UInt8.size]; omega)]
    exact h
  case isFalse =>
    split at hb
    case isTrue  => rw [List.mem_singleton.mp hb]; decide
    case isFalse => cases hb

-- The digits of a number are its bits, the highest one first.
theorem getElem?_digits {width n j : Nat} (hj : j < width) :
    (digits width n)[j]? = some (if n.testBit (width - 1 - j) then one else zero) := by
  induction width generalizing n j
  case zero => cases hj
  case succ w hi =>
    rw [digits]
    by_cases hw : j < w
    case pos =>
      have hb : w + 1 - 1 - j = (w - 1 - j) + 1 := by omega
      rw [List.getElem?_append_left (by rwa [length_digits]), hi hw, hb, Nat.testBit_succ]
    case neg =>
      have hw : j = w := by omega
      rw [List.getElem?_append_right (by rw [length_digits]; omega), length_digits, hw]
      simp [Nat.testBit_zero]

theorem getElem?_encode {b : UInt8} {i j : Nat} (hb : t[i]? = some b) (hj : j < 8) :
    (encode t)[8 * i + j]? = some (if b.toNat.testBit (7 - j) then one else zero) := by
  induction t generalizing i
  case nil => cases hb
  case cons b' t hi =>
    rw [encode, List.flatMap_cons, ← encode]
    cases i
    case zero =>
      cases hb
      rw [List.getElem?_append_left (by rw [length_digits]; omega), Nat.mul_zero, Nat.zero_add]
      exact getElem?_digits hj
    case succ i =>
      rw [List.getElem?_append_right (by rw [length_digits]; omega), length_digits, ← hi hb]
      congr 1
      omega

-- A group of digits holds the bits of a byte, the highest one first.
def Holds (g : Bytes) (b : UInt8) : Prop :=
  ∀ j < 8, g[j]? = some (if b.toNat.testBit (7 - j) then one else zero)

theorem holds_iff {g : Bytes} {b : UInt8} (hl : g.length = 8) :
    Holds g b ↔ g = digits 8 b.toNat := by
  constructor
  case mpr => exact fun h j hj => h ▸ getElem?_digits hj
  case mp  =>
    intro h
    refine List.ext_getElem? fun j => ?_
    by_cases hj : j < 8
    case pos => rw [h j hj, getElem?_digits hj]
    case neg =>
      rw [List.getElem?_eq_none (by omega), List.getElem?_eq_none (by rw [length_digits]; omega)]

theorem shown_eq_survivor (b : UInt8) : shown b.toNat = survivor b := by
  have hz : b = 0 ↔ b.toNat = 0 := UInt8.toNat_inj.symm
  have hp : (32 ≤ b ∧ b ≤ 126) ↔ (32 ≤ b.toNat ∧ b.toNat ≤ 126) :=
    and_congr UInt8.le_iff_toNat_le UInt8.le_iff_toNat_le
  simp only [shown, survivor, hz, hp, Nat.toUInt8_eq, UInt8.ofNat_toNat]
  split
  case isTrue h  => rw [if_neg (by omega)]
  case isFalse h => rfl

theorem valueOf_digits_toNat (b : UInt8) : valueOf (digits 8 b.toNat) = b.toNat := by
  rw [valueOf_digits]
  exact Nat.mod_eq_of_lt b.toNat_lt

theorem groups_encode (t : Bytes) : groups (encode t) = t.map fun b => digits 8 b.toNat := by
  induction t
  case nil => rfl
  case cons b t hi =>
    rw [encode, List.flatMap_cons, groups_append (length_digits ..), ← encode, hi, List.map_cons]

theorem decode_encode_eq_flatMap (t : Bytes) : decode (encode t) = t.flatMap survivor := by
  simp only [decode_eq_flatMap, groups_encode, List.flatMap_map, valueOf_digits_toNat,
    shown_eq_survivor]

-- What is not printable is lost, and what is read is printable.
theorem decode_encode_eq_iff : decode (encode t) = t ↔ Printable t :=
  ⟨fun h => h ▸ printable_decode (encode t), decode_encode⟩

theorem encode_shown {b : UInt8} (h : 32 ≤ b ∧ b ≤ 126) :
    encode (shown (valueOf (digits 8 b.toNat))) = digits 8 b.toNat := by
  have hz : b ≠ 0 := by
    rintro rfl
    exact absurd h.left (by decide)
  rw [valueOf_digits_toNat, shown_eq_survivor, survivor, if_neg hz, if_pos h, encode,
    List.flatMap_singleton]

theorem encode_decode_eq_iff :
    encode (decode d) = d ↔ 8 ∣ d.length ∧ (∀ b ∈ d, isBit b = true) ∧
      ∀ g ∈ groups d, ∃ b, (32 ≤ b ∧ b ≤ 126) ∧ Holds g b := by
  constructor
  case mp =>
    intro h
    refine ⟨⟨_, h ▸ length_encode (decode d)⟩, fun b hb => isBit_of_mem_encode (h.symm ▸ hb), ?_⟩
    intro g hg
    have hl := length_of_mem_groups hg
    rw [← h, groups_encode] at hg
    have ⟨b, hb, he⟩ := List.mem_map.mp hg
    exact ⟨b, printable_decode d b hb, (holds_iff hl).mpr he.symm⟩
  case mpr =>
    intro ⟨hl, _, hv⟩
    have he : ∀ g ∈ groups d, encode (shown (valueOf g)) = g := by
      intro g hg
      have ⟨b, hp, hb⟩ := hv g hg
      rw [(holds_iff (length_of_mem_groups hg)).mp hb, encode_shown hp]
    calc encode (decode d)
      _ = (groups d).flatMap fun g => encode (shown (valueOf g)) := by
        rw [decode_eq_flatMap, encode, List.flatMap_assoc]
        rfl
      _ = (groups d).flatMap id := List.flatMap_congr he
      _ = d := by rw [List.flatMap_id, flatten_groups hl]

theorem isBit_iff {b : UInt8} : isBit b = true ↔ b = zero ∨ b = one := by
  simp [isBit]

-- Writing gives the bits of each byte, and reading back loses what a single byte loses. So a text
-- survives exactly if it is printable, and digits survive exactly if they are the bits of printable
-- bytes. Groups of digits are read one after another.
theorem codec_laws (t d xs ys : Bytes) :
    (encode t).length = 8 * t.length ∧ (∀ b ∈ encode t, b = zero ∨ b = one) ∧
    (∀ (i j : Nat) (b : UInt8), t[i]? = some b → j < 8 →
      (encode t)[8 * i + j]? = some (if b.toNat.testBit (7 - j) then one else zero)) ∧
    decode (encode t) = t.flatMap survivor ∧
    (decode (encode t) = t ↔ Printable t) ∧
    (encode (decode d) = d ↔ 8 ∣ d.length ∧ (∀ b ∈ d, b = zero ∨ b = one) ∧
      ∀ g ∈ groups d, ∃ b, (32 ≤ b ∧ b ≤ 126) ∧ Holds g b) ∧
    (8 ∣ xs.length → decode (xs ++ ys) = decode xs ++ decode ys) := by
  simp only [← isBit_iff]
  exact ⟨length_encode t, fun _ => isBit_of_mem_encode, fun _ _ _ => getElem?_encode,
    decode_encode_eq_flatMap t, decode_encode_eq_iff, encode_decode_eq_iff,
    fun h => decode_append_of_dvd h ys⟩

-- Of four bytes, one is kept, one becomes a blank, and two are lost. Of digits, one that is no bit
-- counts as zero.
theorem codec_laws_lossy :
    let t : Bytes := [0x41, 0, 0x7F, 0xC8]
    let d : Bytes := ascii "01000002"
    8 ∣ (encode t).length ∧ decode (encode t ++ d) = [0x41, 0x20, 0x40] ∧
      decode (encode t) ≠ t ∧ encode (decode d) ≠ d := by
  intro t d
  have ⟨hl, _, _, hd, hp, he, ha⟩ := codec_laws t d (encode t) d
  have h₈ : 8 ∣ (encode t).length := ⟨_, hl⟩
  refine ⟨h₈, ?_, fun h => absurd (hp.mp h) (by decide), fun h => ?_⟩
  · rw [ha h₈, hd]
    decide
  · exact absurd ((he.mp h).right.left 0x32 (by decide)) (by decide)

end Denary.Bits
