import Mathlib.Data.List.Induction
import Mathlib.Data.List.TakeWhile
import Mathlib.Data.Nat.Digits.Defs
import Denary.Proofs.Frame
import Denary.Proofs.Pieces

-- Numbers that are typed in. Of a line, the white space at both ends does not count. What is left
-- is a number if it spells one, with a sign or without, and with any number of leading zeros, as
-- long as the value fits into 64 bits.

namespace Denary

namespace Text

-- `s` is what is left of `t` without the white space at both ends.
structure Stripped (t s : Bytes) : Prop where
  around : ∃ left right : List Char, (∀ c ∈ left, isBlank c = true) ∧
    (∀ c ∈ right, isBlank c = true) ∧ t = encode left ++ s ++ encode right
  first  : ∀ (c : Char) (rest : Bytes), isBlank c = true → s ≠ encodeChar c ++ rest
  last   : ∀ (c : Char) (rest : Bytes), isBlank c = true → s ≠ rest ++ encodeChar c

-- White space is always made of characters.
theorem encode_of_blank {ps : List Piece} (h : ∀ p ∈ ps, p.isBlank = true) :
    ∃ cs : List Char, (∀ c ∈ cs, isBlank c = true) ∧ ps.flatMap Piece.bytes = encode cs := by
  induction ps
  case nil => exact ⟨[], nofun, rfl⟩
  case cons p ps hi =>
    have ⟨hp, hs⟩ := List.forall_mem_cons.mp h
    have ⟨cs, hc, he⟩ := hi hs
    cases p
    case stray b => cases hp
    case char c  =>
      refine ⟨c :: cs, List.forall_mem_cons.mpr ⟨hp, hc⟩, ?_⟩
      rw [List.flatMap_cons, he]
      rfl

theorem not_of_head?_dropWhile {p : Piece → Bool} {l : List Piece} {x : Piece}
    (h : x ∈ (l.dropWhile p).head?) : p x = false := by
  have hn := List.head?_dropWhile_not p l
  rwa [Option.mem_def.mp h] at hn

-- The pieces between the white space at both ends.
def inner (ps : List Piece) : List Piece :=
  ((ps.dropWhile Piece.isBlank).reverse.dropWhile Piece.isBlank).reverse

theorem exists_inner (ps : List Piece) :
    ∃ left right, ps = left ++ (inner ps ++ right) ∧ (∀ p ∈ left, p.isBlank = true) ∧
      (∀ p ∈ right, p.isBlank = true) ∧ (∀ p ∈ (inner ps).head?, p.isBlank = false) ∧
      (∀ p ∈ (inner ps).getLast?, p.isBlank = false) := by
  generalize hq : ps.dropWhile Piece.isBlank = qs
  have hi : inner ps = (qs.reverse.dropWhile Piece.isBlank).reverse := by rw [inner, hq]
  have hr : qs = inner ps ++ (qs.reverse.takeWhile Piece.isBlank).reverse := by
    rw [hi, ← List.reverse_append, List.takeWhile_append_dropWhile, List.reverse_reverse]
  refine ⟨ps.takeWhile Piece.isBlank, (qs.reverse.takeWhile Piece.isBlank).reverse, ?_,
    fun p hp => ?_, fun p hp => ?_, fun p hp => ?_, fun p hp => ?_⟩
  · rw [← hr, ← hq, List.takeWhile_append_dropWhile]
  · exact List.all_eq_true.mp List.all_takeWhile p hp
  · exact List.all_eq_true.mp List.all_takeWhile p (List.mem_reverse.mp hp)
  · refine not_of_head?_dropWhile (l := ps) ?_
    rw [hq, hr, List.head?_append, Option.mem_def.mp hp]
    rfl
  · rw [hi, List.getLast?_reverse] at hp
    exact not_of_head?_dropWhile hp

theorem stripped_trim (t : Bytes) : Stripped t (trim t) := by
  have ⟨left, right, hp, hl, hr, hf, hg⟩ := exists_inner (pieces t)
  have ht : trim t = (inner (pieces t)).flatMap Piece.bytes := rfl
  have hi : pieces (trim t) = inner (pieces t) := pieces_of_append_left (pieces_of_append_right hp)
  have ⟨cl, hcl, hel⟩ := encode_of_blank hl
  have ⟨cr, hcr, her⟩ := encode_of_blank hr
  refine ⟨⟨cl, cr, hcl, hcr, ?_⟩, fun c rest hc hs => ?_, fun c rest hc hs => ?_⟩
  · rw [← hel, ← her, ht, List.append_assoc, ← List.flatMap_append, ← List.flatMap_append, ← hp,
      flatMap_bytes_pieces]
  · have hb := hf (.char c) (by rw [← hi, hs, pieces_encodeChar_append]; rfl)
    cases hc.symm.trans hb
  · have hb := hg (.char c) (by rw [← hi, hs, pieces_append_encodeChar]; simp)
    cases hc.symm.trans hb

theorem pieces_encode_append (cs : List Char) (t : Bytes) :
    pieces (encode cs ++ t) = cs.map Piece.char ++ pieces t := by
  induction cs
  case nil          => rfl
  case cons c cs hi =>
    rw [encode, List.flatMap_cons, List.append_assoc, pieces_encodeChar_append, ← encode, hi]
    rfl

theorem pieces_append_encode (t : Bytes) (cs : List Char) :
    pieces (t ++ encode cs) = pieces t ++ cs.map Piece.char := by
  induction cs generalizing t
  case nil          => simp [encode]
  case cons c cs hi =>
    rw [encode, List.flatMap_cons, ← List.append_assoc, ← encode, hi, pieces_append_encodeChar,
      List.append_assoc]
    rfl

theorem dropWhile_of_head? {p : Piece → Bool} {ps : List Piece} (h : ∀ x ∈ ps.head?, p x = false) :
    ps.dropWhile p = ps := by
  cases ps
  case nil       => rfl
  case cons x ps => rw [List.dropWhile_cons_of_neg (by simp [h x rfl])]

theorem inner_append {left ps right : List Piece} (hl : ∀ p ∈ left, p.isBlank = true)
    (hr : ∀ p ∈ right, p.isBlank = true) (hf : ∀ p ∈ ps.head?, p.isBlank = false)
    (hg : ∀ p ∈ ps.getLast?, p.isBlank = false) : inner (left ++ (ps ++ right)) = ps := by
  rw [inner, List.dropWhile_append_of_pos hl]
  cases ps
  case nil =>
    rw [List.nil_append, List.dropWhile_eq_nil_iff.mpr hr]
    rfl
  case cons p ps =>
    have hd : (p :: ps ++ right).dropWhile Piece.isBlank = p :: ps ++ right := dropWhile_of_head? hf
    rw [hd, List.reverse_append, List.dropWhile_append_of_pos (by simpa using hr),
      dropWhile_of_head? (by rwa [List.head?_reverse]), List.reverse_reverse]

variable {t s : Bytes}

theorem Stripped.head?_pieces (h : Stripped t s) {p : Piece} (hp : p ∈ (pieces s).head?) :
    p.isBlank = false := by
  cases p
  case stray b => rfl
  case char c  =>
    have ⟨ps, hs⟩ := List.head?_eq_some_iff.mp hp
    have he := flatMap_bytes_pieces s
    rw [hs, List.flatMap_cons] at he
    exact Bool.eq_false_iff.mpr fun hc => h.first c _ hc he.symm

theorem Stripped.getLast?_pieces (h : Stripped t s) {p : Piece} (hp : p ∈ (pieces s).getLast?) :
    p.isBlank = false := by
  cases p
  case stray b => rfl
  case char c  =>
    have ⟨ps, hs⟩ := List.getLast?_eq_some_iff.mp hp
    have he := flatMap_bytes_pieces s
    rw [hs, List.flatMap_append, List.flatMap_singleton] at he
    exact Bool.eq_false_iff.mpr fun hc => h.last c _ hc he.symm

-- There is only one way to take the white space off.
theorem stripped_iff : Stripped t s ↔ s = trim t := by
  constructor
  case mpr => exact fun h => h ▸ stripped_trim t
  case mp  =>
    intro h
    have ⟨left, right, hl, hr, ht⟩ := h.around
    have hp : pieces t = left.map Piece.char ++ (pieces s ++ right.map Piece.char) := by
      rw [ht, List.append_assoc, pieces_encode_append, pieces_append_encode]
    have hi : inner (pieces t) = pieces s := by
      rw [hp]
      exact inner_append (List.forall_mem_map.mpr hl) (List.forall_mem_map.mpr hr)
        (fun _ => h.head?_pieces) (fun _ => h.getLast?_pieces)
    have he : trim t = (inner (pieces t)).flatMap Piece.bytes := rfl
    rw [he, hi, flatMap_bytes_pieces]

-- Bytes that are no white space, each being a character of its own.
theorem trim_eq_self (h : ∀ b ∈ t, b.toNat < 0x80 ∧ isBlank (Char.ofNat b.toNat) = false) :
    trim t = t := by
  -- The first byte of white space is not among them.
  have hn (c : Char) (hc : isBlank c = true) : ¬ encodeChar c ⊆ t := by
    intro ht
    have ⟨a, as, he, hr⟩ := Piece.read_encodeChar c
    have ⟨ha, hb⟩ := h a (ht (he ▸ List.mem_cons_self))
    have hp := (hr []).symm.trans (Piece.read_one ha _)
    rw [← Piece.char.inj (congrArg Prod.fst hp), hc] at hb
    cases hb
  refine (stripped_iff.mp ⟨⟨[], [], nofun, nofun, by simp [encode]⟩, ?_, ?_⟩).symm
  · exact fun c rest hc ht => hn c hc (ht ▸ List.subset_append_left ..)
  · exact fun c rest hc ht => hn c hc (ht ▸ List.subset_append_right ..)

end Text

namespace Decimal

variable {t ds : Bytes} {n : Int}

-- One or more digits.
def IsNumeral (ds : Bytes) : Prop :=
  ds ≠ [] ∧ ∀ d ∈ ds, Text.isDigit d = true

-- The value of digits in base ten, the last of which counts once.
def numeralValue (ds : Bytes) : Nat :=
  Nat.ofDigits 10 (ds.map Text.digitValue).reverse

-- A number as it may be typed in: digits, and in front of them at most one sign.
inductive Spells : Bytes → Int → Prop
  | plain {ds : Bytes} (h : IsNumeral ds) : Spells ds (numeralValue ds)
  | plus {ds : Bytes} (h : IsNumeral ds) : Spells (0x2B :: ds) (numeralValue ds)
  | minus {ds : Bytes} (h : IsNumeral ds) : Spells (0x2D :: ds) (-(numeralValue ds : Int))

theorem valueOf_eq_numeralValue (ds : Bytes) : valueOf ds = numeralValue ds := by
  induction ds using List.reverseRecOn
  case nil => rfl
  case append_singleton ds d hi =>
    rw [valueOf_append, hi, numeralValue, numeralValue, List.map_append, List.reverse_append,
      List.map_singleton, List.reverse_singleton, List.singleton_append, Nat.ofDigits_cons,
      Nat.mul_comm, Nat.add_comm]

theorem natural?_eq_some_iff {n : Nat} :
    natural? t = some n ↔ IsNumeral t ∧ n = numeralValue t := by
  have hn : (t ≠ [] ∧ t.all Text.isDigit = true) ↔ IsNumeral t :=
    and_congr_right fun _ => List.all_eq_true
  rw [natural?, valueOf_eq_numeralValue]
  split
  case isTrue h  => simp [hn.mp h, eq_comm]
  case isFalse h => simp [mt hn.mpr h]

theorem signed_eq_some_iff {sign : Int → Int} :
    ((do let k ← natural? t; pure (k : Int)) : Option Int).map sign = some n ↔
      IsNumeral t ∧ n = sign (numeralValue t) := by
  cases hk : natural? t
  case none =>
    have hn : ¬ IsNumeral t := fun h => nomatch hk.symm.trans (natural?_eq_some_iff.mpr ⟨h, rfl⟩)
    simp [hn]
  case some k =>
    have ⟨hn, hv⟩ := natural?_eq_some_iff.mp hk
    simp [hn, hv, eq_comm]

theorem integer?_eq_some_iff : integer? t = some n ↔ Spells t n := by
  constructor
  case mp =>
    intro h
    unfold integer? at h
    split at h
    all_goals obtain ⟨hd, rfl⟩ := signed_eq_some_iff.mp h
    · exact .minus hd
    · exact .plus hd
    · exact .plain hd
  case mpr =>
    intro h
    unfold integer?
    cases h
    case minus h => exact signed_eq_some_iff.mpr ⟨h, rfl⟩
    case plus h  => exact signed_eq_some_iff.mpr ⟨h, rfl⟩
    case plain h =>
      -- A sign is no digit.
      split
      case h_1 => cases h.right _ List.mem_cons_self
      case h_2 => cases h.right _ List.mem_cons_self
      case h_3 => exact signed_eq_some_iff.mpr ⟨h, rfl⟩

theorem fits64_iff : fits64 n = true ↔ -0x8000000000000000 ≤ n ∧ n ≤ 0x7FFFFFFFFFFFFFFF := by
  simp [fits64]
  omega

theorem int64?_eq_some_iff {k : Int64} : int64? t = some k ↔ Spells t k.toInt := by
  have hk : fits64 k.toInt = true := by
    have hl := k.le_toInt
    have hu := k.toInt_lt
    rw [fits64_iff]
    omega
  rw [← integer?_eq_some_iff]
  constructor
  case mp =>
    intro h
    unfold int64? at h
    split at h
    case h_2 => cases h
    case h_1 n hn =>
      split at h
      case isFalse => cases h
      case isTrue hf =>
        have ⟨hl, hu⟩ := fits64_iff.mp hf
        rw [hn, ← Option.some.inj h, Int64.toInt_ofInt_of_le hl (by omega)]
  case mpr =>
    intro h
    rw [int64?, h]
    simp only [hk, ↓reduceIte, Int64.ofInt_toInt]

theorem isNumeral_natural (k : Nat) : IsNumeral (natural k) := by
  refine ⟨?_, fun d => isDigit_of_mem_natural⟩
  unfold natural
  split <;> simp

-- A number spells itself.
theorem spells_integer (n : Int) : Spells (integer n) n := by
  have hv : numeralValue (natural n.natAbs) = n.natAbs := by
    rw [← valueOf_eq_numeralValue, valueOf_natural]
  unfold integer
  split
  case isTrue hn =>
    have hs := Spells.minus (isNumeral_natural n.natAbs)
    have he : -(n.natAbs : Int) = n := by omega
    rwa [hv, he] at hs
  case isFalse hn =>
    have hs := Spells.plain (isNumeral_natural n.natAbs)
    have he : (n.natAbs : Int) = n := by omega
    rwa [hv, he] at hs

theorem trim_integer (n : Int) : Text.trim (integer n) = integer n := by
  refine Text.trim_eq_self fun b hb => ?_
  have hb : b.toNat = 45 ∨ 48 ≤ b.toNat ∧ b.toNat ≤ 57 := by
    rcases mem_integer hb with rfl | hd
    · exact .inl rfl
    · exact .inr (by simpa [Text.isDigit, UInt8.le_iff_toNat_le] using hd)
  have hv : (Char.ofNat b.toNat).toNat = b.toNat := Text.toNat_ofNat (.inl (by omega))
  refine ⟨by omega, ?_⟩
  simp [Text.isBlank, hv]
  omega

end Decimal

namespace Opcode

open Decimal

variable {env : Environment} {site : Site} {m : Machine} {line : Bytes}

-- The question that comes first.
def question : Remarks where
  printed := [ascii "Enter a number: "]

-- What is done with a number `n` that was typed in.
def Enters (env : Environment) (site : Site) (n : Int64) (m : Machine)
    (r : Machine × Except Fault Status) : Prop :=
  Appends env ⟨ascii "input_num_" ++ Decimal.integer site.position, .int n⟩
    (question ++ Remarks.offer env site m.state.store) m.world.console.readLine.2 m r

-- What is done with a line that is no number.
def Refuses (env : Environment) (site : Site) (line : Bytes) (m : Machine)
    (r : Machine × Except Fault Status) : Prop :=
  Declines env
    (question ++ .warn site Category.console (ascii "not an integer: " ++ Text.quoted line))
    m.world.console.readLine.2 m r

section

variable (h₀ : 0 ≤ site.position) (hp : site.position % 10 = 0)

include h₀ hp

theorem ofNumber?_numberAt :
    DialogueOperation.ofNumber? (DialogueOperation.numberAt site.position) = some .readInt := by
  rw [DialogueOperation.numberAt, Int.tmod_eq_emod_of_nonneg h₀, hp]
  rfl

variable (env m)

theorem dialogue_readInt_describes :
    Effect.Describes
      { offered := Effect.enteredInt site.position m.world.console.readLine.1
        console := m.world.console.readLine.2 } m (dialogue env site m) := by
  have h := dialogue_describes m env site
  rwa [Effect.dialogue, ofNumber?_numberAt h₀ hp] at h

theorem dialogue_readInt_account :
    (Account.readInt env site m).Describes env m (dialogue env site m) := by
  have h := dialogue_account m env site
  rwa [Account.dialogue, ofNumber?_numberAt h₀ hp] at h

variable {m} (hl : m.world.console.readLine.1 = .ok line)

include hl

theorem dialogue_enters {n : Int64} (hs : Spells (Text.trim line) n.toInt) :
    Enters env site n m (dialogue env site m) := by
  have hn : int64? (Text.trim line) = some n := int64?_eq_some_iff.mpr hs
  have he := dialogue_readInt_describes env m h₀ hp
  have ha := dialogue_readInt_account env m h₀ hp
  simp only [hl, Effect.enteredInt, hn] at he
  simp only [Account.readInt, hl, hn] at ha
  exact appends_of_describes he ha rfl

theorem dialogue_refuses (hs : ∀ n : Int64, ¬ Spells (Text.trim line) n.toInt) :
    Refuses env site line m (dialogue env site m) := by
  have hn : int64? (Text.trim line) = none :=
    Option.eq_none_iff_forall_ne_some.mpr fun n h => hs n (int64?_eq_some_iff.mp h)
  have he := dialogue_readInt_describes env m h₀ hp
  have ha := dialogue_readInt_account env m h₀ hp
  simp only [hl, Effect.enteredInt, hn] at he
  simp only [Account.readInt, hl, hn] at ha
  exact declines_of_describes he ha rfl rfl

-- A store that has room tells which number was typed in.
theorem spells_of_entries {n : Int64} (hf : m.state.store.isFull = false)
    (hn : (dialogue env site m).1.state.store.toList = m.state.store.toList
      ++ [⟨ascii "input_num_" ++ Decimal.integer site.position, .int n⟩]) :
    Spells (Text.trim line) n.toInt := by
  by_cases hs : ∃ k : Int64, Spells (Text.trim line) k.toInt
  case pos =>
    have ⟨k, hk⟩ := hs
    have he := hn.symm.trans (dialogue_enters env h₀ hp hl hk).entries
    rw [hf] at he
    have hk' : n = k := by simpa using he
    exact hk' ▸ hk
  case neg =>
    have hr := (dialogue_refuses env h₀ hp hl (not_exists.mp hs)).state
    rw [hr] at hn
    simp at hn

end

-- Asking for a number, at any position whose last digit is zero, in any state and for any line
-- that is typed in. With `s` for the line without the white space around it, which is the only
-- such text, a number is put into the store exactly if `s` spells it and it has 64 bits. All other
-- lines are refused. So a number that was written is read back.
theorem dialogue_numeral_exact (env : Environment) (site : Site) (m : Machine) (line : Bytes)
    (h₀ : 0 ≤ site.position) (hp : site.position % 10 = 0)
    (hl : m.world.console.readLine.1 = .ok line) :
    let s     := Text.trim line
    let r     := dialogue env site m
    let store := m.state.store
    (∀ t, Text.Stripped line t ↔ t = s) ∧
    (∀ n : Int, Spells s n → -0x8000000000000000 ≤ n → n ≤ 0x7FFFFFFFFFFFFFFF →
      ∃ k : Int64, k.toInt = n ∧ Enters env site k m r) ∧
    ((∀ n : Int, Spells s n → n < -0x8000000000000000 ∨ 0x7FFFFFFFFFFFFFFF < n) →
      Refuses env site line m r) ∧
    (store.isFull = false → ∀ k : Int64,
      r.1.state.store.toList
          = store.toList ++ [⟨ascii "input_num_" ++ Decimal.integer site.position, .int k⟩] ↔
        Spells s k.toInt) ∧
    (∀ k : Int64, line = (Value.int k).render → Enters env site k m r) := by
  intro s r store
  refine ⟨fun t => Text.stripped_iff, fun n hs h₁ h₂ => ?_, fun hs => ?_, fun hf k => ?_,
    fun k hk => ?_⟩
  · have hk := Int64.toInt_ofInt_of_le h₁ (by omega)
    exact ⟨.ofInt n, hk, dialogue_enters env h₀ hp hl (hk.symm ▸ hs)⟩
  · refine dialogue_refuses env h₀ hp hl fun k hk => ?_
    have h₁ := k.le_toInt
    have h₂ := k.toInt_lt
    have h₃ := hs k.toInt hk
    omega
  · refine ⟨spells_of_entries env h₀ hp hl hf, fun hk => ?_⟩
    have he := (dialogue_enters env h₀ hp hl hk).entries
    rwa [hf] at he
  · refine dialogue_enters env h₀ hp hl ?_
    have hs : Text.trim line = integer k.toInt := hk ▸ trim_integer k.toInt
    exact hs.symm ▸ spells_integer k.toInt

-- The least number of 64 bits is read among zeros and white space, and the one behind the greatest
-- is refused.
theorem dialogue_numeral_exact_limits :
    let env := Environment.plain (Code.ofArray #[]) {}
    let m (line : Bytes) : Machine := ⟨State.start {}, { (default : World) with
      console := ⟨line ++ ascii "\r\n", none, [], Colour.plain⟩ }⟩
    let r (line : Bytes) := dialogue env ⟨20, 0x37⟩ (m line)
    let low : Bytes  := [0xC2, 0xA0] ++ ascii "-009223372036854775808\t"
    let high : Bytes := ascii " +9223372036854775808"
    (r low).2 = .ok (.done true) ∧ (r low).1.state.store.toList
        = [⟨ascii "input_num_" ++ Decimal.integer 20, .int Int64.minValue⟩] ∧
      (r high).2 = .ok (.done false) ∧ (r high).1.state.store.toList = [] ∧
      (r high).1.state.warnings = 1 := by
  intro env m r low high
  have hl : (m low).world.console.readLine.1 = .ok low := by rfl
  have hh : (m high).world.console.readLine.1 = .ok high := by rfl
  have hlow : integer? (Text.trim low) = some (-0x8000000000000000) := by decide +kernel
  have hhigh : integer? (Text.trim high) = some 0x8000000000000000 := by decide +kernel
  have ⟨_, hl, _⟩ := dialogue_numeral_exact env ⟨20, 0x37⟩ _ low (by decide) (by decide) hl
  have ⟨_, _, hh, _⟩ := dialogue_numeral_exact env ⟨20, 0x37⟩ _ high (by decide) (by decide) hh
  have ⟨k, hk, he⟩ := hl _ (integer?_eq_some_iff.mp hlow) (by decide) (by decide)
  have hk : k = Int64.minValue := Int64.toInt_inj.mp hk
  have hr := hh fun n hn => by
    have hn := (integer?_eq_some_iff.mpr hn).symm.trans hhigh
    rw [Option.some.inj hn]
    decide
  refine ⟨he.status, hk ▸ he.entries, hr.status, ?_, ?_⟩
  · exact congrArg (·.store.toList) hr.state
  · exact congrArg (·.warnings) hr.state

end Opcode
end Denary
