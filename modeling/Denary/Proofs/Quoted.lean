import Denary.Text.Quoted
import Denary.Proofs.Pieces

namespace Denary.Text

-- Quoted texts can be read back. A quoted text never leaves its line, and two texts that are quoted
-- alike are the same text.

def hexDigitValue (b : UInt8) : Nat :=
  if isDigit b then digitValue b else b.toNat - 87

def hexValue (digits : Bytes) : Nat :=
  digits.foldl (fun n d => n * 16 + hexDigitValue d) 0

theorem toNat_hexDigit {n : Nat} (h : n < 16) :
    (hexDigit false n).toNat = if n < 10 then 48 + n else 87 + n := by
  unfold hexDigit
  split
  case isTrue h  => exact toNat_digit h
  case isFalse h => simp; omega

theorem hexDigitValue_hexDigit {n : Nat} (h : n < 16) : hexDigitValue (hexDigit false n) = n := by
  have ht := toNat_hexDigit h
  simp only [hexDigitValue, isDigit, digitValue, UInt8.le_iff_toNat_le, ht]
  split <;> simp <;> omega

theorem hexValue_hex {width n : Nat} (h : n < Nat.pow 16 width) : hexValue (hex false width n) = n := by
  induction width generalizing n
  case zero =>
    have : n = 0 := by simpa using h
    simp [this, hex, hexValue]
  case succ width hi =>
    have hd : hexValue (hex false width (n / 16)) = n / 16 :=
      hi (Nat.div_lt_of_lt_mul (Nat.mul_comm .. ▸ h))
    have hm := hexDigitValue_hexDigit (Nat.mod_lt n (by decide : 0 < 16))
    unfold hexValue at hd ⊢
    rw [hex, List.foldl_append, hd, List.foldl_cons, List.foldl_nil, hm]
    omega

theorem oneLine_hex (width n : Nat) : OneLine (hex false width n) := by
  induction width generalizing n
  case zero => exact List.not_mem_nil
  case succ width hi =>
    refine (hi _).append fun hn => ?_
    have ht := toNat_hexDigit (Nat.mod_lt n (by decide : 0 < 16))
    rw [← List.mem_singleton.mp hn] at ht
    have ht : 10 = _ := ht
    split at ht <;> omega

-- The number of the character that a letter behind a backslash stands for, where no digits follow.
def letterNumber (l : UInt8) : Nat :=
  ((List.range 14).find? fun n => letterEscape? n = some l).getD l.toNat

namespace Piece

-- How many digits follow a letter behind a backslash.
def escapeWidth (l : UInt8) : Nat :=
  if l = 0x78 then 2 else if l = 0x75 then 4 else if l = 0x55 then 8 else 0

-- Two digits stand for a character or for a stray byte, as no byte of the first 128 is a stray one.
def ofEscape (l : UInt8) (n : Nat) : Piece :=
  if escapeWidth l = 0 then char (Char.ofNat (letterNumber l))
  else if l = 0x78 ∧ 0x80 ≤ n then stray n.toUInt8
  else char (Char.ofNat n)

-- The two ways to quote a piece: as it is, or behind a backslash.
inductive Quotes : Piece → Bytes → Prop where
  | kept {c : Char} : c.toNat ≠ backslash.toNat → c.toNat ≠ 10 → Quotes (char c) (encodeChar c)
  | escape {l : UInt8} {n : Nat} : l ≠ newline → n < Nat.pow 16 (escapeWidth l) →
      Quotes (ofEscape l n) ([backslash, l] ++ hex false (escapeWidth l) n)

variable {c : Char} {l : UInt8} {p : Piece} {t : Bytes}

theorem Quotes.letter (hl : l ≠ newline) (hw : escapeWidth l = 0) (hc : letterNumber l = c.toNat) :
    Quotes (char c) [backslash, l] := by
  have h : Quotes _ _ := .escape hl (Nat.pow_pos (n := escapeWidth l) (by decide))
  rwa [ofEscape, if_pos hw, hc, Char.ofNat_toNat, hw] at h

theorem Quotes.digits (hl : l ≠ newline) (hw : escapeWidth l ≠ 0)
    (hx : ¬ (l = 0x78 ∧ 0x80 ≤ c.toNat)) (hc : c.toNat < Nat.pow 16 (escapeWidth l)) :
    Quotes (char c) ([backslash, l] ++ hex false (escapeWidth l) c.toNat) := by
  have h : Quotes _ _ := .escape hl hc
  rwa [ofEscape, if_neg hw, if_neg hx, Char.ofNat_toNat] at h

theorem letterEscape?_cases {n : Nat} (h : letterEscape? n = some l) :
    l ≠ newline ∧ escapeWidth l = 0 ∧ letterNumber l = n := by
  unfold letterEscape? at h
  split at h <;> cases h <;> decide

theorem le_toNat_of_isPrintable (h : isPrintable c = true) : 0x20 ≤ c.toNat := by
  unfold isPrintable at h
  dsimp only at h
  split at h
  case isTrue  => simpa using (Bool.and_eq_true_iff.mp h).1
  case isFalse => omega

theorem quotes_char (c : Char) : Quotes (char c) (quotedChar 0x22 c) := by
  have hv : c.toNat < 0xD800 ∨ 0xDFFF < c.toNat ∧ c.toNat < 0x110000 := c.valid
  fun_cases quotedChar 0x22 c
  case case1 n hq =>
    simp only [Bool.or_eq_true, decide_eq_true_eq] at hq
    rcases hq with hq | hq
    all_goals
      rw [hq]
      exact .letter (by decide) (by decide) hq.symm
  case case2 n hq hp =>
    have hl := le_toNat_of_isPrintable hp
    exact .kept (fun hn => hq (by simp [n, hn])) (by omega)
  case case3 n _ _ l hl =>
    have ⟨hl, hw, hc⟩ := letterEscape?_cases hl
    exact .letter hl hw hc
  case case4 n _ _ _ hx =>
    have hx : c.toNat < 0x80 := by simp [n] at hx; omega
    have hw : c.toNat < 0x100 := by omega
    exact .digits (l := 0x78) (by decide) (by decide) (fun h => by omega) hw
  case case5 hu => exact .digits (l := 0x75) (by decide) (by decide) (by simp) hu
  case case6 =>
    have hw : c.toNat < 0x100000000 := by omega
    exact .digits (l := 0x55) (by decide) (by decide) (by simp) hw

theorem quotes_quoted (hp : p.IsProper) : Quotes p (p.quoted 0x22) := by
  cases p
  case char c => exact quotes_char c
  case stray b =>
    have h : Quotes _ _ := .escape (l := 0x78) (by decide) b.toNat_lt
    have hb : b.toNat.toUInt8 = b := UInt8.ofNat_toNat
    rwa [ofEscape, if_neg (by decide), if_pos ⟨rfl, hp⟩, hb] at h

theorem Quotes.oneLine (h : Quotes p t) : OneLine t := by
  cases h
  case kept _ hn => exact oneLine_encodeChar hn
  case escape l n hl _ =>
    have hb : OneLine [backslash, l] := by
      simp [OneLine, hl.symm]
      decide
    exact hb.append (oneLine_hex _ _)

-- Reads the first piece back from a quoted text.
def unquote? : Bytes → Option (Piece × Bytes)
  | []        => none
  | a :: rest =>
    if a = backslash then
      rest.head?.map fun l =>
        let digits := rest.tail.take (escapeWidth l)
        (ofEscape l (hexValue digits), rest.tail.drop (escapeWidth l))
    else read a rest

theorem Quotes.unquote?_append (h : Quotes p t) (rest : Bytes) :
    unquote? (t ++ rest) = some (p, rest) := by
  cases h
  case kept c hb _ =>
    have ⟨a, as, he, hr⟩ := read_encodeChar c
    -- A character that begins with the byte of the backslash is the backslash.
    have ha : a ≠ backslash := by
      rintro rfl
      have hc := (read_one (by decide) _).symm.trans (hr [])
      cases congrArg Prod.fst hc
      exact hb rfl
    rw [he, List.cons_append, unquote?, if_neg ha, hr]
  case escape l n _ hn =>
    have ht : (hex false (escapeWidth l) n ++ rest).take (escapeWidth l) = _ :=
      List.take_left' (hex_length ..)
    have hd : (hex false (escapeWidth l) n ++ rest).drop (escapeWidth l) = _ :=
      List.drop_left' (hex_length ..)
    simp [unquote?, ht, hd, hexValue_hex hn]

end Piece

-- The first piece read back tells what it is and where the others begin.
theorem flatMap_quoted_injective {ps ps' : List Piece} (hp : ∀ p ∈ ps, p.IsProper)
    (hp' : ∀ p ∈ ps', p.IsProper)
    (h : ps.flatMap (Piece.quoted 0x22) = ps'.flatMap (Piece.quoted 0x22)) : ps = ps' := by
  have hu {p ps} (hp : ∀ p' ∈ p :: ps, p'.IsProper) :
      Piece.unquote? ((p :: ps).flatMap (Piece.quoted 0x22)) =
        some (p, ps.flatMap (Piece.quoted 0x22)) :=
    (Piece.quotes_quoted (hp p List.mem_cons_self)).unquote?_append _
  induction ps generalizing ps' <;> cases ps'
  case nil.nil  => rfl
  case nil.cons => cases (congrArg Piece.unquote? h).trans (hu hp')
  case cons.nil => cases (congrArg Piece.unquote? h).symm.trans (hu hp)
  case cons.cons p ps hi p' ps' =>
    have he := (hu hp).symm.trans ((congrArg Piece.unquote? h).trans (hu hp'))
    simp only [Option.some.injEq, Prod.mk.injEq] at he
    have hi := hi (fun p hm => hp p (List.mem_cons_of_mem _ hm))
      (fun p hm => hp' p (List.mem_cons_of_mem _ hm)) he.2
    rw [he.1, hi]

theorem quoted_injective {t t' : Bytes} (h : quoted t = quoted t') : t = t' := by
  have h := List.append_cancel_left (List.append_cancel_right h)
  have h := flatMap_quoted_injective (fun _ => isProper_of_mem_pieces)
    (fun _ => isProper_of_mem_pieces) h
  rw [← flatMap_bytes_pieces t, h, flatMap_bytes_pieces]

theorem oneLine_quoted (t : Bytes) : OneLine (quoted t) := by
  have hq : OneLine [0x22] := by decide
  have hp : OneLine ((pieces t).flatMap (Piece.quoted 0x22)) :=
    oneLine_flatMap fun p hp => (Piece.quotes_quoted (isProper_of_mem_pieces hp)).oneLine
  exact (hq.append hp).append hq

end Denary.Text
