import Denary.Text.Bytes

-- Characters in a byte string. A byte string falls into pieces in exactly one way: from the left,
-- each well-formed UTF-8 sequence is one character, and a byte that starts no such sequence stands
-- alone as a stray byte.

namespace Denary.Text

inductive Piece where
  | char (c : Char)
  | stray (b : UInt8)
  deriving DecidableEq, Repr, Inhabited

def replacement : Char := Char.ofNat 0xFFFD

def encodeChar (c : Char) : Bytes :=
  String.utf8EncodeChar c

namespace Piece

def bytes : Piece → Bytes
  | char c => encodeChar c
  | stray b => [b]

def shown : Piece → Char
  | char c => c
  | stray _ => replacement

def isTail (b : UInt8) : Bool :=
  0x80 ≤ b && b ≤ 0xBF

def secondOfThree (a b : UInt8) : Bool :=
  if a = 0xE0 then 0xA0 ≤ b && b ≤ 0xBF
  else if a = 0xED then 0x80 ≤ b && b ≤ 0x9F
  else isTail b

def secondOfFour (a b : UInt8) : Bool :=
  if a = 0xF0 then 0x90 ≤ b && b ≤ 0xBF
  else if a = 0xF4 then 0x80 ≤ b && b ≤ 0x8F
  else isTail b

def assemble2 (a b : UInt8) : Char :=
  Char.ofNat ((a.toNat - 0xC0) * 64 + (b.toNat - 0x80))

def assemble3 (a b c : UInt8) : Char :=
  Char.ofNat (((a.toNat - 0xE0) * 64 + (b.toNat - 0x80)) * 64 + (c.toNat - 0x80))

def assemble4 (a b c d : UInt8) : Char :=
  Char.ofNat ((((a.toNat - 0xF0) * 64 + (b.toNat - 0x80)) * 64 + (c.toNat - 0x80)) * 64
    + (d.toNat - 0x80))

def read (a : UInt8) (rest : Bytes) : Piece × Bytes :=
  if a < 0x80 then (char (Char.ofNat a.toNat), rest)
  else if 0xC2 ≤ a ∧ a ≤ 0xDF then
    match rest with
    | b :: rest' => if isTail b then (char (assemble2 a b), rest') else (stray a, rest)
    | [] => (stray a, rest)
  else if 0xE0 ≤ a ∧ a ≤ 0xEF then
    match rest with
    | b :: c :: rest' =>
      if secondOfThree a b && isTail c then (char (assemble3 a b c), rest') else (stray a, rest)
    | _ => (stray a, rest)
  else if 0xF0 ≤ a ∧ a ≤ 0xF4 then
    match rest with
    | b :: c :: d :: rest' =>
      if secondOfFour a b && isTail c && isTail d then (char (assemble4 a b c d), rest')
      else (stray a, rest)
    | _ => (stray a, rest)
  else (stray a, rest)

theorem read_length (a : UInt8) (rest : Bytes) : (read a rest).2.length ≤ rest.length := by
  unfold read
  split
  · exact Nat.le_refl _
  · split
    · split
      · split <;> simp
      · exact Nat.le_refl _
    · split
      · split
        · split
          · simp; omega
          · simp
        · exact Nat.le_refl _
      · split
        · split
          · split
            · simp; omega
            · simp
          · exact Nat.le_refl _
        · exact Nat.le_refl _

end Piece

def pieces : Bytes → List Piece
  | [] => []
  | a :: rest => (Piece.read a rest).1 :: pieces (Piece.read a rest).2
termination_by t => t.length
decreasing_by
  have := Piece.read_length a rest
  simp; omega

def chars (t : Bytes) : List Char :=
  (pieces t).map Piece.shown

def encode (cs : List Char) : Bytes :=
  cs.flatMap encodeChar

def isWellFormed (t : Bytes) : Bool :=
  (pieces t).all fun p => match p with
    | .char _ => true
    | .stray _ => false

def ofByte (b : UInt8) : Bytes :=
  encodeChar (Char.ofNat b.toNat)

def reversed (t : Bytes) : Bytes :=
  encode (chars t).toArray.reverse.toList

theorem reversed_eq (t : Bytes) : reversed t = encode (chars t).reverse := by
  rw [reversed, Array.toList_reverse]

def mapChars (f : Char → Char) (t : Bytes) : Bytes :=
  encode ((chars t).map f)

end Denary.Text
