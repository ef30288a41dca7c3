import Denary.Decimal.Integer

-- Integer literals: a sign, a mark for base two, eight or sixteen, and digits, between which
-- underscores may stand. Numbers beyond 64 bits are told apart from texts that are no numbers.

namespace Denary.Decimal

inductive LiteralProblem where
  | malformed
  | tooLarge
  deriving DecidableEq, Repr, Inhabited

namespace Literal

def underscore : UInt8 := 0x5F

def lowerLetter (b : UInt8) : UInt8 :=
  b ||| 0x20

def digitValue? (b : UInt8) : Option Nat :=
  if Text.isDigit b then some (Text.digitValue b)
  else if 0x61 ≤ lowerLetter b ∧ lowerLetter b ≤ 0x7A then some ((lowerLetter b).toNat - 87)
  else none

-- Reads digits from left to right, up to the first one that is none or that makes the number too
-- large. Underscores do not count.
def magnitude (base : Nat) : Bytes → Nat → Except LiteralProblem Nat
  | [], n => .ok n
  | b :: rest, n =>
    if b = underscore then magnitude base rest n
    else match digitValue? b with
      | none => .error .malformed
      | some d =>
        if base ≤ d then .error .malformed
        else if 0x10000000000000000 ≤ n * base + d then .error .tooLarge
        else magnitude base rest (n * base + d)

-- The base that a literal names, and its digits. A zero in front stands for base eight; it is a
-- digit itself where no letter follows.
def split : Bytes → Nat × Bool × Bytes
  | 0x30 :: x :: y :: rest =>
    let letter := lowerLetter x
    if letter = 0x62 then (2, true, y :: rest)
    else if letter = 0x6F then (8, true, y :: rest)
    else if letter = 0x78 then (16, true, y :: rest)
    else (8, true, x :: y :: rest)
  | 0x30 :: rest => (8, true, rest)
  | t => (10, false, t)

-- Whether each underscore follows a digit and precedes one. `afterDigit` says that a digit, or what
-- counts as one, stands in front.
def underscoresFit (afterDigit : Bool) : Bytes → Bool
  | [] => true
  | b :: rest =>
    if b = underscore then
      afterDigit && (match rest with
        | [] => false
        | c :: _ => c ≠ underscore) && underscoresFit false rest
    else underscoresFit true rest

end Literal

def literal (t : Bytes) : Except LiteralProblem Int64 :=
  let (negative, body) := match t with
    | 0x2D :: rest => (true, rest)
    | 0x2B :: rest => (false, rest)
    | _ => (false, t)
  if body = [] then .error .malformed
  else
    let (base, afterDigit, digits) := Literal.split body
    match Literal.magnitude base digits 0 with
    | .error e => .error e
    | .ok n =>
      if !Literal.underscoresFit afterDigit digits then .error .malformed
      else
        let value : Int := if negative then -(n : Int) else n
        if fits64 value then .ok (Int64.ofInt value) else .error .tooLarge

end Denary.Decimal
