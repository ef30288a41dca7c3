import Denary.Error

-- The console: lines of input, random draws, and the colour of the output. What is printed is kept
-- elsewhere; here is what the console remembers.

namespace Denary

structure Terminal where
  ansi : Bool := false
  width : Int := 80
  deriving DecidableEq, Repr, Inhabited

namespace Terminal

-- Whether escape sequences are used: only on a terminal of a known type that is not dumb, and not
-- where colours are unwanted.
def supportsAnsi (type : Bytes) (isTerminal noColour : Bool) : Bool :=
  isTerminal && !(type == [] || type == ascii "dumb") && !noColour

end Terminal

abbrev Colour := Int

namespace Colour

def table : List (Bytes × Bytes) :=
  [(ascii "default", ascii "\x1b[39m"), (ascii "red", ascii "\x1b[31m"),
   (ascii "green", ascii "\x1b[32m"), (ascii "yellow", ascii "\x1b[33m"),
   (ascii "blue", ascii "\x1b[34m"), (ascii "magenta", ascii "\x1b[35m"),
   (ascii "cyan", ascii "\x1b[36m"), (ascii "white", ascii "\x1b[37m")]

def count : Nat := 8

def row? (c : Colour) : Option (Bytes × Bytes) :=
  if c < 0 then none else table[c.toNat]?

def name (c : Colour) : Bytes :=
  ((row? c).map (·.1)).getD (ascii "unknown")

def code? (c : Colour) : Option Bytes :=
  (row? c).map (·.2)

def plain : Colour := 0

end Colour

inductive Fault where
  | unknownColour
  | negativeWidth
  | emptyRange
  -- a stretch of the code that runs backwards or beyond the last byte
  | brokenSpan
  deriving DecidableEq, Repr, Inhabited

structure Console where
  input : Bytes
  -- what a read finds after the input: the end, or an error in these words
  failure : Option Bytes
  -- draws of the random source, each below `2 ^ 31`; after the last one come zeros
  draws : List Nat
  colour : Colour
  deriving Repr, Inhabited

namespace Console

def isLineEnd (b : UInt8) : Bool :=
  b == Text.carriageReturn || b == Text.newline

-- The next line without its line end. The last line may lack one. An error of the device discards
-- what was read of a line.
def readLine (c : Console) : Except Error Bytes × Console :=
  let line := c.input.takeWhile (· ≠ Text.newline)
  match c.input.dropWhile (· ≠ Text.newline) with
  | _ :: rest => (.ok (Text.trimEnd isLineEnd line), { c with input := rest })
  | [] =>
    match c.failure with
    | some text => (.error (.device text), { c with input := [] })
    | none =>
      if c.input = [] then (.error (.plain .noInput), c)
      else (.ok (Text.trimEnd isLineEnd line), { c with input := [] })

def drawRange : Nat := 0x80000000

-- What a draw counts for when a number below `n` is wanted: itself, or the upper half of a number
-- of 63 bits where draws alone do not reach `n`.
def drawUnit (n : Nat) : Nat :=
  if n < drawRange then 1 else 0x100000000

def drawUpTo (limit unit : Nat) : List Nat → Nat × List Nat
  | [] => (0, [])
  | d :: ds => if d * unit ≤ limit then (d * unit, ds) else drawUpTo limit unit ds

-- A random number below `n`. The range of what draws count for is cut to a multiple of `n`, so that
-- none of the numbers is favoured.
def random (c : Console) (n : Int) : Except Fault Nat × Console :=
  if n ≤ 0 then (.error .emptyRange, c)
  else
    let unit := drawUnit n.toNat
    let range := drawRange * unit
    let (d, ds) := drawUpTo (range - 1 - range % n.toNat) unit c.draws
    (.ok (d % n.toNat), { c with draws := ds })

end Console
end Denary
