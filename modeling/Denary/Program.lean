import Denary.Disk.Basic

-- Programs: the decimal digits of a source, in order, up to a fixed number of them.

namespace Denary

-- A stretch of a code: the positions from `start` up to, but without, `stop`.
structure Span where
  start : Nat
  stop : Nat
  deriving DecidableEq, Repr, Inhabited

-- The bytes that an engine runs over. Memory holds far fewer than there are positions, so a cursor
-- has room to come to rest behind the last one.
structure Code where
  bytes : Array UInt8
  size_le : bytes.size ≤ 0x4000000000000000

namespace Code

def maxSize : Nat := 0x4000000000000000

def ofArray (bytes : Array UInt8) : Code :=
  ⟨bytes.extract 0 maxSize, by rw [Array.size_extract]; exact Nat.min_le_left _ _⟩

instance : Coe (Array UInt8) Code where
  coe := ofArray

def size (code : Code) : Nat :=
  code.bytes.size

def toList (code : Code) : Bytes :=
  code.bytes.toList

def at? (code : Code) (position : Int) : Option UInt8 :=
  if position < 0 then none else code.bytes[position.toNat]?

def slice? (code : Code) (span : Span) : Option Bytes :=
  if span.start ≤ span.stop ∧ span.stop ≤ code.size then
    some (code.bytes.extract span.start span.stop).toList
  else none

end Code

namespace Program

def maxLength : Nat := 9999

-- Takes bytes one by one and keeps the digits among them, until there are enough. Whatever comes
-- behind the last needed digit is not met any more, be it more bytes or a failure.
def gather (failure : Option Bytes) (kept : Array UInt8) (source : Bytes) :
    Except Error (Array UInt8) :=
  if kept.size < maxLength then
    match source with
    | [] =>
      match failure with
      | some text => .error (.device text)
      | none => .ok kept
    | b :: rest => gather failure (if Text.isDigit b then kept.push b else kept) rest
  else .ok kept

def load (source : Bytes) (failure : Option Bytes) : Except Error Code :=
  (gather failure #[] source).map Code.ofArray

-- The program of a source that is read to its end.
def ofSource (source : Bytes) : Code :=
  (load source none).toOption.getD (Code.ofArray #[])

def loadFile (disk : Disk) (path : Bytes) : Except Error Code :=
  match disk.read path with
  | .ok data => .ok (ofSource data)
  | .error e =>
    let what := match e with
      | .file request _ _ => if request = ascii "read" then ascii "cannot read file "
                             else ascii "cannot open file "
      | _ => ascii "cannot open file "
    .error (.context (what ++ path) e)

end Program
end Denary
