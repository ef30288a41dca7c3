import Denary.Text.Quoted
import Denary.Decimal.Integer

-- What can go wrong, by cause. Each error has one wording, and `Error.cause?` finds the cause
-- behind positions and context that were added on the way.

namespace Denary

inductive Cause where
  | storeFull
  | stackFull
  | textTooLong
  | arrayTooLarge
  | insufficientOperands
  | noInput
  | invalidOpcode
  deriving DecidableEq, Repr, Inhabited

def Cause.message : Cause → Bytes
  | storeFull => ascii "variable store full"
  | stackFull => ascii "condition stack full"
  | textTooLong => ascii "text exceeds maximum length"
  | arrayTooLarge => ascii "array exceeds maximum capacity"
  | insufficientOperands => ascii "insufficient operands"
  | noInput => ascii "no input available"
  | invalidOpcode => ascii "invalid opcode"

inductive Refusal where
  | missing
  | isDirectory
  | notDirectory
  | nameTooLong
  | invalidName
  deriving DecidableEq, Repr, Inhabited

def Refusal.message : Refusal → Bytes
  | missing => ascii "no such file or directory"
  | isDirectory => ascii "is a directory"
  | notDirectory => ascii "not a directory"
  | nameTooLong => ascii "file name too long"
  | invalidName => ascii "invalid argument"

inductive Error where
  | plain (cause : Cause)
  -- a message about a position of the program, with a cause if there is one
  | positioned (text : Bytes) (position : Int) (cause : Option Cause)
  | file (request : Bytes) (path : Bytes) (refusal : Refusal)
  -- an error of the input device or of a report's receiver, in its own words
  | device (text : Bytes)
  | unknownTextOperation (number : Int)
  | unknownReportFormat (name : Bytes)
  | context (text : Bytes) (inner : Error)
  deriving DecidableEq, Repr, Inhabited

namespace Error

def message : Error → Bytes
  | plain c => c.message
  | positioned t p c =>
    t ++ ascii " at position " ++ Decimal.integer p
      ++ (match c with
        | some c => ascii ": " ++ c.message
        | none => [])
  | file request path refusal =>
    request ++ [Text.space] ++ path ++ ascii ": " ++ refusal.message
  | device t => t
  | unknownTextOperation n => ascii "unknown string operation " ++ Decimal.integer n
  | unknownReportFormat f => ascii "unknown report format " ++ Text.quoted f
  | context t e => t ++ ascii ": " ++ e.message

def cause? : Error → Option Cause
  | plain c => some c
  | positioned _ _ c => c
  | context _ e => e.cause?
  | _ => none

def isFileError : Error → Bool
  | file _ _ _ => true
  | context _ e => e.isFileError
  | _ => false

end Error
end Denary
