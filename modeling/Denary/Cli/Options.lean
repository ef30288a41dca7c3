import Denary.Cli.Preferences
import Denary.Decimal.Literal

-- The arguments of the command line. Flags may stand before, between and behind the names of files.
-- A switch takes a value only behind an equals sign; the other flags take it from there or from the
-- next argument.

namespace Denary.Cli

structure Options where
  help : Bool := false
  debug : Bool := false
  extended : Bool
  reportDirectory : Bytes
  reportFormat : Bytes
  trace : Bytes := []
  seed : Int64 := 0
  files : List Bytes := []
  deriving DecidableEq, Repr, Inhabited

inductive ArgumentError where
  | malformed (argument : Bytes)
  | unknownFlag (name : Bytes)
  | missingValue (name : Bytes)
  | notBool (name value : Bytes)
  | notNumber (name value : Bytes) (problem : Decimal.LiteralProblem)
  deriving DecidableEq, Repr, Inhabited

def ArgumentError.message : ArgumentError → Bytes
  | malformed argument => ascii "bad flag syntax: " ++ argument
  | unknownFlag name => ascii "flag provided but not defined: -" ++ name
  | missingValue name => ascii "flag needs an argument: -" ++ name
  | notBool name value =>
    ascii "invalid boolean value " ++ Text.quoted value ++ ascii " for -" ++ name
      ++ ascii ": parse error"
  | notNumber name value problem =>
    ascii "invalid value " ++ Text.quoted value ++ ascii " for flag -" ++ name ++ ascii ": "
      ++ (match problem with
        | .malformed => ascii "parse error"
        | .tooLarge => ascii "value out of range")

inductive Flag where
  | help
  | debug
  | extended
  | reportDirectory
  | reportFormat
  | trace
  | seed
  deriving DecidableEq, Repr, Inhabited

namespace Flag

def ofName? (name : Bytes) : Option Flag :=
  if name = ascii "h" ∨ name = ascii "help" then some help
  else if name = ascii "d" ∨ name = ascii "debug" then some debug
  else if name = ascii "extended" then some extended
  else if name = ascii "report-dir" then some reportDirectory
  else if name = ascii "report-format" then some reportFormat
  else if name = ascii "trace" then some trace
  else if name = ascii "seed" then some seed
  else none

def isSwitch : Flag → Bool
  | help => true
  | debug => true
  | extended => true
  | _ => false

def bool? (t : Bytes) : Option Bool :=
  if [ascii "1", ascii "t", ascii "T", ascii "true", ascii "TRUE", ascii "True"].contains t then
    some true
  else if [ascii "0", ascii "f", ascii "F", ascii "false", ascii "FALSE", ascii "False"].contains t
    then some false
  else none

def switch (name value : Bytes) : Except ArgumentError Bool :=
  match bool? value with
  | some b => .ok b
  | none => .error (.notBool name value)

def set (f : Flag) (name value : Bytes) (o : Options) : Except ArgumentError Options :=
  match f with
  | help => (switch name value).map fun b => { o with help := b }
  | debug => (switch name value).map fun b => { o with debug := b }
  | extended => (switch name value).map fun b => { o with extended := b }
  | reportDirectory => .ok { o with reportDirectory := value }
  | reportFormat => .ok { o with reportFormat := value }
  | trace => .ok { o with trace := value }
  | seed =>
    match Decimal.literal value with
    | .ok n => .ok { o with seed := n }
    | .error e => .error (.notNumber name value e)

end Flag

def hyphen : UInt8 := 0x2D

def equals : UInt8 := 0x3D

inductive Argument where
  | file (name : Bytes)
  -- two hyphens: the next argument is a file, whatever it looks like
  | separator
  | flag (name : Bytes) (value : Option Bytes)
  | malformed
  deriving DecidableEq, Repr, Inhabited

namespace Argument

def ofBody (body : Bytes) : Argument :=
  match body with
  | [] => malformed
  | b :: rest =>
    if b = hyphen ∨ b = equals then malformed
    else
      let name := b :: rest.takeWhile (· ≠ equals)
      match rest.dropWhile (· ≠ equals) with
      | [] => flag name none
      | _ :: value => flag name (some value)

-- The form of an argument. One that is too short for a flag is a file.
def ofBytes (t : Bytes) : Argument :=
  match t with
  | 0x2D :: 0x2D :: [] => separator
  | 0x2D :: 0x2D :: body => ofBody body
  | 0x2D :: b :: body => ofBody (b :: body)
  | _ => file t

end Argument

namespace Options

def start (p : Preferences) : Options where
  extended := p.extended
  reportDirectory := p.reportDirectory
  reportFormat := p.reportFormat

def addFile (o : Options) (name : Bytes) : Options :=
  { o with files := o.files ++ [name] }

-- One pass over the arguments. It sets flags until it comes to a file, which it leaves with all that
-- is behind, or to two hyphens, which it does not leave.
def pass (o : Options) : List Bytes → Except ArgumentError (Options × List Bytes)
  | [] => .ok (o, [])
  | argument :: rest =>
    match Argument.ofBytes argument with
    | .file _ => .ok (o, argument :: rest)
    | .separator => .ok (o, rest)
    | .malformed => .error (.malformed argument)
    | .flag name value =>
      match Flag.ofName? name with
      | none => .error (.unknownFlag name)
      | some f =>
        match value with
        | some v =>
          match f.set name v o with
          | .error e => .error e
          | .ok o => o.pass rest
        | none =>
          if f.isSwitch then
            match f.set name (ascii "true") o with
            | .error e => .error e
            | .ok o => o.pass rest
          else match rest with
            | [] => .error (.missingValue name)
            | v :: rest =>
              match f.set name v o with
              | .error e => .error e
              | .ok o => o.pass rest

theorem length_of_pass {o o' : Options} {arguments rest : List Bytes}
    (h : o.pass arguments = .ok (o', rest)) : rest.length ≤ arguments.length := by
  fun_induction pass o arguments
  case case1 => cases h; exact Nat.le_refl _
  case case2 => cases h; exact Nat.le_refl _
  case case3 => cases h; exact Nat.le_succ _
  case case7 hi  => exact Nat.le_succ_of_le (hi h)
  case case9 hi  => exact Nat.le_succ_of_le (hi h)
  case case12 hi => exact Nat.le_succ_of_le (Nat.le_succ_of_le (hi h))
  -- The others stop at an argument that is not understood.
  all_goals cases h

-- Passes are made until one of them leaves nothing. What it leaves otherwise begins with a file, and
-- the next pass begins behind it.
def take (o : Options) (arguments : List Bytes) : Except ArgumentError Options :=
  match h : o.pass arguments with
  | .error e => .error e
  | .ok (o', []) => .ok o'
  | .ok (o', name :: rest) =>
    have : rest.length < arguments.length := length_of_pass h
    (o'.addFile name).take rest
termination_by arguments.length

section

variable {o o' : Options} {arguments rest : List Bytes} {name : Bytes} {e : ArgumentError}

theorem take_of_error (h : o.pass arguments = .error e) : o.take arguments = .error e := by
  rw [take]
  split <;> simp_all

theorem take_of_nil (h : o.pass arguments = .ok (o', [])) : o.take arguments = .ok o' := by
  rw [take]
  split <;> simp_all

theorem take_of_cons (h : o.pass arguments = .ok (o', name :: rest)) :
    o.take arguments = (o'.addFile name).take rest := by
  rw [take]
  split <;> simp_all

end

def parse (p : Preferences) (arguments : List Bytes) : Except ArgumentError Options :=
  (start p).take arguments

end Options

def usage : Bytes :=
  ascii "Numo 0-9 Programming Language Interpreter dev
=========================================
Usage: numo <file.num> [options]

Numo 0-9 Syntax:
0,1 - Binary code (8 digits per character)
2   - End binary program marker (loop when --extended)
3   - Create integer variable (value from next digit)
4   - Create string variable
5   - Create boolean variable (condition when --extended)
6   - Create float variable (string operation when --extended)
7   - Enhanced input/output
8   - Mathematical operation (operator from previous digit)
9   - File operations

Options:
-d, --debug            Enable debug mode
-h, --help             Show this help
--extended             Bind loop, condition and string opcodes
--report-dir DIR       Directory for report files (default: .)
--report-format FMT    Report format: text or yaml
--trace FILE           Write a JSON trace of log records to FILE
--seed N               Seed for the random opcode

Configuration: ~/.numo/numo-cli.yaml
"

def complaint (e : ArgumentError) : Bytes :=
  Text.line e.message ++ usage

end Denary.Cli
