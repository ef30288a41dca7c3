import Denary.Snapshot
import Denary.Text.Quoted

-- The dump of a snapshot for debugging. Fields stand on lines of their own; the values of
-- neighbouring fields start in the same column, until a value takes more than one line.

namespace Denary.Dump

def step : Nat := 4

structure Field where
  name : Bytes
  value : Bytes

def Field.isTall (f : Field) : Bool :=
  f.value.contains Text.newline

-- Fields whose values start in one column: up to the first value of several lines.
def runs : List Field → List (List Field)
  | [] => []
  | f :: fs =>
    if f.isTall then [f] :: runs fs
    else match runs fs with
      | [] => [[f]]
      | r :: rs => (f :: r) :: rs

def fieldLine (indent column : Nat) (f : Field) : Bytes :=
  Text.ruler indent Text.space ++ f.name ++ ascii ":"
    ++ Text.ruler (column - f.name.length) Text.space ++ f.value ++ ascii ",\n"

def runLines (indent : Nat) (run : List Field) : Bytes :=
  let column := (run.map (·.name.length)).foldl max 0 + 1
  run.flatMap (fieldLine indent column)

def record (indent : Nat) (title : Bytes) (fields : List Field) : Bytes :=
  title ++ ascii "\x7b\n" ++ (runs fields).flatMap (runLines (indent + step))
    ++ Text.ruler indent Text.space ++ ascii "\x7d"

def listing (indent : Nat) (items : List Bytes) : Bytes :=
  ascii "\x7b\n"
    ++ items.flatMap (fun i => Text.ruler (indent + step) Text.space ++ i ++ ascii ",\n")
    ++ Text.ruler indent Text.space ++ ascii "\x7d"

def value (indent : Nat) : Value → Bytes
  | .int n => ascii "numo.Int(" ++ Decimal.int64 n ++ ascii ")"
  | .text t => Text.quoted t
  | .bool b => ascii "numo.Bool(" ++ Text.ofBool b ++ ascii ")"
  | .float x => ascii "numo.Float(" ++ Decimal.shortest x ++ ascii ")"
  | .array items =>
    record indent (ascii "numo.Array")
      [⟨ascii "items",
        ascii "\x7b" ++ Text.joined (ascii ", ") (items.map Decimal.int64) ++ ascii "\x7d"⟩]

def variableRecord (indent : Nat) (v : Variable) : Bytes :=
  record indent [] [⟨ascii "Name", Text.quoted v.name⟩,
    ⟨ascii "Value", value (indent + step) v.value⟩]

def snapshot (s : Snapshot) : Bytes :=
  record 0 (ascii "numo.Snapshot")
    [⟨ascii "Position", Decimal.integer s.position⟩,
     ⟨ascii "Variables", listing step (s.entries.map (variableRecord (2 * step)))⟩,
     ⟨ascii "TotalVariables", Decimal.integer s.total⟩,
     ⟨ascii "StackDepth", Decimal.integer s.stackDepth⟩,
     ⟨ascii "LoopDepth", Decimal.integer s.loopDepth⟩,
     ⟨ascii "CodeLength", Decimal.integer s.codeLength⟩,
     ⟨ascii "Debug", Text.ofBool s.debug⟩,
     ⟨ascii "Executed", Decimal.integer s.executed⟩,
     ⟨ascii "BinaryRuns", Decimal.integer s.binaryRuns⟩]

end Denary.Dump
