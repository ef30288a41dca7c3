import Denary.Snapshot
import Denary.Text.Quoted

-- The plain report: six lines of counters, then a line per variable. Texts are quoted, so a
-- variable never takes more than its own line.

namespace Denary.Report

def plainValue : Value → Bytes
  | .text t => Text.quoted t
  | v => v.render

def plainVariable (v : Variable) : Bytes :=
  Text.line (v.name ++ ascii " (" ++ v.kind.name ++ ascii ") = " ++ plainValue v.value)

def plainHeader (s : Snapshot) : Bytes :=
  Text.line (ascii "Numo 0-9 file operation at position " ++ Decimal.integer s.position)
    ++ Text.line (ascii "Variables created: " ++ Decimal.integer s.total)
    ++ Text.line (ascii "Condition stack depth: " ++ Decimal.integer s.stackDepth)
    ++ Text.line (ascii "Loop depth: " ++ Decimal.integer s.loopDepth)
    ++ Text.line (ascii "Code length: " ++ Decimal.integer s.codeLength)
    ++ Text.line (ascii "Debug mode: " ++ Text.ofBool s.debug)

def plain (s : Snapshot) : Bytes :=
  plainHeader s ++ s.entries.flatMap plainVariable

end Denary.Report
