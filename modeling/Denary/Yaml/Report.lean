import Denary.Snapshot
import Denary.Yaml.Scalar

-- The report in YAML: the counters, then the list of variables with name, kind and value.

namespace Denary.Report

def yamlVariable (v : Variable) : Bytes :=
  ascii "  - " ++ Yaml.field 4 (ascii "name") v.name
    ++ ascii "    " ++ Yaml.field 4 (ascii "kind") v.kind.name
    ++ ascii "    " ++ Yaml.field 4 (ascii "value") v.value.render

def yamlHeader (s : Snapshot) : Bytes :=
  Text.line (ascii "position: " ++ Decimal.integer s.position)
    ++ Text.line (ascii "total_variables: " ++ Decimal.integer s.total)
    ++ Text.line (ascii "stack_depth: " ++ Decimal.integer s.stackDepth)
    ++ Text.line (ascii "loop_depth: " ++ Decimal.integer s.loopDepth)
    ++ Text.line (ascii "code_length: " ++ Decimal.integer s.codeLength)
    ++ Text.line (ascii "debug: " ++ Text.ofBool s.debug)

def yaml (s : Snapshot) : Bytes :=
  yamlHeader s
    ++ (if s.entries.isEmpty then Text.line (ascii "variables: []")
        else Text.line (ascii "variables:") ++ s.entries.flatMap yamlVariable)

end Denary.Report
