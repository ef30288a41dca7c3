import Denary.Value

-- A snapshot: what a report or the final dump shows of a running program.

namespace Denary

structure Snapshot where
  position : Int
  entries : List Variable
  total : Int
  stackDepth : Int
  loopDepth : Int
  codeLength : Int
  debug : Bool
  executed : Int
  binaryRuns : Int
  deriving Inhabited

end Denary
