import Denary.Text.Bytes

namespace Denary

-- What an interpreter is told once. Capacities that are not positive stand for the default ones.
structure Settings where
  debug : Bool := false
  extended : Bool := false
  maxVariables : Int := 1000
  maxConditions : Int := 100
  warnOnCapacity : Bool := false
  reportDirectory : Bytes := ascii "."
  reportFormat : Bytes := ascii "text"
  deriving Repr, Inhabited

namespace Settings

def defaultVariables : Nat := 1000

def defaultConditions : Nat := 100

end Settings
end Denary
