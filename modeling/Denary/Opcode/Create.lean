import Denary.Machine

-- Digits that make a variable. What a variable holds depends on its kind, its position and, for
-- integers, on the digit that follows.

namespace Denary

namespace Variable

def newArraySize : Nat := 5

def createdValue (code : Code) (kind : Kind) (position : Int) : Value :=
  match kind with
  | .int =>
    match code.at? (position + 1) with
    | some d =>
      if Text.isDigit d then .int (Int64.ofNat (Text.digitValue d))
      else .int (Int64.ofInt (position.tmod 10))
    | none => .int (Int64.ofInt (position.tmod 10))
  | .text => .text (ascii "text_" ++ Decimal.integer position)
  | .bool => .bool (position.tmod 2 == 0)
  | .float => .float (Float.ofInt (position.tmod 100) / 10)
  | .array =>
    .array ((List.range newArraySize).map fun (i : Nat) =>
      Int64.ofInt ((wrap64 (position + i)).tmod 10))

def created (code : Code) (kind : Kind) (position : Int) : Variable :=
  ⟨createdName kind.tag position, createdValue code kind position⟩

end Variable

namespace Machine

def create (env : Environment) (tag position : Int) (m : Machine) : Except Error Machine :=
  match Kind.ofTag? tag with
  | none => .error (.positioned
      (ascii "kind " ++ Decimal.integer tag ++ ascii " does not create variables") position
      (some .invalidOpcode))
  | some kind =>
    match m.state.store.push? (Variable.created env.code kind position) with
    | none => .error (.plain .storeFull)
    | some store => .ok { m with state := { m.state with store := store } }

-- Makes the variable of the digit at a position, on behalf of a condition or a loop. The cursor
-- does not move.
def createNested (env : Environment) (position : Int) (m : Machine) : Machine × Bool :=
  match env.code.at? position with
  | none => (m, false)
  | some digit =>
    match Kind.ofDigit? digit with
    | none => (m, false)
    | some kind =>
      match m.create env kind.tag position with
      | .error e => (m.dropped env ⟨position, digit⟩ e, false)
      | .ok m' => (m', true)

end Machine

namespace Opcode

def create (tag : Int) : Handler := fun env site m =>
  match m.create env tag site.position with
  | .error e => (m.dropped env site e, .ok (.done false))
  | .ok m' =>
    match m'.state.store.last? with
    | none => (m', .ok (.done true))
    | some v =>
      (m'.debug env Category.store
        (ascii "Created " ++ Kind.nameOfTag tag ++ ascii " variable " ++ v.name ++ ascii " = "
          ++ v.value.render), .ok (.done true))

end Opcode
end Denary
