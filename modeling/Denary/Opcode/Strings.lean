import Denary.Machine

-- Operations on the two newest texts. Which one is done is decided by the position.

namespace Denary

inductive TextOperation where
  | concat
  | length
  | upper
  | lower
  | reverse
  deriving DecidableEq, Repr, Inhabited

namespace TextOperation

def ofNumber? (n : Int) : Option TextOperation :=
  match n with
  | 0 => some concat
  | 1 => some length
  | 2 => some upper
  | 3 => some lower
  | 4 => some reverse
  | _ => none

def name : TextOperation → Bytes
  | concat => ascii "concat"
  | length => ascii "length"
  | upper => ascii "upper"
  | lower => ascii "lower"
  | reverse => ascii "reverse"

def nameOfNumber (n : Int) : Bytes :=
  ((ofNumber? n).map name).getD (ascii "unknown")

def numberAt (position : Int) : Int :=
  position.tmod 5

def result (op : TextOperation) (second newest : Bytes) : Bytes :=
  match op with
  | concat => second ++ newest
  | length => Decimal.natural newest.length
  | upper => Text.upper newest
  | lower => Text.lower newest
  | reverse => Text.reversed newest

def evaluate (n : Int) (second newest : Bytes) : Except Error Bytes :=
  match ofNumber? n with
  | none => .error (.unknownTextOperation n)
  | some op =>
    let t := op.result second newest
    if t.length ≤ Value.maxTextLength then .ok t else .error (.plain .textTooLong)

end TextOperation

namespace Opcode

-- The handler for text operations. With fewer than two texts it does nothing.
def strings : Handler := fun env site m =>
  match m.state.store.lastOfKinds 2 [.text] with
  | newest :: second :: _ =>
    let number := TextOperation.numberAt site.position
    match TextOperation.evaluate number second.value.render newest.value.render with
    | .error e =>
      (m.warn env site Category.string
        (TextOperation.nameOfNumber number ++ ascii ": " ++ e.message), .ok (.done false))
    | .ok t =>
      let m := m.debug env Category.string
        (ascii "String " ++ TextOperation.nameOfNumber number ++ ascii " -> " ++ Text.quoted t)
      let (m, ok) := m.append env site
        ⟨ascii "str_result_" ++ Decimal.integer site.position, .text t⟩
      (m, .ok (.done ok))
  | found =>
    (m.debug env Category.string
      (ascii "string operation skipped: " ++ Decimal.natural found.length
        ++ ascii " text variables"), .ok (.done false))

end Opcode
end Denary
