import Denary.Program

-- What a program is made of. The bytes of a source are taken one by one, and which of them are kept is
-- settled by two things alone: the digits among them, and how many of those are enough.

namespace Denary

theorem Code.toList_injective {code code' : Code} (h : code.toList = code'.toList) :
    code = code' := by
  obtain ⟨bytes, _⟩ := code
  obtain ⟨bytes', _⟩ := code'
  have hb : bytes = bytes' := Array.toList_inj.mp h
  subst hb
  rfl

theorem Code.toList_ofArray {bytes : Array UInt8} (h : bytes.size ≤ maxSize) :
    (ofArray bytes).toList = bytes.toList := by
  have ht : bytes.toList.take maxSize = bytes.toList := List.take_of_length_le h
  simp [ofArray, toList, ht]

namespace Program

variable {kept : Array UInt8} {source : Bytes}

-- The digits that are kept if all bytes are taken.
theorem toList_keep (kept : Array UInt8) (b : UInt8) (rest : Bytes) :
    (if Text.isDigit b then kept.push b else kept).toList ++ rest.filter Text.isDigit
      = kept.toList ++ (b :: rest).filter Text.isDigit := by
  rw [List.filter_cons]
  split
  case isTrue  => simp
  case isFalse => rfl

-- The failure is met exactly where the digits do not suffice.
theorem gather_eq (h : kept.size ≤ maxLength) (failure : Option Bytes) (source : Bytes) :
    gather failure kept source
      = if (kept.toList ++ source.filter Text.isDigit).length < maxLength then
          match failure with
          | some text => .error (.device text)
          | none      => .ok (kept.toList ++ source.filter Text.isDigit).toArray
        else .ok ((kept.toList ++ source.filter Text.isDigit).take maxLength).toArray := by
  induction source generalizing kept
  case nil =>
    unfold gather
    simp only [List.filter_nil, List.append_nil, Array.length_toList, Array.toArray_toList]
    split
    case isTrue  => rfl
    case isFalse => rw [List.take_of_length_le h, Array.toArray_toList]
  case cons b rest hi =>
    unfold gather
    split
    case isTrue hk =>
      have hp : (if Text.isDigit b then kept.push b else kept).size ≤ maxLength := by
        split
        case isTrue  => rw [Array.size_push]; exact hk
        case isFalse => exact h
      dsimp only
      rw [hi hp, toList_keep]
    case isFalse hk =>
      have hl : maxLength ≤ kept.toList.length := Nat.le_of_not_lt hk
      have hn : ¬ (kept.toList ++ (b :: rest).filter Text.isDigit).length < maxLength := by
        rw [List.length_append]
        omega
      rw [if_neg hn, List.take_append_of_le_length hl, List.take_of_length_le h, Array.toArray_toList]

theorem load_eq (source : Bytes) (failure : Option Bytes) :
    load source failure
      = if (source.filter Text.isDigit).length < maxLength then
          match failure with
          | some text => .error (.device text)
          | none      => .ok (Code.ofArray (source.filter Text.isDigit).toArray)
        else .ok (Code.ofArray ((source.filter Text.isDigit).take maxLength).toArray) := by
  have h₀ : (#[] : Array UInt8).size ≤ maxLength := Nat.zero_le _
  rw [load, gather_eq h₀, List.nil_append]
  split
  case isTrue  => cases failure <;> rfl
  case isFalse => rfl

theorem load_none (source : Bytes) :
    load source none = .ok (Code.ofArray ((source.filter Text.isDigit).take maxLength).toArray) := by
  rw [load_eq]
  split
  case isTrue h => rw [List.take_of_length_le (Nat.le_of_lt h)]
  case isFalse  => rfl

theorem load_eq_ofSource (source : Bytes) : load source none = .ok (ofSource source) := by
  rw [ofSource, load_none]
  rfl

theorem load_of_le (h : maxLength ≤ (source.filter Text.isDigit).length) (failure : Option Bytes) :
    load source failure = .ok (ofSource source) := by
  rw [← load_eq_ofSource, load_none, load_eq, if_neg (Nat.not_lt.mpr h)]

theorem load_of_lt (h : (source.filter Text.isDigit).length < maxLength) (text : Bytes) :
    load source (some text) = .error (.device text) := by
  rw [load_eq, if_pos h]

theorem toList_ofSource (source : Bytes) :
    (ofSource source).toList = (source.filter Text.isDigit).take maxLength := by
  have hl : ((source.filter Text.isDigit).take maxLength).toArray.size ≤ Code.maxSize := by
    have hm : maxLength ≤ Code.maxSize := by decide
    rw [List.size_toArray, List.length_take]
    omega
  rw [ofSource, load_none]
  exact Code.toList_ofArray hl

theorem toList_ofSource_of_le {source digits : Bytes} (hs : source.filter Text.isDigit = digits)
    (hl : digits.length ≤ maxLength) : (ofSource source).toList = digits := by
  rw [toList_ofSource, hs, List.take_of_length_le hl]

end Program
end Denary
