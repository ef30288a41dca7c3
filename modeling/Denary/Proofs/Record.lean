import Denary.Journal
import Denary.Proofs.Lines
import Denary.Proofs.Quoted

-- Copies of records. Whatever a message holds, its copy takes exactly one line, and the severity is
-- the first thing on it. So the copies that a receiver got can be told apart and counted.

namespace Denary

namespace Text

theorem oneLine_jsonChar (c : Char) : OneLine (jsonChar c) := by
  have hu : OneLine (ascii "\\u") := by decide
  fun_cases jsonChar c
  case case1 n hq =>
    have hn : n = 0x22 ∨ n = 0x5C := by simpa using hq
    rcases hn with hn | hn <;> rw [hn] <;> decide
  case case2 | case3 | case4 => decide
  case case5 => exact hu.append (oneLine_hex 4 _)
  case case6 n _ _ hn _ _ => exact oneLine_encodeChar hn

theorem oneLine_json (t : Bytes) : OneLine (json t) := by
  have hq : OneLine [0x22] := by decide
  have hc : OneLine ((chars t).flatMap jsonChar) := oneLine_flatMap fun c _ => oneLine_jsonChar c
  exact (hq.append hc).append hq

end Text

theorem Level.severity_plain (l : Level) : Text.OneLine l.severity ∧ 0x22 ∉ l.severity := by
  unfold severity
  split <;> decide

namespace Record

open Text

variable {r : Record} {severity : Bytes}

theorem isLine_structured (r : Record) : IsLine r.structured := by
  have hp : OneLine (if 0 ≤ r.position then ascii ",\"position\":" ++ Decimal.integer r.position
      else []) := by
    have ha : OneLine (ascii ",\"position\":") := by decide
    split
    case isTrue  => exact ha.append (Decimal.oneLine_integer _)
    case isFalse => exact List.not_mem_nil
  obtain ⟨hs, _⟩ := r.level.severity_plain
  obtain ⟨hb, hm, hc, he⟩ : OneLine (ascii "\x7b\"level\":\"") ∧ OneLine (ascii "\",\"msg\":") ∧
      OneLine (ascii ",\"category\":") ∧ OneLine (ascii "\x7d") := by decide
  have hl := ((hb.append hs).append hm).append (oneLine_json r.message)
  have hl := (hl.append hc).append (oneLine_json r.category)
  exact ⟨_, (hl.append hp).append he, rfl⟩

-- A copy shows a severity, in quotes, in front of all else.
def Shows (severity copy : Bytes) : Prop :=
  ascii "\x7b\"level\":\"" ++ severity ++ ascii "\"" <+: copy

instance (severity copy : Bytes) : Decidable (Shows severity copy) :=
  inferInstanceAs (Decidable (_ <+: _))

-- The severity ends at the first quote.
theorem shows_structured_iff (hs : 0x22 ∉ severity) :
    Shows severity r.structured ↔ severity = r.level.severity := by
  obtain ⟨_, hr⟩ := r.level.severity_plain
  have hq : ascii "\"" = [0x22] ∧ ascii "\",\"msg\":" = 0x22 :: ascii ",\"msg\":" := by decide
  obtain ⟨rest, hc⟩ : ∃ rest, r.structured
      = ascii "\x7b\"level\":\"" ++ (r.level.severity ++ 0x22 :: rest) :=
    ⟨_, by simp only [structured, line, hq, List.append_assoc, List.cons_append]; rfl⟩
  unfold Shows
  rw [hc, hq.left, List.append_assoc, List.prefix_append_right_inj]
  constructor
  case mp =>
    rintro ⟨t, ht⟩
    rw [List.append_assoc] at ht
    exact (append_cons_injective hs hr ht).left
  case mpr =>
    rintro rfl
    exact ⟨rest, by simp⟩

end Record
end Denary
