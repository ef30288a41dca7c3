import Denary.Proofs.Text

-- The lines of a text. What is written line by line is found again in the lines of what was written,
-- as long as nothing that is written on one line has a newline of its own.

namespace Denary

namespace Text

-- The lines of a text. Each of them keeps its newline, which the last one may lack.
def lines : Bytes → List Bytes
  | []      => []
  | b :: bs =>
    if b = newline then [b] :: lines bs
    else match lines bs with
      | []      => [[b]]
      | l :: ls => (b :: l) :: ls

variable {t t' : Bytes}

theorem flatten_lines (t : Bytes) : (lines t).flatten = t := by
  induction t
  case nil => rfl
  case cons b bs hi =>
    unfold lines
    split
    case isTrue  => simp [hi]
    case isFalse =>
      cases hl : lines bs <;> rw [hl] at hi <;> simp_all

theorem lines_of_newline {t rest : Bytes} {b : UInt8}
    (h : t.dropWhile (· ≠ newline) = b :: rest) :
    lines t = (t.takeWhile (· ≠ newline) ++ [newline]) :: lines rest := by
  induction t
  case nil => cases h
  case cons c cs hi =>
    by_cases hc : c = newline
    case pos =>
      rw [List.dropWhile_cons_of_neg (by simp [hc])] at h
      cases h
      simp [lines, hc]
    case neg =>
      rw [List.dropWhile_cons_of_pos (by simp [hc])] at h
      simp [lines, hc, hi h]

theorem lines_of_no_newline {t : Bytes} (ht : t ≠ []) (h : t.dropWhile (· ≠ newline) = []) :
    lines t = [t] := by
  induction t
  case nil => exact absurd rfl ht
  case cons c cs hi =>
    by_cases hc : c = newline
    case pos =>
      rw [List.dropWhile_cons_of_neg (by simp [hc])] at h
      cases h
    case neg =>
      rw [List.dropWhile_cons_of_pos (by simp [hc])] at h
      cases cs
      case nil          => simp [lines, hc]
      case cons c' cs'  =>
        rw [lines, if_neg hc, hi (List.cons_ne_nil _ _) h]

theorem lines_line_append (h : OneLine t) (rest : Bytes) :
    lines (line t ++ rest) = line t :: lines rest := by
  have hp : ∀ b ∈ t, decide (b ≠ newline) = true := by
    intro b hb
    exact decide_eq_true fun hn => h (hn ▸ hb)
  have hd : (t ++ newline :: rest).dropWhile (· ≠ newline) = newline :: rest := by
    rw [List.dropWhile_append_of_pos hp, List.dropWhile_cons_of_neg (by simp)]
  have hl := lines_of_newline hd
  rw [List.takeWhile_append_of_pos hp, List.takeWhile_cons_of_neg (by simp), List.append_nil] at hl
  simpa [line] using hl

-- A text on a line of its own.
def IsLine (t : Bytes) : Prop :=
  ∃ u, OneLine u ∧ t = line u

-- Texts of one line each, written one after another, are the lines of what is written.
theorem lines_flatMap {α : Type} {as : List α} {f : α → Bytes} (h : ∀ a ∈ as, IsLine (f a)) :
    lines (as.flatMap f) = as.map f := by
  induction as
  case nil => rfl
  case cons a as hi =>
    obtain ⟨ha, has⟩ := List.forall_mem_cons.mp h
    obtain ⟨u, hu, he⟩ := ha
    rw [List.flatMap_cons, he, lines_line_append hu, hi has, List.map_cons, he]

theorem lines_flatMap_line {ts : List Bytes} (h : ∀ t ∈ ts, OneLine t) :
    lines (ts.flatMap line) = ts.map line :=
  lines_flatMap fun t ht => ⟨t, h t ht, rfl⟩

theorem line_injective (h : line t = line t') : t = t' :=
  List.append_cancel_right h

theorem flatMap_line_injective {ts ts' : List Bytes} (hl : ∀ t ∈ ts, OneLine t)
    (hl' : ∀ t ∈ ts', OneLine t) (h : ts.flatMap line = ts'.flatMap line) : ts = ts' := by
  have he := congrArg lines h
  rw [lines_flatMap_line hl, lines_flatMap_line hl'] at he
  exact (List.map_inj_right fun _ _ => line_injective).mp he

-- A text ends where a byte first occurs that it does not hold.
theorem append_cons_injective {b : UInt8} {u u' : Bytes} (ht : b ∉ t) (ht' : b ∉ t')
    (h : t ++ b :: u = t' ++ b :: u') : t = t' ∧ u = u' := by
  have hw {t u : Bytes} (ht : b ∉ t) : (t ++ b :: u).takeWhile (· ≠ b) = t := by
    have hp : ∀ c ∈ t, decide (c ≠ b) = true := fun c hc => decide_eq_true fun hn => ht (hn ▸ hc)
    rw [List.takeWhile_append_of_pos hp, List.takeWhile_cons_of_neg (by simp), List.append_nil]
  obtain rfl : t = t' := by rw [← hw ht, h, hw ht']
  exact ⟨rfl, List.tail_eq_of_cons_eq (List.append_cancel_left h)⟩

end Text

theorem Decimal.oneLine_integer (n : Int) : Text.OneLine (integer n) := by
  intro h
  rcases mem_integer h with h | h <;> cases h

end Denary
