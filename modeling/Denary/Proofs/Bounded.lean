import Denary.Bounded

namespace Denary.Bounded

variable {α : Type} {b b' : Bounded α} {a : α} {as : List α}

-- Entries are offered one after another, and one that does not fit is dropped. As nothing is ever
-- removed, all entries after a dropped one are dropped as well (cf. `toList_offer`).
def offer (b : Bounded α) : List α → Bounded α
  | []      => b
  | a :: as => ((b.push? a).getD b).offer as

@[simp]
theorem offer_nil (b : Bounded α) : b.offer [] = b :=
  rfl

theorem offer_append (b : Bounded α) (as as' : List α) :
    b.offer (as ++ as') = (b.offer as).offer as' := by
  induction as generalizing b
  case nil          => rfl
  case cons a as hi => exact hi ((b.push? a).getD b)

theorem offer_eq_of_push?_some (h : b.push? a = some b') : b.offer [a] = b' := by
  simp [offer, h]

theorem offer_eq_of_push?_none (h : b.push? a = none) : b.offer [a] = b := by
  simp [offer, h]

theorem capacity_push?_getD (b : Bounded α) (a : α) :
    ((b.push? a).getD b).capacity = b.capacity := by
  cases h : b.push? a
  case none   => rfl
  case some b' => exact capacity_of_push? h

@[simp]
theorem capacity_offer (b : Bounded α) (as : List α) : (b.offer as).capacity = b.capacity := by
  induction as generalizing b
  case nil          => rfl
  case cons a as hi => exact (hi _).trans (capacity_push?_getD b a)

theorem length_toList_le (b : Bounded α) : b.toList.length ≤ b.capacity :=
  b.size_le

theorem toList_push?_getD (b : Bounded α) (a : α) :
    ((b.push? a).getD b).toList = (b.toList ++ [a]).take b.capacity := by
  have hl := b.length_toList_le
  cases h : b.push? a
  case none =>
    have hf : b.capacity ≤ b.toList.length := by
      simpa [isFull, toList] using push?_eq_none_iff.mp h
    rw [List.take_append_of_le_length hf, List.take_of_length_le hl]
    rfl
  case some b' =>
    have hl' := b'.length_toList_le
    rw [capacity_of_push? h, toList_of_push? h] at hl'
    rw [List.take_of_length_le hl']
    exact toList_of_push? h

-- Cutting a list before something is appended does not show after a second cut of the same length.
theorem take_append_take (n : Nat) (as as' : List α) :
    (as.take n ++ as').take n = (as ++ as').take n := by
  by_cases h : n ≤ as.length
  case pos =>
    have ht : n ≤ (as.take n).length := by simp [h]
    rw [List.take_append_of_le_length h, List.take_append_of_le_length ht, List.take_take,
      Nat.min_self]
  case neg => rw [List.take_of_length_le (Nat.le_of_not_le h)]

theorem toList_offer (b : Bounded α) (as : List α) :
    (b.offer as).toList = (b.toList ++ as).take b.capacity := by
  induction as generalizing b
  case nil => simp [List.take_of_length_le b.length_toList_le]
  case cons a as hi =>
    rw [offer, hi, capacity_push?_getD, toList_push?_getD, take_append_take, List.append_assoc,
      List.singleton_append]

theorem toList_offer_singleton (b : Bounded α) (a : α) :
    (b.offer [a]).toList = b.toList ++ if b.isFull then [] else [a] := by
  cases h : b.push? a
  case none =>
    rw [offer_eq_of_push?_none h, if_pos (push?_eq_none_iff.mp h), List.append_nil]
  case some b' =>
    have hf : ¬ b.isFull = true := fun hf => nomatch h.symm.trans (push?_eq_none_iff.mpr hf)
    rw [offer_eq_of_push?_some h, toList_of_push? h, if_neg hf]

theorem mem_offer (h : a ∈ (b.offer as).toList) : a ∈ b.toList ∨ a ∈ as := by
  rw [toList_offer] at h
  exact List.mem_append.mp (List.mem_of_mem_take h)

end Denary.Bounded
