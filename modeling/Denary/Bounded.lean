-- Lists that only grow and never beyond a capacity. A program's variables and its condition frames
-- are kept in such lists. The view is `toList`, oldest entry first.

namespace Denary

structure Bounded (α : Type) where
  capacity : Nat
  entries : Array α
  size_le : entries.size ≤ capacity

namespace Bounded

variable {α : Type}

def empty (capacity : Nat) : Bounded α :=
  ⟨capacity, #[], Nat.zero_le _⟩

-- An empty list with the requested capacity, or with a fallback when the request is not positive.
def ofRequest (request : Int) (fallback : Nat) : Bounded α :=
  empty (if request ≤ 0 then fallback else request.toNat)

def toList (b : Bounded α) : List α :=
  b.entries.toList

def size (b : Bounded α) : Nat :=
  b.entries.size

def isFull (b : Bounded α) : Bool :=
  b.capacity ≤ b.entries.size

def push? (b : Bounded α) (a : α) : Option (Bounded α) :=
  if h : b.entries.size < b.capacity then
    some ⟨b.capacity, b.entries.push a, by rw [Array.size_push]; exact h⟩
  else none

def get? (b : Bounded α) (i : Int) : Option α :=
  if i < 0 then none else b.entries[i.toNat]?

def last? (b : Bounded α) : Option α :=
  b.entries.back?

-- Entries pushed one after another until one does not fit. The flag says whether all did.
def pushAll (b : Bounded α) : List α → Bounded α × Bool
  | [] => (b, true)
  | a :: as =>
    match b.push? a with
    | some b' => b'.pushAll as
    | none => (b, false)

@[simp]
theorem toList_empty (capacity : Nat) : (empty capacity : Bounded α).toList = [] :=
  rfl

theorem length_toList (b : Bounded α) : b.toList.length = b.size :=
  rfl

theorem size_le_capacity (b : Bounded α) : b.size ≤ b.capacity :=
  b.size_le

theorem push?_eq_none_iff {b : Bounded α} {a : α} : b.push? a = none ↔ b.isFull := by
  simp [push?, isFull]

theorem toList_of_push? {b b' : Bounded α} {a : α} (h : b.push? a = some b') :
    b'.toList = b.toList ++ [a] := by
  unfold push? at h
  split at h
  · cases h; simp [toList]
  · cases h

theorem capacity_of_push? {b b' : Bounded α} {a : α} (h : b.push? a = some b') :
    b'.capacity = b.capacity := by
  unfold push? at h
  split at h
  · cases h; rfl
  · cases h

end Bounded
end Denary
