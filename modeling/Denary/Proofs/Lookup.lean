import Denary.State
import Denary.Proofs.Bounded

-- Looking variables up by their kinds. A search goes back from the newest entry of a store and stops
-- as soon as it has found enough. What it finds is said by the entries alone: those of the given kinds,
-- newest first, cut to the number that was asked for.

namespace Denary.Bounded

variable {store store' : Bounded Variable} {v : Variable} {n : Int}

theorem reverse_take_succ {i : Nat} (h : i < store.entries.size) :
    (store.toList.take (i + 1)).reverse = store.entries[i] :: (store.toList.take i).reverse := by
  have hi : i < store.toList.length := h
  rw [List.take_succ_eq_append_getElem hi, List.reverse_append]
  rfl

-- What is found before is kept in front, and as much is added as is missing.
theorem toList_search (store : Bounded Variable) (n : Int) (kinds : List Kind) (i : Nat)
    (h : i ≤ store.entries.size) (found : Array Variable) :
    (store.search n kinds i h found).toList
      = found.toList ++ ((store.toList.take i).reverse.filter fun v => kinds.contains v.kind).take
          (n.toNat - found.size) := by
  induction i generalizing found
  case zero => simp [search]
  case succ i hi =>
    rw [search, reverse_take_succ h]
    split
    case isFalse hn =>
      have hz : n.toNat - found.size = 0 := by omega
      rw [hz, List.take_zero, List.append_nil]
    case isTrue hn =>
      have hs : n.toNat - found.size = n.toNat - (found.size + 1) + 1 := by omega
      dsimp only
      rw [hi, List.filter_cons]
      split
      case isFalse => rfl
      case isTrue  =>
        rw [hs, List.take_succ_cons, Array.size_push, Array.toList_push, List.append_assoc]
        rfl

theorem lastOfKinds_eq (store : Bounded Variable) (n : Int) (kinds : List Kind) :
    store.lastOfKinds n kinds
      = (store.toList.reverse.filter fun v => kinds.contains v.kind).take n.toNat := by
  have ht : store.toList.take store.entries.size = store.toList := List.take_length
  rw [lastOfKinds, toList_search, ht]
  rfl

theorem lastOfKinds_sublist (store : Bounded Variable) (n : Int) (kinds : List Kind) :
    (store.lastOfKinds n kinds).Sublist store.toList.reverse := by
  rw [lastOfKinds_eq]
  exact (List.take_sublist ..).trans List.filter_sublist

theorem lastOfKind?_eq_find? (store : Bounded Variable) (kinds : List Kind) :
    store.lastOfKind? kinds = store.toList.reverse.find? (kinds.contains ·.kind) := by
  rw [lastOfKind?, lastOfKinds_eq, List.head?_take, if_neg (by decide), List.head?_filter]

-- A new entry is the first one that is found, or it is passed over.
theorem lastOfKinds_of_push? (h : store.push? v = some store') (hn : 0 ≤ n) (kinds : List Kind) :
    store'.lastOfKinds (n + 1) kinds
      = if kinds.contains v.kind then v :: store.lastOfKinds n kinds
        else store.lastOfKinds (n + 1) kinds := by
  have hs : (n + 1).toNat = n.toNat + 1 := by omega
  have hr : store'.toList.reverse = v :: store.toList.reverse := by
    rw [toList_of_push? h, List.reverse_append]
    rfl
  rw [lastOfKinds_eq, lastOfKinds_eq, lastOfKinds_eq, hr, hs, List.filter_cons]
  split
  case isTrue  => rw [List.take_succ_cons]
  case isFalse => rfl

-- What can be looked up in any store that was filled by appending variables, of which those that did
-- not fit were refused. As a sublist, a result has no entry twice.
theorem lookup_laws (request : Int) (vs : List Variable) (n : Int) (kinds : List Kind) :
    let store    := (ofRequest request Settings.defaultVariables).offer vs
    let capacity := if request ≤ 0 then 1000 else request.toNat
    store.toList = vs.take capacity ∧
    store.lastOfKinds n kinds
      = (store.toList.reverse.filter (·.kind ∈ kinds)).take (max n 0).toNat ∧
    (store.lastOfKinds n kinds).Sublist store.toList.reverse ∧
    store.lastOfKind? kinds = (store.lastOfKinds 1 kinds).head? ∧
    store.lastOfKind? kinds = store.toList.reverse.find? (·.kind ∈ kinds) ∧
    ∀ v store', store.push? v = some store' → 0 ≤ n →
      (v.kind ∈ kinds → store'.lastOfKinds (n + 1) kinds = v :: store.lastOfKinds n kinds) ∧
      (v.kind ∉ kinds → store'.lastOfKinds (n + 1) kinds = store.lastOfKinds (n + 1) kinds) := by
  intro store capacity
  have hm (v : Variable) : kinds.contains v.kind = decide (v.kind ∈ kinds) := List.contains_eq_mem ..
  have hz : n.toNat = (max n 0).toNat := by omega
  refine ⟨?_, ?_, store.lastOfKinds_sublist n kinds, rfl, ?_, fun v store' hp hn => ?_⟩
  · exact toList_offer ..
  · rw [lastOfKinds_eq, hz]
    simp only [hm]
  · rw [lastOfKind?_eq_find?]
    simp only [hm]
  · have h := lastOfKinds_of_push? hp hn kinds
    rw [hm] at h
    exact ⟨fun hk => by rw [h, if_pos (decide_eq_true hk)],
      fun hk => by rw [h, if_neg (by simpa using hk)]⟩

-- A text lies between two numbers of the same name. Where there is room for two variables alone, the
-- second number was refused.
theorem lookup_laws_refused :
    let a : Variable := ⟨ascii "x", .int 1⟩
    let b : Variable := ⟨ascii "y", .text []⟩
    let c : Variable := ⟨ascii "x", .float 2⟩
    let v : Variable := ⟨ascii "z", .int 3⟩
    let kinds := [Kind.float, .int, .int]
    let store := (ofRequest 4 Settings.defaultVariables).offer [a, b, c]
    let small := (ofRequest 2 Settings.defaultVariables).offer [a, b, c]
    small.lastOfKinds 2 kinds = [a] ∧
      ∃ store', store.push? v = some store' ∧ v.kind ∈ kinds ∧
        store'.lastOfKinds 3 kinds = [v, c, a] := by
  intro a b c v kinds store small
  have hk : v.kind ∈ kinds := by decide
  have ⟨_, hs, _⟩ := lookup_laws 2 [a, b, c] 2 kinds
  have ⟨_, hl, _, _, _, ha⟩ := lookup_laws 4 [a, b, c] 2 kinds
  have ⟨hc, _⟩ := ha v _ rfl (by decide)
  exact ⟨hs.trans rfl, _, rfl, hk, (hc hk).trans (congrArg _ (hl.trans rfl))⟩

end Denary.Bounded
