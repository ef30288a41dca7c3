import Mathlib.Data.List.Forall2
import Denary.Proofs.Remarks

namespace Denary

-- The line that is printed when a report was made.
def Opcode.placeLine (place : Bytes) : Bytes :=
  Text.line (ascii "Created file: " ++ place)

namespace Reporter

-- Answers that agree on whether a report was made. Where it was, the places are related.
inductive Answers (place : Bytes → Bytes → Prop) : Except Error Bytes → Except Error Bytes → Prop
  | made {p p' : Bytes} (h : place p p') : Answers place (.ok p) (.ok p')
  | failed {e e' : Error}                : Answers place (.error e) (.error e')

-- A reporter that does not tell snapshots of a kind apart: whatever it was handed over before, its
-- answers to two of them agree, and so do those to two histories of them.
def Steady (reporter : Reporter) (like : Snapshot → Snapshot → Prop) (place : Bytes → Bytes → Prop)
    (archive : Archive) : Prop :=
  ∀ ⦃ss ss' : List Snapshot⦄ ⦃s s' : Snapshot⦄, List.Forall₂ like ss ss' → like s s' →
    Answers place (reporter s (deliver reporter archive ss)).2
      (reporter s' (deliver reporter archive ss')).2

end Reporter

-- Snapshots that are the same up to the length of the code.
def Snapshot.SameButLength (s s' : Snapshot) : Prop :=
  s' = { s with codeLength := s'.codeLength }

def Node.isDirectory : Node → Bool
  | directory => true
  | file _    => false

-- Trees with the same directories and files, whatever the files hold.
def Disk.SameShape (d d' : Disk) : Prop :=
  ∀ place, (d.at? place).map Node.isDirectory = (d'.at? place).map Node.isDirectory

namespace Disk

theorem lookup_put (nodes : List (Place × Node)) (place q : Place) (node : Node) :
    (nodes.filter (fun n => n.1 ≠ place) ++ [(place, node)]).lookup q
      = if q = place then some node else nodes.lookup q := by
  induction nodes
  case nil =>
    by_cases h : q = place
    case pos => simp [h]
    case neg => simp [h, List.lookup_cons, beq_false_of_ne h]
  case cons n ns hi =>
    obtain ⟨p, old⟩ := n
    by_cases hp : p = place
    case pos =>
      rw [List.filter_cons_of_neg (by simp [hp]), hi]
      by_cases h : q = place
      case pos => simp [h]
      case neg => simp [h, List.lookup_cons, hp, beq_false_of_ne h]
    case neg =>
      rw [List.filter_cons_of_pos (by simp [hp]), List.cons_append, List.lookup_cons, hi]
      by_cases h : q = p
      case pos => simp [h, hp]
      case neg => simp [List.lookup_cons, beq_false_of_ne h]

theorem at?_put (d : Disk) (place q : Place) (node : Node) :
    (d.put place node).at? q
      = if q.isFixed then some .directory else if q = place then some node else d.at? q := by
  unfold at? put
  split
  case isTrue  => rfl
  case isFalse => rw [lookup_put]

namespace SameShape

variable {d d' : Disk}

theorem put (h : d.SameShape d') (place : Place) (data data' : Bytes) :
    (d.put place (.file data)).SameShape (d'.put place (.file data')) := by
  intro q
  have hq := h q
  rw [at?_put, at?_put]
  split
  case isTrue  => rfl
  case isFalse =>
    split
    case isTrue  => rfl
    case isFalse => exact hq

theorem follow (h : d.SameShape d') (place : Place) (names : List Bytes) :
    d.follow place names = d'.follow place names := by
  induction names generalizing place
  case nil => rfl
  case cons name names hi =>
    have hp := h place
    unfold Disk.follow
    simp only [hi]
    cases hd : d.at? place <;> cases hd' : d'.at? place <;> simp [hd, hd'] at hp
    case none.none => rfl
    case some.some node node' =>
      cases node <;> cases node' <;> simp [Node.isDirectory] at hp
      case directory.directory => rfl
      case file.file           => rfl

theorem resolve (h : d.SameShape d') (path : Bytes) : d.resolve path = d'.resolve path := by
  unfold Disk.resolve
  rw [h.follow]

-- Whether a file can be written does not depend on what it, or any other file, holds.
theorem write (h : d.SameShape d') (path data data' : Bytes) :
    (∃ e, d.write path data = .error e ∧ d'.write path data' = .error e) ∨
      ∃ d₁ d₁', d.write path data = .ok d₁ ∧ d'.write path data' = .ok d₁' ∧ d₁.SameShape d₁' := by
  unfold Disk.write
  dsimp only
  rw [h.resolve]
  split
  case isTrue => exact .inl ⟨_, rfl, rfl⟩
  case isFalse =>
    cases d'.resolve (Text.trimEnd (· = Path.slash) path)
    case error r => exact .inl ⟨_, rfl, rfl⟩
    case ok place =>
      dsimp only
      split
      case isTrue => exact .inl ⟨_, rfl, rfl⟩
      case isFalse =>
        have hp := h place
        cases hd : d.at? place <;> cases hd' : d'.at? place <;> simp [hd, hd'] at hp
        case none.none => exact .inr ⟨_, _, rfl, rfl, h.put place data data'⟩
        case some.some node node' =>
          cases node <;> cases node' <;> simp [Node.isDirectory] at hp
          case directory.directory => exact .inl ⟨_, rfl, rfl⟩
          case file.file           => exact .inr ⟨_, _, rfl, rfl, h.put place data data'⟩

end SameShape
end Disk

namespace Report.Destination

variable (d : Destination) {like : Snapshot → Snapshot → Prop} {archive archive' : Archive}
  {s s' : Snapshot}

theorem render_cases (format : Bytes) (s s' : Snapshot) :
    (∃ e, render format s = .error e ∧ render format s' = .error e) ∨
      ∃ data data', render format s = .ok data ∧ render format s' = .ok data' := by
  unfold render
  by_cases hy : format = ascii "yaml"
  case pos => exact .inr ⟨_, _, if_pos hy, if_pos hy⟩
  case neg =>
    rw [if_neg hy, if_neg hy]
    by_cases ht : format = ascii "text"
    case pos => exact .inr ⟨_, _, if_pos ht, if_pos ht⟩
    case neg => exact .inl ⟨_, if_neg ht, if_neg ht⟩

theorem reporter_sameShape (hs : s.position = s'.position)
    (ha : archive.disk.SameShape archive'.disk) :
    (d.reporter s archive).1.disk.SameShape (d.reporter s' archive').1.disk ∧
      (d.reporter s archive).2 = (d.reporter s' archive').2 := by
  unfold reporter
  rw [hs]
  rcases render_cases d.format s s' with ⟨e, he, he'⟩ | ⟨data, data', he, he'⟩
  · rw [he, he']
    exact ⟨ha, rfl⟩
  · rw [he, he']
    dsimp only
    rcases ha.write (Path.join d.directory (fileName s'.position)) data data' with
      ⟨e, hw, hw'⟩ | ⟨d₁, d₁', hw, hw', h₁⟩
    · rw [hw, hw']
      exact ⟨ha, rfl⟩
    · rw [hw, hw']
      exact ⟨h₁, rfl⟩

-- Whether a report becomes a file, and which one, is decided by its position and by the directories.
theorem answer_eq (hl : ∀ s s', like s s' → s.position = s'.position) (archive : Archive)
    {ss ss' : List Snapshot} (hss : List.Forall₂ like ss ss') (hs : like s s') :
    (d.reporter s (Reporter.deliver d.reporter archive ss)).2
      = (d.reporter s' (Reporter.deliver d.reporter archive ss')).2 := by
  have hd {a a' : Archive} (ha : a.disk.SameShape a'.disk) :
      (Reporter.deliver d.reporter a ss).disk.SameShape
        (Reporter.deliver d.reporter a' ss').disk := by
    induction hss generalizing a a'
    case nil           => exact ha
    case cons hs _ hi  => exact hi (d.reporter_sameShape (hl _ _ hs) ha).left
  exact (d.reporter_sameShape (hl s s' hs) (hd fun _ => rfl)).right

theorem steady (hl : ∀ s s', like s s' → s.position = s'.position) (archive : Archive) :
    Reporter.Steady d.reporter like Eq archive := by
  intro ss ss' s s' hss hs
  rw [d.answer_eq hl archive hss hs]
  cases (d.reporter s' (Reporter.deliver d.reporter archive ss')).2
  case error e => exact .failed
  case ok p    => exact .made rfl

end Report.Destination
end Denary
