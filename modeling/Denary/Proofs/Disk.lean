import Denary.Proofs.Reporter
import Denary.Proofs.Text

-- Files that lie in one folder. A file that is written there is found again, and neither the way to
-- the folder nor any other file is touched. So whether a file can be written does not depend on what
-- was written before.

namespace Denary

namespace Path

-- Names without a meaning of their own in a path.
structure Proper (name : Bytes) : Prop where
  ne_nil   : name ≠ []
  ne_dot   : name ≠ dot
  ne_dots  : name ≠ dots
  no_slash : slash ∉ name
  no_zero  : 0 ∉ name

-- All that a path holds in front of the name of a file in a directory.
def folder (directory : Bytes) : Bytes :=
  if directory = [] then []
  else (if isRooted directory then [slash] else [])
    ++ ((parts directory).foldl (pushPart (isRooted directory)) []).reverse.flatMap (· ++ [slash])

theorem parts_ne_nil (t : Bytes) : parts t ≠ [] := by
  cases t
  case nil => exact List.cons_ne_nil _ _
  case cons b t =>
    unfold parts
    repeat' split
    all_goals exact List.cons_ne_nil _ _

theorem parts_append_slash (t t' : Bytes) : parts (t ++ slash :: t') = parts t ++ parts t' := by
  induction t
  case nil => simp [parts]
  case cons b t hi =>
    rw [List.cons_append, parts, parts, hi]
    split
    case isTrue  => rfl
    case isFalse =>
      cases hp : parts t
      case nil       => exact absurd hp (parts_ne_nil t)
      case cons p ps => rfl

theorem parts_of_not_mem {t : Bytes} (h : slash ∉ t) : parts t = [t] := by
  induction t
  case nil => rfl
  case cons b t hi =>
    have ⟨hb, ht⟩ : slash ≠ b ∧ slash ∉ t := by simpa [not_or] using h
    rw [parts, if_neg (Ne.symm hb), hi ht]

theorem joined_concat (names : List Bytes) (name : Bytes) :
    Text.joined [slash] (names ++ [name]) = names.flatMap (· ++ [slash]) ++ name := by
  induction names
  case nil => simp [Text.joined]
  case cons n ns hi =>
    have hn : ns ++ [name] ≠ [] := by simp
    rw [List.cons_append, Text.joined, List.intercalate_cons_of_ne_nil hn]
    rw [Text.joined] at hi
    rw [hi]
    simp

theorem isRooted_append {t : Bytes} (h : t ≠ []) (t' : Bytes) : isRooted (t ++ t') = isRooted t := by
  cases t
  case nil => exact absurd rfl h
  case cons b t => rfl

namespace Proper

variable {name : Bytes} (hn : Proper name)
include hn

theorem pushPart (rooted : Bool) (stack : List Bytes) : pushPart rooted stack name = name :: stack := by
  rw [Path.pushPart.eq_def, if_neg (not_or.mpr ⟨hn.ne_nil, hn.ne_dot⟩), if_neg hn.ne_dots]

theorem isRooted : isRooted name = false := by
  cases h : name
  case nil => rfl
  case cons b t =>
    have hb : b ≠ slash := by
      rintro rfl
      exact hn.no_slash (h ▸ List.mem_cons_self)
    simp [Path.isRooted, hb]

theorem join_eq (directory : Bytes) : join directory name = folder directory ++ name := by
  unfold join folder
  split
  case isTrue =>
    rw [if_neg hn.ne_nil, clean, parts_of_not_mem hn.no_slash, hn.isRooted]
    simp [hn.pushPart, Text.joined]
  case isFalse hd =>
    have hr : Path.isRooted (directory ++ [slash] ++ name) = Path.isRooted directory := by
      rw [List.append_assoc, isRooted_append hd]
    have hp : parts (directory ++ [slash] ++ name) = parts directory ++ [name] := by
      rw [List.append_assoc, List.singleton_append, parts_append_slash, parts_of_not_mem hn.no_slash]
    rw [if_neg hn.ne_nil, clean, hr, hp, List.foldl_append, List.foldl_cons, List.foldl_nil,
      hn.pushPart, List.reverse_cons, joined_concat]
    cases Path.isRooted directory <;> simp

theorem trimEnd (t : Bytes) : Text.trimEnd (· = slash) (t ++ name) = t ++ name := by
  have hr : name.reverse ≠ [] := by simpa using hn.ne_nil
  obtain ⟨b, bs, he⟩ := List.exists_cons_of_ne_nil hr
  have hb : b ≠ slash := by
    rintro rfl
    exact hn.no_slash (List.mem_reverse.mp (he ▸ List.mem_cons_self))
  rw [Text.trimEnd, List.reverse_append, he, List.cons_append,
    List.dropWhile_cons_of_neg (by simpa using hb), ← List.cons_append, ← he, ← List.reverse_append,
    List.reverse_reverse]

end Proper

-- A folder is empty, or it ends with a slash.
theorem folder_cases (directory : Bytes) :
    folder directory = [] ∨ ∃ t, folder directory = t ++ [slash] := by
  unfold folder
  split
  case isTrue  => exact .inl rfl
  case isFalse =>
    generalize ((parts directory).foldl _ []).reverse = names
    rcases List.eq_nil_or_concat names with rfl | ⟨ns, n, rfl⟩
    · cases isRooted directory
      case false => exact .inl rfl
      case true  => exact .inr ⟨[], rfl⟩
    · refine .inr ⟨(if isRooted directory then [slash] else [])
        ++ (ns.flatMap (· ++ [slash]) ++ n), ?_⟩
      simp

-- The names that lead to a folder.
def steps (folder : Bytes) : List Bytes :=
  (parts folder).dropLast

theorem parts_folder (directory : Bytes) {name : Bytes} (h : slash ∉ name) :
    parts (folder directory ++ name) = steps (folder directory) ++ [name] := by
  unfold steps
  rcases folder_cases directory with hf | ⟨t, hf⟩
  · rw [hf, List.nil_append, parts_of_not_mem h]
    rfl
  · have hs : parts (t ++ [slash]) = parts t ++ [[]] := parts_append_slash t []
    rw [hf, hs, List.dropLast_concat, List.append_assoc, List.singleton_append, parts_append_slash,
      parts_of_not_mem h]

theorem isRooted_folder (directory : Bytes) {name : Bytes} (hn : Proper name) :
    isRooted (folder directory ++ name) = isRooted (folder directory) := by
  by_cases hf : folder directory = []
  case pos => rw [hf, List.nil_append, hn.isRooted]; rfl
  case neg => exact isRooted_append hf name

end Path

namespace Disk

variable {d d' d'' : Disk} {place : Place} {name : Bytes}

theorem follow_append (d : Disk) (place : Place) (names names' : List Bytes) :
    d.follow place (names ++ names') = (d.follow place names).bind (d.follow · names') := by
  induction names generalizing place
  case nil => rfl
  case cons n ns hi =>
    rw [List.cons_append, follow, follow]
    cases d.at? place
    case none => rfl
    case some node =>
      cases node
      case file data => rfl
      case directory =>
        dsimp only
        repeat' split
        case isFalse.isFalse.isTrue => rfl
        all_goals exact hi _

-- The place that a folder leads to.
def folder (d : Disk) (folder : Bytes) : Except Refusal Place :=
  d.follow (Place.startOf folder) (Path.steps folder)

theorem resolve_folder (d : Disk) (directory : Bytes) (hn : Path.Proper name) :
    d.resolve (Path.folder directory ++ name)
      = if (Path.folder directory).contains 0 then .error .invalidName
        else if maxPath < (Path.folder directory ++ name).length then .error .nameTooLong
        else (d.folder (Path.folder directory)).bind (d.follow · [name]) := by
  have hz : (Path.folder directory ++ name).contains 0 = (Path.folder directory).contains 0 := by
    simp [hn.no_zero]
  have he : Path.folder directory ++ name ≠ [] := by simp [hn.ne_nil]
  have hs : Place.startOf (Path.folder directory ++ name) = Place.startOf (Path.folder directory) := by
    rw [Place.startOf, Place.startOf, Path.isRooted_folder directory hn]
  rw [resolve, hz, if_neg he, hs, Path.parts_folder directory hn.no_slash, follow_append]
  rfl

theorem follow_name (hn : Path.Proper name) (d : Disk) (place : Place) :
    d.follow place [name]
      = match d.at? place with
        | none => .error .missing
        | some (.file _) => .error .notDirectory
        | some .directory =>
          if maxName < name.length then .error .nameTooLong else .ok (place ++ [name]) := by
  rw [follow, if_neg (not_or.mpr ⟨hn.ne_nil, hn.ne_dot⟩), if_neg hn.ne_dots]
  rfl

-- Disks on which a folder is found in the same place, with the same directories in it.
structure SameFolder (t : Bytes) (d d' : Disk) : Prop where
  place : d.folder t = d'.folder t
  node  : ∀ place, d.folder t = .ok place → d.at? place = d'.at? place
  names : ∀ place name, d.folder t = .ok place →
    (d.at? (place ++ [name]) = some .directory ↔ d'.at? (place ++ [name]) = some .directory)

namespace SameFolder

variable {t : Bytes}

theorem refl (t : Bytes) (d : Disk) : SameFolder t d d :=
  ⟨rfl, fun _ _ => rfl, fun _ _ _ => .rfl⟩

theorem trans (h : SameFolder t d d') (h' : SameFolder t d' d'') : SameFolder t d d'' where
  place               := h.place.trans h'.place
  node place hp       := (h.node place hp).trans (h'.node place (h.place ▸ hp))
  names place name hp := (h.names place name hp).trans (h'.names place name (h.place ▸ hp))

end SameFolder

theorem isFixed_concat (hn : Path.Proper name) (place : Place) :
    Place.isFixed (place ++ [name]) = false := by
  have hr : place ++ [name] ≠ Place.root := by
    intro h
    have hl := congrArg List.getLast? h
    simp [Place.root, hn.ne_nil] at hl
  simp [Place.isFixed, hr, hn.ne_dots]

-- A file that takes no directory's place is in nobody's way.
theorem follow_put {names : List Bytes} {q r : Place} (hf : d.follow q names = .ok place)
    (hr : d.at? r ≠ some .directory) (data : Bytes) :
    (d.put r (.file data)).follow q names = .ok place := by
  induction names generalizing q
  case nil => exact hf
  case cons n ns hi =>
    rw [follow] at hf ⊢
    cases hq : d.at? q
    case none => simp [hq] at hf
    case some node =>
      cases node
      case file old => simp [hq] at hf
      case directory =>
        have hne : q ≠ r := by
          rintro rfl
          exact hr hq
        have hq' : (d.put r (.file data)).at? q = some .directory := by
          rw [at?_put, if_neg hne, hq]
          split <;> rfl
        rw [hq] at hf
        rw [hq']
        dsimp only at hf ⊢
        by_cases h₁ : n = [] ∨ n = Path.dot
        case pos =>
          rw [if_pos h₁] at hf ⊢
          exact hi hf
        case neg =>
          rw [if_neg h₁] at hf ⊢
          by_cases h₂ : n = Path.dots
          case pos =>
            rw [if_pos h₂] at hf ⊢
            exact hi hf
          case neg =>
            rw [if_neg h₂] at hf ⊢
            by_cases h₃ : maxName < n.length
            case pos => simp [h₃] at hf
            case neg =>
              rw [if_neg h₃] at hf ⊢
              exact hi hf

theorem at?_put_self {r : Place} (hr : r.isFixed = false) (d : Disk) (node : Node) :
    (d.put r node).at? r = some node := by
  simp [at?_put, hr]

theorem at?_put_of_ne {q r : Place} (h : q ≠ r) (d : Disk) (node : Node) :
    (d.put r node).at? q = d.at? q := by
  rw [at?_put, if_neg h]
  split
  case isTrue hf => rw [at?, if_pos hf]
  case isFalse   => rfl

theorem SameFolder.put {t : Bytes} (hp : d.folder t = .ok place) (hn : Path.Proper name)
    (hr : d.at? (place ++ [name]) ≠ some .directory) (data : Bytes) :
    SameFolder t d (d.put (place ++ [name]) (.file data)) := by
  have hf : (d.put (place ++ [name]) (.file data)).folder t = .ok place := follow_put hp hr data
  refine { place := hp.trans hf.symm, node := ?_, names := ?_ }
  · intro q hq
    cases hp.symm.trans hq
    exact (at?_put_of_ne (by simp) d _).symm
  · intro q name' hq
    cases hp.symm.trans hq
    by_cases h : name' = name
    case pos =>
      rw [h, at?_put_self (isFixed_concat hn place)]
      simp [hr]
    case neg => rw [at?_put_of_ne (by simpa using h)]

variable {directory : Bytes}

theorem SameFolder.resolve (h : SameFolder (Path.folder directory) d d') (hn : Path.Proper name) :
    d.resolve (Path.folder directory ++ name) = d'.resolve (Path.folder directory ++ name) := by
  rw [resolve_folder d directory hn, resolve_folder d' directory hn, ← h.place]
  cases hp : d.folder (Path.folder directory)
  case error r  => rfl
  case ok place =>
    have hf : d.follow place [name] = d'.follow place [name] := by
      rw [follow_name hn, follow_name hn, h.node place hp]
    rw [Except.bind, Except.bind, hf]

-- A path to a file in a folder leads there by way of the folder.
theorem folder_of_resolve {q : Place} (hn : Path.Proper name)
    (h : d.resolve (Path.folder directory ++ name) = .ok q) :
    ∃ place, d.folder (Path.folder directory) = .ok place ∧ q = place ++ [name] := by
  rw [resolve_folder d directory hn] at h
  split at h
  case isTrue => cases h
  case isFalse =>
    split at h
    case isTrue => cases h
    case isFalse =>
      cases hp : d.folder (Path.folder directory)
      case error r =>
        rw [hp] at h
        cases h
      case ok place =>
        rw [hp, Except.bind, follow_name hn] at h
        refine ⟨place, rfl, ?_⟩
        repeat' split at h
        all_goals cases h
        rfl

theorem write_folder (d : Disk) (directory : Bytes) (hn : Path.Proper name) (data : Bytes) :
    d.write (Path.folder directory ++ name) data
      = match d.resolve (Path.folder directory ++ name) with
        | .error r => .error (.file (ascii "open") (Path.folder directory ++ name) r)
        | .ok place =>
          if d.at? place = some .directory then
            .error (.file (ascii "open") (Path.folder directory ++ name) .isDirectory)
          else .ok (d.put place (.file data)) := by
  have he : ¬ (Path.folder directory ++ name = [] ∧ Path.folder directory ++ name ≠ []) :=
    fun h => h.right h.left
  unfold write
  simp only [hn.trimEnd, if_neg he, ne_eq, not_true_eq_false, ↓reduceIte]
  cases d.resolve (Path.folder directory ++ name)
  case error r  => rfl
  case ok place =>
    dsimp only
    cases hp : d.at? place
    case none => rfl
    case some node => cases node <;> rfl

-- Whether a file can be written to a folder is decided by the directories.
theorem SameFolder.write (h : SameFolder (Path.folder directory) d d') (hn : Path.Proper name)
    (data data' : Bytes) :
    (∃ e, d.write (Path.folder directory ++ name) data = .error e ∧
      d'.write (Path.folder directory ++ name) data' = .error e) ∨
    ∃ place, d.folder (Path.folder directory) = .ok place ∧
      d.resolve (Path.folder directory ++ name) = .ok (place ++ [name]) ∧
      d.at? (place ++ [name]) ≠ some .directory ∧
      d.write (Path.folder directory ++ name) data = .ok (d.put (place ++ [name]) (.file data)) ∧
      d'.write (Path.folder directory ++ name) data'
        = .ok (d'.put (place ++ [name]) (.file data')) := by
  rw [write_folder d directory hn, write_folder d' directory hn, ← h.resolve hn]
  cases hq : d.resolve (Path.folder directory ++ name)
  case error r => exact .inl ⟨_, rfl, rfl⟩
  case ok q =>
    have ⟨place, hp, he⟩ := folder_of_resolve hn hq
    subst he
    have hi := h.names place name hp
    by_cases hr : d.at? (place ++ [name]) = some .directory
    case pos => exact .inl ⟨_, if_pos hr, if_pos (hi.mp hr)⟩
    case neg => exact .inr ⟨place, hp, rfl, hr, if_neg hr, if_neg (hi.not.mp hr)⟩

end Disk

namespace Report

theorem proper_fileName (p : Int) : Path.Proper (fileName p) := by
  have hl : 2 < (fileName p).length := by
    have hn : (ascii "numo_output_").length = 12 := rfl
    simp only [fileName, List.length_append, hn]
    omega
  have hb : ∀ b ∈ fileName p, b ≠ Path.slash ∧ b ≠ 0 := by
    have hn : ∀ b ∈ ascii "numo_output_", b ≠ Path.slash ∧ b ≠ 0 := by simp [ascii, Path.slash]
    have ht : ∀ b ∈ ascii ".txt", b ≠ Path.slash ∧ b ≠ 0 := by simp [ascii, Path.slash]
    intro b hb
    rw [fileName, List.mem_append, List.mem_append] at hb
    rcases hb with (hb | hb) | hb
    · exact hn b hb
    · rcases Decimal.mem_integer hb with rfl | hd
      · decide
      · constructor <;> rintro rfl <;> cases hd
    · exact ht b hb
  refine { ne_nil := ?_, ne_dot := ?_, ne_dots := ?_, no_slash := ?_, no_zero := ?_ }
  · intro h
    simp [h] at hl
  · intro h
    simp [h, Path.dot, ascii] at hl
  · intro h
    simp [h, Path.dots, ascii] at hl
  · exact fun h => (hb _ h).left rfl
  · exact fun h => (hb _ h).right rfl

theorem fileName_injective {p p' : Int} (h : fileName p = fileName p') : p = p' :=
  Decimal.integer_injective (List.append_cancel_left (List.append_cancel_right h))

namespace Destination

variable (d : Destination) {archive archive' : Archive}

-- Where the report of a position goes.
def path (p : Int) : Bytes :=
  Path.join d.directory (fileName p)

theorem path_eq (p : Int) : d.path p = Path.folder d.directory ++ fileName p :=
  (proper_fileName p).join_eq d.directory

theorem reporter_of_render {s : Snapshot} {data : Bytes} (h : render d.format s = .ok data)
    (archive : Archive) :
    d.reporter s archive
      = match archive.disk.write (d.path s.position) data with
        | .error e => (archive, .error e)
        | .ok disk => ({ archive with disk := disk }, .ok (d.path s.position)) := by
  rw [reporter, h]
  rfl

-- A report leaves the folder as it was, but for the file.
theorem sameFolder_reporter (s : Snapshot) (archive : Archive) :
    Disk.SameFolder (Path.folder d.directory) archive.disk (d.reporter s archive).1.disk := by
  have hr := Disk.SameFolder.refl (Path.folder d.directory) archive.disk
  cases hd : render d.format s
  case error e =>
    rw [reporter, hd]
    exact hr
  case ok data =>
    rw [d.reporter_of_render hd, d.path_eq]
    rcases hr.write (proper_fileName s.position) data data with
      ⟨e, hw, _⟩ | ⟨place, hp, _, hq, hw, _⟩
    · rw [hw]
      exact hr
    · rw [hw]
      exact .put hp (proper_fileName s.position) hq data

theorem sameFolder_deliver (ss : List Snapshot) (archive : Archive) :
    Disk.SameFolder (Path.folder d.directory) archive.disk
      (Reporter.deliver d.reporter archive ss).disk := by
  induction ss generalizing archive
  case nil          => exact .refl _ _
  case cons s ss hi => exact (d.sameFolder_reporter s archive).trans (hi _)

theorem answer_of_sameFolder (s : Snapshot)
    (h : Disk.SameFolder (Path.folder d.directory) archive.disk archive'.disk) :
    (d.reporter s archive).2 = (d.reporter s archive').2 := by
  cases hd : render d.format s
  case error e => rw [reporter, reporter, hd]
  case ok data =>
    rw [d.reporter_of_render hd, d.reporter_of_render hd, d.path_eq]
    rcases h.write (proper_fileName s.position) data data with
      ⟨e, hw, hw'⟩ | ⟨place, _, _, _, hw, hw'⟩
    · rw [hw, hw']
    · rw [hw, hw']

end Destination
end Report
end Denary
