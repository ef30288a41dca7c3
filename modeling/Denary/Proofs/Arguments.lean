import Denary.Proofs.CommandLine

-- Flags may stand anywhere among the files. Each pass over the arguments begins behind the file where
-- the last one ended, and keeps what the flags before it have set. So it does not matter how flags and
-- files are mixed, as long as they can be told apart.

namespace Denary.Cli

namespace Flag

def names : Flag → List Bytes
  | help            => [ascii "h", ascii "help"]
  | debug           => [ascii "d", ascii "debug"]
  | extended        => [ascii "extended"]
  | reportDirectory => [ascii "report-dir"]
  | reportFormat    => [ascii "report-format"]
  | trace           => [ascii "trace"]
  | seed            => [ascii "seed"]

theorem ofName?_eq_some_iff {name : Bytes} {f : Flag} : ofName? name = some f ↔ name ∈ f.names := by
  constructor
  case mp =>
    intro h
    unfold ofName? at h
    repeat' split at h
    all_goals cases h
    all_goals simp_all [names]
  case mpr =>
    intro h
    cases f
    all_goals
      simp only [names, List.mem_cons, List.not_mem_nil, or_false] at h
      rcases h with rfl | rfl
    all_goals decide

-- A name does not look like the start of a flag, nor like the end of one.
theorem form_of_mem_names {f : Flag} {name : Bytes} (h : name ∈ f.names) :
    ∃ b rest, name = b :: rest ∧ b ≠ hyphen ∧ b ≠ equals ∧ equals ∉ rest := by
  cases f
  all_goals
    simp only [names, List.mem_cons, List.not_mem_nil, or_false] at h
    rcases h with rfl | rfl
  all_goals exact ⟨_, _, rfl, by decide, by decide, by decide⟩

-- The values that a flag can be set to.
def accepts : Flag → Bytes → Bool
  | help, v            => (bool? v).isSome
  | debug, v           => (bool? v).isSome
  | extended, v        => (bool? v).isSome
  | reportDirectory, _ => true
  | reportFormat, _    => true
  | trace, _           => true
  | seed, v            => (Decimal.literal v).toOption.isSome

theorem set_of_accepts {f : Flag} {v : Bytes} (h : f.accepts v = true) (name : Bytes) (o : Options) :
    f.set name v o = .ok (o.follow (.flag f v)) := by
  suffices hs : ∃ o', f.set name v o = .ok o' by
    obtain ⟨o', hs⟩ := hs
    rw [hs, Options.follow_of_set hs]
  cases f
  case seed =>
    cases hn : Decimal.literal v
    case ok    => exact ⟨_, by rw [set, hn]⟩
    case error => simp [accepts, hn, Except.toOption] at h
  case reportDirectory => exact ⟨_, rfl⟩
  case reportFormat    => exact ⟨_, rfl⟩
  case trace           => exact ⟨_, rfl⟩
  all_goals
    obtain ⟨b, hb⟩ := Option.isSome_iff_exists.mp h
    exact ⟨_, by rw [set, switch, hb]; rfl⟩

end Flag

namespace Argument

-- How a value is joined to the name of its flag.
def joined : Option Bytes → Bytes
  | none   => []
  | some v => equals :: v

-- The first equals sign ends the name, and the value may hold more of them.
theorem ofBody_joined {b : UInt8} {rest : Bytes} (hb : b ≠ hyphen) (hq : b ≠ equals)
    (he : equals ∉ rest) (value : Option Bytes) :
    ofBody (b :: (rest ++ joined value)) = .flag (b :: rest) value := by
  have hr : ∀ c ∈ rest, decide (c ≠ equals) = true :=
    fun _ hc => decide_eq_true fun h => he (h ▸ hc)
  unfold ofBody
  dsimp only
  rw [if_neg (not_or.mpr ⟨hb, hq⟩), List.takeWhile_append_of_pos hr, List.dropWhile_append_of_pos hr]
  cases value <;> simp [joined]

-- Arguments that can only be files.
def IsFile (t : Bytes) : Prop :=
  t.length < 2 ∨ t.head? ≠ some hyphen

theorem ofBytes_of_isFile {t : Bytes} (h : IsFile t) : ofBytes t = .file t := by
  unfold ofBytes
  split
  case h_4 => rfl
  all_goals
    simp only [IsFile, hyphen, List.length_cons, List.head?_cons, ne_eq, not_true, or_false] at h
    omega

end Argument

-- A name of a flag, behind one hyphen or two.
structure Spelling (f : Flag) where
  doubled : Bool
  name    : Bytes
  named   : name ∈ f.names

namespace Spelling

variable {f : Flag}

def argument (s : Spelling f) (value : Option Bytes) : Bytes :=
  let word := hyphen :: (s.name ++ Argument.joined value)
  if s.doubled then hyphen :: word else word

theorem ofBytes_argument (s : Spelling f) (value : Option Bytes) :
    Argument.ofBytes (s.argument value) = .flag s.name value := by
  obtain ⟨doubled, name, hn⟩ := s
  obtain ⟨b, rest, rfl, hb, hq, he⟩ := Flag.form_of_mem_names hn
  rw [← Argument.ofBody_joined hb hq he value]
  cases doubled
  case true  => rfl
  case false =>
    change Argument.ofBytes (0x2D :: b :: (rest ++ Argument.joined value)) = _
    unfold Argument.ofBytes
    split <;> simp_all [hyphen]

end Spelling

-- A flag that is complete. Switches stand alone or take a value behind an equals sign, and the other
-- flags take it from there or from the next argument, whatever that looks like.
inductive Group where
  | alone {f : Flag} (s : Spelling f) (switch : f.isSwitch = true)
  | joined {f : Flag} (s : Spelling f) (value : Bytes) (accepted : f.accepts value = true)
  | spaced {f : Flag} (s : Spelling f) (value : Bytes) (switch : f.isSwitch = false)
      (accepted : f.accepts value = true)

namespace Group

def arguments : Group → List Bytes
  | alone s _          => [s.argument none]
  | joined s value _   => [s.argument (some value)]
  | spaced s value _ _ => [s.argument none, value]

def flag : Group → Flag
  | @alone f _ _      => f
  | @joined f _ _ _   => f
  | @spaced f _ _ _ _ => f

def value : Group → Bytes
  | alone _ _          => ascii "true"
  | joined _ value _   => value
  | spaced _ value _ _ => value

theorem accepts_value (g : Group) : g.flag.accepts g.value = true := by
  cases g
  case joined ha   => exact ha
  case spaced ha   => exact ha
  case alone f _ h => cases f <;> first | rfl | cases h

-- A pass goes on behind a group, with its flag set.
theorem pass_arguments (g : Group) (o : Options) (rest : List Bytes) :
    o.pass (g.arguments ++ rest) = (o.follow (.flag g.flag g.value)).pass rest := by
  have ha := g.accepts_value
  cases g
  case alone f s hw =>
    have hs : f.set s.name (ascii "true") o = .ok _ := Flag.set_of_accepts ha s.name o
    change o.pass (s.argument none :: rest) = _
    rw [Options.pass, s.ofBytes_argument]
    simp only [Flag.ofName?_eq_some_iff.mpr s.named, hw, ↓reduceIte, hs]
  case joined f s v _ =>
    have hs : f.set s.name v o = .ok _ := Flag.set_of_accepts ha s.name o
    change o.pass (s.argument (some v) :: rest) = _
    rw [Options.pass, s.ofBytes_argument]
    simp only [Flag.ofName?_eq_some_iff.mpr s.named, hs]
  case spaced f s v hw _ =>
    have hs : f.set s.name v o = .ok _ := Flag.set_of_accepts ha s.name o
    change o.pass (s.argument none :: v :: rest) = _
    rw [Options.pass, s.ofBytes_argument]
    simp only [Flag.ofName?_eq_some_iff.mpr s.named, hw, Bool.false_eq_true, ↓reduceIte, hs]

-- What the last group for a flag sets it to.
def value? (f : Flag) (gs : List Group) : Option Bytes :=
  ((gs.filter (·.flag = f)).getLast?).map value

def switch? (f : Flag) (gs : List Group) : Option Bool :=
  (value? f gs).bind Flag.bool?

def number? (f : Flag) (gs : List Group) : Option Int64 :=
  (value? f gs).bind fun v => (Decimal.literal v).toOption

theorem value?_cons (f : Flag) (g : Group) (gs : List Group) :
    value? f (g :: gs) = (value? f gs).or (if g.flag = f then some g.value else none) := by
  unfold value?
  by_cases hg : g.flag = f
  case neg => simp [hg]
  case pos =>
    cases hl : (gs.filter (·.flag = f)).getLast? <;> simp [hg, hl, List.getLast?_cons]

theorem accepts_of_value? {f : Flag} {gs : List Group} {v : Bytes} (h : value? f gs = some v) :
    f.accepts v = true := by
  obtain ⟨g, hg, rfl⟩ := Option.map_eq_some_iff.mp h
  obtain ⟨_, hf⟩ := List.mem_filter.mp (List.mem_of_getLast? hg)
  rw [← of_decide_eq_true hf]
  exact g.accepts_value

-- A group decides on what is read from the groups, unless one behind it does.
theorem getD_bind_value?_cons {α : Type} {f : Flag} {read : Bytes → Option α}
    (hr : ∀ v, f.accepts v = true → (read v).isSome = true) (g : Group) (gs : List Group) (x : α) :
    ((value? f (g :: gs)).bind read).getD x
      = ((value? f gs).bind read).getD (if g.flag = f then (read g.value).getD x else x) := by
  rw [value?_cons]
  cases hv : value? f gs
  case none   => split <;> rfl
  case some v =>
    obtain ⟨y, hy⟩ := Option.isSome_iff_exists.mp (hr v (accepts_of_value? hv))
    simp only [Option.some_or, Option.bind_some, hy, Option.getD_some]

variable (g : Group) (gs : List Group)

theorem getD_value?_cons (f : Flag) (x : Bytes) :
    (value? f (g :: gs)).getD x = (value? f gs).getD (if g.flag = f then g.value else x) := by
  have hr : ∀ v, f.accepts v = true → (some v).isSome = true := fun _ _ => rfl
  simpa using getD_bind_value?_cons hr g gs x

theorem getD_switch?_cons {f : Flag} (hf : f.isSwitch = true) (x : Bool) :
    (switch? f (g :: gs)).getD x
      = (switch? f gs).getD (if g.flag = f then (Flag.bool? g.value).getD x else x) := by
  have hr : ∀ v, f.accepts v = true → (Flag.bool? v).isSome = true := by
    cases f
    case help     => exact fun _ h => h
    case debug    => exact fun _ h => h
    case extended => exact fun _ h => h
    all_goals cases hf
  exact getD_bind_value?_cons hr g gs x

theorem getD_number?_cons (x : Int64) :
    (number? .seed (g :: gs)).getD x = (number? .seed gs).getD
      (if g.flag = .seed then ((Decimal.literal g.value).toOption).getD x else x) := by
  have hr : ∀ v, Flag.seed.accepts v = true → ((Decimal.literal v).toOption).isSome = true :=
    fun _ h => h
  exact getD_bind_value?_cons hr g gs x

end Group

-- Groups and files that are mixed in any way, each in their own order.
inductive Interleaves : List Group → List Bytes → List Bytes → Prop
  | nil : Interleaves [] [] []
  | group {gs : List Group} {fs arguments : List Bytes} (g : Group)
      (rest : Interleaves gs fs arguments) : Interleaves (g :: gs) fs (g.arguments ++ arguments)
  | file {gs : List Group} {fs arguments : List Bytes} {name : Bytes}
      (isFile : Argument.IsFile name)
      (rest   : Interleaves gs fs arguments) : Interleaves gs (name :: fs) (name :: arguments)

namespace Options

-- What becomes of options when the flags are set by groups, and files are added.
def settled (o : Options) (gs : List Group) (fs : List Bytes) : Options where
  help            := (Group.switch? .help gs).getD o.help
  debug           := (Group.switch? .debug gs).getD o.debug
  extended        := (Group.switch? .extended gs).getD o.extended
  reportDirectory := (Group.value? .reportDirectory gs).getD o.reportDirectory
  reportFormat    := (Group.value? .reportFormat gs).getD o.reportFormat
  trace           := (Group.value? .trace gs).getD o.trace
  seed            := (Group.number? .seed gs).getD o.seed
  files           := o.files ++ fs

theorem settled_nil (o : Options) : o.settled [] [] = o := by
  simp [settled, Group.switch?, Group.number?, Group.value?]

theorem settled_file (o : Options) (gs : List Group) (name : Bytes) (fs : List Bytes) :
    (o.addFile name).settled gs fs = o.settled gs (name :: fs) := by
  simp [settled, addFile]

theorem settled_group (o : Options) (g : Group) (gs : List Group) (fs : List Bytes) :
    (o.follow (.flag g.flag g.value)).settled gs fs = o.settled (g :: gs) fs := by
  have hh : Flag.help.isSwitch = true     := rfl
  have hd : Flag.debug.isSwitch = true    := rfl
  have he : Flag.extended.isSwitch = true := rfl
  unfold settled
  simp only [g.getD_switch?_cons gs hh, g.getD_switch?_cons gs hd, g.getD_switch?_cons gs he,
    g.getD_value?_cons gs, g.getD_number?_cons gs]
  cases g.flag <;> rfl

variable {o o' : Options} {arguments arguments' : List Bytes}

-- Where a pass comes to the same end, so do all that follow it.
theorem take_congr (h : o.pass arguments = o'.pass arguments') :
    o.take arguments = o'.take arguments' := by
  cases hp : o'.pass arguments'
  case error e => rw [take_of_error hp, take_of_error (h.trans hp)]
  case ok r =>
    obtain ⟨_, rest⟩ := r
    cases rest
    case nil  => rw [take_of_nil hp, take_of_nil (h.trans hp)]
    case cons => rw [take_of_cons hp, take_of_cons (h.trans hp)]

theorem take_group (o : Options) (g : Group) (rest : List Bytes) :
    o.take (g.arguments ++ rest) = (o.follow (.flag g.flag g.value)).take rest :=
  take_congr (g.pass_arguments o rest)

theorem take_file {name : Bytes} (h : Argument.IsFile name) (o : Options) (rest : List Bytes) :
    o.take (name :: rest) = (o.addFile name).take rest := by
  have hp : o.pass (name :: rest) = .ok (o, name :: rest) := by
    rw [pass, Argument.ofBytes_of_isFile h]
  exact take_of_cons hp

theorem take_of_interleaves {gs : List Group} {fs : List Bytes} (h : Interleaves gs fs arguments)
    (o : Options) : o.take arguments = .ok (o.settled gs fs) := by
  -- The options are generalized: each pass begins with those that the last one left.
  induction h generalizing o
  case nil          => rw [settled_nil, take_of_nil rfl]
  case group g _ hi => rw [take_group, hi, settled_group]
  case file hf _ hi => rw [take_file hf, hi, settled_file]

-- The passes that are made over arguments, with their number and what they come to.
inductive Passes : Options → List Bytes → Nat → Except ArgumentError Options → Prop
  | failed {o : Options} {arguments : List Bytes} {e : ArgumentError}
      (last : o.pass arguments = .error e) : Passes o arguments 1 (.error e)
  | ended {o o' : Options} {arguments : List Bytes}
      (last : o.pass arguments = .ok (o', [])) : Passes o arguments 1 (.ok o')
  | again {o o' : Options} {arguments rest : List Bytes} {name : Bytes} {n : Nat}
      {result : Except ArgumentError Options}
      (first : o.pass arguments = .ok (o', name :: rest))
      (next  : Passes (o'.addFile name) rest n result) : Passes o arguments (n + 1) result

-- Each pass but the last one ends at a file, so there is at most one more of them than arguments.
theorem exists_passes (o : Options) (arguments : List Bytes) :
    ∃ n ≤ arguments.length + 1, Passes o arguments n (o.take arguments) := by
  fun_induction Options.take o arguments
  case case1 hp => exact ⟨1, Nat.le_add_left _ _, .failed hp⟩
  case case2 hp => exact ⟨1, Nat.le_add_left _ _, .ended hp⟩
  case case3 hp hl hi =>
    obtain ⟨n, hn, h⟩ := hi
    exact ⟨n + 1, Nat.succ_le_succ (Nat.le_trans hn hl), .again hp h⟩

-- Flags may stand anywhere. Wherever complete flags and files are mixed, the arguments are understood:
-- the files are listed in order, and each option is what the last flag for it says, or else what it is
-- by default. So it does not matter how they are mixed. And whatever the arguments are, there is an
-- end to the passes over them.
theorem flags_anywhere (p : Preferences) :
    (∀ gs fs arguments, Interleaves gs fs arguments → parse p arguments = .ok
      { help            := (Group.switch? .help gs).getD false
        debug           := (Group.switch? .debug gs).getD false
        extended        := (Group.switch? .extended gs).getD p.extended
        reportDirectory := (Group.value? .reportDirectory gs).getD p.reportDirectory
        reportFormat    := (Group.value? .reportFormat gs).getD p.reportFormat
        trace           := (Group.value? .trace gs).getD []
        seed            := (Group.number? .seed gs).getD 0
        files           := fs }) ∧
    (∀ gs fs arguments arguments', Interleaves gs fs arguments → Interleaves gs fs arguments' →
      parse p arguments = parse p arguments') ∧
    ∀ arguments, ∃ n ≤ arguments.length + 1, Passes (start p) arguments n (parse p arguments) := by
  refine ⟨?_, ?_, exists_passes (start p)⟩
  · intro gs fs arguments h
    exact take_of_interleaves h (start p)
  · intro gs fs arguments arguments' h h'
    exact (take_of_interleaves h (start p)).trans (take_of_interleaves h' (start p)).symm

-- The value of the format looks like two hyphens that end a pass, and the file that comes between the
-- flags is too short for a flag.
theorem flags_anywhere_between :
    let debug : Group  := .alone (f := .debug) ⟨false, ascii "d", by decide⟩ rfl
    let format : Group := .spaced (f := .reportFormat) ⟨true, ascii "report-format", by decide⟩
      (ascii "--") rfl rfl
    let seed : Group   := .joined (f := .seed) ⟨false, ascii "seed", by decide⟩ (ascii "9") (by decide)
    let arguments := [ascii "-d", ascii "-", ascii "--report-format", ascii "--", ascii "-seed=9"]
    Interleaves [debug, format, seed] [ascii "-"] arguments ∧
    parse {} arguments = .ok
      { debug := true, extended := false, reportDirectory := ascii ".", reportFormat := ascii "--",
        seed := 9, files := [ascii "-"] } := by
  intro debug format seed arguments
  have hf : Argument.IsFile (ascii "-") := .inl (by decide)
  have hi : Interleaves [debug, format, seed] [ascii "-"] arguments :=
    .group debug (.file hf (.group format (.group seed .nil)))
  obtain ⟨h, _, _⟩ := flags_anywhere {}
  exact ⟨hi, (h _ _ _ hi).trans rfl⟩

end Options
end Denary.Cli
