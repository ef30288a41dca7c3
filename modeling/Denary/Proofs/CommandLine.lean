import Denary.Cli.Run
import Denary.Proofs.Program
import Denary.Proofs.Session

-- The command line against the library. A run of the command line either stops before anything is
-- executed, or it executes one program in the same way as an interpreter with the same settings does,
-- and frames what that program prints.

namespace Denary

namespace Cli

-- What an argument says, once flags have found their values.
inductive Token where
  | file (name : Bytes)
  | flag (f : Flag) (value : Bytes)
  deriving DecidableEq, Repr

namespace Token

def value? (f : Flag) : Token → Option Bytes
  | file _   => none
  | flag g v => if g = f then some v else none

def switch? (f : Flag) (t : Token) : Option Bool :=
  (t.value? f).bind Flag.bool?

end Token

-- The tokens of the arguments, as far as they can be understood.
def tokens : List Bytes → List Token
  | [] => []
  | argument :: rest =>
    match Argument.ofBytes argument with
    | .file name => .file name :: tokens rest
    | .malformed => []
    | .separator =>
      match rest with
      | []           => []
      | name :: rest => .file name :: tokens rest
    | .flag name value =>
      match Flag.ofName? name with
      | none   => []
      | some f =>
        match value with
        | some v => .flag f v :: tokens rest
        | none   =>
          if f.isSwitch then .flag f (ascii "true") :: tokens rest
          else match rest with
            | []        => []
            | v :: rest => .flag f v :: tokens rest

namespace Options

def follow (o : Options) : Token → Options
  | .file name => o.addFile name
  | .flag f v  =>
    match f with
    | .help            => { o with help := (Flag.bool? v).getD o.help }
    | .debug           => { o with debug := (Flag.bool? v).getD o.debug }
    | .extended        => { o with extended := (Flag.bool? v).getD o.extended }
    | .reportDirectory => { o with reportDirectory := v }
    | .reportFormat    => { o with reportFormat := v }
    | .trace           => { o with trace := v }
    | .seed            => { o with seed := (Decimal.literal v).toOption.getD o.seed }

theorem follow_of_set {f : Flag} {name v : Bytes} {o o' : Options} (h : f.set name v o = .ok o') :
    o.follow (.flag f v) = o' := by
  unfold Flag.set Flag.switch at h
  cases f
  all_goals dsimp only at h
  case seed =>
    cases hn : Decimal.literal v <;> rw [hn] at h <;> cases h
    simp [follow, hn, Except.toOption]
  case reportDirectory => cases h; rfl
  case reportFormat    => cases h; rfl
  case trace           => cases h; rfl
  all_goals
    cases hb : Flag.bool? v <;> rw [hb] at h <;> cases h
    simp [follow, hb]

-- What a pass leaves begins with a file.
def left : List Bytes → List Token
  | []           => []
  | name :: rest => .file name :: tokens rest

theorem file_of_ofBytes {t name : Bytes} (h : Argument.ofBytes t = .file name) : name = t := by
  unfold Argument.ofBytes at h
  split at h
  case h_1 => cases h
  case h_4 => cases h; rfl
  all_goals
    unfold Argument.ofBody at h
    dsimp only at h
    repeat' split at h
    all_goals cases h

-- A pass follows the tokens up to a file.
theorem pass_eq_foldl {o o' : Options} {arguments rest : List Bytes}
    (h : o.pass arguments = .ok (o', rest)) :
    ∃ ts : List Token, tokens arguments = ts ++ left rest ∧ o' = ts.foldl follow o := by
  fun_induction Options.pass o arguments
  case case1 =>
    cases h
    exact ⟨[], rfl, rfl⟩
  case case2 ha =>
    cases h
    refine ⟨[], ?_, rfl⟩
    unfold tokens
    simp only [ha, file_of_ofBytes ha, List.nil_append, left]
  case case3 ha =>
    cases h
    refine ⟨[], ?_, rfl⟩
    unfold tokens
    simp only [ha, List.nil_append]
    cases rest <;> rfl
  case case7 hf _ _ hs ha hi =>
    obtain ⟨ts, ht, ho⟩ := hi h
    refine ⟨_ :: ts, ?_, (follow_of_set hs).symm ▸ ho⟩
    unfold tokens
    simp only [ha, hf, ht, List.cons_append]
  case case9 hf hw _ hs ha hi =>
    obtain ⟨ts, ht, ho⟩ := hi h
    refine ⟨_ :: ts, ?_, (follow_of_set hs).symm ▸ ho⟩
    unfold tokens
    simp only [ha, hf, hw, ↓reduceIte, ht, List.cons_append]
  case case12 hf hw _ _ _ hs ha hi =>
    obtain ⟨ts, ht, ho⟩ := hi h
    refine ⟨_ :: ts, ?_, (follow_of_set hs).symm ▸ ho⟩
    unfold tokens
    simp only [ha, hf, hw, Bool.false_eq_true, ↓reduceIte, ht, List.cons_append]
  -- The others stop at an argument that is not understood.
  all_goals cases h

-- Arguments that are understood are followed token by token.
theorem take_eq_foldl {o o' : Options} {arguments : List Bytes} (h : o.take arguments = .ok o') :
    o' = (tokens arguments).foldl follow o := by
  fun_induction Options.take o arguments
  case case1 => cases h
  case case2 hp =>
    cases h
    obtain ⟨ts, ht, ho⟩ := pass_eq_foldl hp
    rw [ht, ho]
    exact congrArg _ (List.append_nil ts).symm
  case case3 name rest hp _ hi =>
    obtain ⟨ts, ht, ho⟩ := pass_eq_foldl hp
    rw [hi h, ht, List.foldl_append, ← ho]
    rfl

-- An option that one kind of tokens sets is what the last of them says.
theorem foldl_follow_last {α : Type} {option : Options → α} {value? : Token → Option α}
    (h : ∀ o t, option (follow o t) = (value? t).getD (option o)) (ts : List Token) (o : Options) :
    option (ts.foldl follow o) = (ts.filterMap value?).getLast?.getD (option o) := by
  induction ts generalizing o
  case nil => rfl
  case cons t ts hi =>
    rw [List.foldl_cons, hi, h, List.filterMap_cons]
    cases value? t
    case none   => rfl
    case some v => cases hl : (ts.filterMap value?).getLast? <;> simp [List.getLast?_cons, hl]

end Options

-- What the arguments last say of a flag.
def switched? (f : Flag) (arguments : List Bytes) : Option Bool :=
  ((tokens arguments).filterMap (Token.switch? f)).getLast?

def named? (f : Flag) (arguments : List Bytes) : Option Bytes :=
  ((tokens arguments).filterMap (Token.value? f)).getLast?

-- Flags override preferences. Whether losses are warned of is said in the preferences alone.
theorem settings_of_parse {p : Preferences} {arguments : List Bytes} {o : Options}
    (h : Options.parse p arguments = .ok o) :
    settings p o =
      { debug           := (switched? .debug arguments).getD false
        extended        := (switched? .extended arguments).getD p.extended
        warnOnCapacity  := p.warnOnCapacity
        reportDirectory := (named? .reportDirectory arguments).getD p.reportDirectory
        reportFormat    := (named? .reportFormat arguments).getD p.reportFormat } := by
  have last {α : Type} {value? : Token → Option α} (option : Options → α)
      (hv : ∀ o t, option (Options.follow o t) = (value? t).getD (option o)) :
      option o = ((tokens arguments).filterMap value?).getLast?.getD (option (Options.start p)) := by
    rw [Options.take_eq_foldl h]
    exact Options.foldl_follow_last hv ..
  have ⟨hd, he, hr, hf⟩ : o.debug = (switched? .debug arguments).getD false ∧
      o.extended = (switched? .extended arguments).getD p.extended ∧
      o.reportDirectory = (named? .reportDirectory arguments).getD p.reportDirectory ∧
      o.reportFormat = (named? .reportFormat arguments).getD p.reportFormat := by
    refine ⟨last Options.debug ?_, last Options.extended ?_, last Options.reportDirectory ?_,
      last Options.reportFormat ?_⟩
    -- A token sets at most one option, and this only if it is for its flag.
    all_goals
      intro o t
      rcases t with name | ⟨_ | _ | _ | _ | _ | _ | _, v⟩ <;> rfl
  unfold settings
  rw [hd, he, hr, hf]

-- Nothing but what is printed gets to the output where no notes are taken.
theorem outputOf_eq_output {w : World} (h : w.notes = []) : outputOf w.events = w.output := by
  have hn (e) (he : e ∈ w.events) : e.console ++ e.normal = e.console := by
    have hq : e.note? = none := List.filterMap_eq_nil_iff.mp h e he
    cases e
    case printed t => exact List.append_nil _
    case logged e  =>
      cases hl : e.record.level.isLow <;> simp_all [Event.note?, Event.normal, Entry.normalLine]
  exact List.flatMap_congr hn

end Cli

namespace Interpreter

-- An interpreter that takes no notes has nothing to say of its bindings.
theorem registerLibrary_world {i : Interpreter} (hj : i.journal.enabled = false) (extended : Bool) :
    (i.registerLibrary extended).world = i.world := by
  unfold registerLibrary
  generalize Library.bindings extended = bs
  induction bs generalizing i
  case nil => rfl
  case cons b bs hi =>
    have hr : (i.register b.1 (some b.2)).1.world = i.world := by
      unfold register
      split
      case isTrue  => simp [log, World.log, Journal.written?, Journal.accepts, hj]
      case isFalse => rfl
    have hq : (i.register b.1 (some b.2)).1.journal.enabled = false := by
      rw [(i.rebinds_register b.1 (some b.2)).rest]
      exact hj
    exact (hi hq).trans hr

theorem registerLibrary_quiet {i : Interpreter} (hj : i.journal.enabled = false)
    (hi : i.table = Table.empty) (extended : Bool) :
    i.registerLibrary extended = { i with table := Library.table extended } := by
  have ht := i.registerLibrary_table extended
  have hw := registerLibrary_world hj extended
  rw [hi] at ht
  exact (i.rebinds_registerLibrary extended).rest.trans (by rw [ht, hw]; rfl)

theorem execute_notes {i : Interpreter} {extended : Bool} (hi : i.table = Library.table extended)
    (hj : i.journal.enabled = false) (code : Code) :
    (i.execute code).interpreter.world.notes = i.world.notes := by
  have ⟨_, hs⟩ := execute_said code hi
  exact hs.notes hj

-- What a program does is the same whatever the journal is told to write, and to whom.
theorem execute_journal {i : Interpreter} {extended : Bool} (hi : i.table = Library.table extended)
    (hr : ∀ reporter ∈ i.reporter, Reporter.Memoryless reporter i.world.archive) (j : Journal)
    (code : Code) :
    let e := ({ i with journal := j } : Interpreter).execute code
    let f := i.execute code
    e.state = f.state ∧ e.interpreter.world.output = f.interpreter.world.output := by
  intro e f
  let other : Interpreter := { i with journal := j }
  have he : (other.environment code).Parallel (i.environment code) := ⟨rfl, rfl, rfl, rfl⟩
  have ha : i.world.archive = (other.environment code).deliver i.world.archive [] :=
    (Environment.deliver_nil ..).symm
  have ⟨_, hp⟩ := execute_parallel he hi hi (Remarks.tolerates_eq he rfl)
    (Remarks.reports_eq he rfl hr ha ha) rfl rfl
  have ⟨a, _, rfl, hd, hd'⟩ := hp.said
  have ht : e.interpreter.world.printed = f.interpreter.world.printed :=
    hd.printed.trans hd'.printed.symm
  refine ⟨hp.state_eq rfl, ?_⟩
  rw [World.output_eq_flatten, World.output_eq_flatten, ht]

end Interpreter

namespace Cli

-- All that it takes to execute a program: a file, the trace if one is asked for, and what is in the
-- file by then.
structure Begins (o : Options) (disk disk' : Disk) (file data : Bytes) : Prop where
  listed : o.files.head? = some file
  traced : if o.trace = [] then disk' = disk else disk.write o.trace [] = .ok disk'
  read   : disk'.read file = .ok data

theorem openTrace_eq_ok_iff {o : Options} {disk disk' : Disk} :
    openTrace o disk = .ok disk'
      ↔ if o.trace = [] then disk' = disk else disk.write o.trace [] = .ok disk' := by
  unfold openTrace
  split
  case isTrue  => exact ⟨fun h => by cases h; rfl, fun h => by rw [h]⟩
  case isFalse =>
    cases disk.write o.trace []
    case ok d    => exact ⟨fun h => by cases h; rfl, fun h => by cases h; rfl⟩
    case error e => exact ⟨nofun, nofun⟩

-- The interpreter on which a program is executed.
def prepared (s : Surroundings) (p : Preferences) (o : Options) (disk disk' : Disk) : Interpreter :=
  let i := interpreter s p o disk
  ready { i with journal := i.journal.setColoured s.colouredErrors } o disk'

-- The ways in which a run of the command line ends.
inductive Ends (s : Surroundings) (p : Preferences) (arguments : List Bytes) (disk : Disk) :
    Outcome → Prop
  | refused {out : Outcome}
      (unfit     : ∀ o, Options.parse p arguments = .ok o →
        o.help = false ∧ ∀ disk' file data, ¬ Begins o disk disk' file data)
      (exitCode  : out.exitCode = 1)
      (execution : out.execution = none)
      (kept      : out.disk = disk ∨ ∃ o, Options.parse p arguments = .ok o ∧ o.trace ≠ [] ∧
        disk.write o.trace [] = .ok out.disk) : Ends s p arguments disk out
  | helped {o : Options}
      (parsed : Options.parse p arguments = .ok o)
      (help   : o.help = true) : Ends s p arguments disk ⟨0, usage, [], disk, none⟩
  | executed {o : Options} {disk' : Disk} {file data : Bytes} {out : Outcome}
      (parsed    : Options.parse p arguments = .ok o)
      (help      : o.help = false)
      (begins    : Begins o disk disk' file data)
      (exitCode  : out.exitCode = 0)
      (execution : out.execution
        = some ((prepared s p o disk disk').execute (Program.ofSource data)))
      (output    : out.output = outputOf (interpreter s p o disk).world.events
        ++ opening (inColour s.colouredOutput p.bannerColour) (Program.ofSource data)
        ++ outputOf ((prepared s p o disk disk').execute
            (Program.ofSource data)).interpreter.world.events
        ++ closing (inColour s.colouredOutput p.bannerColour)
            ((prepared s p o disk disk').execute (Program.ofSource data)).state) :
      Ends s p arguments disk out

theorem unfit_of {p : Preferences} {arguments : List Bytes} {disk : Disk} {o : Options}
    (hp : Options.parse p arguments = .ok o) (hh : o.help = false)
    (hn : ∀ disk' file data, ¬ Begins o disk disk' file data) :
    ∀ o', Options.parse p arguments = .ok o' →
      o'.help = false ∧ ∀ disk' file data, ¬ Begins o' disk disk' file data := by
  intro o' ho
  cases hp.symm.trans ho
  exact ⟨hh, hn⟩

theorem execute_ends {s : Surroundings} {p : Preferences} {arguments : List Bytes} {disk : Disk}
    {o : Options} {file : Bytes} {files : List Bytes} (hp : Options.parse p arguments = .ok o)
    (hh : o.help = false) (hf : o.files = file :: files) :
    Ends s p arguments disk (execute s p o file disk) := by
  have hn {disk' : Disk} {file' data : Bytes} (hb : Begins o disk disk' file' data) :
      file' = file ∧ openTrace o disk = .ok disk' := by
    have hl := hb.listed
    rw [hf] at hl
    cases hl
    exact ⟨rfl, openTrace_eq_ok_iff.mpr hb.traced⟩
  unfold execute
  dsimp only
  cases ht : openTrace o disk
  case error text =>
    refine .refused (unfit_of hp hh fun _ _ _ hb => ?_) rfl rfl (.inl rfl)
    cases ht.symm.trans (hn hb).right
  case ok disk' =>
    have htr := openTrace_eq_ok_iff.mp ht
    dsimp only
    unfold Program.loadFile
    cases hr : disk'.read file
    case error e =>
      refine .refused (unfit_of hp hh fun _ _ _ hb => ?_) rfl rfl ?_
      · obtain ⟨rfl, ht'⟩ := hn hb
        cases ht.symm.trans ht'
        cases hr.symm.trans hb.read
      · split at htr
        case isTrue     => exact .inl htr
        case isFalse hq => exact .inr ⟨o, hp, hq, htr⟩
    case ok data => exact .executed hp hh ⟨by rw [hf]; rfl, htr, hr⟩ rfl rfl rfl

theorem obey_ends (s : Surroundings) (p : Preferences) (arguments : List Bytes) (disk : Disk) :
    Ends s p arguments disk (obey s p arguments disk) := by
  unfold obey
  cases hp : Options.parse p arguments
  case error e =>
    exact .refused (fun o ho => by rw [hp] at ho; cases ho) rfl rfl (.inl rfl)
  case ok o =>
    dsimp only
    cases hh : o.help
    case true  => exact .helped hp hh
    case false =>
      simp only [Bool.false_eq_true, ↓reduceIte]
      cases hf : o.files
      case cons file files => exact execute_ends hp hh hf
      case nil =>
        refine .refused (unfit_of hp hh fun _ _ _ hb => ?_) rfl rfl (.inl rfl)
        have hl := hb.listed
        rw [hf] at hl
        cases hl

-- There is one program to execute at most.
theorem Begins.unique {o : Options} {disk disk₁ disk₂ : Disk} {file₁ file₂ data₁ data₂ : Bytes}
    (h₁ : Begins o disk disk₁ file₁ data₁) (h₂ : Begins o disk disk₂ file₂ data₂) :
    disk₁ = disk₂ ∧ data₁ = data₂ := by
  have ht₁ := openTrace_eq_ok_iff.mpr h₁.traced
  have ht₂ := openTrace_eq_ok_iff.mpr h₂.traced
  cases ht₁.symm.trans ht₂
  cases h₁.listed.symm.trans h₂.listed
  cases h₁.read.symm.trans h₂.read
  exact ⟨rfl, rfl⟩

namespace Ends

variable {s : Surroundings} {p : Preferences} {arguments : List Bytes} {disk : Disk} {out : Outcome}

theorem exitCode (h : Ends s p arguments disk out) : out.exitCode = 0 ∨ out.exitCode = 1 := by
  cases h
  case refused hx _ _        => exact .inr hx
  case helped                => exact .inl rfl
  case executed _ _ _ hx _ _ => exact .inl hx

theorem exitCode_eq_zero_iff (h : Ends s p arguments disk out) :
    out.exitCode = 0 ↔ ∃ o, Options.parse p arguments = .ok o ∧
      (o.help = true ∨ ∃ disk' file data, Begins o disk disk' file data) := by
  cases h
  case refused hu hx _ _ =>
    refine iff_of_false (by rw [hx]; decide) ?_
    rintro ⟨o, hp, hh | ⟨disk', file, data, hb⟩⟩
    · cases hh.symm.trans (hu o hp).left
    · exact (hu o hp).right disk' file data hb
  case helped o hp hh => exact iff_of_true rfl ⟨o, hp, .inl hh⟩
  case executed o disk' file data hp _ hb hx _ _ =>
    exact iff_of_true hx ⟨o, hp, .inr ⟨disk', file, data, hb⟩⟩

-- Where nothing is executed, nothing is written but the trace.
theorem idle (h : Ends s p arguments disk out)
    (hx : out.exitCode = 1 ∨ ∃ o, Options.parse p arguments = .ok o ∧ o.help = true) :
    out.execution = none ∧ (out.disk = disk ∨ ∃ o, Options.parse p arguments = .ok o ∧
      o.trace ≠ [] ∧ disk.write o.trace [] = .ok out.disk) := by
  cases h
  case refused he hk => exact ⟨he, hk⟩
  case helped        => exact ⟨rfl, .inl rfl⟩
  case executed o _ _ _ hp hh _ h₀ _ _ =>
    rcases hx with h₁ | ⟨o', hp', hh'⟩
    · rw [h₀] at h₁
      cases h₁
    · cases hp.symm.trans hp'
      cases hh.symm.trans hh'

theorem executes (h : Ends s p arguments disk out) {o : Options} {disk' : Disk} {file data : Bytes}
    (hp : Options.parse p arguments = .ok o) (hb : Begins o disk disk' file data)
    (hh : o.help = false) :
    let e := (prepared s p o disk disk').execute (Program.ofSource data)
    out.execution = some e ∧
      out.output = outputOf (interpreter s p o disk).world.events
        ++ opening (inColour s.colouredOutput p.bannerColour) (Program.ofSource data)
        ++ outputOf e.interpreter.world.events
        ++ closing (inColour s.colouredOutput p.bannerColour) e.state := by
  cases h
  case refused hu _ _ _ => exact absurd hb ((hu o hp).right disk' file data)
  case helped hp' hh' =>
    cases hp.symm.trans hp'
    cases hh.symm.trans hh'
  case executed hp' _ hb' _ he ho =>
    cases hp.symm.trans hp'
    have ⟨hd, hc⟩ := hb'.unique hb
    subst hd hc
    exact ⟨he, ho⟩

end Ends

section

variable {o : Options} (hd : o.debug = false) (s : Surroundings) (p : Preferences) (disk disk' : Disk)
include hd

-- An interpreter that is not told to debug comes without notes on its bindings.
theorem interpreter_quiet :
    interpreter s p o disk
      = { settings := settings p o
          journal  := Journal.start o.debug
          reporter := some (Report.Destination.ofNames o.reportDirectory o.reportFormat).reporter
          terminal := s.terminal
          clock    := s.clock
          table    := Library.table o.extended
          world    := ⟨⟨s.input, none, s.draws o.seed, Colour.plain⟩, ⟨disk, []⟩, []⟩ } :=
  Interpreter.registerLibrary_quiet hd rfl o.extended

theorem prepared_quiet :
    prepared s p o disk disk'
      = { interpreter s p o disk' with
          journal := (prepared s p o disk disk').journal } := by
  unfold prepared
  rw [interpreter_quiet hd, interpreter_quiet hd]
  rfl

theorem prepared_journal : (prepared s p o disk disk').journal.enabled = false := by
  unfold prepared
  rw [interpreter_quiet hd]
  unfold ready
  dsimp only
  split <;> exact hd

-- A trace does not change what a program does.
theorem prepared_agrees (code : Code) :
    let e := (prepared s p o disk disk').execute code
    let f := (interpreter s p o disk').execute code
    e.state = f.state ∧ outputOf e.interpreter.world.events = f.interpreter.world.output := by
  intro e f
  let i := interpreter s p o disk'
  have hi : i = _ := interpreter_quiet hd s p disk'
  have ht : i.table = Library.table o.extended := by rw [hi]
  have hr : ∀ reporter ∈ i.reporter, Reporter.Memoryless reporter i.world.archive := by
    rw [hi]
    rintro _ ⟨rfl⟩
    exact Report.Destination.memoryless _ _
  have hq : prepared s p o disk disk' = { i with journal := _ } := prepared_quiet hd s p disk disk'
  have hj := prepared_journal hd s p disk disk'
  have hn : e.interpreter.world.notes = [] := by
    refine (Interpreter.execute_notes (by rw [hq]; exact ht) hj code).trans ?_
    rw [hq, hi]
    rfl
  have ⟨hs, ho⟩ := Interpreter.execute_journal ht hr (prepared s p o disk disk').journal code
  rw [← hq] at hs ho
  exact ⟨hs, (outputOf_eq_output hn).trans ho⟩

end

theorem opening_plain (p : Preferences) (code : Code) :
    opening (inColour false p.bannerColour) code
      = Text.line (ascii "Loaded Numo 0-9 program: " ++ Decimal.natural code.size ++ ascii " digits")
        ++ Text.line (ascii "Starting Numo 0-9 interpretation...")
        ++ Text.line (ascii "Code: " ++ code.toList) ++ Text.line (List.replicate 50 0x3D) := by
  have hd : ascii " digits\n" = ascii " digits" ++ [Text.newline] := by decide
  have hs : ascii "Starting Numo 0-9 interpretation...\n"
      = Text.line (ascii "Starting Numo 0-9 interpretation...") := by decide
  simp only [opening, inColour, Bool.false_eq_true, ↓reduceIte, hd, hs, Text.line, Text.ruler,
    List.append_assoc]

theorem closing_plain (p : Preferences) (state : State) :
    closing (inColour false p.bannerColour) state
      = [Text.newline] ++ Text.line (ascii "Program execution completed.")
        ++ Text.line (ascii "Variables created: " ++ Decimal.natural state.store.size)
        ++ if 0 < state.warnings then
            Text.line (ascii "Warnings: " ++ Decimal.natural state.warnings)
          else [] := by
  have hc : ascii "Program execution completed.\n"
      = Text.line (ascii "Program execution completed.") := by decide
  simp only [closing, inColour, Bool.false_eq_true, ↓reduceIte, hc]

-- The command line agrees with the library. It succeeds exactly if the arguments are understood and
-- either ask for help or name a program that can be read, where a trace that is asked for is created
-- before. Otherwise, and for help, nothing is executed, and the trace is all that is written. The
-- settings are those of the preferences, except for what flags say. A program that is not debugged
-- prints what it prints on an interpreter with these settings, between four lines in front of it and
-- an empty line, the completion and the numbers of variables and of warnings behind it.
theorem command_line_agrees (s : Surroundings) (arguments : List Bytes)
    (loaded : Preferences.Loaded) (hc : s.colouredOutput = false) (hw : 0 ≤ s.terminal.width) :
    let p   := loaded.preferences
    let out := runWith s arguments loaded
    (Preferences.load s.disk s.home = some loaded → run s arguments = some out) ∧
    (out.exitCode = 0 ∨ out.exitCode = 1) ∧
    (out.exitCode = 0 ↔ ∃ o, Options.parse p arguments = .ok o ∧
      (o.help = true ∨ ∃ disk file data, Begins o loaded.disk disk file data)) ∧
    (out.exitCode = 1 ∨ (∃ o, Options.parse p arguments = .ok o ∧ o.help = true) →
      out.execution = none ∧ (out.disk = loaded.disk ∨ ∃ o, Options.parse p arguments = .ok o ∧
        o.trace ≠ [] ∧ loaded.disk.write o.trace [] = .ok out.disk)) ∧
    ∀ o, Options.parse p arguments = .ok o →
      settings p o =
        { debug           := (switched? .debug arguments).getD false
          extended        := (switched? .extended arguments).getD p.extended
          warnOnCapacity  := p.warnOnCapacity
          reportDirectory := (named? .reportDirectory arguments).getD p.reportDirectory
          reportFormat    := (named? .reportFormat arguments).getD p.reportFormat } ∧
      ∀ disk file data, Begins o loaded.disk disk file data → o.help = false → o.debug = false →
        ∃ code, Program.load data none = .ok code ∧
          let e := (Interpreter.start (settings p o) s.terminal s.clock
            ⟨⟨s.input, none, s.draws o.seed, Colour.plain⟩, ⟨disk, []⟩, []⟩).execute code
          e.run.ending = .finished ∧ out.execution.map (·.state) = some e.state ∧
          out.output
            = Text.line (ascii "Loaded Numo 0-9 program: " ++ Decimal.natural code.size
                ++ ascii " digits")
              ++ Text.line (ascii "Starting Numo 0-9 interpretation...")
              ++ Text.line (ascii "Code: " ++ code.toList) ++ Text.line (List.replicate 50 0x3D)
              ++ e.interpreter.world.output
              ++ [Text.newline] ++ Text.line (ascii "Program execution completed.")
              ++ Text.line (ascii "Variables created: " ++ Decimal.natural e.state.store.size)
              ++ if 0 < e.state.warnings then
                  Text.line (ascii "Warnings: " ++ Decimal.natural e.state.warnings)
                else [] := by
  intro p out
  have hrun (h : Preferences.load s.disk s.home = some loaded) : run s arguments = some out := by
    rw [run, h]
    rfl
  have he := obey_ends s p arguments loaded.disk
  refine ⟨hrun, he.exitCode, he.exitCode_eq_zero_iff, he.idle, fun o hp => ⟨settings_of_parse hp, ?_⟩⟩
  intro disk file data hb hh hd
  refine ⟨Program.ofSource data, Program.load_eq_ofSource data, ?_⟩
  have ⟨hx, ho⟩ := he.executes hp hb hh
  have ⟨hs, hq⟩ := prepared_agrees hd s p loaded.disk disk (Program.ofSource data)
  have hn : outputOf (interpreter s p o loaded.disk).world.events = [] := by
    rw [interpreter_quiet hd]
    rfl
  intro e
  have hf : e.run.ending = .finished := by
    have hw' : 0 ≤ (interpreter s p o disk).terminal.width := by
      rw [interpreter_quiet hd]
      exact hw
    exact Interpreter.execute_ending (Interpreter.start_table ..) (.inl hw')
  refine ⟨hf, ?_, ?_⟩
  · exact (congrArg (Option.map _) hx).trans (congrArg some hs)
  · rw [hn, hs, hq, hc, opening_plain, closing_plain] at ho
    refine ho.trans ?_
    simp only [List.append_assoc, List.nil_append]
    rfl

-- A program with a trace, and a flag behind its name that the preferences do not ask for.
theorem command_line_agrees_traced :
    let program := ([ascii "p"], Node.file (ascii "3 4"))
    let s : Surroundings := { disk := ⟨[program]⟩, home := none, input := [] }
    let arguments := [ascii "--trace=t", ascii "p", ascii "--extended"]
    let out := runWith s arguments ⟨{}, s.disk, []⟩
    s.colouredOutput = false ∧ 0 ≤ s.terminal.width ∧ run s arguments = some out ∧
      out.exitCode = 0 ∧ (switched? .extended arguments).getD false = true ∧
      ∃ e : Interpreter.Execution, e.run.ending = .finished ∧
        out.execution.map (·.state) = some e.state := by
  intro program s arguments out
  let o : Options :=
    { extended := true, reportDirectory := ascii ".", reportFormat := ascii "text",
      trace := ascii "t", files := [ascii "p"] }
  have hp : Options.parse {} arguments = .ok o := by
    have h₁ : Argument.ofBytes (ascii "--trace=t") = .flag (ascii "trace") (some (ascii "t")) := by
      decide
    have h₂ : Argument.ofBytes (ascii "p") = .file (ascii "p") := by decide
    have h₃ : Argument.ofBytes (ascii "--extended") = .flag (ascii "extended") none := by decide
    have h₄ : Flag.ofName? (ascii "trace") = some .trace := by decide
    have h₅ : Flag.ofName? (ascii "extended") = some .extended := by decide
    have h₆ : Flag.bool? (ascii "true") = some true := by decide
    have hf : (Options.start {}).pass arguments
        = .ok ({ o with extended := false, files := [] }, [ascii "p", ascii "--extended"]) := by
      simp only [arguments, Options.pass, h₁, h₂, h₄, Flag.set]
      rfl
    have hr : ({ o with extended := false } : Options).pass [ascii "--extended"]
        = .ok (o, []) := by
      simp only [Options.pass, h₃, h₅, Flag.isSwitch, Flag.set, Flag.switch, h₆]
      rfl
    exact (Options.take_of_cons hf).trans (Options.take_of_nil hr)
  have hb : Begins o s.disk ⟨[program, ([ascii "t"], .file [])]⟩ (ascii "p") (ascii "3 4") :=
    ⟨rfl, rfl, rfl⟩
  have hw : 0 ≤ s.terminal.width := by decide
  obtain ⟨hr, _, hx, _, ho⟩ := command_line_agrees s arguments ⟨{}, s.disk, []⟩ rfl hw
  obtain ⟨hs, ha⟩ := ho o hp
  obtain ⟨code, _, hf, he, _⟩ := ha _ _ _ hb rfl rfl
  have hq : (switched? .extended arguments).getD false = true :=
    (congrArg Settings.extended hs).symm
  exact ⟨rfl, hw, hr rfl, hx.mpr ⟨o, hp, .inr ⟨_, _, _, hb⟩⟩, hq, _, hf, he⟩

end Cli
end Denary
