import Denary.Proofs.Remarks

namespace Denary

-- What a handler says, and whether it completes what it was called for.
structure Account extends Remarks where
  completed : Bool := true

namespace Account

structure Describes (a : Account) (env : Environment) (m : Machine)
    (r : Machine × Except Fault Status) : Prop where
  remarks : a.toRemarks.Describes env m r.1
  status  : ∀ status, r.2 = .ok status → status = .done a.completed

def failed (a : Remarks) : Account :=
  { toRemarks := a, completed := false }

def after (b : Remarks) (a : Account) : Account :=
  { a with toRemarks := b ++ a.toRemarks }

def append (env : Environment) (site : Site) (store : Bounded Variable) : Account where
  toRemarks := .offer env site store
  completed := !store.isFull

def condition (env : Environment) (site : Site) (m : Machine) : Account where
  toRemarks := .lost env.settings site .stackFull m.state.conditions.isFull ++
    if Test.holdsAt site.position then Remarks.nested env (site.position + 1) m.state.store else {}

-- The positions that a loop makes variables of, one after another.
def loopPositions (p : Int) : List Int :=
  (List.replicate (Loop.roundsAt p).toNat [p + 1, p + 2]).flatten

def loop (env : Environment) (site : Site) (m : Machine) : Account where
  toRemarks := .nestedAll env (loopPositions site.position) m.state.store

def undefined (site : Site) : Option Undefined → Remarks
  | some u => .warn site Category.math u.message
  | none   => {}

def math (env : Environment) (site : Site) (m : Machine) : Account :=
  match Variable.newest 2 [.int, .float] m.state.store.toList with
  | newest :: second :: _ =>
    after (undefined site (Opcode.calculation env.code site.position second newest).2)
      (append env site m.state.store)
  | found => failed (.warn site Category.math (Opcode.shortageMessage found.length))

def strings (env : Environment) (site : Site) (m : Machine) : Account :=
  match Variable.newest 2 [.text] m.state.store.toList with
  | newest :: second :: _ =>
    let number := TextOperation.numberAt site.position
    match TextOperation.evaluate number second.value.render newest.value.render with
    | .error e =>
      failed (.warn site Category.string
        (TextOperation.nameOfNumber number ++ ascii ": " ++ e.message))
    | .ok _    => append env site m.state.store
  | _ => failed {}

def readInt (env : Environment) (site : Site) (m : Machine) : Account :=
  after { printed := [ascii "Enter a number: "] } <|
    match m.world.console.readLine.1 with
    | .error e => failed (.inputFailed site e)
    | .ok line =>
      match Decimal.int64? (Text.trim line) with
      | none   =>
        failed (.warn site Category.console (ascii "not an integer: " ++ Text.quoted line))
      | some _ => append env site m.state.store

def readText (env : Environment) (site : Site) (m : Machine) : Account :=
  after { printed := [ascii "Enter text: "] } <|
    match m.world.console.readLine.1 with
    | .error e => failed (.inputFailed site e)
    | .ok line =>
      if line.length ≤ Value.maxTextLength then append env site m.state.store
      else failed (.warn site Category.console Cause.textTooLong.message)

def pause (site : Site) (m : Machine) : Account :=
  after { printed := [ascii "Press any key to continue...", Text.line []] } <|
    match m.world.console.readLine.1 with
    | .error e => failed (.inputFailed site e)
    | .ok _    => {}

def display (m : Machine) : Account :=
  match m.state.store.last? with
  | none   => failed { printed := [Text.line (ascii "No variables")] }
  | some v => { printed := [Text.line v.render] }

def clear (t : Terminal) : Account where
  printed :=
    if t.ansi then [ascii "\x1b[2J\x1b[H"]
    else if t.width < 0 then []
    else [Text.line (Text.ruler t.width.toNat 0x2D)]

def setColour (t : Terminal) (c : Colour) : Account where
  printed := if t.ansi then (Colour.code? c).toList else []

def dialogue (env : Environment) (site : Site) (m : Machine) : Account :=
  match DialogueOperation.ofNumber? (DialogueOperation.numberAt site.position) with
  | some .readInt  => readInt env site m
  | some .readLine => readText env site m
  | some .display  => display m
  | some .clear    => clear env.terminal
  | some .pause    => pause site m
  | some .random   => append env site m.state.store
  | some .colour   => setColour env.terminal (Opcode.colourAt site.position)
  | some .status   => { printed := (Opcode.statusLines env m.state).map Text.line }
  | some .bell     => { printed := [[7]] }
  | some .time     =>
    { printed := [Text.line (ascii "Current time: " ++ Calendar.stamp env.clock)] }
  | none           => {}

def report (env : Environment) (site : Site) (m : Machine) : Account :=
  match env.reporter with
  | none          => failed {}
  | some reporter =>
    let snap := m.state.snapshot env.code env.settings.debug
    after { reported := [snap] } <|
      match (reporter snap m.world.archive).2 with
      | .error e  => failed (.warn site Category.report (ascii "report failed: " ++ e.message))
      | .ok place => { printed := [Text.line (ascii "Created file: " ++ place)] }

end Account

namespace Account.Describes

variable {a : Account} {b : Remarks} {env : Environment} {m m₁ : Machine}
  {r : Machine × Except Fault Status}

theorem of_ok {m' : Machine} (h : a.toRemarks.Describes env m m') :
    a.Describes env m (m', .ok (.done a.completed)) where
  remarks    := h
  status s e := by cases e; rfl

theorem of_error {m' : Machine} {fault : Fault} (h : a.toRemarks.Describes env m m') :
    a.Describes env m (m', .error fault) where
  remarks := h
  status  := nofun

theorem prepend (h₁ : b.Describes env m m₁) (h₂ : a.Describes env m₁ r) :
    (after b a).Describes env m r where
  remarks := h₁.trans h₂.remarks
  status  := h₂.status

theorem silently (h₁ : Remarks.Describes {} env m m₁) (h₂ : a.Describes env m₁ r) :
    a.Describes env m r where
  remarks := h₁.after h₂.remarks
  status  := h₂.status

end Account.Describes

namespace Opcode

open Account

variable (m : Machine) (env : Environment) (site : Site)

theorem append_account (v : Variable) {store : Bounded Variable} (h : m.state.store = store) :
    (Account.append env site store).Describes env m
      ((m.append env site v).1, .ok (.done (m.append env site v).2)) := by
  have ⟨hr, hs⟩ := m.describes_append env site v
  rw [h] at hr hs
  rw [hs]
  exact .of_ok hr

theorem create_account (kind : Kind) :
    (Account.append env site m.state.store).Describes env m (create kind.tag env site m) := by
  have ha := append_account m env site (Variable.created env.code kind site.position) rfl
  unfold create Machine.create
  unfold Machine.append at ha
  simp only [Kind.ofTag?_tag]
  cases h : m.state.store.push? (Variable.created env.code kind site.position)
  case none => simpa [h] using ha
  case some b =>
    simp only [h] at ha ⊢
    cases b.last?
    case none   => exact ha
    case some v => exact ⟨ha.remarks.before (Machine.describes_debug ..), ha.status⟩

theorem condition_account : (Account.condition env site m).Describes env m (condition env site m) := by
  have hp := m.describes_pushFrame env site ⟨site.position, Test.holdsAt site.position⟩
  have hs := m.pushFrame_state env site ⟨site.position, Test.holdsAt site.position⟩
  unfold condition Account.condition
  cases hr : Test.holdsAt site.position <;> rw [hr] at hp hs
  case false =>
    refine .of_ok (hp.trans ?_)
    exact .before (Machine.describes_debug ..)
      (.silent (by simp only [Machine.said]; rw [State.skip_eq]))
  case true =>
    have hn {m' : Machine} (h : m'.state.store = m.state.store) :
        (Remarks.nested env (site.position + 1) m.state.store).Describes env m'
          (m'.createNested env (site.position + 1)).1 :=
      h ▸ m'.describes_createNested env (site.position + 1)
    refine .of_ok (hp.trans ?_)
    exact .after (Machine.describes_debug ..) (hn (by rw [Machine.state_debug, hs]))

theorem describes_loopRounds (p : Int) (n : Nat) :
    (Remarks.nestedAll env (List.replicate n [p + 1, p + 2]).flatten m.state.store).Describes env m
      (loopRounds env p n m) := by
  induction n generalizing m
  case zero => exact .silent rfl
  case succ n hi =>
    have h₁ := m.describes_createNested env (p + 1)
    have h₂ := (m.createNested env (p + 1)).1.describes_createNested env (p + 2)
    have h₃ := hi (loopRound env p m)
    have hs₁ := m.offers_createNested env (p + 1)
    have hs₂ := (m.createNested env (p + 1)).1.offers_createNested env (p + 2)
    unfold loopRound at h₃
    rw [hs₂, hs₁] at h₃
    rw [hs₁] at h₂
    exact h₁.trans (h₂.trans h₃)

theorem loop_account : (Account.loop env site m).Describes env m (loop env site m) := by
  unfold loop Account.loop
  dsimp only
  generalize hm : m.debug env Category.flow _ = m₁
  have h₁ : Remarks.Describes {} env m m₁ := hm ▸ m.describes_debug env _ _
  have hs : m₁.state.store = m.state.store := hm ▸ rfl
  have h₂ : Remarks.Describes {} env m₁
    { m₁ with state := { m₁.state with loopDepth := m₁.state.loopDepth + 1 } } := .silent rfl
  have h₃ := describes_loopRounds
    { m₁ with state := { m₁.state with loopDepth := m₁.state.loopDepth + 1 } } env site.position
    (Loop.roundsAt site.position).toNat
  rw [← hs]
  refine .of_ok (.before (h₁.after (h₂.after h₃)) ?_)
  exact .silent (by simp only [Machine.said]; rw [State.skip_eq])

theorem calculate_account (second newest : Variable) :
    (after (undefined site (calculation env.code site.position second newest).2)
      (Account.append env site m.state.store)).Describes env m
        ((calculate env site second newest m).1,
          .ok (.done (calculate env site second newest m).2)) := by
  unfold calculate calculation
  dsimp only
  generalize (Operator.before env.code site.position).apply _ _ = result
  obtain ⟨x, u⟩ := result
  cases u
  case none =>
    exact .prepend (.silent (by rfl))
      (.silently (Machine.describes_debug ..) (append_account _ _ _ _ (by rfl)))
  case some u =>
    exact .prepend (Machine.describes_warn ..)
      (.silently (Machine.describes_debug ..) (append_account _ _ _ _ (by rfl)))

theorem math_account : (Account.math env site m).Describes env m (math env site m) := by
  unfold math Account.math
  rw [Bounded.lastOfKinds_eq_newest]
  rcases Variable.newest 2 [.int, .float] m.state.store.toList with _ | ⟨newest, _ | ⟨second, _⟩⟩
  · exact .of_ok (Machine.describes_warn ..)
  · exact .of_ok (Machine.describes_warn ..)
  · exact calculate_account m env site second newest

theorem strings_account : (Account.strings env site m).Describes env m (strings env site m) := by
  unfold strings Account.strings
  rw [Bounded.lastOfKinds_eq_newest]
  rcases Variable.newest 2 [.text] m.state.store.toList with _ | ⟨newest, _ | ⟨second, _⟩⟩
  · exact .of_ok (Machine.describes_debug ..)
  · exact .of_ok (Machine.describes_debug ..)
  · dsimp only
    cases TextOperation.evaluate (TextOperation.numberAt site.position) second.value.render
      newest.value.render
    case error e => exact .of_ok (Machine.describes_warn ..)
    case ok t    => exact .silently (Machine.describes_debug ..) (append_account _ _ _ _ (by rfl))

theorem inputFailed_account (e : Error) :
    (failed (.inputFailed site e)).Describes env m (inputFailed env site e m) :=
  .of_ok (m.describes_warn env site _ _)

theorem readInt_account : (Account.readInt env site m).Describes env m (readInt env site m) := by
  unfold readInt Account.readInt
  rw [takeLine_eq, Machine.console_print]
  refine .prepend (Machine.describes_print ..) ?_
  cases m.world.console.readLine.1
  case error e => exact .silently (.silent (by rfl)) (inputFailed_account ..)
  case ok line =>
    dsimp only
    cases Decimal.int64? (Text.trim line)
    case none   => exact .silently (.silent (by rfl)) (.of_ok (Machine.describes_warn ..))
    case some n => exact .silently (.silent (by rfl)) (append_account _ _ _ _ (by rfl))

theorem readText_account : (Account.readText env site m).Describes env m (readText env site m) := by
  unfold readText Account.readText
  rw [takeLine_eq, Machine.console_print]
  refine .prepend (Machine.describes_print ..) ?_
  cases m.world.console.readLine.1
  case error e => exact .silently (.silent (by rfl)) (inputFailed_account ..)
  case ok line =>
    dsimp only
    split
    case isTrue  => exact .silently (.silent (by rfl)) (append_account _ _ _ _ (by rfl))
    case isFalse => exact .silently (.silent (by rfl)) (.of_ok (Machine.describes_warn ..))

theorem pause_account : (Account.pause site m).Describes env m (pause env site m) := by
  have hp : m.world.pause = (m.world.console.readLine.1.map fun _ => (),
      ({ m.world.print (ascii "Press any key to continue...") with
        console := m.world.console.readLine.2 } : World).printLine []) := rfl
  have hd : Remarks.Describes
      { printed := [ascii "Press any key to continue...", Text.line []] } env m
      { m with world := m.world.pause.2 } := by
    have h₁ := m.describes_print env (ascii "Press any key to continue...")
    have h₂ := Machine.describes_printLine
      { m with world := { m.world.print (ascii "Press any key to continue...") with
        console := m.world.console.readLine.2 } } env []
    exact h₁.trans (.after (.silent (by rfl)) h₂)
  unfold pause Account.pause
  rw [hp] at hd ⊢
  refine .prepend hd ?_
  cases m.world.console.readLine.1
  case error e => exact inputFailed_account ..
  case ok line => exact .of_ok (.silent rfl)

theorem random_account : (Account.append env site m.state.store).Describes env m (random env site m) :=
  .silently (.silent (by rfl))
    (append_account { m with world := (m.world.random randomLimit).2 } env site _ rfl)

theorem clear_account : (Account.clear env.terminal).Describes env m (clear env m) := by
  unfold clear World.clear Account.clear
  cases env.terminal.ansi
  case true => exact .of_ok (m.describes_print env _)
  case false =>
    by_cases hw : env.terminal.width < 0
    case pos =>
      simp only [Bool.false_eq_true, hw, ↓reduceIte]
      exact .of_error (.silent rfl)
    case neg =>
      simp only [Bool.false_eq_true, hw, ↓reduceIte]
      exact .of_ok (m.describes_printLine env _)

theorem setColour_account (c : Colour) :
    (Account.setColour env.terminal c).Describes env m (setColour env c m) := by
  unfold setColour World.setColour Account.setColour
  cases env.terminal.ansi
  case false => exact .of_ok (.silent rfl)
  case true =>
    cases Colour.code? c
    case none   => exact .of_error (.silent rfl)
    case some t =>
      have hp := Machine.describes_print
        { state := { m.state with colour := c }
          world := { m.world with console := { m.world.console with colour := c } } } env t
      exact .of_ok (.after (.silent (by rfl)) hp)

theorem dialogue_account : (Account.dialogue env site m).Describes env m (dialogue env site m) := by
  unfold dialogue Account.dialogue
  dsimp only
  generalize hm : m.debug env Category.console _ = m'
  have hd : Remarks.Describes {} env m m' := hm ▸ m.describes_debug env _ _
  have hs : m'.state = m.state := hm ▸ rfl
  have hc : m'.world.console = m.world.console := hm ▸ m.console_debug env _ _
  refine .silently hd ?_
  cases DialogueOperation.ofNumber? (DialogueOperation.numberAt site.position)
  case none => exact .of_ok (.silent rfl)
  case some op =>
    cases op
    case readInt =>
      have h := readInt_account m' env site
      unfold Account.readInt at h ⊢
      rwa [hc, hs] at h
    case readLine =>
      have h := readText_account m' env site
      unfold Account.readText at h ⊢
      rwa [hc, hs] at h
    case pause =>
      have h := pause_account m' env site
      unfold Account.pause at h ⊢
      rwa [hc] at h
    case clear  => exact clear_account ..
    case random => exact hs ▸ random_account m' env site
    case colour => exact setColour_account ..
    case status => exact hs ▸ .of_ok (m'.describes_printLines env _)
    case bell   => exact .of_ok (m'.describes_print env _)
    case time   => exact .of_ok (m'.describes_printLine env _)
    case display =>
      unfold display Account.display
      rw [hs]
      cases m.state.store.last?
      case none   => exact .of_ok (m'.describes_printLine env _)
      case some v => exact .of_ok (m'.describes_printLine env _)

theorem report_account : (Account.report env site m).Describes env m (report env site m) := by
  unfold report Account.report
  dsimp only
  generalize hm : m.debug env Category.report _ = m'
  have hd : Remarks.Describes {} env m m' := hm ▸ m.describes_debug env _ _
  have hs : m'.state = m.state := hm ▸ rfl
  have ha : m'.world.archive = m.world.archive := by simpa using hd.archive
  refine .silently hd ?_
  rw [← hs, ← ha]
  cases hr : env.reporter
  case none => exact .of_ok (Machine.describes_debug ..)
  case some reporter =>
    have hd : Remarks.Describes
        { reported := [m'.state.snapshot env.code env.settings.debug] } env m'
        { m' with world := { m'.world with archive :=
          (reporter (m'.state.snapshot env.code env.settings.debug) m'.world.archive).1 } } :=
      { printed  := by simp [World.printed, World.events]
        warnings := by simp [World.warnings, World.events]
        counted  := rfl
        errors   := by simp [World.errors, World.events]
        notes    := by simp [World.notes, World.events]
        archive  := by simp [Environment.deliver, hr, Reporter.deliver] }
    refine .prepend hd ?_
    dsimp only
    generalize reporter (m'.state.snapshot env.code env.settings.debug) m'.world.archive = result
    obtain ⟨archive, answer⟩ := result
    cases answer
    case error e  => exact .of_ok (Machine.describes_warn ..)
    case ok place => exact .of_ok (Machine.describes_printLine ..)

end Opcode

namespace Library

variable {extended : Bool} {h : Handler}

-- The account of the handler that a library binds to the digit of a site.
def account (extended : Bool) (env : Environment) (site : Site) (m : Machine) : Account :=
  match site.digit with
  | 0x32 => .loop env site m
  | 0x35 => if extended then .condition env site m else .append env site m.state.store
  | 0x36 => if extended then .strings env site m else .append env site m.state.store
  | 0x37 => .dialogue env site m
  | 0x38 => .math env site m
  | 0x39 => .report env site m
  | _    => .append env site m.state.store

theorem account_describes {site : Site} (ht : table extended site.digit = some h) (m : Machine)
    (env : Environment) : (account extended env site m).Describes env m (h env site m) := by
  obtain ⟨p, d⟩ := site
  cases binds_of_table ht
  case int       => exact Opcode.create_account m env _ .int
  case text      => exact Opcode.create_account m env _ .text
  case bool      => exact Opcode.create_account m env _ .bool
  case float     => exact Opcode.create_account m env _ .float
  case dialogue  => exact Opcode.dialogue_account ..
  case math      => exact Opcode.math_account ..
  case report    => exact Opcode.report_account ..
  case loop      => exact Opcode.loop_account ..
  case condition => exact Opcode.condition_account ..
  case strings   => exact Opcode.strings_account ..

theorem printed_lost (s : Settings) (site : Site) (cause : Cause) (full : Bool) :
    (Remarks.lost s site cause full).printed = [] := by
  unfold Remarks.lost
  split <;> rfl

theorem printed_nested (env : Environment) (p : Int) (store : Bounded Variable) :
    (Remarks.nested env p store).printed = [] := by
  unfold Remarks.nested
  split
  case h_1 =>
    split
    case isTrue  => exact printed_lost ..
    case isFalse => rfl
  case h_2 => rfl

theorem printed_nestedAll (env : Environment) (ps : List Int) (store : Bounded Variable) :
    (Remarks.nestedAll env ps store).printed = [] := by
  induction ps generalizing store
  case nil          => rfl
  case cons p ps hi => simp [Remarks.nestedAll, printed_nested, hi]

-- Only the dialogue and the reports print.
theorem printed_account {site : Site} (h₇ : site.digit ≠ 0x37) (h₉ : site.digit ≠ 0x39)
    (extended : Bool) (env : Environment) (m : Machine) :
    (account extended env site m).printed = [] := by
  have ha : (Account.append env site m.state.store).printed = [] := printed_lost ..
  unfold account
  split
  case h_1 => exact printed_nestedAll ..
  case h_2 =>
    cases extended
    case false => exact ha
    case true  =>
      unfold Account.condition
      simp only [↓reduceIte, Remarks.printed_append, printed_lost, List.nil_append]
      split
      case isTrue  => exact printed_nested ..
      case isFalse => rfl
  case h_3 =>
    cases extended
    case false => exact ha
    case true  =>
      simp only [↓reduceIte, Account.strings]
      split
      case h_1 =>
        split
        case h_1 => rfl
        case h_2 => exact ha
      case h_2 => rfl
  case h_4 hd => exact absurd hd h₇
  case h_5 =>
    unfold Account.math
    split
    case h_1 =>
      unfold Account.undefined
      split <;> simp [Account.after, ha, Remarks.warn]
    case h_2 => rfl
  case h_6 hd => exact absurd hd h₉
  case h_7 => exact ha

end Library
end Denary
