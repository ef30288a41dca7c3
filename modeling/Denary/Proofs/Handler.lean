import Denary.Proofs.Effect

namespace Denary

-- The result of an operation on two variables.
def Opcode.calculation (code : Code) (p : Int) (second newest : Variable) :
    Float × Option Undefined :=
  (Operator.before code p).apply (second.value.asFloat?.getD 0) (newest.value.asFloat?.getD 0)

def DialogueOperation.number : DialogueOperation → Int
  | readInt  => 0
  | readLine => 1
  | display  => 2
  | clear    => 3
  | pause    => 4
  | random   => 5
  | colour   => 6
  | status   => 7
  | bell     => 8
  | time     => 9

theorem DialogueOperation.ofNumber?_eq_some_iff {n : Int} {op : DialogueOperation} :
    ofNumber? n = some op ↔ n = op.number := by
  constructor
  case mp =>
    intro h
    unfold ofNumber? at h
    split at h <;> cases h <;> rfl
  case mpr =>
    intro h
    rw [h]
    cases op <;> rfl

namespace Effect

-- The effects of the handlers. Those of conditions and loops are given by the code and the position
-- alone, and that of the dialogue does not look at the store.

def create (code : Code) (kind : Kind) (p : Int) (console : Console) : Effect where
  offered := [Variable.created code kind p]
  console := console

def condition (code : Code) (p : Int) (console : Console) : Effect where
  offered := if Test.holdsAt p then Variable.nested code (p + 1) else []
  pushed  := [⟨p, Test.holdsAt p⟩]
  skipped := if Test.holdsAt p then 0 else 1
  console := console

def loop (code : Code) (p : Int) (console : Console) : Effect where
  offered := (List.replicate (Loop.roundsAt p).toNat (Opcode.loopBody code p)).flatten
  skipped := Loop.bodyLength
  console := console

def calculated (code : Code) (p : Int) (entries : List Variable) : List Variable :=
  match Variable.newest 2 [.int, .float] entries with
  | newest :: second :: _ =>
    [⟨Opcode.resultName p, .float (Opcode.calculation code p second newest).1⟩]
  | _ => []

def math (code : Code) (p : Int) (entries : List Variable) (console : Console) : Effect where
  offered := calculated code p entries
  console := console

def written (p : Int) (entries : List Variable) : List Variable :=
  match Variable.newest 2 [.text] entries with
  | newest :: second :: _ =>
    match TextOperation.evaluate (TextOperation.numberAt p) second.value.render
        newest.value.render with
    | .ok t    => [⟨ascii "str_result_" ++ Decimal.integer p, .text t⟩]
    | .error _ => []
  | _ => []

def strings (p : Int) (entries : List Variable) (console : Console) : Effect where
  offered := written p entries
  console := console

def enteredInt (p : Int) : Except Error Bytes → List Variable
  | .ok line =>
    match Decimal.int64? (Text.trim line) with
    | some n => [⟨ascii "input_num_" ++ Decimal.integer p, .int n⟩]
    | none   => []
  | .error _ => []

def enteredText (p : Int) : Except Error Bytes → List Variable
  | .ok line =>
    if line.length ≤ Value.maxTextLength then
      [⟨ascii "input_str_" ++ Decimal.integer p, .text line⟩]
    else []
  | .error _ => []

def drawn (p : Int) : Except Fault Nat → List Variable
  | .ok n    => [⟨ascii "random_" ++ Decimal.integer p, .int (Int64.ofNat n)⟩]
  | .error _ => []

def clearFault (t : Terminal) : Option Fault :=
  if ¬ t.ansi ∧ t.width < 0 then some .negativeWidth else none

def colourFault (t : Terminal) (c : Colour) : Option Fault :=
  if t.ansi ∧ (Colour.code? c).isNone then some .unknownColour else none

def dialogue (t : Terminal) (p : Int) (console : Console) : Effect :=
  match DialogueOperation.ofNumber? (DialogueOperation.numberAt p) with
  | some .readInt  => { offered := enteredInt p console.readLine.1, console := console.readLine.2 }
  | some .readLine => { offered := enteredText p console.readLine.1, console := console.readLine.2 }
  | some .pause    => { console := console.readLine.2 }
  | some .random   =>
    let draw := console.random Opcode.randomLimit
    { offered := drawn p draw.1, fault := fault? draw.1, console := draw.2 }
  | some .clear    => { fault := clearFault t, console := console }
  | some .colour   =>
    { colour  := some (Opcode.colourAt p)
      fault   := colourFault t (Opcode.colourAt p)
      console := { console with colour := Opcode.colourAt p } }
  | _ => { console := console }

-- Most handlers only offer variables to the store.
theorem describes_of_offers {vs : List Variable} {console : Console} {fault : Option Fault}
    {m : Machine} {r : Machine × Except Fault Status} (ho : m.state.Offers r.1.state vs)
    (hc : r.1.world.console = console) (hf : fault? r.2 = fault) :
    Effect.Describes { offered := vs, fault := fault, console := console } m r where
  state   := by simpa [State.Offers, apply] using ho
  console := hc
  fault   := hf

end Effect

namespace Opcode

variable (m : Machine) (env : Environment) (site : Site)

theorem create_describes (kind : Kind) :
    (Effect.create env.code kind site.position m.world.console).Describes m
      (create kind.tag env site m) := by
  unfold create Machine.create
  simp only [Kind.ofTag?_tag]
  cases h : m.state.store.push? (Variable.created env.code kind site.position)
  case none =>
    have ho := m.offers_dropped env h site (.plain .storeFull)
    exact Effect.describes_of_offers ho (m.console_dropped env site _) rfl
  case some b =>
    have ho : m.state.Offers { m.state with store := b }
        [Variable.created env.code kind site.position] := by
      simp [State.Offers, ← Bounded.offer_eq_of_push?_some h]
    simp only
    cases b.last?
    case none   => exact Effect.describes_of_offers ho rfl rfl
    case some v => exact Effect.describes_of_offers ho (by simp) rfl

theorem condition_describes :
    (Effect.condition env.code site.position m.world.console).Describes m (condition env site m) := by
  unfold condition Effect.condition
  have hp := m.pushFrame_state env site ⟨site.position, Test.holdsAt site.position⟩
  cases hr : Test.holdsAt site.position <;> rw [hr] at hp
  case false =>
    refine { state := ?_, console := by simp, fault := rfl }
    simp only [Bool.false_eq_true, ↓reduceIte, Machine.state_debug]
    rw [State.skip_eq, hp]
    rfl
  case true =>
    refine { state := ?_, console := by simp, fault := rfl }
    simp only [↓reduceIte]
    rw [Machine.offers_createNested, Machine.state_debug, hp]
    rfl

theorem loop_describes :
    (Effect.loop env.code site.position m.world.console).Describes m (loop env site m) := by
  unfold loop Effect.loop
  refine { state := ?_, console := by simp [console_loopRounds], fault := rfl }
  simp only [Machine.state_debug]
  rw [State.skip_eq, offers_loopRounds]
  simp [Effect.apply, State.skip_cursor]

theorem offers_calculate (second newest : Variable) :
    m.state.Offers (calculate env site second newest m).1.state
      [⟨resultName site.position, .float (calculation env.code site.position second newest).1⟩] := by
  unfold calculate calculation
  dsimp only
  generalize (Operator.before env.code site.position).apply _ _ = r
  obtain ⟨x, u⟩ := r
  cases u
  case none   => exact Machine.offers_append ..
  case some u =>
    have hw : m.state.Offers (m.warn env site Category.math u.message).state [] := rfl
    exact hw.trans (Machine.offers_append ..)

theorem console_calculate (second newest : Variable) :
    (calculate env site second newest m).1.world.console = m.world.console := by
  unfold calculate
  dsimp only
  generalize (Operator.before env.code site.position).apply _ _ = r
  obtain ⟨x, u⟩ := r
  cases u <;> simp

theorem math_describes :
    (Effect.math env.code site.position m.state.store.toList m.world.console).Describes m
      (math env site m) := by
  unfold math Effect.math Effect.calculated
  rw [Bounded.lastOfKinds_eq_newest]
  rcases Variable.newest 2 [.int, .float] m.state.store.toList with _ | ⟨newest, _ | ⟨second, _⟩⟩
  · exact Effect.describes_of_offers rfl (m.console_warn env site _ _) rfl
  · exact Effect.describes_of_offers rfl (m.console_warn env site _ _) rfl
  · exact Effect.describes_of_offers (offers_calculate m env site second newest)
      (console_calculate m env site second newest) rfl

theorem strings_describes :
    (Effect.strings site.position m.state.store.toList m.world.console).Describes m
      (strings env site m) := by
  unfold strings Effect.strings Effect.written
  rw [Bounded.lastOfKinds_eq_newest]
  rcases Variable.newest 2 [.text] m.state.store.toList with _ | ⟨newest, _ | ⟨second, _⟩⟩
  · exact Effect.describes_of_offers rfl (m.console_debug env _ _) rfl
  · exact Effect.describes_of_offers rfl (m.console_debug env _ _) rfl
  · simp only
    cases TextOperation.evaluate (TextOperation.numberAt site.position) second.value.render
      newest.value.render
    case error e => exact Effect.describes_of_offers rfl (m.console_warn env site _ _) rfl
    case ok t =>
      exact Effect.describes_of_offers (Machine.offers_append ..) (by simp) rfl

theorem report_describes : Effect.Describes { console := m.world.console } m (report env site m) := by
  unfold report
  cases env.reporter
  case none => exact Effect.describes_of_offers rfl (by simp) rfl
  case some reporter =>
    simp only
    split
    · exact Effect.describes_of_offers rfl (by simp) rfl
    · exact Effect.describes_of_offers rfl (by simp) rfl

theorem takeLine_eq :
    takeLine m = (m.world.console.readLine.1,
      { m with world := { m.world with console := m.world.console.readLine.2 } }) :=
  rfl

@[simp]
theorem console_inputFailed (e : Error) :
    (inputFailed env site e m).1.world.console = m.world.console :=
  m.console_warn env site _ _

theorem readInt_describes :
    Effect.Describes
      { offered := Effect.enteredInt site.position m.world.console.readLine.1
        console := m.world.console.readLine.2 } m (readInt env site m) := by
  unfold readInt
  rw [takeLine_eq, Machine.console_print]
  cases m.world.console.readLine.1
  case error e => exact Effect.describes_of_offers rfl (console_inputFailed ..) rfl
  case ok line =>
    simp only [Effect.enteredInt]
    cases Decimal.int64? (Text.trim line)
    case none   => exact Effect.describes_of_offers rfl (by simp) rfl
    case some n => exact Effect.describes_of_offers (Machine.offers_append ..) (by simp) rfl

theorem readText_describes :
    Effect.Describes
      { offered := Effect.enteredText site.position m.world.console.readLine.1
        console := m.world.console.readLine.2 } m (readText env site m) := by
  unfold readText
  rw [takeLine_eq, Machine.console_print]
  cases m.world.console.readLine.1
  case error e => exact Effect.describes_of_offers rfl (console_inputFailed ..) rfl
  case ok line =>
    simp only [Effect.enteredText]
    by_cases hl : line.length ≤ Value.maxTextLength <;> simp only [hl, ↓reduceIte]
    · exact Effect.describes_of_offers (Machine.offers_append ..) (by simp) rfl
    · exact Effect.describes_of_offers rfl (by simp) rfl

theorem pause_describes :
    Effect.Describes { console := m.world.console.readLine.2 } m (pause env site m) := by
  have hp : m.world.pause = (m.world.console.readLine.1.map fun _ => (),
      ({ m.world.print (ascii "Press any key to continue...") with
        console := m.world.console.readLine.2 } : World).printLine []) := rfl
  unfold pause
  rw [hp]
  cases m.world.console.readLine.1
  case error e => exact Effect.describes_of_offers rfl (console_inputFailed ..) rfl
  case ok line => exact Effect.describes_of_offers rfl rfl rfl

theorem random_describes :
    Effect.Describes
      { offered := Effect.drawn site.position (m.world.console.random randomLimit).1
        fault   := fault? (m.world.console.random randomLimit).1
        console := (m.world.console.random randomLimit).2 } m (random env site m) := by
  have hr : m.world.random randomLimit = ((m.world.console.random randomLimit).1,
      { m.world with console := (m.world.console.random randomLimit).2 }) := rfl
  unfold random
  rw [hr]
  cases (m.world.console.random randomLimit).1
  case error f => exact Effect.describes_of_offers rfl rfl rfl
  case ok n    => exact Effect.describes_of_offers (Machine.offers_append ..) (by simp) rfl

theorem clear_describes :
    Effect.Describes
      { fault := Effect.clearFault env.terminal, console := m.world.console } m (clear env m) := by
  have hc := m.world.console_clear env.terminal
  have hf : fault? (m.world.clear env.terminal).1 = Effect.clearFault env.terminal := by
    unfold World.clear Effect.clearFault
    split
    · simp_all [fault?]
    · split <;> simp_all [fault?]
  unfold clear
  cases h : m.world.clear env.terminal
  case mk answer world =>
    rw [h] at hc hf
    cases answer
    case error f => exact Effect.describes_of_offers rfl hc hf
    case ok u    => exact Effect.describes_of_offers rfl hc hf

theorem setColour_describes (c : Colour) :
    Effect.Describes
      { colour  := some c
        fault   := Effect.colourFault env.terminal c
        console := { m.world.console with colour := c } } m (setColour env c m) := by
  have hc := m.world.console_setColour env.terminal c
  have hf : fault? (m.world.setColour env.terminal c).1 = Effect.colourFault env.terminal c := by
    unfold World.setColour Effect.colourFault
    split
    · split <;> simp_all [fault?]
    · simp_all [fault?]
  unfold setColour
  dsimp only
  cases h : m.world.setColour env.terminal c
  case mk answer world =>
    rw [h] at hc hf
    cases answer
    case error f => exact { state := by simp [Effect.apply], console := hc, fault := hf }
    case ok u    => exact { state := by simp [Effect.apply], console := hc, fault := hf }

theorem dialogue_describes :
    (Effect.dialogue env.terminal site.position m.world.console).Describes m
      (dialogue env site m) := by
  unfold dialogue Effect.dialogue
  dsimp only
  -- The handler first writes to the journal, which none of its operations can tell.
  generalize hm : m.debug env Category.console _ = m'
  have hs : m'.state = m.state := hm ▸ m.state_debug env _ _
  have hc : m'.world.console = m.world.console := hm ▸ m.console_debug env _ _
  rw [← hc]
  have hd {e : Effect} {r : Machine × Except Fault Status} (h : e.Describes m' r) : e.Describes m r :=
    { h with state := hs ▸ h.state }
  apply hd
  cases DialogueOperation.ofNumber? (DialogueOperation.numberAt site.position)
  case none => exact Effect.describes_of_offers rfl rfl rfl
  case some op =>
    cases op
    case readInt  => exact readInt_describes ..
    case readLine => exact readText_describes ..
    case clear    => exact clear_describes ..
    case pause    => exact pause_describes ..
    case random   => exact random_describes ..
    case colour   => exact setColour_describes ..
    case bell     => exact Effect.describes_of_offers rfl rfl rfl
    case time     => exact Effect.describes_of_offers rfl rfl rfl
    case status =>
      dsimp only
      generalize statusLines env m'.state = lines
      have ho : m'.state.Offers (lines.foldl Machine.printLine m').state [] := by
        rw [Machine.printLines_state]
        exact .refl _
      exact Effect.describes_of_offers ho (m'.printLines_console lines) rfl
    case display =>
      unfold display
      cases m'.state.store.last?
      case none   => exact Effect.describes_of_offers rfl rfl rfl
      case some v => exact Effect.describes_of_offers rfl rfl rfl

end Opcode
end Denary
