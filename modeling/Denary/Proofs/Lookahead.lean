import Denary.Proofs.Cursor
import Denary.Proofs.Reporter
import Denary.Proofs.Transcript

namespace Denary

-- Codes that start with the same `k` bytes.
structure Code.SharesPrefix (k : Nat) (x y : Code) : Prop where
  left  : k ≤ x.size
  right : k ≤ y.size
  bytes : x.toList.take k = y.toList.take k

namespace Code.SharesPrefix

variable {k : Nat} {x y : Code}

theorem lt_left (h : SharesPrefix k x y) {p : Int} (hp : p < k) : p < x.size := by
  have hl := h.left
  omega

theorem lt_right (h : SharesPrefix k x y) {p : Int} (hp : p < k) : p < y.size := by
  have hr := h.right
  omega

theorem at?_eq (h : SharesPrefix k x y) {p : Int} (hp : p < k) : x.at? p = y.at? p := by
  unfold Code.at?
  split
  case isTrue => rfl
  case isFalse hn =>
    have hk : p.toNat < k := by omega
    have ht := congrArg (·[p.toNat]?) h.bytes
    simpa [List.getElem?_take, hk, Code.toList] using ht

theorem slice?_eq (h : SharesPrefix k x y) {span : Span} (hs : span.stop ≤ k) :
    x.slice? span = y.slice? span := by
  have hx : span.stop ≤ x.size := Nat.le_trans hs h.left
  have hy : span.stop ≤ y.size := Nat.le_trans hs h.right
  have ht := congrArg (fun b => (b.take span.stop).drop span.start) h.bytes
  simp only [List.take_take, Nat.min_eq_left hs, Code.toList] at ht
  simp [Code.slice?, hx, hy, Array.toList_extract, List.extract_eq_take_drop, List.drop_take] at ht ⊢
  rw [ht]

end Code.SharesPrefix

namespace Library

-- How far a library looks ahead of the digit that it takes: a loop makes a variable of the second
-- digit behind it, and an integer looks at the digit behind its own.
def reach (extended : Bool) : Nat :=
  if extended then 3 else 1

theorem one_le_reach (extended : Bool) : 1 ≤ reach extended := by
  cases extended <;> decide

section

variable {x y : Code} {p : Int}

theorem created_congr (kind : Kind) (h : x.at? (p + 1) = y.at? (p + 1)) :
    Variable.created x kind p = Variable.created y kind p := by
  cases kind <;> simp [Variable.created, Variable.createdValue, h]

theorem nested_congr (h₀ : x.at? p = y.at? p) (h₁ : x.at? (p + 1) = y.at? (p + 1)) :
    Variable.nested x p = Variable.nested y p := by
  unfold Variable.nested
  rw [h₀]
  split
  case h_1 kind _ => rw [created_congr kind h₁]
  case h_2        => rfl

theorem calculation_congr (h : x.at? (p - 1) = y.at? (p - 1)) :
    Opcode.calculation x p = Opcode.calculation y p := by
  funext second newest
  unfold Opcode.calculation Operator.before
  rw [h]

variable {extended : Bool} {k : Nat} {site : Site} {h : Handler}

theorem effect_congr (hk : Code.SharesPrefix k x y) (ht : table extended site.digit = some h)
    (hp : site.position + reach extended < k) (t : Terminal) (entries : List Variable)
    (console : Console) :
    effect extended x t site entries console = effect extended y t site entries console := by
  have hn := one_le_reach extended
  obtain ⟨p, d⟩ := site
  dsimp only at hp
  have hc (kind : Kind) : Effect.create x kind p console = Effect.create y kind p console := by
    rw [Effect.create, created_congr kind (hk.at?_eq (by omega))]
    rfl
  cases binds_of_table ht
  case int      => exact hc .int
  case text     => exact hc .text
  case bool     => exact hc .bool
  case float    => exact hc .float
  case dialogue => rfl
  case report   => rfl
  case strings  => rfl
  case math =>
    have he : Effect.calculated x p entries = Effect.calculated y p entries := by
      rw [Effect.calculated, calculation_congr (hk.at?_eq (by omega))]
      rfl
    exact congrArg (Effect.mk · [] 0 none none console) he
  case loop =>
    have hr : reach true = 3 := rfl
    have h₁ : Variable.nested x (p + 1) = Variable.nested y (p + 1) :=
      nested_congr (hk.at?_eq (by omega)) (hk.at?_eq (by omega))
    have h₂ : Variable.nested x (p + 2) = Variable.nested y (p + 2) :=
      nested_congr (hk.at?_eq (by omega)) (hk.at?_eq (by omega))
    change Effect.loop x p console = Effect.loop y p console
    rw [Effect.loop, Opcode.loopBody, h₁, h₂]
    rfl
  case condition =>
    have hr : reach true = 3 := rfl
    have h₁ : Variable.nested x (p + 1) = Variable.nested y (p + 1) :=
      nested_congr (hk.at?_eq (by omega)) (hk.at?_eq (by omega))
    change Effect.condition x p console = Effect.condition y p console
    rw [Effect.condition, h₁]
    rfl

end

end Library

-- The line of the status that shows the length of the code.
def Opcode.positionLine (p : Int) (length : Nat) : Bytes :=
  Text.line (ascii "Position:    " ++ Decimal.integer p ++ ascii "/" ++ Decimal.natural length)

-- Texts that runs over two codes print in the same place. They only differ where the status shows
-- the length of the code, and where reports were put in related places.
inductive Shown (x y : Code) (place : Bytes → Bytes → Prop) : Bytes → Bytes → Prop
  | same {t : Bytes}                      : Shown x y place t t
  | length {p : Int}                      :
      Shown x y place (Opcode.positionLine p x.size) (Opcode.positionLine p y.size)
  | place {t t' : Bytes} (h : place t t') : Shown x y place (Opcode.placeLine t) (Opcode.placeLine t')

theorem Snapshot.SameButLength.refl (s : Snapshot) : s.SameButLength s :=
  rfl

namespace Remarks

-- Remarks that only differ in the length of the code.
structure Mirrors (x y : Code) (place : Bytes → Bytes → Prop) (a a' : Remarks) : Prop where
  printed  : List.Forall₂ (Shown x y place) a.printed a'.printed
  warned   : a.warned.length = a'.warned.length
  reported : List.Forall₂ Snapshot.SameButLength a.reported a'.reported

namespace Mirrors

variable {x y : Code} {place : Bytes → Bytes → Prop} {a a' b b' : Remarks}

theorem refl (a : Remarks) : a.Mirrors x y place a where
  printed  := List.forall₂_same.mpr fun _ _ => .same
  warned   := rfl
  reported := List.forall₂_same.mpr fun s _ => .refl s

theorem of_eq (h : a = a') : a.Mirrors x y place a' :=
  h ▸ .refl a

theorem append (ha : a.Mirrors x y place a') (hb : b.Mirrors x y place b') :
    (a ++ b).Mirrors x y place (a' ++ b') where
  printed  := List.rel_append ha.printed hb.printed
  warned   := by simp [ha.warned, hb.warned]
  reported := List.rel_append ha.reported hb.reported

end Mirrors
end Remarks

-- The same surroundings with another code.
def Environment.over (env : Environment) (code : Code) : Environment :=
  { env with code := code }

-- Machines that run over codes of a different length, and are the same but for that.
structure Machine.Mirrors (env : Environment) (x y : Code) (place : Bytes → Bytes → Prop)
    (archive : Archive) (m m' : Machine) : Prop where
  state   : m.state = m'.state
  console : m.world.console = m'.world.console
  printed : List.Forall₂ (Shown x y place) m.world.printed m'.world.printed
  archive : ∃ ss ss', List.Forall₂ Snapshot.SameButLength ss ss' ∧
    m.world.archive = env.deliver archive ss ∧ m'.world.archive = env.deliver archive ss'

section

variable {env : Environment} {x y : Code} {place : Bytes → Bytes → Prop} {archive : Archive}
  {m m' : Machine}

theorem Machine.Mirrors.remarks {a a' : Remarks} {m₁ m₁' : Machine}
    (hm : m.Mirrors env x y place archive m') (ha : a.Mirrors x y place a')
    (hd : a.Describes (env.over x) m m₁) (hd' : a'.Describes (env.over y) m' m₁')
    (hc : m₁.world.console = m₁'.world.console)
    (hs : m₁.state.warnings = m₁'.state.warnings → m₁.state = m₁'.state) :
    m₁.Mirrors env x y place archive m₁' := by
  have ⟨ss, ss', hss, hx, hy⟩ := hm.archive
  refine { state := hs ?_, console := hc, printed := ?_, archive := ?_ }
  · rw [hd.counted, hd'.counted, hm.state, ha.warned]
  · rw [hd.printed, hd'.printed]
    exact List.rel_append hm.printed ha.printed
  · refine ⟨ss ++ a.reported, ss' ++ a'.reported, List.rel_append hss ha.reported, ?_, ?_⟩
    · rw [hd.archive, hx, Environment.deliver_append]
      rfl
    · rw [hd'.archive, hy, Environment.deliver_append]
      rfl

end

namespace Library

variable {extended : Bool} {env : Environment} {x y : Code} {place : Bytes → Bytes → Prop}
  {archive : Archive} {m m' : Machine} {k : Nat} {site : Site} {h : Handler}

theorem remarks_nested_congr {p : Int} (h : x.at? p = y.at? p) (store : Bounded Variable) :
    Remarks.nested (env.over x) p store = Remarks.nested (env.over y) p store := by
  have h : (env.over x).code.at? p = (env.over y).code.at? p := h
  unfold Remarks.nested
  rw [h]
  rfl

theorem remarks_nestedAll_congr {ps : List Int} (store : Bounded Variable)
    (h : ∀ p ∈ ps, x.at? p = y.at? p ∧ x.at? (p + 1) = y.at? (p + 1)) :
    Remarks.nestedAll (env.over x) ps store = Remarks.nestedAll (env.over y) ps store := by
  induction ps generalizing store
  case nil => rfl
  case cons p ps hi =>
    have ⟨h₀, h₁⟩ := h p List.mem_cons_self
    have hn : Variable.nested (env.over x).code p = Variable.nested (env.over y).code p :=
      nested_congr h₀ h₁
    rw [Remarks.nestedAll, Remarks.nestedAll, remarks_nested_congr h₀, hn,
      hi _ fun q hq => h q (List.mem_cons_of_mem p hq)]

theorem mem_loopPositions {p q : Int} (h : q ∈ Account.loopPositions p) : q = p + 1 ∨ q = p + 2 := by
  have ⟨body, hb, hq⟩ := List.mem_flatten.mp h
  rw [List.eq_of_mem_replicate hb] at hq
  simpa using hq

theorem dialogue_mirrors (hs : m.state = m'.state) (hc : m.world.console = m'.world.console) :
    (Account.dialogue (env.over x) site m).toRemarks.Mirrors x y place
        (Account.dialogue (env.over y) site m').toRemarks ∧
      (Account.dialogue (env.over x) site m).completed
        = (Account.dialogue (env.over y) site m').completed := by
  have hq {a a' : Account} (h : a = a') :
      a.toRemarks.Mirrors x y place a'.toRemarks ∧ a.completed = a'.completed :=
    ⟨.of_eq (h ▸ rfl), h ▸ rfl⟩
  unfold Account.dialogue
  cases DialogueOperation.ofNumber? (DialogueOperation.numberAt site.position)
  case none => exact hq rfl
  case some op =>
    cases op
    case readInt  => exact hq (by simp only [Account.readInt, hs, hc]; rfl)
    case readLine => exact hq (by simp only [Account.readText, hs, hc]; rfl)
    case display  => exact hq (by simp only [Account.display, hs])
    case clear    => exact hq rfl
    case pause    => exact hq (by simp only [Account.pause, hc])
    case random   => exact hq (by simp only [hs]; rfl)
    case colour   => exact hq rfl
    case bell     => exact hq rfl
    case time     => exact hq rfl
    case status =>
      refine ⟨⟨?_, rfl, .nil⟩, rfl⟩
      rw [hs]
      exact .cons .same <| .cons .same <| .cons .same <| .cons .length <|
        List.forall₂_same.mpr fun _ _ => .same

theorem report_mirrors (hm : m.Mirrors env x y place archive m')
    (hr : ∀ reporter ∈ env.reporter,
      Reporter.Steady reporter Snapshot.SameButLength place archive) :
    (Account.report (env.over x) site m).toRemarks.Mirrors x y place
        (Account.report (env.over y) site m').toRemarks ∧
      (Account.report (env.over x) site m).completed
        = (Account.report (env.over y) site m').completed := by
  have hx : (env.over x).reporter = env.reporter := rfl
  have hy : (env.over y).reporter = env.reporter := rfl
  have ⟨ss, ss', hss, ha, ha'⟩ := hm.archive
  unfold Account.report
  rw [hx, hy]
  cases he : env.reporter
  case none => exact ⟨.refl _, rfl⟩
  case some reporter =>
    have hd (ss : List Snapshot) : env.deliver archive ss = Reporter.deliver reporter archive ss := by
      rw [Environment.deliver, he]
    have hn : (m.state.snapshot x env.settings.debug).SameButLength
        (m'.state.snapshot y env.settings.debug) := by rw [hm.state]; rfl
    have ht := hr reporter he hss hn
    rw [← hd, ← hd, ← ha, ← ha'] at ht
    have hp : Remarks.Mirrors x y place { reported := [m.state.snapshot x env.settings.debug] }
        { reported := [m'.state.snapshot y env.settings.debug] } := ⟨.nil, rfl, .cons hn .nil⟩
    dsimp only [Environment.over]
    generalize (reporter (m.state.snapshot x env.settings.debug) m.world.archive).2 = a at ht ⊢
    generalize (reporter (m'.state.snapshot y env.settings.debug) m'.world.archive).2 = a' at ht ⊢
    cases ht
    case made h => exact ⟨hp.append ⟨.cons (.place h) .nil, rfl, .nil⟩, rfl⟩
    case failed => exact ⟨hp.append ⟨.nil, rfl, .nil⟩, rfl⟩

-- Handlers other than those of the dialogue and of reports say the same.
theorem account_congr (hk : Code.SharesPrefix k x y) (ht : table extended site.digit = some h)
    (hp : site.position + reach extended < k) (hs : m.state = m'.state)
    (h₇ : site.digit ≠ 0x37) (h₉ : site.digit ≠ 0x39) :
    account extended (env.over x) site m = account extended (env.over y) site m' := by
  have hn := one_le_reach extended
  obtain ⟨p, d⟩ := site
  dsimp only at hp h₇ h₉
  have ha : Account.append (env.over x) ⟨p, d⟩ m.state.store
      = Account.append (env.over y) ⟨p, d⟩ m'.state.store := hs ▸ rfl
  cases binds_of_table ht
  case int      => exact ha
  case text     => exact ha
  case bool     => exact ha
  case float    => exact ha
  case dialogue => exact absurd rfl h₇
  case report   => exact absurd rfl h₉
  case strings =>
    change Account.strings _ _ _ = Account.strings _ _ _
    simp only [Account.strings, hs]
    rfl
  case math =>
    have hc : Opcode.calculation (env.over x).code p = Opcode.calculation (env.over y).code p :=
      calculation_congr (hk.at?_eq (by omega))
    change Account.math _ _ _ = Account.math _ _ _
    simp only [Account.math, hs, hc]
    rfl
  case loop =>
    have hr : reach true = 3 := rfl
    have hl : Remarks.nestedAll (env.over x) (Account.loopPositions p) m'.state.store
        = Remarks.nestedAll (env.over y) (Account.loopPositions p) m'.state.store := by
      refine remarks_nestedAll_congr _ fun q hq => ?_
      rcases mem_loopPositions hq with rfl | rfl
      all_goals exact ⟨hk.at?_eq (by omega), hk.at?_eq (by omega)⟩
    change Account.loop _ _ _ = Account.loop _ _ _
    rw [Account.loop, hs, hl]
    rfl
  case condition =>
    have hr : reach true = 3 := rfl
    have hl : Remarks.nested (env.over x) (p + 1) m'.state.store
        = Remarks.nested (env.over y) (p + 1) m'.state.store :=
      remarks_nested_congr (hk.at?_eq (by omega)) _
    change Account.condition _ _ _ = Account.condition _ _ _
    rw [Account.condition, hs, hl]
    rfl

theorem account_mirrors (hk : Code.SharesPrefix k x y) (ht : table extended site.digit = some h)
    (hp : site.position + reach extended < k) (hm : m.Mirrors env x y place archive m')
    (hr : ∀ reporter ∈ env.reporter,
      Reporter.Steady reporter Snapshot.SameButLength place archive) :
    (account extended (env.over x) site m).toRemarks.Mirrors x y place
        (account extended (env.over y) site m').toRemarks ∧
      (account extended (env.over x) site m).completed
        = (account extended (env.over y) site m').completed := by
  by_cases h₇ : site.digit = 0x37
  case pos =>
    unfold account
    rw [h₇]
    exact dialogue_mirrors hm.state hm.console
  case neg =>
    by_cases h₉ : site.digit = 0x39
    case pos =>
      unfold account
      rw [h₉]
      exact report_mirrors hm hr
    case neg =>
      have he : account extended (env.over x) site m = account extended (env.over y) site m' :=
        account_congr hk ht hp hm.state h₇ h₉
      exact ⟨.of_eq (he ▸ rfl), he ▸ rfl⟩

theorem siteOf_mirrors (hk : Code.SharesPrefix k x y) (hs : m.state = m'.state)
    (hp : m.state.cursor < k) :
    Engine.siteOf (env.over x) m = Engine.siteOf (env.over y) m' := by
  have ha : (env.over x).code.at? m'.state.cursor = (env.over y).code.at? m'.state.cursor :=
    hk.at?_eq (hs ▸ hp)
  rw [Engine.siteOf, Engine.siteOf, hs, ha]

theorem closing?_mirrors (hk : Code.SharesPrefix k x y) (hs : m.state = m'.state)
    (hp : m.state.cursor < k) :
    Engine.closing? (env.over x) m = Engine.closing? (env.over y) m' := by
  have hx : m.state.cursor < (env.over x).code.size := hk.lt_left hp
  have hy : m'.state.cursor < (env.over y).code.size := hk.lt_right (hs ▸ hp)
  rw [Engine.closing?, Engine.closing?, if_pos hx, if_pos hy, siteOf_mirrors hk hs hp, hs]

theorem stop_le_of_closing? (hk : Code.SharesPrefix k x y) (hp : m.state.cursor < k) {span : Span}
    (h : Engine.closing? (env.over x) m = some span) : span.stop ≤ k := by
  have hx : m.state.cursor < (env.over x).code.size := hk.lt_left hp
  rw [Engine.closing?, if_pos hx] at h
  split at h
  case isFalse => cases h
  case isTrue =>
    have ⟨_, _, he⟩ := Option.map_eq_some_iff.mp h
    rw [← he]
    simp only
    omega

theorem whole_mirrors (hk : Code.SharesPrefix k x y) {span : Span} (hs : span.stop ≤ k) :
    Engine.Whole (env.over x) span ↔ Engine.Whole (env.over y) span := by
  have hx := hk.left
  have hy := hk.right
  change (span.start ≤ span.stop ∧ span.stop ≤ x.size) ↔ (span.start ≤ span.stop ∧ span.stop ≤ y.size)
  omega

theorem outline_mirrors (hk : Code.SharesPrefix k x y) (hs : m.state = m'.state)
    (hc : m.world.console = m'.world.console) (hp : m.state.cursor + reach extended < k) :
    outline extended (env.over x) m = outline extended (env.over y) m' := by
  have hp' : m.state.cursor < k := by omega
  have hsite : Engine.siteOf (env.over x) m = Engine.siteOf (env.over y) m' :=
    siteOf_mirrors hk hs hp'
  unfold outline
  rw [← hsite, hs, hc]
  split
  case isTrue => rfl
  case isFalse =>
    rw [← closing?_mirrors hk hs hp']
    cases hq : Engine.closing? (env.over x) m
    case some span =>
      have hw : Engine.Whole (env.over x) span ↔ Engine.Whole (env.over y) span :=
        whole_mirrors hk (stop_le_of_closing? hk hp' hq)
      simp only [hw]
    case none =>
      dsimp only
      cases ht : table extended (Engine.siteOf (env.over x) m).digit
      case none => rfl
      case some h =>
        have he : effectAt extended (env.over x) m = effectAt extended (env.over y) m' := by
          unfold effectAt
          rw [← hsite, hs, hc]
          exact effect_congr hk ht hp _ _ _
        rw [he]

theorem handed_mirrors (hm : m.Mirrors env x y place archive m') :
    (Engine.handed (env.over x) m).Mirrors env x y place archive (Engine.handed (env.over y) m') := by
  have hd : Remarks.Describes {} (env.over x) m (Engine.handed (env.over x) m) :=
    .before (describes_announce (env.over x) (Engine.siteOf (env.over x) m) m) (.silent rfl)
  have hd' : Remarks.Describes {} (env.over y) m' (Engine.handed (env.over y) m') :=
    .before (describes_announce (env.over y) (Engine.siteOf (env.over y) m') m') (.silent rfl)
  refine hm.remarks (.refl {}) hd hd' ?_ fun _ => ?_
  · rw [Engine.console_handed, Engine.console_handed, hm.console]
  · rw [Engine.state_handed, Engine.state_handed, hm.state]

theorem transcript_mirrors (hk : Code.SharesPrefix k x y) (hm : m.Mirrors env x y place archive m')
    (hr : ∀ reporter ∈ env.reporter,
      Reporter.Steady reporter Snapshot.SameButLength place archive)
    (hp : m.state.cursor + reach extended < k) :
    (transcript extended (env.over x) m).toRemarks.Mirrors x y place
        (transcript extended (env.over y) m').toRemarks ∧
      (transcript extended (env.over x) m).outcome = (transcript extended (env.over y) m').outcome := by
  have hp' : m.state.cursor < k := by omega
  have hsite : Engine.siteOf (env.over x) m = Engine.siteOf (env.over y) m' :=
    siteOf_mirrors hk hm.state hp'
  unfold transcript
  rw [← hsite, ← closing?_mirrors hk hm.state hp']
  split
  case isTrue => exact ⟨.refl _, rfl⟩
  case isFalse =>
    cases hq : Engine.closing? (env.over x) m
    case some span =>
      have hl : (env.over x).code.spoken span = (env.over y).code.spoken span := by
        have hs : (env.over x).code.slice? span = (env.over y).code.slice? span :=
          hk.slice?_eq (stop_le_of_closing? hk hp' hq)
        rw [Code.spoken, Code.spoken, hs]
      exact ⟨.of_eq (by simp only [hl]), rfl⟩
    case none =>
      dsimp only
      split
      case isFalse => exact ⟨.refl _, rfl⟩
      case isTrue =>
        cases ht : table extended (Engine.siteOf (env.over x) m).digit
        case none => exact ⟨.refl _, rfl⟩
        case some h =>
          obtain ⟨ha, hd⟩ := account_mirrors hk ht hp (handed_mirrors hm) hr
          exact ⟨ha, by simp only [Option.isSome_some, ↓reduceIte, hd]⟩

-- A digit that is far enough from the end of what two codes share is taken in the same way.
theorem step_mirrors (hk : Code.SharesPrefix k x y) (hm : m.Mirrors env x y place archive m')
    (hr : ∀ reporter ∈ env.reporter,
      Reporter.Steady reporter Snapshot.SameButLength place archive)
    (hp : m.state.cursor + reach extended < k) :
    (Engine.step (table extended) (env.over x) m).1.Mirrors env x y place archive
        (Engine.step (table extended) (env.over y) m').1 ∧
      (Engine.step (table extended) (env.over x) m).2
        = (Engine.step (table extended) (env.over y) m').2 := by
  have ho := step_outline extended (env.over x) m
  have ho' := step_outline extended (env.over y) m'
  have ht := step_transcript extended (env.over x) m
  have ht' := step_transcript extended (env.over y) m'
  have ⟨hq, he⟩ := transcript_mirrors hk hm hr hp
  rw [← outline_mirrors hk hm.state hm.console hp] at ho'
  refine ⟨hm.remarks hq ht.remarks ht'.remarks ?_ ?_, ?_⟩
  · rw [ho.console, ho'.console]
  · intro hw
    rw [ho.state, ho'.state, hw]
  · have hf := ho.fault.trans ho'.fault.symm
    cases hx : (Engine.step (table extended) (env.over x) m).2
    case error f =>
      rw [hx] at hf
      exact (eq_error_of_fault? hf.symm).symm
    case ok o =>
      rw [hx] at hf
      have ⟨o', hy⟩ := eq_ok_of_fault? hf.symm
      rw [hy, ht.outcome o hx, ht'.outcome o' hy, he]

-- No step, not even one that a fault stops, takes the cursor back.
theorem cursor_le_step (hm : Engine.Sound env m.state) (hc : m.state.cursor < env.code.size) :
    m.state.cursor ≤ (Engine.step (table extended) env m).1.state.cursor := by
  have hz : env.code.size ≤ 0x4000000000000000 := env.code.size_le
  rw [(step_outline extended env m).state]
  unfold outline
  repeat' split
  case h_2.isTrue =>
    have hn : (effectAt extended env m).skipped ≤ 2 := by
      rw [effectAt, effect_skipped]
      repeat' split
      all_goals decide
    have hs := State.skip_cursor_eq_add (n := (effectAt extended env m).skipped) hm.cursor (by omega)
    change m.state.cursor ≤ (m.state.skip (effectAt extended env m).skipped).cursor
    omega
  all_goals exact Int.le_refl _

end Library

namespace Engine

-- Digits that two runs take in the same way.
structure Dispatch.Mirrors (env : Environment) (x y : Code) (place : Bytes → Bytes → Prop)
    (archive : Archive) (d d' : Dispatch) : Prop where
  site    : d.site = d'.site
  outcome : d.outcome = d'.outcome
  after   : d.after.Mirrors env x y place archive d'.after

-- The digits that a run takes before a position.
def Run.before (r : Run) (q : Int) : List Dispatch :=
  r.dispatches.filter (·.site.position < q)

-- The fault that stops a run before a position, if one does.
def Run.stop? (r : Run) (q : Int) : Option Fault :=
  match r.ending with
  | .crashed fault => if r.machine.state.cursor < q then some fault else none
  | _              => none

-- Runs that cannot be told apart, except by the length of the code, before a position.
structure Run.Mirrors (env : Environment) (x y : Code) (place : Bytes → Bytes → Prop)
    (archive : Archive) (q : Int) (r r' : Run) : Prop where
  dispatches : List.Forall₂ (Dispatch.Mirrors env x y place archive) (r.before q) (r'.before q)
  stop       : r.stop? q = r'.stop? q
  stopped    : r.stop? q ≠ none → r.machine.Mirrors env x y place archive r'.machine

end Engine

namespace Library

variable {extended : Bool} {env : Environment} {x y : Code} {place : Bytes → Bytes → Prop}
  {archive : Archive} {m m' : Machine} {k : Nat} {r r' : Engine.Run} {q : Int}

theorem forward (hm : Engine.Sound env m.state) : Engine.Forward (table extended) env m :=
  (clear extended env m).forward (table_skips extended) hm

theorem sound_advance {after : Machine} {outcome : Engine.Outcome} (hm : Engine.Sound env m.state)
    (hc : m.state.cursor < env.code.size)
    (h : Engine.step (table extended) env m = (after, .ok outcome)) :
    Engine.Sound env (Engine.advance after).state :=
  hm.step (table_skips extended) h hc (forward hm .refl hc h)

theorem finish_stop? (hc : q ≤ m.state.cursor) : (Engine.finish env m).stop? q = none := by
  have hf := Engine.finish_finished env m
  generalize Engine.finish env m = r at hf ⊢
  cases hf
  case broken _ _ hst _ =>
    have hq : ¬ m.state.cursor < q := Int.not_lt.mpr hc
    simp [Engine.Run.stop?, hst, hq]
  all_goals rfl

-- Nothing happens before the cursor.
theorem nothing_before (hr : Engine.Runs (table extended) env m r) (hm : Engine.Sound env m.state)
    (hq : q ≤ m.state.cursor) : r.before q = [] ∧ r.stop? q = none := by
  constructor
  · refine List.filter_eq_nil_iff.mpr fun d hd => ?_
    have hi := ((forward hm).ascends hr).inside d hd
    simp only [decide_eq_true_eq]
    omega
  · induction hr
    case finish => exact finish_stop? hq
    case crash m _ _ hc h =>
      have hl : m.state.cursor ≤ (Engine.step (table extended) env m).1.state.cursor :=
        cursor_le_step hm hc
      rw [h] at hl
      exact if_neg (Int.not_lt.mpr (Int.le_trans hq hl))
    case step hc h _ hi =>
      have hl := forward hm .refl hc h
      exact hi (sound_advance hm hc h) (by omega)

theorem mirrors_behind (hx : r.before q = [] ∧ r.stop? q = none)
    (hy : r'.before q = [] ∧ r'.stop? q = none) : r.Mirrors env x y place archive q r' where
  dispatches := by
    rw [hx.left, hy.left]
    exact .nil
  stop       := hx.right.trans hy.right.symm
  stopped    := absurd hx.right

theorem mirrors_advance (hm : m.Mirrors env x y place archive m') :
    (Engine.advance m).Mirrors env x y place archive (Engine.advance m') where
  state   := by rw [Engine.advance, Engine.advance, hm.state]
  console := hm.console
  printed := hm.printed
  archive := hm.archive

theorem mirrors_cons {d d' : Engine.Dispatch} (hd : d.Mirrors env x y place archive d')
    (hr : r.Mirrors env x y place archive q r') :
    Engine.Run.Mirrors env x y place archive q { r with dispatches := d :: r.dispatches }
      { r' with dispatches := d' :: r'.dispatches } where
  dispatches := by
    unfold Engine.Run.before
    rw [List.filter_cons, List.filter_cons, hd.site]
    split
    case isTrue  => exact .cons hd hr.dispatches
    case isFalse => exact hr.dispatches
  stop       := hr.stop
  stopped    := hr.stopped

-- As long as the cursor is far enough from the end of what the codes share, the two runs take a digit
-- together. From there on neither comes back.
theorem runs_mirror (hk : Code.SharesPrefix k x y)
    (hr : ∀ reporter ∈ env.reporter,
      Reporter.Steady reporter Snapshot.SameButLength place archive)
    (h : Engine.Runs (table extended) (env.over x) m r)
    (h' : Engine.Runs (table extended) (env.over y) m' r')
    (hm : m.Mirrors env x y place archive m')
    (hx : Engine.Sound (env.over x) m.state) (hy : Engine.Sound (env.over y) m'.state) :
    r.Mirrors env x y place archive (k - reach extended) r' := by
  have hl := hk.left
  have behind {m m' : Machine} {r r' : Engine.Run}
      (h : Engine.Runs (table extended) (env.over x) m r)
      (h' : Engine.Runs (table extended) (env.over y) m' r')
      (hm : m.Mirrors env x y place archive m')
      (hx : Engine.Sound (env.over x) m.state) (hy : Engine.Sound (env.over y) m'.state)
      (hq : ¬ m.state.cursor + reach extended < k) :
      r.Mirrors env x y place archive (k - reach extended) r' :=
    mirrors_behind (nothing_before h hx (by omega)) (nothing_before h' hy (by rw [← hm.state]; omega))
  have inside {m m' : Machine} (hm : m.Mirrors env x y place archive m')
      (hq : m.state.cursor + reach extended < k) : m'.state.cursor < (env.over y).code.size :=
    hk.lt_right (by rw [← hm.state]; omega)
  induction h generalizing m' r'
  case finish m hb =>
    refine behind (.finish hb) h' hm hx hy ?_
    change ¬ m.state.cursor < x.size at hb
    omega
  case crash m after fault hc hs =>
    by_cases hq : m.state.cursor + reach extended < k
    case neg => exact behind (.crash hc hs) h' hm hx hy hq
    case pos =>
      have ⟨hm', ho⟩ := step_mirrors hk hm hr hq
      rw [hs] at hm' ho
      cases h'
      case finish hb => exact absurd (inside hm hq) hb
      case step hs' => cases hs' ▸ ho
      case crash hs' =>
        rw [hs'] at hm' ho
        cases ho
        have hf := congrArg
          (fun s : State => if s.cursor < k - reach extended then some fault else none) hm'.state
        exact ⟨.nil, hf, fun _ => hm'⟩
  case step m after outcome r hc hs hrest hi =>
    by_cases hq : m.state.cursor + reach extended < k
    case neg => exact behind (.step hc hs hrest) h' hm hx hy hq
    case pos =>
      have ⟨hm', ho⟩ := step_mirrors hk hm hr hq
      rw [hs] at hm' ho
      cases h'
      case finish hb => exact absurd (inside hm hq) hb
      case crash hs' => cases hs' ▸ ho
      case step after' outcome' r' hrest' hc' hs' =>
        rw [hs'] at hm' ho
        cases ho
        have hsite : Engine.siteOf (env.over x) m = Engine.siteOf (env.over y) m' :=
          siteOf_mirrors hk hm.state (by omega)
        exact mirrors_cons ⟨hsite, rfl, hm'⟩ <|
          hi hrest' (mirrors_advance hm') (sound_advance hx hc hs) (sound_advance hy hc' hs')

-- Two codes that start with the same bytes cannot be told apart before their runs come close to where
-- they part. The reporter may look at the length of the code as long as its success does not depend
-- on it. What is printed and reported shows nothing else of the rest of a code.
theorem bounded_lookahead (extended : Bool) (env : Environment) (world : World)
    (hk : Code.SharesPrefix k x y)
    (hr : ∀ reporter ∈ env.reporter,
      Reporter.Steady reporter Snapshot.SameButLength place world.archive) :
    let m : Machine := ⟨State.start env.settings, world⟩
    ∃ r r', m.run? (table extended) (env.over x) = some r ∧
      m.run? (table extended) (env.over y) = some r' ∧
      r.Mirrors env x y place world.archive (k - reach extended) r' := by
  intro m
  have ⟨r, h⟩ := exists_runs extended (env.over x) world
  have ⟨r', h'⟩ := exists_runs extended (env.over y) world
  have hm : m.Mirrors env x y place world.archive m :=
    { state   := rfl
      console := rfl
      printed := List.forall₂_same.mpr fun _ _ => .same
      archive := ⟨[], [], .nil, (env.deliver_nil _).symm, (env.deliver_nil _).symm⟩ }
  exact ⟨r, r', h.run?_eq, h'.run?_eq,
    runs_mirror hk hr h h' hm (Engine.sound_start (env.over x)) (Engine.sound_start (env.over y))⟩

-- `39300` and `393007` make a variable and a report in the same way. The reports are files that differ
-- in the length of the code.
theorem bounded_lookahead_report :
    let env : Environment := { Environment.plain (Code.ofArray #[]) {} with
      reporter := some (Report.Destination.ofNames [] []).reporter }
    let x := Code.ofArray #[0x33, 0x39, 0x33, 0x30, 0x30]
    let y := Code.ofArray #[0x33, 0x39, 0x33, 0x30, 0x30, 0x37]
    let m : Machine := ⟨State.start env.settings, default⟩
    Code.SharesPrefix 5 x y ∧ ∃ r r', m.run? (table true) (env.over x) = some r ∧
      m.run? (table true) (env.over y) = some r' ∧
      r.Mirrors env x y Eq m.world.archive 2 r' := by
  intro env x y m
  have hk : Code.SharesPrefix 5 x y := ⟨by decide, by decide, by decide⟩
  have hl (s s' : Snapshot) (h : s.SameButLength s') : s.position = s'.position := by rw [h]
  refine ⟨hk, bounded_lookahead true env default hk ?_⟩
  rintro _ ⟨rfl⟩
  exact Report.Destination.steady _ hl _

end Library
end Denary
