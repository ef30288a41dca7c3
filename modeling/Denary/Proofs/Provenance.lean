import Mathlib.Data.List.Forall2
import Denary.Proofs.Cursor
import Denary.Proofs.Text

namespace Denary

-- The number that an integer made at a position holds: the digit behind it, if there is one.
def seed (code : Code) (p : Nat) : Nat :=
  match (code.at? (p + 1 : Nat)).filter Text.isDigit with
  | some d => Text.digitValue d
  | none   => p % 10

-- Where a variable comes from: the digit at a position that made it. The name tells the digit and
-- the position.
inductive Origin (extended : Bool) (code : Code) (p : Nat) : Variable → Prop
  | int
      (digit : code.at? p = some 0x33) :
      Origin extended code p ⟨ascii "var_3_" ++ Decimal.natural p, .int (Int64.ofNat (seed code p))⟩
  | text
      (digit : code.at? p = some 0x34) :
      Origin extended code p
        ⟨ascii "var_4_" ++ Decimal.natural p, .text (ascii "text_" ++ Decimal.natural p)⟩
  | bool
      (digit : code.at? p = some 0x35) :
      Origin extended code p ⟨ascii "var_5_" ++ Decimal.natural p, .bool (p % 2 == 0)⟩
  | float
      (digit : code.at? p = some 0x36) :
      Origin extended code p
        ⟨ascii "var_6_" ++ Decimal.natural p, .float (Float.ofNat (p % 100) / 10)⟩
  | array
      (digit   : code.at? p = some 0x37)
      (library : extended = true) :
      Origin extended code p
        ⟨ascii "var_7_" ++ Decimal.natural p,
          .array ((List.range 5).map fun i => Int64.ofNat ((p + i) % 10))⟩
  | readInt {n : Int64}
      (digit    : code.at? p = some 0x37)
      (position : p % 10 = 0) :
      Origin extended code p ⟨ascii "input_num_" ++ Decimal.natural p, .int n⟩
  | readText {t : Bytes}
      (digit    : code.at? p = some 0x37)
      (position : p % 10 = 1) :
      Origin extended code p ⟨ascii "input_str_" ++ Decimal.natural p, .text t⟩
  | random {n : Nat}
      (digit    : code.at? p = some 0x37)
      (position : p % 10 = 5)
      (range    : n < 100) :
      Origin extended code p ⟨ascii "random_" ++ Decimal.natural p, .int (Int64.ofNat n)⟩
  | result {x : Float}
      (digit : code.at? p = some 0x38) :
      Origin extended code p ⟨ascii "result_" ++ Decimal.natural p, .float x⟩
  | strings {t : Bytes}
      (digit   : code.at? p = some 0x36)
      (library : extended = true) :
      Origin extended code p ⟨ascii "str_result_" ++ Decimal.natural p, .text t⟩

theorem Code.exists_of_at? {code : Code} {q : Int} {d : UInt8} (h : code.at? q = some d) :
    ∃ p : Nat, q = p ∧ p < code.size := by
  unfold at? at h
  split at h
  case isTrue => cases h
  case isFalse hq =>
    have ⟨hp, _⟩ := Array.getElem?_eq_some_iff.mp h
    exact ⟨q.toNat, by omega, hp⟩

def Kind.digit : Kind → UInt8
  | int   => 0x33
  | text  => 0x34
  | bool  => 0x35
  | float => 0x36
  | array => 0x37

theorem Kind.eq_digit_of_ofDigit? {d : UInt8} {kind : Kind} (h : ofDigit? d = some kind) :
    d = kind.digit := by
  unfold ofDigit? at h
  split at h
  case isFalse => cases h
  case isTrue hd =>
    have ⟨hl, _⟩ := Bool.and_eq_true_iff.mp hd
    have hl : 0x33 ≤ d.toNat := UInt8.le_iff_toNat_le.mp (of_decide_eq_true hl)
    unfold ofTag? Text.digitValue at h
    apply UInt8.toNat_inj.mp
    split at h <;> cases h
    all_goals
      rename_i ht
      simp [digit]
      omega

theorem Variable.createdName_eq (kind : Kind) (p : Nat) :
    createdName kind.tag p = ascii "var_" ++ [kind.digit] ++ ascii "_" ++ Decimal.natural p := by
  have ht : Decimal.integer kind.tag = [kind.digit] := by
    cases kind <;> simp [Decimal.integer, Decimal.natural, Text.digit, Kind.tag, Kind.digit]
  rw [createdName, ht, Decimal.integer_natCast]

theorem createdValue_int (code : Code) (p : Nat) :
    Variable.createdValue code .int p = .int (Int64.ofNat (seed code p)) := by
  unfold Variable.createdValue seed
  have hp : ((p + 1 : Nat) : Int) = (p : Int) + 1 := rfl
  rw [hp]
  cases hd : code.at? ((p : Int) + 1)
  case none   => rfl
  case some d => cases ht : Text.isDigit d <;> simp [ht, Option.filter]; rfl

namespace Origin

variable {extended : Bool} {code : Code} {p q : Nat} {v w : Variable}

theorem of_created {d : UInt8} {kind : Kind} (hd : code.at? p = some d)
    (hk : Kind.ofDigit? d = some kind) (ha : kind = .array → extended = true) :
    Origin extended code p (Variable.created code kind p) := by
  have ⟨p', hp, hs⟩ := Code.exists_of_at? hd
  have hz : code.size ≤ 0x4000000000000000 := code.size_le
  rw [Kind.eq_digit_of_ofDigit? hk] at hd
  unfold Variable.created
  rw [Variable.createdName_eq]
  cases kind
  case int =>
    rw [createdValue_int]
    exact .int hd
  case text =>
    unfold Variable.createdValue
    rw [Decimal.integer_natCast]
    exact .text hd
  case bool =>
    have hm : (p : Int).tmod 2 = (p % 2 : Nat) := rfl
    have hb : ((p : Int).tmod 2 == 0) = (p % 2 == 0) := by
      rw [hm]
      exact decide_eq_decide.mpr Int.natCast_eq_zero
    unfold Variable.createdValue
    rw [hb]
    exact .bool hd
  case float => exact .float hd
  case array =>
    have hi (i : Nat) (h : i < 5) :
        Int64.ofInt ((wrap64 (p + i)).tmod 10) = Int64.ofNat ((p + i) % 10) := by
      rw [wrap64_eq_self (by omega) (by omega)]
      rfl
    have hr : (List.range 5).map (fun (i : Nat) => Int64.ofInt ((wrap64 (p + i)).tmod 10))
        = (List.range 5).map fun i => Int64.ofNat ((p + i) % 10) :=
      List.map_congr_left fun i h => hi i (List.mem_range.mp h)
    unfold Variable.createdValue Variable.newArraySize
    rw [hr]
    exact .array hd (ha rfl)

-- The number that a name ends in.
def positionOf (name : Bytes) : Nat :=
  Decimal.valueOf (name.reverse.takeWhile Text.isDigit).reverse

theorem positionOf_append (stem : Bytes) (p : Nat) :
    positionOf (stem ++ [0x5F] ++ Decimal.natural p) = p := by
  have hd : ∀ b ∈ (Decimal.natural p).reverse, Text.isDigit b = true :=
    fun b hb => Decimal.isDigit_of_mem_natural (List.mem_reverse.mp hb)
  have ht : (stem ++ [0x5F]).reverse.takeWhile Text.isDigit = [] := by
    rw [List.reverse_append]
    rfl
  unfold positionOf
  rw [List.reverse_append, List.takeWhile_append_of_pos hd, ht, List.append_nil,
    List.reverse_reverse, Decimal.valueOf_natural]

theorem positionOf_name (h : Origin extended code p v) : positionOf v.name = p := by
  cases h
  case int      => exact positionOf_append (ascii "var_3") p
  case text     => exact positionOf_append (ascii "var_4") p
  case bool     => exact positionOf_append (ascii "var_5") p
  case float    => exact positionOf_append (ascii "var_6") p
  case array    => exact positionOf_append (ascii "var_7") p
  case readInt  => exact positionOf_append (ascii "input_num") p
  case readText => exact positionOf_append (ascii "input_str") p
  case random   => exact positionOf_append (ascii "random") p
  case result   => exact positionOf_append (ascii "result") p
  case strings  => exact positionOf_append (ascii "str_result") p

-- A name is a single word.
theorem word_name (h : Origin extended code p v) :
    Text.space ∉ v.name ∧ Text.newline ∉ v.name := by
  have hp {b : UInt8} (hb : Text.isDigit b = false) : b ∉ Decimal.natural p := by
    intro hm
    cases hb.symm.trans (Decimal.isDigit_of_mem_natural hm)
  have hw {stem : Bytes} (hs : Text.space ∉ stem ∧ Text.newline ∉ stem) :
      Text.space ∉ stem ++ Decimal.natural p ∧ Text.newline ∉ stem ++ Decimal.natural p := by
    simp only [List.mem_append, not_or]
    exact ⟨⟨hs.left, hp rfl⟩, hs.right, hp rfl⟩
  cases h
  all_goals exact hw (by decide)

-- As the name of a variable tells its position, variables from different positions have different
-- names.
theorem nodup_names {ps : List Nat} {vs : List Variable}
    (h : List.Forall₂ (Origin extended code) ps vs) (hp : ps.Pairwise (· < ·)) :
    (vs.map (·.name)).Nodup := by
  have hm : (vs.map (·.name)).map positionOf = ps := by
    induction h
    case nil          => rfl
    case cons ho _ hi => rw [List.map_cons, List.map_cons, ho.positionOf_name, hi hp.of_cons]
  have hn : ps.Nodup := hp.imp Nat.ne_of_lt
  exact List.Pairwise.of_map positionOf (fun a b h he => h (he ▸ rfl)) (hm ▸ hn)

end Origin

-- A text that can be kept: it is not too long, and it fits on one line.
def Value.Tidy : Value → Prop
  | .text t => t.length ≤ Value.maxTextLength ∧ Text.OneLine t
  | _       => True

-- A variable that can be traced back to a position.
structure Traced (extended : Bool) (code : Code) (p : Nat) (v : Variable) : Prop where
  origin : Origin extended code p v
  tidy   : v.value.Tidy

section

variable {extended : Bool} {code : Code} {p : Nat} {v : Variable}

theorem Traced.of_created {d : UInt8} {kind : Kind} (hd : code.at? p = some d)
    (hk : Kind.ofDigit? d = some kind) (ha : kind = .array → extended = true) :
    Traced extended code p (Variable.created code kind p) where
  origin := .of_created hd hk ha
  tidy   := by
    have ⟨p', hp, hs⟩ := Code.exists_of_at? hd
    have hz : code.size ≤ 0x4000000000000000 := code.size_le
    have ht : Text.OneLine (ascii "text_") := by decide
    cases kind
    case int =>
      unfold Variable.created
      rw [createdValue_int]
      trivial
    case text =>
      have hb : 0x4000000000000000 < Nat.pow 10 (18 + 1) := by decide
      have hl : (Decimal.natural p).length ≤ 18 + 1 := Decimal.length_natural_le (by omega)
      have h₅ : (ascii "text_").length = 5 := rfl
      unfold Variable.created Variable.createdValue
      rw [Decimal.integer_natCast]
      refine ⟨?_, ht.append <| Decimal.oneLine_natural p⟩
      rw [List.length_append, h₅, Value.maxTextLength]
      omega
    all_goals trivial

variable {t : Terminal} {site : Site} {entries : List Variable} {console : Console} {h : Handler}

theorem tidy_render {v : Variable} (hv : v.value.Tidy) (hk : v.kind = .text) :
    Text.OneLine v.value.render := by
  obtain ⟨name, value⟩ := v
  cases value <;> cases hk
  exact hv.right

theorem mem_newest {n : Int} {kinds : List Kind} (hv : v ∈ Variable.newest n kinds entries) :
    v ∈ entries ∧ kinds.contains v.kind = true := by
  have hv := List.mem_filter.mp (List.mem_of_mem_take hv)
  exact ⟨List.mem_reverse.mp hv.left, hv.right⟩

theorem traced_nested {q : Int} (hv : v ∈ Variable.nested code q) :
    ∃ p, Traced true code p v := by
  unfold Variable.nested at hv
  split at hv
  case h_2 => cases hv
  case h_1 kind hk =>
    have ⟨d, hd, hk⟩ := Option.bind_eq_some_iff.mp hk
    have ⟨p, hp, _⟩ := Code.exists_of_at? hd
    rw [hp] at hd hv
    cases List.mem_singleton.mp hv
    exact ⟨p, .of_created hd hk fun _ => rfl⟩

theorem traced_calculated (hd : code.at? p = some 0x38) (hv : v ∈ Effect.calculated code p entries) :
    Traced extended code p v := by
  unfold Effect.calculated at hv
  split at hv
  case h_2 => cases hv
  case h_1 =>
    cases List.mem_singleton.mp hv
    unfold Opcode.resultName
    rw [Decimal.integer_natCast]
    exact ⟨.result hd, trivial⟩

theorem traced_written (hd : code.at? p = some 0x36) (he : ∀ v ∈ entries, v.value.Tidy)
    (hv : v ∈ Effect.written p entries) : Traced true code p v := by
  have hr {v : Variable} (hv : v ∈ Variable.newest 2 [.text] entries) :
      Text.OneLine v.value.render := by
    have ⟨hm, hk⟩ := mem_newest hv
    exact tidy_render (he v hm) (by simpa using hk)
  unfold Effect.written at hv
  split at hv
  case h_2 => cases hv
  case h_1 newest second _ hn =>
    have h₁ := hr (hn ▸ List.mem_cons_self : newest ∈ _)
    have h₂ := hr (hn ▸ List.mem_cons_of_mem _ List.mem_cons_self : second ∈ _)
    split at hv
    case h_2 => cases hv
    case h_1 ht =>
      cases List.mem_singleton.mp hv
      rw [Decimal.integer_natCast]
      exact ⟨.strings hd rfl, TextOperation.evaluate_ok ht h₂ h₁⟩

theorem traced_enteredInt (hd : code.at? p = some 0x37) (hp : p % 10 = 0) {answer : Except Error Bytes}
    (hv : v ∈ Effect.enteredInt p answer) : Traced extended code p v := by
  unfold Effect.enteredInt at hv
  split at hv
  case h_2 => cases hv
  case h_1 =>
    split at hv
    case h_2 => cases hv
    case h_1 =>
      cases List.mem_singleton.mp hv
      rw [Decimal.integer_natCast]
      exact ⟨.readInt hd hp, trivial⟩

theorem traced_enteredText (hd : code.at? p = some 0x37) (hp : p % 10 = 1)
    (hv : v ∈ Effect.enteredText p console.readLine.1) : Traced extended code p v := by
  unfold Effect.enteredText at hv
  split at hv
  case h_2 => cases hv
  case h_1 line hl =>
    split at hv
    case isFalse => cases hv
    case isTrue hn =>
      cases List.mem_singleton.mp hv
      rw [Decimal.integer_natCast]
      exact ⟨.readText hd hp, hn, Console.readLine_oneLine hl⟩

theorem traced_drawn (hd : code.at? p = some 0x37) (hp : p % 10 = 5)
    (hv : v ∈ Effect.drawn p (console.random Opcode.randomLimit).1) : Traced extended code p v := by
  have hr : (console.random Opcode.randomLimit).1
      = .ok ((Console.drawUpTo _ _ console.draws).1 % 100) := rfl
  rw [hr] at hv
  cases List.mem_singleton.mp hv
  rw [Decimal.integer_natCast]
  exact ⟨.random hd hp (Nat.mod_lt _ (by decide)), trivial⟩

theorem traced_dialogue (hd : code.at? p = some 0x37)
    (hv : v ∈ (Effect.dialogue t p console).offered) : Traced extended code p v := by
  have hp {op : DialogueOperation}
      (ho : DialogueOperation.ofNumber? (DialogueOperation.numberAt p) = some op) :
      ((p % 10 : Nat) : Int) = op.number := DialogueOperation.ofNumber?_eq_some_iff.mp ho
  unfold Effect.dialogue at hv
  split at hv <;> rename_i ho
  case h_1 => exact traced_enteredInt hd (Int.ofNat_inj.mp (hp ho)) hv
  case h_2 => exact traced_enteredText hd (Int.ofNat_inj.mp (hp ho)) hv
  case h_4 => exact traced_drawn hd (Int.ofNat_inj.mp (hp ho)) hv
  all_goals cases hv

-- Whatever a handler offers to a tidy store can be traced back. In the core library, it comes from
-- the position of the digit itself.
theorem traced_effect (ht : Library.table extended site.digit = some h)
    (hd : code.at? site.position = some site.digit) (he : ∀ v ∈ entries, v.value.Tidy)
    (hv : v ∈ (Library.effect extended code t site entries console).offered) :
    ∃ p : Nat, Traced extended code p v ∧ (extended = false → p = site.position) := by
  have ⟨p, hp, _⟩ := Code.exists_of_at? hd
  obtain ⟨position, digit⟩ := site
  dsimp only at hp hd ht
  subst hp
  cases Library.binds_of_table ht
  case int      => exact ⟨p, List.mem_singleton.mp hv ▸ .of_created hd rfl nofun, fun _ => rfl⟩
  case text     => exact ⟨p, List.mem_singleton.mp hv ▸ .of_created hd rfl nofun, fun _ => rfl⟩
  case bool     => exact ⟨p, List.mem_singleton.mp hv ▸ .of_created hd rfl nofun, fun _ => rfl⟩
  case float    => exact ⟨p, List.mem_singleton.mp hv ▸ .of_created hd rfl nofun, fun _ => rfl⟩
  case dialogue => exact ⟨p, traced_dialogue hd hv, fun _ => rfl⟩
  case math     => exact ⟨p, traced_calculated hd hv, fun _ => rfl⟩
  case strings  => exact ⟨p, traced_written hd he hv, nofun⟩
  case report   => cases hv
  case loop     =>
    have ⟨body, hb, hv⟩ := List.mem_flatten.mp hv
    rw [List.eq_of_mem_replicate hb, Opcode.loopBody, List.mem_append] at hv
    rcases hv with hv | hv
    all_goals
      have ⟨q, hq⟩ := traced_nested hv
      exact ⟨q, hq, nofun⟩
  case condition =>
    have hv : v ∈ if Test.holdsAt p then Variable.nested code (p + 1) else [] := hv
    split at hv
    case isFalse => cases hv
    case isTrue =>
      have ⟨q, hq⟩ := traced_nested hv
      exact ⟨q, hq, nofun⟩

theorem length_dialogue_offered_le : (Effect.dialogue t p console).offered.length ≤ 1 := by
  unfold Effect.dialogue
  split
  case h_1 =>
    dsimp only [Effect.enteredInt]
    repeat' split
    all_goals simp
  case h_2 =>
    dsimp only [Effect.enteredText]
    repeat' split
    all_goals simp
  case h_4 =>
    dsimp only [Effect.drawn]
    split <;> simp
  all_goals simp

theorem length_effect_offered_le (ht : Library.table false site.digit = some h)
    (hd : code.at? site.position = some site.digit) :
    (Library.effect false code t site entries console).offered.length ≤ 1 := by
  have ⟨p, hp, _⟩ := Code.exists_of_at? hd
  obtain ⟨position, digit⟩ := site
  dsimp only at hp ht
  subst hp
  cases Library.binds_of_table ht
  case dialogue => exact length_dialogue_offered_le
  case math =>
    change (Effect.calculated code p entries).length ≤ 1
    unfold Effect.calculated
    split <;> simp
  case report => exact Nat.zero_le _
  all_goals exact Nat.le_refl _

end

section

variable {extended : Bool} {env : Environment} {m : Machine} {r : Engine.Run}

-- All variables of a state can be traced back.
def State.Traced (extended : Bool) (code : Code) (s : State) : Prop :=
  ∀ v ∈ s.store.toList, ∃ p, Denary.Traced extended code p v

theorem State.Traced.tidy {s : State} {code : Code} (h : s.Traced extended code) :
    ∀ v ∈ s.store.toList, v.value.Tidy := by
  intro v hv
  have ⟨_, hp⟩ := h v hv
  exact hp.tidy

theorem State.Traced.word_names {s : State} {code : Code} (h : s.Traced extended code) :
    ∀ v ∈ s.store.toList, Text.space ∉ v.name ∧ Text.newline ∉ v.name := by
  intro v hv
  have ⟨_, hp⟩ := h v hv
  exact hp.origin.word_name

theorem step_traced (hm : m.state.Traced extended env.code) :
    (Engine.step (Library.table extended) env m).1.state.Traced extended env.code := by
  intro v hv
  rcases Library.step_store extended env m with hs | ⟨⟨h, ht⟩, hs⟩
  · exact hm v (hs ▸ hv)
  · rw [hs] at hv
    rcases Bounded.mem_offer hv with hv | hv
    · exact hm v hv
    · have ⟨p, hp, _⟩ := traced_effect ht (Library.at?_of_table ht) hm.tidy hv
      exact ⟨p, hp⟩

theorem runs_traced (hr : Engine.Runs (Library.table extended) env m r)
    (hm : m.state.Traced extended env.code) :
    ∀ m' ∈ r.machines, m'.state.Traced extended env.code := by
  refine hr.forall_machines (I := fun m => m.state.Traced extended env.code) id ?_ ?_ hm
  · intro m after answer hm _ hs
    have ha : Denary.State.Traced extended env.code (Engine.step _ env m).1.state := step_traced hm
    rw [hs] at ha
    exact ⟨ha, fun _ => ha⟩
  · intro m hm v hv
    rw [Engine.finish_store] at hv
    exact hm v hv

-- The variables of a state come from increasing positions, all of them before a limit.
def State.Ordered (code : Code) (limit : Int) (s : State) : Prop :=
  ∃ ps : List Nat, ps.Pairwise (· < ·) ∧ (∀ p ∈ ps, (p : Int) < limit) ∧
    List.Forall₂ (Origin false code) ps s.store.toList

namespace State.Ordered

variable {code : Code} {limit : Int} {s s' : State}

theorem start (settings : Settings) : (State.start settings).Ordered code limit :=
  ⟨[], .nil, nofun, .nil⟩

theorem mono (h : s.Ordered code limit) {limit' : Int} (hl : limit ≤ limit')
    (hs : s'.store = s.store) : s'.Ordered code limit' := by
  have ⟨ps, hp, hb, ho⟩ := h
  exact ⟨ps, hp, fun p hm => Int.lt_of_lt_of_le (hb p hm) hl, hs ▸ ho⟩

theorem push {q : Nat} (h : s.Ordered code q) {v : Variable} (hv : Origin false code q v)
    (hs : s'.store = s.store.offer [v]) : s'.Ordered code (q + 1) := by
  have ⟨ps, hp, hb, ho⟩ := h
  have hp' : (ps ++ [q]).Pairwise (· < ·) := by
    refine List.pairwise_append.mpr ⟨hp, List.pairwise_singleton _ q, fun p hm p' hm' => ?_⟩
    exact List.mem_singleton.mp hm' ▸ Int.ofNat_lt.mp (hb p hm)
  have ho' : List.Forall₂ (Origin false code) (ps ++ [q]) (s.store.toList ++ [v]) :=
    List.rel_append ho (.cons hv .nil)
  refine ⟨(ps ++ [q]).take s.store.capacity, hp'.sublist (List.take_sublist _ _), ?_, ?_⟩
  · intro p hm
    rcases List.mem_append.mp (List.mem_of_mem_take hm) with hm | hm
    · have := hb p hm
      omega
    · cases List.mem_singleton.mp hm
      omega
  · rw [hs, Bounded.toList_offer]
    exact List.forall₂_take _ ho'

theorem nodup_names (h : s.Ordered code limit) : (s.store.toList.map (·.name)).Nodup := by
  have ⟨_, hp, _, ho⟩ := h
  exact Origin.nodup_names ho hp

end State.Ordered

theorem step_ordered (ht : m.state.Traced false env.code)
    (ho : m.state.Ordered env.code m.state.cursor) :
    (Engine.step (Library.table false) env m).1.state.Ordered env.code (m.state.cursor + 1) := by
  have hle : m.state.cursor ≤ m.state.cursor + 1 := by omega
  rcases Library.step_store false env m with hs | ⟨⟨h, hb⟩, hs⟩
  · exact ho.mono hle hs
  · have hd := Library.at?_of_table hb
    have hl : (Library.effectAt false env m).offered.length ≤ 1 := length_effect_offered_le hb hd
    have hv {v : Variable} (h : v ∈ (Library.effectAt false env m).offered) :=
      traced_effect hb hd ht.tidy h
    rcases ha : (Library.effectAt false env m).offered with _ | ⟨v, _ | _⟩
    · exact ho.mono hle (by rw [hs, ha, Bounded.offer_nil])
    · have ⟨p, hp, hq⟩ := hv (ha ▸ List.mem_cons_self)
      have hq : (p : Int) = m.state.cursor := hq rfl
      exact hq ▸ State.Ordered.push (hq ▸ ho) hp.origin (ha ▸ hs)
    · rw [ha] at hl
      simp at hl

-- What holds wherever the core library takes a digit.
structure Orderly (env : Environment) (m : Machine) : Prop where
  cursor  : 0 ≤ m.state.cursor
  traced  : m.state.Traced false env.code
  ordered : m.state.Ordered env.code m.state.cursor

theorem runs_ordered (hr : Engine.Runs (Library.table false) env m r) (hm : Orderly env m) :
    ∀ m' ∈ r.machines, ∃ limit, m'.state.Ordered env.code limit := by
  refine hr.forall_machines (I := Orderly env) (fun hm => ⟨_, hm.ordered⟩) ?_ ?_ hm
  · intro m after answer hm hc hs
    have hz : env.code.size ≤ 0x4000000000000000 := env.code.size_le
    have h₀ := hm.cursor
    have ha := step_ordered hm.traced hm.ordered
    have ht := step_traced hm.traced
    have hp := Library.step_cursor_core env m
    rw [hs] at ha ht hp
    dsimp only at hp
    have hn : (Engine.advance after).state.cursor = m.state.cursor + 1 := by
      rw [← hp]
      exact wrap64_eq_self (by omega) (by omega)
    exact ⟨⟨_, ha⟩, fun _ => ⟨by omega, ht, hn ▸ ha⟩⟩
  · intro m hm
    exact ⟨_, hm.ordered.mono (Int.le_refl _) (Engine.finish_store env m)⟩

-- Every variable comes from a digit of the code, in each state of each run. Texts are short and fit
-- on one line. In the core library, the variables stand in the order of their positions, so no name
-- is used twice.
theorem Library.run_provenance (extended : Bool) (env : Environment) (world : World) :
    let run (extended : Bool) :=
      Engine.run (Library.table extended) env ⟨State.start env.settings, world⟩
    (run extended).ending ≠ .runaway ∧
      (∀ m ∈ (run extended).machines, ∀ v ∈ m.state.store.toList,
        (∃ p, Origin extended env.code p v) ∧
        ∀ t, v.value = .text t → t.length ≤ 1000 ∧ Text.newline ∉ t) ∧
      ∀ m ∈ (run false).machines,
        (∃ ps : List Nat, ps.Pairwise (· < ·) ∧
          List.Forall₂ (Origin false env.code) ps m.state.store.toList) ∧
        (m.state.store.toList.map (·.name)).Nodup := by
  intro run
  have ⟨r, hr⟩ := Library.exists_runs extended env world
  have ⟨r', hr'⟩ := Library.exists_runs false env world
  have he : run extended = r := hr.run_eq
  have he' : run false = r' := hr'.run_eq
  rw [he, he']
  have ht := runs_traced hr nofun
  have ho := runs_ordered hr' ⟨Int.le_refl _, nofun, .start env.settings⟩
  refine ⟨hr.ending_ne_runaway, fun m hm v hv => ?_, fun m hm => ?_⟩
  · have ⟨p, hp, hv⟩ := ht m hm v hv
    refine ⟨⟨p, hp⟩, fun t h => ?_⟩
    rw [h] at hv
    exact hv
  · have ⟨_, ho⟩ := ho m hm
    have ⟨ps, hp, _, hf⟩ := ho
    exact ⟨⟨ps, hp, hf⟩, ho.nodup_names⟩

-- In `4474`, the core library makes three texts.
theorem Library.run_provenance_texts :
    let env := Environment.plain (Code.ofArray #[0x34, 0x34, 0x37, 0x34]) {}
    let r   := Engine.run (Library.table false) env ⟨State.start env.settings, default⟩
    r.machine ∈ r.machines ∧ (r.machine.state.store.toList.map (·.name)).Nodup := by
  intro env r
  have hm : r.machine ∈ r.machines := by simp [Engine.Run.machines]
  have h := Library.run_provenance false env default |>.right.right
  exact ⟨hm, (h r.machine hm).right⟩

end

end Denary
