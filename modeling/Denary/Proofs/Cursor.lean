import Denary.Proofs.Library
import Denary.Proofs.Run

namespace Denary

-- How far the cursor gets when skips are made one after another, if positions were unlimited. Those
-- that are not positive are not made.
def travel : List Int → Int
  | []      => 0
  | n :: ns => if 0 < n then n + travel ns else travel ns

theorem foldl_skip_cursor_congr {s s' : State} (h : s.cursor = s'.cursor) (ns : List Int) :
    (ns.foldl State.skip s).cursor = (ns.foldl State.skip s').cursor := by
  induction ns generalizing s s'
  case nil          => exact h
  case cons n ns hi => exact hi (by rw [State.skip_cursor, State.skip_cursor, h])

theorem wrap64_add (a b : Int) : wrap64 (wrap64 a + b) = wrap64 (a + b) :=
  Int.bmod_add_bmod

theorem wrap64_foldl_skip (s : State) (ns : List Int) (k : Int) :
    wrap64 ((ns.foldl State.skip s).cursor + k) = wrap64 (s.cursor + travel ns + k) := by
  induction ns generalizing s
  case nil => simp [travel]
  case cons n ns hi =>
    rw [List.foldl_cons, hi, State.skip_cursor]
    by_cases hn : 0 < n
    case neg => simp [travel, hn]
    case pos =>
      have ht : travel (n :: ns) = n + travel ns := by simp [travel, hn]
      rw [if_pos hn, ht, Int.add_assoc, wrap64_add]
      simp only [Int.add_assoc]

-- The largest position is the edge: whoever has to go beyond it starts again far behind.
theorem lt_wrap64_iff {p n : Int} (h₁ : 0 ≤ p) (h₂ : p < 0x4000000000000000) :
    p < wrap64 (p + n + 1) ↔ p + n % 0x10000000000000000 + 1 < 0x8000000000000000 := by
  unfold wrap64
  rw [Int.bmod_eq_emod]
  split <;> omega

-- The handlers of a table move the cursor by skips alone, and leave the run of binary digits to the
-- engine. What they skip may depend on everything that they are given.
def Table.Skips (t : Table) (amounts : Environment → Site → Machine → List Int) : Prop :=
  ∀ ⦃h : Handler⦄ (env : Environment) (site : Site) (m : Machine), t site.digit = some h →
    (h env site m).1.state.cursor = ((amounts env site m).foldl State.skip m.state).cursor ∧
      (h env site m).1.state.runStart = m.state.runStart

namespace Engine

section

variable (t : Table) (amounts : Environment → Site → Machine → List Int) (env : Environment)
  (m : Machine)

-- What is skipped for the digit under the cursor: nothing, unless a handler is called.
def skipsAt : List Int :=
  if (siteOf env m).digit = 0x30 ∨ (siteOf env m).digit = 0x31 then []
  else if (closing? env m).isSome then []
  else if ¬ Text.isDigit (siteOf env m).digit ∨ (t (siteOf env m).digit).isNone then []
  else amounts env (siteOf env m) (handed env m)

-- Wherever the engine gets to from a machine on, each digit moves the cursor forward.
def Forward : Prop :=
  ∀ ⦃m' after : Machine⦄ ⦃outcome : Outcome⦄, Reaches t env m m' →
    m'.state.cursor < env.code.size → step t env m' = (after, .ok outcome) →
    m'.state.cursor < (advance after).state.cursor

-- Wherever the engine gets to from a machine on, the skips stay clear of the largest position. They
-- may also go around as a whole.
def Clear : Prop :=
  ∀ ⦃m' after : Machine⦄ ⦃outcome : Outcome⦄, Reaches t env m m' →
    m'.state.cursor < env.code.size → step t env m' = (after, .ok outcome) →
    m'.state.cursor + travel (skipsAt t amounts env m') % 0x10000000000000000 + 1 < 0x8000000000000000

end

variable {t : Table} {amounts : Environment → Site → Machine → List Int} {env : Environment}
  {m m' after : Machine} {outcome : Outcome} {r : Run}

theorem step_cursor (hs : t.Skips amounts) (h : step t env m = (after, .ok outcome)) :
    (advance after).state.cursor
      = wrap64 (m.state.cursor + travel (skipsAt t amounts env m) + 1) := by
  rw [← wrap64_foldl_skip]
  suffices hc : after.state.cursor
      = ((skipsAt t amounts env m).foldl State.skip m.state).cursor by rw [← hc]; rfl
  unfold skipsAt
  cases step_ok_taken t env m h
  case bit hd hst _          => simp [hd, hst]
  case close hc _ hst _      => simp [hc, hst]
  case unknown hc hd hst _   => simp [hc, hd, hst]
  case unbound hc hd ht hst _ => simp [hc, hd, ht, hst]
  case called hb hc hd ht _ hst _ =>
    have hk := (hs env (siteOf env m) (handed env m) ht).left
    have hm : (handed env m).state.cursor = m.state.cursor := by rw [state_handed]
    rw [hst, hk, foldl_skip_cursor_congr hm]
    simp [hb.left, hb.right, hc, hd, ht]

-- Where the cursor and an open run of binary digits may be.
structure Sound (env : Environment) (s : State) : Prop where
  cursor   : 0 ≤ s.cursor
  runStart : ∀ p ∈ s.runStart, (p : Int) < s.cursor ∧ p < env.code.size

theorem sound_start (env : Environment) : Sound env (State.start env.settings) where
  cursor   := Int.le_refl _
  runStart := nofun

theorem step_runStart (hs : t.Skips amounts) (h : step t env m = (after, .ok outcome)) {p : Nat}
    (hp : p ∈ after.state.runStart) : p ∈ m.state.runStart ∨ p = m.state.cursor.toNat := by
  cases step_ok_taken t env m h
  case bit _ hst _ =>
    rw [hst] at hp
    cases hr : m.state.runStart <;> simp_all
  case close _ _ hst _ => simp [hst] at hp
  case unknown _ _ hst _ => exact .inl (by simpa [hst] using hp)
  case unbound _ _ _ hst _ => exact .inl (by simpa [hst] using hp)
  case called _ _ _ ht _ hst _ =>
    have hk := (hs env (siteOf env m) (handed env m) ht).right
    rw [hst, hk, state_handed] at hp
    exact .inl hp

theorem Sound.step (hs : t.Skips amounts) (h : step t env m = (after, .ok outcome))
    (hm : Sound env m.state) (hc : m.state.cursor < env.code.size)
    (hf : m.state.cursor < (advance after).state.cursor) : Sound env (advance after).state where
  cursor         := by have := hm.cursor; omega
  runStart p hp := by
    have h₀ := hm.cursor
    rcases step_runStart hs h hp with hp | rfl
    · have := hm.runStart p hp
      omega
    · omega

theorem Sound.closing? (hm : Sound env m.state) {span : Span} (h : closing? env m = some span) :
    span.start < span.stop ∧ span.stop ≤ env.code.size := by
  unfold Engine.closing? at h
  have h₀ := hm.cursor
  split at h
  case isTrue hc =>
    split at h
    case isFalse => cases h
    case isTrue =>
      have ⟨p, hp, he⟩ := Option.map_eq_some_iff.mp h
      have := hm.runStart p hp
      subst he
      simp only
      omega
  case isFalse =>
    have ⟨p, hp, he⟩ := Option.map_eq_some_iff.mp h
    have := hm.runStart p hp
    subst he
    simp only
    omega

theorem Forward.rest (hf : Forward t env m) (hc : m.state.cursor < env.code.size)
    (h : step t env m = (after, .ok outcome)) : Forward t env (advance after) :=
  fun _ _ _ hr => hf (.step hc h hr)

theorem Clear.rest (hl : Clear t amounts env m) (hc : m.state.cursor < env.code.size)
    (h : step t env m = (after, .ok outcome)) : Clear t amounts env (advance after) :=
  fun _ _ _ hr => hl (.step hc h hr)

theorem step_forward_iff (hs : t.Skips amounts) (hm : Sound env m.state)
    (hc : m.state.cursor < env.code.size) (h : step t env m = (after, .ok outcome)) :
    m.state.cursor < (advance after).state.cursor ↔
      m.state.cursor + travel (skipsAt t amounts env m) % 0x10000000000000000 + 1
        < 0x8000000000000000 := by
  have hz : env.code.size ≤ 0x4000000000000000 := env.code.size_le
  rw [step_cursor hs h]
  exact lt_wrap64_iff hm.cursor (by omega)

-- What a run of a forward engine preserves.
theorem Sound.reaches (hs : t.Skips amounts) (hf : Forward t env m) (hm : Sound env m.state)
    (hr : Reaches t env m m') : Sound env m'.state := by
  induction hr
  case refl => exact hm
  case step hc h _ hi => exact hi (hf.rest hc h) (hm.step hs h hc <| hf .refl hc h)

theorem Clear.forward (hs : t.Skips amounts) (hl : Clear t amounts env m) (hm : Sound env m.state) :
    Forward t env m := by
  intro m' after outcome hr
  induction hr
  case refl =>
    intro hc h
    exact step_forward_iff hs hm hc h |>.mpr <| hl .refl hc h
  case step hc h _ hi =>
    have hf := step_forward_iff hs hm hc h |>.mpr <| hl .refl hc h
    exact hi (hl.rest hc h) (hm.step hs h hc hf)

theorem Forward.clear (hs : t.Skips amounts) (hf : Forward t env m) (hm : Sound env m.state) :
    Clear t amounts env m := by
  intro m' after outcome hr hc h
  have hm' := hm.reaches hs hf hr
  exact step_forward_iff hs hm' hc h |>.mp <| hf hr hc h

-- The positions that a forward engine takes, in order.
structure Ascends (env : Environment) (m : Machine) (r : Run) : Prop where
  pairwise : (r.dispatches.map (·.site.position)).Pairwise (· < ·)
  inside   : ∀ d ∈ r.dispatches, m.state.cursor ≤ d.site.position ∧ d.site.position < env.code.size
  length   : r.dispatches.length ≤ (env.code.size - m.state.cursor).toNat

theorem Forward.ascends (hf : Forward t env m) (hr : Runs t env m r) : Ascends env m r := by
  induction hr
  case finish m _ => constructor <;> simp [finish_dispatches]
  case crash => constructor <;> simp
  case step m after _ r hc h _ hi =>
    have ha := hi (hf.rest hc h)
    have hlt := hf .refl hc h
    refine { pairwise := ?_, inside := ?_, length := ?_ }
    · refine List.pairwise_cons.mpr ⟨?_, ha.pairwise⟩
      intro p hp
      have ⟨d, hd, he⟩ := List.mem_map.mp hp
      exact he ▸ Int.lt_of_lt_of_le hlt (ha.inside d hd).left
    · intro d hd
      rcases List.mem_cons.mp hd with rfl | hd
      · exact ⟨Int.le_refl _, hc⟩
      · have := ha.inside d hd
        omega
    · have := ha.length
      simp only [List.length_cons]
      omega

theorem Forward.exists_runs (hf : Forward t env m) : ∃ r, Runs t env m r :=
  have hi {m after : Machine} {outcome : Outcome} (hf : Forward t env m)
      (hc : m.state.cursor < env.code.size) (h : Engine.step t env m = (after, .ok outcome)) :=
    And.intro (hf.rest hc h) (hf .refl hc h)
  Engine.exists_runs hi hf

-- Each run of binary digits that was closed came to its end where the engine got to.
theorem Runs.closing?_of_mem_closed (hr : Runs t env m r) {span : Span} (h : span ∈ r.closed) :
    ∃ m', Reaches t env m m' ∧ closing? env m' = some span := by
  induction hr
  case finish m _ =>
    have hk := finish_finished env m
    generalize Engine.finish env m = r at hk h
    cases hk
    case close hc _ _ _ =>
      cases List.mem_singleton.mp h
      exact ⟨m, .refl, hc⟩
    all_goals cases h
  case crash => cases h
  case step m after outcome r hc hs _ hi =>
    cases step_ok_taken t env m hs
    case close span' _ hcl _ _ _ =>
      rcases List.mem_cons.mp h with rfl | h
      · exact ⟨m, .refl, hcl⟩
      · have ⟨m', hr, hcl⟩ := hi h
        exact ⟨m', .step hc hs hr, hcl⟩
    all_goals
      have ⟨m', hr, hcl⟩ := hi h
      exact ⟨m', .step hc hs hr, hcl⟩

end Engine

namespace Library

variable (extended : Bool)

-- What the handlers of a library skip.
def skips (env : Environment) (site : Site) (m : Machine) : List Int :=
  [((effect extended env.code env.terminal site m.state.store.toList m.world.console).skipped : Int)]

theorem table_skips : (table extended).Skips (skips extended) := by
  intro h env site m ht
  have hd := (effect_describes ht m env).state
  constructor <;> rw [hd] <;> rfl

theorem travel_skips (env : Environment) (site : Site) (m : Machine) :
    0 ≤ travel (skips extended env site m) ∧ travel (skips extended env site m) ≤ 2 := by
  unfold skips
  rw [effect_skipped]
  repeat' split
  all_goals decide

theorem clear (env : Environment) (m : Machine) :
    Engine.Clear (table extended) (skips extended) env m := by
  intro m' after outcome _ hc _
  have hz : env.code.size ≤ 0x4000000000000000 := env.code.size_le
  have ht := travel_skips extended env (Engine.siteOf env m') (Engine.handed env m')
  unfold Engine.skipsAt
  repeat' split
  case isFalse => omega
  all_goals
    have hn : travel [] = 0 := rfl
    omega

theorem exists_runs (env : Environment) (world : World) :
    ∃ r, Engine.Runs (table extended) env ⟨State.start env.settings, world⟩ r := by
  have hl := clear extended env ⟨State.start env.settings, world⟩
  exact hl.forward (table_skips extended) (Engine.sound_start env) |>.exists_runs

end Library

-- The engine of any table moves forward exactly as long as the skips stay clear of the largest
-- position. Then it comes to an end: it takes each position at most once, in order, and closes only
-- stretches that lie in the code.
theorem Table.forward_iff {t : Table} {amounts : Environment → Site → Machine → List Int}
    (hs : t.Skips amounts) (env : Environment) (world : World) :
    let m : Machine := ⟨State.start env.settings, world⟩
    (Engine.Forward t env m ↔ Engine.Clear t amounts env m) ∧
      (Engine.Clear t amounts env m → ∃ r, m.run? t env = some r ∧
        (r.dispatches.map (·.site.position)).Pairwise (· < ·) ∧
        (∀ d ∈ r.dispatches, 0 ≤ d.site.position ∧ d.site.position < env.code.size) ∧
        r.dispatches.length ≤ env.code.size ∧
        (∀ m', Engine.Reaches t env m m' → ∀ span ∈ Engine.closing? env m',
          span.start < span.stop ∧ span.stop ≤ env.code.size) ∧
        ∀ span ∈ r.closed, span.start < span.stop ∧ span.stop ≤ env.code.size) := by
  intro m
  have hm : Engine.Sound env m.state := Engine.sound_start env
  refine ⟨⟨(·.clear hs hm), (·.forward hs hm)⟩, fun hl => ?_⟩
  have hf := hl.forward hs hm
  have ⟨r, hr⟩ := hf.exists_runs
  have ha := hf.ascends hr
  refine ⟨r, hr.run?_eq, ha.pairwise, ha.inside, ha.length, ?_, ?_⟩
  · exact fun m' hr span h => (hm.reaches hs hf hr).closing? h
  · intro span h
    have ⟨m', hr', hc⟩ := hr.closing?_of_mem_closed h
    exact (hm.reaches hs hf hr').closing? hc

-- In `2120`, the loop at the start skips the digits that would open and close a run.
theorem Table.forward_iff_loop :
    let env := Environment.plain (Code.ofArray #[0x32, 0x31, 0x32, 0x30]) {}
    (Library.table true).Skips (Library.skips true) ∧
      ∃ r, Machine.run? ⟨State.start env.settings, default⟩ (Library.table true) env = some r ∧
        (r.dispatches.map (·.site.position)).Pairwise (· < ·) ∧ r.dispatches.length ≤ 4 := by
  intro env
  have hs := Library.table_skips true
  have ⟨_, h⟩ := Table.forward_iff hs env default
  have ⟨r, hr, hp, _, hl, _⟩ := h (Library.clear true env _)
  exact ⟨hs, r, hr, hp, hl⟩

-- A handler that skips as much as a position can hold does not stop the program: the cursor goes
-- around and comes out far before the first digit.
theorem Table.not_forward_of_far_skip :
    let skip : Handler := fun _ _ m =>
      ({ m with state := m.state.skip 0x7FFFFFFFFFFFFFFF }, .ok .silent)
    let t   := Table.empty.set 0x33 (some skip)
    let env := Environment.plain (Code.ofArray #[0x33]) {}
    ¬ Engine.Forward t env ⟨State.start env.settings, default⟩ := by
  intro skip t env hf
  have hlt := hf .refl (by decide) rfl
  revert hlt
  decide

end Denary
