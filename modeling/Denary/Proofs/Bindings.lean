import Denary.Proofs.Interpreter

-- What becomes of the bindings of an interpreter when they are changed again and again, and what
-- programs make of it. The engine looks up the digits from two to nine alone, so it is their bindings
-- that decide, and each of them is the last one that was made.

namespace Denary

-- Tables that bind the same to all digits that can be bound.
def Table.Agrees (t t' : Table) : Prop :=
  ∀ d, isBindable d = true → t d = t' d

-- Those are the digits that do not open a run of binary digits.
theorem Table.isBindable_iff {d : UInt8} :
    isBindable d = true ↔ Text.isDigit d = true ∧ d ≠ 0x30 ∧ d ≠ 0x31 := by
  simp only [isBindable, Text.isDigit, Bool.and_eq_true, decide_eq_true_eq, UInt8.le_iff_toNat_le,
    ne_eq, ← UInt8.toNat_inj, UInt8.reduceToNat]
  omega

-- The same surroundings, with settings that ask for another library.
def Environment.extending (env : Environment) (extended : Bool) : Environment :=
  { env with settings := { env.settings with extended := extended } }

namespace Engine

variable {t t' : Table} {env env' : Environment} {m : Machine} {r : Run}

-- A digit is taken in the same way where the same is bound to it, or where it closes a run of binary
-- digits.
theorem step_congr (ht : closing? env m = none → Table.isBindable (siteOf env m).digit = true →
    t (siteOf env m).digit = t' (siteOf env m).digit) : step t env m = step t' env m := by
  unfold step
  dsimp only
  split
  case isTrue => rfl
  case isFalse hb =>
    rw [closing?_announce]
    cases hc : closing? env m
    case some span => rfl
    case none =>
      dsimp only
      split
      case isTrue => rfl
      case isFalse hd =>
        rw [Bool.not_eq_true, Bool.not_eq_false] at hd
        rw [ht hc (Table.isBindable_iff.mpr ⟨hd, not_or.mp hb⟩)]

-- Engines that take each digit in the same way, wherever they get to. `I` holds there.
structure Coincide (t t' : Table) (env env' : Environment) (I : Machine → Prop) : Prop where
  code   : env.code = env'.code
  step   : ∀ {m}, I m → m.state.cursor < env.code.size → step t env m = step t' env' m
  keeps  : ∀ {m after : Machine} {outcome : Outcome}, I m → m.state.cursor < env.code.size →
    Engine.step t env m = (after, .ok outcome) → I (advance after)
  finish : ∀ m, finish env m = finish env' m

variable {I : Machine → Prop}

theorem Coincide.symm (hc : Coincide t t' env env' I) : Coincide t' t env' env I where
  code          := hc.code.symm
  step hm hs    := (hc.step hm (hc.code ▸ hs)).symm
  keeps hm hs h :=
    have hs := hc.code ▸ hs
    hc.keeps hm hs ((hc.step hm hs).trans h)
  finish m      := (hc.finish m).symm

theorem Runs.coincide (hc : Coincide t t' env env' I) (h : Runs t env m r) (hm : I m) :
    Runs t' env' m r := by
  have hsite (m : Machine) : siteOf env m = siteOf env' m := by
    rw [siteOf, siteOf, hc.code]
  induction h
  case finish m hb =>
    rw [hc.finish m]
    exact .finish (hc.code ▸ hb)
  case crash hi hs => exact .crash (hc.code ▸ hi) ((hc.step hm hi).symm.trans hs)
  case step m _ _ _ hi hs _ ih =>
    rw [hsite m]
    exact .step (hc.code ▸ hi) ((hc.step hm hi).symm.trans hs) (ih (hc.keeps hm hi hs))

-- What goes for the digits goes for the run, also where there is none.
theorem Coincide.run_eq (hc : Coincide t t' env env' I) (hm : I m) : run t env m = run t' env' m := by
  have hr : m.run? t env = m.run? t' env' := by
    ext r
    rw [run?_eq_some_iff, run?_eq_some_iff]
    exact ⟨fun h => h.coincide hc hm, fun h => h.coincide hc.symm hm⟩
  rw [run, run, hr]

theorem coincide_of_agrees (ht : t.Agrees t') (env : Environment) :
    Coincide t t' env env fun _ => True where
  code     := rfl
  step _ _ := step_congr fun _ => ht _
  keeps    := fun _ _ _ => trivial
  finish _ := rfl

-- A run that shows a digit is one that comes to an end.
theorem runs_of_mem_run {d : Dispatch} (hd : d ∈ (run t env m).dispatches) :
    Runs t env m (run t env m) := by
  unfold run at hd ⊢
  cases hr : m.run? t env
  case none =>
    rw [hr] at hd
    cases hd
  case some r => exact runs_of_run?_eq hr

-- Each digit that a run shows was taken by the engine.
theorem taken_of_mem_run {d : Dispatch} (hd : d ∈ (run t env m).dispatches) :
    d.site = siteOf env d.before ∧ step t env d.before = (d.after, .ok d.outcome) := by
  have ⟨hs, _, ht⟩ := (runs_of_mem_run hd).taken_of_mem hd
  exact ⟨hs, ht⟩

-- A two to which nothing is bound, and which closes no run of binary digits, is passed over.
theorem exists_unbound (h : Runs t env m r) (hc : m.state.cursor < env.code.size)
    (hd : (siteOf env m).digit = 0x32) (hr : m.state.runStart = none) (ht : t 0x32 = none) :
    ∃ d ∈ r.dispatches, d.site.digit = 0x32 ∧ d.outcome = .unbound := by
  have hs : (step t env m).2 = .ok .unbound := by
    have hcl : closing? env m = none := by
      rw [closing?, if_pos hc, if_pos hd, hr]
      rfl
    unfold step
    dsimp only
    rw [closing?_announce, hcl, hd, ht]
    rfl
  cases h
  case finish hb  => exact absurd hc hb
  case crash _ hk =>
    rw [hk] at hs
    cases hs
  case step _ _ hk =>
    rw [hk] at hs
    cases hs
    exact ⟨_, List.mem_cons_self, hd, rfl⟩

end Engine

namespace Library

theorem loopRounds_extending (env : Environment) (x : Bool) (p : Int) (n : Nat) (m : Machine) :
    Opcode.loopRounds (env.extending x) p n m = Opcode.loopRounds env p n m := by
  induction n generalizing m
  case zero      => rfl
  case succ n hi => exact hi (Opcode.loopRound env p m)

-- The handlers of the libraries do not look at which library the settings ask for.
theorem binds_extending {extended : Bool} {d : UInt8} {h : Handler} (hb : Binds extended d h)
    (env : Environment) (x : Bool) : h (env.extending x) = h env := by
  cases hb
  case loop =>
    funext site m
    unfold Opcode.loop
    simp only [loopRounds_extending]
    rfl
  all_goals rfl

theorem step_extending (extended : Bool) (env : Environment) (x : Bool) (m : Machine) :
    Engine.step (table extended) (env.extending x) m = Engine.step (table extended) env m := by
  have hcall {h : Handler} (hh : h (env.extending x) = h env) (site : Site) (m : Machine) :
      Engine.call h (env.extending x) site m = Engine.call h env site m := by
    unfold Engine.call
    rw [hh]
    rfl
  have hsite : Engine.siteOf (env.extending x) m = Engine.siteOf env m := rfl
  unfold Engine.step
  dsimp only
  rw [hsite]
  cases ht : table extended (Engine.siteOf env m).digit
  case none   => rfl
  case some h =>
    dsimp only
    rw [hcall (binds_extending (binds_of_table ht) env x)]
    rfl

theorem coincide_extending (extended : Bool) (env : Environment) (x : Bool) :
    Engine.Coincide (table extended) (table extended) env (env.extending x) fun _ => True where
  code     := rfl
  step _ _ := (step_extending extended env x _).symm
  keeps    := fun _ _ _ => trivial
  finish _ := rfl

-- The bindings of a library come before those that were made earlier.
theorem foldl_set (bs : List (UInt8 × Handler)) (t : Table) (d : UInt8) :
    bs.foldl (fun t b => t.set b.1 (some b.2)) t d
      = (bs.foldl (fun t b => t.set b.1 (some b.2)) Table.empty d).or (t d) := by
  induction bs generalizing t
  case nil => rfl
  case cons b bs hi =>
    have hb : (Table.empty.set b.1 (some b.2) d).or (t d) = t.set b.1 (some b.2) d := by
      unfold Table.set
      split <;> rfl
    rw [List.foldl_cons, List.foldl_cons, hi, hi (Table.empty.set b.1 (some b.2)), Option.or_assoc,
      hb]

end Library

namespace Interpreter

variable {d : UInt8} (hd : Table.isBindable d = true) (i : Interpreter)
include hd

theorem table_register (digit : UInt8) (h : Option Handler) :
    (i.register digit h).1.table d = if digit = d then h else i.table d := by
  unfold register
  split
  case isTrue => simp only [log, Table.set, eq_comm]
  case isFalse hn =>
    have hne : digit ≠ d := by
      rintro rfl
      exact hn hd
    rw [if_neg hne]

theorem table_unregister (digit : UInt8) :
    (i.unregister digit).1.table d = if digit = d then none else i.table d := by
  unfold unregister
  split
  case isTrue => simp only [Table.set, eq_comm]
  case isFalse hn =>
    split
    case isFalse    => rfl
    case isTrue heq =>
      subst heq
      exact Option.not_isSome_iff_eq_none.mp fun hs => hn ⟨hd, hs⟩

end Interpreter

-- A change of the bindings of an interpreter.
inductive Edit where
  | register (digit : UInt8) (h : Option Handler)
  | unregister (digit : UInt8)
  | library (extended : Bool)

namespace Edit

def apply : Edit → Interpreter → Interpreter
  | register digit h, i => (i.register digit h).1
  | unregister digit, i => (i.unregister digit).1
  | library extended, i => i.registerLibrary extended

-- What an edit leaves at a digit, if it touches it at all.
def binding? (d : UInt8) : Edit → Option (Option Handler)
  | register digit h => if digit = d then some h else none
  | unregister digit => if digit = d then some none else none
  | library extended => (Library.table extended d).map some

theorem table_apply {d : UInt8} (hd : Table.isBindable d = true) (e : Edit) (i : Interpreter) :
    (e.apply i).table d = (e.binding? d).getD (i.table d) := by
  cases e
  case register digit h =>
    refine (i.table_register hd digit h).trans ?_
    by_cases hb : digit = d <;> simp [binding?, hb]
  case unregister digit =>
    refine (i.table_unregister hd digit).trans ?_
    by_cases hb : digit = d <;> simp [binding?, hb]
  case library extended =>
    have hf := Library.foldl_set (Library.bindings extended) i.table d
    rw [← Interpreter.registerLibrary_table] at hf
    refine hf.trans ?_
    change (Library.table extended d).or (i.table d) = ((Library.table extended d).map some).getD _
    cases Library.table extended d <;> rfl

end Edit

namespace Interpreter

-- The same interpreter with other bindings. Its history may have new notes, but nothing is printed.
structure Rebinds (i i' : Interpreter) : Prop where
  rest    : i' = { i with table := i'.table, world := { i.world with history := i'.world.history } }
  printed : i'.world.printed = i.world.printed

theorem Rebinds.refl (i : Interpreter) : i.Rebinds i :=
  ⟨rfl, rfl⟩

theorem Rebinds.trans {i i₁ i₂ : Interpreter} (h₁ : i.Rebinds i₁) (h₂ : i₁.Rebinds i₂) :
    i.Rebinds i₂ where
  rest    := by rw [h₂.rest, h₁.rest]
  printed := h₂.printed.trans h₁.printed

theorem rebinds_set (i : Interpreter) (t : Table) : i.Rebinds { i with table := t } :=
  ⟨rfl, rfl⟩

theorem rebinds_log (i : Interpreter) (r : Record) : i.Rebinds (i.log r) where
  rest    := by
    unfold log World.log
    split <;> rfl
  printed := World.printed_log ..

theorem rebinds_register (i : Interpreter) (digit : UInt8) (h : Option Handler) :
    i.Rebinds (i.register digit h).1 := by
  unfold register
  split
  case isTrue  => exact (i.rebinds_set _).trans (rebinds_log ..)
  case isFalse => exact .refl i

theorem rebinds_unregister (i : Interpreter) (digit : UInt8) : i.Rebinds (i.unregister digit).1 := by
  unfold unregister
  split
  case isTrue  => exact i.rebinds_set _
  case isFalse => exact i.rebinds_log _

theorem rebinds_registerLibrary (i : Interpreter) (extended : Bool) :
    i.Rebinds (i.registerLibrary extended) := by
  unfold registerLibrary
  generalize Library.bindings extended = bs
  induction bs generalizing i
  case nil          => exact .refl i
  case cons b bs hi => exact (i.rebinds_register b.1 (some b.2)).trans (hi _)

theorem rebinds_apply (i : Interpreter) (e : Edit) : i.Rebinds (e.apply i) := by
  cases e
  case register digit h => exact i.rebinds_register digit h
  case library extended => exact i.rebinds_registerLibrary extended
  case unregister digit => exact i.rebinds_unregister digit

def edited (i : Interpreter) (es : List Edit) : Interpreter :=
  es.foldl (fun i e => e.apply i) i

theorem edited_concat (i : Interpreter) (es : List Edit) (e : Edit) :
    i.edited (es ++ [e]) = e.apply (i.edited es) :=
  List.foldl_concat ..

theorem rebinds_edited (i : Interpreter) (es : List Edit) : i.Rebinds (i.edited es) := by
  induction es generalizing i
  case nil          => exact .refl i
  case cons e es hi => exact (i.rebinds_apply e).trans (hi (e.apply i))

-- Whatever edits are made, the last one that touches a digit decides on what is bound to it.
theorem table_edited {d : UInt8} (hd : Table.isBindable d = true) (es : List Edit) (i : Interpreter) :
    (i.edited es).table d = (es.filterMap (Edit.binding? d)).getLast?.getD (i.table d) := by
  induction es generalizing i
  case nil => rfl
  case cons e es hi =>
    have he : (i.edited (e :: es)).table d = _ := hi (e.apply i)
    rw [he, e.table_apply hd, List.filterMap_cons]
    cases e.binding? d
    case none   => rfl
    case some b => rw [List.getLast?_cons]; rfl

-- A new interpreter that takes the place of this one. It has the same settings but for the library,
-- and the same surroundings.
def renewed (i : Interpreter) (extended : Bool) : Interpreter :=
  { start { i.settings with extended := extended } i.terminal i.clock i.world with
    journal  := i.journal
    reporter := i.reporter
    world    := i.world }

theorem renewed_table (i : Interpreter) (extended : Bool) :
    (i.renewed extended).table = Library.table extended :=
  start_table ..

theorem renewed_eq (i : Interpreter) (extended : Bool) :
    i.renewed extended
      = { i with
          settings := { i.settings with extended := extended }
          table    := Library.table extended } := by
  have ht := i.renewed_table extended
  have hs : start { i.settings with extended := extended } i.terminal i.clock i.world = _ :=
    (rebinds_registerLibrary ..).rest
  unfold renewed at ht ⊢
  rw [hs] at ht ⊢
  dsimp only at ht ⊢
  rw [ht]

-- Executions that cannot be told apart: they took the same digits in the same way, and left the same
-- state and the same surroundings.
structure Execution.Same (e e' : Execution) : Prop where
  run   : e.run = e'.run
  state : e.state = e'.state
  world : e.interpreter.world = e'.interpreter.world

theorem Execution.Same.symm {e e' : Execution} (h : e.Same e') : e'.Same e :=
  ⟨h.run.symm, h.state.symm, h.world.symm⟩

theorem Execution.Same.trans {e₁ e₂ e₃ : Execution} (h : e₁.Same e₂) (h' : e₂.Same e₃) : e₁.Same e₃ :=
  ⟨h.run.trans h'.run, h.state.trans h'.state, h.world.trans h'.world⟩

variable {i i' : Interpreter} {extended : Bool} {code : Code}

theorem same_of_run_eq (x : Bool) (he : i'.environment code = (i.environment code).extending x)
    (hr : (i.execute code).run = (i'.execute code).run) :
    (i.execute code).Same (i'.execute code) := by
  have hc (m : Machine) : conclude (i'.environment code) m = conclude (i.environment code) m := by
    rw [he]
    rfl
  have hm : (i.execute code).machine = (i'.execute code).machine := by
    rw [execute_machine, execute_machine, ← hr, hc]
  exact ⟨hr, congrArg Machine.state hm, congrArg Machine.world hm⟩

-- Bindings that no digit looks up do not matter.
theorem same_of_agrees {t : Table} (ht : i.table.Agrees t) (code : Code) :
    (i.execute code).Same ({ i with table := t }.execute code) :=
  same_of_run_eq i.settings.extended rfl
    ((Engine.coincide_of_agrees ht (i.environment code)).run_eq trivial)

theorem same_of_agrees_library (ht : i.table.Agrees (Library.table extended)) (code : Code) :
    (i.execute code).Same ((i.renewed extended).execute code) := by
  rw [renewed_eq]
  refine same_of_run_eq extended rfl ?_
  have h₁ := (Engine.coincide_of_agrees ht (i.environment code)).run_eq (m := i.machine code) trivial
  have h₂ := (Library.coincide_extending extended (i.environment code) extended).run_eq
    (m := i.machine code) trivial
  exact h₁.trans h₂

theorem agrees_extended (i : Interpreter) :
    (i.registerLibrary true).table.Agrees (Library.table true) := by
  intro d hd
  have hb := (Edit.library true).table_apply hd i
  have ⟨hd, hb'⟩ := Table.isBindable_iff.mp hd
  cases ht : Library.table true d
  case none => cases (Library.two_of_table_eq_none hd hb' ht).right
  case some h =>
    rw [Edit.binding?, ht] at hb
    exact hb

theorem agrees_core (i : Interpreter) :
    (i.registerLibrary false).table.Agrees ((Library.table false).set 0x32 (i.table 0x32)) := by
  intro d hd
  have hb := (Edit.library false).table_apply hd i
  have ⟨hd, hb'⟩ := Table.isBindable_iff.mp hd
  rw [Edit.binding?] at hb
  refine hb.trans ?_
  unfold Table.set
  split
  case isTrue h₂ =>
    subst h₂
    rfl
  case isFalse h₂ =>
    cases ht : Library.table false d
    case none   => exact absurd (Library.two_of_table_eq_none hd hb' ht).left h₂
    case some h => rfl

-- The shortest program in which a two that is bound makes a difference.
theorem two_unbound_of_same
    (h : (i.execute (Code.ofArray #[0x32])).Same
      ((i.renewed false).execute (Code.ofArray #[0x32]))) : i.table 0x32 = none := by
  have hr := execute_runs (Code.ofArray #[0x32]) (i.renewed_table false)
  have ⟨d, hd, hs, ho⟩ := Engine.exists_unbound hr Int.zero_lt_one rfl rfl rfl
  rw [← h.run] at hd
  have ⟨hsite, hstep⟩ := Engine.taken_of_mem_run hd
  rw [ho] at hstep
  cases Engine.step_ok_taken _ _ _ hstep
  case unbound ht _ _ =>
    rw [← hsite, hs] at ht
    exact ht

-- Registering the extended library restores it: whatever was bound before, programs run as on a new
-- interpreter in the same surroundings. Registering the core library leaves a two with what was last
-- bound to it, so it restores the core library if and only if that is nothing.
theorem registration_restores (i : Interpreter) (es : List Edit) :
    let full := i.edited (es ++ [.library true])
    let core := i.edited (es ++ [.library false])
    let two  := (es.filterMap (Edit.binding? 0x32)).getLast?.getD (i.table 0x32)
    i.Rebinds full ∧ i.Rebinds core ∧
    (∀ code, (full.execute code).Same ((full.renewed true).execute code)) ∧
    (∀ code, (core.execute code).Same
      ({ core with table := (Library.table false).set 0x32 two }.execute code)) ∧
    ((∀ code, (core.execute code).Same ((core.renewed false).execute code)) ↔ two = none) := by
  intro full core two
  have htwo : (i.edited es).table 0x32 = two := table_edited rfl es i
  have hfull : full.table.Agrees (Library.table true) := by
    change (i.edited (es ++ [.library true])).table.Agrees _
    rw [edited_concat]
    exact agrees_extended (i.edited es)
  have hcore : core.table.Agrees ((Library.table false).set 0x32 two) := by
    change (i.edited (es ++ [.library false])).table.Agrees _
    rw [edited_concat, ← htwo]
    exact agrees_core (i.edited es)
  refine ⟨i.rebinds_edited _, i.rebinds_edited _, same_of_agrees_library hfull,
    same_of_agrees hcore, ?_, ?_⟩
  · intro h
    have hn := two_unbound_of_same (h _)
    rwa [hcore 0x32 rfl] at hn
  · intro hn
    refine same_of_agrees_library fun d hd => (hcore d hd).trans ?_
    rw [hn, Table.set]
    split
    case isTrue h₂ => rw [h₂]; rfl
    case isFalse   => rfl

-- After both libraries were registered, the extended one first, a two still makes a loop.
theorem registration_keeps_loop :
    let i    := Interpreter.start {} {} 0 default
    let j    := i.edited [.library true, .library false]
    let code := Code.ofArray #[0x32]
    ¬ (j.execute code).Same ((j.renewed false).execute code) := by
  intro i j code h
  have hn := two_unbound_of_same h
  have ht : j.table 0x32 = some Opcode.loop := table_edited rfl [.library true, .library false] i
  cases hn.symm.trans ht

end Interpreter
end Denary
