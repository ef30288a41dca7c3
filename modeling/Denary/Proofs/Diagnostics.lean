import Mathlib.Data.List.Forall2
import Denary.Proofs.Losses
import Denary.Proofs.Parallel
import Denary.Proofs.Reporter

-- Two settings are there for diagnosis alone: the one that asks for debug messages, and the one that
-- asks for warnings about what does not fit. Neither of them has a say in what a program computes.

namespace Denary

-- Snapshots that are the same up to the debug mode.
def Snapshot.SameButDebug (s s' : Snapshot) : Prop :=
  s' = { s with debug := s'.debug }

-- The line of a status block that shows the debug mode.
def Opcode.debugLine (debug : Bool) : Bytes :=
  Text.line (ascii "Debug:       " ++ Text.ofBool debug)

-- The warning that is written when a report was not made.
def Opcode.failedRecord (site : Site) (e : Error) : Record :=
  Remarks.warning site Category.report (ascii "report failed: " ++ e.message)

namespace Reporter

-- Answers that agree on whether a report was made. The places where it was, or the reasons why it
-- was not, are related.
inductive Replies (place : Bytes → Bytes → Prop) (reason : Error → Error → Prop) :
    Except Error Bytes → Except Error Bytes → Prop
  | made {p p' : Bytes} (h : place p p')    : Replies place reason (.ok p) (.ok p')
  | failed {e e' : Error} (h : reason e e') : Replies place reason (.error e) (.error e')

-- A reporter whose success does not depend on the debug mode in what it was handed over.
def Indifferent (reporter : Reporter) (place : Bytes → Bytes → Prop)
    (reason : Error → Error → Prop) (archive : Archive) : Prop :=
  ∀ ⦃ss ss' : List Snapshot⦄ ⦃s s' : Snapshot⦄,
    List.Forall₂ Snapshot.SameButDebug ss ss' → s.SameButDebug s' →
    Replies place reason (reporter s (deliver reporter archive ss)).2
      (reporter s' (deliver reporter archive ss')).2

end Reporter

-- Texts that two programs print in the same place. They differ in the debug mode that the status
-- shows, and where reports were put in related places.
inductive Text.SameButDebug (debug debug' : Bool) (place : Bytes → Bytes → Prop) :
    Bytes → Bytes → Prop
  | same {t : Bytes} : SameButDebug debug debug' place t t
  | status :
      SameButDebug debug debug' place (Opcode.debugLine debug) (Opcode.debugLine debug')
  | place {t t' : Bytes} (h : place t t') :
      SameButDebug debug debug' place (Opcode.placeLine t) (Opcode.placeLine t')

-- Records that differ in the reason why a report was not made, if at all.
inductive Record.SameButReason (reason : Error → Error → Prop) : Record → Record → Prop
  | same {r : Record} : SameButReason reason r r
  | reason {site : Site} {e e' : Error} (h : reason e e') :
      SameButReason reason (Opcode.failedRecord site e) (Opcode.failedRecord site e')

-- Remarks of programs that run in different debug modes.
structure Remarks.SameButDebug (debug debug' : Bool) (place : Bytes → Bytes → Prop)
    (reason : Error → Error → Prop) (a a' : Remarks) : Prop where
  printed  : List.Forall₂ (Text.SameButDebug debug debug' place) a.printed a'.printed
  warned   : List.Forall₂ (Record.SameButReason reason) a.warned a'.warned
  reported : List.Forall₂ Snapshot.SameButDebug a.reported a'.reported

-- Remarks of a program that tells of what did not fit, and of one that does not.
structure Remarks.SameButLosses (a a' : Remarks) : Prop where
  printed  : a.printed = a'.printed
  warned   : a'.warned = a.warned.filter (·.category ≠ Category.store)
  reported : a.reported = a'.reported

namespace Remarks.SameButDebug

variable {debug debug' : Bool} {place : Bytes → Bytes → Prop} {reason : Error → Error → Prop}
  {a a' b b' : Remarks}

theorem refl (a : Remarks) : a.SameButDebug debug debug' place reason a where
  printed  := List.forall₂_same.mpr fun _ _ => .same
  warned   := List.forall₂_same.mpr fun _ _ => .same
  reported := List.forall₂_same.mpr fun _ _ => rfl

theorem append (ha : a.SameButDebug debug debug' place reason a')
    (hb : b.SameButDebug debug debug' place reason b') :
    (a ++ b).SameButDebug debug debug' place reason (a' ++ b') where
  printed  := List.rel_append ha.printed hb.printed
  warned   := List.rel_append ha.warned hb.warned
  reported := List.rel_append ha.reported hb.reported

theorem status {env env' : Environment} (he : env.Parallel env') (s : State) :
    SameButDebug env.settings.debug env'.settings.debug place reason
      { printed := (Opcode.statusLines env s).map Text.line }
      { printed := (Opcode.statusLines env' s).map Text.line } where
  printed  := by
    unfold Opcode.statusLines
    rw [he.code, he.terminal]
    iterate 8 refine .cons .same ?_
    exact .cons .status (.cons .same .nil)
  warned   := .nil
  reported := .nil

theorem tolerates {env env' : Environment} (he : env.Parallel env')
    (hw : env.settings.warnOnCapacity = env'.settings.warnOnCapacity) :
    Remarks.Tolerates
      (SameButDebug env.settings.debug env'.settings.debug place reason) env env' where
  append    := append
  prints _  := .refl _
  warns _ _ := .refl _
  lost _ _ _ := by
    unfold Remarks.lost
    rw [hw]
    exact .refl _
  status    := status he

theorem reports {env env' : Environment} {start start' : Machine} (he : env.Parallel env')
    (hw : env.settings.warnOnCapacity = env'.settings.warnOnCapacity)
    (ha : start.world.archive = start'.world.archive)
    (hr : ∀ reporter ∈ env.reporter,
      Reporter.Indifferent reporter place reason start.world.archive) :
    env.Reports (SameButDebug env.settings.debug env'.settings.debug place reason) env' start
      start' := by
  intro m m' site hm
  have ⟨a, a', hR, hd, hd'⟩ := hm.said
  have hx := hd.archive
  have hx' := hd'.archive
  unfold Account.report
  unfold Environment.deliver at hx hx'
  rw [← he.reporter] at hx' ⊢
  cases hq : env.reporter
  case none => exact .failed (.refl _)
  case some reporter =>
    have hs : (m.state.snapshot env.code env.settings.debug).SameButDebug
        (m'.state.snapshot env'.code env'.settings.debug) := by
      rw [hm.state, he.code]
      rfl
    have hn := hr reporter hq hR.reported hs
    simp only [hq] at hx hx'
    rw [← hx, ha, ← hx'] at hn
    refine .after (tolerates he hw) ⟨.nil, .nil, .cons hs .nil⟩ ?_
    generalize (reporter _ m.world.archive).2 = x at hn ⊢
    generalize (reporter _ m'.world.archive).2 = x' at hn ⊢
    cases hn
    case made h   => exact ⟨⟨.cons (.place h) .nil, .nil, .nil⟩, rfl⟩
    case failed h => exact ⟨⟨.nil, .cons (.reason h) .nil, .nil⟩, rfl⟩

end Remarks.SameButDebug

namespace Remarks.SameButLosses

variable {a a' b b' : Remarks}

theorem refl (h : ∀ r ∈ a.warned, r.category ≠ Category.store) : a.SameButLosses a where
  printed  := rfl
  warned   := (List.filter_eq_self.mpr fun r hr => decide_eq_true (h r hr)).symm
  reported := rfl

theorem append (ha : a.SameButLosses a') (hb : b.SameButLosses b') :
    (a ++ b).SameButLosses (a' ++ b') where
  printed  := by simp [ha.printed, hb.printed]
  warned   := by simp [ha.warned, hb.warned]
  reported := by simp [ha.reported, hb.reported]

theorem length_warned (h : a.SameButLosses a') : a'.warned.length + a.losses = a.warned.length := by
  rw [h.warned, Remarks.losses, ← List.countP_eq_length_filter, Nat.add_comm]
  simpa using (List.length_eq_countP_add_countP (fun r : Record => r.category = Category.store)
    (l := a.warned)).symm

theorem tolerates {env env' : Environment} (he : env.Parallel env')
    (hd : env.settings.debug = env'.settings.debug)
    (hw : env.settings.warnOnCapacity = true) (hw' : env'.settings.warnOnCapacity = false) :
    Remarks.Tolerates SameButLosses env env' where
  append    := append
  prints _  := .refl nofun
  warns r h := .refl (by simpa using h)
  lost _ _ full := by
    unfold Remarks.lost
    rw [hw, hw']
    cases full
    case false => exact .refl nofun
    case true  => exact ⟨rfl, rfl, rfl⟩
  status s  := by
    unfold Opcode.statusLines
    rw [he.code, he.terminal, hd]
    exact .refl nofun

theorem reports {env env' : Environment} {start start' : Machine} (he : env.Parallel env')
    (hd : env.settings.debug = env'.settings.debug)
    (ha : start.world.archive = start'.world.archive) :
    env.Reports SameButLosses env' start start' := by
  intro m m' site hm
  have ⟨a, a', hR, hx, hx'⟩ := hm.said
  have hm' : m.world.archive = m'.world.archive := by
    rw [hx.archive, hx'.archive, hR.reported, ha, he.deliver]
  have hs : m.state.snapshot env.code env.settings.debug
      = m'.state.snapshot env'.code env'.settings.debug := by
    rw [hm.state, he.code, hd]
    rfl
  have hr : Account.report env site m = Account.report env' site m' := by
    rw [Account.report, Account.report, he.reporter, hs, hm']
  rw [hr]
  refine ⟨.refl ?_, rfl⟩
  intro r h
  have hl := Account.losses_report env' site m'
  rw [Bounded.excess_nil, Remarks.losses, List.countP_eq_zero] at hl
  simpa using hl r h

end Remarks.SameButLosses

-- A file is written or not, whatever is written in it.
theorem Report.Destination.indifferent (d : Destination) (archive : Archive) :
    Reporter.Indifferent d.reporter Eq Eq archive := by
  have hl (s s' : Snapshot) (h : s.SameButDebug s') : s.position = s'.position := by rw [h]
  intro ss ss' s s' hss hs
  rw [d.answer_eq hl archive hss hs]
  cases (d.reporter s' (Reporter.deliver d.reporter archive ss')).2
  case error e => exact .failed rfl
  case ok p    => exact .made rfl

-- What went to the error output of two programs in the same place.
structure Entry.SameButReason (reason : Error → Error → Prop) (e e' : Entry) : Prop where
  record    : e.record.SameButReason reason e'.record
  coloured  : e.coloured = e'.coloured
  receivers : e.receivers = e'.receivers

namespace Interpreter

-- The same interpreter with another debug mode, and with a journal that keeps other messages of low
-- severity.
def withDebug (i : Interpreter) (debug enabled : Bool) (categories : List Category) : Interpreter :=
  { i with
    settings := { i.settings with debug := debug }
    journal  := { i.journal with enabled := enabled, categories := categories } }

-- The same interpreter with or without warnings about what does not fit.
def withWarnings (i : Interpreter) (on : Bool) : Interpreter :=
  { i with settings := { i.settings with warnOnCapacity := on } }

-- Executions that show the debug mode they were made in and are the same but for that.
structure Execution.SameButDebug (debug debug' : Bool) (place : Bytes → Bytes → Prop)
    (reason : Error → Error → Prop) (e e' : Execution) : Prop where
  ending  : e.run.ending = e'.run.ending
  state   : e.state = e'.state
  console : e.interpreter.world.console = e'.interpreter.world.console
  printed : List.Forall₂ (Text.SameButDebug debug debug' place) e.interpreter.world.printed
    e'.interpreter.world.printed
  errors  : List.Forall₂ (Entry.SameButReason reason) e.interpreter.world.errors
    e'.interpreter.world.errors

-- Executions of which the first one tells of everything that did not fit, and the second one does
-- not. Before them, `errors` stood on the error output.
structure Execution.SameButLosses (errors : List Entry) (dropped : Nat) (e e' : Execution) :
    Prop where
  ending  : e.run.ending = e'.run.ending
  state   : e.state = { e'.state with warnings := e'.state.warnings + dropped }
  console : e.interpreter.world.console = e'.interpreter.world.console
  archive : e.interpreter.world.archive = e'.interpreter.world.archive
  printed : e.interpreter.world.printed = e'.interpreter.world.printed
  errors  : ∃ es, e.interpreter.world.errors = errors ++ es ∧
    e'.interpreter.world.errors = errors ++ es.filter (·.record.category ≠ Category.store) ∧
    es.countP (·.record.category = Category.store) = dropped

variable {i : Interpreter} {extended : Bool} {place : Bytes → Bytes → Prop}
  {reason : Error → Error → Prop}

theorem execute_debug (hi : i.table = Library.table extended) (code : Code)
    (debug enabled : Bool) (categories : List Category)
    (hr : ∀ reporter ∈ i.reporter, Reporter.Indifferent reporter place reason i.world.archive) :
    (i.execute code).SameButDebug i.settings.debug debug place reason
      ((i.withDebug debug enabled categories).execute code) := by
  have he : (i.environment code).Parallel
      ((i.withDebug debug enabled categories).environment code) := ⟨rfl, rfl, rfl, rfl⟩
  have ⟨hn, hp⟩ := execute_parallel he hi hi (Remarks.SameButDebug.tolerates he rfl)
    (Remarks.SameButDebug.reports he rfl rfl hr) rfl rfl
  have ⟨a, a', hR, hd, hd'⟩ := hp.said
  refine { ending := hn, state := ?_, console := hp.console, printed := ?_, errors := ?_ }
  · have hl : (i.execute code).machine.state.warnings
        = ((i.withDebug debug enabled categories).execute code).machine.state.warnings := by
      rw [hd.counted, hd'.counted, hR.warned.length_eq]
      rfl
    have hs := hp.state
    rw [hl] at hs
    exact hs
  · refine hd.printed ▸ hd'.printed ▸ List.rel_append ?_ hR.printed
    exact List.forall₂_same.mpr fun _ _ => .same
  · refine hd.errors ▸ hd'.errors ▸ List.rel_append ?_ ?_
    · exact List.forall₂_same.mpr fun _ _ => ⟨.same, rfl, rfl⟩
    · rw [List.forall₂_map_left_iff, List.forall₂_map_right_iff]
      exact hR.warned.imp fun _ _ h => ⟨h, rfl, rfl⟩

theorem execute_warnings (hi : i.table = Library.table extended) (code : Code) :
    let on := (i.withWarnings true).execute code
    on.SameButLosses i.world.errors
      (on.run.dropped extended ((i.withWarnings true).environment code))
      ((i.withWarnings false).execute code) := by
  intro on
  have he : ((i.withWarnings true).environment code).Parallel
      ((i.withWarnings false).environment code) := ⟨rfl, rfl, rfl, rfl⟩
  have ⟨hn, hp⟩ := execute_parallel he hi hi (Remarks.SameButLosses.tolerates he rfl rfl rfl)
    (Remarks.SameButLosses.reports he rfl rfl) rfl rfl
  have ⟨a, a', hR, hd, hd'⟩ := hp.said
  -- What the first execution tells of losses is known from its run.
  have hl : a.losses = on.run.dropped extended ((i.withWarnings true).environment code) := by
    have ⟨ts, hb⟩ := execute_said (i := i.withWarnings true) code hi
    have hl := Library.losses_said rfl (execute_runs (i := i.withWarnings true) code hi)
    have hw := List.append_cancel_left (hd.warnings.symm.trans hb.warnings)
    rw [← hl, Remarks.losses, hw, Remarks.warned_append, List.append_nil]
    rfl
  have hc : on.machine.state.warnings
      = ((i.withWarnings false).execute code).machine.state.warnings
        + on.run.dropped extended ((i.withWarnings true).environment code) := by
    rw [hd.counted, hd'.counted, ← hl, Nat.add_assoc, hR.length_warned]
    rfl
  refine { ending := hn, state := ?_, console := hp.console, archive := ?_, printed := ?_,
           errors := ?_ }
  · have hs := hp.state
    rw [hc] at hs
    exact hs
  · have ha := hd.archive.trans (hR.reported ▸ hd'.archive.symm)
    exact ha
  · exact hd.printed.trans (hR.printed ▸ hd'.printed.symm)
  · refine ⟨_, hd.errors, ?_, ?_⟩
    · refine hd'.errors.trans ?_
      rw [hR.warned, List.filter_map]
      rfl
    · rw [List.countP_map, ← hl]
      rfl

-- Diagnosis changes nothing else. With another debug mode, a program ends in the same state, leaves
-- the same input and draws and makes the same error output, and the console only differs in the
-- line of the status that shows the mode. This takes a reporter whose success does not depend on
-- the mode; how far its places and its reasons do is how far the texts about reports do. And with
-- or without warnings about what does not fit, all but these warnings is the same, and there is one
-- for each variable and each frame that was dropped.
theorem diagnostics_inert (hi : i.table = Library.table extended) (code : Code) :
    (∀ (debug enabled : Bool) (categories : List Category) (place : Bytes → Bytes → Prop)
        (reason : Error → Error → Prop),
      (∀ reporter ∈ i.reporter, Reporter.Indifferent reporter place reason i.world.archive) →
      (i.execute code).SameButDebug i.settings.debug debug place reason
        ((i.withDebug debug enabled categories).execute code)) ∧
    let on := (i.withWarnings true).execute code
    on.SameButLosses i.world.errors
      (on.run.dropped extended ((i.withWarnings true).environment code))
      ((i.withWarnings false).execute code) :=
  ⟨fun debug enabled categories _ _ hr => execute_debug hi code debug enabled categories hr,
    execute_warnings hi code⟩

-- `335539` with room for one variable and one frame. The second variable is dropped, then the one
-- that the first condition makes, then the frame of the second condition. The report is a file that
-- shows the debug mode.
theorem diagnostics_inert_full_store :
    let i := Interpreter.start { extended := true, maxVariables := 1, maxConditions := 1 } {} 0
      default
    let code := Code.ofArray #[0x33, 0x33, 0x35, 0x35, 0x33, 0x39]
    let on := (i.withWarnings true).execute code
    i.table = Library.table true ∧
    (i.execute code).SameButDebug false true Eq Eq
      ((i.withDebug true true Category.all).execute code) ∧
    on.SameButLosses i.world.errors
      (on.run.dropped true ((i.withWarnings true).environment code))
      ((i.withWarnings false).execute code) := by
  intro i code on
  have hi : i.table = Library.table true := start_table ..
  have ⟨hd, hw⟩ := diagnostics_inert hi code
  refine ⟨hi, hd true true Category.all Eq Eq ?_, hw⟩
  rintro _ ⟨rfl⟩
  exact Report.Destination.indifferent ..

end Interpreter
end Denary
