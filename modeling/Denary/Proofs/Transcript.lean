import Denary.Proofs.Account
import Denary.Proofs.Run

namespace Denary

-- What the end of a run of binary digits prints: the text of the run, on a line of its own.
def Code.spoken (code : Code) (span : Span) : List Bytes :=
  (code.slice? span).toList.map fun digits => Text.line (Bits.decode digits)

namespace Library

variable {extended : Bool} {h : Handler}

-- What taking a digit says, and how it ends.
structure Transcript extends Remarks where
  outcome : Engine.Outcome

def transcript (extended : Bool) (env : Environment) (m : Machine) : Transcript :=
  if (Engine.siteOf env m).digit = 0x30 ∨ (Engine.siteOf env m).digit = 0x31 then
    { outcome := .collected }
  else match Engine.closing? env m with
    | some span =>
      { printed := env.code.spoken span, outcome := .closed span }
    | none =>
      if Text.isDigit (Engine.siteOf env m).digit then
        if (table extended (Engine.siteOf env m).digit).isSome then
          let a := account extended env (Engine.siteOf env m) (Engine.handed env m)
          { toRemarks := a.toRemarks, outcome := .called (.done a.completed) }
        else { outcome := .unbound }
      else
        { warned  := [⟨.warn, Category.parse,
            ascii "Unknown digit: " ++ Text.quotedByte (Engine.siteOf env m).digit,
            (Engine.siteOf env m).position⟩]
          outcome := .unknown }

structure Transcript.Describes (t : Transcript) (env : Environment) (m : Machine)
    (r : Machine × Except Fault Engine.Outcome) : Prop where
  remarks : t.toRemarks.Describes env m r.1
  outcome : ∀ outcome, r.2 = .ok outcome → outcome = t.outcome

theorem describes_closeRun (env : Environment) (span : Span) (m : Machine) :
    Remarks.Describes { printed := env.code.spoken span } env m (Engine.closeRun env span m).1 := by
  unfold Engine.closeRun Code.spoken
  cases env.code.slice? span
  case none        => exact .after (.silent (by rfl)) (Machine.describes_debug ..)
  case some digits =>
    exact .after (.silent (by rfl))
      (.after (Machine.describes_debug ..) (Machine.describes_printLine ..))

theorem describes_announce (env : Environment) (site : Site) (m : Machine) :
    Remarks.Describes {} env m (Engine.announce env site m) := by
  unfold Engine.announce
  split
  case isTrue  => exact m.describes_debug env _ _
  case isFalse => exact .silent rfl

theorem describes_openRun (env : Environment) (p : Int) (m : Machine) :
    Remarks.Describes {} env m (Engine.openRun p m) := by
  unfold Engine.openRun
  split <;> exact .silent rfl

theorem describes_warnUnknown (env : Environment) (site : Site) (m : Machine) :
    Remarks.Describes
      { warned := [⟨.warn, Category.parse, ascii "Unknown digit: " ++ Text.quotedByte site.digit,
          site.position⟩] } env m (Engine.warnUnknown env site m) where
  printed  := by simp [Engine.warnUnknown, Machine.log]
  warnings := by simp [Engine.warnUnknown, Machine.log, World.warnings_log_warn]
  counted  := rfl
  errors   := by simp [Engine.warnUnknown, Machine.log, World.errors_log_warn]
  notes hj := World.notes_log _ hj _
  archive  := by simp [Engine.warnUnknown, Machine.log]

theorem call_account (env : Environment) {site : Site} (m : Machine)
    (ht : table extended site.digit = some h) :
    (account extended env site { m with state := { m.state with executed := m.state.executed + 1 } }
      ).Describes env m (Engine.call h env site m) := by
  have ha := account_describes ht
    { m with state := { m.state with executed := m.state.executed + 1 } } env
  unfold Engine.call
  dsimp only
  split
  case h_1 heq =>
    rw [heq] at ha
    exact .silently (.silent (by rfl)) ⟨ha.remarks.before (Machine.describes_debug ..), ha.status⟩
  case h_2 heq => exact .silently (.silent (by rfl)) ha

theorem step_transcript (extended : Bool) (env : Environment) (m : Machine) :
    (transcript extended env m).Describes env m (Engine.step (table extended) env m) := by
  have hn := describes_announce env (Engine.siteOf env m) m
  unfold Engine.step transcript
  dsimp only
  split
  case isTrue =>
    exact ⟨hn.after (describes_openRun ..), fun _ h => by cases h; rfl⟩
  case isFalse =>
    rw [Engine.closing?_announce]
    cases Engine.closing? env m
    case some span =>
      have hc := hn.after (describes_closeRun env span _)
      dsimp only
      cases hr : Engine.closeRun env span (Engine.announce env (Engine.siteOf env m) m)
      case mk after answer =>
        rw [hr] at hc
        cases answer
        case ok u        => exact ⟨hc, fun _ h => by cases h; rfl⟩
        case error fault => exact ⟨hc, nofun⟩
    case none =>
      dsimp only
      cases hd : Text.isDigit (Engine.siteOf env m).digit
      case false =>
        exact ⟨hn.after (describes_warnUnknown ..), fun _ h => by cases h; rfl⟩
      case true =>
        simp only [not_true_eq_false, ↓reduceIte]
        cases ht : table extended (Engine.siteOf env m).digit
        case none =>
          exact ⟨hn.after (Machine.describes_trace ..), fun _ h => by cases h; rfl⟩
        case some h =>
          have hc := Account.Describes.silently hn (call_account env _ ht)
          dsimp only
          cases hr : Engine.call h env (Engine.siteOf env m)
            (Engine.announce env (Engine.siteOf env m) m)
          case mk after answer =>
            rw [hr] at hc
            cases answer
            case ok status =>
              refine ⟨hc.remarks, fun _ h => ?_⟩
              cases h
              rw [hc.status status rfl]
              rfl
            case error fault => exact ⟨hc.remarks, nofun⟩

-- What a run says: what is said for its digits, one after another, and the text of the run of binary
-- digits that is still open behind the last of them.
def remarks (extended : Bool) (env : Environment) (r : Engine.Run) : Remarks :=
  r.dispatches.foldr (fun d a => (transcript extended env d.before).toRemarks ++ a)
    { printed := r.trailing.toList.flatMap env.code.spoken }

variable {env : Environment} {m : Machine} {r : Engine.Run}

-- What is printed behind the last digit, also where a fault stops it.
theorem describes_finish (env : Environment) (m : Machine) :
    Remarks.Describes { printed := (Engine.closing? env m).toList.flatMap env.code.spoken } env m
      (Engine.finish env m).machine := by
  unfold Engine.finish
  cases Engine.closing? env m
  case none => exact .silent rfl
  case some span =>
    have hd := describes_closeRun env span m
    dsimp only
    cases hr : Engine.closeRun env span m
    case mk after answer =>
      rw [hr] at hd
      cases answer
      all_goals simpa using hd

theorem runs_describes (h : Engine.Runs (table extended) env m r) (hf : r.ending = .finished) :
    (remarks extended env r).Describes env m r.machine := by
  induction h
  case finish m _ =>
    have hd := describes_finish env m
    rw [← Engine.finish_trailing hf] at hd
    rwa [remarks, Engine.finish_dispatches]
  case crash => cases hf
  case step m after _ r _ hs _ hi =>
    have ht := (step_transcript extended env m).remarks
    rw [hs] at ht
    have ha : Remarks.Describes {} env after (Engine.advance after) := .silent rfl
    exact ht.trans (ha.after (hi hf))

theorem spoken_of_not_whole {span : Span} (h : ¬ Engine.Whole env span) : env.code.spoken span = [] := by
  unfold Engine.Whole at h
  simp [Code.spoken, Code.slice?, h]

-- A handler that a fault stops has not said anything.
theorem account_of_fault {site : Site} {fault : Fault}
    (hf : (effect extended env.code env.terminal site m.state.store.toList m.world.console).fault
      = some fault) : (account extended env site m).toRemarks = {} := by
  unfold effect at hf
  split at hf
  case h_6 hd =>
    have ha : account extended env site m = Account.dialogue env site m := by
      unfold account
      rw [hd]
      rfl
    rw [ha]
    unfold Effect.dialogue at hf
    unfold Account.dialogue
    split at hf
    all_goals try cases hf
    case h_5 ho =>
      rw [ho]
      unfold Effect.clearFault at hf
      split at hf
      case isFalse => cases hf
      case isTrue h => simp [Account.clear, h.left, h.right]
    case h_6 ho =>
      rw [ho]
      unfold Effect.colourFault at hf
      split at hf
      case isFalse => cases hf
      case isTrue h => simp [Account.setColour, h.left, Option.isNone_iff_eq_none.mp h.right]
  case h_4 => split at hf <;> cases hf
  case h_5 => split at hf <;> cases hf
  all_goals cases hf

theorem transcript_of_fault {after : Machine} {fault : Fault}
    (h : Engine.step (table extended) env m = (after, .error fault)) :
    (transcript extended env m).toRemarks = {} := by
  have hk := Engine.step_taken (table extended) env m
  rw [h] at hk
  unfold transcript
  cases hk
  case broken hb hcl hw _ _ =>
    rw [if_neg (not_or.mpr hb), hcl]
    simp only [spoken_of_not_whole hw]
  case stopped hb hcl hd ht _ _ ha =>
    have hf := (effect_describes ht (Engine.handed env m) env).fault
    rw [ha] at hf
    rw [if_neg (not_or.mpr hb), hcl, hd, ht]
    exact account_of_fault hf.symm

-- What is said for digits, one after another.
def said (extended : Bool) (env : Environment) (ds : List Engine.Dispatch) : Remarks where
  printed  := ds.flatMap fun d => (transcript extended env d.before).printed
  warned   := ds.flatMap fun d => (transcript extended env d.before).warned
  reported := ds.flatMap fun d => (transcript extended env d.before).reported

theorem said_cons (d : Engine.Dispatch) (ds : List Engine.Dispatch) :
    said extended env (d :: ds)
      = (transcript extended env d.before).toRemarks ++ said extended env ds :=
  rfl

-- However a run ends, nothing but texts comes behind what is said for its digits.
theorem runs_said (h : Engine.Runs (table extended) env m r) :
    ∃ ts, (said extended env r.dispatches ++ { printed := ts }).Describes env m r.machine := by
  induction h
  case finish m _ =>
    rw [Engine.finish_dispatches]
    exact ⟨_, describes_finish env m⟩
  case crash m after fault _ hs =>
    have ht := (step_transcript extended env m).remarks
    rw [hs, transcript_of_fault hs] at ht
    exact ⟨[], ht⟩
  case step m after _ r _ hs _ hi =>
    have ⟨ts, hi⟩ := hi
    have ht := (step_transcript extended env m).remarks
    rw [hs] at ht
    have ha : Remarks.Describes {} env after (Engine.advance after) := .silent rfl
    refine ⟨ts, ?_⟩
    rw [said_cons, Remarks.append_assoc]
    exact ht.trans (ha.after hi)

-- Where neither the dialogue nor a report is called, nothing is printed but the text of a run of
-- binary digits that comes to its end.
theorem printed_transcript {d : Engine.Dispatch} (h : Engine.Runs (table extended) env m r)
    (hd : d ∈ r.dispatches)
    (hq : d.status = none ∨ d.site.digit ≠ 0x37 ∧ d.site.digit ≠ 0x39) :
    (transcript extended env d.before).printed = d.closed?.toList.flatMap env.code.spoken := by
  have ⟨hs, _, ht⟩ := h.taken_of_mem hd
  have ho := (step_transcript extended env d.before).outcome d.outcome (by rw [ht])
  unfold Engine.Dispatch.closed?
  unfold Engine.Dispatch.status at hq
  rw [ho] at hq ⊢
  rw [hs] at hq
  unfold transcript at hq ⊢
  split
  case isTrue => rfl
  case isFalse hb =>
    cases hc : Engine.closing? env d.before
    case some span => simp
    case none =>
      dsimp only
      split
      case isFalse => rfl
      case isTrue hg =>
        split
        case isFalse => rfl
        case isTrue ht =>
          simp only [hb, hc, hg, ht, ↓reduceIte, reduceCtorEq, false_or] at hq
          exact printed_account hq.left hq.right ..

theorem printed_remarks
    (h : ∀ d ∈ r.dispatches, (transcript extended env d.before).printed
      = d.closed?.toList.flatMap env.code.spoken) :
    (remarks extended env r).printed = r.closed.flatMap env.code.spoken := by
  unfold remarks Engine.Run.closed
  generalize r.dispatches = ds at h
  induction ds
  case nil => simp
  case cons d ds hi =>
    have hd := h d List.mem_cons_self
    have hi := hi fun d' hd' => h d' (List.mem_cons_of_mem d hd')
    rw [List.foldr_cons, Remarks.printed_append, hd, hi, List.filterMap_cons]
    cases d.closed? <;> simp

end Library
end Denary
