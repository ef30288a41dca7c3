import Denary.Proofs.Interpreter
import Denary.Proofs.Lookahead
import Denary.Proofs.Record

-- The warnings of a program. Each of them is counted when it is written, goes to the error output and
-- to all receivers, and shows the position of the byte that it is about. That is the digit that was
-- taken, or the one that a loop or a condition wanted to make a variable of.

namespace Denary

namespace Event

theorem flatMap_errors (es : List Event) :
    es.flatMap errors = (es.filterMap error?).flatMap Entry.errorLine := by
  induction es
  case nil => rfl
  case cons e es hi =>
    cases e
    case printed t => simpa [errors, error?, List.filterMap_cons] using hi
    case logged e  =>
      cases hl : e.record.level.isLow <;> simp [errors, error?, Entry.errorLine, hl, hi]

end Event

-- What went to the error output while a digit was taken.
def Engine.Dispatch.errors (d : Dispatch) : List Entry :=
  d.after.world.errors.drop d.before.world.errors.length

namespace Remarks

-- All warnings are about the same site.
structure About (a : Remarks) (site : Site) : Prop where
  warned : ∀ r ∈ a.warned, ∃ c t, r = warning site c t

variable (site : Site)

theorem about_nil : About {} site :=
  ⟨nofun⟩

theorem about_prints (ts : List Bytes) : About { printed := ts } site :=
  ⟨nofun⟩

theorem about_reports (ss : List Snapshot) : About { reported := ss } site :=
  ⟨nofun⟩

theorem about_warn (c : Category) (t : Bytes) : (warn site c t).About site where
  warned _ hr := ⟨c, t, List.mem_singleton.mp hr⟩

theorem about_lost (s : Settings) (cause : Cause) (full : Bool) :
    (lost s site cause full).About site := by
  unfold lost
  split
  case isTrue  => exact about_warn ..
  case isFalse => exact about_nil site

variable {site}

theorem About.append {a b : Remarks} (ha : a.About site) (hb : b.About site) :
    (a ++ b).About site where
  warned r hr := (List.mem_append.mp hr).elim (ha.warned r) (hb.warned r)

end Remarks

namespace Account

open Remarks

variable (env : Environment) (site : Site) (m : Machine)

theorem about_append (store : Bounded Variable) : (append env site store).About site :=
  about_lost site env.settings .storeFull store.isFull

theorem about_math : (math env site m).About site := by
  unfold math
  split
  case h_2 => exact about_warn ..
  case h_1 =>
    refine About.append ?_ (about_append ..)
    unfold undefined
    split
    case h_1 => exact about_warn ..
    case h_2 => exact about_nil site

theorem about_strings : (strings env site m).About site := by
  unfold strings
  split
  case h_2 => exact about_nil site
  case h_1 =>
    dsimp only
    split
    case h_1 => exact about_warn ..
    case h_2 => exact about_append ..

theorem about_readInt : (readInt env site m).About site := by
  refine About.append (about_prints site _) ?_
  split
  case h_1 => exact about_warn ..
  case h_2 =>
    split
    case h_1 => exact about_warn ..
    case h_2 => exact about_append ..

theorem about_readText : (readText env site m).About site := by
  refine About.append (about_prints site _) ?_
  split
  case h_1 => exact about_warn ..
  case h_2 =>
    split
    case isTrue  => exact about_append ..
    case isFalse => exact about_warn ..

theorem about_pause : (pause site m).About site := by
  refine About.append (about_prints site _) ?_
  split
  case h_1 => exact about_warn ..
  case h_2 => exact about_nil site

theorem about_dialogue : (dialogue env site m).About site := by
  unfold dialogue
  split
  case h_1 => exact about_readInt ..
  case h_2 => exact about_readText ..
  case h_3 =>
    unfold display
    split <;> exact about_prints site _
  case h_5 => exact about_pause ..
  case h_6 => exact about_append ..
  all_goals exact about_prints site _

theorem about_report : (report env site m).About site := by
  unfold report
  split
  case h_1 => exact about_nil site
  case h_2 =>
    refine About.append (about_reports site _) ?_
    split
    case h_1 => exact about_warn ..
    case h_2 => exact about_prints site _

end Account

-- Within the code, the digit under the cursor is the byte that stands there.
theorem Engine.at?_siteOf {env : Environment} {m : Machine} (h₀ : 0 ≤ m.state.cursor)
    (hc : m.state.cursor < env.code.size) :
    env.code.at? m.state.cursor = some (siteOf env m).digit := by
  have hn : m.state.cursor.toNat < env.code.bytes.size := (Int.toNat_lt h₀).mpr hc
  have ha : env.code.at? m.state.cursor = some (env.code.bytes[m.state.cursor.toNat]) := by
    rw [Code.at?, if_neg (Int.not_lt.mpr h₀), Array.getElem?_eq_getElem hn]
  rw [siteOf, ha]
  rfl

namespace Library

-- The positions of the digits that a digit makes variables of on their behalf.
def nestedPositions (extended : Bool) (site : Site) : List Int :=
  match extended, site.digit with
  | true, 0x32 => Account.loopPositions site.position
  | true, 0x35 => if Test.holdsAt site.position then [site.position + 1] else []
  | _, _       => []

-- Where a warning points to that is written while the digit of a site is taken.
inductive Blames (extended : Bool) (code : Code) (site : Site) : Record → Prop
  | unknown
      (digit : Text.isDigit site.digit = false) :
      Blames extended code site
        ⟨.warn, Category.parse, ascii "Unknown digit: " ++ Text.quotedByte site.digit, site.position⟩
  -- Where variables are made on behalf of other digits, it is not this one that finds the store full.
  | own {c t}
      (digit : Text.isDigit site.digit = true)
      (store : t = Cause.storeFull.message → nestedPositions extended site = []) :
      Blames extended code site (Remarks.warning site c t)
  | nested {p b}
      (position : p ∈ nestedPositions extended site)
      (digit    : code.at? p = some b)
      (kind     : (Kind.ofDigit? b).isSome) :
      Blames extended code site (Remarks.warning ⟨p, b⟩ Category.store Cause.storeFull.message)

variable {extended : Bool} {env : Environment} {site : Site} {m : Machine} {r : Engine.Run}

theorem Blames.level {code : Code} {x : Record} (h : Blames extended code site x) : x.level = .warn := by
  cases h <;> rfl

theorem Blames.of_about {a : Remarks} {code : Code} (h : a.About site)
    (hd : Text.isDigit site.digit = true) (hn : nestedPositions extended site = []) :
    ∀ x ∈ a.warned, Blames extended code site x := by
  intro x hx
  obtain ⟨c, t, rfl⟩ := h.warned x hx
  exact .own hd fun _ => hn

-- The warnings of a digit that is asked for its variable come from the store, which is full.
theorem mem_warned_nested {p : Int} {store : Bounded Variable} {x : Record}
    (h : x ∈ (Remarks.nested env p store).warned) :
    ∃ b, env.code.at? p = some b ∧ (Kind.ofDigit? b).isSome ∧
      x = Remarks.warning ⟨p, b⟩ Category.store Cause.storeFull.message := by
  unfold Remarks.nested at h
  split at h
  case h_2 => cases h
  case h_1 b hb =>
    split at h
    case isFalse => cases h
    case isTrue hk =>
      unfold Remarks.offer Remarks.lost at h
      split at h
      case isFalse => cases h
      case isTrue  => exact ⟨b, hb, hk, List.mem_singleton.mp h⟩

theorem mem_warned_nestedAll {ps : List Int} {store : Bounded Variable} {x : Record}
    (h : x ∈ (Remarks.nestedAll env ps store).warned) :
    ∃ p ∈ ps, ∃ store, x ∈ (Remarks.nested env p store).warned := by
  induction ps generalizing store
  case nil => cases h
  case cons p ps hi =>
    rcases List.mem_append.mp h with h | h
    · exact ⟨p, List.mem_cons_self, store, h⟩
    · have ⟨q, hq, hx⟩ := hi h
      exact ⟨q, List.mem_cons_of_mem p hq, hx⟩

theorem Blames.of_nested {p : Int} {store : Bounded Variable} {x : Record}
    (hp : p ∈ nestedPositions extended site) (h : x ∈ (Remarks.nested env p store).warned) :
    Blames extended env.code site x := by
  obtain ⟨b, hb, hk, rfl⟩ := mem_warned_nested h
  exact .nested hp hb hk

theorem blames_loop (p : Int) (m : Machine) :
    ∀ x ∈ (Account.loop env ⟨p, 0x32⟩ m).warned, Blames true env.code ⟨p, 0x32⟩ x := by
  intro x hx
  have ⟨_, hq, _, hx⟩ := mem_warned_nestedAll hx
  exact .of_nested hq hx

theorem blames_condition (p : Int) (m : Machine) :
    ∀ x ∈ (Account.condition env ⟨p, 0x35⟩ m).warned, Blames true env.code ⟨p, 0x35⟩ x := by
  intro x hx
  rcases List.mem_append.mp hx with hx | hx
  case inl =>
    unfold Remarks.lost at hx
    split at hx
    case isFalse => cases hx
    case isTrue  =>
      rw [List.mem_singleton.mp hx]
      exact .own rfl fun h => absurd h (by decide)
  case inr =>
    split at hx
    case isFalse => cases hx
    case isTrue hh =>
      have hp : p + 1 ∈ nestedPositions true ⟨p, 0x35⟩ := by
        unfold nestedPositions
        rw [if_pos hh]
        exact List.mem_singleton_self _
      exact .of_nested hp hx

theorem blames_account {h : Handler} (ht : table extended site.digit = some h) (m : Machine) :
    ∀ x ∈ (account extended env site m).warned, Blames extended env.code site x := by
  obtain ⟨p, d⟩ := site
  cases binds_of_table ht
  case loop      => exact blames_loop p m
  case condition => exact blames_condition p m
  case dialogue  => exact .of_about (Account.about_dialogue ..) rfl (by cases extended <;> rfl)
  case math      => exact .of_about (Account.about_math ..) rfl (by cases extended <;> rfl)
  case report    => exact .of_about (Account.about_report ..) rfl (by cases extended <;> rfl)
  case strings   => exact .of_about (Account.about_strings ..) rfl rfl
  case int       => exact .of_about (Account.about_append ..) rfl (by cases extended <;> rfl)
  case text      => exact .of_about (Account.about_append ..) rfl (by cases extended <;> rfl)
  case bool      => exact .of_about (Account.about_append ..) rfl rfl
  case float     => exact .of_about (Account.about_append ..) rfl rfl

theorem blames_transcript (extended : Bool) (env : Environment) (m : Machine) :
    ∀ x ∈ (transcript extended env m).warned,
      Blames extended env.code (Engine.siteOf env m) x := by
  unfold transcript
  split
  case isTrue => exact nofun
  case isFalse =>
    split
    case h_1 => exact nofun
    case h_2 =>
      split
      case isFalse hd =>
        intro x hx
        rw [List.mem_singleton.mp hx]
        exact .unknown (by simpa using hd)
      case isTrue =>
        split
        case isFalse => exact nofun
        case isTrue ht =>
          have ⟨_, ht⟩ := Option.isSome_iff_exists.mp ht
          exact blames_account ht _

section

variable {d : Engine.Dispatch} (h : Engine.Runs (table extended) env m r) (hd : d ∈ r.dispatches)
include h hd

end

theorem at?_dispatch (h : Engine.Runs (table extended) env m r) (hm : Engine.Sound env m.state)
    {d : Engine.Dispatch} (hd : d ∈ r.dispatches) :
    env.code.at? d.site.position = some d.site.digit := by
  have ⟨hs, hc, _⟩ := h.taken_of_mem hd
  have hp := ((forward hm).ascends h).inside d hd
  rw [hs] at hp ⊢
  exact Engine.at?_siteOf (Int.le_trans hm.cursor hp.left) hc

end Library

namespace Interpreter

variable {i : Interpreter} {extended : Bool}

end Interpreter
end Denary
