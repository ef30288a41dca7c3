import Denary.Proofs.Bindings
import Denary.Proofs.Segments

-- The extended library binds a two, a five and a six in its own way. A code without fives and sixes,
-- in which a two never comes without a run of binary digits that it closes, does not notice.

namespace Denary

-- Whether there is a zero or a one at a position.
def Code.IsBit (code : Code) (p : Nat) : Prop :=
  code.at? p = some 0x30 ∨ code.at? p = some 0x31

instance (code : Code) (p : Nat) : Decidable (code.IsBit p) :=
  inferInstanceAs (Decidable (_ ∨ _))

-- The codes that have nothing of the extended library in them. Since the two before it, or since the
-- start, each two is preceded by a zero or a one.
structure Code.Neutral (code : Code) : Prop where
  five : 0x35 ∉ code.toList
  six  : 0x36 ∉ code.toList
  two  : ∀ p < code.size, code.at? p = some 0x32 →
    ∃ q < p, code.IsBit q ∧ ∀ r < p, q < r → code.at? r ≠ some 0x32

namespace Control

variable {code : Code} {c : Control}

-- A control is ready for a two if a run of binary digits is open wherever a zero or a one was passed
-- and no two came after it.
def Ready (code : Code) (c : Control) : Prop :=
  ∀ q < c.cursor, code.IsBit q → (∀ r < c.cursor, q < r → code.at? r ≠ some 0x32) →
    c.opened.isSome

theorem ready_start (code : Code) : start.Ready code :=
  fun _ hq => absurd hq (Nat.not_lt_zero _)

theorem at?_cursor (hc : c.cursor < code.size) : code.at? c.cursor = some (c.digit code) := by
  rw [digit, Code.at?_natCast, List.getElem?_eq_getElem (l := code.toList) hc]
  rfl

theorem Tracks.cursor_lt {s : State} (h : c.Tracks s) (hc : s.cursor < code.size) :
    c.cursor < code.size := by
  rw [h.cursor] at hc
  exact Int.ofNat_lt.mp hc

theorem Ready.next (h : c.Ready code) (hc : c.cursor < code.size) :
    (c.next false code).Ready code := by
  have ha := at?_cursor hc
  cases hb : Bits.isBit (c.digit code)
  case true =>
    rw [next_of_isBit false hb]
    exact fun _ _ _ _ => rfl
  case false =>
    -- A bit before the next digit is before this one, as this one is none.
    have hlt {q : Nat} (hq : q < c.cursor + 1) (hqb : code.IsBit q) : q < c.cursor := by
      refine Nat.lt_of_le_of_ne (Nat.le_of_lt_succ hq) ?_
      rintro rfl
      unfold Code.IsBit at hqb
      rw [ha, Option.some.injEq, Option.some.injEq] at hqb
      rcases hqb with hd | hd <;> rw [hd] at hb <;> cases hb
    by_cases h₂ : c.digit code = 0x32
    case pos =>
      rw [next_core_two h₂]
      intro q hq hqb hn
      exact absurd (h₂ ▸ ha) (hn c.cursor (Nat.lt_succ_self _) (hlt hq hqb))
    case neg =>
      rw [next_core_other hb h₂]
      intro q hq hqb hn
      exact h q (hlt hq hqb) hqb fun r hr => hn r (Nat.lt_succ_of_lt hr)

-- So a two closes a run of binary digits.
theorem Ready.closes?_ne_none (h : c.Ready code) (hn : code.Neutral) (hc : c.cursor < code.size)
    (hd : c.digit code = 0x32) : c.closes? code ≠ none := by
  have ⟨q, hq, hb, hr⟩ := hn.two c.cursor hc (hd ▸ at?_cursor hc)
  have ho := h q hq hb hr
  intro hcl
  rw [opened_eq_none_of_closes? hcl hd] at ho
  cases ho

end Control

namespace Library

-- Other digits are bound in the same way by both libraries.
theorem table_eq_of_ne {d : UInt8} (h₂ : d ≠ 0x32) (h₅ : d ≠ 0x35) (h₆ : d ≠ 0x36) :
    table false d = table true d := by
  have ht : table true d = (((table false).set 0x32 (some Opcode.loop)).set 0x35
      (some Opcode.condition)).set 0x36 (some Opcode.strings) d := rfl
  rw [ht, Table.set, if_neg h₆, Table.set, if_neg h₅, Table.set, if_neg h₂]

-- What a machine keeps on its way: it stands where a control does that is ready for a two.
def Stands (code : Code) (m : Machine) : Prop :=
  ∃ c : Control, c.Tracks m.state ∧ c.Valid code ∧ c.Ready code

variable {env : Environment} {m : Machine}

theorem stands_step {after : Machine} {outcome : Engine.Outcome} (hm : Stands env.code m)
    (hc : m.state.cursor < env.code.size)
    (h : Engine.step (table false) env m = (after, .ok outcome)) :
    Stands env.code (Engine.advance after) := by
  have ⟨c, ht, hv, hr⟩ := hm
  have hc : c.cursor < env.code.size := ht.cursor_lt hc
  have hf : Control.Follows false env c m _ := Control.step_follows (by rw [h]; rfl) hv hc ht
  rw [h] at hf
  exact ⟨_, hf.next, hv.next hc, hr.next hc⟩

theorem step_neutral (hn : env.code.Neutral) (hm : Stands env.code m)
    (hc : m.state.cursor < env.code.size) :
    Engine.step (table false) env m = Engine.step (table true) env m := by
  have ⟨c, ht, hv, hr⟩ := hm
  have hc : c.cursor < env.code.size := ht.cursor_lt hc
  refine Engine.step_congr fun hcl _ => table_eq_of_ne ?_ ?_ ?_
  · intro hd
    rw [ht.siteOf_eq] at hd
    rw [ht.closing?_eq hc] at hcl
    exact hr.closes?_ne_none hn hc hd hcl
  · exact digit_ne hn.five (by decide)
  · exact digit_ne hn.six (by decide)

theorem coincide_neutral (hn : env.code.Neutral) :
    Engine.Coincide (table false) (table true) env env (Stands env.code) where
  code     := rfl
  step     := step_neutral hn
  keeps    := stands_step
  finish _ := rfl

end Library

namespace Interpreter

theorem same_renewed (i : Interpreter) (extended : Bool) (code : Code) :
    ({ i with table := Library.table extended }.execute code).Same
      ((i.renewed extended).execute code) := by
  have hr : ({ i with table := Library.table extended } : Interpreter).renewed extended
      = i.renewed extended := rfl
  exact hr ▸ same_of_agrees_library (fun _ _ => rfl) code

-- The extended library is a conservative extension of the core one. Over a neutral code, an
-- interpreter takes the same digits in the same way with either of them, and leaves the same state and
-- the same surroundings: what was printed, logged, read, drawn and reported.
theorem extension_conservative (i : Interpreter) {code : Code} (hn : code.Neutral) :
    ((i.renewed true).execute code).Same ((i.renewed false).execute code) := by
  have hm : Library.Stands code (i.machine code) :=
    ⟨.start, ⟨rfl, rfl⟩, Control.valid_start code, Control.ready_start code⟩
  have hc : Engine.Coincide (Library.table false) (Library.table true) (i.environment code)
      (i.environment code) (Library.Stands code) := Library.coincide_neutral hn
  have hs : ({ i with table := Library.table false }.execute code).Same
      ({ i with table := Library.table true }.execute code) :=
    same_of_run_eq i.settings.extended rfl (hc.run_eq hm)
  exact ((i.same_renewed true code).symm.trans hs.symm).trans (i.same_renewed false code)

-- In `3x01327029`, a variable stands between the bits and the two that closes their run.
theorem extension_conservative_variable :
    let i    := Interpreter.start {} {} 0 default
    let code := Code.ofArray #[0x33, 0x78, 0x30, 0x31, 0x33, 0x32, 0x37, 0x30, 0x32, 0x39]
    code.Neutral ∧ ((i.renewed true).execute code).Same ((i.renewed false).execute code) := by
  intro i code
  have hn : code.Neutral :=
    { five := by decide
      six  := by decide
      two  := by decide }
  exact ⟨hn, extension_conservative i hn⟩

end Interpreter
end Denary
