import Denary.Report.Plain
import Denary.Proofs.Lines
import Denary.Proofs.Quoted

-- Plain reports can be read back: whatever the texts of the variables hold, a report has a line for
-- each of its counters and variables, and each line tells what it was made of.

namespace Denary

namespace Text

theorem oneLine_joined {separator : Bytes} (hs : OneLine separator) {parts : List Bytes}
    (h : ∀ t ∈ parts, OneLine t) : OneLine (joined separator parts) := by
  unfold joined
  induction parts
  case nil => exact List.not_mem_nil
  case cons t ts hi =>
    have ⟨ht, hts⟩ := List.forall_mem_cons.mp h
    by_cases hn : ts = []
    case pos => simpa [hn] using ht
    case neg =>
      rw [List.intercalate_cons_of_ne_nil hn]
      exact (ht.append hs).append (hi hts)

theorem oneLine_ofBool (b : Bool) : OneLine (ofBool b) := by
  cases b <;> decide

theorem ofBool_injective {b b' : Bool} (h : ofBool b = ofBool b') : b = b' := by
  cases b <;> cases b' <;> revert h <;> decide

end Text

namespace Decimal

open Text

theorem oneLine_padded (width n : Nat) : OneLine (padded width n) := by
  induction width generalizing n
  case zero => exact List.not_mem_nil
  case succ width hi =>
    refine (hi _).append fun hn => ?_
    have hd := isDigit_digit (Nat.mod_lt n (by decide : 0 < 10))
    rw [← List.mem_singleton.mp hn] at hd
    cases hd

theorem oneLine_signed (negative : Bool) {t : Bytes} (h : OneLine t) :
    OneLine (signed negative t) := by
  have hm : OneLine [0x2D] := by decide
  cases negative
  case false => exact h
  case true  => exact hm.append h

theorem oneLine_fixed (places : Nat) (x : Float) : OneLine (fixed places x) := by
  have hp : OneLine [0x2E] := by decide
  unfold fixed
  split
  case h_1 => decide
  case h_2 negative _ => cases negative <;> decide
  case h_3 => exact oneLine_signed _ (((oneLine_natural _).append hp).append (oneLine_padded _ _))

end Decimal

open Text

theorem Kind.name_injective {k k' : Kind} (h : k.name = k'.name) : k = k' := by
  cases k <;> cases k' <;> revert h <;> decide

-- What a report shows of a variable.
def Variable.shown (v : Variable) : Bytes × Kind × Bytes :=
  (v.name, v.kind, v.value.render)

-- A snapshot whose variables have names of one word.
def Snapshot.HasWords (s : Snapshot) : Prop :=
  ∀ v ∈ s.entries, space ∉ v.name ∧ newline ∉ v.name

instance (s : Snapshot) : Decidable s.HasWords :=
  inferInstanceAs (Decidable (∀ v ∈ s.entries, space ∉ v.name ∧ newline ∉ v.name))

namespace Report

-- The texts of the lines of a report. That of a variable is made of what is shown of it.

def counterTexts (s : Snapshot) : List Bytes :=
  [ascii "Numo 0-9 file operation at position " ++ Decimal.integer s.position,
    ascii "Variables created: " ++ Decimal.integer s.total,
    ascii "Condition stack depth: " ++ Decimal.integer s.stackDepth,
    ascii "Loop depth: " ++ Decimal.integer s.loopDepth,
    ascii "Code length: " ++ Decimal.integer s.codeLength,
    ascii "Debug mode: " ++ ofBool s.debug]

def valueText (kind : Kind) (rendered : Bytes) : Bytes :=
  if kind = .text then quoted rendered else rendered

def variableText : Bytes × Kind × Bytes → Bytes
  | (name, kind, rendered) =>
    name ++ space :: 0x28 :: (kind.name ++ 0x29 :: (ascii " = " ++ valueText kind rendered))

def texts (s : Snapshot) : List Bytes :=
  counterTexts s ++ (s.entries.map Variable.shown).map variableText

theorem plainValue_eq (v : Value) : plainValue v = valueText v.kind v.render := by
  cases v <;> rfl

theorem plainVariable_eq (v : Variable) : plainVariable v = line (variableText v.shown) := by
  have ho : ascii " (" = [space, 0x28] := by decide
  have hc : ascii ") = " = 0x29 :: ascii " = " := by decide
  simp [plainVariable, variableText, Variable.shown, Variable.kind, plainValue_eq, ho, hc]

theorem plain_eq_flatMap (s : Snapshot) : plain s = (texts s).flatMap line := by
  have hv : s.entries.flatMap plainVariable =
      ((s.entries.map Variable.shown).map variableText).flatMap line := by
    rw [List.flatMap_map, List.flatMap_map]
    exact congrArg s.entries.flatMap (funext plainVariable_eq)
  rw [plain, hv, texts, List.flatMap_append]
  simp [plainHeader, counterTexts]

theorem oneLine_counterTexts (s : Snapshot) : ∀ t ∈ counterTexts s, OneLine t := by
  have hi {t : Bytes} (ht : OneLine t) (n : Int) : OneLine (t ++ Decimal.integer n) :=
    ht.append (Decimal.oneLine_integer n)
  have hb {t : Bytes} (ht : OneLine t) (b : Bool) : OneLine (t ++ ofBool b) :=
    ht.append (oneLine_ofBool b)
  simp only [counterTexts, List.forall_mem_cons]
  exact ⟨hi (by decide) _, hi (by decide) _, hi (by decide) _, hi (by decide) _, hi (by decide) _,
    hb (by decide) _, by simp⟩

theorem oneLine_plainValue (v : Value) : OneLine (plainValue v) := by
  cases v
  case int n   => exact Decimal.oneLine_integer _
  case text t  => exact oneLine_quoted t
  case bool b  => exact oneLine_ofBool b
  case float x => exact Decimal.oneLine_fixed 2 x
  case array items =>
    have hb : OneLine [0x5B] ∧ OneLine [0x5D] := by decide
    refine (hb.1.append (oneLine_joined (by decide) fun t ht => ?_)).append hb.2
    have ⟨n, _, hn⟩ := List.mem_map.mp ht
    exact hn ▸ Decimal.oneLine_integer _

theorem oneLine_variableText {v : Variable} (hn : OneLine v.name) :
    OneLine (variableText v.shown) := by
  have hv : OneLine (valueText v.kind v.value.render) := plainValue_eq _ ▸ oneLine_plainValue _
  have hk : newline ∉ v.kind.name := by cases v.kind <;> decide
  have he : newline ∉ ascii " = " := by decide
  have hb : newline ≠ space ∧ newline ≠ 0x28 ∧ newline ≠ 0x29 := by decide
  unfold OneLine at hn hv
  simp [OneLine, variableText, Variable.shown, hn, hv, hk, he, hb]

theorem oneLine_texts {s : Snapshot} (hs : s.HasWords) : ∀ t ∈ texts s, OneLine t := by
  intro t ht
  rcases List.mem_append.mp ht with ht | ht
  · exact oneLine_counterTexts s t ht
  · rw [List.map_map] at ht
    obtain ⟨v, hv, rfl⟩ := List.mem_map.mp ht
    exact oneLine_variableText (hs v hv).2

-- The lines of a report that show the variables. Six others come first.
def variableLines (report : Bytes) : List Bytes :=
  (lines report).drop 6

theorem lines_plain {s : Snapshot} (hs : s.HasWords) :
    lines (plain s)
      = (counterTexts s).map line ++ s.entries.map fun v => line (variableText v.shown) := by
  rw [plain_eq_flatMap, lines_flatMap_line (oneLine_texts hs), texts, List.map_append, List.map_map,
    List.map_map]
  rfl

theorem variableLines_plain {s : Snapshot} (hs : s.HasWords) :
    variableLines (plain s) = s.entries.map fun v => line (variableText v.shown) := by
  rw [variableLines, lines_plain hs]
  exact List.drop_left' rfl

-- What stands in a report, line by line: at which position it was made, how many variables there
-- are, and each variable on a line of its own.
structure Lists (report : Bytes) (p : Int) (entries : List Variable) : Prop where
  length   : (lines report).length = 6 + entries.length
  position : (lines report)[0]?
    = some (line (ascii "Numo 0-9 file operation at position " ++ Decimal.integer p))
  count    : (lines report)[1]?
    = some (line (ascii "Variables created: " ++ Decimal.integer (variableLines report).length))
  rows     : variableLines report = entries.map fun v => line (variableText v.shown)

theorem lists_plain {s : Snapshot} (hs : s.HasWords) (ht : s.total = s.entries.length) :
    Lists (plain s) s.position s.entries where
  length   := by
    rw [lines_plain hs, List.length_append, List.length_map, List.length_map]
    rfl
  position := by
    rw [lines_plain hs]
    rfl
  count    := by
    rw [lines_plain hs, variableLines_plain hs, List.length_map, ← ht]
    rfl
  rows     := variableLines_plain hs

theorem Lists.variableLines_grow {report report' : Bytes} {p p' : Int} {entries entries' : List Variable}
    (h : Lists report p entries) (h' : Lists report' p' entries') (he : entries <+: entries') :
    variableLines report <+: variableLines report' := by
  rw [h.rows, h'.rows]
  exact he.map _

theorem counterTexts_eq_iff {s s' : Snapshot} : counterTexts s = counterTexts s' ↔
    s.position = s'.position ∧ s.total = s'.total ∧ s.stackDepth = s'.stackDepth ∧
      s.loopDepth = s'.loopDepth ∧ s.codeLength = s'.codeLength ∧ s.debug = s'.debug := by
  have hi {n n' : Int} : Decimal.integer n = Decimal.integer n' ↔ n = n' :=
    ⟨Decimal.integer_injective, congrArg _⟩
  have hb {b b' : Bool} : ofBool b = ofBool b' ↔ b = b' := ⟨ofBool_injective, congrArg _⟩
  simp only [counterTexts, List.cons.injEq, List.append_cancel_left_eq, and_true, hi, hb]

theorem valueText_injective {kind : Kind} {t t' : Bytes}
    (h : valueText kind t = valueText kind t') : t = t' := by
  unfold valueText at h
  split at h
  case isTrue  => exact quoted_injective h
  case isFalse => exact h

-- The name ends at the first blank, and the kind at the bracket behind it.
theorem variableText_injective {x x' : Bytes × Kind × Bytes} (hn : space ∉ x.1) (hn' : space ∉ x'.1)
    (h : variableText x = variableText x') : x = x' := by
  have hk (k : Kind) : 0x29 ∉ k.name := by cases k <;> decide
  obtain ⟨name, kind, t⟩ := x
  obtain ⟨name', kind', t'⟩ := x'
  have ⟨hname, h⟩ := append_cons_injective hn hn' h
  have ⟨hkind, h⟩ := append_cons_injective (hk _) (hk _) (List.tail_eq_of_cons_eq h)
  cases Kind.name_injective hkind
  have ht := valueText_injective (List.append_cancel_left h)
  rw [show name = name' from hname, ht]

theorem map_variableText_injective {xs xs' : List (Bytes × Kind × Bytes)}
    (hx : ∀ x ∈ xs, space ∉ x.1) (hx' : ∀ x ∈ xs', space ∉ x.1)
    (h : xs.map variableText = xs'.map variableText) : xs = xs' := by
  induction xs generalizing xs' <;> cases xs'
  case nil.nil  => rfl
  case nil.cons => cases h
  case cons.nil => cases h
  case cons.cons x xs hi x' xs' =>
    have ⟨hw, hws⟩ := List.forall_mem_cons.mp hx
    have ⟨hw', hws'⟩ := List.forall_mem_cons.mp hx'
    have ⟨h, hs⟩ := List.cons.inj h
    rw [variableText_injective hw hw' h, hi hws hws' hs]

theorem texts_injective {s s' : Snapshot} (hs : s.HasWords) (hs' : s'.HasWords)
    (h : texts s = texts s') :
    counterTexts s = counterTexts s' ∧
      s.entries.map Variable.shown = s'.entries.map Variable.shown := by
  have hw {s : Snapshot} (hs : s.HasWords) : ∀ x ∈ s.entries.map Variable.shown, space ∉ x.1 := by
    intro x hx
    obtain ⟨v, hv, rfl⟩ := List.mem_map.mp hx
    exact (hs v hv).1
  have ⟨hc, hv⟩ := List.append_inj h rfl
  exact ⟨hc, map_variableText_injective (hw hs) (hw hs') hv⟩

-- A plain report tells what it was made of. Where the names of the variables are single words, two
-- reports are the same exactly if all counters are the same and the same variables are shown with
-- the same values, and a report has six lines and one for each variable, each of which ends in a
-- newline and has no other.
theorem plain_unambiguous {s s' : Snapshot} (hs : s.HasWords) (hs' : s'.HasWords) :
    (plain s = plain s' ↔
      (s.position = s'.position ∧ s.total = s'.total ∧ s.stackDepth = s'.stackDepth ∧
        s.loopDepth = s'.loopDepth ∧ s.codeLength = s'.codeLength ∧ s.debug = s'.debug) ∧
      s.entries.map Variable.shown = s'.entries.map Variable.shown) ∧
    (lines (plain s)).length = 6 + s.entries.length ∧
    ∀ l ∈ lines (plain s), ∃ t, OneLine t ∧ l = line t := by
  have hl := lines_flatMap_line (oneLine_texts hs)
  simp only [plain_eq_flatMap, hl, ← counterTexts_eq_iff]
  refine ⟨⟨fun h => ?_, fun ⟨hc, hv⟩ => ?_⟩, ?_, ?_⟩
  · exact texts_injective hs hs' (flatMap_line_injective (oneLine_texts hs) (oneLine_texts hs') h)
  · rw [texts, texts, hc, hv]
  · simp [texts, counterTexts]
    omega
  · intro l hl
    obtain ⟨t, ht, rfl⟩ := List.mem_map.mp hl
    exact ⟨t, oneLine_texts hs t ht, rfl⟩

-- A text of three bytes, and one that spells out how these bytes are quoted.
theorem plain_unambiguous_spelled_out :
    let s : Snapshot := { (default : Snapshot) with
      entries := [⟨ascii "var_4_0", .text [0x61, newline, 0xFF]⟩] }
    let s' : Snapshot := { (default : Snapshot) with
      entries := [⟨ascii "var_4_0", .text (ascii "a\\n\\xff")⟩] }
    s.HasWords ∧ s'.HasWords ∧ plain s ≠ plain s' ∧ (lines (plain s)).length = 7 := by
  intro s s'
  have hs : s.HasWords := by decide
  have hs' : s'.HasWords := by decide
  have ⟨he, hl, _⟩ := plain_unambiguous hs hs'
  have hv : s.entries.map Variable.shown ≠ s'.entries.map Variable.shown := by decide
  exact ⟨hs, hs', fun h => hv (he.mp h).2, hl⟩

end Report
end Denary
