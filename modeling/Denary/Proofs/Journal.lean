import Denary.World
import Denary.Proofs.Record

-- What a journal writes is decided by the calls that were made on it before. Whether messages of low
-- severity are written is up to the last call that had a say in it, and so is where the copies go.
-- The journal itself only keeps a flag, a list of categories and the number of its receivers.

namespace Denary

theorem Level.isLow_iff {l : Level} : l.isLow = true ↔ l ∈ [trace, info, debug] := by
  cases l <;> simp [isLow]

namespace Journal

section

variable (j : Journal)

theorem isEnabled_enable (c c' : Category) :
    (j.enable c).isEnabled c' = (c == c' || j.isEnabled c') := by
  rw [Bool.eq_iff_iff]
  by_cases h : c = c'
  case pos => simp [isEnabled, enable, h]
  case neg => simp [isEnabled, enable, h, Ne.symm h]

theorem isEnabled_disable (c c' : Category) :
    (j.disable c).isEnabled c' = (c != c' && j.isEnabled c') := by
  rw [Bool.eq_iff_iff]
  by_cases h : c = c'
  case pos => simp [isEnabled, disable, h]
  case neg => simp [isEnabled, disable, h, Ne.symm h]

-- All that enabling categories changes is which ones are enabled.
theorem foldl_enable (cs : List Category) :
    (cs.foldl enable j).enabled = j.enabled ∧ (cs.foldl enable j).coloured = j.coloured ∧
      (cs.foldl enable j).receivers = j.receivers ∧
      ∀ c, (cs.foldl enable j).isEnabled c = (cs.contains c || j.isEnabled c) := by
  induction cs generalizing j
  case nil => simp
  case cons c cs hi =>
    have ⟨he, hc, hr, hs⟩ := hi (j.enable c)
    refine ⟨he, hc, hr, fun c' => ?_⟩
    rw [List.foldl_cons, hs, isEnabled_enable, List.contains_cons, ← Bool.or_assoc,
      Bool.or_comm (cs.contains c'), Bool.beq_comm]

end

-- The calls of a journal. Copies of what it writes go to the writers that are attached to it.
inductive Call (ω : Type) where
  | setEnabled (enabled : Bool)
  | enable (c : Category)
  | disable (c : Category)
  | enableAll
  | attach (writers : List ω)
  | log (r : Record)

-- The severities from debugging upwards. A writer takes no others.
def severities : List Bytes :=
  [ascii "DEBUG", ascii "INFO", ascii "WARN", ascii "ERROR"]

-- A journal at work, with all that it wrote and all that it sent to its writers, oldest first.
structure Desk (ω : Type) where
  journal : Journal
  writers : List ω
  world   : World
  sent    : List (ω × Bytes)

namespace Desk

variable {ω : Type}

def start (enabled coloured : Bool) (w : World) : Desk ω where
  journal := (Journal.start enabled).setColoured coloured
  writers := []
  world   := w
  sent    := []

-- What an entry sends: the copy for the `k`th receiver goes to the `k`th writer.
def copies (writers : List ω) (e : Entry) : List (ω × Bytes) :=
  if e.record.level.severity ∈ severities then
    writers.zipIdx.map fun (writer, k) => (writer, e.copyFor k)
  else []

def apply (d : Desk ω) : Call ω → Desk ω
  | .setEnabled enabled => { d with journal := d.journal.setEnabled enabled }
  | .enable c           => { d with journal := d.journal.enable c }
  | .disable c          => { d with journal := d.journal.disable c }
  | .enableAll          => { d with journal := d.journal.enableAll }
  | .attach writers     =>
    { d with journal := d.journal.attach writers.length, writers := writers }
  | .log r              =>
    { d with
      world := d.world.log d.journal r
      sent  := d.sent ++ (d.journal.written? r).toList.flatMap (copies d.writers) }

def perform (d : Desk ω) (calls : List (Call ω)) : Desk ω :=
  calls.foldl apply d

-- What went to the two outputs.

def normal (d : Desk ω) : Bytes :=
  d.world.events.flatMap Event.normal

def errors (d : Desk ω) : Bytes :=
  d.world.events.flatMap Event.errors

end Desk

namespace Call

variable {ω α : Type}

-- What a call says about messages of low severity, about a category and about the writers, if it
-- says anything.

def enabled? : Call ω → Option Bool
  | setEnabled enabled => some enabled
  | _                  => none

def category? (c : Category) : Call ω → Option Bool
  | enable c'  => if c' = c then some true else none
  | disable c' => if c' = c then some false else none
  | enableAll  => if c ∈ Category.all then some true else none
  | _          => none

def writers? : Call ω → Option (List ω)
  | attach writers => some writers
  | _              => none

-- The last word that was spoken in calls.
def lastWord (word : Call ω → Option α) (first : α) (calls : List (Call ω)) : α :=
  (calls.filterMap word).getLast?.getD first

theorem lastWord_concat (word : Call ω → Option α) (first : α) (calls : List (Call ω))
    (call : Call ω) :
    lastWord word first (calls ++ [call]) = (word call).getD (lastWord word first calls) := by
  unfold lastWord
  rw [List.filterMap_append]
  cases h : word call
  case none   => simp [h]
  case some a => simp [h]

-- Whether a record is written after calls on a journal that was made enabled or not.
def Writes (b : Bool) (past : List (Call ω)) (r : Record) : Prop :=
  r.level ∈ [.notice, .warn, .error, .fatal] ∨
  r.level ∈ [.trace, .info, .debug] ∧ lastWord enabled? b past = true ∧
    (r.category = Category.none ∨
      lastWord (category? r.category) (b && r.category ∈ Category.all) past = true)

instance (b : Bool) (past : List (Call ω)) (r : Record) : Decidable (Writes b past r) :=
  inferInstanceAs (Decidable (_ ∨ _))

-- A record that was written, and the writers that were attached at that moment.
structure Written (ω : Type) where
  record  : Record
  writers : List ω

def written? (b : Bool) (past : List (Call ω)) : Call ω → Option (Written ω)
  | log r => if Writes b past r then some ⟨r, lastWord writers? [] past⟩ else none
  | _     => none

-- What calls write that come after others, in their order.
def written (b : Bool) (past : List (Call ω)) : List (Call ω) → List (Written ω)
  | []            => []
  | call :: calls => (call.written? b past).toList ++ written b (past ++ [call]) calls

namespace Written

def entry (coloured : Bool) (x : Written ω) : Entry :=
  ⟨x.record, coloured, x.writers.length⟩

-- The line that a record becomes that is not of low severity.
def errorLine (coloured : Bool) (x : Written ω) : Bytes :=
  Text.line (if coloured then warningColour ++ x.record.text ++ plainColour else x.record.text)

-- One copy for each of the writers.
def copies (x : Written ω) : List (ω × Bytes) :=
  x.writers.map fun writer => (writer, x.record.structured)

end Written
end Call

namespace Desk

open Call

section

variable {ω : Type} (d : Desk ω) (call : Call ω)

theorem enabled_apply :
    (d.apply call).journal.enabled = call.enabled?.getD d.journal.enabled := by
  cases call
  case enableAll => exact (d.journal.foldl_enable Category.all).left
  all_goals rfl

theorem isEnabled_apply (c : Category) :
    (d.apply call).journal.isEnabled c = (call.category? c).getD (d.journal.isEnabled c) := by
  cases call
  case enable c' =>
    refine (d.journal.isEnabled_enable c' c).trans ?_
    by_cases h : c' = c <;> simp [category?, h]
  case disable c' =>
    refine (d.journal.isEnabled_disable c' c).trans ?_
    by_cases h : c' = c <;> simp [category?, h]
  case enableAll =>
    have ⟨_, _, _, hs⟩ := d.journal.foldl_enable Category.all
    refine (hs c).trans ?_
    by_cases h : c ∈ Category.all <;> simp [category?, h]
  all_goals rfl

theorem writers_apply : (d.apply call).writers = call.writers?.getD d.writers := by
  cases call <;> rfl

theorem coloured_apply : (d.apply call).journal.coloured = d.journal.coloured := by
  cases call
  case enableAll => exact (d.journal.foldl_enable Category.all).right.left
  all_goals rfl

theorem receivers_apply (h : d.journal.receivers = d.writers.length) :
    (d.apply call).journal.receivers = (d.apply call).writers.length := by
  cases call
  case enableAll => exact (d.journal.foldl_enable Category.all).right.right.left.trans h
  case attach    => rfl
  all_goals exact h

end

variable {ω : Type} {b coloured : Bool} {past : List (Call ω)} {d : Desk ω}

-- What a desk knows after calls is what was last said in them.
structure Reflects (b coloured : Bool) (past : List (Call ω)) (d : Desk ω) : Prop where
  enabled   : d.journal.enabled = lastWord enabled? b past
  category  : ∀ c, d.journal.isEnabled c = lastWord (category? c) (b && c ∈ Category.all) past
  writers   : d.writers = lastWord writers? [] past
  receivers : d.journal.receivers = d.writers.length
  coloured  : d.journal.coloured = coloured

theorem reflects_start (b coloured : Bool) (w : World) :
    Reflects b coloured [] (start b coloured w : Desk ω) where
  enabled    := rfl
  category c := by cases b <;> simp [start, Journal.start, setColoured, isEnabled, lastWord]
  writers    := rfl
  receivers  := rfl
  coloured   := rfl

namespace Reflects

variable (h : Reflects b coloured past d)
include h

theorem apply (call : Call ω) : Reflects b coloured (past ++ [call]) (d.apply call) where
  enabled    := by rw [lastWord_concat, ← h.enabled, enabled_apply]
  category c := by rw [lastWord_concat, ← h.category, isEnabled_apply]
  writers    := by rw [lastWord_concat, ← h.writers, writers_apply]
  receivers  := d.receivers_apply call h.receivers
  coloured   := (d.coloured_apply call).trans h.coloured

theorem accepts_iff (r : Record) :
    d.journal.accepts r.level r.category = true ↔ Writes b past r := by
  have hl : (d.journal.enabled && (r.category == Category.none || d.journal.isEnabled r.category))
      = true ↔ lastWord enabled? b past = true ∧ (r.category = Category.none ∨
        lastWord (category? r.category) (b && r.category ∈ Category.all) past = true) := by
    rw [h.enabled, h.category]
    simp
  unfold accepts Writes
  rw [← hl]
  cases r.level <;> simp

-- A record that is written is an entry for as many receivers as there are writers.
theorem written?_eq (r : Record) :
    d.journal.written? r = ((Call.log r).written? b past).map (Written.entry coloured) := by
  unfold Journal.written? Call.written?
  simp only [h.accepts_iff r, h.coloured, h.receivers, h.writers]
  split <;> rfl

end Reflects

-- Each writer takes what is sent to it, as there is no record whose severity is too low.
theorem copies_entry (x : Written ω) : copies x.writers (x.entry coloured) = x.copies := by
  have hs : x.record.level.severity ∈ severities := by
    unfold Level.severity severities
    cases x.record.level <;> simp
  have hc (y : ω × Nat) (hy : y ∈ x.writers.zipIdx) :
      (y.1, (x.entry coloured).copyFor y.2) = (y.1, x.record.structured) := by
    have hk : y.2 < x.writers.length := by simpa using List.snd_lt_add_of_mem_zipIdx hy
    rw [Entry.copyFor, Written.entry, if_pos hk]
  have hm : copies x.writers (x.entry coloured)
      = x.writers.zipIdx.map fun y => (y.1, (x.entry coloured).copyFor y.2) := if_pos hs
  have hz : x.writers.zipIdx.map Prod.fst = x.writers := List.zipIdx_map_fst 0 x.writers
  calc copies x.writers (x.entry coloured)
    _ = x.writers.zipIdx.map fun y => (y.1, x.record.structured) := by
      rw [hm, List.map_congr_left hc]
    _ = (x.writers.zipIdx.map Prod.fst).map fun writer => (writer, x.record.structured) :=
      by rw [List.map_map]; rfl
    _ = x.copies := by rw [hz, Written.copies]

theorem snd_of_mem_copies {x : Written ω} {copy : ω × Bytes} (h : copy ∈ x.copies) :
    copy.2 = x.record.structured := by
  obtain ⟨_, _, rfl⟩ := List.mem_map.mp h
  rfl

-- Whichever writer some of the copies are for, each of them is a line of what they are together.
theorem lines_copies {xs : List (Written ω)} {copies : List (ω × Bytes)}
    (h : ∀ copy ∈ copies, copy ∈ xs.flatMap Written.copies) :
    Text.lines (copies.flatMap Prod.snd) = copies.map Prod.snd := by
  refine Text.lines_flatMap fun copy hc => ?_
  obtain ⟨x, _, hx⟩ := List.mem_flatMap.mp (h copy hc)
  rw [snd_of_mem_copies hx]
  exact x.record.isLine_structured

-- One call on a desk: what it writes is added to the history and sent to the writers.
theorem Reflects.world_apply (h : Reflects b coloured past d) (call : Call ω) :
    (d.apply call).world.events
        = d.world.events ++ (call.written? b past).toList.map (.logged <| ·.entry coloured) ∧
      (d.apply call).sent = d.sent ++ (call.written? b past).toList.flatMap Written.copies := by
  cases call
  case log r =>
    simp only [Desk.apply, World.log, h.written?_eq]
    cases hw : (Call.log r).written? b past
    case none => simp
    case some x =>
      have hx : x.writers = d.writers := by
        have ⟨_, hx⟩ := Option.ite_none_right_eq_some.mp hw
        cases hx
        exact h.writers.symm
      simp [World.events, ← hx, copies_entry]
  all_goals simp [Desk.apply, Call.written?]

theorem Reflects.perform (h : Reflects b coloured past d) (calls : List (Call ω)) :
    (d.perform calls).world.events
        = d.world.events ++ (written b past calls).map (.logged <| ·.entry coloured) ∧
      (d.perform calls).sent = d.sent ++ (written b past calls).flatMap Written.copies := by
  induction calls generalizing d past
  case nil => simp [Desk.perform, written]
  case cons call calls hi =>
    have ⟨hw, hs⟩ := h.world_apply call
    have ⟨hw', hs'⟩ := hi (h.apply call)
    unfold written
    rw [List.map_append, List.flatMap_append, ← List.append_assoc, ← List.append_assoc, ← hw, ← hs]
    exact ⟨hw', hs'⟩

theorem flatMap_normal (coloured : Bool) (xs : List (Written ω)) :
    (xs.map (Event.logged <| ·.entry coloured)).flatMap Event.normal
      = (xs.filter (·.record.level ∈ [.trace, .info, .debug])).flatMap (Text.line ·.record.text) := by
  induction xs
  case nil => rfl
  case cons x xs hi =>
    rw [List.map_cons, List.flatMap_cons, hi, List.filter_cons]
    by_cases hl : x.record.level ∈ [.trace, .info, .debug]
    all_goals simp [Event.normal, Entry.normalLine, Written.entry, Level.isLow_iff, hl]

theorem flatMap_errors (coloured : Bool) (xs : List (Written ω)) :
    (xs.map (Event.logged <| ·.entry coloured)).flatMap Event.errors
      = (xs.filter (·.record.level ∉ [.trace, .info, .debug])).flatMap (·.errorLine coloured) := by
  induction xs
  case nil => rfl
  case cons x xs hi =>
    rw [List.map_cons, List.flatMap_cons, hi, List.filter_cons]
    by_cases hl : x.record.level ∈ [.trace, .info, .debug]
    case pos => simp [Event.errors, Entry.errorLine, Written.entry, Level.isLow_iff, hl]
    case neg =>
      cases coloured
      all_goals
        simp [Event.errors, Entry.errorLine, Written.entry, Level.isLow_iff, hl, Written.errorLine]

-- What a journal does is decided by the history of its calls. Whatever was called on a journal that
-- was made enabled or not, exactly the records that the calls before them let through are written,
-- one after another: those of low severity to the normal output and the others to the error output,
-- and one copy of each to every writer that was attached at that moment. What comes to a writer has one
-- line for each of its copies, which shows how serious the record is. There are ten categories that
-- are known by name.
theorem history_decides (b coloured : Bool) (w : World) (calls : List (Call ω)) :
    let d       := (start b coloured w).perform calls
    let records := written b [] calls
    d.normal = w.events.flatMap Event.normal
      ++ (records.filter (·.record.level ∈ [.trace, .info, .debug])).flatMap
        (Text.line ·.record.text) ∧
    d.errors = w.events.flatMap Event.errors
      ++ (records.filter (·.record.level ∉ [.trace, .info, .debug])).flatMap
        (·.errorLine coloured) ∧
    d.sent = records.flatMap Written.copies ∧
    (∀ own : ω → Bool, Text.lines ((d.sent.filter (own ·.1)).flatMap Prod.snd)
      = (d.sent.filter (own ·.1)).map Prod.snd) ∧
    (∀ x ∈ records, ∀ copy ∈ x.copies, ∀ severity : Bytes, 0x22 ∉ severity →
      (Record.Shows severity copy.2 ↔ severity = x.record.level.severity)) ∧
    Category.all = [ascii "parse", ascii "command", ascii "variable", ascii "io", ascii "math",
      ascii "string", ascii "flow", ascii "binary", ascii "report", ascii "system"] := by
  intro d records
  have ⟨hw, hs⟩ := (reflects_start b coloured w).perform calls
  have hsent : d.sent = records.flatMap Written.copies := hs
  refine ⟨?_, ?_, hsent, fun own => ?_, fun x _ copy hc severity hq => ?_, rfl⟩
  · rw [normal, hw, List.flatMap_append, flatMap_normal]
    rfl
  · rw [errors, hw, List.flatMap_append, flatMap_errors]
    rfl
  · have hc : ∀ copy ∈ d.sent.filter (own ·.1), copy ∈ records.flatMap Written.copies :=
      fun copy hc => hsent ▸ (List.mem_filter.mp hc).left
    exact lines_copies hc
  · rw [snd_of_mem_copies hc]
    exact Record.shows_structured_iff hq

-- The console is out of the journal for a while, and the writers come late.
example :
    let note (level : Level) (c : Category) : Call Nat := .log ⟨level, c, ascii "x", 4⟩
    let calls := [.disable (ascii "io"), note .debug (ascii "io"), note .debug (ascii "flow"),
      note .warn (ascii "io"), .attach [0, 1], note (.unlisted 9) [], .setEnabled false,
      note .trace [], note .fatal [], .enable (ascii "io"), .setEnabled true, note .info (ascii "io")]
    (written true [] calls).map (fun x => (x.record.level, x.writers))
      = [(.debug, []), (.warn, []), (.fatal, [0, 1]), (.info, [0, 1])] := by
  decide

end Desk
end Journal
end Denary
