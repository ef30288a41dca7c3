import Denary.Proofs.Disk
import Denary.Proofs.Lookahead
import Denary.Proofs.Parallel
import Denary.Proofs.PlainReport
import Denary.Proofs.Provenance

-- The reports of a program. Each of them is a file of its own, which nothing that comes later touches
-- again, and as variables are only ever added, each report begins like the one before it.

namespace Denary

-- A path to which a file can be written.
def Disk.Writable (d : Disk) (path : Bytes) : Prop :=
  ∀ data, ∃ d', d.write path data = .ok d'

theorem Disk.read_of_at? {d : Disk} {path data : Bytes} {q : Place} (hq : d.resolve path = .ok q)
    (h : d.at? q = some (.file data)) : d.read path = .ok data := by
  rw [Disk.read, hq]
  simp only [h]

theorem Disk.SameFolder.writable {d d' : Disk} {directory name : Bytes}
    (h : SameFolder (Path.folder directory) d d') (hn : Path.Proper name)
    (hw : d.Writable (Path.folder directory ++ name)) :
    d'.Writable (Path.folder directory ++ name) := by
  intro data
  have ⟨d₁, hw⟩ := hw data
  rcases h.write hn data data with ⟨e, he, _⟩ | ⟨_, _, _, _, _, hw'⟩
  · cases he.symm.trans hw
  · exact ⟨_, hw'⟩

namespace Report.Destination

variable {d : Destination} {archive : Archive} {s : Snapshot} {p p' : Int} {q : Place}

theorem resolve_injective {disk : Disk} (h : disk.resolve (d.path p) = .ok q)
    (h' : disk.resolve (d.path p') = .ok q) : p = p' := by
  rw [d.path_eq] at h h'
  have ⟨_, _, he⟩ := Disk.folder_of_resolve (proper_fileName p) h
  have ⟨_, _, he'⟩ := Disk.folder_of_resolve (proper_fileName p') h'
  have hl := congrArg List.getLast? (he.symm.trans he')
  simp only [List.getLast?_concat, Option.some.injEq] at hl
  exact fileName_injective hl

theorem path_injective (h : d.path p = d.path p') : p = p' := by
  rw [d.path_eq, d.path_eq] at h
  exact fileName_injective (List.append_cancel_left h)

theorem writable_of_sameFolder {disk disk' : Disk}
    (h : Disk.SameFolder (Path.folder d.directory) disk disk') (hw : disk.Writable (d.path p)) :
    disk'.Writable (d.path p) := by
  rw [d.path_eq] at hw ⊢
  exact h.writable (proper_fileName p) hw

-- A plain report becomes a file.
theorem reporter_writes (hf : d.format = ascii "text")
    (hw : archive.disk.Writable (d.path s.position)) :
    ∃ q, archive.disk.resolve (d.path s.position) = .ok q ∧ q.isFixed = false ∧
      d.reporter s archive
        = ({ archive with disk := archive.disk.put q (.file (plain s)) }, .ok (d.path s.position)) := by
  have hd : render d.format s = .ok (plain s) := by
    rw [hf]
    rfl
  have ⟨d', hw⟩ := hw (plain s)
  rw [d.reporter_of_render hd]
  rw [d.path_eq] at hw ⊢
  have hr := Disk.SameFolder.refl (Path.folder d.directory) archive.disk
  rcases hr.write (proper_fileName s.position) (plain s) (plain s) with
    ⟨e, he, _⟩ | ⟨place, _, hq, _, hw', _⟩
  · cases he.symm.trans hw
  · refine ⟨_, hq, Disk.isFixed_concat (proper_fileName s.position) place, ?_⟩
    rw [hw']

-- On an empty disk, there is room for every report in the current directory.
theorem writable_empty (hd : d.directory = Path.dot) {code : Code} (h₀ : 0 ≤ p)
    (hp : p < code.size) : Disk.empty.Writable (d.path p) := by
  have hf : Path.folder d.directory = [] := by
    rw [hd]
    decide
  have hl : (fileName p).length ≤ Disk.maxName := by
    obtain ⟨n, rfl⟩ := Int.eq_ofNat_of_zero_le h₀
    have hn : n < Nat.pow 10 (18 + 1) := Nat.lt_of_lt_of_le (Int.ofNat_lt.mp hp)
      (Nat.le_trans code.size_le (by decide))
    have hl := Decimal.length_natural_le hn
    have ha : (ascii "numo_output_").length = 12 ∧ (ascii ".txt").length = 4 := ⟨rfl, rfl⟩
    change _ ≤ 255
    rw [fileName, Decimal.integer_natCast, List.length_append,
      List.length_append, ha.left, ha.right]
    omega
  have hq : Disk.empty.resolve (Path.folder d.directory ++ fileName p) = .ok [fileName p] := by
    have hl' : ¬ Disk.maxPath < ([] ++ fileName p).length := by
      change ¬ 4095 < (fileName p).length
      change _ ≤ 255 at hl
      omega
    have hn : Disk.empty.follow Place.here [fileName p] = .ok [fileName p] := by
      rw [Disk.follow_name (proper_fileName p)]
      exact if_neg (Nat.not_lt.mpr hl)
    rw [Disk.resolve_folder Disk.empty d.directory (proper_fileName p), hf, if_neg hl']
    exact hn
  have hr : Disk.empty.at? [fileName p] ≠ some .directory := by
    have hx : Place.isFixed [fileName p] = false :=
      Disk.isFixed_concat (proper_fileName p) Place.here
    rw [Disk.at?, hx]
    intro h
    cases h
  intro data
  rw [d.path_eq, Disk.write_folder Disk.empty d.directory (proper_fileName p), hq]
  exact ⟨_, if_neg hr⟩

-- Reports of different positions become one file each, and no other place is touched.
theorem deliver_files (hf : d.format = ascii "text") {ss : List Snapshot}
    (hp : ss.Pairwise (·.position ≠ ·.position))
    (hw : ∀ s ∈ ss, archive.disk.Writable (d.path s.position)) :
    (∀ s ∈ ss, (Reporter.deliver d.reporter archive ss).disk.read (d.path s.position)
      = .ok (plain s)) ∧
    ∀ q, (∀ s ∈ ss, archive.disk.resolve (d.path s.position) ≠ .ok q) →
      (Reporter.deliver d.reporter archive ss).disk.at? q = archive.disk.at? q := by
  induction ss generalizing archive
  case nil => exact ⟨nofun, fun _ _ => rfl⟩
  case cons s ss hi =>
    have ⟨hs, hss⟩ := List.pairwise_cons.mp hp
    have ⟨q, hq, hx, hr⟩ := reporter_writes hf (hw s List.mem_cons_self)
    have hk := d.sameFolder_reporter s archive
    -- The paths lead to the same places as before.
    have hres (p : Int) : (d.reporter s archive).1.disk.resolve (d.path p)
        = archive.disk.resolve (d.path p) := by
      rw [d.path_eq]
      exact (hk.resolve (proper_fileName p)).symm
    have ⟨hi₁, hi₂⟩ := @hi (d.reporter s archive).1 hss fun s' hs' =>
      writable_of_sameFolder hk (hw s' (List.mem_cons_of_mem s hs'))
    have hfile : (d.reporter s archive).1.disk.at? q = some (.file (plain s)) := by
      rw [hr]
      exact Disk.at?_put_self hx archive.disk _
    constructor
    case left =>
      intro s' hs'
      rcases List.mem_cons.mp hs' with rfl | hs'
      · have hq' : (Reporter.deliver d.reporter archive (s' :: ss)).disk.resolve (d.path s'.position)
            = .ok q := by
          have hf := d.sameFolder_deliver (s' :: ss) archive
          rw [d.path_eq] at hq ⊢
          rw [← hf.resolve (proper_fileName s'.position), hq]
        have hn : ∀ s'' ∈ ss, (d.reporter s' archive).1.disk.resolve (d.path s''.position) ≠ .ok q := by
          intro s'' hs'' h
          rw [hres] at h
          exact hs s'' hs'' (resolve_injective hq h)
        exact Disk.read_of_at? hq' ((hi₂ q hn).trans hfile)
      · exact hi₁ s' hs'
    case right =>
      intro r hn
      have hne : r ≠ q := by
        rintro rfl
        exact hn s List.mem_cons_self hq
      have hn' : ∀ s' ∈ ss, (d.reporter s archive).1.disk.resolve (d.path s'.position) ≠ .ok r := by
        intro s' hs'
        rw [hres]
        exact hn s' (List.mem_cons_of_mem s hs')
      refine (hi₂ r hn').trans ?_
      rw [hr]
      exact Disk.at?_put_of_ne hne archive.disk _

end Report.Destination

namespace Engine.Dispatch

-- The snapshot that a digit hands over if it makes a report.
def snapshot (env : Environment) (d : Dispatch) : Snapshot :=
  (handed env d.before).state.snapshot env.code env.settings.debug

-- What was printed while a digit was taken.
def printed (d : Dispatch) : List Bytes :=
  d.after.world.printed.drop d.before.world.printed.length

end Engine.Dispatch

namespace Library

variable {extended : Bool} {env : Environment} {site : Site} {m : Machine} {r : Engine.Run}
  {dest : Report.Destination}

-- No other digit makes a report.
theorem reported_account (hd : site.digit ≠ 0x39) (m : Machine) :
    (account extended env site m).reported = [] := by
  have hR : Remarks.Tolerates (fun a _ => a.reported = []) env env :=
    { append     := fun ha hb => by simp [ha, hb]
      prints     := fun _ => rfl
      warns      := fun _ _ => rfl
      lost _ _ _ := by
        unfold Remarks.lost
        split <;> rfl
      status     := fun _ => rfl }
  have hm : m.Parallel (fun a _ => a.reported = []) env env m m m := .refl hR rfl rfl
  exact (account_parallel hR ⟨rfl, rfl, rfl, rfl⟩ hm (absurd · hd)).remarks

theorem reported_transcript (hd : (Engine.siteOf env m).digit ≠ 0x39) :
    (transcript extended env m).reported = [] := by
  unfold transcript
  repeat' split
  case isTrue.isTrue => exact reported_account hd _
  all_goals rfl

theorem transcript_report (hc : m.state.cursor < env.code.size)
    (hd : (Engine.siteOf env m).digit = 0x39) :
    (transcript extended env m).toRemarks
      = (Account.report env (Engine.siteOf env m) (Engine.handed env m)).toRemarks := by
  have hb : ¬ ((Engine.siteOf env m).digit = 0x30 ∨ (Engine.siteOf env m).digit = 0x31) := by
    rw [hd]
    decide
  have hcl : Engine.closing? env m = none := by
    rw [Engine.closing?, if_pos hc, hd]
    rfl
  have ht : (table extended (Engine.siteOf env m).digit).isSome := by
    rw [hd]
    cases extended <;> rfl
  have ha : account extended env (Engine.siteOf env m) (Engine.handed env m)
      = Account.report env (Engine.siteOf env m) (Engine.handed env m) := by
    unfold account
    rw [hd]
    rfl
  have hg : Text.isDigit (Engine.siteOf env m).digit = true := by
    rw [hd]
    rfl
  unfold transcript
  rw [if_neg hb, hcl, if_pos hg, if_pos ht, ha]

-- A report that can be written is written and announced.
theorem report_written (hr : env.reporter = some dest.reporter) (hf : dest.format = ascii "text")
    (hw : m.world.archive.disk.Writable (dest.path m.state.cursor)) (site : Site) :
    (Account.report env site m).toRemarks
      = { printed  := [Opcode.placeLine (dest.path m.state.cursor)]
          reported := [m.state.snapshot env.code env.settings.debug] } := by
  have ⟨_, _, _, ha⟩ := Report.Destination.reporter_writes
    (s := m.state.snapshot env.code env.settings.debug) hf hw
  unfold Account.report
  rw [hr]
  dsimp only
  rw [ha]
  rfl

theorem runs_folder (hr : env.reporter = some dest.reporter)
    (h : Engine.Runs (table extended) env m r) : ∀ m' ∈ r.machines,
      Disk.SameFolder (Path.folder dest.directory) m.world.archive.disk m'.world.archive.disk := by
  have hk {a : Remarks} {m₁ m₂ : Machine} (hd : a.Describes env m₁ m₂)
      (hm : Disk.SameFolder (Path.folder dest.directory) m.world.archive.disk
        m₁.world.archive.disk) :
      Disk.SameFolder (Path.folder dest.directory) m.world.archive.disk
        m₂.world.archive.disk := by
    rw [hd.archive, Environment.deliver, hr]
    exact hm.trans (dest.sameFolder_deliver ..)
  refine h.forall_machines
    (I := fun m' => Disk.SameFolder (Path.folder dest.directory) m.world.archive.disk
      m'.world.archive.disk) id ?_ ?_ (.refl _ _)
  · intro m₁ after answer hm _ hs
    have hd := (step_transcript extended env m₁).remarks
    rw [hs] at hd
    have hm' := hk hd hm
    exact ⟨hm', fun _ => hm'⟩
  · intro m₁ hm
    exact hk (describes_finish env m₁) hm

-- What the digits of a run hand over: each nine its snapshot, and the others nothing.
theorem reported_said {reporter : Reporter} (hr : env.reporter = some reporter)
    (h : Engine.Runs (table extended) env m r) :
    (said extended env r.dispatches).reported
      = (r.dispatches.filter (·.site.digit = 0x39)).map (Engine.Dispatch.snapshot env) := by
  have hd (d) (hm : d ∈ r.dispatches) : (transcript extended env d.before).reported
      = if d.site.digit = 0x39 then [d.snapshot env] else [] := by
    have ⟨hs, hc, _⟩ := h.taken_of_mem hm
    rw [hs]
    split
    case isFalse h₉ => exact reported_transcript h₉
    case isTrue h₉  =>
      rw [transcript_report hc h₉, Account.report, hr]
      dsimp only
      cases (reporter _ (Engine.handed env d.before).world.archive).2 <;> rfl
  generalize r.dispatches = ds at hd
  induction ds
  case nil => rfl
  case cons d ds hi =>
    rw [said_cons, Remarks.reported_append, hd d List.mem_cons_self,
      hi fun d' hm => hd d' (List.mem_cons_of_mem d hm), List.filter_cons]
    by_cases h₉ : d.site.digit = 0x39 <;> simp [h₉]

-- Variables are never taken back.
theorem step_grows (extended : Bool) (env : Environment) (m : Machine) :
    m.state.store.toList <+: (Engine.step (table extended) env m).1.state.store.toList := by
  rcases step_store extended env m with h | ⟨_, h⟩
  · exact h ▸ List.prefix_refl _
  · rw [h, Bounded.toList_offer, List.prefix_take_iff]
    exact ⟨List.prefix_append _ _, m.state.store.length_toList_le⟩

theorem runs_grow (h : Engine.Runs (table extended) env m r) :
    r.dispatches.Pairwise (fun d d' =>
      d.before.state.store.toList <+: d'.before.state.store.toList) ∧
    ∀ d ∈ r.dispatches, m.state.store.toList <+: d.before.state.store.toList := by
  induction h
  case finish m _ => simp [Engine.finish_dispatches]
  case crash      => simp
  case step m after outcome r _ hs _ hi =>
    have ⟨hp, ha⟩ := hi
    have hg := step_grows extended env m
    rw [hs] at hg
    have hl : ∀ d ∈ r.dispatches, m.state.store.toList <+: d.before.state.store.toList :=
      fun d hd => hg.trans (ha d hd)
    refine ⟨List.pairwise_cons.mpr ⟨hl, hp⟩, ?_⟩
    intro d hd
    rcases List.mem_cons.mp hd with rfl | hd
    · exact List.prefix_refl _
    · exact hl d hd

theorem snapshot_entries (env : Environment) (d : Engine.Dispatch) :
    (d.snapshot env).entries = d.before.state.store.toList := by
  rw [Engine.Dispatch.snapshot, Engine.state_handed]
  rfl

section

variable {d : Engine.Dispatch} (h : Engine.Runs (table extended) env m r) (hd : d ∈ r.dispatches)
include h hd

theorem snapshot_position : (d.snapshot env).position = d.site.position := by
  have ⟨hs, _, _⟩ := h.taken_of_mem hd
  rw [hs, Engine.Dispatch.snapshot, Engine.state_handed]
  rfl

theorem printed_dispatch : d.printed = (transcript extended env d.before).printed := by
  have ⟨_, _, ht⟩ := h.taken_of_mem hd
  have hp := (step_transcript extended env d.before).remarks.printed
  rw [ht] at hp
  rw [Engine.Dispatch.printed, hp, List.drop_left]

theorem printed_report (hr : env.reporter = some dest.reporter) (hf : dest.format = ascii "text")
    (h₉ : d.site.digit = 0x39)
    (hw : m.world.archive.disk.Writable (dest.path d.site.position)) :
    d.printed = [Opcode.placeLine (dest.path d.site.position)] := by
  have ⟨hs, hc, _⟩ := h.taken_of_mem hd
  have hm := Engine.Run.before_mem_machines hd
  have ha : (Engine.handed env d.before).world.archive = d.before.world.archive := by
    have ha := (describes_announce env (Engine.siteOf env d.before) d.before).archive
    rwa [Environment.deliver_nil] at ha
  have hp : (Engine.handed env d.before).state.cursor = d.site.position := by
    rw [hs, Engine.state_handed]
    rfl
  have hw' := Report.Destination.writable_of_sameFolder (runs_folder hr h d.before hm) hw
  rw [← ha, ← hp] at hw'
  rw [printed_dispatch h hd, transcript_report hc (hs ▸ h₉), report_written hr hf hw', hp]

-- The names of a run are words, so each variable takes one line of a report.
theorem lists_dispatch (hm : m.state.Traced extended env.code) :
    Report.Lists (Report.plain (d.snapshot env)) d.site.position d.before.state.store.toList := by
  have hs : (d.snapshot env).HasWords := by
    unfold Snapshot.HasWords
    rw [snapshot_entries]
    exact (runs_traced h hm d.before (Engine.Run.before_mem_machines hd)).word_names
  have hl := Report.lists_plain hs rfl
  rwa [snapshot_position h hd, snapshot_entries] at hl

end

theorem flatMap_printed (h : Engine.Runs (table extended) env m r) :
    r.dispatches.flatMap Engine.Dispatch.printed = (said extended env r.dispatches).printed :=
  List.flatMap_congr fun _ hd => printed_dispatch h hd

-- Digits are taken in the order of their positions, and none of them takes a variable back.
theorem runs_ordered_stores (h : Engine.Runs (table extended) env m r)
    (hm : Engine.Sound env m.state) :
    r.dispatches.Pairwise (fun d d' => d.site.position < d'.site.position ∧
      d.before.state.store.toList <+: d'.before.state.store.toList) :=
  (List.pairwise_map.mp ((forward hm).ascends h).pairwise).and (runs_grow h).left

theorem runs_distinct_snapshots (h : Engine.Runs (table extended) env m r)
    (hm : Engine.Sound env m.state) :
    (r.dispatches.map (Engine.Dispatch.snapshot env)).Pairwise (·.position ≠ ·.position) := by
  rw [List.pairwise_map]
  refine (runs_ordered_stores h hm).imp_of_mem fun hd hd' hdd => ?_
  rw [snapshot_position h hd, snapshot_position h hd']
  exact Int.ne_of_lt hdd.left

end Library

namespace Interpreter

variable {i : Interpreter} {extended : Bool} {dest : Report.Destination}

-- All files that a program leaves come from the snapshots of its reports.
theorem execute_disk (hi : i.table = Library.table extended) (hr : i.reporter = some dest.reporter)
    (code : Code) :
    let reports := (i.execute code).run.dispatches.filter (·.site.digit = 0x39)
    (i.execute code).interpreter.world.archive.disk = (Reporter.deliver dest.reporter
      i.world.archive (reports.map (Engine.Dispatch.snapshot (i.environment code)))).disk := by
  obtain ⟨ts, hs⟩ := execute_said code hi
  have ha := hs.archive
  rw [Remarks.reported_append, List.append_nil, Library.reported_said hr (execute_runs code hi),
    Environment.deliver] at ha
  simp only [environment, hr] at ha
  exact congrArg Archive.disk ha

theorem writable_dispatch (hi : i.table = Library.table extended) {code : Code}
    (hw : ∀ p : Int, 0 ≤ p → p < code.size → i.world.archive.disk.Writable (dest.path p))
    {d : Engine.Dispatch} (hd : d ∈ (i.execute code).run.dispatches) :
    i.world.archive.disk.Writable (dest.path d.site.position) := by
  have hm : Engine.Sound (i.environment code) (i.machine code).state := Engine.sound_start _
  have hp := ((Library.forward hm).ascends (execute_runs code hi)).inside d hd
  exact hw d.site.position hp.left hp.right

-- No report is lost or overwritten, and reports grow. Where reports are plain ones and their files
-- can be written, each nine makes a file of its own, which is named for its position and holds the
-- report of the snapshot that was taken there; no other place is touched, and the file is announced
-- when it is written. The bytes of a report list its position, the number of its variables and then
-- the variables, in the order in which they were made. From one report to the next, positions go up,
-- and the lines of variables begin with those before.
theorem reports_kept (hi : i.table = Library.table extended) (hr : i.reporter = some dest.reporter)
    (hf : dest.format = ascii "text") (code : Code)
    (hw : ∀ p : Int, 0 ≤ p → p < code.size → i.world.archive.disk.Writable (dest.path p)) :
    let e       := i.execute code
    let env     := i.environment code
    let reports := e.run.dispatches.filter (·.site.digit = 0x39)
    let report (d : Engine.Dispatch) := Report.plain (d.snapshot env)
    let disk    := e.interpreter.world.archive.disk
    (reports.map fun d => dest.path d.site.position).Nodup ∧
    (∀ d ∈ reports, dest.path d.site.position = Path.folder dest.directory
        ++ (ascii "numo_output_" ++ Decimal.integer d.site.position ++ ascii ".txt") ∧
      disk.read (dest.path d.site.position) = .ok (report d)) ∧
    (∀ q, (∀ d ∈ reports, i.world.archive.disk.resolve (dest.path d.site.position) ≠ .ok q) →
      disk.at? q = i.world.archive.disk.at? q) ∧
    (∀ d ∈ reports, (d.snapshot env).position = d.site.position ∧
      (d.snapshot env).entries = d.before.state.store.toList ∧
      (d.snapshot env).total = (Report.variableLines (report d)).length ∧
      Report.Lists (report d) d.site.position d.before.state.store.toList) ∧
    reports.Pairwise (fun d d' => d.site.position < d'.site.position ∧
      Report.variableLines (report d) <+: Report.variableLines (report d')) ∧
    (∀ d ∈ reports, d.printed = [Opcode.placeLine (dest.path d.site.position)]) ∧
    ∃ ts, e.interpreter.world.printed
      = i.world.printed ++ e.run.dispatches.flatMap Engine.Dispatch.printed ++ ts := by
  intro e env reports report disk
  have h := execute_runs code hi
  have hm : Engine.Sound env (i.machine code).state := Engine.sound_start env
  have hsub {d} (hd : d ∈ reports) : d ∈ e.run.dispatches ∧ d.site.digit = 0x39 := by
    simpa [reports] using hd
  have hwd {d} (hd : d ∈ reports) : i.world.archive.disk.Writable (dest.path d.site.position) :=
    writable_dispatch hi hw (hsub hd).left
  have hpos {d} (hd : d ∈ reports) : (d.snapshot env).position = d.site.position :=
    Library.snapshot_position h (hsub hd).left
  have hdisk : disk = (Reporter.deliver dest.reporter i.world.archive
      (reports.map (Engine.Dispatch.snapshot env))).disk := execute_disk hi hr code
  have hord := (Library.runs_ordered_stores h hm).filter (·.site.digit = 0x39)
  have hlist {d} (hd : d ∈ reports) :
      Report.Lists (report d) d.site.position d.before.state.store.toList :=
    Library.lists_dispatch h (hsub hd).left nofun
  have hpair : (reports.map (Engine.Dispatch.snapshot env)).Pairwise (·.position ≠ ·.position) :=
    (Library.runs_distinct_snapshots h hm).sublist (List.filter_sublist.map _)
  have hwrite : ∀ s ∈ reports.map (Engine.Dispatch.snapshot env),
      i.world.archive.disk.Writable (dest.path s.position) := by
    intro s hs
    obtain ⟨d, hd, rfl⟩ := List.mem_map.mp hs
    rw [hpos hd]
    exact hwd hd
  obtain ⟨hread, hrest⟩ := Report.Destination.deliver_files hf hpair hwrite
  obtain ⟨ts, hs⟩ := execute_said code hi
  refine ⟨?_, ?_, ?_, ?_, hord.imp_of_mem ?_, ?_, ts, ?_⟩
  · rw [List.Nodup, List.pairwise_map]
    refine hord.imp ?_
    intro d d' hdd he
    have hp : d.site.position = d'.site.position := Report.Destination.path_injective he
    exact Int.ne_of_lt hdd.left hp
  · intro d hd
    refine ⟨dest.path_eq _, ?_⟩
    rw [hdisk, ← hpos hd]
    exact hread _ (List.mem_map_of_mem hd)
  · intro q hq
    rw [hdisk]
    refine hrest q fun s hs => ?_
    obtain ⟨d, hd, rfl⟩ := List.mem_map.mp hs
    rw [hpos hd]
    exact hq d hd
  · intro d hd
    have he : (d.snapshot env).entries = d.before.state.store.toList :=
      Library.snapshot_entries env d
    refine ⟨hpos hd, he, ?_, hlist hd⟩
    rw [(hlist hd).rows, List.length_map, ← he]
    rfl
  · intro d d' hd hd' hdd
    exact ⟨hdd.left, (hlist hd).variableLines_grow (hlist hd') hdd.right⟩
  · intro d hd
    have ha := (i.describes_machine code).archive
    rw [Environment.deliver_nil] at ha
    exact Library.printed_report h (hsub hd).left hr hf (hsub hd).right (ha ▸ hwd hd)
  · rw [Library.flatMap_printed h, List.append_assoc]
    exact hs.printed

-- `3935939` makes a report before and after a condition, and the digit that the condition skips is
-- a nine.
theorem reports_kept_around_skip :
    let dest    := Report.Destination.ofNames [] []
    let i       := Interpreter.start { extended := true } {} 0 default
    let code    := Code.ofArray #[0x33, 0x39, 0x33, 0x35, 0x39, 0x33, 0x39]
    let e       := i.execute code
    let reports := e.run.dispatches.filter (·.site.digit = 0x39)
    i.table = Library.table true ∧ i.reporter = some dest.reporter ∧ dest.format = ascii "text" ∧
    (∀ p : Int, 0 ≤ p → p < code.size → i.world.archive.disk.Writable (dest.path p)) ∧
    (reports.map fun d => dest.path d.site.position).Nodup ∧
    ∀ d ∈ reports, ∃ report, Report.Lists report d.site.position d.before.state.store.toList ∧
      e.interpreter.world.archive.disk.read (dest.path d.site.position) = .ok report := by
  intro dest i code e reports
  have hi : i.table = Library.table true := start_table ..
  have hw (p : Int) (h₀ : 0 ≤ p) (hp : p < code.size) :
      i.world.archive.disk.Writable (dest.path p) := Report.Destination.writable_empty rfl h₀ hp
  have ⟨hn, hr, _, hs, _⟩ := reports_kept hi rfl rfl code hw
  exact ⟨hi, rfl, rfl, hw, hn, fun d hd => ⟨_, (hs d hd).right.right.right, (hr d hd).right⟩⟩

end Interpreter
end Denary
