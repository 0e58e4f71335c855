/-
  ScriptGate.Proofs.Deployment.Drift — does a report tell whether the schema changed?

  A report answers this twice: by the checksums of the two snapshots that it is made from, and by
  the number of changes between them.  The answers agree where the rows of the two snapshots
  compare and the digest tells their texts apart.  Without these conditions checksums that differ
  still mean that there are changes, while a change can go unnoticed: rows with a border that was
  moved have one checksum.
  Main statements:
    - `report_found`      — a report is on the rows that the database gave before and after;
    - `schemaChanged_iff` — the two answers agree where rows compare;
    - `checksums_compare` — what equal checksums say of snapshots and of reports.
-/
import ScriptGate.Digest.Sha256
import ScriptGate.Proofs.Deployment.Reached
import ScriptGate.Proofs.Schema.Checksum

namespace ScriptGate.Deployment

open ScriptGate.Schema ScriptGate.Schema.Snapshot ScriptGate.Script ScriptGate.Statement

/-! ## §1. Two answers -/

/-- The digest tells the texts of the two snapshots apart, unless they are the same. -/
def Separates (digest : Digest) (before after : Snapshot) : Prop :=
  before.checksum digest = after.checksum digest → before.serialised = after.serialised

theorem schemaChanged_build_iff (digest : Digest) (now : Moment) (before after : Snapshot)
    (impact : Impact) :
    (Report.build digest now before after impact).schemaChanged = true ↔
      before.checksum digest ≠ after.checksum digest :=
  bne_iff_ne

theorem total_build_pos_iff (digest : Digest) (now : Moment) (before after : Snapshot)
    (impact : Impact) :
    0 < (Report.build digest now before after impact).summary.total ↔
      diff before after ≠ [.unchanged after.schema] := by
  show 0 < (Summary.ofChanges (diff before after)).total ↔ _
  rw [Nat.pos_iff_ne_zero, ne_eq, ne_eq, total_diff_eq_zero_iff, diff_eq_unchanged_iff]

section

variable {digest : Digest} {schema capturedAt capturedAt' : String} {rows rows' : List Column}

/-- Snapshots that do not differ have one checksum. -/
theorem checksum_of_unchanged
    (h : diff (.ofRows schema capturedAt rows) (.ofRows schema capturedAt' rows')
      = [.unchanged schema]) :
    (ofRows schema capturedAt rows).checksum digest
      = (ofRows schema capturedAt' rows').checksum digest := by
  have hlayout := (diff_unchanged_iff schema capturedAt capturedAt' rows rows').1 h
  exact congrArg digest (serialised_congr (congrArg Layout.definitions hlayout))

/-- Where rows compare, snapshots with one checksum do not differ. -/
theorem checksum_eq_iff (h : Comparable rows rows')
    (hdigest : Separates digest (.ofRows schema capturedAt rows)
      (.ofRows schema capturedAt' rows')) :
    (ofRows schema capturedAt rows).checksum digest
        = (ofRows schema capturedAt' rows').checksum digest ↔
      diff (.ofRows schema capturedAt rows) (.ofRows schema capturedAt' rows')
        = [.unchanged schema] := by
  refine ⟨fun hsame => ?_, checksum_of_unchanged⟩
  rw [diff_unchanged_iff, ← serialised_eq_iff h]
  exact hdigest hsame

/-- A report that tells of another checksum tells of changes. -/
theorem total_of_schemaChanged {now : Moment} {impact : Impact}
    (h : (Report.build digest now (.ofRows schema capturedAt rows)
      (.ofRows schema capturedAt' rows') impact).schemaChanged = true) :
    0 < (Report.build digest now (.ofRows schema capturedAt rows)
      (.ofRows schema capturedAt' rows') impact).summary.total := by
  rw [total_build_pos_iff]
  rw [schemaChanged_build_iff] at h
  exact fun hunchanged => h (checksum_of_unchanged hunchanged)

/-- **The two answers agree where rows compare.** -/
theorem schemaChanged_iff (h : Comparable rows rows')
    (hdigest : Separates digest (.ofRows schema capturedAt rows)
      (.ofRows schema capturedAt' rows')) (now : Moment) (impact : Impact) :
    (Report.build digest now (.ofRows schema capturedAt rows)
        (.ofRows schema capturedAt' rows') impact).schemaChanged = true ↔
      0 < (Report.build digest now (.ofRows schema capturedAt rows)
        (.ofRows schema capturedAt' rows') impact).summary.total := by
  rw [schemaChanged_build_iff, total_build_pos_iff]
  exact not_congr (checksum_eq_iff h hdigest)

end

/-! ## §2. Reports of deployments -/

/-- A deployment of the script from the state `s` on finds these rows before it and behind it. -/
def Finds (services : Services σ) (script : List Char) (s : σ) (rows : List Column)
    (impact : Impact) (rows' : List Column) : Prop :=
  ∃ s₁ s₂ s₃, services.database.columns services.schema s = (.ok rows, s₁) ∧
    run services.database script s₁ = (.ok impact, s₂) ∧
    services.database.columns services.schema s₂ = (.ok rows', s₃)

/-- A snapshot that is taken is made of the rows that the database gives. -/
theorem rows_of_capture {db : Database σ} {schema : String} {now : Moment} {s s' : σ}
    {snapshot : Snapshot} (h : capture db schema now s = (.ok snapshot, s')) :
    ∃ rows, db.columns schema s = (.ok rows, s') ∧ snapshot = .ofRows schema now.stamp rows := by
  have hcapture : capture db schema now s
      = ((db.columns schema s).1.map (.ofRows schema now.stamp), (db.columns schema s).2) := rfl
  rcases hcolumns : db.columns schema s with ⟨fault | rows, s₁⟩
  · rw [hcapture, hcolumns] at h
    cases h
  · rw [hcapture, hcolumns] at h
    injection h with hsnapshot hstate
    obtain rfl : s₁ = s' := hstate
    exact ⟨rows, rfl, (Except.ok.inj hsnapshot).symm⟩

/-- **A report is on the rows that the database gave before and after.** -/
theorem report_found {services : Services σ} (hservices : services.Discerning)
    {visits : List (Visit σ)} {report : Report}
    (h : (reached services visits).report = some report) :
    ∃ v ∈ visits, ∃ script rows impact rows',
      (reached services visits).pendingScript = some script ∧
      Finds services script v.world rows impact rows' ∧
      report = .build services.digest v.now (.ofRows services.schema v.now.stamp rows)
        (.ofRows services.schema v.now.stamp rows') impact := by
  have hsound := sound_reached hservices visits
  -- a deployment with a report is completed
  have hstage := hsound.reported.1 (by rw [h]; rfl)
  obtain ⟨earlier, v, later, script, before, impact, after, hvisits, _, _, _, hp, hcaptures,
    hreport⟩ := hsound.reports hstage
  obtain ⟨s₁, s₂, s₃, hbefore, hrun, hafter⟩ := hcaptures
  obtain ⟨rows, hrows, rfl⟩ := rows_of_capture hbefore
  obtain ⟨rows', hrows', rfl⟩ := rows_of_capture hafter
  have hmem : v ∈ visits := by
    rw [hvisits]
    exact List.mem_append.2 (.inr List.mem_cons_self)
  rw [h] at hreport
  exact ⟨v, hmem, script, rows, impact, rows', hp, ⟨s₁, s₂, s₃, hrows, hrun, hrows'⟩,
    Option.some.inj hreport⟩

/-! ## §3. What equal checksums say -/

/-- **What equal checksums say.**  Snapshots that do not differ have one checksum; where their rows
    compare and the digest separates them, only such snapshots have; and rows with a border that was
    moved have one checksum although they differ.  So a report of a deployment that tells of another
    checksum tells of changes, and the other way round where the rows that were found compare. -/
theorem checksums_compare (services : Services σ) (parser : Parser) (planner : Database σ) :
    let gate := services.reviewed parser planner
    (∀ schema capturedAt capturedAt' rows rows',
      let before := Snapshot.ofRows schema capturedAt rows
      let after := Snapshot.ofRows schema capturedAt' rows'
      (diff before after = [.unchanged schema] →
        before.checksum gate.digest = after.checksum gate.digest) ∧
      (Comparable rows rows' → Separates gate.digest before after →
        (before.checksum gate.digest = after.checksum gate.digest ↔
          diff before after = [.unchanged schema])) ∧
      (Misread rows rows' → before.checksum gate.digest = after.checksum gate.digest ∧
        diff before after ≠ [.unchanged schema])) ∧
    ∀ visits report, (reached gate visits).report = some report →
      ∃ v ∈ visits, ∃ script rows impact rows',
        let before := Snapshot.ofRows gate.schema v.now.stamp rows
        let after := Snapshot.ofRows gate.schema v.now.stamp rows'
        (reached gate visits).pendingScript = some script ∧
        Finds gate script v.world rows impact rows' ∧
        report = .build gate.digest v.now before after impact ∧
        (report.schemaChanged = true → 0 < report.summary.total) ∧
        (Comparable rows rows' → Separates gate.digest before after →
          (report.schemaChanged = true ↔ 0 < report.summary.total)) := by
  intro gate
  refine ⟨?_, ?_⟩
  · intro schema capturedAt capturedAt' rows rows' before after
    exact ⟨checksum_of_unchanged, checksum_eq_iff, fun h => h.blind gate.digest _ _ _⟩
  · intro visits report hreport
    have hservices : gate.Discerning := discerning_reviewed services parser planner
    obtain ⟨v, hv, script, rows, impact, rows', hp, hfinds, rfl⟩ := report_found hservices hreport
    exact ⟨v, hv, script, rows, impact, rows', hp, hfinds, rfl, total_of_schemaChanged,
      fun h hdigest => schemaChanged_iff h hdigest v.now impact⟩

/-- A schema with one column. -/
def oneColumn : List Column := [⟨"t", "c", "text", true, ""⟩]

/-- The schema with a second column. -/
def twoColumns : List Column := oneColumn ++ [⟨"t", "d", "text", true, ""⟩]

/-- Services over a schema that every statement but a counted one gives a second column. -/
def growing : Services (List Column) where
  validate _ := return .ok ()
  backup := return .ok "backup.sql"
  record _ _ := return .ok ()
  database := ⟨fun
    | .columns _ => fun s => (.ok s, s)
    | .execute _ => fun _ => (.ok (), twoColumns)
    | .counted _ => return .ok (1 : UInt64)
    | .query .. => return .ok []⟩
  schema := "public"
  digest := Digest.Sha256.hex

/-- The services with scripts reviewed by a parser that reads nothing. -/
def growingGate : Services (List Column) := growing.reviewed (fun _ => none) growing.database

/-- Visits that deploy a script. -/
def growingVisits : List (Visit (List Column)) :=
  (Workflow.Command.setScript "ALTER TABLE t ADD d text".toList :: Stage.completed.path).map
    (⟨default, ·, oneColumn⟩)

/-- A schema with one column, whose name reads like the lines of two. -/
def overwritten : List Column := [⟨"t", "c:text|true|\nt.d", "text", true, ""⟩]

theorem comparable_growing : Comparable oneColumn twoColumns := by
  have hlegible : ∀ r ∈ twoColumns, r.Legible := by
    intro r hr
    rcases List.mem_pair.1 hr with rfl | rfl <;> exact ⟨by decide, by decide, by decide⟩
  have hdot : ∀ r ∈ twoColumns, '.' ∉ r.table.toList := by decide
  have hone : ∀ r ∈ oneColumn, r ∈ twoColumns := fun r hr => List.mem_append.2 (.inl hr)
  exact ⟨fun r hr => hlegible r (hone r hr), hlegible, fun r hr r' hr' =>
    ⟨fun h => hdot r (hone r hr) h.dot_mem, fun h => hdot r' hr' h.dot_mem⟩⟩

/-- SHA-256 separates the two schemas, and so the report on a deployment that adds a column tells
    of it both ways; but two columns that give way to one whose name reads like their lines go
    unnoticed. -/
theorem column_told_and_missed :
    (∃ report, (reached growingGate growingVisits).report = some report ∧
      report.schemaChanged = true ∧ 0 < report.summary.total) ∧
    (ofRows "public" "" twoColumns).checksum Digest.Sha256.hex
      = (ofRows "public" "" overwritten).checksum Digest.Sha256.hex ∧
    diff (.ofRows "public" "" twoColumns) (.ofRows "public" "" overwritten)
      ≠ [.unchanged "public"] := by
  obtain ⟨hsnapshots, hreports⟩ := checksums_compare growing (fun _ => none) growing.database
  have hdiffer : (ofRows "public" "" oneColumn).checksum Digest.Sha256.hex
      ≠ (ofRows "public" "" twoColumns).checksum Digest.Sha256.hex := by decide +kernel
  have hmisread : Misread twoColumns overwritten :=
    .colon (c := ⟨"t", "c", "text", true, ""⟩) (d := ⟨"t", "d", "text", true, ""⟩) (by decide)
  refine ⟨?_, (hsnapshots "public" "" "" twoColumns overwritten).2.2 hmisread⟩
  have hsome : (reached growingGate growingVisits).report.isSome = true := by decide +kernel
  obtain ⟨report, hreport⟩ := Option.isSome_iff_exists.1 hsome
  obtain ⟨v, hv, script, rows, impact, rows', hp, ⟨s₁, s₂, s₃, hbefore, hrun, hafter⟩, hbuild, _,
    hagree⟩ := hreports growingVisits report hreport
  -- what was found are the two schemas
  have hworld : v.world = oneColumn := by
    obtain ⟨command, _, rfl⟩ := List.mem_map.1 hv
    rfl
  have hscript : (reached growingGate growingVisits).pendingScript
      = some "ALTER TABLE t ADD d text".toList := by decide +kernel
  obtain rfl : script = "ALTER TABLE t ADD d text".toList :=
    Option.some.inj (hp.symm.trans hscript)
  rw [hworld] at hbefore
  obtain ⟨hrows, rfl⟩ := Prod.mk.inj hbefore
  obtain rfl : oneColumn = rows := Except.ok.inj hrows
  have hran : (run growing.database "ALTER TABLE t ADD d text".toList oneColumn).2
      = twoColumns := by decide +kernel
  obtain rfl : twoColumns = s₂ := hran.symm.trans (congrArg Prod.snd hrun)
  obtain rfl : twoColumns = rows' := Except.ok.inj (Prod.mk.inj hafter).1
  have hchanged : report.schemaChanged = true := by
    rw [hbuild]
    exact (schemaChanged_build_iff _ _ _ _ _).2 hdiffer
  exact ⟨report, hreport, hchanged,
    (hagree comparable_growing fun hsame => absurd hsame hdiffer).1 hchanged⟩

end ScriptGate.Deployment
