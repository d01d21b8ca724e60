import Mathlib.Data.List.Pairwise
import ScrollExport.Proofs.Output.Delimiter
import ScrollExport.Proofs.Output.Failure
import ScrollExport.Proofs.Output.Identity

/-!
# Files that a report lists

A report lists the targets of its export. Targets are written one after the other, so a target that
leads to the place of an earlier one takes its file away, and no error tells it. Every file is what
the report says exactly if targets that lead to one place write the same bytes, and targets of
different formats never do.
-/

namespace ScrollExport

variable {σ ε : Type}

/-! ### Bytes of a format -/

namespace Format

/-- The name of the format in which a table begins with this byte. -/
def nameOfOpening (b : UInt8) : String :=
  if b = Text.byteOf '[' then "json" else if b = Text.byteOf '<' then "html" else "csv"

/-- The first field of delimited text is the name of the identifier, and it stands between quotes
if it holds the delimiter. -/
lemma exists_opening (t : Table) (f : Format) :
    ∃ b, (serialize t f).head? = some b ∧ nameOfOpening b = f.name := by
  cases f with
  | json indented =>
    refine ⟨Text.byteOf '[', ?_, rfl⟩
    rw [Listing.serialize_json, Listing.ofTable, Json.render, Json.Layout.block]
    split_ifs <;> rfl
  | csv delimiter =>
    obtain ⟨written, hw, he⟩ := Delimited.encodeRecord_cons delimiter
      (Delimited.fieldBytes Table.idHeading) (t.columns.map Delimited.fieldBytes)
    have hs : serialize t (.csv delimiter) = written ++
        (Delimited.encodeTail delimiter (t.columns.map Delimited.fieldBytes) ++
          Delimited.encodeRecords delimiter
            (t.textGrid.map fun record => record.map Delimited.fieldBytes)) := by
      rw [← List.append_assoc, ← he]
      rfl
    rw [hs]
    rcases hw with ⟨-, rfl⟩ | rfl
    · exact ⟨Text.byteOf '_', rfl, rfl⟩
    · exact ⟨Delimited.quote, rfl, rfl⟩
  | html cls => exact ⟨Text.byteOf '<', rfl, rfl⟩

lemma name_eq_of_serialize_eq {t : Table} {f f' : Format} (h : serialize t f = serialize t f') :
    f.name = f'.name := by
  obtain ⟨b, hb, hf⟩ := exists_opening t f
  obtain ⟨b', hb', hf'⟩ := exists_opening t f'
  obtain rfl : b = b' := Option.some.inj (hb.symm.trans (h ▸ hb'))
  rw [← hf, hf']

/-- What is delimited can be read if the delimiter can stand between fields. -/
def IsReadable : Format → Prop
  | .csv delimiter => Delimited.IsDelimiter delimiter
  | _ => True

/-- How many rows a reader of this format finds in a file. -/
def countRows? (bytes : List UInt8) : Format → Option Nat
  | .json _ => (Listing.readTree? bytes).bind fun tree =>
    match tree with
    | .arr objects => some objects.length
    | _ => none
  | .csv delimiter => (Delimited.readTexts delimiter bytes).map fun grid => grid.length - 1
  | .html _ => (Markup.read? bytes).map fun items => (Markup.grid items).length - 1

/-- The header is no row. -/
lemma countRows?_serialize (t : Table) {f : Format} (hf : f.IsReadable) :
    f.countRows? (serialize t f) = some t.size := by
  cases f with
  | json indented =>
    rw [countRows?, Listing.readTree?_serialize]
    simp [Table.size]
  | csv delimiter =>
    have hne : ∀ texts ∈ t.header :: t.textGrid, texts ≠ [] := by
      simp [Table.header, Table.textGrid, Table.rowTexts]
    have hread : Delimited.readTexts delimiter (serialize t (.csv delimiter)) =
        some (t.header :: t.textGrid) := Delimited.readTexts_encodeRecords hf hne
    simp [countRows?, hread, Table.textGrid, Table.size]
  | html cls =>
    obtain ⟨items, hread, -, hgrid⟩ := Markup.exists_read? cls t
    simp [countRows?, hread, hgrid, Table.textGrid, Table.size]

end Format

/-! ### Places that are shared -/

/-- Both paths can be created, and they lead to one place. -/
def FileTree.SamePlace (files : FileTree) (path path' : String) : Prop :=
  ∃ place, files.target path = .ok place ∧ files.target path' = .ok place

lemma FileTree.SamePlace.symm {files : FileTree} {path path' : String}
    (h : files.SamePlace path path') : files.SamePlace path' path := by
  obtain ⟨place, hp, hp'⟩ := h
  exact ⟨place, hp', hp⟩

namespace Target

variable {t last : Target} {targets : List Target} {files files' : FileTree} {place : Place}
  {table : Table}

/-- The file at the path of a target holds the table in its format, and nothing else. -/
def IsIntact (t : Target) (table : Table) (files : FileTree) : Prop :=
  files.read? t.path = some (t.format.serialize table)

/-- No later target leads to the place of this one. -/
def IsLastAt (files : FileTree) (targets : List Target) (place : Place) (t : Target) : Prop :=
  ∃ before after, targets = before ++ t :: after ∧ files.target t.path = .ok place ∧
    ∀ t' ∈ after, files.target t'.path ≠ .ok place

lemma exists_isLastAt (ht : t ∈ targets) (hp : files.target t.path = .ok place) :
    ∃ last, IsLastAt files targets place last := by
  induction targets generalizing t with
  | nil => cases ht
  | cons t₁ rest ih =>
    by_cases hr : ∃ t' ∈ rest, files.target t'.path = .ok place
    · obtain ⟨t', ht', hp'⟩ := hr
      obtain ⟨last, before, after, rfl, hlast, hafter⟩ := ih ht' hp'
      exact ⟨last, t₁ :: before, after, rfl, hlast, hafter⟩
    · push Not at hr
      rcases List.mem_cons.1 ht with rfl | ht
      · exact ⟨t, [], rest, rfl, hp, hr⟩
      · exact absurd hp (hr t ht)

lemma IsLastAt.mem (h : IsLastAt files targets place last) : last ∈ targets := by
  obtain ⟨before, after, rfl, -⟩ := h
  simp

/-- Every path to a place leads to what the last target wrote there. -/
lemma IsLastAt.read?_writeTargets (h : IsLastAt files targets place last) (table : Table)
    {path : String} (hp : files.target path = .ok place) :
    (writeTargets table targets files).2.read? path = some (last.format.serialize table) := by
  obtain ⟨before, after, ht, hl, ha⟩ := h
  obtain ⟨he, -⟩ := (written_writeTargets table targets files).holds ht hl ha
  exact FileTree.read?_of_target hp (sameFolders_writeTargets table targets files) he

/-- If all targets are written, all files are intact exactly if those at one place are the same. -/
lemma forall_isIntact_iff (hw : ∀ t ∈ targets, files.IsWritable t.path) (table : Table) :
    (∀ t ∈ targets, t.IsIntact table (writeTargets table targets files).2) ↔
      ∀ t ∈ targets, ∀ t' ∈ targets, files.SamePlace t.path t'.path →
        t.format.serialize table = t'.format.serialize table := by
  constructor
  · rintro hi t ht t' ht' ⟨place, hp, hp'⟩
    obtain ⟨last, hl⟩ := exists_isLastAt ht hp
    have h := hi t ht
    have h' := hi t' ht'
    rw [IsIntact, hl.read?_writeTargets table hp] at h
    rw [IsIntact, hl.read?_writeTargets table hp'] at h'
    exact Option.some.inj (h.symm.trans h')
  · intro hs t ht
    obtain ⟨place, hp⟩ := hw t ht
    obtain ⟨last, hl⟩ := exists_isLastAt ht hp
    have hlp : files.target last.path = .ok place := by
      obtain ⟨-, -, -, hlp, -⟩ := hl
      exact hlp
    rw [IsIntact, hl.read?_writeTargets table hp, hs t ht last hl.mem ⟨place, hp, hlp⟩]

/-- With one target for a format, the files are intact exactly if no two paths lead to one place. -/
lemma forall_serialize_eq_iff (hn : (targets.map fun t => t.format.name).Nodup) :
    (∀ t ∈ targets, ∀ t' ∈ targets, files.SamePlace t.path t'.path →
        t.format.serialize table = t'.format.serialize table) ↔
      targets.Pairwise fun t t' => ¬ files.SamePlace t.path t'.path := by
  have hn' : targets.Pairwise fun t t' => t.format.name ≠ t'.format.name := List.pairwise_map.1 hn
  constructor
  · intro hs
    refine hn'.imp_of_mem fun ht ht' hne hp => hne ?_
    exact Format.name_eq_of_serialize_eq (hs _ ht _ ht' hp)
  · intro hd t ht t' ht' hp
    by_contra hne
    have htt : t ≠ t' := by
      rintro rfl
      exact hne rfl
    have : Std.Symm fun t t' : Target => ¬ files.SamePlace t.path t'.path :=
      ⟨fun _ _ h h' => h h'.symm⟩
    exact hd.forall ht ht' htt hp

end Target

/-! ### Reports -/

/-- Only an export that could write all of its targets has a report. -/
lemma ExportPlan.files_of_report? {plan : ExportPlan} {g : Gathered σ ε} {elapsed : Duration}
    {files : FileTree} {report : Report}
    (h : (plan.conclude g elapsed files).report? = some report) :
    (∀ t ∈ plan.targets, files.IsWritable t.path) ∧
      (plan.conclude g elapsed files).files =
        (writeTargets g.progress.table plan.targets files).2 := by
  rw [← writeTargets_eq_nil_iff g.progress.table]
  cases hf : g.failure with
  | none =>
    rw [plan.conclude_of_failure_eq_none hf] at h ⊢
    by_cases hw : (writeTargets g.progress.table plan.targets files).1 = []
    · exact ⟨hw, rfl⟩
    · simp [Outcome.report?, hw] at h
  | some failure =>
    cases hp : plan.policy with
    | discard => simp [conclude, hf, hp, Outcome.report?] at h
    | keep =>
      refine ⟨?_, plan.files_conclude (.inr hp) elapsed files⟩
      by_contra hw
      simp [conclude, hf, hp, hw, Outcome.report?] at h

/-- If an export ends with a report, of its own or of an interruption, every target that the report
lists could be created, and its path leads to the gathered table as the last target wrote it that
leads to the same place. So all files are what the report says exactly if targets that lead to one
place write the same bytes, and with one target for a format exactly if no two of them lead to one
place. A reader finds as many rows as the report counts in every file that is what it says. -/
theorem Service.outputs_export (svc : Service σ ε) (plan : ExportPlan) (elapsed : Duration) (s : σ)
    (files : FileTree) :
    let run := (svc.export plan elapsed s files).1
    ∃ visited s', svc.Gathers plan.query plan.query.indices s visited s' ∧
      let table := Table.empty.extend (visited.flatMap Visit.records)
      ∀ report, run.report? = some report →
        report.outputs = plan.targets.map Target.output ∧ report.count = table.size ∧
        (∀ t ∈ plan.targets, ∃ place last, files.target t.path = .ok place ∧
          Target.IsLastAt files plan.targets place last ∧
          run.files.read? t.path = some (last.format.serialize table)) ∧
        ((∀ t ∈ plan.targets, t.IsIntact table run.files) ↔
          ∀ t ∈ plan.targets, ∀ t' ∈ plan.targets, files.SamePlace t.path t'.path →
            t.format.serialize table = t'.format.serialize table) ∧
        ((plan.targets.map fun t => t.format.name).Nodup →
          ((∀ t ∈ plan.targets, t.IsIntact table run.files) ↔
            plan.targets.Pairwise fun t t' => ¬ files.SamePlace t.path t'.path)) ∧
        ∀ t ∈ plan.targets, t.format.IsReadable → t.IsIntact table run.files →
          (run.files.read? t.path).bind (t.format.countRows? ·) = some report.count := by
  intro run
  obtain ⟨visited, s', hg⟩ := svc.exists_gathers plan.query plan.query.indices s
  let g : Gathered σ ε := .ofVisits (.start s) visited s'
  have hrun : run = plan.conclude g elapsed files := congrArg Prod.fst (export_eq hg elapsed files)
  refine ⟨visited, s', hg, fun report hr => ?_⟩
  rw [hrun] at hr
  obtain ⟨hw, hfiles⟩ := ExportPlan.files_of_report? hr
  obtain rfl := plan.report_of_conclude hr
  rw [hrun, hfiles]
  refine ⟨rfl, rfl, fun t ht => ?_, Target.forall_isIntact_iff hw _, fun hn => ?_,
    fun t ht hf hi => ?_⟩
  · obtain ⟨place, hp⟩ := hw t ht
    obtain ⟨last, hl⟩ := Target.exists_isLastAt ht hp
    exact ⟨place, last, hp, hl, hl.read?_writeTargets _ hp⟩
  · rw [← Target.forall_serialize_eq_iff hn]
    exact Target.forall_isIntact_iff hw _
  · rw [hi, Option.bind_some]
    exact Format.countRows?_serialize _ hf

/-- The delimited text takes the place of the listing, and the report lists both. -/
theorem Service.outputs_export_of_shared :
    let range : TimeRange := ⟨"t", "date", none, none⟩
    let query : Query := ⟨["logs"], 1, "60s", range, by decide, by decide, by decide⟩
    let plan : ExportPlan := ⟨query, [⟨"o", .json true⟩, ⟨"./o", .csv 44⟩], .discard⟩
    let page : Page := ⟨"c", none, [⟨"a", [], by simp⟩]⟩
    let files := FileTree.empty ["home"]
    let svc := Script.service none
    let run := (svc.export plan ⟨1, 0⟩ ⟨[.ok page, .ok ⟨"c", none, []⟩], []⟩ files).1
    let report : Report := ⟨⟨1, 2, [⟨"logs", 1⟩], [⟨"json", "o"⟩, ⟨"csv", "./o"⟩]⟩, ⟨1, 0⟩⟩
    run.report? = some report ∧ (plan.targets.map fun t => t.format.name).Nodup ∧
      ∃ table : Table, report.count = table.size ∧
        ¬ ∀ t ∈ plan.targets, t.IsIntact table run.files := by
  intro range query plan page files svc run report
  have hr : run.report? = some report := by decide +kernel
  have hn : (plan.targets.map fun t => t.format.name).Nodup := by decide
  have hp : files.SamePlace "o" "./o" := ⟨["home", "o"], by decide, by decide⟩
  obtain ⟨visited, -, -, h⟩ :=
    svc.outputs_export plan ⟨1, 0⟩ ⟨[.ok page, .ok ⟨"c", none, []⟩], []⟩ files
  obtain ⟨-, hcount, -, -, hintact, -⟩ := h report hr
  refine ⟨hr, hn, _, hcount, fun hi => ?_⟩
  have hd := (hintact hn).1 hi
  simp [plan, hp] at hd

end ScrollExport
