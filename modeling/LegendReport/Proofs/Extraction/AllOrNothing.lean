import LegendReport.Extraction
import LegendReport.Proofs.Intake.Discovery
import LegendReport.Proofs.Path.Parts
import LegendReport.Proofs.Store.Staging

/-!
# Extractions are all or nothing

An extraction that fails leaves the store as it was; one that succeeds changes
nothing but its output path, where the text of the report is put.  It fails only
for want of a folder, of documents, of a legend or of a place for the report, in
this order.  Unreadable documents and failing cells are not among the reasons.
-/

namespace LegendReport

namespace Report

/-- To write a report is to put its text at the path. -/
theorem run_writeFile
    (report : Report)
    (p : Path)
    (quoting : Csv.Quoting)
    (store : Store) :
    ((report.writeFile p quoting).run store).value =
        (store.replaceFile p (report.toCsv quoting)).1 ∧
      ((report.writeFile p quoting).run store).store =
        (store.replaceFile p (report.toCsv quoting)).2 := by
  rw [writeFile, Script.run]
  generalize store.replaceFile p (report.toCsv quoting) = placed
  obtain ⟨result, after⟩ := placed
  cases result with
  | error cause => exact ⟨rfl, rfl⟩
  | ok _ => exact ⟨rfl, rfl⟩

end Report

namespace Request

variable {request : Request} {store : Store}

section Steps

/-- A run is over with the first part that fails; only what produces the report can change the
store. -/
theorem run_extract
    (request : Request)
    (store : Store) :
    (request.extract.run store).value =
        (match ((Intake.loadFolder request.folder).run store).value with
        | .error cause => .error (.documents cause)
        | .ok documents =>
          match ((Intake.loadLegend request.legend).run store).value with
          | .error cause => .error (.legend cause)
          | .ok legend => ((request.produce documents legend).run store).value) ∧
      (request.extract.run store).store =
        (match ((Intake.loadFolder request.folder).run store).value with
        | .error _ => store
        | .ok documents =>
          match ((Intake.loadLegend request.legend).run store).value with
          | .error _ => store
          | .ok legend => ((request.produce documents legend).run store).store) := by
  unfold extract
  rw [Script.value_run_within, Script.store_run_within, Script.value_run_bind,
    Script.store_run_bind, Intake.store_run_loadFolder]
  cases ((Intake.loadFolder request.folder).run store).value with
  | error cause => exact ⟨rfl, rfl⟩
  | ok documents =>
      dsimp only
      rw [Script.value_run_bind, Script.store_run_bind, (Intake.run_loadLegend request.legend).2]
      cases ((Intake.loadLegend request.legend).run store).value with
      | error cause => exact ⟨rfl, rfl⟩
      | ok legend => exact ⟨rfl, rfl⟩

theorem run_produce
    (documents : DocumentSet)
    (legend : Legend)
    {report : Report}
    (hreport : (Report.assemble documents legend request.uri).value = report)
    {result : Except PlacementError Unit}
    {after : Store}
    (hplaced :
      store.replaceFile request.outputPath (report.toCsv request.quoting) = (result, after)) :
    ((request.produce documents legend).run store).value =
        (match result with
        | .error cause => .error (.output cause)
        | .ok () => .ok ⟨request.outputPath, report⟩) ∧
      ((request.produce documents legend).run store).store = after := by
  obtain ⟨hvalue, hstore⟩ := report.run_writeFile request.outputPath request.quoting store
  rw [hplaced] at hvalue hstore
  unfold produce
  rw [Script.value_run_report, Script.store_run_report, Script.value_run_bind,
    Script.store_run_bind, Script.run_ofLogged, hreport]
  dsimp only
  rw [Script.value_run_bind, Script.store_run_bind, hvalue, hstore]
  cases result with
  | error cause => exact ⟨rfl, rfl⟩
  | ok _ => exact ⟨rfl, rfl⟩

end Steps

section Endings

/-- What a finished extraction leaves behind: the text of its report at the output path, and all
else as it was. -/
structure Delivered
    (request : Request)
    (before : Store)
    (extraction : Extraction)
    (after : Store) : Prop where
  outputPath_eq : extraction.outputPath = request.outputPath
  /-- The report is that of the documents in the folder under the legend.  If no two items of the
  folder have the same name, these are its XML files, in order. -/
  report_eq :
    ∃ children documents text legend,
      before.list? request.folder = some children ∧
        documents.documents = Intake.documentsOf before request.folder children ∧
          ((children.map Child.name).Nodup →
            (∀ child ∈ children, Path.IsItemName child.name) →
              ∃ names,
                Intake.AreDocumentsOf before request.folder names documents.documents) ∧
            before.readText request.legend = .ok text ∧
              (Legend.ofText text).value = .ok legend ∧
                extraction.report = (Report.assemble documents legend request.uri).value
  home_eq : after.home = before.home
  content :
    ∃ goal,
      after.find request.outputPath =
          .ok (goal, .file (extraction.report.toCsv request.quoting).toUTF8) ∧
        ∀ place, place ≠ goal → after.item? place = before.item? place

/-- How an extraction can end, and what it takes to end so. -/
inductive Ends (request : Request) (before : Store) :
    Except ExtractionError Extraction → Store → Prop where
  | noFolder
      (hfolder : ¬ before.HasFolder request.folder) :
      Ends request before (.error (.documents (.folderNotFound request.folder))) before
  | noDocument
      (hfolder : before.HasFolder request.folder)
      (hdocument : ¬ before.HasDocument request.folder) :
      Ends request before (.error (.documents (.noDocuments request.folder))) before
  | noLegend
      (hdocument : before.HasDocument request.folder)
      (hlegend : ¬ before.HasLegend request.legend)
      (cause : LegendError) :
      Ends request before (.error (.legend cause)) before
  | noPlace
      (hdocument : before.HasDocument request.folder)
      (hlegend : before.HasLegend request.legend)
      (hreceive : ¬ before.CanReceive request.outputPath)
      (cause : PlacementError) :
      Ends request before (.error (.output cause)) before
  | delivered
      (hdocument : before.HasDocument request.folder)
      (hlegend : before.HasLegend request.legend)
      (hreceive : before.CanReceive request.outputPath)
      {extraction : Extraction}
      {after : Store}
      (hdelivered : request.Delivered before extraction after) :
      Ends request before (.ok extraction) after

theorem exists_endsInName
    (request : Request) :
    ∃ name, request.outputPath.EndsInName name := by
  obtain ⟨name, hname, _⟩ :=
    Path.exists_endsInName_outputPath request.folder request.outputFolder request.outputName
  exact ⟨name, hname⟩

theorem produce_ends
    (hdocument : store.HasDocument request.folder)
    (hlegend : store.HasLegend request.legend)
    {children : List Child}
    (hlist : store.list? request.folder = some children)
    {documents : DocumentSet}
    (hdocuments : documents.documents = Intake.documentsOf store request.folder children)
    {text : String}
    (hread : store.readText request.legend = .ok text)
    {legend : Legend}
    (hparsed : (Legend.ofText text).value = .ok legend) :
    request.Ends store ((request.produce documents legend).run store).value
      ((request.produce documents legend).run store).store := by
  obtain ⟨name, hname⟩ := request.exists_endsInName
  by_cases hreceive : store.CanReceive request.outputPath
  · obtain ⟨goal, hplaced, hfind⟩ :=
      Store.replaceFile_of_canReceive hname hreceive
        ((Report.assemble documents legend request.uri).value.toCsv request.quoting)
    obtain ⟨hvalue, hstore⟩ := run_produce documents legend rfl hplaced
    rw [hvalue, hstore]
    refine .delivered hdocument hlegend hreceive ?_
    refine
      { outputPath_eq := rfl
        report_eq :=
          ⟨children, documents, text, legend, hlist, hdocuments, ?_, hread, hparsed, rfl⟩
        home_eq := rfl
        content := ⟨goal, hfind, ?_⟩ }
    · intro hdistinct hnames
      rw [hdocuments]
      exact ⟨_, Intake.areDocumentsOf_documentsOf hlist hdistinct hnames⟩
    · intro place hplace
      exact Store.item?_put_of_ne store _ hplace
  · obtain ⟨cause, hplaced⟩ :=
      Store.replaceFile_of_not_canReceive hname hreceive
        ((Report.assemble documents legend request.uri).value.toCsv request.quoting)
    obtain ⟨hvalue, hstore⟩ := run_produce documents legend rfl hplaced
    rw [hvalue, hstore]
    exact .noPlace hdocument hlegend hreceive cause

/-- Every extraction ends in one of these ways, the earlier ones first. -/
theorem extract_ends
    (request : Request)
    (store : Store) :
    request.Ends store (request.extract.run store).value (request.extract.run store).store := by
  obtain ⟨hvalue, hstore⟩ := run_extract request store
  rw [hvalue, hstore]
  by_cases hdocument : store.HasDocument request.folder
  · obtain ⟨children, documents, hlist, hdocuments, hloaded⟩ :=
      Intake.loadFolder_of_hasDocument hdocument
    rw [hloaded]
    by_cases hlegend : store.HasLegend request.legend
    · obtain ⟨text, legend, hread, hparsed, haccepted⟩ :=
        Intake.loadLegend_of_hasLegend hlegend
      rw [haccepted]
      exact produce_ends hdocument hlegend hlist hdocuments hread hparsed
    · obtain ⟨cause, hrefused⟩ := Intake.loadLegend_of_not_hasLegend hlegend
      rw [hrefused]
      exact .noLegend hdocument hlegend cause
  · by_cases hfolder : store.HasFolder request.folder
    · rw [Intake.loadFolder_of_not_hasDocument hfolder hdocument]
      exact .noDocument hfolder hdocument
    · rw [Intake.loadFolder_of_not_hasFolder hfolder]
      exact .noFolder hfolder

/--
A failed extraction leaves the store as it was, and a finished one delivers its
report.  What is missing decides how it ends: first the folder, then the
documents, the legend and a place for the report.  What is in the documents never
does, and neither does the name of the staged file.
-/
theorem extract_allOrNothing
    (request : Request)
    (store : Store) :
    (∀ place name text,
      store.staging request.outputPath.folder = .ok place →
      store.item? (place ++ [name]) = none →
      store.replaceThrough (place ++ [name]) request.outputPath text =
        store.replaceFile request.outputPath text) ∧
    (∀ cause,
      (request.extract.run store).value = .error cause →
      (request.extract.run store).store = store) ∧
    (∀ extraction,
      (request.extract.run store).value = .ok extraction →
      request.Delivered store extraction (request.extract.run store).store) ∧
    ((request.extract.run store).value = .error (.documents (.folderNotFound request.folder)) ↔
      ¬ store.HasFolder request.folder) ∧
    ((request.extract.run store).value = .error (.documents (.noDocuments request.folder)) ↔
      store.HasFolder request.folder ∧ ¬ store.HasDocument request.folder) ∧
    ((∃ cause, (request.extract.run store).value = .error (.legend cause)) ↔
      store.HasDocument request.folder ∧ ¬ store.HasLegend request.legend) ∧
    ((∃ cause, (request.extract.run store).value = .error (.output cause)) ↔
      store.HasDocument request.folder ∧ store.HasLegend request.legend ∧
        (¬ store.HasFolder request.outputPath.folder ∨ store.HasFolder request.outputPath ∨
          ¬ store.Addressable request.outputPath)) ∧
    ((∃ extraction, (request.extract.run store).value = .ok extraction) ↔
      store.HasDocument request.folder ∧ store.HasLegend request.legend ∧
        store.HasFolder request.outputPath.folder ∧ ¬ store.HasFolder request.outputPath ∧
          store.Addressable request.outputPath) := by
  constructor
  · intro place name text hstaging hunused
    obtain ⟨outputName, hname⟩ := request.exists_endsInName
    exact Store.replaceThrough_eq_replaceFile hname hstaging hunused text
  have hends := request.extract_ends store
  generalize (request.extract.run store).value = value at hends ⊢
  generalize (request.extract.run store).store = after at hends ⊢
  cases hends with
  | noFolder hfolder =>
      have hdocument : ¬ store.HasDocument request.folder := fun h => hfolder h.hasFolder
      simp [hfolder, hdocument]
  | noDocument hfolder hdocument => simp [hfolder, hdocument]
  | noLegend hdocument hlegend cause => simp [hdocument, hdocument.hasFolder, hlegend]
  | noPlace hdocument hlegend hreceive cause =>
      have hobstacle := Store.not_canReceive_iff.mp hreceive
      rw [Store.CanReceive] at hreceive
      simp [hdocument, hdocument.hasFolder, hlegend, hreceive, hobstacle]
  | delivered hdocument hlegend hreceive hdelivered =>
      rw [Store.CanReceive] at hreceive
      simp [hdocument, hdocument.hasFolder, hlegend, hreceive, hdelivered]

/-- The report of a malformed and of an unreadable document takes the place of a file that was
there, and is not written at all where there is no folder for it. -/
theorem extract_allOrNothing_of_failing_documents :
    let store : Store :=
      { items :=
          [(["in"], .folder), (["in", "a.xml"], .file "<r>".toUTF8),
            (["in", "b.XML"], .file ⟨#[255]⟩), (["legend"], .file "Age A<2>".toUTF8),
            (["in", "old.csv"], .file "what was there".toUTF8)]
        home := [] }
    let request : Request := ⟨⟨"in"⟩, ⟨"legend"⟩, some "old", none, "", .necessary⟩
    let misplaced : Request := { request with outputFolder := some ⟨"out"⟩ }
    (∃ extraction,
      (request.extract.run store).value = .ok extraction ∧
        request.Delivered store extraction (request.extract.run store).store ∧
          (request.extract.run store).store.readBytes ⟨"in/old.csv"⟩ =
            .ok "File Name,Age\na.xml,Error!\nb.XML,Error!\n".toUTF8) ∧
    (∃ cause,
      (misplaced.extract.run store).value = .error (.output cause) ∧
        (misplaced.extract.run store).store = store) := by
  intro store request misplaced
  have hlist :
      store.list? ⟨"in"⟩ = some [⟨"a.xml", true⟩, ⟨"b.XML", true⟩, ⟨"old.csv", true⟩] := by
    decide +kernel
  have hread : store.readText ⟨"legend"⟩ = .ok "Age A<2>" := by
    decide +kernel
  have hparsed :
      (Legend.ofText "Age A<2>").value = .ok ⟨[⟨"Age", [⟨"A", false, 1, "A<2>"⟩]⟩]⟩ := rfl
  have hdocument : store.HasDocument ⟨"in"⟩ :=
    ⟨_, hlist, ⟨"a.xml", true⟩, by decide, rfl, by decide +kernel⟩
  have hlegend : store.HasLegend ⟨"legend"⟩ :=
    ⟨_, hread, (Legend.exists_ofText_eq_ok_iff _).mp ⟨_, hparsed⟩⟩
  constructor
  · obtain ⟨_, _, hdelivered, _, _, _, _, hok⟩ := extract_allOrNothing request store
    obtain ⟨extraction, hvalue⟩ :=
      hok.mpr ⟨hdocument, hlegend, by decide +kernel, by decide +kernel, by decide +kernel⟩
    have hdone := hdelivered extraction hvalue
    refine ⟨extraction, hvalue, hdone, ?_⟩
    obtain ⟨children, documents, text, legend, hlist', hdocuments, _, hread', hparsed', hreport⟩ :=
      hdone.report_eq
    obtain ⟨goal, hfind, _⟩ := hdone.content
    obtain rfl := Option.some.inj (hlist.symm.trans hlist')
    obtain rfl := Except.ok.inj (hread.symm.trans hread')
    obtain rfl := Except.ok.inj (hparsed.symm.trans hparsed')
    have hnames :
        Intake.xmlNames [⟨"a.xml", true⟩, ⟨"b.XML", true⟩, ⟨"old.csv", true⟩] =
          ["a.xml", "b.XML"] :=
      List.mergeSort_of_pairwise (by decide +kernel)
    have hfound :
        documents =
          ⟨[⟨"a.xml", ⟨"in/a.xml"⟩, .loaded "<r>"⟩,
            ⟨"b.XML", ⟨"in/b.XML"⟩, .unreadable FileFault.notText.message⟩], by decide⟩ := by
      rw [DocumentSet.mk.injEq, hdocuments, Intake.documentsOf_eq_map_xmlNames, hnames]
      decide +kernel
    have hcsv :
        extraction.report.toCsv request.quoting =
          "File Name,Age\na.xml,Error!\nb.XML,Error!\n" := by
      rw [hreport, hfound]
      decide +kernel
    have hpath : request.outputPath = ⟨"in/old.csv"⟩ := by
      decide +kernel
    rw [hpath, hcsv] at hfind
    rw [Store.readBytes, hfind]
  · obtain ⟨_, hunchanged, _, _, _, _, houtput, _⟩ := extract_allOrNothing misplaced store
    obtain ⟨cause, hvalue⟩ :=
      houtput.mpr ⟨hdocument, hlegend, Or.inl (by decide +kernel)⟩
    exact ⟨cause, hvalue, hunchanged _ hvalue⟩

end Endings

end Request

end LegendReport
