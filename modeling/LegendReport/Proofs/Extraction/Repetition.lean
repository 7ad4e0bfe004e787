import LegendReport.Proofs.Extraction.AllOrNothing
import LegendReport.Proofs.Intake.Separation
import LegendReport.Proofs.Report.Alignment

/-!
# Repeated extractions

The report of an extraction replaces any file at its path, the legend too if that is
where the legend is.  It replaces nothing else that the extraction reads.  So an
extraction whose report goes elsewhere can be repeated and gives the same report.
-/

namespace LegendReport

/-- A row depends on the text that was read of its document, and not on why there is none. -/
theorem Row.value_ofDocument_congr
    {p : Path}
    {result result' : Except FileFault String}
    (h : ∀ text, result = .ok text ↔ result' = .ok text)
    (legend : Legend)
    (uri : String) :
    (Row.ofDocument (Intake.document p result) legend uri).value =
      (Row.ofDocument (Intake.document p result') legend uri).value := by
  cases result with
  | ok text =>
      obtain rfl := (h text).mp rfl
      rfl
  | error cause =>
      cases result' with
      | ok text => exact absurd ((h text).mpr rfl) (by simp)
      | error cause' => rfl

namespace Request

/-- The folder and the name that a report is put under. -/
structure Placed (request : Request) (store : Store) (place : Location) (name : String) : Prop where
  endsInName : request.outputPath.EndsInName name
  ending : ".csv".toList <:+ name.toList
  staging_eq : store.staging request.outputPath.folder = .ok place
  obstacle?_eq : store.obstacle? request.outputPath place name = none

section Placement

variable {request : Request} {store : Store} {place : Location} {name : String}

theorem exists_placed
    (h : store.CanReceive request.outputPath) :
    ∃ place name, request.Placed store place name := by
  obtain ⟨name, hname, hending⟩ :=
    Path.exists_endsInName_outputPath request.folder request.outputFolder request.outputName
  obtain ⟨place, hstaging, hobstacle⟩ := (Store.canReceive_iff hname).mp h
  exact ⟨place, name, hname, hending, hstaging, hobstacle⟩

theorem Placed.item?_ne_folder
    (h : request.Placed store place name) :
    store.item? (place ++ [name]) ≠ some .folder :=
  (Store.obstacle?_eq_none_iff.mp h.obstacle?_eq).2.2

/-- The output path leads to the file that is in the place of the report, if any is. -/
theorem Placed.find_eq_file_iff
    (h : request.Placed store place name)
    {location : Location}
    {bytes : ByteArray} :
    store.find request.outputPath = .ok (location, .file bytes) ↔
      location = place ++ [name] ∧ store.item? location = some (.file bytes) := by
  obtain ⟨hfault, hshort, _⟩ := Store.obstacle?_eq_none_iff.mp h.obstacle?_eq
  exact Store.find_eq_file_iff_of_endsInName h.endsInName hfault hshort
    (Store.enterAll_dropLast_of_staging h.endsInName h.staging_eq)

/-- The output path leads to a given file exactly if that is in the place of the report. -/
theorem Placed.find_eq_find_iff
    (h : request.Placed store place name)
    {p : Path}
    {location : Location}
    {bytes : ByteArray}
    (hfind : store.find p = .ok (location, .file bytes)) :
    store.find request.outputPath = store.find p ↔ location = place ++ [name] := by
  rw [hfind, h.find_eq_file_iff]
  exact and_iff_left (Store.find_eq_file_iff.mp hfind).2.1

/-- A report that has been put in its place can be put there again. -/
theorem Placed.put
    (h : request.Placed store place name)
    (bytes : ByteArray) :
    request.Placed (store.put (place ++ [name]) (.file bytes)) place name where
  endsInName := h.endsInName
  ending := h.ending
  staging_eq := by
    obtain ⟨hfolder, hstaged⟩ := Store.staging_eq_ok_iff.mp h.staging_eq
    exact Store.staging_eq_ok_iff.mpr
      ⟨(Store.find_put_eq_folder_iff h.item?_ne_folder).mpr hfolder, hstaged⟩
  obstacle?_eq := by
    obtain ⟨hfault, hshort, hfolder⟩ := Store.obstacle?_eq_none_iff.mp h.obstacle?_eq
    refine Store.obstacle?_eq_none_iff.mpr ⟨hfault, hshort, ?_⟩
    rwa [Ne, Store.item?_put_eq_folder_iff hfolder]

theorem Placed.run_extract
    (h : request.Placed store place name)
    {documents : DocumentSet}
    (hloaded : ((Intake.loadFolder request.folder).run store).value = .ok documents)
    {legend : Legend}
    (haccepted : ((Intake.loadLegend request.legend).run store).value = .ok legend)
    {report : Report}
    (hreport : (Report.assemble documents legend request.uri).value = report) :
    (request.extract.run store).value = .ok ⟨request.outputPath, report⟩ ∧
      (request.extract.run store).store =
        store.put (place ++ [name]) (.file (report.toCsv request.quoting).toUTF8) := by
  obtain ⟨hvalue, hstore⟩ := Request.run_extract request store
  rw [hloaded, haccepted] at hvalue hstore
  have hplaced :
      store.replaceFile request.outputPath (report.toCsv request.quoting) =
        (.ok (), store.put (place ++ [name]) (.file (report.toCsv request.quoting).toUTF8)) := by
    rw [Store.replaceFile_of_staging h.endsInName h.staging_eq, h.obstacle?_eq]
  obtain ⟨hproduced, hafter⟩ := run_produce documents legend hreport hplaced
  exact ⟨hvalue.trans hproduced, hstore.trans hafter⟩

/-- The documents give the same report once a report is among them. -/
theorem Placed.exists_loadFolder_put
    (h : request.Placed store place name)
    {documents : DocumentSet}
    (hloaded : ((Intake.loadFolder request.folder).run store).value = .ok documents)
    (bytes : ByteArray) :
    ∃ documents',
      ((Intake.loadFolder request.folder).run
          (store.put (place ++ [name]) (.file bytes))).value = .ok documents' ∧
        ∀ legend uri,
          (Report.assemble documents' legend uri).value =
            (Report.assemble documents legend uri).value := by
  cases hlist : store.list? request.folder with
  | none => simp [Intake.value_run_loadFolder, hlist] at hloaded
  | some children =>
      obtain ⟨children', hlist', hpaths⟩ :=
        Intake.exists_list?_put h.ending h.item?_ne_folder hlist bytes
      have hne : Intake.documentsOf store request.folder children ≠ [] := by
        intro hnil
        simp [Intake.value_run_loadFolder_of_nil hlist hnil] at hloaded
      have hne' :
          Intake.documentsOf (store.put (place ++ [name]) (.file bytes)) request.folder children' ≠
            [] := by
        rw [Intake.documentsOf, hpaths]
        simpa [Intake.documentsOf] using hne
      obtain rfl : ⟨Intake.documentsOf store request.folder children, hne⟩ = documents := by
        simpa [Intake.value_run_loadFolder_of_ne_nil hlist hne] using hloaded
      refine ⟨⟨_, hne'⟩, Intake.value_run_loadFolder_of_ne_nil hlist' hne', ?_⟩
      intro legend uri
      simp only [Report.value_assemble_eq_map, Intake.documentsOf, hpaths, List.map_map]
      congr 1
      apply List.map_congr_left
      intro p hp
      apply Row.value_ofDocument_congr
      intro text
      exact Intake.readText_put_eq_ok_iff h.ending h.item?_ne_folder hp

end Placement

section Repetition

variable {request : Request} {store : Store} {extraction : Extraction}

/-- What a finished extraction has read, and where its report was put. -/
theorem exists_placed_of_extract
    (h : (request.extract.run store).value = .ok extraction) :
    ∃ place name documents legend,
      request.Placed store place name ∧
        ((Intake.loadFolder request.folder).run store).value = .ok documents ∧
        ((Intake.loadLegend request.legend).run store).value = .ok legend ∧
        extraction = ⟨request.outputPath, (Report.assemble documents legend request.uri).value⟩ ∧
        (request.extract.run store).store =
          store.put (place ++ [name]) (.file (extraction.report.toCsv request.quoting).toUTF8) := by
  have hends := request.extract_ends store
  rw [h] at hends
  cases hends with
  | delivered hdocument hlegend hreceive hdelivered =>
      obtain ⟨place, name, hplaced⟩ := exists_placed hreceive
      obtain ⟨_, documents, _, _, hloaded⟩ := Intake.loadFolder_of_hasDocument hdocument
      obtain ⟨_, legend, _, _, haccepted⟩ := Intake.loadLegend_of_hasLegend hlegend
      obtain ⟨hvalue, hstore⟩ := hplaced.run_extract hloaded haccepted rfl
      obtain rfl : _ = extraction := Except.ok.inj (hvalue.symm.trans h)
      exact ⟨place, name, documents, legend, hplaced, hloaded, haccepted, rfl, hstore⟩

/-- A legend is accepted for its text alone. -/
theorem exists_text_of_loadLegend
    {p : Path}
    {legend : Legend}
    (h : ((Intake.loadLegend p).run store).value = .ok legend) :
    ∃ text,
      store.readText p = .ok text ∧
        ∀ store' : Store,
          store'.readText p = .ok text → ((Intake.loadLegend p).run store').value = .ok legend := by
  rw [(Intake.run_loadLegend p).1] at h
  cases hread : store.readText p with
  | error cause => simp [hread] at h
  | ok text =>
      refine ⟨text, rfl, ?_⟩
      intro store' hread'
      rw [hread] at h
      rw [(Intake.run_loadLegend p).1, hread']
      exact h

/--
A finished extraction whose output path leads to no file, or to another file than the
legend, leaves the legend as it was, and the same extraction can be run again with
the same result.  If the output path leads to the legend, the report is there
instead.
-/
theorem extract_repeats_beside_legend
    (h : (request.extract.run store).value = .ok extraction) :
    let after := (request.extract.run store).store
    (store.find request.outputPath ≠ store.find request.legend →
      after.readBytes request.legend = store.readBytes request.legend ∧
        (request.extract.run after).value = .ok extraction) ∧
    (store.find request.outputPath = store.find request.legend →
      after.readBytes request.legend =
        .ok (extraction.report.toCsv request.quoting).toUTF8) := by
  obtain ⟨place, name, documents, legend, hplaced, hloaded, haccepted, hextraction, hstore⟩ :=
    exists_placed_of_extract h
  obtain ⟨text, hread, haccepts⟩ := exists_text_of_loadLegend haccepted
  obtain ⟨location, hlegend⟩ := Store.readText_eq_ok_iff.mp hread
  have hgoal := hplaced.item?_ne_folder
  have hreplaced := hplaced.find_eq_find_iff hlegend
  generalize (extraction.report.toCsv request.quoting).toUTF8 = bytes at hstore ⊢
  intro after
  have hafter : after = store.put (place ++ [name]) (.file bytes) := hstore
  rw [hafter]
  constructor
  · intro hapart
    have hkept :
        (store.put (place ++ [name]) (.file bytes)).find request.legend =
          .ok (location, .file text.toUTF8) :=
      (Store.find_put_eq_file_iff hgoal (mt hreplaced.mpr hapart)).mpr hlegend
    obtain ⟨documents', hloaded', hsame⟩ := hplaced.exists_loadFolder_put hloaded bytes
    have haccepted' := haccepts _ (Store.readText_eq_ok_iff.mpr ⟨_, hkept⟩)
    constructor
    · rw [Store.readBytes_eq_ok_iff.mpr ⟨_, hkept⟩, Store.readBytes_eq_ok_iff.mpr ⟨_, hlegend⟩]
    · rw [((hplaced.put bytes).run_extract hloaded' haccepted' rfl).1, hsame, hextraction]
  · intro hsame
    rw [hreplaced.mp hsame] at hlegend
    exact Store.readBytes_eq_ok_iff.mpr ⟨_, Store.find_put_self hgoal hlegend⟩

/-- A report that is written over its own legend is the legend of the next extraction, which gives
another report. -/
theorem extract_replaces_legend_at_output :
    let store : Store :=
      { items :=
          [(["in"], .folder), (["in", "a.xml"], .file "<r><A>x</A></r>".toUTF8),
            (["in", "output.csv"], .file "Age A<1>".toUTF8)]
        home := [] }
    let request : Request := ⟨⟨"in"⟩, ⟨"in/output.csv"⟩, none, none, "", .necessary⟩
    let after := (request.extract.run store).store
    (request.extract.run store).value =
        .ok ⟨⟨"in/output.csv"⟩, ⟨["File Name", "Age"], [⟨["a.xml", "x"], []⟩]⟩⟩ ∧
      store.readText request.legend = .ok "Age A<1>" ∧
      after.readText request.legend = .ok "File Name,Age\na.xml,x\n" ∧
      (request.extract.run after).value =
        .ok ⟨⟨"in/output.csv"⟩,
          ⟨["File Name", "File", "a.xml,x"], [⟨["a.xml", "Error!", "Error!"], [0, 1]⟩]⟩⟩ := by
  decide +kernel

/-- A legend that is in the folder of the documents, beside a report that is replaced, is kept. -/
theorem extract_repeats_beside_legend_in_input_folder :
    let store : Store :=
      { items :=
          [(["in"], .folder), (["in", "a.xml"], .file "<r><A>x</A></r>".toUTF8),
            (["in", "legend.csv"], .file "Age A<1>".toUTF8),
            (["in", "output.csv"], .file "what was there".toUTF8)]
        home := [] }
    let request : Request := ⟨⟨"in"⟩, ⟨"./in/legend.csv"⟩, some " output ", none, "", .necessary⟩
    let extraction : Extraction :=
      ⟨⟨"in/output.csv"⟩, ⟨["File Name", "Age"], [⟨["a.xml", "x"], []⟩]⟩⟩
    let after := (request.extract.run store).store
    (request.extract.run store).value = .ok extraction ∧
      store.find request.outputPath ≠ store.find request.legend ∧
      after.readBytes request.legend = store.readBytes request.legend ∧
      (request.extract.run after).value = .ok extraction := by
  intro store request extraction after
  have hvalue : (request.extract.run store).value = .ok extraction := by
    decide +kernel
  have hapart : store.find request.outputPath ≠ store.find request.legend := by
    decide +kernel
  exact ⟨hvalue, hapart, (extract_repeats_beside_legend hvalue).1 hapart⟩

end Repetition

end Request

end LegendReport
