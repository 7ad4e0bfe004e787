import LegendReport.Proofs.Extraction.Repetition

/-!
# Extractions keep their documents

Whatever name and folder are chosen for a report, its path ends in a name with the
ending `.csv`, so the report never takes the place of a document.  After a run, finished
or failed, every folder has the documents that it had before, with the same content.
-/

namespace LegendReport

namespace Request

/-- A run changes nothing, or it puts a file in the place of the report. -/
theorem store_extract_eq_or_exists_placed
    (request : Request)
    (store : Store) :
    (request.extract.run store).store = store ∨
      ∃ place name bytes,
        request.Placed store place name ∧
          (request.extract.run store).store = store.put (place ++ [name]) (.file bytes) := by
  cases hvalue : (request.extract.run store).value with
  | ok extraction =>
      obtain ⟨place, name, _, _, hplaced, _, _, _, hstore⟩ := exists_placed_of_extract hvalue
      exact Or.inr ⟨place, name, _, hplaced, hstore⟩
  | error cause =>
      have hends := request.extract_ends store
      rw [hvalue] at hends
      generalize (request.extract.run store).store = after at hends ⊢
      cases hends with
      | noFolder hfolder => exact Or.inl rfl
      | noDocument hfolder hdocument => exact Or.inl rfl
      | noLegend hdocument hlegend cause => exact Or.inl rfl
      | noPlace hdocument hlegend hreceive cause => exact Or.inl rfl

/-- The name of a report is not the name of any document. -/
theorem fileName?_ne_outputPath
    (request : Request)
    {folder p : Path}
    {children : List Child}
    (h : p ∈ Intake.xmlPaths folder children) :
    p.fileName? ≠ request.outputPath.fileName? := by
  obtain ⟨last, ending, hlast, hending, hletters⟩ := Intake.exists_endsInName_of_mem_xmlPaths h
  obtain ⟨name, hname, hcsv⟩ :=
    Path.exists_endsInName_outputPath request.folder request.outputFolder request.outputName
  have hreport : request.outputPath.fileName? = some name :=
    Path.EndsInName.fileName?_eq hname
  rw [hlast.fileName?_eq, hreport, Ne, Option.some.injEq]
  rintro rfl
  exact Intake.not_csv_suffix hletters hending hcsv

/--
A report has the ending of reports and is no document of any folder.  No run of an
extraction changes a file with the extension of documents, the documents that a folder
has, or what is read of them.
-/
theorem extract_keeps_documents
    (request : Request)
    (store : Store) :
    let after := (request.extract.run store).store
    (∃ name,
      request.outputPath.fileName? = some name ∧ ".csv".toList <:+ name.toList ∧
        ¬ Intake.IsXmlFileName name) ∧
    (∀ (store' : Store) (folder : Path) (files : List Path),
      ((Intake.listXml folder).run store').value = .ok files →
        ∀ p ∈ files, p ≠ request.outputPath ∧ p.fileName? ≠ request.outputPath.fileName?) ∧
    (∀ place name,
      Intake.IsXmlFileName name →
        after.item? (place ++ [name]) = store.item? (place ++ [name])) ∧
    (∀ folder,
      ((Intake.listXml folder).run after).value = ((Intake.listXml folder).run store).value) ∧
    (∀ folder files,
      ((Intake.listXml folder).run store).value = .ok files →
        ∀ p ∈ files, ∀ bytes, after.readBytes p = .ok bytes ↔ store.readBytes p = .ok bytes) := by
  intro after
  refine ⟨?_, ?_, ?_⟩
  · obtain ⟨name, hname, hcsv⟩ :=
      Path.exists_endsInName_outputPath request.folder request.outputFolder request.outputName
    exact ⟨name, Path.EndsInName.fileName?_eq hname, hcsv, Intake.not_isXmlFileName_of_suffix hcsv⟩
  · intro store' folder files hfiles p hp
    obtain ⟨children, rfl⟩ := Intake.exists_xmlPaths_of_listXml hfiles
    have hname := request.fileName?_ne_outputPath hp
    exact ⟨fun heq => hname (congrArg Path.fileName? heq), hname⟩
  rcases request.store_extract_eq_or_exists_placed store with
    hafter | ⟨goal, report, bytes, hplaced, hafter⟩
  · have hsame : after = store := hafter
    rw [hsame]
    exact ⟨fun _ _ _ => rfl, fun _ => rfl, fun _ _ _ _ _ _ => Iff.rfl⟩
  · have hput : after = store.put (goal ++ [report]) (.file bytes) := hafter
    have hgoal := hplaced.item?_ne_folder
    rw [hput]
    refine ⟨?_, ?_, ?_⟩
    · intro place name hxml
      apply Store.item?_put_of_ne
      intro heq
      obtain rfl := (List.append_singleton_inj.mp heq).2
      exact Intake.not_isXmlFileName_of_suffix hplaced.ending hxml
    · intro folder
      exact Intake.value_run_listXml_put hplaced.ending hgoal folder bytes
    · intro folder files hfiles p hp found
      obtain ⟨children, rfl⟩ := Intake.exists_xmlPaths_of_listXml hfiles
      exact Intake.readBytes_put_eq_ok_iff hplaced.ending hgoal hp

/-- A report that is named after a document goes beside it. -/
theorem extract_keeps_documents_of_document_name :
    let store : Store :=
      { items :=
          [(["in"], .folder), (["in", "a.xml"], .file "<r><A>x</A></r>".toUTF8),
            (["legend"], .file "Age A<1>".toUTF8)]
        home := [] }
    let request : Request :=
      ⟨⟨"in"⟩, ⟨"legend"⟩, some " ../in/a.xml ", none, "", .necessary⟩
    let after := (request.extract.run store).store
    (request.extract.run store).value =
        .ok ⟨⟨"in/../in/a.xml.csv"⟩, ⟨["File Name", "Age"], [⟨["a.xml", "x"], []⟩]⟩⟩ ∧
      after.readText ⟨"in/a.xml.csv"⟩ = .ok "File Name,Age\na.xml,x\n" ∧
      ((Intake.listXml ⟨"in"⟩).run after).value = .ok [⟨"in/a.xml"⟩] ∧
      request.outputPath ≠ ⟨"in/a.xml"⟩ ∧
      after.readBytes ⟨"in/a.xml"⟩ = .ok "<r><A>x</A></r>".toUTF8 := by
  intro store request after
  have hlisted : ((Intake.listXml ⟨"in"⟩).run store).value = .ok [⟨"in/a.xml"⟩] := by
    decide +kernel
  obtain ⟨_, hother, _, hlisting, hcontent⟩ := extract_keeps_documents request store
  refine ⟨by decide +kernel, by decide +kernel, (hlisting ⟨"in"⟩).trans hlisted, ?_, ?_⟩
  · exact (hother store _ _ hlisted _ (List.mem_singleton_self _)).1.symm
  · exact (hcontent _ _ hlisted _ (List.mem_singleton_self _) _).mpr (by decide +kernel)

end Request

end LegendReport
