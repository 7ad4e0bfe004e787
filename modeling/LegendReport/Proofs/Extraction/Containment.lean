import LegendReport.Proofs.Extraction.Repetition
import LegendReport.Proofs.Path.Containment

/-!
# Where reports are put

The path of a report is its name, joined to the folder that is chosen for it or else to
the input folder.  If the name goes through no folder of its own, the report is put into
the folder.  A name that does, or that is absolute, takes the report elsewhere, and
nothing in an extraction stops it.
-/

namespace LegendReport

namespace Store

variable {store : Store} {p q : Path}

/-- Paths that start alike and have the same moves lead to the same folder. -/
theorem find_eq_folder_of_moves_eq
    (hstart : p.isAbsolute = q.isAbsolute)
    (hmoves : Path.moves p.parts = Path.moves q.parts)
    (hfault : q.fault? = none)
    {place : Location}
    (h : store.find p = .ok (place, .folder)) :
    store.find q = .ok (place, .folder) := by
  have horigin : store.origin q = store.origin p := by
    rw [origin, origin, hstart]
  rw [find_eq_folder_iff] at h ⊢
  refine ⟨hfault, ?_⟩
  rw [horigin, ← enterAll_filter_dot, Path.filter_steps, ← hmoves, ← Path.filter_steps,
    enterAll_filter_dot]
  exact h.2

end Store

namespace Request

/-- The folder that is to hold the report. -/
def reportFolder (request : Request) : Path :=
  request.outputFolder.getD request.folder

section Containment

variable {request : Request} {store : Store} {extraction : Extraction} {single : String}

theorem outputPath_eq_join
    (request : Request) :
    request.outputPath = request.reportFolder.join (LegendReport.outputName request.outputName) := by
  rfl

/-- A report whose path lies in its folder is put there. -/
theorem store_extract_of_liesIn
    (h : (request.extract.run store).value = .ok extraction)
    (hlies : request.outputPath.LiesIn request.reportFolder single)
    (hfault : request.reportFolder.fault? = none) :
    ∃ place,
      store.find request.reportFolder = .ok (place, .folder) ∧
        (request.extract.run store).store =
          store.put (place ++ [single]) (.file (extraction.report.toCsv request.quoting).toUTF8) := by
  obtain ⟨place, name, _, _, hplaced, _, _, _, hstore⟩ := exists_placed_of_extract h
  have hown := hplaced.endsInName.liesIn_folder
  obtain ⟨hmoves, rfl⟩ := List.append_singleton_inj.mp (hown.moves_eq.symm.trans hlies.moves_eq)
  have hfolder := (Store.staging_eq_ok_iff.mp hplaced.staging_eq).1
  have hstart : request.outputPath.folder.isAbsolute = request.reportFolder.isAbsolute :=
    hown.isAbsolute_eq.symm.trans hlies.isAbsolute_eq
  exact ⟨place, Store.find_eq_folder_of_moves_eq hstart hmoves hfault hfolder, hstore⟩

/--
The path of a report lies in the folder that is chosen for it exactly if its name goes
through no other folder: a relative name has to be a single name, leaving aside parts
that stay where they are, and an absolute one has to go through the very folder.  This
is the case for every chosen name without a slash, and the path is then the folder joined
with that single name.  A report whose path lies in the folder is put into it.
-/
theorem outputPath_liesIn_iff
    (request : Request) :
    let name := LegendReport.outputName request.outputName
    ∃ lead last,
      Path.moves (Path.mk name).parts = lead ++ [last] ∧
      (∀ single,
        request.outputPath.LiesIn request.reportFolder single ↔
          single = last ∧
            if (Path.mk name).isAbsolute then
              request.reportFolder.isAbsolute = true ∧
                lead = Path.moves request.reportFolder.parts
            else lead = []) ∧
      ((∀ chosen ∈ request.outputName, '/' ∉ chosen.toList) →
        request.outputPath = request.reportFolder.join last ∧
          request.outputPath.LiesIn request.reportFolder last) ∧
      ∀ store extraction,
        (request.extract.run store).value = .ok extraction →
          request.outputPath.LiesIn request.reportFolder last →
            request.reportFolder.fault? = none →
              ∃ place,
                store.find request.reportFolder = .ok (place, .folder) ∧
                  (request.extract.run store).store =
                    store.put (place ++ [last])
                      (.file (extraction.report.toCsv request.quoting).toUTF8) := by
  intro name
  obtain ⟨last, hlast, _⟩ := Path.exists_endsInName_outputName request.outputName
  obtain ⟨lead, hmoves⟩ := hlast.exists_moves_eq
  have hlies := Path.liesIn_join_iff hmoves hlast.ne_dots request.reportFolder
  refine ⟨lead, last, hmoves, hlies, ?_, ?_⟩
  · intro hchosen
    obtain ⟨hrelative, hsingle, hname⟩ :=
      hlast.eq_of_slash_not_mem (slash_not_mem_outputName hchosen)
    refine ⟨by rw [hname, outputPath_eq_join], ?_⟩
    have hlead : lead = [] := by
      simpa using hmoves.symm.trans hsingle
    rw [outputPath_eq_join, hlies]
    simp [hrelative, hlead]
  · intro store extraction h hin hfault
    exact store_extract_of_liesIn h hin hfault

/-- A name of dots is a name like any other once it has the ending. -/
theorem outputPath_liesIn_iff_of_dots :
    let store : Store :=
      { items :=
          [(["in"], .folder), (["in", "a.xml"], .file "<r><A>x</A></r>".toUTF8),
            (["legend"], .file "Age A".toUTF8), (["out"], .folder)]
        home := [] }
    let request : Request := ⟨⟨"in"⟩, ⟨"legend"⟩, some " .. ", some ⟨"./out/"⟩, "", .necessary⟩
    let extraction : Extraction :=
      ⟨⟨"./out/...csv"⟩, ⟨["File Name", "Age"], [⟨["a.xml", "x"], []⟩]⟩⟩
    (request.extract.run store).value = .ok extraction ∧
      request.outputPath.LiesIn ⟨"./out/"⟩ "...csv" ∧
      ∃ place,
        store.find ⟨"./out/"⟩ = .ok (place, .folder) ∧
          (request.extract.run store).store =
            store.put (place ++ ["...csv"]) (.file "File Name,Age\na.xml,x\n".toUTF8) := by
  intro store request extraction
  have hvalue : (request.extract.run store).value = .ok extraction := by
    decide +kernel
  obtain ⟨lead, last, hmoves, _, hsingle, hput⟩ := outputPath_liesIn_iff request
  have hname : Path.moves (Path.mk (LegendReport.outputName request.outputName)).parts =
      [] ++ ["...csv"] := by
    decide +kernel
  obtain ⟨_, rfl⟩ := List.append_singleton_inj.mp (hname.symm.trans hmoves)
  have hlies := (hsingle (by decide)).2
  exact ⟨hvalue, hlies, hput store extraction hvalue hlies (by decide)⟩

/-- A name with slashes takes a report out of its folder: an absolute name, one that leads upwards
and one that goes through a folder. -/
theorem outputPath_leaves_folder :
    let store : Store :=
      { items :=
          [(["work"], .folder), (["work", "in"], .folder),
            (["work", "in", "a.xml"], .file "<r><A>x</A></r>".toUTF8),
            (["work", "legend"], .file "Age A".toUTF8), (["work", "out"], .folder),
            (["work", "out", "sub"], .folder)]
        home := ["work"] }
    let request (name : String) : Request :=
      ⟨⟨"in"⟩, ⟨"legend"⟩, some name, some ⟨"out"⟩, "", .necessary⟩
    let after (name : String) : Store := ((request name).extract.run store).store
    let report : Item := .file "File Name,Age\na.xml,x\n".toUTF8
    ((request "/x").outputPath = ⟨"/x.csv"⟩ ∧ (after "/x").item? ["x.csv"] = some report) ∧
      ((request "../x").outputPath = ⟨"out/../x.csv"⟩ ∧
        (after "../x").item? ["work", "x.csv"] = some report) ∧
      ((request "sub/x").outputPath = ⟨"out/sub/x.csv"⟩ ∧
        (after "sub/x").item? ["work", "out", "sub", "x.csv"] = some report) ∧
      ∀ name ∈ ["/x", "../x", "sub/x"], ∀ single,
        ¬ (request name).outputPath.LiesIn (request name).reportFolder single := by
  intro store request after report
  refine ⟨by decide +kernel, by decide +kernel, by decide +kernel, ?_⟩
  intro name hname single hlies
  have hleaves : ∀ name ∈ ["/x", "../x", "sub/x"],
      (request name).outputPath.isAbsolute = (request name).reportFolder.isAbsolute →
        (Path.moves (request name).outputPath.parts).length ≠
          (Path.moves (request name).reportFolder.parts).length + 1 := by
    decide +kernel
  refine hleaves name hname hlies.isAbsolute_eq ?_
  rw [hlies.moves_eq, List.length_append, List.length_singleton]

end Containment

end Request

end LegendReport
