import LegendReport.Path
import LegendReport.Text.Blank

/-!
# Names of report files

A report is written to a file whose name ends in `.csv`.  The name is chosen
freely; white space around it is dropped, the ending is added if it is missing,
and a blank name stands for the default.
-/

namespace LegendReport

/-- The name of a report file if none is chosen. -/
def defaultOutputName : String := "output.csv"

/-- The name of the report file for a chosen name. -/
def outputName (chosen : Option String) : String :=
  match chosen with
  | none => defaultOutputName
  | some name =>
    let trimmed := Text.trim name
    if trimmed = "" then defaultOutputName
    else if ".csv".toList.isSuffixOf trimmed.toList then trimmed
    else trimmed ++ ".csv"

/-- Where the report of a folder is written: in the chosen folder, or else in the folder itself. -/
def outputPath (folder : Path) (chosenFolder : Option Path) (chosenName : Option String) : Path :=
  (chosenFolder.getD folder).join (outputName chosenName)

/-- Every name of a report file has the ending. -/
theorem outputName_endsWith
    (chosen : Option String) :
    ".csv".toList.isSuffixOf (outputName chosen).toList = true := by
  unfold outputName
  split
  · decide
  · dsimp only
    split
    · decide
    · split
      · assumption
      · rw [List.isSuffixOf_iff_suffix, String.toList_append]
        exact List.suffix_append _ _

end LegendReport
