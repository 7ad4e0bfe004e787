import LegendReport.Text.Blank

/-!
# The namespace of a run

Qualified segments look for elements in the namespace of the run.  It is chosen
for the run, or configured for the user, or the default; a blank choice counts
as none.
-/

namespace LegendReport

/-- The namespace of documents if none is chosen. -/
def defaultUri : String := "com/thomsonreuters/schemas/person-report"

/-- The namespace of a run: the first of the two that is not blank, or the default. -/
def documentUri (chosen configured : Option String) : String :=
  let proper := fun uri => !Text.isBlank uri
  ((chosen.filter proper).or (configured.filter proper)).getD defaultUri

end LegendReport
