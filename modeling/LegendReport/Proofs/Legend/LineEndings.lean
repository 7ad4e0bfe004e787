import LegendReport.Legend.Reading
import LegendReport.Proofs.Text.Pieces

/-!
# Line endings of a legend

A line ends with a line feed, or with a carriage return and a line feed; a last line that
is not empty needs no ending.  The ending of a line is no part of it, so a legend text gives
the legend of its lines, with the same warnings or the same error, however each of them
ends.
-/

namespace LegendReport

namespace Text

/-- The characters that a line can end with. -/
inductive LineEnding where
  | feed
  | returnFeed
  deriving DecidableEq, Repr

def LineEnding.text : LineEnding → String
  | feed => "\n"
  | returnFeed => "\r\n"

/-- A text without any character of a line ending. -/
def IsUnbroken (line : String) : Prop :=
  '\r' ∉ line.toList ∧ '\n' ∉ line.toList

instance (line : String) :
    Decidable (IsUnbroken line) :=
  inferInstanceAs (Decidable (_ ∧ _))

/-- A text consists of lines, each with an ending of its own; the last may go without if it is not
empty. -/
inductive Writes : List String → String → Prop where
  | nothing :
      Writes [] ""
  | unended
      {line : String}
      (hline : IsUnbroken line)
      (hne : line ≠ "") :
      Writes [line] line
  | ended
      {line text : String}
      {rest : List String}
      (hline : IsUnbroken line)
      (ending : LineEnding)
      (hrest : Writes rest text) :
      Writes (line :: rest) (line ++ ending.text ++ text)

variable {line text : String} {lines : List String}

theorem linesOfPieces_cons
    (piece : List Char)
    {pieces : List (List Char)}
    (h : pieces ≠ []) :
    linesOfPieces (piece :: pieces) = dropReturn piece :: linesOfPieces pieces := by
  cases pieces with
  | nil => exact absurd rfl h
  | cons next rest => rfl

/-- The first line feed ends the first line. -/
theorem lines_append_feed
    (h : '\n' ∉ line.toList)
    (text : String) :
    Text.lines (line ++ "\n" ++ text) =
      String.ofList (dropReturn line.toList) :: Text.lines text := by
  have hsplit :
      (line ++ "\n" ++ text).toList.splitOn '\n' = line.toList :: text.toList.splitOn '\n' := by
    have htext : (line ++ "\n" ++ text).toList = line.toList ++ '\n' :: text.toList := by
      simp
    rw [htext, splitOn_append_separator, List.splitOn_eq_singleton h, List.singleton_append]
  rw [Text.lines, hsplit, linesOfPieces_cons _ (List.splitOn_ne_nil _ _), List.map_cons, Text.lines]

theorem lines_append_ending
    (hline : IsUnbroken line)
    (ending : LineEnding)
    (text : String) :
    Text.lines (line ++ ending.text ++ text) = line :: Text.lines text := by
  obtain ⟨hreturn, hfeed⟩ := hline
  cases ending with
  | feed =>
      rw [LineEnding.text, lines_append_feed hfeed, dropReturn_of_not_mem hreturn,
        String.ofList_toList]
  | returnFeed =>
      have hending : line ++ "\r\n" = line ++ "\r" ++ "\n" := by
        rw [String.append_assoc]
        rfl
      have hfeed' : '\n' ∉ (line ++ "\r").toList := by
        simpa using hfeed
      rw [LineEnding.text, hending, lines_append_feed hfeed']
      simp

/-- The lines of a text are those that it was written from. -/
theorem Writes.lines_eq
    (h : Writes lines text) :
    Text.lines text = lines := by
  induction h with
  | nothing => rfl
  | @unended line hline hne =>
      have hne' : line.toList ≠ [] := by
        simpa using hne
      rw [Text.lines, List.splitOn_eq_singleton hline.2, linesOfPieces, if_neg hne']
      simp
  | ended hline ending _ ih => rw [lines_append_ending hline ending, ih]

end Text

namespace Legend

/--
A text that is written from lines is read as these lines: it gives the same columns with the
same warnings, or the same error at the same line.  So the endings chosen for the lines do not
matter, nor whether the last line has one.
-/
theorem ofText_ignores_endings
    {lines : List String}
    {text : String}
    (h : Text.Writes lines text) :
    ofText text = ofLines lines ∧
    ∀ other, Text.Writes lines other → ofText other = ofText text := by
  have hlines : ∀ written, Text.Writes lines written → ofText written = ofLines lines := by
    intro written hwritten
    rw [ofText, hwritten.lines_eq]
  refine ⟨hlines text h, ?_⟩
  intro other hother
  rw [hlines other hother, hlines text h]

/-- No carriage return hides a blank line or gets into an occurrence number, in front of a bad token
on a line that is not ended. -/
theorem ofText_ignores_endings_of_mixed :
    let lines := ["Age :Person<1> Birth<2>", "", "Notes", "City A<0>"]
    let text := "Age :Person<1> Birth<2>\r\n\r\nNotes\nCity A<0>"
    let other := "Age :Person<1> Birth<2>\n\nNotes\r\nCity A<0>\r\n"
    ofText text = ofLines lines ∧ ofText other = ofText text ∧
      (ofText text).value = .error (.line 4 (.zeroIndex "A<0>")) ∧
      (ofText text).journal =
        [⟨[], .blankLegendLine 2⟩, ⟨[], .pathlessColumn 3 "Notes"⟩] := by
  intro lines text other
  have htext : Text.Writes lines text :=
    .ended (by decide) .returnFeed <| .ended (by decide) .returnFeed <| .ended (by decide) .feed <|
      .unended (by decide) (by decide)
  have hother : Text.Writes lines other :=
    .ended (by decide) .feed <| .ended (by decide) .feed <| .ended (by decide) .returnFeed <|
      .ended (by decide) .returnFeed .nothing
  obtain ⟨hlines, hsame⟩ := ofText_ignores_endings htext
  refine ⟨hlines, hsame other hother, ?_, ?_⟩
  · rw [hlines]
    rfl
  · rw [hlines]
    decide +kernel

end Legend

end LegendReport
