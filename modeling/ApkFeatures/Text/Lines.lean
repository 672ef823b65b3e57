/-
**Lines.**

A line ends with a line feed, possibly after a carriage return; what follows the last line end is a
line if it is not empty.
-/

namespace ApkFeatures.Text

/-- The line without a carriage return at its end. -/
def withoutReturn (line : List Char) : List Char :=
  if line.getLast? = some '\r' then line.dropLast else line

/-- The lines of a text. -/
def lines (text : List Char) : List (List Char) :=
  let pieces := text.splitOn '\n'
  let rest := pieces.getLast?.getD []
  pieces.dropLast.map withoutReturn ++ (if rest.isEmpty then [] else [rest])

end ApkFeatures.Text
