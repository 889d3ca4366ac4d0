/-!
# Lines

A line feed ends a line, and a carriage return right before the line feed belongs to it. What
follows the last line feed is a line of its own unless it is empty.
-/

namespace LineShell.Text

/-- A line without the carriage return that it ends in, if it does. -/
def dropReturn {α : Type} [DecidableEq α] (ret : α) (line : List α) : List α :=
  if line.getLast? = some ret then line.dropLast else line

/-- The lines of a sequence of characters or bytes, given its line feed and carriage return. -/
def lines {α : Type} [DecidableEq α] (feed ret : α) (content : List α) : List (List α) :=
  let pieces := content.splitOn feed
  pieces.dropLast.map (dropReturn ret) ++ pieces.getLast?.toList.filter (!·.isEmpty)

end LineShell.Text
