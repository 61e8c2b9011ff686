import LanguageServer.Position
import LanguageServer.Text.Measure

namespace LanguageServer

/-!
Lines of a text.  A line index holds the byte offsets at which lines start and
the byte length of the text it was built from.  It converts between byte
offsets and positions.  The text is not stored: it is handed in again with
each question, and the answers are meaningful when it is the indexed text.
Asked about another text, a conversion fails instead of cutting a character.
-/

/-- Where the lines of a text start, and how many bytes it has. -/
structure LineIndex where
  starts : Array Nat
  length : Nat
  deriving DecidableEq, Repr, Inhabited

namespace LineIndex

/-- The offset behind each newline, for a text that begins at `offset`. -/
def startsFrom : List Char → Nat → List Nat
  | [], _ => []
  | c :: rest, offset =>
      if c = '\n' then
        (offset + c.utf8Size) :: startsFrom rest (offset + c.utf8Size)
      else startsFrom rest (offset + c.utf8Size)

/-- The index of a text: its first line starts at zero, every further line
behind a newline. -/
def ofText (text : String) : LineIndex where
  starts := (0 :: startsFrom text.toList 0).toArray
  length := Text.byteLength text.toList

/-- The number of lines; a text has one more line than it has newlines. -/
def lineCount (index : LineIndex) : Nat := index.starts.size

/-- Narrows `low ≤ line < high` to the last line that starts at or before the
offset, halving the candidates each time. -/
def bisect (starts : Array Nat) (offset low high : Nat) : Nat :=
  if high - low ≤ 1 then low
  else
    let middle := (low + high) / 2
    if starts.getD middle 0 ≤ offset then bisect starts offset middle high
    else bisect starts offset low middle
termination_by high - low

/-- The line on which a byte offset lies. -/
def lineAt (index : LineIndex) (offset : Nat) : Nat :=
  bisect index.starts offset 0 index.starts.size

/-- The byte offset at which a line starts. -/
def startOf (index : LineIndex) (line : Nat) : Nat := index.starts.getD line 0

/-- The position of a byte offset.  An offset past the end means the end, and
one inside a character means the start of that character.  There is no
position when the line found does not start on a boundary of the text. -/
def position? (index : LineIndex) (text : String) (offset : Nat) : Option Position :=
  let stop := Text.floorBoundary text.toList (min offset index.length)
  let line := index.lineAt stop
  (Text.slice? text.toList (index.startOf line) stop).map fun before =>
    ⟨line, Text.unitLength before⟩

/-- A line without the newline that ends it. -/
def dropNewline (line : List Char) : List Char :=
  if line.getLast? = some '\n' then line.dropLast else line

/-- Bytes before a column.  There are none when the line is shorter, or when
the column splits a character of two units. -/
def columnOffset? : List Char → Nat → Option Nat
  | _, 0 => some 0
  | [], _ + 1 => none
  | c :: rest, column + 1 =>
      if Text.unitWidth c ≤ column + 1 then
        (columnOffset? rest (column + 1 - Text.unitWidth c)).map (c.utf8Size + ·)
      else none

/-- The byte offset of a position, if the text has that position. -/
def offset? (index : LineIndex) (text : String) (position : Position) : Option Nat := do
  let start ← index.starts[position.line]?
  let stop := index.starts[position.line + 1]?.getD index.length
  let line ← Text.slice? text.toList start stop
  let within ← columnOffset? (dropNewline line) position.column
  return start + within

end LineIndex
end LanguageServer
