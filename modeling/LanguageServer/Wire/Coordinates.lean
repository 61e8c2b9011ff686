import LanguageServer.Position

namespace LanguageServer

/-!
Coordinates on the wire.  Clients count lines and UTF-16 columns in 32-bit
words.  Every wire coordinate has an internal one; an internal coordinate is
reduced modulo two to the thirty-second on its way out, so the way back is
exact as long as both components fit a word.
-/

namespace Wire

/-- A line and a column in 32-bit words. -/
structure Position where
  line : UInt32
  character : UInt32
  deriving DecidableEq, Repr, Inhabited

/-- A range between two wire positions. -/
structure Range where
  start : Position
  stop : Position
  deriving DecidableEq, Repr, Inhabited

/-- A wire range of a document. -/
structure Location where
  uri : Uri
  range : Range
  deriving DecidableEq

/-- The replacement of a wire range by a new text. -/
structure TextEdit where
  range : Range
  newText : String
  deriving DecidableEq, Repr

/-- Edits grouped by the documents they belong to. -/
structure WorkspaceEdit where
  changes : List (Uri × List TextEdit)
  deriving DecidableEq

/-- An action as clients see it: a quick fix with a workspace edit. -/
structure CodeAction where
  title : String
  edit : WorkspaceEdit
  deriving DecidableEq

/-- The internal position of a wire position. -/
def Position.toInternal (position : Position) : LanguageServer.Position :=
  ⟨position.line.toNat, position.character.toNat⟩

/-- The internal range of a wire range. -/
def Range.toInternal (range : Range) : LanguageServer.Range :=
  ⟨range.start.toInternal, range.stop.toInternal⟩

/-- The internal location of a wire location. -/
def Location.toInternal (location : Location) : LanguageServer.Location :=
  ⟨location.uri, location.range.toInternal⟩

end Wire

/-- The wire position of a position, each component reduced to a word. -/
def Position.toWire (position : Position) : Wire.Position :=
  ⟨position.line.toUInt32, position.column.toUInt32⟩

/-- The wire range of a range. -/
def Range.toWire (range : Range) : Wire.Range :=
  ⟨range.start.toWire, range.stop.toWire⟩

/-- The wire location of a location. -/
def Location.toWire (location : Location) : Wire.Location :=
  ⟨location.uri, location.range.toWire⟩

/-- The wire edit of an edit. -/
def TextEdit.toWire (edit : TextEdit) : Wire.TextEdit :=
  ⟨edit.range.toWire, edit.newText⟩

/-- The wire form of an action for one document: a quick fix whose edits all
belong to that document. -/
def CodeAction.toWire (uri : Uri) (action : CodeAction) : Wire.CodeAction :=
  ⟨action.title, ⟨[(uri, action.edits.map TextEdit.toWire)]⟩⟩

@[simp] theorem Wire.Position.toWire_toInternal (position : Wire.Position) :
    position.toInternal.toWire = position := by
  simp [Wire.Position.toInternal, LanguageServer.Position.toWire]

@[simp] theorem Wire.Range.toWire_toInternal (range : Wire.Range) :
    range.toInternal.toWire = range := by
  simp [Wire.Range.toInternal, LanguageServer.Range.toWire]

@[simp] theorem Wire.Location.toWire_toInternal (location : Wire.Location) :
    location.toInternal.toWire = location := by
  simp [Wire.Location.toInternal, LanguageServer.Location.toWire]

end LanguageServer
