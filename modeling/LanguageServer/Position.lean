import LanguageServer.Text.Description
import LanguageServer.Uri

namespace LanguageServer

/-!
Places in a document.  A position is a line and a column, both counted from
zero; the column counts UTF-16 code units.  Positions are ordered
lexicographically, and a range contains both of its ends.  What the language
analysis finds points into documents by ranges.
-/

/-- A line and a column in UTF-16 code units, both counted from zero. -/
structure Position where
  line : Nat
  column : Nat
  deriving DecidableEq, Repr, Inhabited

namespace Position

/-- The very beginning of a document. -/
def origin : Position := ⟨0, 0⟩

/-- Earlier line first; on one line, smaller column first. -/
protected def le (first second : Position) : Prop :=
  first.line < second.line ∨
    (first.line = second.line ∧ first.column ≤ second.column)

instance : LE Position := ⟨Position.le⟩

theorem le_def (first second : Position) :
    first ≤ second ↔
      first.line < second.line ∨
        (first.line = second.line ∧ first.column ≤ second.column) :=
  Iff.rfl

instance (first second : Position) : Decidable (first ≤ second) :=
  decidable_of_iff _ (le_def first second).symm

theorem le_refl (position : Position) : position ≤ position :=
  Or.inr ⟨rfl, Nat.le_refl _⟩

theorem le_trans {first second third : Position}
    (lower : first ≤ second) (upper : second ≤ third) : first ≤ third := by
  rw [le_def] at *
  omega

theorem le_total (first second : Position) : first ≤ second ∨ second ≤ first := by
  rw [le_def, le_def]
  omega

theorem le_antisymm {first second : Position}
    (lower : first ≤ second) (upper : second ≤ first) : first = second := by
  obtain ⟨line, column⟩ := first
  obtain ⟨otherLine, otherColumn⟩ := second
  rw [le_def] at lower upper
  simp only [Position.mk.injEq] at *
  omega

/-- The outcome of comparing two positions in the order above. -/
def compare (first second : Position) : Ordering :=
  if first = second then .eq else if first ≤ second then .lt else .gt

theorem compare_eq_eq_iff {first second : Position} :
    compare first second = .eq ↔ first = second := by
  unfold compare
  split
  · simp_all
  · split <;> simp_all

theorem compare_ne_gt_iff {first second : Position} :
    compare first second ≠ .gt ↔ first ≤ second := by
  unfold compare
  split
  · simp_all [le_refl]
  · split <;> simp_all

/-- The position as the server prints it in descriptions. -/
def describe (position : Position) : String :=
  Text.record "Position"
    [("line", toString position.line), ("column", toString position.column)]

end Position

/-- The part of a document between two positions. -/
structure Range where
  start : Position
  stop : Position
  deriving DecidableEq, Repr, Inhabited

namespace Range

/-- The empty range at one position. -/
def point (position : Position) : Range := ⟨position, position⟩

/-- Whether a position lies in the range; both ends count. -/
def contains (range : Range) (position : Position) : Bool :=
  decide (range.start ≤ position ∧ position ≤ range.stop)

theorem contains_iff {range : Range} {position : Position} :
    range.contains position = true ↔
      range.start ≤ position ∧ position ≤ range.stop := by
  simp [contains]

/-- The range as the server prints it in descriptions. -/
def describe (range : Range) : String :=
  Text.record "Range"
    [("start", range.start.describe), ("end", range.stop.describe)]

end Range

/-! ## Results that point into documents -/

/-- A range of a document. -/
structure Location where
  uri : Uri
  range : Range
  deriving DecidableEq

/-- The replacement of a range by a new text. -/
structure TextEdit where
  range : Range
  newText : String
  deriving DecidableEq, Repr

/-- A titled group of edits to the document it was offered for. -/
structure CodeAction where
  title : String
  edits : List TextEdit
  deriving DecidableEq, Repr

end LanguageServer
