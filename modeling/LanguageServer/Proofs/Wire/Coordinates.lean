import LanguageServer.Proofs.Text.Positions
import LanguageServer.Wire.Coordinates

namespace LanguageServer

/-!
# Wire coordinates lose nothing where a document can be addressed

A coordinate leaves the server as a 32-bit word.  Nothing checks that it fits:
what does not fit comes out as another coordinate.  The positions of a text fit
when the text has fewer bytes than there are words, because a newline takes a
byte and a character takes no more code units than bytes.  For such a text the
way out and back is the identity on its positions, it leads to the same offsets,
and the order of positions can be read off the wire.
-/

namespace Text

/-! ## Positions do not outgrow the text -/

/-- A character of two code units takes more than one byte. -/
theorem unitWidth_le_utf8Size (c : Char) : unitWidth c ≤ c.utf8Size := by
  have positive : 0 < c.utf8Size := Char.utf8Size_pos c
  unfold unitWidth
  split
  · exact positive
  · rename_i wide
    have long : c.utf8Size ≠ 1 := by
      rw [ne_eq, Char.utf8Size_eq_one_iff, UInt32.le_iff_toNat_le]
      intro short
      exact wide (Nat.lt_of_le_of_lt short (by decide))
    omega

theorem unitLength_le_byteLength (text : List Char) : unitLength text ≤ byteLength text := by
  induction text with
  | nil => exact Nat.le_refl 0
  | cons c rest ih =>
      rw [unitLength_cons, byteLength_cons]
      exact Nat.add_le_add (unitWidth_le_utf8Size c) ih

/-- Every line that was left and every code unit of the column has a byte of its
own. -/
theorem line_add_column_le_byteLength (text : List Char) :
    (endPosition text).line + (endPosition text).column ≤ byteLength text := by
  rcases exists_append_lastLine text with ⟨head, shape, start⟩
  have unbroken := newline_notMem_lastLine text
  rw [shape, endPosition_append start unbroken, byteLength_append]
  apply Nat.add_le_add
  · exact Nat.le_trans List.count_le_length (length_le_byteLength head)
  · exact unitLength_le_byteLength (lastLine text)

end Text

/-! ## Out and back -/

/-- What comes back of a position is reduced to words. -/
theorem Position.toInternal_toWire (position : Position) :
    position.toWire.toInternal =
      ⟨position.line % UInt32.size, position.column % UInt32.size⟩ := by
  rw [Wire.Position.toInternal, toWire, Position.mk.injEq]
  exact ⟨UInt32.toNat_ofNat', UInt32.toNat_ofNat'⟩

/-- A position comes back as it was exactly when both of its components fit. -/
theorem Position.toInternal_toWire_eq_iff {position : Position} :
    position.toWire.toInternal = position ↔
      position.line < UInt32.size ∧ position.column < UInt32.size := by
  obtain ⟨line, column⟩ := position
  have positive : UInt32.size ≠ 0 := by decide
  rw [toInternal_toWire, Position.mk.injEq, Nat.mod_eq_iff_lt positive,
    Nat.mod_eq_iff_lt positive]

namespace Wire.Position

/-- Earlier line first; on one line, smaller character first. -/
protected def le (first second : Wire.Position) : Prop :=
  first.line < second.line ∨
    (first.line = second.line ∧ first.character ≤ second.character)

instance : LE Wire.Position := ⟨Wire.Position.le⟩

/-- Wire positions are ordered as the positions they stand for. -/
theorem toInternal_le_iff {first second : Wire.Position} :
    first.toInternal ≤ second.toInternal ↔ first ≤ second := by
  change _ ↔ first.line < second.line ∨
    (first.line = second.line ∧ first.character ≤ second.character)
  rw [LanguageServer.Position.le_def, UInt32.lt_iff_toNat_lt, UInt32.le_iff_toNat_le,
    ← UInt32.toNat_inj]
  rfl

end Wire.Position

/-- Positions that come back keep their order on the wire. -/
theorem Position.toWire_le_iff {first second : Position}
    (firstKept : first.toWire.toInternal = first)
    (secondKept : second.toWire.toInternal = second) :
    first.toWire ≤ second.toWire ↔ first ≤ second := by
  rw [← Wire.Position.toInternal_le_iff, firstKept, secondKept]

/-! ## The positions of a text -/

namespace LineIndex

open Text

/-- The positions of a text fit when it has fewer bytes than there are words. -/
theorem position?_fits {text : String} (addressable : text.utf8ByteSize < UInt32.size)
    {offset : Nat} {position : Position}
    (answered : (ofText text).position? text offset = some position) :
    position.line < UInt32.size ∧ position.column < UInt32.size := by
  rcases exists_position?_eq_endPosition text offset with ⟨before, after, split, _, ends⟩
  rw [answered] at ends
  have bounded := line_add_column_le_byteLength before
  have within : byteLength before ≤ text.utf8ByteSize := by
    rw [← byteLength_toList]
    exact le_byteLength_of_isBoundary ⟨before, after, split, rfl⟩
  rw [Option.some.inj ends]
  omega

/-- Wire positions, ranges and locations come back as they were when they are
translated and translated back.

For a text with fewer bytes than there are words, both components of the position
of any offset fit.  The position comes back from the wire as it was; so the offset
found for what comes back is the greatest boundary that is neither above the given
offset nor past the end.  Any two positions of the text are in the same order on
the wire.

A position that need not belong to a text comes back as it was if and only if both
of its components fit. -/
theorem wire_coordinates_lossless :
    (∀ wire : Wire.Position, wire.toInternal.toWire = wire) ∧
    (∀ wire : Wire.Range, wire.toInternal.toWire = wire) ∧
    (∀ wire : Wire.Location, wire.toInternal.toWire = wire) ∧
    (∀ text : String, text.utf8ByteSize < UInt32.size →
      (∀ offset, IsGreatest (boundariesUpTo text offset) (snap text offset) ∧ ∃ position,
        (ofText text).position? text offset = some position ∧
        position.line < UInt32.size ∧ position.column < UInt32.size ∧
        position.toWire.toInternal = position ∧
        (ofText text).offset? text position.toWire.toInternal = some (snap text offset)) ∧
      ∀ offset other, ∃ position otherPosition,
        (ofText text).position? text offset = some position ∧
        (ofText text).position? text other = some otherPosition ∧
        (position.toWire ≤ otherPosition.toWire ↔ position ≤ otherPosition)) ∧
    ∀ position : Position, position.toWire.toInternal = position ↔
      position.line < UInt32.size ∧ position.column < UInt32.size := by
  refine ⟨Wire.Position.toWire_toInternal, Wire.Range.toWire_toInternal,
    Wire.Location.toWire_toInternal, ?_, fun _ => Position.toInternal_toWire_eq_iff⟩
  intro text addressable
  have kept {offset : Nat} {position : Position}
      (answered : (ofText text).position? text offset = some position) :
      position.toWire.toInternal = position :=
    Position.toInternal_toWire_eq_iff.mpr (position?_fits addressable answered)
  constructor
  · intro offset
    rcases exists_position?_eq_endPosition text offset with ⟨before, after, split, size, answered⟩
    have fits := position?_fits addressable answered
    refine ⟨isGreatest_snap text offset, _, answered, fits.1, fits.2, kept answered, ?_⟩
    rw [kept answered]
    exact offset?_eq_some_iff.mpr ⟨before, after, split, size, rfl⟩
  · intro offset other
    rcases exists_position?_eq_endPosition text offset with ⟨_, _, _, _, answered⟩
    rcases exists_position?_eq_endPosition text other with ⟨_, _, _, _, otherAnswered⟩
    exact ⟨_, _, answered, otherAnswered,
      Position.toWire_le_iff (kept answered) (kept otherAnswered)⟩

/-- An offset inside a character of two code units, on the second line, comes back
as the start of that character.  A position that is one line too high does not
come back. -/
theorem wire_coordinates_lossless_surrogates :
    let text := "ü\nx😀"
    let beyond : Position := ⟨UInt32.size, 0⟩
    text.utf8ByteSize < UInt32.size ∧
      (ofText text).position? text 6 = some ⟨1, 1⟩ ∧
      (ofText text).offset? text (Position.mk 1 1).toWire.toInternal = some 4 ∧
      beyond.toWire.toInternal ≠ beyond := by
  intro text beyond
  have law := wire_coordinates_lossless.2.2.2
  have addressable : text.utf8ByteSize < UInt32.size := by decide
  have here : (ofText text).position? text 6 = some ⟨1, 1⟩ :=
    @position?_ofText text ['ü', '\n', 'x'] ['😀'] 6 (by decide) (by decide)
  rcases (law.1 text addressable).1 6 with ⟨_, position, answered, _, _, _, found⟩
  have same : position = ⟨1, 1⟩ := Option.some.inj (answered.symm.trans here)
  have start : snap text 6 = 4 := by decide
  refine ⟨addressable, here, ?_, ?_⟩
  · rw [← same, found, start]
  · rw [ne_eq, law.2]
    exact fun fits => Nat.lt_irrefl _ fits.1

end LineIndex
end LanguageServer
