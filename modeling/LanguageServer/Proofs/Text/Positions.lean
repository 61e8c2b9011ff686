import LanguageServer.Proofs.Text.Conversion

namespace LanguageServer

/-!
# What positions count, and how they are ordered

The position of an offset is told here without an index: newlines are counted
before it, and code units behind the last of them.  The offset is first moved
to a boundary.  Boundaries are those of the UTF-8 form of the text, where the
bytes in front are a valid text themselves; the parts of a list of characters
are measured by the same numbers.

Positions grow with the part of the text that they stand behind, and no two
parts end at the same position.  Comparing positions is therefore the same as
comparing boundaries, although columns begin anew on every line and are not
counted in bytes.
-/

namespace Text

/-! ## Boundaries of a string -/

theorem byteLength_eq_utf8ByteSize (characters : List Char) :
    byteLength characters = (String.ofList characters).utf8ByteSize := by
  induction characters with
  | nil => rfl
  | cons c rest ih =>
      rw [byteLength_cons, ih, String.ofList_cons, String.utf8ByteSize_append,
        String.utf8ByteSize_singleton]

theorem byteLength_toList (text : String) : byteLength text.toList = text.utf8ByteSize := by
  rw [byteLength_eq_utf8ByteSize, String.ofList_toList]

/-- The characters before an offset end there exactly when the bytes before it
are a valid text. -/
theorem isBoundary_toList_iff {text : String} {offset : Nat} :
    IsBoundary text.toList offset ↔ (String.Pos.Raw.mk offset).IsValid text := by
  rw [String.Pos.Raw.isValid_iff_exists_append]
  constructor
  · rintro ⟨before, after, split, rfl⟩
    refine ⟨String.ofList before, String.ofList after, ?_, ?_⟩
    · rw [← String.ofList_append, ← split, String.ofList_toList]
    · rw [byteLength_eq_utf8ByteSize]
      rfl
  · rintro ⟨before, after, rfl, ends⟩
    refine ⟨before.toList, after.toList, String.toList_append, ?_⟩
    rw [byteLength_toList]
    exact (congrArg String.Pos.Raw.byteIdx ends).symm

/-- The boundaries of a text that are neither above an offset nor past the end. -/
def boundariesUpTo (text : String) (offset : Nat) : Set Nat :=
  {boundary | (String.Pos.Raw.mk boundary).IsValid text ∧ boundary ≤ min offset text.utf8ByteSize}

/-- The boundary that an offset is moved to. -/
def snap (text : String) (offset : Nat) : Nat :=
  floorBoundary text.toList (min offset text.utf8ByteSize)

theorem isGreatest_snap (text : String) (offset : Nat) :
    IsGreatest (boundariesUpTo text offset) (snap text offset) := by
  constructor
  · exact ⟨isBoundary_toList_iff.mp (floorBoundary_isBoundary _ _), floorBoundary_le _ _⟩
  · rintro boundary ⟨isBoundary, below⟩
    exact le_floorBoundary (isBoundary_toList_iff.mpr isBoundary) below

/-! ## One more character -/

/-- A newline leads to the start of the next line. -/
theorem endPosition_concat_newline (text : List Char) :
    endPosition (text ++ ['\n']) = ⟨(endPosition text).line + 1, 0⟩ := by
  have start : AtLineStart (text ++ ['\n']) := Or.inr ⟨text, rfl⟩
  rw [← List.append_nil (text ++ ['\n']), endPosition_append start List.not_mem_nil,
    List.count_append, List.count_singleton_self, endPosition, unitLength_nil]

/-- Any other character leads on in the line, by its code units. -/
theorem endPosition_concat (text : List Char) {c : Char} (inLine : c ≠ '\n') :
    endPosition (text ++ [c]) =
      ⟨(endPosition text).line, (endPosition text).column + unitWidth c⟩ := by
  have last : lastLine (text ++ [c]) = lastLine text ++ [c] :=
    List.rtakeWhile_concat_pos _ _ _ (bne_iff_ne.mpr inLine)
  have counted : [c].count '\n' = 0 :=
    count_newline_eq_zero fun member => inLine (List.mem_singleton.mp member).symm
  rw [endPosition, endPosition, last, unitLength_append, List.count_append, counted]
  rfl

theorem endPosition_le_concat (text : List Char) (c : Char) :
    endPosition text ≤ endPosition (text ++ [c]) := by
  rw [Position.le_def]
  by_cases newline : c = '\n'
  · subst newline
    rw [endPosition_concat_newline]
    exact Or.inl (Nat.lt_succ_self _)
  · rw [endPosition_concat text newline]
    exact Or.inr ⟨rfl, Nat.le_add_right _ _⟩

/-- Positions do not go back when a text goes on. -/
theorem endPosition_le_append (before between : List Char) :
    endPosition before ≤ endPosition (before ++ between) := by
  induction between using List.reverseRecOn with
  | nil =>
      rw [List.append_nil]
      exact Position.le_refl _
  | append_singleton between c ih =>
      rw [← List.append_assoc]
      exact Position.le_trans ih (endPosition_le_concat _ c)

end Text

namespace LineIndex

open Text

/-! ## What the position of an offset counts -/

/-- Every offset has a position.  It is the end of the part of the text before the
boundary that the offset is moved to. -/
theorem exists_position?_eq_endPosition (text : String) (offset : Nat) :
    ∃ before after, text.toList = before ++ after ∧ byteLength before = snap text offset ∧
      (ofText text).position? text offset = some (endPosition before) := by
  rcases floorBoundary_isBoundary text.toList (min offset (byteLength text.toList)) with
    ⟨before, after, split, size⟩
  refine ⟨before, after, split, ?_, position?_ofText split size.symm⟩
  rw [size, snap, byteLength_toList]

/-- The number of lines is one more than that of newlines. -/
theorem lineCount_ofText (text : String) :
    (ofText text).lineCount = text.toList.count '\n' + 1 :=
  size_starts_ofText text

theorem lineCount_ofText_le (text : String) :
    (ofText text).lineCount ≤ byteLength text.toList + 1 := by
  have newlines : text.toList.count '\n' ≤ text.toList.length := List.count_le_length
  rw [lineCount_ofText]
  exact Nat.succ_le_succ (Nat.le_trans newlines (length_le_byteLength text.toList))

theorem line_lt_lineCount {text : String} {offset : Nat} {position : Position}
    (answered : (ofText text).position? text offset = some position) :
    position.line < (ofText text).lineCount := by
  rcases exists_position?_eq_endPosition text offset with ⟨before, after, split, _, ends⟩
  rw [answered] at ends
  rw [Option.some.inj ends, lineCount_ofText, split, List.count_append]
  exact Nat.lt_succ_of_le (Nat.le_add_right _ _)

/-- The position of an offset, counted.  An offset always has one.  Let the text in
front of the greatest boundary that is neither above the offset nor past the end
be `head ++ line`, where `line` has no newline and `head` is empty or ends with
one.  The position then counts the newlines of this part and the code units of
`line`.  There is one line more than the text has newlines, and the position is
on one of them. -/
theorem position?_counts_lines_and_units (text : String) (offset : Nat) :
    ∃ head line rest : List Char, text.toList = head ++ (line ++ rest) ∧
      IsGreatest (boundariesUpTo text offset) (byteLength (head ++ line)) ∧
      (head = [] ∨ ∃ front, head = front ++ ['\n']) ∧ '\n' ∉ line ∧
      (ofText text).position? text offset =
        some ⟨(head ++ line).count '\n', unitLength line⟩ ∧
      (head ++ line).count '\n' < (ofText text).lineCount ∧
      (ofText text).lineCount = text.toList.count '\n' + 1 := by
  rcases exists_position?_eq_endPosition text offset with ⟨before, after, split, size, answered⟩
  rcases exists_append_lastLine before with ⟨head, shape, start⟩
  have below := line_lt_lineCount answered
  rw [endPosition] at answered below
  refine ⟨head, lastLine before, after, ?_, ?_, start, newline_notMem_lastLine before, ?_, ?_,
    lineCount_ofText text⟩
  · rw [← List.append_assoc, ← shape, split]
  · rw [← shape, size]
    exact isGreatest_snap text offset
  · rw [← shape, answered]
  · rw [← shape]
    exact below

/-! ## The order of positions -/

/-- No two parts of a text end at the same position. -/
theorem byteLength_eq_of_endPosition_eq {text : String}
    {first firstRest second secondRest : List Char}
    (firstSplit : text.toList = first ++ firstRest)
    (secondSplit : text.toList = second ++ secondRest)
    (same : endPosition first = endPosition second) : byteLength first = byteLength second := by
  have found := offset?_eq_some_iff.mpr ⟨first, firstRest, firstSplit, rfl, same⟩
  rw [offset?_eq_some_iff.mpr ⟨second, secondRest, secondSplit, rfl, rfl⟩] at found
  exact (Option.some.inj found).symm

/-- Two parts of a text end in the order of their lengths. -/
theorem endPosition_le_iff {text : String} {first firstRest second secondRest : List Char}
    (firstSplit : text.toList = first ++ firstRest)
    (secondSplit : text.toList = second ++ secondRest) :
    endPosition first ≤ endPosition second ↔ byteLength first ≤ byteLength second := by
  have grows {shorter shorterRest longer longerRest : List Char}
      (shorterSplit : text.toList = shorter ++ shorterRest)
      (longerSplit : text.toList = longer ++ longerRest)
      (ordered : byteLength shorter ≤ byteLength longer) :
      endPosition shorter ≤ endPosition longer := by
    rcases exists_between (shorterSplit.symm.trans longerSplit) ordered with ⟨between, rfl, _⟩
    exact endPosition_le_append shorter between
  constructor
  · intro ordered
    rcases Nat.le_total (byteLength first) (byteLength second) with below | above
    · exact below
    · -- The shorter part ends first, so both have the same end and nothing lies between.
      have same := Position.le_antisymm ordered (grows secondSplit firstSplit above)
      exact Nat.le_of_eq (byteLength_eq_of_endPosition_eq firstSplit secondSplit same)
  · exact grows firstSplit secondSplit

/-- Offsets have positions in the order of the boundaries that they are moved
to. -/
theorem position?_le_iff {text : String} {offset other : Nat} {position otherPosition : Position}
    (answered : (ofText text).position? text offset = some position)
    (otherAnswered : (ofText text).position? text other = some otherPosition) :
    position ≤ otherPosition ↔ snap text offset ≤ snap text other := by
  rcases exists_position?_eq_endPosition text offset with ⟨before, after, split, size, ends⟩
  rcases exists_position?_eq_endPosition text other with
    ⟨otherBefore, otherAfter, otherSplit, otherSize, otherEnds⟩
  rw [answered] at ends
  rw [otherAnswered] at otherEnds
  rw [Option.some.inj ends, Option.some.inj otherEnds, ← size, ← otherSize]
  exact endPosition_le_iff split otherSplit

/-- Positions compare as the boundaries of their offsets do.  Every offset is moved
to the greatest boundary that is neither above it nor past the end, and has a
position.  Of any two offsets, the positions stand in order if and only if the
boundaries do.  So a range between the positions of two offsets contains the
position of a third if and only if its boundary lies between theirs.  The two
ends of the range need not be in order. -/
theorem positions_compare_as_boundaries (text : String) :
    (∀ offset, IsGreatest (boundariesUpTo text offset) (snap text offset)) ∧
    (∀ offset other, ∃ position otherPosition,
      (ofText text).position? text offset = some position ∧
      (ofText text).position? text other = some otherPosition ∧
      (position ≤ otherPosition ↔ snap text offset ≤ snap text other)) ∧
    ∀ first last offset, ∃ start stop position,
      (ofText text).position? text first = some start ∧
      (ofText text).position? text last = some stop ∧
      (ofText text).position? text offset = some position ∧
      ((Range.mk start stop).contains position = true ↔
        snap text first ≤ snap text offset ∧ snap text offset ≤ snap text last) := by
  refine ⟨isGreatest_snap text, ?_, ?_⟩
  · intro offset other
    rcases exists_position?_eq_endPosition text offset with ⟨_, _, _, _, answered⟩
    rcases exists_position?_eq_endPosition text other with ⟨_, _, _, _, otherAnswered⟩
    exact ⟨_, _, answered, otherAnswered, position?_le_iff answered otherAnswered⟩
  · intro first last offset
    rcases exists_position?_eq_endPosition text first with ⟨_, _, _, _, starts⟩
    rcases exists_position?_eq_endPosition text last with ⟨_, _, _, _, stops⟩
    rcases exists_position?_eq_endPosition text offset with ⟨_, _, _, _, answered⟩
    refine ⟨_, _, _, starts, stops, answered, ?_⟩
    rw [Range.contains_iff, position?_le_iff starts answered, position?_le_iff answered stops]

end LineIndex
end LanguageServer
