import LanguageServer.Proofs.Text.LineStarts
import Mathlib.Order.Bounds.Defs

namespace LanguageServer
namespace LineIndex

open Text

/-!
# Offsets and positions convert into each other

Both conversions of an index are described by one relation.  An offset and a
position belong together when some initial part of the text has the offset as
its byte length and the position as its end.  Asking for the position of an
offset first moves the offset down to a boundary, and then answers with the end
of the part before it.  Asking for the offset of a position succeeds exactly
when some part ends there.

The two are computed differently, by a search and a sum on one side and by a
table entry and a walk on the other, and neither is used to describe the other.
The text handed in is always the indexed one here.
-/

/-! ## From offsets to positions -/

/-- The position of an offset is the end of the part before it, once the offset
is moved down to a boundary within the text. -/
theorem position?_ofText {text : String} {before after : List Char} {offset : Nat}
    (split : text.toList = before ++ after)
    (snapped : floorBoundary text.toList (min offset (byteLength text.toList)) =
      byteLength before) :
    (ofText text).position? text offset = some (endPosition before) := by
  rcases exists_append_lastLine before with ⟨head, shape, start⟩
  have unbroken := newline_notMem_lastLine before
  have counted : before.count '\n' = head.count '\n' := by
    rw [shape, List.count_append, count_newline_eq_zero unbroken, Nat.add_zero]
  have headSplit : text.toList = head ++ (lastLine before ++ after) := by
    rw [split, ← List.append_assoc, ← shape]
  have size : byteLength before = byteLength head + byteLength (lastLine before) := by
    rw [← byteLength_append, ← shape]
  have sliced : slice? text.toList (byteLength head) (byteLength before) =
      some (lastLine before) := by
    rw [headSplit, size, slice?_append]
  unfold position?
  dsimp only
  rw [length_ofText, snapped, lineAt_byteLength split, counted,
    startOf_ofText_of_atLineStart headSplit start, sliced, Option.map_some, endPosition, counted]

/-- At a boundary nothing is moved. -/
theorem position?_byteLength {text : String} {before after : List Char}
    (split : text.toList = before ++ after) :
    (ofText text).position? text (byteLength before) = some (endPosition before) := by
  apply position?_ofText split
  have isBoundary : IsBoundary text.toList (byteLength before) := ⟨before, after, split, rfl⟩
  rw [Nat.min_eq_left (le_byteLength_of_isBoundary isBoundary),
    floorBoundary_of_isBoundary isBoundary]

/-! ## Columns within a line -/

theorem unitWidth_eq_one_or_two (c : Char) : unitWidth c = 1 ∨ unitWidth c = 2 := by
  unfold unitWidth
  split
  · exact Or.inl rfl
  · exact Or.inr rfl

theorem columnOffset?_append (before after : List Char) :
    columnOffset? (before ++ after) (unitLength before) = some (byteLength before) := by
  induction before with
  | nil =>
      rw [unitLength_nil, columnOffset?, byteLength_nil]
  | cons c rest ih =>
      have positive : 0 < unitWidth c := unitWidth_pos c
      rcases Nat.exists_eq_add_of_lt positive with ⟨below, width⟩
      rw [Nat.zero_add] at width
      rw [List.cons_append, unitLength_cons, byteLength_cons, width,
        show below + 1 + unitLength rest = below + unitLength rest + 1 by omega, columnOffset?,
        width, if_pos (by omega),
        show below + unitLength rest + 1 - (below + 1) = unitLength rest by omega, ih,
        Option.map_some]

/-- A column that is found ends a part of the line. -/
theorem exists_of_columnOffset? {line : List Char} {column within : Nat}
    (found : columnOffset? line column = some within) :
    ∃ before after, line = before ++ after ∧ unitLength before = column ∧
      byteLength before = within := by
  fun_induction columnOffset? line column generalizing within with
  | case1 line => exact ⟨[], line, rfl, rfl, Option.some.inj found⟩
  | case2 => cases found
  | case3 c rest column fits ih =>
      rcases Option.map_eq_some_iff.mp found with ⟨inner, innerFound, rfl⟩
      rcases ih innerFound with ⟨before, after, rfl, units, rfl⟩
      refine ⟨c :: before, after, rfl, ?_, rfl⟩
      rw [unitLength_cons, units]
      omega
  | case4 => cases found

/-- A column is missed when the line is shorter, or when the column falls
between the two units of a character. -/
theorem columnOffset?_eq_none_iff {line : List Char} {column : Nat} :
    columnOffset? line column = none ↔
      unitLength line < column ∨
        ∃ before c after, line = before ++ c :: after ∧ unitWidth c = 2 ∧
          column = unitLength before + 1 := by
  constructor
  · intro missed
    fun_induction columnOffset? line column with
    | case1 => cases missed
    | case2 column => exact Or.inl (Nat.succ_pos column)
    | case3 c rest column fits ih =>
        rcases ih (Option.map_eq_none_iff.mp missed) with short | ⟨before, d, after, rfl, wide, between⟩
        · left
          rw [unitLength_cons]
          omega
        · right
          refine ⟨c :: before, d, after, rfl, wide, ?_⟩
          rw [unitLength_cons]
          omega
    | case4 c rest column narrow =>
        right
        refine ⟨[], c, rest, rfl, ?_, ?_⟩
        · rcases unitWidth_eq_one_or_two c with one | two
          · omega
          · exact two
        · rcases unitWidth_eq_one_or_two c with one | two
          · omega
          · rw [unitLength_nil]
            omega
  · intro absent
    apply Option.eq_none_iff_forall_ne_some.mpr
    intro within found
    rcases exists_of_columnOffset? found with ⟨first, second, rfl, rfl, _⟩
    rcases absent with short | ⟨before, c, after, shape, wide, between⟩
    · rw [unitLength_append] at short
      omega
    · -- The part either stops before the character or takes both of its units.
      rcases List.append_eq_append_iff.mp shape with ⟨gap, rfl, _⟩ | ⟨gap, rfl, right⟩
      · rw [unitLength_append] at between
        omega
      · cases gap with
        | nil =>
            rw [List.append_nil] at between
            omega
        | cons d gap =>
            have same : c = d := (List.cons.inj right).1
            rw [unitLength_append, unitLength_cons, ← same, wide] at between
            omega

/-! ## From positions to offsets -/

theorem dropNewline_append {line ending : List Char} (unbroken : '\n' ∉ line)
    (ends : ending = [] ∨ ending = ['\n']) : dropNewline (line ++ ending) = line := by
  rcases ends with rfl | rfl
  · rw [List.append_nil, dropNewline, if_neg]
    intro last
    exact unbroken (List.mem_of_getLast? last)
  · rw [dropNewline, List.getLast?_concat, if_pos rfl, List.dropLast_concat]

/-- The table ends a line behind its newline, or with the text when it is the
last line. -/
theorem exists_ending {text : String} {number : Nat} {head line rest : List Char}
    (isLine : IsLine text.toList number head line rest) :
    ∃ ending after, rest = ending ++ after ∧ (ending = [] ∨ ending = ['\n']) ∧
      (ofText text).starts[number + 1]?.getD (ofText text).length =
        byteLength head + byteLength (line ++ ending) := by
  have split := isLine.split
  have lineCount := count_newline_eq_zero isLine.unbroken
  rcases isLine.ends with rfl | ⟨tail, rfl⟩
  · refine ⟨[], [], rfl, Or.inl rfl, ?_⟩
    have last : text.toList.count '\n' < number + 1 := by
      rw [split, List.append_nil, List.count_append, lineCount, isLine.number_eq]
      omega
    rw [starts_ofText_eq_none last, Option.getD_none, length_ofText, split, byteLength_append]
  · refine ⟨['\n'], tail, rfl, Or.inr rfl, ?_⟩
    have next : text.toList = (head ++ (line ++ ['\n'])) ++ tail := by
      rw [split, List.append_assoc, List.append_assoc]
      rfl
    have start : AtLineStart (head ++ (line ++ ['\n'])) :=
      Or.inr ⟨head ++ line, (List.append_assoc _ _ _).symm⟩
    have counted : (head ++ (line ++ ['\n'])).count '\n' = number + 1 := by
      rw [List.count_append, List.count_append, lineCount, isLine.number_eq,
        List.count_singleton_self, Nat.zero_add]
    rw [← counted, starts_ofText_of_atLineStart next start, Option.getD_some, byteLength_append]

/-- The offset of a position is looked for in its line alone. -/
theorem offset?_of_isLine {text : String} {number : Nat} {head line rest : List Char}
    (isLine : IsLine text.toList number head line rest) (column : Nat) :
    (ofText text).offset? text ⟨number, column⟩ =
      (columnOffset? line column).map (byteLength head + ·) := by
  rcases exists_ending isLine with ⟨ending, after, rfl, ends, stop⟩
  have entry : (ofText text).starts[number]? = some (byteLength head) := by
    rw [← isLine.number_eq]
    exact starts_ofText_of_atLineStart isLine.split isLine.start
  have sliced : slice? text.toList (byteLength head)
      (byteLength head + byteLength (line ++ ending)) = some (line ++ ending) := by
    rw [isLine.split, ← List.append_assoc line ending after, slice?_append]
  unfold offset?
  dsimp only [bind, pure]
  rw [entry, Option.bind_some, stop, sliced, Option.bind_some,
    dropNewline_append isLine.unbroken ends]
  cases columnOffset? line column with
  | none => rfl
  | some within => rfl

theorem offset?_eq_none_of_past {text : String} {position : Position}
    (past : text.toList.count '\n' < position.line) :
    (ofText text).offset? text position = none := by
  unfold offset?
  rw [starts_ofText_eq_none past]
  rfl

/-- An offset is found exactly when a part of the text ends at the position, and
it is the length of that part. -/
theorem offset?_eq_some_iff {text : String} {position : Position} {offset : Nat} :
    (ofText text).offset? text position = some offset ↔
      ∃ before after, text.toList = before ++ after ∧ byteLength before = offset ∧
        endPosition before = position := by
  constructor
  · intro found
    have bounded : position.line ≤ text.toList.count '\n' := by
      apply Nat.le_of_not_lt
      intro past
      rw [offset?_eq_none_of_past past] at found
      cases found
    rcases exists_isLine bounded with ⟨head, line, rest, isLine⟩
    rw [offset?_of_isLine isLine position.column] at found
    rcases Option.map_eq_some_iff.mp found with ⟨within, inner, rfl⟩
    rcases exists_of_columnOffset? inner with ⟨before, after, rfl, units, rfl⟩
    have unbroken : '\n' ∉ before :=
      fun member => isLine.unbroken (List.mem_append_left after member)
    refine ⟨head ++ before, after ++ rest, ?_, byteLength_append head before, ?_⟩
    · rw [isLine.split, List.append_assoc, List.append_assoc]
    · rw [endPosition_append isLine.start unbroken, isLine.number_eq, units]
  · rintro ⟨before, after, split, rfl, rfl⟩
    rcases exists_append_lastLine before with ⟨head, shape, start⟩
    rcases exists_firstLine after with ⟨further, rest, rfl, unbroken, ends⟩
    -- The line goes on behind the part, up to the next newline.
    have isLine : IsLine text.toList (before.count '\n') head (lastLine before ++ further) rest := by
      refine ⟨?_, start, ?_, ?_, ends⟩
      · rw [split, List.append_assoc, ← List.append_assoc head, ← shape]
      · conv => rhs; rw [shape]
        rw [List.count_append, count_newline_eq_zero (newline_notMem_lastLine before),
          Nat.add_zero]
      · intro member
        rcases List.mem_append.mp member with inPart | behind
        · exact newline_notMem_lastLine before inPart
        · exact unbroken behind
    rw [endPosition, offset?_of_isLine isLine, columnOffset?_append, Option.map_some,
      ← byteLength_append, ← shape]

/-- A position has no offset past the last line, past the end of its line, and
between the two units of a character. -/
theorem offset?_eq_none_iff {text : String} {position : Position} :
    (ofText text).offset? text position = none ↔
      text.toList.count '\n' < position.line ∨
      (∃ head line rest, IsLine text.toList position.line head line rest ∧
        unitLength line < position.column) ∨
      ∃ head line rest before c after, IsLine text.toList position.line head line rest ∧
        line = before ++ c :: after ∧ unitWidth c = 2 ∧
          position.column = unitLength before + 1 := by
  constructor
  · intro missed
    rcases Nat.lt_or_ge (text.toList.count '\n') position.line with past | bounded
    · exact Or.inl past
    · rcases exists_isLine bounded with ⟨head, line, rest, isLine⟩
      rw [offset?_of_isLine isLine position.column, Option.map_eq_none_iff,
        columnOffset?_eq_none_iff] at missed
      rcases missed with short | ⟨before, c, after, shape, wide, between⟩
      · exact Or.inr (Or.inl ⟨head, line, rest, isLine, short⟩)
      · exact Or.inr (Or.inr ⟨head, line, rest, before, c, after, isLine, shape, wide, between⟩)
  · rintro (past | ⟨head, line, rest, isLine, short⟩ |
      ⟨head, line, rest, before, c, after, isLine, shape, wide, between⟩)
    · exact offset?_eq_none_of_past past
    · rw [offset?_of_isLine isLine position.column, Option.map_eq_none_iff,
        columnOffset?_eq_none_iff]
      exact Or.inl short
    · rw [offset?_of_isLine isLine position.column, Option.map_eq_none_iff,
        columnOffset?_eq_none_iff]
      exact Or.inr ⟨before, c, after, shape, wide, between⟩

/-- The conversions are inverse to each other as far as they can be.  An offset
is the answer for a position exactly when it is a boundary of the text that has
this position.  Every offset has a position, inside a character or past the end
too, and converting that back gives the greatest boundary within the text that
is not above the offset.  The positions without an offset are those past the
last line, past the end of their line, and between the two units of a
character.  Positions are not assumed to come from the text. -/
theorem offset?_inverts_position? (text : String) :
    (∀ position offset, (ofText text).offset? text position = some offset ↔
      offset ≤ byteLength text.toList ∧ IsBoundary text.toList offset ∧
        (ofText text).position? text offset = some position) ∧
    (∀ offset, ∃ position boundary,
      (ofText text).position? text offset = some position ∧
      (ofText text).offset? text position = some boundary ∧
      IsGreatest {candidate | IsBoundary text.toList candidate ∧
        candidate ≤ min offset (byteLength text.toList)} boundary) ∧
    (∀ position, (ofText text).offset? text position = none ↔
      text.toList.count '\n' < position.line ∨
      (∃ head line rest, IsLine text.toList position.line head line rest ∧
        unitLength line < position.column) ∨
      ∃ head line rest before c after, IsLine text.toList position.line head line rest ∧
        line = before ++ c :: after ∧ unitWidth c = 2 ∧
          position.column = unitLength before + 1) := by
  refine ⟨?_, ?_, fun position => offset?_eq_none_iff⟩
  · intro position offset
    rw [offset?_eq_some_iff]
    constructor
    · rintro ⟨before, after, split, rfl, rfl⟩
      have isBoundary : IsBoundary text.toList (byteLength before) := ⟨before, after, split, rfl⟩
      exact ⟨le_byteLength_of_isBoundary isBoundary, isBoundary, position?_byteLength split⟩
    · rintro ⟨_, ⟨before, after, split, rfl⟩, answered⟩
      rw [position?_byteLength split] at answered
      exact ⟨before, after, split, rfl, Option.some.inj answered⟩
  · intro offset
    have snapped := floorBoundary_isBoundary text.toList (min offset (byteLength text.toList))
    rcases snapped with ⟨before, after, split, size⟩
    refine ⟨endPosition before, byteLength before, position?_ofText split size.symm,
      offset?_eq_some_iff.mpr ⟨before, after, split, rfl, rfl⟩, ⟨⟨before, after, split, rfl⟩, ?_⟩, ?_⟩
    · rw [size]
      exact floorBoundary_le _ _
    · rintro candidate ⟨isBoundary, below⟩
      rw [size]
      exact le_floorBoundary isBoundary below

end LineIndex
end LanguageServer
