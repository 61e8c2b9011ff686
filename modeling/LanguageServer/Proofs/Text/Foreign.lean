import LanguageServer.Proofs.Wire.Coordinates

namespace LanguageServer

/-!
# Asking an index about another text

An index does not hold the text it was made from.  Handed another text, it still
has its own line starts, and these may lie inside a character of that text or
past its end.  Nothing can be assumed about how the two texts are related.

Two things are left.  Converting a position never goes wrong: a line that cannot be
cut out of the text has no offsets, and an offset that is found is a boundary of
the text.  Converting an offset goes wrong in one case only, when the line that the
search selects starts inside a character; and that is a line without offsets.

Machine words have a greatest number.  The conversion of positions is therefore
made a second time, with sums that must stay within a bound.  It comes to the same
for every bound that the lengths of the two texts respect.
-/

namespace Text

/-! ## Parts of a text between two offsets -/

/-- The part of a text from one offset to another. -/
def IsPart (text : List Char) (start stop : Nat) (part : List Char) : Prop :=
  ∃ before after, text = before ++ (part ++ after) ∧ byteLength before = start ∧
    start + byteLength part = stop

theorem slice?_eq_some_iff {text part : List Char} {start stop : Nat} :
    slice? text start stop = some part ↔ IsPart text start stop part := by
  constructor
  · intro sliced
    unfold slice? at sliced
    split at sliced
    · rename_i ordered
      rcases Option.bind_eq_some_iff.mp sliced with ⟨⟨before, rest⟩, first, second⟩
      rcases Option.map_eq_some_iff.mp second with ⟨⟨middle, after⟩, inner, rfl⟩
      rcases cut?_eq_some_iff.mp first with ⟨split, size⟩
      rcases cut?_eq_some_iff.mp inner with ⟨restSplit, middleSize⟩
      dsimp only at restSplit middleSize
      refine ⟨before, after, ?_, size, ?_⟩
      · rw [split, restSplit]
      · dsimp only
        omega
    · cases sliced
  · rintro ⟨before, after, rfl, rfl, rfl⟩
    exact slice?_append before part after

theorem IsPart.stop_eq {text part : List Char} {start stop : Nat}
    (isPart : IsPart text start stop part) : start + byteLength part = stop := by
  rcases isPart with ⟨_, _, _, _, stop_eq⟩
  exact stop_eq

theorem IsPart.isBoundary_start {text part : List Char} {start stop : Nat}
    (isPart : IsPart text start stop part) : IsBoundary text start := by
  rcases isPart with ⟨before, after, split, size, _⟩
  exact ⟨before, part ++ after, split, size⟩

theorem IsPart.isBoundary_stop {text part : List Char} {start stop : Nat}
    (isPart : IsPart text start stop part) : IsBoundary text stop := by
  rcases isPart with ⟨before, after, split, rfl, rfl⟩
  refine ⟨before ++ part, after, ?_, byteLength_append before part⟩
  rw [split, List.append_assoc]

/-- What begins a part is a part with the same start. -/
theorem IsPart.left {text first second : List Char} {start stop : Nat}
    (isPart : IsPart text start stop (first ++ second)) :
    IsPart text start (start + byteLength first) first := by
  rcases isPart with ⟨before, after, split, size, _⟩
  refine ⟨before, second ++ after, ?_, size, rfl⟩
  rw [split, List.append_assoc]

/-- Between two boundaries that stand in order there is a part. -/
theorem exists_isPart {text : List Char} {start stop : Nat} (startsAt : IsBoundary text start)
    (stopsAt : IsBoundary text stop) (ordered : start ≤ stop) :
    ∃ part, IsPart text start stop part := by
  rcases startsAt with ⟨before, rest, split, rfl⟩
  rcases stopsAt with ⟨longer, after, longerSplit, rfl⟩
  rcases exists_between (split.symm.trans longerSplit) ordered with ⟨part, rfl, rfl⟩
  exact ⟨part, before, after, split, rfl, (byteLength_append before part).symm⟩

/-- Up to a boundary, nothing can be cut out exactly when the start is no
boundary. -/
theorem slice?_eq_none_iff {text : List Char} {start stop : Nat}
    (stopsAt : IsBoundary text stop) (ordered : start ≤ stop) :
    slice? text start stop = none ↔ ¬ IsBoundary text start := by
  constructor
  · intro missed startsAt
    rcases exists_isPart startsAt stopsAt ordered with ⟨part, isPart⟩
    rw [slice?_eq_some_iff.mpr isPart] at missed
    cases missed
  · intro inside
    apply Option.eq_none_iff_forall_ne_some.mpr
    intro part sliced
    exact inside (slice?_eq_some_iff.mp sliced).isBoundary_start

end Text

namespace LineIndex

open Text

/-! ## The line starts of the indexed text -/

/-- Every line starts at a boundary of the indexed text. -/
theorem isBoundary_of_entry {indexed : String} {line start : Nat}
    (entry : (ofText indexed).starts[line]? = some start) :
    IsBoundary indexed.toList start := by
  have bounded : line ≤ indexed.toList.count '\n' := by
    apply Nat.le_of_not_lt
    intro past
    rw [starts_ofText_eq_none past] at entry
    cases entry
  rcases exists_atLineStart indexed.toList bounded with ⟨head, tail, split, start, rfl⟩
  rw [starts_ofText_of_atLineStart split start] at entry
  cases entry
  exact ⟨head, tail, split, rfl⟩

/-- Every line stops within the indexed text. -/
theorem stop_le_byteLength (indexed : String) (line : Nat) :
    (ofText indexed).starts[line]?.getD (ofText indexed).length ≤
      byteLength indexed.toList := by
  cases entry : (ofText indexed).starts[line]? with
  | none => exact Nat.le_refl _
  | some start => exact le_byteLength_of_isBoundary (isBoundary_of_entry entry)

/-- The search selects the line of an offset: the line starts at or before the
offset, and the next one, if there is one, starts behind it. -/
structure Selects (index : LineIndex) (offset line start : Nat) : Prop where
  entry : index.starts[line]? = some start
  reached : start ≤ offset
  last : ∀ next, index.starts[line + 1]? = some next → offset < next

theorem selects_lineAt (indexed : String) (offset : Nat) :
    (ofText indexed).Selects offset ((ofText indexed).lineAt offset)
      ((ofText indexed).startOf ((ofText indexed).lineAt offset)) := by
  have brackets := brackets_lineAt indexed offset
  have within := brackets.within
  refine ⟨?_, brackets.below, ?_⟩
  · rw [startOf, Array.getD_eq_getD_getElem?]
    rw [Array.getElem?_eq_getElem (by omega), Option.getD_some]
  · intro next entry
    rcases Array.getElem?_eq_some_iff.mp entry with ⟨inside, _⟩
    have above := brackets.above inside
    rw [Array.getD_eq_getD_getElem?, entry] at above
    exact above

/-! ## Positions of another text -/

theorem exists_append_dropNewline (line : List Char) :
    ∃ ending, line = dropNewline line ++ ending := by
  unfold dropNewline
  split
  · rename_i last
    exact ⟨['\n'], (List.dropLast_append_getLast? _ last).symm⟩
  · exact ⟨[], (List.append_nil line).symm⟩

/-- What is found for a position was cut out of the text from the start of its
line on, and has as many units as the position has columns. -/
theorem exists_of_offset? {index : LineIndex} {text : String} {position : Position}
    {offset : Nat} (found : index.offset? text position = some offset) :
    ∃ start line part, index.starts[position.line]? = some start ∧
      IsPart text.toList start (index.starts[position.line + 1]?.getD index.length) line ∧
      byteLength part ≤ byteLength line ∧ IsPart text.toList start offset part ∧
      unitLength part = position.column := by
  unfold offset? at found
  rcases Option.bind_eq_some_iff.mp found with ⟨start, entry, found⟩
  rcases Option.bind_eq_some_iff.mp found with ⟨line, sliced, found⟩
  rcases Option.bind_eq_some_iff.mp found with ⟨within, inLine, found⟩
  cases found
  have isPart := slice?_eq_some_iff.mp sliced
  rcases exists_append_dropNewline line with ⟨ending, shape⟩
  rcases exists_of_columnOffset? inLine with ⟨part, further, split, units, rfl⟩
  rw [split, List.append_assoc] at shape
  refine ⟨start, line, part, entry, isPart, ?_, ?_, units⟩
  · rw [shape, byteLength_append]
    exact Nat.le_add_right _ _
  · rw [shape] at isPart
    exact isPart.left

/-- A line that starts inside a character has no offsets. -/
theorem offset?_eq_none_of_inside {index : LineIndex} {text : String} {line start : Nat}
    (entry : index.starts[line]? = some start) (inside : ¬ IsBoundary text.toList start)
    (column : Nat) : index.offset? text ⟨line, column⟩ = none := by
  apply Option.eq_none_iff_forall_ne_some.mpr
  intro offset found
  rcases exists_of_offset? found with ⟨other, _, _, otherEntry, isPart, _⟩
  rw [entry] at otherEntry
  cases otherEntry
  exact inside isPart.isBoundary_start

/-! ## Offsets of another text -/

/-- The boundary that an offset is moved to is the greatest one of the text that
neither of the two lengths cuts off. -/
theorem isGreatest_floorBoundary (indexed text : String) (offset : Nat) :
    IsGreatest (boundariesUpTo text (min offset indexed.utf8ByteSize))
      (floorBoundary text.toList (min offset (ofText indexed).length)) := by
  rw [length_ofText, byteLength_toList]
  have isBoundary :=
    floorBoundary_isBoundary text.toList (min offset indexed.utf8ByteSize)
  constructor
  · refine ⟨isBoundary_toList_iff.mp isBoundary, Nat.le_min.mpr ⟨floorBoundary_le _ _, ?_⟩⟩
    rw [← byteLength_toList text]
    exact le_byteLength_of_isBoundary isBoundary
  · rintro boundary ⟨valid, below⟩
    exact le_floorBoundary (isBoundary_toList_iff.mpr valid) (Nat.le_min.mp below).1

/-- The position of an offset is that of the boundary it is moved to, on the line
that the search selects.  There is none exactly when this line starts inside a
character. -/
theorem exists_selected (indexed text : String) (offset : Nat) :
    ∃ line start boundary,
      IsGreatest (boundariesUpTo text (min offset indexed.utf8ByteSize)) boundary ∧
      (ofText indexed).Selects boundary line start ∧
      ((ofText indexed).position? text offset = none ↔ ¬ IsBoundary text.toList start) ∧
      ∀ position, (ofText indexed).position? text offset = some position →
        position.line = line ∧
          ∃ part, IsPart text.toList start boundary part ∧ unitLength part = position.column := by
  let boundary := floorBoundary text.toList (min offset (ofText indexed).length)
  have isBoundary : IsBoundary text.toList boundary := floorBoundary_isBoundary _ _
  have selects := selects_lineAt indexed boundary
  refine ⟨_, _, boundary, isGreatest_floorBoundary indexed text offset, selects, ?_, ?_⟩
  · unfold position?
    rw [Option.map_eq_none_iff]
    exact slice?_eq_none_iff isBoundary selects.reached
  · intro position answered
    unfold position? at answered
    rcases Option.map_eq_some_iff.mp answered with ⟨part, sliced, rfl⟩
    exact ⟨rfl, part, slice?_eq_some_iff.mp sliced, rfl⟩

/-! ## Sums within a bound -/

/-- The sum of two numbers, if it does not exceed a bound. -/
def sumWithin? (bound left right : Nat) : Option Nat :=
  if left + right ≤ bound then some (left + right) else none

theorem sumWithin?_of_le {bound left right : Nat} (fits : left + right ≤ bound) :
    sumWithin? bound left right = some (left + right) :=
  if_pos fits

/-- The offset of a column in a line that starts at `offset`, where `units` are
already counted.  Units and bytes are summed up on the way along the line, and a
sum beyond the bound is no result at all. -/
def walkWithin? (bound column : Nat) : List Char → Nat → Nat → Option (Option Nat)
  | [], units, offset => some (if units = column then some offset else none)
  | c :: rest, units, offset =>
      if units = column then some (some offset)
      else if column < units then some none
      else do
        let units ← sumWithin? bound units (unitWidth c)
        let offset ← sumWithin? bound offset c.utf8Size
        walkWithin? bound column rest units offset

/-- The byte offset of a position, with all sums within a bound. -/
def offsetWithin? (bound : Nat) (index : LineIndex) (text : String) (position : Position) :
    Option (Option Nat) :=
  match index.starts[position.line]? with
  | none => some none
  | some start => do
      let next ← sumWithin? bound position.line 1
      match slice? text.toList start (index.starts[next]?.getD index.length) with
      | none => some none
      | some line => walkWithin? bound position.column (dropNewline line) 0 start

/-- Behind the column the walk is given up. -/
theorem walkWithin?_of_passed {bound column units : Nat} (passed : column < units)
    (line : List Char) (offset : Nat) :
    walkWithin? bound column line units offset = some none := by
  have differs : ¬ units = column := by omega
  cases line with
  | nil => rw [walkWithin?, if_neg differs]
  | cons c rest => rw [walkWithin?, if_neg differs, if_pos passed]

/-- As long as the whole line can be summed up, the walk finds what looking for
the remaining columns finds. -/
theorem walkWithin?_eq {bound column : Nat} {line : List Char} {units offset : Nat}
    (ahead : units ≤ column) (unitsFit : units + unitLength line ≤ bound)
    (bytesFit : offset + byteLength line ≤ bound) :
    walkWithin? bound column line units offset =
      some ((columnOffset? line (column - units)).map (offset + ·)) := by
  induction line generalizing units offset with
  | nil =>
      rw [walkWithin?]
      cases left : column - units with
      | zero => rw [if_pos (by omega), columnOffset?, Option.map_some, Nat.add_zero]
      | succ remaining => rw [if_neg (by omega), columnOffset?, Option.map_none]
  | cons c rest ih =>
      rw [unitLength_cons] at unitsFit
      rw [byteLength_cons] at bytesFit
      rw [walkWithin?]
      cases left : column - units with
      | zero => rw [if_pos (by omega), columnOffset?, Option.map_some, Nat.add_zero]
      | succ remaining =>
          rw [if_neg (by omega), if_neg (by omega), sumWithin?_of_le (by omega),
            sumWithin?_of_le (by omega), columnOffset?]
          change walkWithin? bound column rest _ _ = _
          by_cases fits : unitWidth c ≤ remaining + 1
          · have further := @ih (units + unitWidth c) (offset + c.utf8Size) (by omega) (by omega)
              (by omega)
            rw [further, if_pos fits, Option.map_map,
              show column - (units + unitWidth c) = remaining + 1 - unitWidth c by omega]
            congr 2
            funext within
            exact Nat.add_assoc _ _ _
          · rw [walkWithin?_of_passed (by omega), if_neg fits, Option.map_none]

/-- Converting a position sums up nothing beyond the lengths of the two texts, so
it makes no difference to put a bound there. -/
theorem offsetWithin?_eq {indexed text : String} {bound : Nat}
    (indexedFits : byteLength indexed.toList < bound)
    (textFits : byteLength text.toList ≤ bound) (position : Position) :
    offsetWithin? bound (ofText indexed) text position =
      some ((ofText indexed).offset? text position) := by
  unfold offsetWithin? offset?
  cases entry : (ofText indexed).starts[position.line]? with
  | none => rfl
  | some start =>
      have inside : position.line < (ofText indexed).starts.size :=
        (Array.getElem?_eq_some_iff.mp entry).1
      have lines := lineCount_ofText_le indexed
      dsimp only
      rw [sumWithin?_of_le (by rw [lineCount] at lines; omega)]
      dsimp only [bind, Option.bind]
      cases sliced : slice? text.toList start
          ((ofText indexed).starts[position.line + 1]?.getD (ofText indexed).length) with
      | none => rfl
      | some line =>
          have isPart := slice?_eq_some_iff.mp sliced
          rcases exists_append_dropNewline line with ⟨ending, shape⟩
          rw [shape] at isPart
          have bytes := le_byteLength_of_isBoundary isPart.left.isBoundary_stop
          have units := unitLength_le_byteLength (dropNewline line)
          dsimp only
          rw [walkWithin?_eq (Nat.zero_le _) (by omega) (by omega), Nat.sub_zero]
          cases columnOffset? (dropNewline line) position.column with
          | none => rfl
          | some within => rfl

/-! ## The law -/

/-- What an index says about a text that it was not made from.

A position is converted without a sum that exceeds what the lengths of the two
texts allow, whatever its line and column are.  An offset that is found is a
boundary of the text within both lengths, it is not before the start that the
index holds for the line, and the text in between has as many units as the
position has columns.

An offset is moved to the greatest boundary of the text within both lengths, and
the search selects a line for that boundary.  There is no position if and only if
the line starts inside a character, and then no position on this line has an
offset.  Otherwise the position is on the selected line, and its column counts the
units of the text from the start of the line to the boundary. -/
theorem foreign_text_conversions (indexed text : String) :
    (∀ bound, indexed.utf8ByteSize < bound → text.utf8ByteSize ≤ bound → ∀ position,
      offsetWithin? bound (ofText indexed) text position =
        some ((ofText indexed).offset? text position)) ∧
    (∀ position offset, (ofText indexed).offset? text position = some offset →
      (String.Pos.Raw.mk offset).IsValid text ∧
      offset ≤ min indexed.utf8ByteSize text.utf8ByteSize ∧
      ∃ start part, (ofText indexed).starts[position.line]? = some start ∧ start ≤ offset ∧
        IsPart text.toList start offset part ∧ unitLength part = position.column) ∧
    ∀ offset, ∃ line start boundary,
      IsGreatest (boundariesUpTo text (min offset indexed.utf8ByteSize)) boundary ∧
      (ofText indexed).Selects boundary line start ∧
      ((ofText indexed).position? text offset = none ↔
        ¬ (String.Pos.Raw.mk start).IsValid text) ∧
      (¬ (String.Pos.Raw.mk start).IsValid text →
        ∀ column, (ofText indexed).offset? text ⟨line, column⟩ = none) ∧
      ∀ position, (ofText indexed).position? text offset = some position →
        position.line = line ∧
          ∃ part, IsPart text.toList start boundary part ∧ unitLength part = position.column := by
  refine ⟨?_, ?_, ?_⟩
  · intro bound indexedFits textFits position
    rw [← byteLength_toList] at indexedFits textFits
    exact offsetWithin?_eq indexedFits textFits position
  · intro position offset found
    rcases exists_of_offset? found with ⟨start, line, part, entry, whole, shorter, isPart, units⟩
    have isBoundary := isPart.isBoundary_stop
    have lineStops := whole.stop_eq
    have partStops := isPart.stop_eq
    have withinIndexed := stop_le_byteLength indexed (position.line + 1)
    refine ⟨isBoundary_toList_iff.mp isBoundary, Nat.le_min.mpr ⟨?_, ?_⟩,
      start, part, entry, by omega, isPart, units⟩
    · rw [← byteLength_toList]
      omega
    · rw [← byteLength_toList]
      exact le_byteLength_of_isBoundary isBoundary
  · intro offset
    rcases exists_selected indexed text offset with
      ⟨line, start, boundary, greatest, selects, fails, answers⟩
    rw [isBoundary_toList_iff] at fails
    refine ⟨line, start, boundary, greatest, selects, fails, ?_, answers⟩
    intro inside column
    exact offset?_eq_none_of_inside selects.entry
      (fun isBoundary => inside (isBoundary_toList_iff.mp isBoundary)) column

/-- The last line of the indexed text starts inside the last character of the other
text.  A word of sixty-four bits is enough for any position. -/
theorem foreign_text_conversions_inside :
    let index := ofText "a\nb\nc"
    let text := "xy€"
    index.position? text 5 = none ∧ (∀ column, index.offset? text ⟨2, column⟩ = none) ∧
      index.offset? text ⟨0, 2⟩ = some 2 ∧ (String.Pos.Raw.mk 2).IsValid text ∧
      offsetWithin? (UInt64.size - 1) index text ⟨UInt64.size - 1, 0⟩ = some none := by
  intro index text
  have law := foreign_text_conversions "a\nb\nc" text
  have found : index.offset? text ⟨0, 2⟩ = some 2 := by decide
  rcases law.2.2 5 with ⟨line, start, boundary, greatest, selects, fails, silent, _⟩
  have atEnd : boundary = 5 := by
    apply Nat.le_antisymm
    · exact (Nat.le_min.mp (Nat.le_min.mp greatest.1.2).1).1
    · exact greatest.2 ⟨by decide, by decide⟩
  have last : line = 2 ∧ start = 4 := by
    have entry := selects.entry
    have next := selects.last
    have starts : (ofText "a\nb\nc").starts = #[0, 2, 4] := by decide
    rw [starts] at entry next
    match line with
    | 0 => exact absurd (next 2 rfl) (by omega)
    | 1 => exact absurd (next 4 rfl) (by omega)
    | 2 => exact ⟨rfl, (Option.some.inj entry).symm⟩
    | further + 3 => cases entry
  rcases last with ⟨rfl, rfl⟩
  have inside : ¬ (String.Pos.Raw.mk 4).IsValid text := by decide
  refine ⟨fails.mpr inside, silent inside, found, (law.2.1 _ _ found).1, ?_⟩
  rw [law.1 (UInt64.size - 1) (by decide) (by decide)]
  rfl

end LineIndex
end LanguageServer
