import LanguageServer.Proofs.Text.Foreign

namespace LanguageServer

/-!
# Line starts cut a text into its lines

A text is some lines that a newline ends, and behind them a last line without one.
The starts of the index follow these lines: each is the byte length of the lines
before it.  Cutting the text at the starts therefore gives the lines back, with
nothing lost in between.

Starts grow, because a line that a newline ends is not empty.  Of all lines, only one
can then start at or before an offset while the next starts behind it.  It makes no
difference how it is looked for.  A search may tell the place where the offset stands
among the starts, or the place where it would have to stand; the line is the same.
-/

namespace Text

/-! ## Lines that a newline ends -/

/-- The line ends with its only newline. -/
def IsEnded (line : List Char) : Prop := ∃ content, '\n' ∉ content ∧ line = content ++ ['\n']

theorem IsEnded.byteLength_pos {line : List Char} (isEnded : IsEnded line) :
    0 < byteLength line := by
  rcases isEnded with ⟨content, _, rfl⟩
  have newline : byteLength ['\n'] = 1 := rfl
  rw [byteLength_append, newline]
  exact Nat.succ_pos _

/-- Every text is made of lines that a newline ends and a last line. -/
theorem exists_ended_append_last (text : List Char) :
    ∃ ended last, text = List.flatten ended ++ last ∧ (∀ line ∈ ended, IsEnded line) ∧
      '\n' ∉ last := by
  induction text with
  | nil => exact ⟨[], [], rfl, fun _ member => absurd member List.not_mem_nil, List.not_mem_nil⟩
  | cons c text ih =>
      rcases ih with ⟨ended, last, rfl, each, unbroken⟩
      by_cases newline : c = '\n'
      · subst newline
        refine ⟨['\n'] :: ended, last, rfl, ?_, unbroken⟩
        exact List.forall_mem_cons.mpr ⟨⟨[], List.not_mem_nil, rfl⟩, each⟩
      · -- The character belongs to the line that follows, which may be the last one.
        have differs : '\n' ≠ c := Ne.symm newline
        cases ended with
        | nil =>
            refine ⟨[], c :: last, rfl, each, ?_⟩
            exact List.not_mem_cons_of_ne_of_not_mem differs unbroken
        | cons first others =>
            rcases List.forall_mem_cons.mp each with ⟨⟨content, inLine, rfl⟩, further⟩
            refine ⟨(c :: (content ++ ['\n'])) :: others, last, rfl, ?_, unbroken⟩
            refine List.forall_mem_cons.mpr ⟨⟨c :: content, ?_, rfl⟩, further⟩
            exact List.not_mem_cons_of_ne_of_not_mem differs inLine

/-- Where lines end that follow each other, when the first starts at `offset`. -/
def endsFrom : List (List Char) → Nat → List Nat
  | [], _ => []
  | line :: rest, offset => (offset + byteLength line) :: endsFrom rest (offset + byteLength line)

/-- Lines that are not empty end one behind the other. -/
theorem pairwise_endsFrom {ended : List (List Char)} (each : ∀ line ∈ ended, IsEnded line)
    (offset : Nat) : (offset :: endsFrom ended offset).Pairwise (· < ·) := by
  induction ended generalizing offset with
  | nil => exact List.pairwise_singleton _ _
  | cons line rest ih =>
      rcases List.forall_mem_cons.mp each with ⟨isEnded, further⟩
      have positive := isEnded.byteLength_pos
      have inner := ih further (offset + byteLength line)
      refine List.pairwise_cons.mpr ⟨?_, inner⟩
      intro stop member
      rcases List.mem_cons.mp member with rfl | later
      · omega
      · have behind := (List.pairwise_cons.mp inner).1 stop later
        omega

end Text

namespace LineIndex

open Text

/-! ## Starts are where lines end -/

theorem startsFrom_of_unbroken {line : List Char} (unbroken : '\n' ∉ line) (offset : Nat) :
    startsFrom line offset = [] := by
  apply List.eq_nil_of_length_eq_zero
  rw [length_startsFrom, count_newline_eq_zero unbroken]

theorem startsFrom_of_isEnded {line : List Char} (isEnded : IsEnded line) (offset : Nat) :
    startsFrom line offset = [offset + byteLength line] := by
  rcases isEnded with ⟨content, unbroken, rfl⟩
  rw [startsFrom_append, startsFrom_of_unbroken unbroken, List.nil_append, byteLength_append,
    ← Nat.add_assoc]
  rfl

theorem startsFrom_lines {ended : List (List Char)} {last : List Char}
    (each : ∀ line ∈ ended, IsEnded line) (unbroken : '\n' ∉ last) (offset : Nat) :
    startsFrom (ended.flatten ++ last) offset = endsFrom ended offset := by
  induction ended generalizing offset with
  | nil => exact startsFrom_of_unbroken unbroken offset
  | cons line rest ih =>
      rcases List.forall_mem_cons.mp each with ⟨isEnded, further⟩
      rw [List.flatten_cons, List.append_assoc, startsFrom_append, startsFrom_of_isEnded isEnded,
        ih further]
      rfl

/-- The first line starts at zero, every further one where the line before it ends. -/
theorem starts_ofText_lines {text : String} {ended : List (List Char)} {last : List Char}
    (split : text.toList = ended.flatten ++ last) (each : ∀ line ∈ ended, IsEnded line)
    (unbroken : '\n' ∉ last) : (ofText text).starts.toList = 0 :: endsFrom ended 0 := by
  rw [ofText, List.toList_toArray, split, startsFrom_lines each unbroken]

/-! ## Cutting at the starts -/

/-- The pairs of offsets between which the lines lie: each from one start to the next, the
last one to the end. -/
def cuts (index : LineIndex) : List (Nat × Nat) :=
  index.starts.toList.zip (index.starts.toList.tail ++ [index.length])

/-- The parts of a text between the cuts of an index, if all of them can be cut out. -/
def lines? (index : LineIndex) (text : String) : Option (List (List Char)) :=
  index.cuts.mapM fun cut => slice? text.toList cut.1 cut.2

/-- Cutting lines apart where they end gives them back.  What stands before the first of
them is carried along, since offsets count from the beginning of the whole text. -/
theorem mapM_slice?_lines (front : List Char) (ended : List (List Char)) (last : List Char) :
    ((byteLength front :: endsFrom ended (byteLength front)).zip
        (endsFrom ended (byteLength front) ++
          [byteLength (front ++ (ended.flatten ++ last))])).mapM
      (fun cut => slice? (front ++ (ended.flatten ++ last)) cut.1 cut.2) =
      some (ended ++ [last]) := by
  induction ended generalizing front with
  | nil =>
      have sliced := slice?_append front last []
      rw [List.append_nil] at sliced
      simp [endsFrom, sliced]
  | cons line rest ih =>
      have sliced := slice?_append front line (rest.flatten ++ last)
      have inner := ih (front ++ line)
      rw [byteLength_append front line] at inner
      simp only [List.append_assoc] at inner
      simp only [endsFrom, List.flatten_cons, List.append_assoc, List.cons_append,
        List.zip_cons_cons, List.mapM_cons, sliced, inner]
      rfl

theorem lines?_ofText {text : String} {ended : List (List Char)} {last : List Char}
    (split : text.toList = ended.flatten ++ last) (each : ∀ line ∈ ended, IsEnded line)
    (unbroken : '\n' ∉ last) : (ofText text).lines? text = some (ended ++ [last]) := by
  have cutOut := mapM_slice?_lines [] ended last
  rw [lines?, cuts, starts_ofText_lines split each unbroken, length_ofText, split]
  exact cutOut

/-! ## The line of an offset -/

theorem pairwise_starts_ofText (text : String) :
    (ofText text).starts.toList.Pairwise (· < ·) := by
  rcases exists_ended_append_last text.toList with ⟨ended, last, split, each, unbroken⟩
  rw [starts_ofText_lines split each unbroken]
  exact pairwise_endsFrom each 0

/-- A later line starts later. -/
theorem start_lt_start {text : String} {line later start laterStart : Nat}
    (entry : (ofText text).starts[line]? = some start)
    (laterEntry : (ofText text).starts[later]? = some laterStart) (ordered : line < later) :
    start < laterStart := by
  rw [← Array.getElem?_toList] at entry laterEntry
  rcases List.getElem?_eq_some_iff.mp entry with ⟨inside, rfl⟩
  rcases List.getElem?_eq_some_iff.mp laterEntry with ⟨laterInside, rfl⟩
  exact List.pairwise_iff_getElem.mp (pairwise_starts_ofText text) line later inside laterInside
    ordered

theorem start_le_start {text : String} {line later start laterStart : Nat}
    (entry : (ofText text).starts[line]? = some start)
    (laterEntry : (ofText text).starts[later]? = some laterStart) (ordered : line ≤ later) :
    start ≤ laterStart := by
  rcases Nat.eq_or_lt_of_le ordered with rfl | before
  · rw [entry] at laterEntry
    exact Nat.le_of_eq (Option.some.inj laterEntry)
  · exact Nat.le_of_lt (start_lt_start entry laterEntry before)

/-- Before a line with a start, every line has one. -/
theorem exists_entry_of_le {index : LineIndex} {line later laterStart : Nat}
    (laterEntry : index.starts[later]? = some laterStart) (ordered : line ≤ later) :
    ∃ start, index.starts[line]? = some start := by
  rcases Array.getElem?_eq_some_iff.mp laterEntry with ⟨inside, _⟩
  exact ⟨_, Array.getElem?_eq_getElem (Nat.lt_of_le_of_lt ordered inside)⟩

/-- No line before the selected one is selected: its successor starts too early. -/
theorem Selects.not_lt {text : String} {offset line start later laterStart : Nat}
    (selects : (ofText text).Selects offset line start)
    (laterSelects : (ofText text).Selects offset later laterStart) : ¬ line < later := by
  intro ordered
  rcases exists_entry_of_le laterSelects.entry ordered with ⟨next, nextEntry⟩
  have behind := selects.last next nextEntry
  have grows := start_le_start nextEntry laterSelects.entry ordered
  have reached := laterSelects.reached
  omega

/-- One line is selected for an offset, and the search finds it. -/
theorem exists_selects_iff {text : String} {offset line : Nat} :
    (∃ start, (ofText text).Selects offset line start) ↔ line = (ofText text).lineAt offset := by
  have found := selects_lineAt text offset
  constructor
  · rintro ⟨start, selects⟩
    exact Nat.le_antisymm (Nat.le_of_not_lt (found.not_lt selects))
      (Nat.le_of_not_lt (selects.not_lt found))
  · rintro rfl
    exact ⟨_, found⟩

/-! ## Searches that tell hits from misses -/

/-- What a search for an offset can find: the place where it stands among the starts, or
the place where it would have to stand. -/
inductive Finding where
  | hit (place : Nat)
  | miss (place : Nat)

/-- The line of an offset.  After a miss it is the line before the place, and there is
none before the first. -/
def Finding.line? : Finding → Option Nat
  | .hit place => some place
  | .miss 0 => none
  | .miss (place + 1) => some place

/-- The finding is true of the starts.  They need not be in order for this. -/
inductive Finding.Holds (starts : Array Nat) (offset : Nat) : Finding → Prop where
  | hit {place : Nat} (stands : starts[place]? = some offset) : Holds starts offset (.hit place)
  | miss {place : Nat} (within : place ≤ starts.size)
      (below : ∀ earlier start, earlier < place → starts[earlier]? = some start → start < offset)
      (above : ∀ later start, place ≤ later → starts[later]? = some start → offset < start) :
      Holds starts offset (.miss place)

/-- For every offset there is something to find. -/
theorem exists_holds (text : String) (offset : Nat) :
    ∃ finding, Finding.Holds (ofText text).starts offset finding := by
  have selects := selects_lineAt text offset
  generalize (ofText text).lineAt offset = line at selects
  generalize (ofText text).startOf line = start at selects
  rcases Nat.eq_or_lt_of_le selects.reached with rfl | reached
  · exact ⟨_, .hit selects.entry⟩
  · rcases Array.getElem?_eq_some_iff.mp selects.entry with ⟨inside, _⟩
    refine ⟨.miss (line + 1), .miss inside ?_ ?_⟩
    · intro earlier other ordered entry
      have grows := start_le_start entry selects.entry (Nat.le_of_lt_succ ordered)
      exact Nat.lt_of_le_of_lt grows reached
    · intro later other ordered entry
      rcases exists_entry_of_le entry ordered with ⟨next, nextEntry⟩
      have behind := selects.last next nextEntry
      exact Nat.lt_of_lt_of_le behind (start_le_start nextEntry entry ordered)

/-- Whatever is found truly, its line is the one that halving finds. -/
theorem Finding.Holds.line?_eq {text : String} {offset : Nat} {finding : Finding}
    (holds : finding.Holds (ofText text).starts offset) :
    finding.line? = some ((ofText text).lineAt offset) := by
  cases holds with
  | @hit place stands =>
      refine congrArg some (exists_selects_iff.mp ⟨offset, stands, Nat.le_refl _, ?_⟩)
      intro next entry
      exact start_lt_start stands entry (Nat.lt_succ_self _)
  | @miss place within below above =>
      cases place with
      | zero =>
          -- The first line starts at zero, which is not behind any offset.
          exact absurd (above 0 0 (Nat.le_refl _) rfl) (Nat.not_lt_zero _)
      | succ line =>
          have entry := Array.getElem?_eq_getElem within
          refine congrArg some (exists_selects_iff.mp ⟨_, entry, ?_, ?_⟩)
          · exact Nat.le_of_lt (below line _ (Nat.lt_succ_self _) entry)
          · intro next nextEntry
            exact above (line + 1) next (Nat.le_refl _) nextEntry

/-! ## The law -/

/-- The starts of an index are a partition of its text.  They begin with zero, they grow,
and each is a boundary within the text.  The parts from each start to the next, and
from the last to the end, are the text when they are joined.  A newline ends all but
the last of them, and there is no other newline.

For every offset, past the end too, the search finds the one line that starts at or
before it while the next line, if there is one, starts behind it.  A search that
tells hits from misses always has something to find, and leads to the same line.  The
position of an offset is on the line found for its boundary. -/
theorem lineStarts_partition (text : String) :
    (ofText text).starts.toList.head? = some 0 ∧
    (ofText text).starts.toList.Pairwise (· < ·) ∧
    (∀ start ∈ (ofText text).starts.toList,
      (String.Pos.Raw.mk start).IsValid text ∧ start ≤ text.utf8ByteSize) ∧
    (∃ ended last, (ofText text).lines? text = some (ended ++ [last]) ∧
      (ended ++ [last]).flatten = text.toList ∧
      (∀ line ∈ ended, ∃ content, '\n' ∉ content ∧ line = content ++ ['\n']) ∧ '\n' ∉ last) ∧
    ∀ offset,
      (∀ line, (∃ start, (ofText text).Selects offset line start) ↔
        line = (ofText text).lineAt offset) ∧
      (∃ finding, Finding.Holds (ofText text).starts offset finding) ∧
      (∀ finding, Finding.Holds (ofText text).starts offset finding →
        finding.line? = some ((ofText text).lineAt offset)) ∧
      ∃ position, (ofText text).position? text offset = some position ∧
        position.line = (ofText text).lineAt (snap text offset) := by
  refine ⟨rfl, pairwise_starts_ofText text, ?_, ?_, ?_⟩
  · intro start member
    rcases List.mem_iff_getElem?.mp member with ⟨line, entry⟩
    rw [Array.getElem?_toList] at entry
    have isBoundary := isBoundary_of_entry entry
    refine ⟨isBoundary_toList_iff.mp isBoundary, ?_⟩
    rw [← byteLength_toList]
    exact le_byteLength_of_isBoundary isBoundary
  · rcases exists_ended_append_last text.toList with ⟨ended, last, split, each, unbroken⟩
    refine ⟨ended, last, lines?_ofText split each unbroken, ?_, each, unbroken⟩
    rw [List.flatten_append, List.flatten_singleton, split]
  · intro offset
    refine ⟨fun line => exists_selects_iff, exists_holds text offset,
      fun finding holds => holds.line?_eq, ?_⟩
    rcases exists_position?_eq_endPosition text offset with ⟨before, after, split, size, answered⟩
    refine ⟨_, answered, ?_⟩
    rw [← size, lineAt_byteLength split]
    rfl

/-- A character of two bytes, an empty line and a newline at the end.  The end of the
text is a hit, the middle of the character is a miss. -/
theorem lineStarts_partition_final_newline :
    let index := ofText "é\n\n"
    index.starts = #[0, 3, 4] ∧ (String.Pos.Raw.mk 3).IsValid "é\n\n" ∧
      index.lineAt 4 = 2 ∧ index.lineAt 1 = 0 ∧
      ∃ ended last, index.lines? "é\n\n" = some (ended ++ [last]) ∧
        (ended ++ [last]).flatten = ['é', '\n', '\n'] := by
  intro index
  have starts : index.starts = #[0, 3, 4] := by decide
  rcases lineStarts_partition "é\n\n" with ⟨_, _, boundaries, ⟨ended, last, parts, joined, _⟩, law⟩
  have hit : Finding.Holds index.starts 4 (.hit 2) := by
    rw [starts]
    exact .hit rfl
  have miss : Finding.Holds index.starts 1 (.miss 1) := by
    rw [starts]
    refine .miss (by decide) ?_ ?_
    · rintro earlier start ordered entry
      obtain rfl : earlier = 0 := by omega
      cases entry
      decide
    · rintro later start ordered entry
      match later with
      | 1 => cases entry; decide
      | 2 => cases entry; decide
      | further + 3 => cases entry
  refine ⟨starts, (boundaries 3 (by decide)).1, ?_, ?_, ended, last, parts, joined⟩
  · exact (Option.some.inj ((law 4).2.2.1 _ hit)).symm
  · exact (Option.some.inj ((law 1).2.2.1 _ miss)).symm

end LineIndex
end LanguageServer
