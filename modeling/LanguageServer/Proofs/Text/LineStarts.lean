import LanguageServer.Text.LineIndex
import LanguageServer.Proofs.Text.Lines

namespace LanguageServer
namespace LineIndex

open Text

/-!
# The line starts of an index

The index of a text stores one offset for each line.  The entry that belongs to
a line is the byte length of what stands before it, so its place in the table is
the number of newlines there.  The search for the line of an offset is then
measured against this: behind a part of the text, it finds as many lines as the
part has newlines.

The search is specified for any table, ordered or not.  What it returns is an
entry that is not above the offset and whose successor, if there is one, is.
That there is only one such line is a fact about texts, not about searching.
-/

/-! ## The stored offsets -/

theorem startsFrom_append (before after : List Char) (offset : Nat) :
    startsFrom (before ++ after) offset =
      startsFrom before offset ++ startsFrom after (offset + byteLength before) := by
  induction before generalizing offset with
  | nil => rfl
  | cons c rest ih =>
      rw [List.cons_append, startsFrom, startsFrom, ih, byteLength_cons, Nat.add_assoc]
      split
      · rw [List.cons_append]
      · rfl

theorem length_startsFrom (text : List Char) (offset : Nat) :
    (startsFrom text offset).length = text.count '\n' := by
  induction text generalizing offset with
  | nil => rfl
  | cons c rest ih =>
      rw [startsFrom]
      by_cases newline : c = '\n'
      · rw [if_pos newline, List.length_cons, ih, newline, List.count_cons_self]
      · rw [if_neg newline, ih, List.count_cons_of_ne newline]

theorem length_ofText (text : String) : (ofText text).length = byteLength text.toList := rfl

theorem size_starts_ofText (text : String) :
    (ofText text).starts.size = text.toList.count '\n' + 1 := by
  rw [ofText, List.size_toArray, List.length_cons, length_startsFrom]

/-- The entry for a line is the byte length of what stands before the line. -/
theorem starts_ofText_of_atLineStart {text : String} {head tail : List Char}
    (split : text.toList = head ++ tail) (start : AtLineStart head) :
    (ofText text).starts[head.count '\n']? = some (byteLength head) := by
  rw [ofText, List.getElem?_toArray, split]
  rcases start with rfl | ⟨front, rfl⟩
  · rfl
  · -- The newline that ends the front part contributes the entry behind those of the front.
    have counted : (front ++ ['\n']).count '\n' = (startsFrom front 0).length + 1 := by
      rw [List.count_append, List.count_singleton_self, length_startsFrom]
    have entry : startsFrom (front ++ ['\n']) 0 =
        startsFrom front 0 ++ [byteLength (front ++ ['\n'])] := by
      rw [startsFrom_append, Nat.zero_add, byteLength_append]
      rfl
    rw [counted, List.getElem?_cons_succ, startsFrom_append, entry, List.append_assoc,
      List.getElem?_append_right (Nat.le_refl _), Nat.sub_self]
    rfl

/-- There is no entry behind that of the last line. -/
theorem starts_ofText_eq_none {text : String} {number : Nat}
    (past : text.toList.count '\n' < number) : (ofText text).starts[number]? = none := by
  apply Array.getElem?_eq_none
  rw [size_starts_ofText]
  exact past

theorem startOf_ofText_of_atLineStart {text : String} {head tail : List Char}
    (split : text.toList = head ++ tail) (start : AtLineStart head) :
    (ofText text).startOf (head.count '\n') = byteLength head := by
  rw [startOf, Array.getD_eq_getD_getElem?, starts_ofText_of_atLineStart split start,
    Option.getD_some]

/-! ## The search -/

/-- What the search keeps while it narrows: the entry at `low` is not above the
offset, and the one at `high` is, unless the table ends there. -/
structure Brackets (starts : Array Nat) (offset low high : Nat) : Prop where
  ordered : low < high
  within : high ≤ starts.size
  below : starts.getD low 0 ≤ offset
  above : high < starts.size → offset < starts.getD high 0

/-- The search ends with two neighbours that bracket the offset. -/
theorem Brackets.bisect {starts : Array Nat} {offset low high : Nat}
    (brackets : Brackets starts offset low high) :
    Brackets starts offset (bisect starts offset low high)
      (LineIndex.bisect starts offset low high + 1) := by
  fun_induction LineIndex.bisect starts offset low high with
  | case1 low high narrow =>
      have neighbours : high = low + 1 := by
        have ordered := brackets.ordered
        omega
      exact neighbours ▸ brackets
  | case2 low high wide middle reached ih =>
      apply ih
      exact ⟨by omega, brackets.within, reached, brackets.above⟩
  | case3 low high wide middle missed ih =>
      apply ih
      have within := brackets.within
      exact ⟨by omega, by omega, brackets.below, fun _ => Nat.lt_of_not_le missed⟩

theorem brackets_lineAt (text : String) (offset : Nat) :
    Brackets (ofText text).starts offset ((ofText text).lineAt offset)
      ((ofText text).lineAt offset + 1) := by
  apply Brackets.bisect
  have size := size_starts_ofText text
  exact ⟨by omega, Nat.le_refl _, Nat.zero_le _, fun absurd => by omega⟩

/-- Behind a part of a text, the search finds the line whose number is that of
the newlines in the part.  A line found too late would start behind the part;
one found too early would have a successor that still starts within it. -/
theorem lineAt_byteLength {text : String} {before after : List Char}
    (split : text.toList = before ++ after) :
    (ofText text).lineAt (byteLength before) = before.count '\n' := by
  have brackets := brackets_lineAt text (byteLength before)
  generalize (ofText text).lineAt (byteLength before) = line at brackets
  have size := size_starts_ofText text
  have within := brackets.within
  apply Nat.le_antisymm
  · rcases exists_atLineStart text.toList (show line ≤ text.toList.count '\n' by omega) with
      ⟨head, tail, headSplit, start, rfl⟩
    have below := brackets.below
    change (ofText text).startOf _ ≤ _ at below
    rw [startOf_ofText_of_atLineStart headSplit start] at below
    rcases exists_between (headSplit.symm.trans split) below with ⟨between, rfl, _⟩
    rw [List.count_append]
    exact Nat.le_add_right _ _
  · apply Nat.le_of_not_lt
    intro early
    rcases exists_atLineStart before (show line + 1 ≤ before.count '\n' from early) with
      ⟨head, tail, rfl, start, counted⟩
    rw [List.append_assoc] at split
    have total := congrArg (List.count '\n') split
    rw [List.count_append] at total
    have above := brackets.above (by omega)
    change _ < (ofText text).startOf _ at above
    rw [← counted, startOf_ofText_of_atLineStart split start, byteLength_append] at above
    omega

end LineIndex
end LanguageServer
