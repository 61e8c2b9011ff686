import LanguageServer.Position
import LanguageServer.Text.Measure
import Mathlib.Data.List.DropRight
import Mathlib.Data.List.Induction

namespace LanguageServer
namespace Text

/-!
# Boundaries and lines of a text

A boundary of a text cuts it in two.  Everything in this module is said of the
two parts, `text = before ++ after`, and not of offsets: parts can be compared,
joined and searched by the laws of lists, and an offset is then the byte length
of the part before it.

A line is what stands between two newlines.  `IsLine` splits a text at one of
its lines and tells the line's number by counting the newlines before it.  The
position that is reached behind a text counts its newlines and the code units
behind the last one.  No index is used here; these are the notions that an index
of line starts is measured against.
-/

/-! ## Boundaries -/

theorem le_byteLength_of_isBoundary {text : List Char} {offset : Nat}
    (isBoundary : IsBoundary text offset) : offset ≤ byteLength text := by
  rcases isBoundary with ⟨before, after, rfl, rfl⟩
  rw [byteLength_append]
  exact Nat.le_add_right _ _

theorem eq_nil_of_byteLength_eq_zero {text : List Char} (empty : byteLength text = 0) :
    text = [] := by
  cases text with
  | nil => rfl
  | cons c rest =>
      have positive : 0 < c.utf8Size := Char.utf8Size_pos c
      rw [byteLength_cons] at empty
      omega

/-- Every character takes a byte at least. -/
theorem length_le_byteLength (text : List Char) : text.length ≤ byteLength text := by
  induction text with
  | nil => exact Nat.le_refl 0
  | cons c rest ih =>
      have positive : 0 < c.utf8Size := Char.utf8Size_pos c
      rw [List.length_cons, byteLength_cons]
      omega

/-- Of two boundaries of a text, the part before the smaller one begins the part
before the greater one. -/
theorem exists_between {first second firstRest secondRest : List Char}
    (same : first ++ firstRest = second ++ secondRest)
    (ordered : byteLength first ≤ byteLength second) :
    ∃ between, second = first ++ between ∧ firstRest = between ++ secondRest := by
  rcases List.append_eq_append_iff.mp same with ⟨gap, left, right⟩ | ⟨gap, left, right⟩
  · exact ⟨gap, left, right⟩
  · have sizes := congrArg byteLength left
    rw [byteLength_append] at sizes
    have empty : gap = [] := eq_nil_of_byteLength_eq_zero (by omega)
    rw [empty, List.append_nil] at left
    rw [empty, List.nil_append] at right
    exact ⟨[], by rw [left, List.append_nil], by rw [right, List.nil_append]⟩

theorem slice?_append (before middle after : List Char) :
    slice? (before ++ (middle ++ after)) (byteLength before)
        (byteLength before + byteLength middle) = some middle := by
  have ordered : byteLength before ≤ byteLength before + byteLength middle :=
    Nat.le_add_right _ _
  rw [slice?, if_pos ordered, cut?_append, Option.bind_some, Nat.add_sub_cancel_left,
    cut?_append]
  rfl

theorem floorBoundary_of_isBoundary {text : List Char} {offset : Nat}
    (isBoundary : IsBoundary text offset) : floorBoundary text offset = offset :=
  Nat.le_antisymm (floorBoundary_le text offset)
    (le_floorBoundary isBoundary (Nat.le_refl offset))

/-! ## Lines -/

/-- A line starts behind this part of a text: it is empty, or a newline ends
it. -/
def AtLineStart (head : List Char) : Prop := head = [] ∨ ∃ front, head = front ++ ['\n']

/-- `line` is the line with a number, where `head` stands before it and `rest`
behind it.  The newline that ends a line belongs to the rest. -/
structure IsLine (text : List Char) (number : Nat) (head line rest : List Char) : Prop where
  split : text = head ++ (line ++ rest)
  start : AtLineStart head
  number_eq : head.count '\n' = number
  unbroken : '\n' ∉ line
  ends : rest = [] ∨ ∃ tail, rest = '\n' :: tail

theorem count_newline_eq_zero {line : List Char} (unbroken : '\n' ∉ line) :
    line.count '\n' = 0 :=
  List.count_eq_zero.mpr unbroken

/-- There is a line start behind any number of newlines that a text has. -/
theorem exists_atLineStart (text : List Char) {number : Nat}
    (bounded : number ≤ text.count '\n') :
    ∃ head tail, text = head ++ tail ∧ AtLineStart head ∧ head.count '\n' = number := by
  induction text generalizing number with
  | nil =>
      refine ⟨[], [], rfl, Or.inl rfl, ?_⟩
      rw [List.count_nil] at bounded ⊢
      omega
  | cons c rest ih =>
      cases number with
      | zero => exact ⟨[], c :: rest, rfl, Or.inl rfl, rfl⟩
      | succ number =>
          by_cases newline : c = '\n'
          · subst newline
            rw [List.count_cons_self] at bounded
            rcases ih (Nat.le_of_succ_le_succ bounded) with ⟨head, tail, rfl, start, counted⟩
            refine ⟨'\n' :: head, tail, rfl, Or.inr ?_, ?_⟩
            · rcases start with rfl | ⟨front, rfl⟩
              · exact ⟨[], rfl⟩
              · exact ⟨'\n' :: front, rfl⟩
            · rw [List.count_cons_self, counted]
          · rw [List.count_cons_of_ne newline] at bounded
            rcases ih bounded with ⟨head, tail, rfl, start, counted⟩
            refine ⟨c :: head, tail, rfl, Or.inr ?_, ?_⟩
            · rcases start with rfl | ⟨front, rfl⟩
              · cases counted
              · exact ⟨c :: front, rfl⟩
            · rw [List.count_cons_of_ne newline, counted]

/-- A text up to its first newline. -/
theorem exists_firstLine (text : List Char) :
    ∃ line rest, text = line ++ rest ∧ '\n' ∉ line ∧
      (rest = [] ∨ ∃ tail, rest = '\n' :: tail) := by
  induction text with
  | nil => exact ⟨[], [], rfl, List.not_mem_nil, Or.inl rfl⟩
  | cons c text ih =>
      by_cases newline : c = '\n'
      · subst newline
        exact ⟨[], '\n' :: text, rfl, List.not_mem_nil, Or.inr ⟨text, rfl⟩⟩
      · rcases ih with ⟨line, rest, rfl, unbroken, ends⟩
        refine ⟨c :: line, rest, rfl, ?_, ends⟩
        intro member
        rcases List.mem_cons.mp member with same | later
        · exact newline same.symm
        · exact unbroken later

/-- A text has a line with each number up to that of its newlines. -/
theorem exists_isLine {text : List Char} {number : Nat} (bounded : number ≤ text.count '\n') :
    ∃ head line rest, IsLine text number head line rest := by
  rcases exists_atLineStart text bounded with ⟨head, tail, rfl, start, counted⟩
  rcases exists_firstLine tail with ⟨line, rest, rfl, unbroken, ends⟩
  exact ⟨head, line, rest, rfl, start, counted, unbroken, ends⟩

/-! ## The position behind a text -/

/-- What stands behind the last newline. -/
def lastLine (text : List Char) : List Char := text.rtakeWhile (· != '\n')

/-- The line and column that are reached behind a text: its newlines, and the
code units of its last line. -/
def endPosition (text : List Char) : Position := ⟨text.count '\n', unitLength (lastLine text)⟩

theorem newline_notMem_lastLine (text : List Char) : '\n' ∉ lastLine text := by
  intro member
  have differs := List.mem_rtakeWhile_imp member
  exact absurd differs (by decide)

theorem lastLine_append {head line : List Char} (start : AtLineStart head)
    (unbroken : '\n' ∉ line) : lastLine (head ++ line) = line := by
  induction line using List.reverseRecOn with
  | nil =>
      rw [List.append_nil]
      rcases start with rfl | ⟨front, rfl⟩
      · rfl
      · exact List.rtakeWhile_concat_neg _ _ _ (by decide)
  | append_singleton line c ih =>
      have differs : (c != '\n') = true := by
        rw [bne_iff_ne]
        intro same
        exact unbroken (List.mem_append_right line (same ▸ List.mem_singleton_self c))
      have inner := ih (fun member => unbroken (List.mem_append_left [c] member))
      rw [← List.append_assoc]
      unfold lastLine at inner ⊢
      rw [List.rtakeWhile_concat_pos (· != '\n') _ _ differs, inner]

/-- A line starts where the last line of a text does. -/
theorem exists_append_lastLine (text : List Char) :
    ∃ head, text = head ++ lastLine text ∧ AtLineStart head := by
  rcases exists_atLineStart text (Nat.le_refl _) with ⟨head, tail, rfl, start, counted⟩
  rw [List.count_append] at counted
  have unbroken : '\n' ∉ tail := List.count_eq_zero.mp (by omega)
  exact ⟨head, by rw [lastLine_append start unbroken], start⟩

theorem endPosition_append {head line : List Char} (start : AtLineStart head)
    (unbroken : '\n' ∉ line) :
    endPosition (head ++ line) = ⟨head.count '\n', unitLength line⟩ := by
  rw [endPosition, lastLine_append start unbroken, List.count_append,
    count_newline_eq_zero unbroken, Nat.add_zero]

end Text
end LanguageServer
