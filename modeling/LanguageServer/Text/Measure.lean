namespace LanguageServer
namespace Text

/-!
Measures of a text.  A text is a list of characters.  Offsets into it count
the bytes of its UTF-8 form; columns count the code units of its UTF-16 form.
An offset is a *boundary* when it does not fall inside a character.  Texts are
searched and split by their characters, with the offsets of what is found.
-/

/-- UTF-16 code units of one character. -/
def unitWidth (c : Char) : Nat := if c.toNat < 0x10000 then 1 else 2

/-- Bytes of the UTF-8 form. -/
def byteLength : List Char → Nat
  | [] => 0
  | c :: rest => c.utf8Size + byteLength rest

/-- Code units of the UTF-16 form. -/
def unitLength : List Char → Nat
  | [] => 0
  | c :: rest => unitWidth c + unitLength rest

@[simp] theorem byteLength_nil : byteLength [] = 0 := rfl

@[simp] theorem byteLength_cons (c : Char) (rest : List Char) :
    byteLength (c :: rest) = c.utf8Size + byteLength rest := rfl

@[simp] theorem unitLength_nil : unitLength [] = 0 := rfl

@[simp] theorem unitLength_cons (c : Char) (rest : List Char) :
    unitLength (c :: rest) = unitWidth c + unitLength rest := rfl

@[simp] theorem byteLength_append (before after : List Char) :
    byteLength (before ++ after) = byteLength before + byteLength after := by
  induction before with
  | nil => simp
  | cons c rest ih => simp [ih, Nat.add_assoc]

@[simp] theorem unitLength_append (before after : List Char) :
    unitLength (before ++ after) = unitLength before + unitLength after := by
  induction before with
  | nil => simp
  | cons c rest ih => simp [ih, Nat.add_assoc]

theorem unitWidth_pos (c : Char) : 0 < unitWidth c := by
  unfold unitWidth
  split <;> decide

/-- The offset ends some initial part of the text. -/
def IsBoundary (text : List Char) (offset : Nat) : Prop :=
  ∃ before after, text = before ++ after ∧ byteLength before = offset

/-- The parts of a text before and after an offset.  There are none when the
offset lies past the end or inside a character. -/
def cut? : List Char → Nat → Option (List Char × List Char)
  | text, 0 => some ([], text)
  | [], _ + 1 => none
  | c :: rest, offset + 1 =>
      if c.utf8Size ≤ offset + 1 then
        (cut? rest (offset + 1 - c.utf8Size)).map fun parts =>
          (c :: parts.1, parts.2)
      else none

@[simp] theorem cut?_zero (text : List Char) : cut? text 0 = some ([], text) := by
  cases text <;> rfl

theorem cut?_append (before after : List Char) :
    cut? (before ++ after) (byteLength before) = some (before, after) := by
  induction before with
  | nil => simp
  | cons c rest ih =>
      have positive : 0 < c.utf8Size := Char.utf8Size_pos c
      obtain ⟨offset, shape⟩ : ∃ offset, c.utf8Size + byteLength rest = offset + 1 :=
        ⟨c.utf8Size + byteLength rest - 1, by omega⟩
      have remaining : offset + 1 - c.utf8Size = byteLength rest := by omega
      have fits : c.utf8Size ≤ offset + 1 := by omega
      rw [List.cons_append, byteLength_cons, shape]
      simp [cut?, fits, remaining, ih]

theorem eq_append_of_cut? {text before after : List Char} {offset : Nat}
    (found : cut? text offset = some (before, after)) :
    text = before ++ after ∧ byteLength before = offset := by
  fun_induction cut? text offset generalizing before after with
  | case1 text => simp_all
  | case2 => simp at found
  | case3 c rest offset fits ih =>
      obtain ⟨parts, inner, shape⟩ := Option.map_eq_some_iff.1 found
      obtain ⟨rfl, rfl⟩ := Prod.mk.inj shape
      obtain ⟨same, size⟩ := ih inner
      refine ⟨by simp [← same], ?_⟩
      simp only [byteLength_cons, size]
      omega
  | case4 => simp at found

/-- Cutting succeeds exactly at the end of the first part. -/
theorem cut?_eq_some_iff {text before after : List Char} {offset : Nat} :
    cut? text offset = some (before, after) ↔
      text = before ++ after ∧ byteLength before = offset := by
  refine ⟨eq_append_of_cut?, ?_⟩
  rintro ⟨rfl, rfl⟩
  exact cut?_append before after

theorem isSome_cut?_iff {text : List Char} {offset : Nat} :
    (cut? text offset).isSome = true ↔ IsBoundary text offset := by
  rw [Option.isSome_iff_exists]
  constructor
  · rintro ⟨⟨before, after⟩, found⟩
    exact ⟨before, after, cut?_eq_some_iff.1 found⟩
  · rintro ⟨before, after, shape⟩
    exact ⟨(before, after), cut?_eq_some_iff.2 shape⟩

instance (text : List Char) (offset : Nat) : Decidable (IsBoundary text offset) :=
  decidable_of_iff _ isSome_cut?_iff

/-- The part of a text from one offset to another, when both are boundaries
and stand in order. -/
def slice? (text : List Char) (start stop : Nat) : Option (List Char) :=
  if start ≤ stop then
    (cut? text start).bind fun parts =>
      (cut? parts.2 (stop - start)).map Prod.fst
  else none

/-- The greatest boundary that is not above the offset. -/
def floorBoundary : List Char → Nat → Nat
  | [], _ => 0
  | c :: rest, offset =>
      if c.utf8Size ≤ offset then
        c.utf8Size + floorBoundary rest (offset - c.utf8Size)
      else 0

theorem floorBoundary_le (text : List Char) (offset : Nat) :
    floorBoundary text offset ≤ offset := by
  fun_induction floorBoundary text offset with
  | case1 => exact Nat.zero_le _
  | case2 c rest offset fits ih => omega
  | case3 => exact Nat.zero_le _

theorem floorBoundary_isBoundary (text : List Char) (offset : Nat) :
    IsBoundary text (floorBoundary text offset) := by
  fun_induction floorBoundary text offset with
  | case1 => exact ⟨[], [], rfl, rfl⟩
  | case2 c rest offset fits ih =>
      obtain ⟨before, after, shape, size⟩ := ih
      exact ⟨c :: before, after, by simp [shape], by simp [size]⟩
  | case3 c rest => exact ⟨[], c :: rest, rfl, rfl⟩

/-- No boundary lies between `floorBoundary text offset` and the offset. -/
theorem le_floorBoundary {text : List Char} {offset boundary : Nat}
    (isBoundary : IsBoundary text boundary) (below : boundary ≤ offset) :
    boundary ≤ floorBoundary text offset := by
  obtain ⟨before, after, rfl, rfl⟩ := isBoundary
  induction before generalizing offset with
  | nil => exact Nat.zero_le _
  | cons c rest ih =>
      simp only [byteLength_cons] at below
      have fits : c.utf8Size ≤ offset := by omega
      have inner := @ih (offset - c.utf8Size) (by omega)
      simp only [List.cons_append, floorBoundary, fits, if_true, byteLength_cons]
      omega

/-! ## Searching and splitting -/

/-- The pieces of a text between occurrences of `mark`. -/
def pieces (mark : Char) : List Char → List (List Char)
  | [] => [[]]
  | c :: rest =>
      if c == mark then [] :: pieces mark rest
      else
        match pieces mark rest with
        | [] => [[c]]
        | piece :: others => (c :: piece) :: others

/-- Whether a pattern occurs in a text. -/
def occursIn (pattern : List Char) : List Char → Bool
  | [] => pattern.isEmpty
  | c :: rest => pattern.isPrefixOf (c :: rest) || occursIn pattern rest

/-- The byte offsets at which a pattern occurs, for a text that begins at
`offset`.  The pattern should not overlap itself. -/
def occurrences (pattern : List Char) : List Char → Nat → List Nat
  | [], _ => []
  | c :: rest, offset =>
      let others := occurrences pattern rest (offset + c.utf8Size)
      if pattern.isPrefixOf (c :: rest) then offset :: others else others

/-- Pieces with the byte offsets at which they start, when the first starts at
`offset` and a mark of one byte stands between any two. -/
def withOffsets : List (List Char) → Nat → List (Nat × List Char)
  | [], _ => []
  | piece :: others, offset =>
      (offset, piece) :: withOffsets others (offset + byteLength piece + 1)

end Text
end LanguageServer
