/-!
# Text

A text is a sequence of code points, and every offset, column and length counts code points.
Cutting a text at a separator loses nothing: the pieces joined by the separator are the text.
-/

namespace AsmCheck

set_option autoImplicit false

abbrev Text := List Char

namespace Text

/-- A text less one final line feed, if it has one. -/
def dropFinalNewline (t : Text) : Text :=
  if t.getLast? = some '\n' then t.dropLast else t

/-- The pieces of a text between separators. There is one piece more than separators. -/
def pieces (separator : Char) : Text → List Text
  | [] => [[]]
  | c :: rest =>
    if c = separator then [] :: pieces separator rest
    else match pieces separator rest with
      | [] => [[c]]
      | piece :: more => (c :: piece) :: more

/-- Pieces joined by a separator. -/
def join (separator : Text) (parts : List Text) : Text := separator.intercalate parts

/-- The part of a text in front of the first `mark`, or all of it. -/
def before (mark : Char) (t : Text) : Text := t.takeWhile (· != mark)

/-- The text between an opening and a closing text, if both stand at the ends without overlap. -/
def enclosed? (opening closing : Text) (t : Text) : Option Text :=
  if opening.isPrefixOf t && closing.isSuffixOf (t.drop opening.length) then
    some ((t.drop opening.length).take (t.length - opening.length - closing.length))
  else none

theorem pieces_ne_nil (separator : Char) (t : Text) : pieces separator t ≠ [] := by
  cases t with
  | nil => simp [pieces]
  | cons c rest =>
    rw [pieces]
    split
    · simp
    · split <;> simp

theorem join_pieces (separator : Char) (t : Text) :
    join [separator] (pieces separator t) = t := by
  induction t with
  | nil => simp [pieces, join]
  | cons c rest ih =>
    rw [pieces]
    have hne := pieces_ne_nil separator rest
    split
    · rename_i h
      subst h
      cases hp : pieces c rest with
      | nil => exact absurd hp hne
      | cons p ps => rw [hp] at ih; simpa [join, List.intercalate] using ih
    · cases hp : pieces separator rest with
      | nil => exact absurd hp hne
      | cons p ps =>
        rw [hp] at ih
        cases ps <;> simpa [join, List.intercalate] using ih

theorem enclosed?_eq_some_iff {opening closing t body : Text} :
    enclosed? opening closing t = some body ↔ t = opening ++ body ++ closing := by
  constructor
  · intro h
    unfold enclosed? at h
    split at h
    · rename_i hc
      simp only [Bool.and_eq_true, List.isPrefixOf_iff_prefix, List.isSuffixOf_iff_suffix] at hc
      obtain ⟨⟨rest, rfl⟩, inner, hinner⟩ := hc
      simp only [List.drop_left] at hinner
      subst hinner
      simp only [List.drop_left, List.length_append, Option.some.injEq] at h
      have hlen : opening.length + (inner.length + closing.length) - opening.length -
          closing.length = inner.length := by omega
      rw [hlen, List.take_left] at h
      simp [h]
    · simp at h
  · rintro rfl
    simp [enclosed?, List.append_assoc]

end Text

end AsmCheck
