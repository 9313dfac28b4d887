import AsmCheck.Text.Blank
import Mathlib.Data.List.DropRight

/-!
# Trimming and cutting

A text is its trimmed form between two runs of blanks, and its pieces are free of the separator.
-/

namespace AsmCheck.Text

set_option autoImplicit false

/-- Neither end of a text is blank. -/
def Trimmed (t : Text) : Prop :=
  (∀ c ∈ t.head?, isBlank c = false) ∧ ∀ c ∈ t.getLast?, isBlank c = false

/-- Every character of a text is blank. -/
def AllBlank (t : Text) : Prop := ∀ c ∈ t, isBlank c = true

theorem allBlank_append {s t : Text} (hs : AllBlank s) (ht : AllBlank t) : AllBlank (s ++ t) := by
  intro c hc
  rcases List.mem_append.mp hc with hc | hc
  · exact hs c hc
  · exact ht c hc

theorem isBlankText_iff (t : Text) : isBlankText t = true ↔ AllBlank t := by
  simp [isBlankText, AllBlank]

theorem allBlank_leading (t : Text) : AllBlank (t.takeWhile isBlank) :=
  fun _ hc => List.mem_takeWhile_imp hc

theorem dropEndWhile_append (p : Char → Bool) (t : Text) :
    ∃ tail, t = dropEndWhile p t ++ tail ∧ ∀ c ∈ tail, p c = true :=
  ⟨t.rtakeWhile p, List.rdropWhile_append_rtakeWhile.symm, fun _ hc => List.mem_rtakeWhile_imp hc⟩

theorem length_dropEndWhile_le (p : Char → Bool) (t : Text) :
    (dropEndWhile p t).length ≤ t.length := by
  obtain ⟨tail, htail, _⟩ := dropEndWhile_append p t
  have hlen := congrArg List.length htail
  rw [List.length_append] at hlen
  omega

theorem dropEndWhile_getLast? (p : Char → Bool) (t : Text) :
    ∀ c ∈ (dropEndWhile p t).getLast?, p c = false := by
  intro c hc
  have hne : t.rdropWhile p ≠ [] := by
    intro hnil
    change c ∈ (t.rdropWhile p).getLast? at hc
    simp [hnil] at hc
  have hlast := List.rdropWhile_last_not p t hne
  have hval : (t.rdropWhile p).getLast hne = c := by
    have hsome := List.getLast?_eq_some_getLast hne
    exact Option.some.inj (hsome.symm.trans hc)
  rw [hval] at hlast
  simpa using hlast

theorem dropEndWhile_eq_self {p : Char → Bool} {t : Text} (h : ∀ c ∈ t.getLast?, p c = false) :
    dropEndWhile p t = t := by
  change t.rdropWhile p = t
  rw [List.rdropWhile_eq_self_iff]
  intro hne
  simp [h _ (List.getLast?_eq_some_getLast hne)]

theorem head?_dropWhile (p : Char → Bool) (t : Text) :
    ∀ c ∈ (t.dropWhile p).head?, p c = false := by
  intro c hc
  have h := List.head?_dropWhile_not p t
  have hhead : (t.dropWhile p).head? = some c := hc
  rw [hhead] at h
  exact h

theorem trimStart_head? (t : Text) : ∀ c ∈ (trimStart t).head?, isBlank c = false :=
  head?_dropWhile isBlank t

theorem drop_length_takeWhile (p : Char → Bool) (t : Text) :
    t.drop (t.takeWhile p).length = t.dropWhile p := by
  calc t.drop (t.takeWhile p).length
      = (t.takeWhile p ++ t.dropWhile p).drop (t.takeWhile p).length := by
        rw [List.takeWhile_append_dropWhile]
    _ = t.dropWhile p := List.drop_left

/-- A text is its trimmed form between two runs of blanks; the first of them is its indent. -/
theorem exists_trim (t : Text) :
    ∃ tail, t = t.takeWhile isBlank ++ (trim t ++ tail) ∧ AllBlank tail := by
  obtain ⟨tail, htail, hblank⟩ := dropEndWhile_append isBlank (trimStart t)
  refine ⟨tail, ?_, hblank⟩
  change t = t.takeWhile isBlank ++ (dropEndWhile isBlank (trimStart t) ++ tail)
  rw [← htail]
  exact List.takeWhile_append_dropWhile.symm

theorem trim_trimmed (t : Text) : Trimmed (trim t) := by
  refine ⟨?_, dropEndWhile_getLast? isBlank (trimStart t)⟩
  intro c hc
  obtain ⟨tail, htail, _⟩ := dropEndWhile_append isBlank (trimStart t)
  apply trimStart_head? t
  rw [htail]
  change (trim t ++ tail).head? = some c
  rw [List.head?_append]
  have hc' : (trim t).head? = some c := hc
  rw [hc', Option.some_or]

theorem indent_le_length (t : Text) : indent t ≤ t.length := by
  unfold indent
  exact (List.takeWhile_sublist isBlank).length_le

/-- Blanks in front of a text are no part of it once its start is trimmed. -/
theorem trimStart_append_of_allBlank {s : Text} (hs : AllBlank s) (t : Text) :
    trimStart (s ++ t) = trimStart t := List.dropWhile_append_of_pos hs

theorem trimStart_eq_nil_iff (t : Text) : trimStart t = [] ↔ AllBlank t :=
  List.dropWhile_eq_nil_iff

theorem trim_of_trimmed {t : Text} (h : Trimmed t) : trim t = t := by
  have hstart : trimStart t = t := by
    cases t with
    | nil => rfl
    | cons c rest => exact List.dropWhile_cons_of_neg (by simp [h.1 c rfl])
  rw [trim, hstart]
  exact dropEndWhile_eq_self h.2

theorem trim_eq_self {t : Text} (h : ∀ c ∈ t, isBlank c = false) : trim t = t :=
  trim_of_trimmed
    ⟨fun c hc => h c (List.mem_of_mem_head? hc), fun c hc => h c (List.mem_of_mem_getLast? hc)⟩

/-- A scan over characters of a class stops at the first character outside it. -/
theorem takeWhile_append_of_boundary {p : Char → Bool} {s t : Text} (hs : ∀ c ∈ s, p c = true)
    (ht : ∀ c ∈ t.head?, p c = false) : (s ++ t).takeWhile p = s := by
  rw [List.takeWhile_append_of_pos hs]
  cases t with
  | nil => simp
  | cons c rest => rw [List.takeWhile_cons_of_neg (by simp [ht c rfl]), List.append_nil]

theorem dropWhile_append_of_boundary {p : Char → Bool} {s t : Text} (hs : ∀ c ∈ s, p c = true)
    (ht : ∀ c ∈ t.head?, p c = false) : (s ++ t).dropWhile p = t := by
  rw [List.dropWhile_append_of_pos hs]
  cases t with
  | nil => rfl
  | cons c rest => exact List.dropWhile_cons_of_neg (by simp [ht c rfl])

theorem dropEndWhile_append_cons {p : Char → Bool} {c : Char} (hc : p c = false)
    (s t : Text) : dropEndWhile p (s ++ c :: t) = s ++ c :: dropEndWhile p t := by
  have hsplit : (s ++ c :: t).reverse = t.reverse ++ (c :: s.reverse) := by simp
  rw [dropEndWhile, hsplit, List.dropWhile_append]
  split
  · rename_i hnil
    rw [dropEndWhile, List.isEmpty_iff.mp hnil, List.dropWhile_cons_of_neg (by simp [hc])]
    simp
  · simp [dropEndWhile]

/-- What stands in front of a text does not change how its end is cut, unless all of it is cut. -/
theorem dropEndWhile_append_left {p : Char → Bool} {t : Text} (h : dropEndWhile p t ≠ [])
    (s : Text) : dropEndWhile p (s ++ t) = s ++ dropEndWhile p t := by
  have hkept : ∃ c ∈ t, p c = false := by
    by_contra hall
    apply h
    change t.rdropWhile p = []
    rw [List.rdropWhile_eq_nil_iff]
    intro c hc
    by_contra hp
    exact hall ⟨c, hc, by simpa using hp⟩
  obtain ⟨c, hmem, hc⟩ := hkept
  obtain ⟨u, v, rfl⟩ := List.append_of_mem hmem
  rw [← List.append_assoc, dropEndWhile_append_cons hc, dropEndWhile_append_cons hc,
    List.append_assoc]

theorem trimEnd_append_of_allBlank {tail : Text} (htail : AllBlank tail) (t : Text) :
    trimEnd (t ++ tail) = trimEnd t := by
  rw [trimEnd, dropEndWhile, List.reverse_append, List.dropWhile_append_of_pos]
  · rfl
  · intro c hc
    exact htail c (List.mem_reverse.mp hc)

theorem trimEnd_append {t tail : Text} (ht : ∀ c ∈ t.getLast?, isBlank c = false)
    (htail : AllBlank tail) : trimEnd (t ++ tail) = t := by
  rw [trimEnd_append_of_allBlank htail]
  exact dropEndWhile_eq_self ht

/-- Blanks behind a text are no part of it once it is trimmed. -/
theorem trim_append_of_allBlank {tail : Text} (htail : AllBlank tail) (t : Text) :
    trim (t ++ tail) = trim t := by
  have hsplit : trimStart (t ++ tail) =
      if (trimStart t).isEmpty then trimStart tail else trimStart t ++ tail :=
    List.dropWhile_append
  rw [trim, hsplit]
  split
  · rename_i hempty
    rw [trim, List.isEmpty_iff.mp hempty, (trimStart_eq_nil_iff tail).mpr htail]
  · exact trimEnd_append_of_allBlank htail _

theorem trim_append {t tail : Text} (ht : ∀ c ∈ t, isBlank c = false) (htail : AllBlank tail) :
    trim (t ++ tail) = t := by
  rw [trim_append_of_allBlank htail, trim_eq_self ht]

theorem pieces_cons_self (separator : Char) (rest : Text) :
    pieces separator (separator :: rest) = [] :: pieces separator rest := by
  simp [pieces]

theorem exists_pieces_cons {separator c : Char} (hc : c ≠ separator) (rest : Text) :
    ∃ piece more, pieces separator rest = piece :: more ∧
      pieces separator (c :: rest) = (c :: piece) :: more := by
  cases hp : pieces separator rest with
  | nil => exact absurd hp (pieces_ne_nil separator rest)
  | cons piece more => exact ⟨piece, more, rfl, by simp [pieces, hc, hp]⟩

theorem not_mem_of_mem_pieces {separator : Char} {t piece : Text}
    (h : piece ∈ pieces separator t) : separator ∉ piece := by
  induction t generalizing piece with
  | nil =>
    have hp : piece = [] := List.mem_singleton.mp h
    simp [hp]
  | cons c rest ih =>
    by_cases hc : c = separator
    · subst hc
      rw [pieces_cons_self] at h
      rcases List.mem_cons.mp h with rfl | h
      · simp
      · exact ih h
    · obtain ⟨first, more, hrest, hall⟩ := exists_pieces_cons hc rest
      rw [hall] at h
      rcases List.mem_cons.mp h with rfl | h
      · have hfirst := ih (hrest ▸ List.mem_cons_self)
        simp [hfirst, Ne.symm hc]
      · exact ih (hrest ▸ List.mem_cons_of_mem first h)

theorem mem_of_mem_pieces {separator c : Char} {t piece : Text}
    (h : piece ∈ pieces separator t) (hc : c ∈ piece) : c ∈ t := by
  induction t generalizing piece with
  | nil =>
    have hp : piece = [] := List.mem_singleton.mp h
    simp [hp] at hc
  | cons d rest ih =>
    by_cases hd : d = separator
    · subst hd
      rw [pieces_cons_self] at h
      rcases List.mem_cons.mp h with rfl | h
      · simp at hc
      · exact List.mem_cons_of_mem d (ih h hc)
    · obtain ⟨first, more, hrest, hall⟩ := exists_pieces_cons hd rest
      rw [hall] at h
      rcases List.mem_cons.mp h with rfl | h
      · rcases List.mem_cons.mp hc with rfl | hc
        · exact List.mem_cons_self
        · exact List.mem_cons_of_mem d (ih (hrest ▸ List.mem_cons_self) hc)
      · exact List.mem_cons_of_mem d (ih (hrest ▸ List.mem_cons_of_mem first h) hc)

theorem join_cons_cons (separator first second : Text) (more : List Text) :
    join separator (first :: second :: more) =
      first ++ (separator ++ join separator (second :: more)) := by
  simp [join]

theorem pieces_append (separator : Char) (u v : Text) :
    pieces separator (u ++ separator :: v) = pieces separator u ++ pieces separator v := by
  induction u with
  | nil => rw [List.nil_append, pieces_cons_self]; rfl
  | cons c u ih =>
    rw [List.cons_append]
    by_cases hc : c = separator
    · rw [hc, pieces_cons_self, pieces_cons_self, ih, List.cons_append]
    · obtain ⟨piece, more, hpieces, hall⟩ := exists_pieces_cons hc (u ++ separator :: v)
      obtain ⟨piece', more', hpieces', hall'⟩ := exists_pieces_cons hc u
      rw [ih, hpieces', List.cons_append, List.cons.injEq] at hpieces
      rw [hall, hall', List.cons_append, ← hpieces.1, ← hpieces.2]

theorem length_pieces (separator : Char) (t : Text) :
    (pieces separator t).length = t.count separator + 1 := by
  induction t with
  | nil => rfl
  | cons c rest ih =>
    by_cases hc : c = separator
    · rw [hc, pieces_cons_self, List.length_cons, ih, List.count_cons_self]
    · obtain ⟨piece, more, hpieces, hall⟩ := exists_pieces_cons hc rest
      rw [hpieces] at ih
      rw [hall, List.count_cons_of_ne hc]
      exact ih

theorem pieces_of_not_mem {separator : Char} {t : Text} (h : separator ∉ t) :
    pieces separator t = [t] := by
  have hlength := length_pieces separator t
  rw [List.count_eq_zero_of_not_mem h] at hlength
  obtain ⟨piece, hpiece⟩ := List.length_eq_one_iff.mp hlength
  have hjoin := join_pieces separator t
  rw [hpiece] at hjoin ⊢
  simpa [join] using hjoin

/-- A text that is written line by line is cut into the same lines. -/
theorem pieces_flatMap_newline {u : Text} {lines : List Text} (hu : '\n' ∉ u)
    (hlines : ∀ line ∈ lines, '\n' ∉ line) :
    pieces '\n' (u ++ lines.flatMap ('\n' :: ·)) = u :: lines := by
  induction lines generalizing u with
  | nil => rw [List.flatMap_nil, List.append_nil, pieces_of_not_mem hu]
  | cons line rest ih =>
    rw [List.flatMap_cons, List.cons_append, pieces_append, pieces_of_not_mem hu,
      ih (hlines line List.mem_cons_self) fun l hl => hlines l (List.mem_cons_of_mem line hl)]
    rfl

end AsmCheck.Text
