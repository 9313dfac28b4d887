import AsmCheck.Document
import AsmCheck.Proofs.Trimming
import Mathlib.Data.Prod.Lex

/-!
# Document order

Places of a document are ordered by line and column. Reading moves forward, markers do not overlap,
and at least the marker stands between two sections. Hence the items of a document follow one
another: each ends in front of the place where the next one starts, also where several sections
share a line.
-/

namespace AsmCheck

set_option autoImplicit false

/-- A line and a column, in this order of weight. -/
abbrev Place := Int ×ₗ Int

namespace Position

def place (p : Position) : Place := toLex ((p.line : Int), (p.column : Int))

theorem place_lt_nextLine (p : Position) (column : Int) :
    (toLex ((p.line : Int), column) : Place) < p.nextLine.place := by
  apply Prod.Lex.toLex_lt_toLex.mpr
  refine Or.inl ?_
  simp only [nextLine]
  omega

theorem place_lt_advance (p : Position) (c : Char) : p.place < (p.advance c).place := by
  unfold advance
  split
  · exact p.place_lt_nextLine p.column
  · apply Prod.Lex.toLex_lt_toLex.mpr
    refine Or.inr ⟨rfl, ?_⟩
    simp only
    omega

theorem place_le_after (p : Position) (t : Text) : p.place ≤ (p.after t).place := by
  induction t generalizing p with
  | nil => exact le_refl _
  | cons c rest ih => exact le_trans (p.place_lt_advance c).le (ih (p.advance c))

theorem place_lt_after (p : Position) {t : Text} (ht : t ≠ []) :
    p.place < (p.after t).place := by
  cases t with
  | nil => exact absurd rfl ht
  | cons c rest => exact lt_of_lt_of_le (p.place_lt_advance c) (place_le_after (p.advance c) rest)

theorem after_of_no_newline {t : Text} (ht : '\n' ∉ t) (p : Position) :
    p.after t = ⟨p.line, p.column + t.length⟩ := by
  induction t generalizing p with
  | nil => rfl
  | cons c rest ih =>
    have hc : c ≠ '\n' := fun heq => ht (heq ▸ List.mem_cons_self)
    have hrest : '\n' ∉ rest := fun hmem => ht (List.mem_cons_of_mem c hmem)
    rw [after_cons, ih hrest, advance, if_neg hc, List.length_cons, Nat.add_assoc,
      Nat.add_comm 1]

theorem after_newline (p : Position) (t : Text) : p.after ('\n' :: t) = p.nextLine.after t := by
  rw [after_cons, advance, if_pos rfl]
  rfl

theorem ofOffset_after (t : Text) {i j : Nat} (h : i ≤ j) :
    ofOffset t j = (ofOffset t i).after ((t.drop i).take (j - i)) := by
  unfold ofOffset
  rw [← after_append, ← List.take_add, Nat.add_sub_cancel' h]

theorem ofOffset_lt (t : Text) {i j : Nat} (h : i < j) (hj : j ≤ t.length) :
    (ofOffset t i).place < (ofOffset t j).place := by
  rw [ofOffset_after t h.le]
  apply place_lt_after
  apply List.ne_nil_of_length_pos
  rw [List.length_take, List.length_drop]
  omega

end Position

/-- Cutting a text at two offsets. -/
theorem Text.drop_eq_slice_append {start stop : Nat} (h : start ≤ stop) (t : Text) :
    t.drop start = (t.drop start).take (stop - start) ++ t.drop stop := by
  have hstop : t.drop stop = (t.drop start).drop (stop - start) := by
    rw [List.drop_drop, Nat.add_sub_cancel' h]
  rw [hstop, List.take_append_drop]

namespace SectionKind

theorem marker_eq (kind : SectionKind) : kind.marker = '.' :: kind.name.toList := by
  cases kind
  · rfl
  · rfl

theorem dot_not_mem_name (kind : SectionKind) : '.' ∉ kind.name.toList := by
  cases kind <;> decide

theorem marker_length_pos (kind : SectionKind) : 0 < kind.marker.length := by
  rw [marker_eq]
  exact Nat.succ_pos _

end SectionKind

theorem marker?_of_ne {c : Char} (hc : c ≠ '.') (rest : Text) : marker? (c :: rest) = none := by
  have hstart : ∀ kind : SectionKind, startsSection kind (c :: rest) = false := by
    intro kind
    cases kind <;> simp [startsSection, SectionKind.marker, Ne.symm hc]
  simp [marker?, hstart]

theorem startsSection_iff (kind : SectionKind) (t : Text) :
    startsSection kind t = true ↔
      ∃ rest, t = kind.marker ++ rest ∧ ∀ c ∈ rest.head?, Text.isWordChar c = false := by
  have hfollow : ∀ rest : Text, (!rest.head?.any Text.isWordChar) = true ↔
      ∀ c ∈ rest.head?, Text.isWordChar c = false := by
    intro rest
    cases rest with
    | nil => simp
    | cons c rest => simp
  rw [startsSection, Bool.and_eq_true, List.isPrefixOf_iff_prefix]
  constructor
  · rintro ⟨⟨rest, rfl⟩, hrest⟩
    rw [List.drop_left] at hrest
    exact ⟨rest, rfl, (hfollow rest).mp hrest⟩
  · rintro ⟨rest, rfl, hrest⟩
    rw [List.drop_left]
    exact ⟨⟨rest, rfl⟩, (hfollow rest).mpr hrest⟩

theorem marker?_eq_some_iff (t : Text) (kind : SectionKind) :
    marker? t = some kind ↔ startsSection kind t = true := by
  unfold marker?
  constructor
  · intro h
    split at h
    · rename_i hmemory
      rwa [← Option.some.inj h]
    · split at h
      · rename_i hcode
        rwa [← Option.some.inj h]
      · simp at h
  · intro h
    cases kind with
    | memory => rw [if_pos h]
    | code =>
      -- No text starts with both names, so the order in which they are tried does not count.
      have hmemory : startsSection .memory t = false := by
        obtain ⟨rest, rfl, _⟩ := (startsSection_iff .code t).mp h
        rfl
      rw [if_neg (by simp [hmemory]), if_pos h]

theorem eq_append_of_marker? {t : Text} {kind : SectionKind} (h : marker? t = some kind) :
    ∃ rest, t = kind.marker ++ rest := by
  obtain ⟨rest, ht, _⟩ := (startsSection_iff kind t).mp ((marker?_eq_some_iff t kind).mp h)
  exact ⟨rest, ht⟩

theorem markersFrom_skip {u : Text} (hu : '.' ∉ u) (offset : Nat) (rest : Text) :
    markersFrom offset (u ++ rest) = markersFrom (offset + u.length) rest := by
  induction u generalizing offset with
  | nil => rfl
  | cons c u ih =>
    have hc : c ≠ '.' := fun heq => hu (heq ▸ List.mem_cons_self)
    have hrest : '.' ∉ u := fun hmem => hu (List.mem_cons_of_mem c hmem)
    rw [List.cons_append, markersFrom, marker?_of_ne hc]
    simp only
    rw [ih hrest, List.length_cons, Nat.add_assoc, Nat.add_comm 1]

/-- After a marker the search goes on behind it, since a marker has one dot only. -/
theorem markersFrom_marker (kind : SectionKind) (offset : Nat) (rest : Text)
    (h : marker? (kind.marker ++ rest) = some kind) :
    markersFrom offset (kind.marker ++ rest) =
      (kind, offset) :: markersFrom (offset + kind.marker.length) rest := by
  rw [kind.marker_eq, List.cons_append] at h ⊢
  rw [markersFrom, h]
  simp only
  rw [markersFrom_skip kind.dot_not_mem_name, List.length_cons, Nat.add_assoc, Nat.add_comm 1]

theorem markersFrom_bounds {offset : Nat} {t : Text} {m : SectionKind × Nat}
    (h : m ∈ markersFrom offset t) :
    offset ≤ m.2 ∧ m.2 + m.1.marker.length ≤ offset + t.length := by
  induction t generalizing offset with
  | nil => simp [markersFrom] at h
  | cons c rest ih =>
    have hlater : m ∈ markersFrom (offset + 1) rest →
        offset ≤ m.2 ∧ m.2 + m.1.marker.length ≤ offset + (c :: rest).length := by
      intro hm
      have hbounds := ih hm
      rw [List.length_cons]
      omega
    rw [markersFrom] at h
    split at h
    · rename_i kind hkind
      rcases List.mem_cons.mp h with rfl | h
      · obtain ⟨tail, htail⟩ := eq_append_of_marker? hkind
        have hlen := congrArg List.length htail
        rw [List.length_append] at hlen
        exact ⟨Nat.le_refl _, by simp only; omega⟩
      · exact hlater h
    · exact hlater h

theorem markersFrom_separate (offset : Nat) (t : Text) :
    (markersFrom offset t).Pairwise fun a b => a.2 + a.1.marker.length ≤ b.2 := by
  induction t generalizing offset with
  | nil => exact .nil
  | cons c rest ih =>
    cases hkind : marker? (c :: rest) with
    | none =>
      rw [markersFrom, hkind]
      exact ih (offset + 1)
    | some kind =>
      obtain ⟨tail, htail⟩ := eq_append_of_marker? hkind
      have hlater : ∀ m ∈ markersFrom (offset + 1) rest, offset + kind.marker.length ≤ m.2 := by
        have hall := markersFrom_marker kind offset tail (htail ▸ hkind)
        rw [← htail, markersFrom, hkind, List.cons.injEq] at hall
        intro m hm
        rw [hall.2] at hm
        exact (markersFrom_bounds hm).1
      rw [markersFrom, hkind]
      exact List.pairwise_cons.mpr ⟨hlater, ih (offset + 1)⟩

namespace Section

/-- Where a section ends in a text of the given length, if the given markers follow it. -/
def stopBefore (length : Nat) : List (SectionKind × Nat) → Nat
  | [] => length
  | next :: _ => next.2

theorem ofMarkers_cons (length : Nat) (m : SectionKind × Nat) (rest : List (SectionKind × Nat)) :
    ofMarkers length (m :: rest) =
      ⟨m.1, m.2 + m.1.marker.length, stopBefore length rest⟩ :: ofMarkers length rest := by
  cases rest <;> rfl

theorem ofMarkers_start {length : Nat} {markers : List (SectionKind × Nat)} {s : Section}
    (h : s ∈ ofMarkers length markers) :
    ∃ m ∈ markers, s.start = m.2 + m.1.marker.length := by
  induction markers with
  | nil => simp [ofMarkers] at h
  | cons m rest ih =>
    rw [ofMarkers_cons] at h
    rcases List.mem_cons.mp h with rfl | h
    · exact ⟨m, List.mem_cons_self, rfl⟩
    · obtain ⟨other, hmem, hstart⟩ := ih h
      exact ⟨other, List.mem_cons_of_mem m hmem, hstart⟩

theorem ofMarkers_bounds {length : Nat} {markers : List (SectionKind × Nat)}
    (hseparate : markers.Pairwise fun a b => a.2 + a.1.marker.length ≤ b.2)
    (hlength : ∀ m ∈ markers, m.2 + m.1.marker.length ≤ length) {s : Section}
    (h : s ∈ ofMarkers length markers) : s.start ≤ s.stop ∧ s.stop ≤ length := by
  induction markers with
  | nil => simp [ofMarkers] at h
  | cons m rest ih =>
    obtain ⟨hfirst, hrest⟩ := List.pairwise_cons.mp hseparate
    rw [ofMarkers_cons] at h
    rcases List.mem_cons.mp h with rfl | h
    · cases rest with
      | nil => exact ⟨hlength m List.mem_cons_self, Nat.le_refl _⟩
      | cons next more =>
        have hnext := hlength next (by simp)
        exact ⟨hfirst next List.mem_cons_self, by simp only [stopBefore]; omega⟩
    · exact ih hrest (fun m' hm' => hlength m' (List.mem_cons_of_mem m hm')) h

theorem ofMarkers_separate {length : Nat} {markers : List (SectionKind × Nat)}
    (hseparate : markers.Pairwise fun a b => a.2 + a.1.marker.length ≤ b.2) :
    (ofMarkers length markers).Pairwise fun a b => a.stop < b.start := by
  induction markers with
  | nil => exact .nil
  | cons m rest ih =>
    obtain ⟨_, hrest⟩ := List.pairwise_cons.mp hseparate
    rw [ofMarkers_cons]
    refine List.pairwise_cons.mpr ⟨?_, ih hrest⟩
    intro s hs
    obtain ⟨m', hm', hstart⟩ := ofMarkers_start hs
    have hpos := m'.1.marker_length_pos
    cases rest with
    | nil => simp at hm'
    | cons next more =>
      simp only [stopBefore]
      rcases List.mem_cons.mp hm' with rfl | hlater
      · omega
      · have hnext := (List.pairwise_cons.mp hrest).1 m' hlater
        omega

theorem ofText_bounds {t : Text} {s : Section} (h : s ∈ ofText t) :
    s.start ≤ s.stop ∧ s.stop ≤ t.length := by
  apply ofMarkers_bounds (markersFrom_separate 0 t) _ h
  intro m hm
  have hbounds := (markersFrom_bounds hm).2
  omega

theorem ofText_separate (t : Text) : (ofText t).Pairwise fun a b => a.stop < b.start :=
  ofMarkers_separate (markersFrom_separate 0 t)

theorem ofOffset_stop {t : Text} {s : Section} (h : s ∈ ofText t) :
    Position.ofOffset t s.stop = (Position.ofOffset t s.start).after (s.body t) :=
  Position.ofOffset_after t (ofText_bounds h).1

end Section

namespace Item

/-- The place at which an item starts. -/
def first : Item → Place
  | .memory p _ => p.place
  | .line l => toLex (l.line, l.column)

/-- The place behind the last character of an item. -/
def last : Item → Place
  | .memory p body => (p.after body).place
  | .line l => toLex (l.line, l.column + l.text.length)

end Item

namespace SourceLine

/-- A place on a line is given by its distance from the start of the line. -/
theorem place_bounds (l : SourceLine) {distance : Int} (hstart : 0 ≤ distance)
    (hstop : distance ≤ l.text.length) :
    (Item.line l).first ≤ toLex (l.line, distance + l.column) ∧
      toLex (l.line, distance + l.column) ≤ (Item.line l).last := by
  constructor
  · apply Prod.Lex.toLex_le_toLex.mpr
    exact Or.inr ⟨rfl, by simp only; omega⟩
  · apply Prod.Lex.toLex_le_toLex.mpr
    exact Or.inr ⟨rfl, by simp only; omega⟩

theorem codeStart_eq (l : SourceLine) :
    (toLex (l.line, l.codeStart) : Place) = toLex (l.line, (Text.indent l.text : Int) + l.column) := by
  rw [codeStart, Int.add_comm]

theorem codeStart_bounds (l : SourceLine) :
    (Item.line l).first ≤ toLex (l.line, l.codeStart) ∧
      toLex (l.line, l.codeStart) ≤ (Item.line l).last := by
  have hindent := Text.indent_le_length l.text
  rw [codeStart_eq]
  exact l.place_bounds (by omega) (by omega)

end SourceLine

namespace Document

theorem linesFrom_cons (p : Position) (line : Text) (rest : List Text) :
    linesFrom p (line :: rest) =
      ⟨Text.dropEndWhile (· == '\r') line, p.line, p.column⟩ :: linesFrom p.nextLine rest := rfl

/-- The first line of a section may start inside a line of the document, and all others at the
column zero of their own line. -/
theorem linesFrom_bounds {p : Position} {piece : Text} {more : List Text}
    (hpieces : ∀ t ∈ piece :: more, '\n' ∉ t) {l : SourceLine}
    (h : l ∈ linesFrom p (piece :: more)) :
    p.place ≤ (Item.line l).first ∧
      (Item.line l).last ≤ (p.after (Text.join ['\n'] (piece :: more))).place := by
  induction more generalizing p piece with
  | nil =>
    have hpiece := hpieces piece List.mem_cons_self
    have hl : l = ⟨Text.dropEndWhile (· == '\r') piece, p.line, p.column⟩ :=
      List.mem_singleton.mp h
    subst hl
    refine ⟨le_refl _, ?_⟩
    have hjoin : Text.join ['\n'] [piece] = piece := by simp [Text.join]
    rw [hjoin, Position.after_of_no_newline hpiece]
    apply Prod.Lex.toLex_le_toLex.mpr
    refine Or.inr ⟨rfl, ?_⟩
    have hlen := Text.length_dropEndWhile_le (· == '\r') piece
    simp only
    omega
  | cons next more ih =>
    have hpiece := hpieces piece List.mem_cons_self
    have hafter : p.after (Text.join ['\n'] (piece :: next :: more)) =
        p.nextLine.after (Text.join ['\n'] (next :: more)) := by
      rw [Text.join_cons_cons, Position.after_append, Position.after_of_no_newline hpiece,
        List.singleton_append, Position.after_newline]
      rfl
    rw [hafter]
    rw [linesFrom_cons] at h
    rcases List.mem_cons.mp h with rfl | h
    · refine ⟨le_refl _, ?_⟩
      exact le_trans (p.place_lt_nextLine _).le (Position.place_le_after _ _)
    · have hbounds := ih (fun t ht => hpieces t (List.mem_cons_of_mem piece ht)) h
      exact ⟨le_trans (p.place_lt_nextLine _).le hbounds.1, hbounds.2⟩

theorem linesFrom_line_ge {p : Position} {pieces : List Text} {l : SourceLine}
    (h : l ∈ linesFrom p pieces) : (p.line : Int) ≤ l.line := by
  induction pieces generalizing p with
  | nil => simp [linesFrom] at h
  | cons piece rest ih =>
    rw [linesFrom_cons] at h
    rcases List.mem_cons.mp h with rfl | h
    · exact Int.le_refl _
    · have hline := ih h
      simp only [Position.nextLine] at hline
      omega

theorem linesFrom_separate (p : Position) (pieces : List Text) :
    (linesFrom p pieces).Pairwise fun a b => (Item.line a).last < (Item.line b).first := by
  induction pieces generalizing p with
  | nil => exact .nil
  | cons piece rest ih =>
    rw [linesFrom_cons]
    refine List.pairwise_cons.mpr ⟨?_, ih p.nextLine⟩
    intro l hl
    have hline := linesFrom_line_ge hl
    apply Prod.Lex.toLex_lt_toLex.mpr
    refine Or.inl ?_
    simp only [Position.nextLine] at hline ⊢
    omega

theorem sectionItems_bounds {t : Text} {s : Section} (hs : s ∈ Section.ofText t) {item : Item}
    (h : item ∈ sectionItems t s) :
    (Position.ofOffset t s.start).place ≤ item.first ∧
      item.last ≤ (Position.ofOffset t s.stop).place := by
  rw [Section.ofOffset_stop hs]
  unfold sectionItems at h
  simp only at h
  split at h
  · rw [List.mem_singleton.mp h]
    exact ⟨le_refl _, le_refl _⟩
  · obtain ⟨l, hl, rfl⟩ := List.mem_map.mp h
    cases hp : Text.pieces '\n' (s.body t) with
    | nil => exact absurd hp (Text.pieces_ne_nil '\n' (s.body t))
    | cons piece more =>
      have hpieces : ∀ u ∈ piece :: more, '\n' ∉ u := by
        intro u hu
        rw [← hp] at hu
        exact Text.not_mem_of_mem_pieces hu
      rw [hp] at hl
      have hbounds := linesFrom_bounds hpieces hl
      rwa [← hp, Text.join_pieces] at hbounds

theorem sectionItems_separate (t : Text) (s : Section) :
    (sectionItems t s).Pairwise fun a b => a.last < b.first := by
  unfold sectionItems
  simp only
  split
  · exact List.pairwise_singleton _ _
  · exact List.pairwise_map.mpr (linesFrom_separate _ _)

/-- Each item of a document ends in front of the place where the next one starts. -/
theorem items_separate (t : Text) : (items t).Pairwise fun a b => a.last < b.first := by
  apply List.pairwise_flatMap.mpr
  refine ⟨fun s _ => sectionItems_separate t s, ?_⟩
  apply (Section.ofText_separate t).imp_of_mem
  intro a b ha hb hab x hx y hy
  calc x.last ≤ (Position.ofOffset t a.stop).place := (sectionItems_bounds ha hx).2
    _ < (Position.ofOffset t b.start).place := by
        have hbounds := Section.ofText_bounds hb
        exact Position.ofOffset_lt t hab (hbounds.1.trans hbounds.2)
    _ ≤ y.first := (sectionItems_bounds hb hy).1

end Document

end AsmCheck
