import AsmCheck.Proofs.DocumentOrder

/-!
# The partition into sections

A text is tiled by its sections: behind the opening every character belongs to one marker or to the
body of one section. The markers are exactly the places where a dot, the name of a section and no
word character follow one another. A cut between two tiles makes no new marker, since the next tile
starts with a dot, which is no word character, so neither the opening nor a body holds a marker.
-/

namespace AsmCheck

set_option autoImplicit false

/-- At an offset of a text stands a dot and the name of a section, and behind the name the text ends
or goes on with a character that is no word character. -/
def MarkerAt (t : Text) (kind : SectionKind) (offset : Nat) : Prop :=
  ∃ rest, t.drop offset = '.' :: kind.name.toList ++ rest ∧
    ∀ c ∈ rest.head?, Text.isWordChar c = false

theorem mem_markersFrom_iff (offset : Nat) (t : Text) (kind : SectionKind) (i : Nat) :
    (kind, i) ∈ markersFrom offset t ↔
      offset ≤ i ∧ marker? (t.drop (i - offset)) = some kind := by
  induction t generalizing offset with
  | nil =>
    have hnone : marker? [] = none := rfl
    simp [markersFrom, hnone]
  | cons c rest ih =>
    have hhere : marker? ((c :: rest).drop (offset - offset)) = marker? (c :: rest) := by
      rw [Nat.sub_self, List.drop_zero]
    have hlater : offset + 1 ≤ i → (c :: rest).drop (i - offset) = rest.drop (i - (offset + 1)) := by
      intro hi
      have hdistance : i - offset = i - (offset + 1) + 1 := by omega
      rw [hdistance, List.drop_succ_cons]
    have htail : (kind, i) ∈ markersFrom (offset + 1) rest ↔
        offset + 1 ≤ i ∧ marker? ((c :: rest).drop (i - offset)) = some kind := by
      rw [ih]
      constructor
      · rintro ⟨hi, hmarker⟩
        exact ⟨hi, by rw [hlater hi]; exact hmarker⟩
      · rintro ⟨hi, hmarker⟩
        exact ⟨hi, by rw [← hlater hi]; exact hmarker⟩
    have hsplit : offset ≤ i ↔ i = offset ∨ offset + 1 ≤ i := by omega
    rw [hsplit, or_and_right, ← htail, markersFrom]
    cases hkind : marker? (c :: rest) with
    | none =>
      have hnot : ¬ (i = offset ∧ marker? ((c :: rest).drop (i - offset)) = some kind) := by
        rintro ⟨rfl, hmarker⟩
        rw [hhere, hkind] at hmarker
        exact absurd hmarker (by simp)
      simp only [hnot, false_or]
    | some found =>
      simp only [List.mem_cons, Prod.mk.injEq]
      apply or_congr_left
      constructor
      · rintro ⟨rfl, rfl⟩
        exact ⟨rfl, by rw [hhere, hkind]⟩
      · rintro ⟨rfl, hmarker⟩
        rw [hhere, hkind] at hmarker
        exact ⟨(Option.some.inj hmarker).symm, rfl⟩

theorem mem_markersFrom_zero_iff (t : Text) (kind : SectionKind) (offset : Nat) :
    (kind, offset) ∈ markersFrom 0 t ↔ MarkerAt t kind offset := by
  rw [mem_markersFrom_iff, marker?_eq_some_iff, startsSection_iff, kind.marker_eq]
  simp [MarkerAt]

namespace Section

theorem exists_section_iff (length : Nat) (markers : List (SectionKind × Nat)) (kind : SectionKind)
    (offset : Nat) :
    (∃ s ∈ ofMarkers length markers, s.kind = kind ∧ s.start = offset + kind.marker.length) ↔
      (kind, offset) ∈ markers := by
  induction markers with
  | nil => simp [ofMarkers]
  | cons m rest ih =>
    simp only [ofMarkers_cons, List.mem_cons, exists_eq_or_imp, ih]
    apply or_congr_left
    obtain ⟨kind', offset'⟩ := m
    simp only [Prod.mk.injEq]
    constructor
    · rintro ⟨rfl, hstart⟩
      exact ⟨rfl, by omega⟩
    · rintro ⟨rfl, rfl⟩
      exact ⟨rfl, rfl⟩

/-- From the given offset on, a text consists of the given sections, each with its marker in front
of it. -/
inductive Tiled (t : Text) : Nat → List Section → Prop where
  | stop : Tiled t t.length []
  | cons {offset : Nat} {s : Section} {rest : List Section} :
      t.drop offset = s.kind.marker ++ t.drop s.start →
      s.start = offset + s.kind.marker.length → s.start ≤ s.stop →
      Tiled t s.stop rest → Tiled t offset (s :: rest)

theorem tiled_ofMarkers {t : Text} {markers : List (SectionKind × Nat)}
    (hmarkers : ∀ m ∈ markers, marker? (t.drop m.2) = some m.1)
    (hseparate : markers.Pairwise fun a b => a.2 + a.1.marker.length ≤ b.2)
    (hlength : ∀ m ∈ markers, m.2 + m.1.marker.length ≤ t.length) :
    Tiled t (stopBefore t.length markers) (ofMarkers t.length markers) := by
  induction markers with
  | nil => exact .stop
  | cons m rest ih =>
    obtain ⟨hfirst, hrest⟩ := List.pairwise_cons.mp hseparate
    rw [ofMarkers_cons]
    refine .cons ?_ rfl ?_ (ih (fun m' hm' => hmarkers m' (List.mem_cons_of_mem m hm')) hrest
      fun m' hm' => hlength m' (List.mem_cons_of_mem m hm'))
    · obtain ⟨tail, htail⟩ := eq_append_of_marker? (hmarkers m List.mem_cons_self)
      change t.drop m.2 = m.1.marker ++ t.drop (m.2 + m.1.marker.length)
      rw [← List.drop_drop, htail, List.drop_left]
    · cases rest with
      | nil => exact hlength m List.mem_cons_self
      | cons next more => exact hfirst next List.mem_cons_self

/-- The offset at which the first marker of a text stands, or the end of the text. -/
def openingLength (t : Text) : Nat := stopBefore t.length (markersFrom 0 t)

theorem tiled_ofText (t : Text) : Tiled t (openingLength t) (ofText t) := by
  apply tiled_ofMarkers _ (markersFrom_separate 0 t)
  · intro m hm
    have hbounds := (markersFrom_bounds hm).2
    omega
  · intro m hm
    exact ((mem_markersFrom_iff 0 t m.1 m.2).mp hm).2

namespace Tiled

variable {t : Text} {offset : Nat} {sections : List Section}

theorem drop_eq (h : Tiled t offset sections) :
    t.drop offset = sections.flatMap fun s => '.' :: s.kind.name.toList ++ s.body t := by
  induction h with
  | stop => simp
  | @cons offset s rest hmarker _ hle _ ih =>
    have hbody : s.body t ++ t.drop s.stop = t.drop s.start := (Text.drop_eq_slice_append hle t).symm
    rw [hmarker, ← hbody, ih, List.flatMap_cons, s.kind.marker_eq, List.append_assoc]

theorem offset_le (h : Tiled t offset sections) : offset ≤ t.length := by
  induction h with
  | stop => exact Nat.le_refl _
  | cons _ hstart hle _ ih => omega

theorem lt_start (h : Tiled t offset sections) {s : Section} (hs : s ∈ sections) :
    offset < s.start := by
  induction h with
  | stop => simp at hs
  | @cons offset first rest _ hstart hle _ ih =>
    have hpos := first.kind.marker_length_pos
    rcases List.mem_cons.mp hs with rfl | hs
    · omega
    · have hlater := ih hs
      omega

theorem start_eq (h : Tiled t offset sections) :
    ∀ s ∈ sections.head?, s.start = offset + ('.' :: s.kind.name.toList).length := by
  intro s hs
  cases h with
  | stop => simp at hs
  | cons _ hstart _ _ =>
    rw [← Option.some.inj hs, ← SectionKind.marker_eq]
    exact hstart

theorem adjacent (h : Tiled t offset sections) :
    sections.IsChain fun a b => b.start = a.stop + ('.' :: b.kind.name.toList).length := by
  induction h with
  | stop => exact .nil
  | @cons offset s rest _ _ _ hrest ih =>
    cases rest with
    | nil => exact .singleton s
    | cons next more => exact .cons_cons (hrest.start_eq next rfl) ih

theorem eq_length (h : Tiled t offset []) : offset = t.length := by
  cases h with
  | stop => rfl

theorem last_stop (h : Tiled t offset sections) : ∀ s ∈ sections.getLast?, s.stop = t.length := by
  induction h with
  | stop => simp
  | @cons offset s rest _ _ _ hrest ih =>
    cases rest with
    | nil =>
      intro last hlast
      rw [← Option.some.inj hlast]
      exact hrest.eq_length
    | cons next more =>
      rw [List.getLast?_cons_cons]
      exact ih

/-- Behind the offset a marker follows or nothing. -/
theorem head?_drop (h : Tiled t offset sections) : ∀ c ∈ (t.drop offset).head?, c = '.' := by
  intro c hc
  cases h with
  | stop => simp at hc
  | cons hmarker _ _ _ =>
    rw [hmarker, SectionKind.marker_eq] at hc
    exact (Option.some.inj hc).symm

theorem exists_after (h : Tiled t offset sections) {s : Section} (hs : s ∈ sections) :
    ∃ rest, Tiled t s.stop rest := by
  induction h with
  | stop => simp at hs
  | @cons offset first rest _ _ _ hrest ih =>
    rcases List.mem_cons.mp hs with rfl | hs
    · exact ⟨rest, hrest⟩
    · exact ih hs

end Tiled

end Section

/-- A marker in a part of a text that ends in front of a dot, or with the text, is a marker of the
text. -/
theorem MarkerAt.of_slice {t : Text} {start stop : Nat} (hle : start ≤ stop)
    (hstop : ∀ c ∈ (t.drop stop).head?, c = '.') {kind : SectionKind} {offset : Nat}
    (h : MarkerAt ((t.drop start).take (stop - start)) kind offset) :
    MarkerAt t kind (start + offset) ∧ start + offset + kind.marker.length ≤ stop := by
  obtain ⟨rest, hrest, hfollow⟩ := h
  have hlength := congrArg List.length hrest
  have hpos := kind.marker_length_pos
  rw [← kind.marker_eq, List.length_append, List.length_drop, List.length_take] at hlength
  have hinside : offset ≤ ((t.drop start).take (stop - start)).length := by
    rw [List.length_take]
    omega
  refine ⟨⟨rest ++ t.drop stop, ?_, ?_⟩, by omega⟩
  · rw [← List.drop_drop, Text.drop_eq_slice_append hle, List.drop_append_of_le_length hinside,
      hrest, List.append_assoc]
  · intro c hc
    cases rest with
    | nil =>
      rw [hstop c hc]
      decide
    | cons d rest => exact hfollow c hc

/-- What the sections of a text say about it. -/
structure Partition (t opening : Text) (sections : List Section) : Prop where
  bounds : ∀ s ∈ sections, s.start ≤ s.stop ∧ s.stop ≤ t.length
  ordered : sections.Pairwise fun a b => a.stop < b.start
  last : ∀ s ∈ sections.getLast?, s.stop = t.length
  text_eq : t = opening ++ sections.flatMap fun s => '.' :: s.kind.name.toList ++ s.body t
  /-- The first marker stands behind the opening, and every other one behind a section. -/
  first_marker : ∀ s ∈ sections.head?,
    s.start = opening.length + ('.' :: s.kind.name.toList).length
  next_marker : sections.IsChain fun a b =>
    b.start = a.stop + ('.' :: b.kind.name.toList).length
  /-- Every marker of the text opens a section of its kind. -/
  marker_iff : ∀ kind offset, MarkerAt t kind offset ↔
    ∃ s ∈ sections, s.kind = kind ∧ s.start = offset + ('.' :: kind.name.toList).length
  opening_free : ∀ kind offset, ¬ MarkerAt opening kind offset
  body_free : ∀ s ∈ sections, ∀ kind offset, ¬ MarkerAt (s.body t) kind offset

namespace Section

variable {t : Text}

theorem markerAt_iff (kind : SectionKind) (offset : Nat) :
    MarkerAt t kind offset ↔
      ∃ s ∈ ofText t, s.kind = kind ∧ s.start = offset + kind.marker.length := by
  rw [← mem_markersFrom_zero_iff, ofText, exists_section_iff]

/-- A section does not start within another one. -/
theorem not_start_within {s s' : Section} (hs : s ∈ ofText t) (hs' : s' ∈ ofText t)
    (hstart : s.start < s'.start) : s.stop < s'.start := by
  obtain ⟨before, after, hsections⟩ := List.append_of_mem hs
  have hseparate := ofText_separate t
  have hbounds := (ofText_bounds hs').1
  rw [hsections, List.pairwise_append, List.pairwise_cons] at hseparate
  obtain ⟨_, ⟨hafter, _⟩, hbefore⟩ := hseparate
  rw [hsections] at hs'
  rcases List.mem_append.mp hs' with hmem | hmem
  · have hfront := hbefore s' hmem s List.mem_cons_self
    omega
  · rcases List.mem_cons.mp hmem with rfl | hmem
    · omega
    · exact hafter s' hmem

theorem opening_markerFree (kind : SectionKind) (offset : Nat) :
    ¬ MarkerAt (t.take (openingLength t)) kind offset := by
  have htiled := tiled_ofText t
  intro h
  have hslice : MarkerAt ((t.drop 0).take (openingLength t - 0)) kind offset := h
  obtain ⟨hmarker, hle⟩ := hslice.of_slice (Nat.zero_le _) htiled.head?_drop
  obtain ⟨s, hs, _, hstart⟩ := (markerAt_iff kind _).mp hmarker
  have hlt := htiled.lt_start hs
  omega

theorem body_markerFree {s : Section} (hs : s ∈ ofText t) (kind : SectionKind) (offset : Nat) :
    ¬ MarkerAt (s.body t) kind offset := by
  obtain ⟨rest, htiled⟩ := (tiled_ofText t).exists_after hs
  intro h
  obtain ⟨hmarker, hle⟩ := h.of_slice (ofText_bounds hs).1 htiled.head?_drop
  obtain ⟨s', hs', _, hstart⟩ := (markerAt_iff kind _).mp hmarker
  have hpos := kind.marker_length_pos
  have hlt := not_start_within hs hs' (by omega)
  omega

end Section

/-- The sections of a text partition it. Behind a part without markers they follow one another up to
the end of the text, each behind its marker; every marker of the text opens one of them, and none
holds a marker of its own. -/
theorem sections_partition (t : Text) : ∃ opening, Partition t opening (Section.ofText t) := by
  have htiled := Section.tiled_ofText t
  have hlength : (t.take (Section.openingLength t)).length = Section.openingLength t := by
    rw [List.length_take, Nat.min_eq_left htiled.offset_le]
  exact ⟨t.take (Section.openingLength t),
    { bounds := fun s hs => Section.ofText_bounds hs
      ordered := Section.ofText_separate t
      last := htiled.last_stop
      text_eq := by rw [← htiled.drop_eq, List.take_append_drop]
      first_marker := by rw [hlength]; exact htiled.start_eq
      next_marker := htiled.adjacent
      marker_iff := fun kind offset => by rw [Section.markerAt_iff, kind.marker_eq]
      opening_free := Section.opening_markerFree
      body_free := fun s hs => Section.body_markerFree hs }⟩

end AsmCheck
