import AsmCheck.Proofs.InertComments
import AsmCheck.Proofs.SectionPartition

/-!
# Markers in comments

Markers are looked for in the whole text, comments included. Line by line, a section is opened for
every marker in front of the first semicolon and for every marker behind it: a semicolon neither
hides a marker nor makes one. So no section is opened in a comment exactly if no comment of a line
holds a marker. This is the condition under which comments are inert.
-/

namespace AsmCheck

set_option autoImplicit false

/-- What a text has behind its last line feed. -/
def lastLine (t : Text) : Text := t.rtakeWhile (· != '\n')

/-- Whether the last line of a text has a semicolon, so that a comment goes on. -/
def commentOpen (t : Text) : Bool := (lastLine t).contains ';'

theorem commentOpen_append_singleton (t : Text) (c : Char) :
    commentOpen (t ++ [c]) = (c != '\n' && (c == ';' || commentOpen t)) := by
  by_cases hc : c = '\n'
  · subst hc
    simp [commentOpen, lastLine]
  · have hkept : (c != '\n') = true := by simpa using hc
    have hline : lastLine (t ++ [c]) = lastLine t ++ [c] :=
      List.rtakeWhile_concat_pos (· != '\n') t c hkept
    rw [hkept, Bool.true_and, Bool.eq_iff_iff]
    simp only [commentOpen, hline, List.contains_eq_mem, decide_eq_true_eq, List.mem_append,
      List.mem_singleton, Bool.or_eq_true, beq_iff_eq]
    rw [or_comm, @eq_comm _ ';' c]

namespace Section

/-- The offset of the marker of a section. -/
def offset (s : Section) : Nat := s.start - s.kind.marker.length

/-- Whether the line of a section's marker has a semicolon in front of the marker. -/
def inComment (t : Text) (s : Section) : Bool := commentOpen (t.take s.offset)

/-- The kinds of the sections of a text, in order. -/
def kinds (t : Text) : List SectionKind := (ofText t).map kind

theorem map_marker_ofMarkers (length : Nat) (markers : List (SectionKind × Nat)) :
    (ofMarkers length markers).map (fun s => (s.kind, s.offset)) = markers := by
  induction markers with
  | nil => rfl
  | cons m rest ih =>
    have hoffset : m.2 + m.1.marker.length - m.1.marker.length = m.2 := Nat.add_sub_cancel _ _
    rw [ofMarkers_cons, List.map_cons, ih, offset, hoffset]

theorem ofText_eq_nil_iff (t : Text) :
    ofText t = [] ↔ ∀ kind offset, ¬ MarkerAt t kind offset := by
  have hmarkers : ofText t = [] ↔ markersFrom 0 t = [] := by
    rw [← List.map_eq_nil_iff (f := fun s : Section => (s.kind, s.offset)), ofText,
      map_marker_ofMarkers]
  rw [hmarkers, List.eq_nil_iff_forall_not_mem]
  constructor
  · intro h kind offset hmarker
    exact h _ ((mem_markersFrom_zero_iff t kind offset).mpr hmarker)
  · rintro h ⟨kind, offset⟩ hmem
    exact h kind offset ((mem_markersFrom_zero_iff t kind offset).mp hmem)

theorem kinds_cons (c : Char) (rest : Text) :
    kinds (c :: rest) = (marker? (c :: rest)).toList ++ kinds rest := by
  rw [kinds, kinds, Division.kinds_eq, Division.kinds_eq, Division.ofText]
  cases marker? (c :: rest) with
  | none => rfl
  | some kind => rfl

end Section

/-- The kinds of the markers of a text that stand inside comments, or of those outside. The text
follows what has been read. -/
def kindsRead (inside : Bool) (read t : Text) : List SectionKind :=
  ((markersFrom read.length t).filter fun m =>
    commentOpen ((read ++ t).take m.2) == inside).map (·.1)

theorem kindsRead_cons (inside : Bool) (read : Text) (c : Char) (rest : Text) :
    kindsRead inside read (c :: rest) =
      (if commentOpen read == inside then (marker? (c :: rest)).toList else []) ++
        kindsRead inside (read ++ [c]) rest := by
  have hlength : (read ++ [c]).length = read.length + 1 := by simp
  have htext : read ++ [c] ++ rest = read ++ c :: rest := by simp
  have hhere : (read ++ c :: rest).take read.length = read := List.take_left
  rw [kindsRead, kindsRead, hlength, htext, markersFrom]
  cases marker? (c :: rest) with
  | none => simp
  | some kind =>
    simp only [List.filter_cons, hhere]
    split
    · rfl
    · rfl

/-- The part of a line that is inside comments, or the part outside. The line may start inside a
comment. -/
def lineShare (inside inComment : Bool) (line : Text) : Text :=
  match inside, inComment with
  | true, true => line
  | false, true => []
  | true, false => commentBody line
  | false, false => codePart line

theorem codePart_cons {c : Char} (hc : c ≠ ';') (line : Text) :
    codePart (c :: line) = c :: codePart line := by
  simp [codePart, Text.before, hc]

theorem sameHead_codePart (line : Text) : SameHead (codePart line) line := by
  induction line with
  | nil => exact .stop (by simp [codePart, Text.before]) (by simp)
  | cons c rest ih =>
    by_cases hc : c = ';'
    · subst hc
      exact .stop (by simp [codePart, Text.before])
        (fun d hd => Option.some.inj hd ▸ endsMarker_semicolon)
    · rw [codePart_cons hc]
      exact .cons c ih

/-- One character of a line belongs to one of its shares, and a semicolon to none that has a
marker. -/
theorem kinds_lineShare_cons (inside inComment : Bool) (c : Char) (line : Text) :
    Section.kinds (lineShare inside inComment (c :: line)) =
      (if inComment == inside then (marker? (c :: line)).toList else []) ++
        Section.kinds (lineShare inside (c == ';' || inComment) line) := by
  cases inComment with
  | true =>
    rw [Bool.or_true]
    cases inside with
    | true => exact Section.kinds_cons c line
    | false => rfl
  | false =>
    by_cases hc : c = ';'
    · subst hc
      cases inside with
      | true => rfl
      | false =>
        rw [marker?_of_ne (by decide)]
        rfl
    · have hsemicolon : (c == ';') = false := beq_eq_false_iff_ne.mpr hc
      rw [Bool.or_false, hsemicolon]
      cases inside with
      | true =>
        have hbody := commentBody_cons c line
        rw [hsemicolon, if_neg Bool.false_ne_true] at hbody
        rw [lineShare, hbody]
        rfl
      | false =>
        have hmarker := (SameHead.cons c (sameHead_codePart line)).marker?_eq
        rw [lineShare, codePart_cons hc, Section.kinds_cons, hmarker]
        rfl

theorem kinds_lineShare_nil (inside inComment : Bool) :
    Section.kinds (lineShare inside inComment []) = [] := by
  cases inside <;> cases inComment <;> rfl

/-- The markers of a text are those of its lines, share by share. What has been read decides whether
the first line starts inside a comment. -/
theorem kindsRead_eq (inside : Bool) (read : Text) {t piece : Text} {more : List Text}
    (h : Text.pieces '\n' t = piece :: more) :
    kindsRead inside read t =
      Section.kinds (lineShare inside (commentOpen read) piece) ++
        more.flatMap fun line => Section.kinds (lineShare inside false line) := by
  induction t generalizing read piece more with
  | nil =>
    obtain ⟨rfl, rfl⟩ := List.cons.inj h
    rw [kinds_lineShare_nil]
    rfl
  | cons c rest ih =>
    have hopen := commentOpen_append_singleton read c
    rw [kindsRead_cons]
    by_cases hc : c = '\n'
    · subst hc
      obtain ⟨first, others, hrest⟩ := exists_pieces_eq '\n' rest
      rw [Text.pieces_cons_self, hrest] at h
      obtain ⟨rfl, rfl⟩ := List.cons.inj h
      rw [ih _ hrest, hopen, marker?_of_ne (by decide), kinds_lineShare_nil, List.flatMap_cons]
      simp
    · obtain ⟨first, others, hrest, hall⟩ := Text.exists_pieces_cons hc rest
      have hmarker := marker?_pieces hall
      rw [hall] at h
      obtain ⟨rfl, rfl⟩ := List.cons.inj h
      have hline : (c != '\n') = true := by simpa using hc
      rw [hline, Bool.true_and] at hopen
      rw [ih _ hrest, hopen, hmarker, kinds_lineShare_cons, List.append_assoc]

theorem Section.kinds_filter (inside : Bool) (t : Text) :
    ((ofText t).filter fun s => s.inComment t == inside).map kind =
      (Document.lines t).flatMap fun line => kinds (lineShare inside false line) := by
  obtain ⟨piece, more, hpieces⟩ := exists_pieces_eq '\n' t
  have hread := kindsRead_eq inside [] hpieces
  have hmarkers : kindsRead inside [] t =
      ((ofText t).filter fun s => s.inComment t == inside).map kind := by
    rw [kindsRead, List.length_nil, List.nil_append,
      ← map_marker_ofMarkers t.length (markersFrom 0 t), List.filter_map, List.map_map]
    rfl
  rw [← hmarkers, hread, Document.lines, hpieces, List.flatMap_cons]
  rfl

/-- Sections are opened line by line, by the markers in front of the first semicolon and by those
behind it. The sections of a text are opened outside of comments exactly if no line has a marker
behind its first semicolon. -/
theorem comment_markers_open_sections (t : Text) :
    ((Section.ofText t).filter fun s => s.inComment t).map Section.kind =
        ((Document.lines t).flatMap fun line => (Section.ofText (commentBody line)).map Section.kind) ∧
      ((Section.ofText t).filter fun s => !s.inComment t).map Section.kind =
        ((Document.lines t).flatMap fun line => (Section.ofText (codePart line)).map Section.kind) ∧
      ((∀ s ∈ Section.ofText t, s.inComment t = false) ↔
        ∀ line ∈ Document.lines t, ∀ kind offset, ¬ MarkerAt (commentBody line) kind offset) := by
  have hcomments := Section.kinds_filter true t
  have hcode := Section.kinds_filter false t
  simp only [beq_true] at hcomments
  simp only [beq_false] at hcode
  refine ⟨hcomments, hcode, ?_⟩
  have hnone : (∀ s ∈ Section.ofText t, s.inComment t = false) ↔
      ((Section.ofText t).filter fun s => s.inComment t).map Section.kind = [] := by
    simp [List.filter_eq_nil_iff]
  rw [hnone, hcomments, List.flatMap_eq_nil_iff]
  refine forall₂_congr fun line _ => ?_
  rw [← Section.ofText_eq_nil_iff]
  exact List.map_eq_nil_iff

/-- A comment in a memory section ends it: the section that its marker opens is read as code, and
the rest of the comment is reported as an instruction. -/
theorem comment_markers_open_sections_memory :
    let t := ".memory\n00ff ; see .code below\n".toList
    Section.ofText t = [⟨.memory, 7, 19⟩, ⟨.code, 24, 31⟩] ∧
      (Document.read none t).diagnostics.length = 1 ∧
      ¬ ∀ t, ∀ s ∈ Section.ofText t, s.inComment t = false := by
  intro t
  have hsections : Section.ofText t = [⟨.memory, 7, 19⟩, ⟨.code, 24, 31⟩] := by decide +kernel
  refine ⟨hsections, by decide +kernel, ?_⟩
  intro h
  have hcode := h t ⟨.code, 24, 31⟩ (by rw [hsections]; simp)
  exact absurd hcode (by decide +kernel)

end AsmCheck
