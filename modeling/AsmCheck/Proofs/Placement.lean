import AsmCheck.Proofs.DocumentOrder
import AsmCheck.Proofs.Layout

/-!
# Placement

A document is its lines, and a position names a character of one of them. A text without a line
feed that starts at a position stands on the line of the position, from its column on. The lines of
code and the characters of a memory section are such texts, so their coordinates lead back to them.
-/

namespace AsmCheck

set_option autoImplicit false

/-- A span is cut from a line exactly if its text stands behind as many characters as it starts
at. -/
theorem Span.cutFrom_iff (line : Text) (span : Span) :
    span.CutFrom line ↔ ∃ x y, line = x ++ (span.text ++ y) ∧ span.start = x.length ∧
      span.stop = x.length + span.text.length := by
  constructor
  · rintro ⟨hstart, hle, hstop, htext⟩
    refine ⟨line.take span.start.toNat, line.drop span.stop.toNat, ?_, ?_, ?_⟩
    · have hmin : min span.start.toNat span.stop.toNat = span.start.toNat := by omega
      have hfirst : line.take span.start.toNat =
          (line.take span.stop.toNat).take span.start.toNat := by rw [List.take_take, hmin]
      rw [htext, hfirst, ← List.append_assoc, List.take_append_drop, List.take_append_drop]
    · rw [List.length_take]
      omega
    · rw [htext, List.length_take, List.length_drop, List.length_take]
      omega
  · rintro ⟨x, y, hline, hstart, hstop⟩
    have hx : span.start.toNat = x.length := by omega
    have hxt : span.stop.toNat = (x ++ span.text).length := by
      rw [List.length_append]
      omega
    have hlen := congrArg List.length hline
    simp only [List.length_append] at hlen
    refine ⟨by omega, by omega, by omega, ?_⟩
    rw [hx, hxt, hline, ← List.append_assoc, List.take_left, List.drop_left]

theorem Span.CutFrom.left {line u v : Text} {start stop : Int}
    (h : Span.CutFrom line ⟨start, stop, u ++ v⟩) : (Span.ofText start u).CutFrom line := by
  obtain ⟨x, y, hline, hstart, _⟩ := (Span.cutFrom_iff _ _).mp h
  refine (Span.cutFrom_iff _ _).mpr ⟨x, v ++ y, ?_, hstart, ?_⟩
  · rw [hline]
    simp [Span.ofText]
  · change start = x.length at hstart
    simp only [Span.ofText, hstart]

theorem Span.CutFrom.append {line : Text} {span : Span} (h : span.CutFrom line) (rest : Text) :
    span.CutFrom (line ++ rest) := by
  obtain ⟨x, y, hline, hstart, hstop⟩ := (Span.cutFrom_iff _ _).mp h
  exact (Span.cutFrom_iff _ _).mpr ⟨x, y ++ rest, by simp [hline], hstart, hstop⟩

namespace Document

def lines (t : Text) : List Text := Text.pieces '\n' t

/-- The document has the given line, counted from one, and the span is cut from it. -/
def Holds (t : Text) (line : Int) (span : Span) : Prop :=
  ∃ (i : Nat) (content : Text), line = i + 1 ∧ (lines t)[i]? = some content ∧ span.CutFrom content

namespace Holds

variable {t v : Text} {line column : Int}

/-- What is cut from a text that the document holds is held by the document. -/
theorem slice (h : Holds t line (Span.ofText column v)) {span : Span} (hspan : span.CutFrom v) :
    Holds t line ⟨column + span.start, column + span.stop, span.text⟩ := by
  obtain ⟨i, content, hline, hi, hcut⟩ := h
  obtain ⟨x, y, hcontent, hx, _⟩ := (Span.cutFrom_iff _ _).mp hcut
  obtain ⟨x', y', hv, hx', hstop⟩ := (Span.cutFrom_iff _ _).mp hspan
  refine ⟨i, content, hline, hi, (Span.cutFrom_iff _ _).mpr ⟨x ++ x', y' ++ y, ?_, ?_, ?_⟩⟩
  · rw [hcontent]
    change x ++ (v ++ y) = _
    rw [hv]
    simp
  · change column = x.length at hx
    rw [List.length_append]
    simp only
    omega
  · change column = x.length at hx
    rw [List.length_append]
    simp only
    omega

theorem sliceText (h : Holds t line (Span.ofText column v)) {start : Int} {u : Text}
    (hu : (Span.ofText start u).CutFrom v) : Holds t line (Span.ofText (column + start) u) := by
  have hslice := h.slice hu
  simp only [Span.ofText] at hslice ⊢
  rwa [Int.add_assoc]

theorem range (h : Holds t line (Span.ofText column v)) {start stop : Int} (hstart : 0 ≤ start)
    (hle : start ≤ stop) (hstop : stop ≤ v.length) :
    ∃ content, Holds t line ⟨start + column, stop + column, content⟩ := by
  have hcut : Span.CutFrom v ⟨start, stop, (v.take stop.toNat).drop start.toNat⟩ :=
    ⟨hstart, hle, hstop, rfl⟩
  rw [Int.add_comm start, Int.add_comm stop]
  exact ⟨_, h.slice hcut⟩

end Holds

end Document

namespace Text

theorem exists_pieces_append {separator : Char} {v : Text} (hv : separator ∉ v) (w : Text) :
    ∃ y more, pieces separator (v ++ w) = (v ++ y) :: more := by
  induction v with
  | nil =>
    cases hw : pieces separator w with
    | nil => exact absurd hw (pieces_ne_nil separator w)
    | cons y more => exact ⟨y, more, hw⟩
  | cons c v ih =>
    have hc : c ≠ separator := fun heq => hv (heq ▸ List.mem_cons_self)
    obtain ⟨y, more, hrest⟩ := ih fun hmem => hv (List.mem_cons_of_mem c hmem)
    obtain ⟨piece, others, hpiece, hall⟩ := exists_pieces_cons hc (v ++ w)
    rw [hrest, List.cons.injEq] at hpiece
    refine ⟨y, others, ?_⟩
    rw [List.cons_append, hall, ← hpiece.1]
    rfl

end Text

namespace Position

theorem line_le_after (p : Position) (t : Text) : p.line ≤ (p.after t).line := by
  induction t generalizing p with
  | nil => exact Nat.le_refl _
  | cons c rest ih =>
    refine Nat.le_trans ?_ (ih (p.advance c))
    unfold advance
    split
    · exact Nat.le_succ _
    · exact Nat.le_refl _

/-- The piece at a position: reading moves as many lines down as pieces are passed, and the column
counts the characters of the piece that are passed. A start inside a line counts on the first piece
only. -/
theorem exists_piece_after (p : Position) (u : Text) {v : Text} (hv : '\n' ∉ v) (w : Text) :
    ∃ x y, (Text.pieces '\n' (u ++ (v ++ w)))[(p.after u).line - p.line]? = some (x ++ (v ++ y)) ∧
      (p.after u).column = x.length + if (p.after u).line = p.line then p.column else 0 := by
  induction u generalizing p with
  | nil =>
    obtain ⟨y, more, hpieces⟩ := Text.exists_pieces_append hv w
    refine ⟨[], y, ?_, by simp⟩
    rw [after_nil, Nat.sub_self, List.nil_append, hpieces]
    rfl
  | cons c u ih =>
    obtain ⟨x, y, hpiece, hcolumn⟩ := ih (p.advance c)
    have hle := (p.advance c).line_le_after u
    rw [after_cons, List.cons_append]
    by_cases hc : c = '\n'
    · subst hc
      have hline : (p.advance '\n').line = p.line + 1 := rfl
      have hcol : (p.advance '\n').column = 0 := rfl
      rw [hline] at hpiece hcolumn hle
      have hindex : ((p.advance '\n').after u).line - p.line =
          ((p.advance '\n').after u).line - (p.line + 1) + 1 := by omega
      refine ⟨x, y, ?_, ?_⟩
      · rw [Text.pieces_cons_self, hindex, List.getElem?_cons_succ]
        exact hpiece
      · rw [hcolumn, hcol, if_neg (by omega : ¬ ((p.advance '\n').after u).line = p.line)]
        simp
    · have hadvance : p.advance c = ⟨p.line, p.column + 1⟩ := if_neg hc
      obtain ⟨piece, more, hrest, hall⟩ := Text.exists_pieces_cons hc (u ++ (v ++ w))
      rw [hrest] at hpiece
      rw [hadvance] at hpiece hcolumn hle ⊢
      simp only at hpiece hcolumn hle ⊢
      rw [hall]
      cases hindex : (Position.after ⟨p.line, p.column + 1⟩ u).line - p.line with
      | zero =>
        rw [hindex, List.getElem?_cons_zero] at hpiece
        refine ⟨c :: x, y, ?_, ?_⟩
        · rw [List.getElem?_cons_zero, Option.some.inj hpiece]
          rfl
        · rw [hcolumn, if_pos (by omega), if_pos (by omega), List.length_cons]
          omega
      | succ k =>
        rw [hindex, List.getElem?_cons_succ] at hpiece
        refine ⟨x, y, ?_, ?_⟩
        · rw [List.getElem?_cons_succ]
          exact hpiece
        · rw [hcolumn, if_neg (by omega), if_neg (by omega)]

end Position

namespace Document

/-- A text without a line feed stands at the position to which the text before it leads. -/
theorem holds_of_split {t u v w : Text} (ht : t = u ++ (v ++ w)) (hv : '\n' ∉ v) :
    Holds t (Position.start.after u).line (Span.ofText (Position.start.after u).column v) := by
  obtain ⟨x, y, hpiece, hcolumn⟩ := Position.start.exists_piece_after u hv w
  have hline := Position.start.line_le_after u
  have hstart : Position.start.line = 1 := rfl
  have hzero : Position.start.column = 0 := rfl
  rw [hstart] at hpiece hcolumn hline
  rw [hzero, ite_self, Nat.add_zero] at hcolumn
  refine ⟨(Position.start.after u).line - 1, x ++ (v ++ y), by omega, by rw [ht]; exact hpiece, ?_⟩
  exact (Span.cutFrom_iff _ _).mpr ⟨x, y, rfl, by simp [Span.ofText, hcolumn],
    by simp [Span.ofText, hcolumn]⟩

end Document

namespace Section

theorem text_eq {t : Text} {s : Section} (h : s ∈ ofText t) :
    t = t.take s.start ++ (s.body t ++ t.drop s.stop) := by
  rw [body, ← Text.drop_eq_slice_append (ofText_bounds h).1, List.take_append_drop]

/-- A part of a section stands in the document behind the text before the section. -/
theorem exists_split {t u v w : Text} {s : Section} (h : s ∈ ofText t)
    (hbody : s.body t = u ++ (v ++ w)) :
    ∃ u' w', t = u' ++ (v ++ w') ∧
      Position.start.after u' = (Position.ofOffset t s.start).after u := by
  refine ⟨t.take s.start ++ u, w ++ t.drop s.stop, ?_, Position.after_append _ _ _⟩
  have ht := text_eq h
  rw [hbody] at ht
  simpa using ht

end Section

namespace Document

theorem linesFrom_split {p : Position} {piece : Text} {more : List Text}
    (hpieces : ∀ t ∈ piece :: more, '\n' ∉ t) {l : SourceLine}
    (h : l ∈ linesFrom p (piece :: more)) :
    ∃ u w, Text.join ['\n'] (piece :: more) = u ++ (l.text ++ w) ∧ '\n' ∉ l.text ∧
      l.line = (p.after u).line ∧ l.column = (p.after u).column := by
  -- The induction follows the pieces; `u` collects those that are passed.
  have hhere : ∀ piece : Text, '\n' ∉ piece →
      ∃ ending, piece = Text.dropEndWhile (· == '\r') piece ++ ending ∧
        '\n' ∉ Text.dropEndWhile (· == '\r') piece := by
    intro piece hpiece
    obtain ⟨ending, heq, _⟩ := Text.dropEndWhile_append (· == '\r') piece
    refine ⟨ending, heq, fun hmem => hpiece ?_⟩
    rw [heq]
    exact List.mem_append_left _ hmem
  induction more generalizing p piece with
  | nil =>
    obtain ⟨ending, heq, hfree⟩ := hhere piece (hpieces piece List.mem_cons_self)
    have hl : l = ⟨Text.dropEndWhile (· == '\r') piece, p.line, p.column⟩ :=
      List.mem_singleton.mp h
    subst hl
    refine ⟨[], ending, ?_, hfree, rfl, rfl⟩
    simpa [Text.join] using heq
  | cons next more ih =>
    have hpiece := hpieces piece List.mem_cons_self
    rw [linesFrom_cons] at h
    rw [Text.join_cons_cons]
    rcases List.mem_cons.mp h with rfl | h
    · obtain ⟨ending, heq, hfree⟩ := hhere piece hpiece
      refine ⟨[], ending ++ (['\n'] ++ Text.join ['\n'] (next :: more)), ?_, hfree, rfl, rfl⟩
      rw [List.nil_append, ← List.append_assoc _ ending, ← heq]
    · obtain ⟨u, w, hjoin, hfree, hline, hcolumn⟩ :=
        ih (fun t ht => hpieces t (List.mem_cons_of_mem piece ht)) h
      have hafter : p.after (piece ++ (['\n'] ++ u)) = p.nextLine.after u := by
        rw [Position.after_append, Position.after_of_no_newline hpiece, List.singleton_append,
          Position.after_newline]
        rfl
      refine ⟨piece ++ (['\n'] ++ u), w, ?_, hfree, ?_, ?_⟩
      · rw [hjoin]
        simp
      · rw [hafter]
        exact hline
      · rw [hafter]
        exact hcolumn

/-- The document holds each line of code at the position of the line. -/
theorem holds_line {t : Text} {l : SourceLine} (h : Item.line l ∈ items t) :
    Holds t l.line (Span.ofText l.column l.text) := by
  obtain ⟨s, hs, hitem⟩ := List.mem_flatMap.mp h
  unfold sectionItems at hitem
  simp only at hitem
  split at hitem
  · simp at hitem
  · obtain ⟨l', hl', heq⟩ := List.mem_map.mp hitem
    obtain rfl : l' = l := Item.line.inj heq
    cases hp : Text.pieces '\n' (s.body t) with
    | nil => exact absurd hp (Text.pieces_ne_nil '\n' (s.body t))
    | cons piece more =>
      have hpieces : ∀ u ∈ piece :: more, '\n' ∉ u := by
        intro u hu
        rw [← hp] at hu
        exact Text.not_mem_of_mem_pieces hu
      rw [hp] at hl'
      obtain ⟨u, w, hjoin, hfree, hline, hcolumn⟩ := linesFrom_split hpieces hl'
      rw [← hp, Text.join_pieces] at hjoin
      obtain ⟨u', w', ht, hposition⟩ := Section.exists_split hs hjoin
      rw [hline, hcolumn, ← hposition]
      exact holds_of_split ht hfree

end Document

namespace MemoryImage

theorem uncommented_split {inComment : Bool} {p : Position} {t : Text} {x : Placed}
    (h : x ∈ uncommented inComment p t) :
    ∃ u w, t = u ++ ([x.1] ++ w) ∧ x.2 = p.after u := by
  induction t generalizing inComment p with
  | nil => simp [uncommented] at h
  | cons c rest ih =>
    have hhere : x = (c, p) → ∃ u w, c :: rest = u ++ ([x.1] ++ w) ∧ x.2 = p.after u := by
      rintro rfl
      exact ⟨[], rest, rfl, rfl⟩
    have hlater : ∀ {b : Bool}, x ∈ uncommented b (p.advance c) rest →
        ∃ u w, c :: rest = u ++ ([x.1] ++ w) ∧ x.2 = p.after u := by
      intro b hx
      obtain ⟨u, w, hrest, hposition⟩ := ih hx
      exact ⟨c :: u, w, by rw [hrest]; rfl, hposition⟩
    unfold uncommented at h
    split at h
    · exact (List.mem_cons.mp h).elim hhere hlater
    · split at h
      · exact hlater h
      · exact (List.mem_cons.mp h).elim hhere hlater

/-- The document holds each character of a memory section, a line feed apart, where it was read. -/
theorem holds_character {t body : Text} {p : Position} (h : Item.memory p body ∈ Document.items t)
    {x : Placed} (hx : x ∈ uncommented false p body) (hne : x.1 ≠ '\n') :
    Document.Holds t x.2.line (Span.ofText x.2.column [x.1]) := by
  obtain ⟨s, hs, hitem⟩ := List.mem_flatMap.mp h
  unfold Document.sectionItems at hitem
  simp only at hitem
  split at hitem
  · obtain ⟨rfl, rfl⟩ := Item.memory.inj (List.mem_singleton.mp hitem)
    obtain ⟨u, w, hbody, hposition⟩ := uncommented_split hx
    obtain ⟨u', w', ht, hstart⟩ := Section.exists_split hs hbody
    rw [hposition, ← hstart]
    exact Document.holds_of_split ht (by simpa using Ne.symm hne)
  · simp at hitem

end MemoryImage

end AsmCheck
