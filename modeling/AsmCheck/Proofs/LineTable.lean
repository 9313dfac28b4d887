import AsmCheck.Proofs.MemoryPacking
import AsmCheck.Proofs.Placement
import Mathlib.Data.List.Chain

/-!
# The line table

The offsets at which the lines of a text start are found by a search from line feed to line feed and
kept in an increasing table. The last start that is not behind an offset, found by halving the
table, gives the position of the offset: its number is the line, and the distance from it is the
column. Reading the text up to the offset leads to the same position. The lines of a section are cut
at its line feeds with a running offset, and the table leads from the offset of a line to the
position at which the line is read.
-/

namespace AsmCheck

set_option autoImplicit false

/-- The offset of the first line feed at the given offset or behind it. -/
def newlineFrom? (t : Text) (start : Nat) : Option Nat :=
  ((t.drop start).idxOf? '\n').map (start + ·)

theorem newlineFrom?_eq_none {t : Text} {start : Nat} (h : newlineFrom? t start = none) :
    '\n' ∉ t.drop start := by
  rw [newlineFrom?, Option.map_eq_none_iff, List.idxOf?_eq_none_iff] at h
  exact h

theorem newlineFrom?_eq_some {t : Text} {start i : Nat} (h : newlineFrom? t start = some i) :
    ∃ line rest, t.drop start = line ++ '\n' :: rest ∧ '\n' ∉ line ∧ i = start + line.length := by
  rw [newlineFrom?, Option.map_eq_some_iff] at h
  obtain ⟨k, hk, rfl⟩ := h
  obtain ⟨hlt, hget, hfirst⟩ := List.idxOf?_eq_some_iff.mp hk
  refine ⟨(t.drop start).take k, (t.drop start).drop (k + 1), ?_, ?_, ?_⟩
  · rw [← hget, List.getElem_cons_drop, List.take_append_drop]
  · intro hmem
    obtain ⟨j, hj, hnewline⟩ := List.mem_take_iff_getElem.mp hmem
    exact hfirst j (by omega) hnewline
  · rw [List.length_take, Nat.min_eq_left hlt.le]

theorem newlineFrom?_bounds {t : Text} {start i : Nat} (h : newlineFrom? t start = some i) :
    start ≤ i ∧ i < t.length := by
  obtain ⟨line, rest, hdrop, _, rfl⟩ := newlineFrom?_eq_some h
  have hlength := congrArg List.length hdrop
  rw [List.length_drop, List.length_append, List.length_cons] at hlength
  omega

/-- The starts of the lines behind the given offset. Each stands behind a line feed. -/
def lineStartsFrom (t : Text) (start : Nat) : List Nat :=
  match h : newlineFrom? t start with
  | none => []
  | some i => (i + 1) :: lineStartsFrom t (i + 1)
termination_by t.length - start
decreasing_by
  have hbounds := newlineFrom?_bounds h
  omega

/-- The starts of all lines of a text. -/
def lineStarts (t : Text) : List Nat := 0 :: lineStartsFrom t 0

theorem lineStartsFrom_increasing (t : Text) (start : Nat) :
    (start :: lineStartsFrom t start).Pairwise (· < ·) := by
  fun_induction lineStartsFrom t start with
  | case1 start _ => exact List.pairwise_singleton _ _
  | case2 start i h ih =>
    have hbounds := newlineFrom?_bounds h
    refine List.pairwise_cons.mpr ⟨?_, ih⟩
    intro x hx
    rcases List.mem_cons.mp hx with rfl | hx
    · omega
    · have hlt := (List.pairwise_cons.mp ih).1 x hx
      omega

namespace Position

/-- Without a line feed in between, an offset is on the line that starts in front of it. -/
theorem ofOffset_of_no_newline {t : Text} {start offset : Nat}
    (hcolumn : (ofOffset t start).column = 0) (hle : start ≤ offset) (hoffset : offset ≤ t.length)
    (hfree : '\n' ∉ (t.drop start).take (offset - start)) :
    ofOffset t offset = ⟨(ofOffset t start).line, offset - start⟩ := by
  rw [ofOffset_after t hle, after_of_no_newline hfree, hcolumn, Nat.zero_add, List.length_take,
    List.length_drop, Nat.min_eq_left (by omega)]

theorem ofOffset_behind_newline {t line rest : Text} {start : Nat}
    (h : t.drop start = line ++ '\n' :: rest) (hfree : '\n' ∉ line) :
    ofOffset t (start + line.length + 1) = (ofOffset t start).nextLine := by
  have hslice : (t.drop start).take (start + line.length + 1 - start) = line ++ ['\n'] := by
    have hlength : start + line.length + 1 - start = (line ++ ['\n']).length := by
      rw [List.length_append, List.length_singleton]
      omega
    rw [h, hlength, List.append_cons line '\n' rest, List.take_left]
  rw [ofOffset_after t (by omega : start ≤ start + line.length + 1), hslice, after_append,
    after_of_no_newline hfree, after_newline]
  rfl

/-- The last start of a line that is not behind an offset is the start of the line of the offset.
The induction follows the search for line feeds, and an offset in front of the next one ends it. -/
theorem ofOffset_eq_of_lineStart {t : Text} {start offset k x : Nat}
    (hcolumn : (ofOffset t start).column = 0) (hoffset : offset ≤ t.length)
    (hx : (start :: lineStartsFrom t start)[k]? = some x) (hle : x ≤ offset)
    (hnext : ∀ y ∈ (start :: lineStartsFrom t start).drop (k + 1), offset < y) :
    ofOffset t offset = ⟨(ofOffset t start).line + k, offset - x⟩ := by
  fun_induction lineStartsFrom t start generalizing k with
  | case1 start h =>
    obtain rfl : k = 0 := by
      have hk := (List.getElem?_eq_some_iff.mp hx).1
      rw [List.length_singleton] at hk
      omega
    obtain rfl : start = x := Option.some.inj hx
    have hfree : '\n' ∉ (t.drop start).take (offset - start) :=
      fun hmem => newlineFrom?_eq_none h (List.mem_of_mem_take hmem)
    exact ofOffset_of_no_newline hcolumn hle hoffset hfree
  | case2 start i h ih =>
    obtain ⟨line, rest, hdrop, hline, rfl⟩ := newlineFrom?_eq_some h
    cases k with
    | zero =>
      obtain rfl : start = x := Option.some.inj hx
      have hbefore : offset < start + line.length + 1 := hnext _ List.mem_cons_self
      have hfree : '\n' ∉ (t.drop start).take (offset - start) := by
        rw [hdrop, List.take_append_of_le_length (by omega)]
        exact fun hmem => hline (List.mem_of_mem_take hmem)
      exact ofOffset_of_no_newline hcolumn hle hoffset hfree
    | succ k =>
      have hstart := ofOffset_behind_newline hdrop hline
      rw [ih (by rw [hstart]; rfl) hx hnext, hstart]
      simp only [nextLine, mk.injEq, and_true]
      omega

end Position

/-- The starts of lines, in increasing order from the start of the text. -/
structure LineTable where
  starts : Array Nat
  first : starts[0]? = some 0
  increasing : starts.toList.Pairwise (· < ·)

namespace LineTable

def ofText (t : Text) : LineTable where
  starts := (lineStarts t).toArray
  first := rfl
  increasing := lineStartsFrom_increasing t 0

theorem getElem?_ofText (t : Text) (i : Nat) : (ofText t).starts[i]? = (lineStarts t)[i]? :=
  List.getElem?_toArray

/-- The number of entries that are not above the offset, if it lies between `lo` and `hi`. The range
in between is halved. -/
def searchIn (starts : Array Nat) (offset lo hi : Nat) (h : hi ≤ starts.size) : Nat :=
  if hlt : lo < hi then
    let mid := (lo + hi) / 2
    have hmid : mid < starts.size := by omega
    if offset < starts[mid] then searchIn starts offset lo mid hmid.le
    else searchIn starts offset (mid + 1) hi h
  else lo
termination_by hi - lo

/-- The number of lines that start at the offset or in front of it. -/
def search (table : LineTable) (offset : Nat) : Nat :=
  searchIn table.starts offset 0 table.starts.size (Nat.le_refl _)

/-- The entries in front of `lo` are not above the offset, and those from `hi` on are. -/
structure Splits (table : LineTable) (offset lo hi : Nat) : Prop where
  le : lo ≤ hi
  le_size : hi ≤ table.starts.size
  below : ∀ i x, table.starts[i]? = some x → i < lo → x ≤ offset
  above : ∀ i x, table.starts[i]? = some x → hi ≤ i → offset < x

theorem starts_mono (table : LineTable) {i j x y : Nat} (hi : table.starts[i]? = some x)
    (hj : table.starts[j]? = some y) (hij : i ≤ j) : x ≤ y := by
  obtain ⟨hi', rfl⟩ := Array.getElem?_eq_some_iff.mp hi
  obtain ⟨hj', rfl⟩ := Array.getElem?_eq_some_iff.mp hj
  rcases Nat.lt_or_eq_of_le hij with hlt | rfl
  · exact (List.pairwise_iff_getElem.mp table.increasing i j hi' hj' hlt).le
  · exact Nat.le_refl _

namespace Splits

variable {table : LineTable} {offset lo hi mid x : Nat}

theorem lower (h : Splits table offset lo hi) (hmid : table.starts[mid]? = some x)
    (hlo : lo ≤ mid) (hx : offset < x) : Splits table offset lo mid where
  le := hlo
  le_size := (Array.getElem?_eq_some_iff.mp hmid).1.le
  below := h.below
  above := fun _ _ hi hle => Nat.lt_of_lt_of_le hx (table.starts_mono hmid hi hle)

theorem upper (h : Splits table offset lo hi) (hmid : table.starts[mid]? = some x)
    (hhi : mid < hi) (hx : x ≤ offset) : Splits table offset (mid + 1) hi where
  le := hhi
  le_size := h.le_size
  below := fun _ _ hi hlt => Nat.le_trans (table.starts_mono hi hmid (by omega)) hx
  above := h.above

end Splits

theorem searchIn_splits {table : LineTable} {offset lo hi : Nat}
    (h : Splits table offset lo hi) (hsize : hi ≤ table.starts.size) :
    Splits table offset (searchIn table.starts offset lo hi hsize)
      (searchIn table.starts offset lo hi hsize) := by
  fun_induction searchIn table.starts offset lo hi hsize with
  | case1 lo hi hsize hlt mid hmid hx ih =>
    exact ih (h.lower (Array.getElem?_eq_getElem hmid) (by omega) hx)
  | case2 lo hi hsize hlt mid hmid hx ih =>
    exact ih (h.upper (Array.getElem?_eq_getElem hmid) (by omega) (by omega))
  | case3 lo hi hsize hlt =>
    obtain rfl : lo = hi := by
      have hle := h.le
      omega
    exact h

theorem search_splits (table : LineTable) (offset : Nat) :
    Splits table offset (table.search offset) (table.search offset) := by
  apply searchIn_splits
  refine ⟨Nat.zero_le _, Nat.le_refl _, fun _ _ _ hlt => absurd hlt (Nat.not_lt_zero _), ?_⟩
  intro i x hx hle
  have hlt := (Array.getElem?_eq_some_iff.mp hx).1
  omega

theorem search_pos (table : LineTable) (offset : Nat) : 0 < table.search offset := by
  apply Nat.pos_of_ne_zero
  intro hzero
  have habove := (table.search_splits offset).above 0 0 table.first (by omega)
  exact absurd habove (Nat.not_lt_zero _)

theorem search_sub_one_lt (table : LineTable) (offset : Nat) :
    table.search offset - 1 < table.starts.size := by
  have hpos := table.search_pos offset
  have hle := (table.search_splits offset).le_size
  omega

/-- The position of an offset, counted from the last start of a line that is not behind it. -/
def position (table : LineTable) (offset : Nat) : Position :=
  let line := table.search offset
  have hline : line - 1 < table.starts.size := table.search_sub_one_lt offset
  ⟨line, offset - table.starts[line - 1]⟩

theorem position_ofText {t : Text} {offset : Nat} (h : offset ≤ t.length) :
    (ofText t).position offset = Position.ofOffset t offset := by
  -- The entry with the number of the line is the last one that is not above the offset.
  have hsplits := (ofText t).search_splits offset
  have hpos := (ofText t).search_pos offset
  have hlt := (ofText t).search_sub_one_lt offset
  have hstart := Array.getElem?_eq_getElem hlt
  have hle := hsplits.below _ _ hstart (by omega)
  have hnext : ∀ y ∈ (lineStarts t).drop ((ofText t).search offset - 1 + 1), offset < y := by
    intro y hy
    obtain ⟨i, hi⟩ := List.mem_iff_getElem?.mp hy
    rw [List.getElem?_drop] at hi
    exact hsplits.above _ y ((getElem?_ofText t _).trans hi) (by omega)
  have hposition : Position.ofOffset t offset = ⟨1 + ((ofText t).search offset - 1),
      offset - (ofText t).starts[(ofText t).search offset - 1]⟩ :=
    Position.ofOffset_eq_of_lineStart rfl h ((getElem?_ofText t _).symm.trans hstart) hle hnext
  rw [hposition, Nat.add_sub_cancel' hpos]
  rfl

end LineTable

/-- A line with the offset at which it starts. -/
structure PlacedLine where
  text : Text
  offset : Nat
  deriving DecidableEq

namespace PlacedLine

/-- The line as it is read at a position. -/
def source (l : PlacedLine) (p : Position) : SourceLine := ⟨l.text, p.line, p.column⟩

/-- The text holds the line at its offset, and only carriage returns follow up to `stop`. -/
structure EndsAt (t : Text) (stop : Nat) (l : PlacedLine) : Prop where
  slice : l.text = (t.drop l.offset).take l.text.length
  le_stop : l.offset + l.text.length ≤ stop
  stop_le : stop ≤ t.length
  returns : ∀ c ∈ (t.drop (l.offset + l.text.length)).take (stop - (l.offset + l.text.length)),
    c = '\r'
  /-- No carriage return is left at the end of the line. -/
  bare : ∀ c ∈ l.text.getLast?, c ≠ '\r'

/-- The line is a piece of the text, less the carriage returns at its end. -/
structure Reads (t piece : Text) (l : PlacedLine) : Prop where
  slice : piece = (t.drop l.offset).take piece.length
  endsAt : l.EndsAt t (l.offset + piece.length)

end PlacedLine

/-- The pieces of a text that starts at the given offset, less the carriage returns at their ends. A
line feed stands between two pieces. -/
def placedLines (offset : Nat) : List Text → List PlacedLine
  | [] => []
  | piece :: rest =>
    ⟨Text.dropEndWhile (· == '\r') piece, offset⟩ :: placedLines (offset + piece.length + 1) rest

/-- The lines of a section, each with the offset at which it starts. -/
def Section.lines (t : Text) (s : Section) : List PlacedLine :=
  placedLines s.start (Text.pieces '\n' (s.body t))

theorem PlacedLine.reads_piece {t piece rest : Text} {offset : Nat} (hoffset : offset ≤ t.length)
    (h : t.drop offset = piece ++ rest) :
    Reads t piece ⟨Text.dropEndWhile (· == '\r') piece, offset⟩ := by
  have hbare := Text.dropEndWhile_getLast? (· == '\r') piece
  obtain ⟨returns, hpiece, hreturns⟩ := Text.dropEndWhile_append (· == '\r') piece
  generalize Text.dropEndWhile (· == '\r') piece = line at hpiece hbare
  have hdrop : t.drop offset = line ++ (returns ++ rest) := by rw [h, hpiece, List.append_assoc]
  have hslice : piece = (t.drop offset).take piece.length := by rw [h, List.take_left]
  have hline : line = (t.drop offset).take line.length := by rw [hdrop, List.take_left]
  have hlength : piece.length = line.length + returns.length := by
    rw [hpiece, List.length_append]
  have hstop : offset + piece.length ≤ t.length := by
    have htotal := congrArg List.length h
    rw [List.length_drop, List.length_append] at htotal
    omega
  have hend : (t.drop (offset + line.length)).take
      (offset + piece.length - (offset + line.length)) = returns := by
    have hdistance : offset + piece.length - (offset + line.length) = returns.length := by omega
    rw [hdistance, ← List.drop_drop, hdrop, List.drop_left, List.take_left]
  exact
    { slice := hslice
      endsAt :=
        { slice := hline
          le_stop := (by omega : offset + line.length ≤ offset + piece.length)
          stop_le := hstop
          returns := fun c hc => beq_iff_eq.mp (hreturns c (hend ▸ hc))
          bare := fun c hc => beq_eq_false_iff_ne.mp (hbare c hc) } }

/-- From the given offset on up to `stop`, a text consists of the given pieces without line feeds,
and a line feed stands between two of them. -/
inductive Ruled (t : Text) (stop : Nat) : Nat → List Text → Prop where
  | last {start : Nat} {piece : Text} : '\n' ∉ piece → t.drop start = piece ++ t.drop stop →
      start + piece.length = stop → stop ≤ t.length → Ruled t stop start [piece]
  | cons {start : Nat} {piece : Text} {rest : List Text} : '\n' ∉ piece →
      t.drop start = piece ++ '\n' :: t.drop (start + piece.length + 1) →
      Ruled t stop (start + piece.length + 1) rest → Ruled t stop start (piece :: rest)

theorem ruled_of_join {t piece : Text} {more : List Text} {start stop : Nat}
    (hfree : ∀ u ∈ piece :: more, '\n' ∉ u) (hstop : stop ≤ t.length)
    (hdrop : t.drop start = Text.join ['\n'] (piece :: more) ++ t.drop stop)
    (hlength : start + (Text.join ['\n'] (piece :: more)).length = stop) :
    Ruled t stop start (piece :: more) := by
  have hpiece := hfree piece List.mem_cons_self
  induction more generalizing start piece with
  | nil =>
    have hjoin : Text.join ['\n'] [piece] = piece := by simp [Text.join]
    rw [hjoin] at hdrop hlength
    exact .last hpiece hdrop hlength hstop
  | cons next more ih =>
    rw [Text.join_cons_cons] at hdrop hlength
    simp only [List.length_append, List.length_singleton] at hlength
    have hrest : t.drop (start + piece.length + 1) =
        Text.join ['\n'] (next :: more) ++ t.drop stop := by
      rw [Nat.add_assoc, ← List.drop_drop, hdrop]
      simp
    refine .cons hpiece (by rw [hrest, hdrop]; simp) ?_
    exact ih (fun u hu => hfree u (List.mem_cons_of_mem piece hu)) hrest (by omega)
      (hfree next (by simp))

theorem Section.ruled {t : Text} {s : Section} (hs : s ∈ ofText t) :
    Ruled t s.stop s.start (Text.pieces '\n' (s.body t)) := by
  obtain ⟨hle, hstop⟩ := ofText_bounds hs
  have hjoin := Text.join_pieces '\n' (s.body t)
  have hfree : ∀ u ∈ Text.pieces '\n' (s.body t), '\n' ∉ u :=
    fun u hu => Text.not_mem_of_mem_pieces hu
  cases hp : Text.pieces '\n' (s.body t) with
  | nil => exact absurd hp (Text.pieces_ne_nil '\n' (s.body t))
  | cons piece more =>
    rw [hp] at hjoin hfree
    apply ruled_of_join hfree hstop
    · rw [hjoin]
      exact Text.drop_eq_slice_append hle t
    · rw [hjoin, body, List.length_take, List.length_drop]
      omega

namespace Ruled

variable {t : Text} {stop start : Nat} {pieces : List Text}

theorem bounds (h : Ruled t stop start pieces) : start ≤ stop ∧ stop ≤ t.length := by
  induction h with
  | last _ _ hlength hstop => omega
  | cons _ _ _ ih => omega

theorem reads (h : Ruled t stop start pieces) :
    List.Forall₂ (PlacedLine.Reads t) pieces (placedLines start pieces) := by
  induction h with
  | last _ hdrop hlength hstop => exact .cons (PlacedLine.reads_piece (by omega) hdrop) .nil
  | cons _ hdrop hrest ih =>
    have hbounds := hrest.bounds
    exact .cons (PlacedLine.reads_piece (by omega) hdrop) ih

theorem first_offset (h : Ruled t stop start pieces) :
    ∀ l ∈ (placedLines start pieces).head?, l.offset = start := by
  intro l hl
  cases h with
  | last => rw [← Option.some.inj hl]
  | cons => rw [← Option.some.inj hl]

theorem next_offset (h : Ruled t stop start pieces) :
    (placedLines start pieces).IsChain fun a b =>
      ∃ i, a.EndsAt t i ∧ t[i]? = some '\n' ∧ b.offset = i + 1 := by
  induction h with
  | last => exact .singleton _
  | @cons start piece rest _ hdrop hrest ih =>
    have hbounds := hrest.bounds
    have hreads := PlacedLine.reads_piece (by omega : start ≤ t.length) hdrop
    have hnewline : t[start + piece.length]? = some '\n' := by
      rw [← List.getElem?_drop, hdrop, List.getElem?_append_right (Nat.le_refl _), Nat.sub_self]
      rfl
    exact ih.cons fun l hl =>
      ⟨start + piece.length, hreads.endsAt, hnewline, hrest.first_offset l hl⟩

theorem last_endsAt (h : Ruled t stop start pieces) :
    ∀ l ∈ (placedLines start pieces).getLast?, l.EndsAt t stop := by
  induction h with
  | last _ hdrop hlength hstop =>
    intro l hl
    rw [← Option.some.inj hl, ← hlength]
    exact (PlacedLine.reads_piece (by omega) hdrop).endsAt
  | cons _ _ hrest ih =>
    intro l hl
    cases hrest with
    | last => exact ih l hl
    | cons => exact ih l hl

theorem linesFrom_eq (h : Ruled t stop start pieces) :
    Document.linesFrom (Position.ofOffset t start) pieces = (placedLines start pieces).map
      fun l => l.source ((LineTable.ofText t).position l.offset) := by
  induction h with
  | @last start piece _ _ hlength hstop =>
    have hposition : (LineTable.ofText t).position start = Position.ofOffset t start :=
      LineTable.position_ofText (by omega)
    simp only [placedLines, List.map_cons, hposition]
    rfl
  | @cons start piece rest hfree hdrop hrest ih =>
    have hbounds := hrest.bounds
    have hposition : (LineTable.ofText t).position start = Position.ofOffset t start :=
      LineTable.position_ofText (by omega)
    -- Behind the line feed the running offset has the position of the next line.
    rw [Document.linesFrom_cons, ← Position.ofOffset_behind_newline hdrop hfree, ih, placedLines,
      List.map_cons, hposition]
    rfl

end Ruled

/-- What a table of lines says about the offsets of a text, its end included. -/
structure LineTable.Locates (t : Text) (table : LineTable) : Prop where
  /-- The line feeds in front of an offset give its line, and the characters behind the last of them
  its column. -/
  counted : ∀ offset ≤ t.length, table.position offset = Position.counted t offset
  /-- The document is read by the same positions. -/
  read : ∀ offset ≤ t.length, table.position offset = Position.ofOffset t offset
  within : ∀ offset ≤ t.length, ∃ line,
    (Document.lines t)[(table.position offset).line - 1]? = some line ∧
      (table.position offset).column ≤ line.length
  increasing : ∀ i j, i < j → j ≤ t.length → (table.position i).place < (table.position j).place

/-- What the lines of a section say about its text. -/
structure Section.LinesPlaced (t : Text) (s : Section) (lines : List PlacedLine) : Prop where
  /-- The lines are the pieces of the section, in order, less the carriage returns at their ends. -/
  pieces : List.Forall₂ (PlacedLine.Reads t) (Text.pieces '\n' (s.body t)) lines
  first : ∀ l ∈ lines.head?, l.offset = s.start
  /-- A line ends in front of a line feed, and the next line starts behind it. -/
  next : lines.IsChain fun a b => ∃ i, a.EndsAt t i ∧ t[i]? = some '\n' ∧ b.offset = i + 1
  last : ∀ l ∈ lines.getLast?, l.EndsAt t s.stop
  /-- A section of code is read line by line, each at the position of its offset. -/
  read : s.kind = .code → Document.sectionItems t s =
    lines.map fun l => .line (l.source ((LineTable.ofText t).position l.offset))

theorem Position.exists_line (t : Text) (offset : Nat) :
    ∃ line, (Document.lines t)[(ofOffset t offset).line - 1]? = some line ∧
      (ofOffset t offset).column ≤ line.length := by
  have hsplit : t = t.take offset ++ ([] ++ t.drop offset) := by simp
  obtain ⟨i, line, hi, hline, _, _, hstop, _⟩ := Document.holds_of_split hsplit (by simp)
  change ((ofOffset t offset).line : Int) = i + 1 at hi
  change ((ofOffset t offset).column : Int) + ([] : Text).length ≤ line.length at hstop
  have hindex : (ofOffset t offset).line - 1 = i := by omega
  rw [List.length_nil] at hstop
  exact ⟨line, by rw [hindex, hline], by omega⟩

/-- The table of lines leads from every offset of a text to its position, and the lines of a section
stand at their offsets. -/
theorem offsets_located (t : Text) :
    (LineTable.ofText t).Locates t ∧
      ∀ s ∈ Section.ofText t, s.LinesPlaced t (s.lines t) := by
  have hposition : ∀ offset ≤ t.length,
      (LineTable.ofText t).position offset = Position.ofOffset t offset :=
    fun _ h => LineTable.position_ofText h
  constructor
  · refine
      { counted := fun offset h => by rw [hposition offset h, Position.ofOffset_eq_counted]
        read := hposition
        within := fun offset h => by rw [hposition offset h]; exact Position.exists_line t offset
        increasing := ?_ }
    intro i j hij hj
    rw [hposition i (by omega), hposition j hj]
    exact Position.ofOffset_lt t hij hj
  · intro s hs
    have hruled := Section.ruled hs
    refine
      { pieces := hruled.reads
        first := hruled.first_offset
        next := hruled.next_offset
        last := hruled.last_endsAt
        read := ?_ }
    intro hkind
    rw [Document.sectionItems, hkind]
    simp only
    rw [hruled.linesFrom_eq, List.map_map]
    rfl

/-- Carriage returns at the end of a line count in its columns and are left out of its text. -/
theorem offsets_located_returns :
    let t := "x\r\n.code\r\n nop\r\r\n\n:a".toList
    let s : Section := ⟨.code, 8, 20⟩
    16 ≤ t.length ∧ (LineTable.ofText t).position 16 = ⟨3, 6⟩ ∧ s ∈ Section.ofText t ∧
      s.lines t = [⟨[], 8⟩, ⟨" nop".toList, 10⟩, ⟨[], 17⟩, ⟨":a".toList, 18⟩] ∧
      s.LinesPlaced t (s.lines t) := by
  intro t s
  have hlength : 16 ≤ t.length := by decide
  have hs : s ∈ Section.ofText t := by decide +kernel
  refine ⟨hlength, ?_, hs, by decide +kernel, (offsets_located t).2 s hs⟩
  rw [(offsets_located t).1.counted 16 hlength]
  decide

end AsmCheck
