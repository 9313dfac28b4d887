import AsmCheck.Proofs.Shifting

/-!
# Concatenation

A document may be cut at the start of a line and its parts read apart. If the second part starts
with a marker, it is a document of its own; if the first part ends inside a section of code, the
second part is read as if a marker of code stood above it. In both cases the lines and the words of
code of the first part are all that the second one takes over.
-/

namespace AsmCheck

set_option autoImplicit false

/-- Whether a line of code occupies a word: its code starts with the name of an instruction or with
an exclamation mark. -/
def occupiesWord (line : Text) : Bool :=
  let code := trimmedCode line
  !code.isEmpty &&
    ((Family.ofToken? (splitFirstToken code).1).isSome || code.head? == some '!')

theorem SourceLine.words_eq (l : SourceLine) : l.words = if occupiesWord l.text then 1 else 0 := by
  have hfits := l.kind_fits
  have hword : occupiesWord l.text = (!l.code.isEmpty &&
    ((Family.ofToken? (splitFirstToken l.code).1).isSome || l.code.head? == some '!')) := rfl
  rw [hword, words]
  cases hkind : l.kind with
  | blank =>
    rw [hkind] at hfits
    have hcode : l.code = [] := hfits
    simp [hcode]
  | instruction family =>
    rw [hkind] at hfits
    have hfamily : Family.ofToken? (splitFirstToken l.code).1 = some family := hfits
    have hcode : l.code ≠ [] := by
      intro hnil
      rw [hnil] at hfamily
      exact absurd (Family.ofToken?_nil.symm.trans hfamily) (by simp)
    simp [hfamily, hcode]
  | literal digits =>
    rw [hkind] at hfits
    obtain ⟨_, rest, hcode, _⟩ := hfits
    simp [hcode]
  | label name =>
    rw [hkind] at hfits
    obtain ⟨hfamily, rest, hcode, _⟩ := hfits
    rw [hfamily, hcode]
    simp
  | unknown token =>
    rw [hkind] at hfits
    obtain ⟨hfamily, _, hmark, _⟩ := hfits
    have hhead : l.code.head? ≠ some '!' := by
      intro hhead
      obtain ⟨rest, hcode⟩ := List.head?_eq_some_iff.mp hhead
      exact hmark rest hcode
    simp [hfamily, hhead]

def Item.line? : Item → Option SourceLine
  | .line l => some l
  | .memory _ _ => none

namespace Document

/-- The lines of all sections of code, in order. -/
def codeLines (t : Text) : List SourceLine := (items t).filterMap Item.line?

/-- The number of lines of a document that occupy a word of code. -/
def codeWords (t : Text) : Nat := (codeLines t).countP fun l => occupiesWord l.text

/-- The kind of the section in which a document ends. -/
def lastKind? (t : Text) : Option SectionKind := (Section.ofText t).getLast?.map Section.kind

theorem words_eq_countP (items : List Item) :
    words items = (items.filterMap Item.line?).countP fun l => occupiesWord l.text := by
  induction items with
  | nil => rfl
  | cons item rest ih =>
    cases item with
    | memory p body =>
      rw [words_cons, ih, List.filterMap_cons_none rfl]
      exact Nat.zero_add _
    | line l =>
      rw [words_cons, ih, List.filterMap_cons_some (f := Item.line?) rfl, List.countP_cons,
        Item.words, l.words_eq, Nat.add_comm]

theorem words_items (t : Text) : words (items t) = codeWords t := words_eq_countP (items t)

end Document

namespace Document

theorem linesFrom_append (p : Position) {first : List Text} (h : first ≠ []) (second : List Text) :
    linesFrom p (first ++ second) =
      linesFrom p first ++ linesFrom ⟨p.line + first.length, 0⟩ second := by
  induction first generalizing p with
  | nil => exact absurd rfl h
  | cons piece rest ih =>
    rw [List.cons_append, linesFrom_cons, linesFrom_cons, List.cons_append]
    cases rest with
    | nil => rfl
    | cons next more =>
      have hline : p.nextLine.line + (next :: more).length =
          p.line + (piece :: next :: more).length := by
        simp only [Position.nextLine, List.length_cons]
        omega
      rw [ih p.nextLine (List.cons_ne_nil next more), hline]

theorem linesFrom_pieces_append (p : Position) (u v : Text) :
    linesFrom p (Text.pieces '\n' (u ++ '\n' :: v)) =
      linesFrom p (Text.pieces '\n' u) ++
        linesFrom (p.after (u ++ ['\n'])) (Text.pieces '\n' v) := by
  rw [Text.pieces_append, linesFrom_append p (Text.pieces_ne_nil '\n' u), Text.length_pieces,
    Position.after_append_newline, Nat.add_assoc]

/-- The items of a text at the given position that goes on with a section of code. -/
def resumed (p : Position) (t : Text) : List Item :=
  (linesFrom p (Text.pieces '\n' (Division.ofText t).opening)).map .line ++
    itemsFrom (p.after (Division.ofText t).opening) (Division.ofText t).blocks

theorem resumed_down (lines : Nat) (p : Position) (t : Text) :
    resumed (p.down lines) t = (resumed p t).map (Item.down lines) := by
  rw [resumed, resumed, List.map_append, linesFrom_down, map_line_down, Position.after_down,
    itemsFrom_down]

theorem items_append_of_marker {s t : Text} (hs : s = [] ∨ s.getLast? = some '\n')
    (ht : (marker? t).isSome = true) :
    items (s ++ t) = items s ++ (items t).map (Item.down (s.count '\n')) := by
  have hopening := Division.opening_of_marker? ht
  rw [items_eq_itemsFrom, items_eq_itemsFrom, items_eq_itemsFrom, Division.ofText_append hs,
    Division.append_of_opening_nil _ hopening, itemsFrom_append, ← Position.after_append,
    Division.opening_append_join, Position.start_after hs, itemsFrom_down, hopening]
  rfl

theorem lastKind?_eq (t : Text) :
    lastKind? t = ((Division.ofText t).blocks.map Block.kind).getLast? := by
  rw [lastKind?, ← List.getLast?_map, Division.kinds_eq]

theorem exists_last_block {s : Text} (h : lastKind? s = some .code) :
    ∃ before text, (Division.ofText s).blocks = before ++ [⟨.code, text⟩] := by
  rw [lastKind?_eq, List.getLast?_map, Option.map_eq_some_iff] at h
  obtain ⟨⟨kind, text⟩, hlast, rfl⟩ := h
  obtain ⟨before, hblocks⟩ := List.getLast?_eq_some_iff.mp hlast
  exact ⟨before, text, hblocks⟩

theorem blockItems_newline (p : Position) (body rest : Text) :
    blockItems p ⟨.code, SectionKind.code.marker ++ (body ++ '\n' :: rest)⟩ =
      (linesFrom (p.after SectionKind.code.marker) (Text.pieces '\n' body)).map .line ++
        (linesFrom (p.after (SectionKind.code.marker ++ (body ++ ['\n'])))
          (Text.pieces '\n' rest)).map .line := by
  simp only [blockItems, Block.body, List.drop_left]
  rw [linesFrom_pieces_append, List.map_append, Position.after_append p SectionKind.code.marker]

/-- Behind a line that ends in a section of code any text goes on with this section. -/
theorem exists_items_resumed {s : Text} (h : lastKind? s = some .code) :
    ∃ front, ∀ t, items (s ++ '\n' :: t) =
      front ++ resumed (Position.start.after (s ++ ['\n'])) t := by
  obtain ⟨before, text, hblocks⟩ := exists_last_block h
  have htext := Division.block_text (hblocks ▸ List.mem_append_right _ List.mem_cons_self)
  generalize Block.body ⟨.code, text⟩ = body at htext
  simp only at htext
  obtain ⟨p, hp⟩ : ∃ p, (Position.start.after (Division.ofText s).opening).after
    (Division.join before) = p := ⟨_, rfl⟩
  have hposition : p.after (SectionKind.code.marker ++ (body ++ ['\n'])) =
      Position.start.after (s ++ ['\n']) := by
    have hs := Division.opening_append_join s
    rw [hblocks, Division.join, List.flatMap_append, List.flatMap_singleton, htext] at hs
    rw [← hs]
    simp only [← hp, Division.join, Position.after_append]
  -- The last block of `s` takes up the line feed and the opening of `t`; all other blocks stay.
  refine ⟨itemsFrom (Position.start.after (Division.ofText s).opening) before ++
    (linesFrom (p.after SectionKind.code.marker) (Text.pieces '\n' body)).map .line, fun t => ?_⟩
  have hlast : text ++ '\n' :: (Division.ofText t).opening =
      SectionKind.code.marker ++ (body ++ '\n' :: (Division.ofText t).opening) := by
    rw [htext, List.append_assoc]
  have hafter : p.after (SectionKind.code.marker ++ (body ++ '\n' :: (Division.ofText t).opening)) =
      (Position.start.after (s ++ ['\n'])).after (Division.ofText t).opening := by
    rw [← hposition, ← Position.after_append, List.append_assoc, List.append_assoc,
      List.singleton_append]
  rw [items_eq_itemsFrom, Division.ofText_append_newline, Division.ofText_newline,
    Division.append_of_blocks hblocks, itemsFrom_append]
  simp only [itemsFrom]
  rw [hp, hlast, blockItems_newline, hposition, hafter, resumed]
  simp only [List.append_assoc]

theorem lastKind?_newline (s : Text) : lastKind? (s ++ ['\n']) = lastKind? s := by
  rw [lastKind?_eq, lastKind?_eq, Division.ofText_append_newline, Division.kinds_append]
  exact congrArg List.getLast? (List.append_nil _)

theorem words_append (first second : List Item) :
    words (first ++ second) = words first + words second := by
  induction first with
  | nil => rw [List.nil_append, words_nil, Nat.zero_add]
  | cons item rest ih => rw [List.cons_append, words_cons, words_cons, ih, Nat.add_assoc]

/-- What goes on behind a document that ends with a line of code. The line that is open at the end
of the document is blank, so it adds nothing. -/
theorem exists_front {s : Text} (hend : s.getLast? = some '\n') (hcode : lastKind? s = some .code) :
    ∃ front, (∀ file?, read file? s = readFrom file? codeBase front) ∧ codeWords s = words front ∧
      ∀ t, items (s ++ t) = front ++ resumed (Position.start.down (s.count '\n')) t := by
  obtain ⟨u, rfl⟩ := List.getLast?_eq_some_iff.mp hend
  rw [lastKind?_newline] at hcode
  obtain ⟨front, hfront⟩ := exists_items_resumed hcode
  rw [Position.start_after (Or.inr hend)] at hfront
  have hopen := hfront []
  refine ⟨front, fun file? => ?_, ?_, fun t => ?_⟩
  · rw [read, hopen, readFrom_append]
    exact Contribution.append_empty _
  · rw [← words_items, hopen, words_append]
    rfl
  · rw [List.append_assoc]
    exact hfront t

section Resuming

variable {s : Text} (hend : s.getLast? = some '\n') (hcode : lastKind? s = some .code)

include hend hcode

theorem read_append_of_code (file? : Option String) (t : Text) :
    read file? (s ++ t) = read file? s ++ readFrom file? (codeBase + codeWords s)
      (resumed (Position.start.down (s.count '\n')) t) := by
  obtain ⟨front, hread, hwords, hitems⟩ := exists_front hend hcode
  rw [hread, hwords, read, hitems, readFrom_append]

theorem codeWords_append_of_code (t : Text) :
    codeWords (s ++ t) =
      codeWords s + words (resumed (Position.start.down (s.count '\n')) t) := by
  obtain ⟨front, _, hwords, hitems⟩ := exists_front hend hcode
  rw [hwords, ← words_items, hitems, words_append]

end Resuming

/-- A line with a marker of code. -/
def codeHead : Text := SectionKind.code.marker ++ ['\n']

theorem read_codeHead (file? : Option String) (t : Text) :
    read file? (codeHead ++ t) = readFrom file? codeBase (resumed (Position.start.down 1) t) := by
  have hempty : read file? codeHead = .empty := rfl
  have hwords : codeWords codeHead = 0 := rfl
  rw [read_append_of_code (by decide) (by decide), hempty, hwords]
  exact congrArg (Contribution.empty ++ readFrom file? · _) (Int.add_zero codeBase)

theorem codeWords_codeHead (t : Text) :
    codeWords (codeHead ++ t) = words (resumed (Position.start.down 1) t) := by
  rw [codeWords_append_of_code (by decide) (by decide)]
  exact Nat.zero_add _

/-- Text that goes on with a section of code is read as if it stood below a marker. -/
theorem readFrom_resumed (file? : Option String) (lines words : Nat) (t : Text) :
    readFrom file? (codeBase + words) (resumed (Position.start.down (lines + 1)) t) =
      (read file? (codeHead ++ t)).shift lines words := by
  have hposition : Position.start.down (lines + 1) = (Position.start.down 1).down lines := by
    simp only [Position.down, Nat.add_assoc, Nat.add_comm 1]
  rw [read_codeHead, hposition, resumed_down, readFrom_down]

/-- A line of a document, as it is read at the given position. -/
def lineAt (p : Position) (line : Text) : SourceLine :=
  ⟨Text.dropEndWhile (· == '\r') line, p.line, p.column⟩

section Lines

variable {line : Text} (hline : '\n' ∉ line) (hmarker : markersFrom 0 line = [])

include hline hmarker

theorem resumed_line (p : Position) : resumed p line = [.line (lineAt p line)] := by
  have hblocks := (Division.blocks_eq_nil_iff line).mpr hmarker
  rw [resumed, Division.opening_of_blocks_nil hblocks, hblocks, Text.pieces_of_not_mem hline]
  rfl

theorem resumed_line_append (p : Position) (t : Text) :
    resumed p (line ++ '\n' :: t) = .line (lineAt p line) :: resumed p.nextLine t := by
  have hblocks := (Division.blocks_eq_nil_iff line).mpr hmarker
  have hdivision : Division.ofText (line ++ '\n' :: t) =
      ⟨line ++ '\n' :: (Division.ofText t).opening, (Division.ofText t).blocks⟩ := by
    rw [Division.ofText_append_newline, Division.append_of_blocks_nil hblocks,
      Division.opening_of_blocks_nil hblocks, Division.ofText_newline]
  have hafter : p.after (line ++ ['\n']) = p.nextLine := by
    rw [Position.after_append_newline, List.count_eq_zero_of_not_mem hline]
    rfl
  have hrest : p.after (line ++ '\n' :: (Division.ofText t).opening) =
      p.nextLine.after (Division.ofText t).opening := by
    rw [← hafter, ← Position.after_append, List.append_assoc]
    rfl
  rw [resumed, hdivision]
  simp only
  rw [linesFrom_pieces_append, hafter, hrest, Text.pieces_of_not_mem hline]
  rfl

/-- A line of code is read on its own, at the line and address that what precedes it gives. -/
theorem read_line {s : Text} (hend : s.getLast? = some '\n') (hcode : lastKind? s = some .code)
    (file? : Option String) (t : Text) :
    let l := lineAt (Position.start.down (s.count '\n')) line
    read file? (s ++ (line ++ '\n' :: t)) = read file? s ++
      (l.read file? (codeBase + codeWords s) ++
        readFrom file? (codeBase + (codeWords s + l.words : Nat))
          (resumed (Position.start.down (s.count '\n' + 1)) t)) := by
  intro l
  rw [read_append_of_code hend hcode, resumed_line_append hline hmarker, readFrom_cons,
    Int.natCast_add, ← Int.add_assoc]
  rfl

theorem words_codeHead_line (p : Position) : codeWords (codeHead ++ line) = (lineAt p line).words := by
  rw [codeWords_codeHead, resumed_line hline hmarker, words_cons, words_nil, Item.words,
    SourceLine.words_eq, SourceLine.words_eq]
  rfl

end Lines

end Document

/-- Documents are read part by part. A text that starts with a marker adds to a document of whole
lines what it is as a document, further down and at further addresses, and any text adds to a
document that ends in a section of code what it is below a marker of code. So each line of code adds
what it adds on its own, moved by the lines and words before it, and leaves the rest alone. -/
theorem read_compositional (file? : Option String) (s t : Text) :
    ((s = [] ∨ s.getLast? = some '\n') → (marker? t).isSome = true →
      Document.read file? (s ++ t) = Document.read file? s ++
        (Document.read file? t).shift (s.count '\n') (Document.codeWords s)) ∧
    (s.getLast? = some '\n' → Document.lastKind? s = some .code →
      Document.read file? (s ++ t) = Document.read file? s ++
        (Document.read file? (Document.codeHead ++ t)).shift (s.count '\n' - 1)
          (Document.codeWords s)) ∧
    (s.getLast? = some '\n' → Document.lastKind? s = some .code →
      ∀ line, '\n' ∉ line → markersFrom 0 line = [] →
        Document.read file? (s ++ (line ++ '\n' :: t)) = Document.read file? s ++
          ((Document.read file? (Document.codeHead ++ line)).shift (s.count '\n' - 1)
              (Document.codeWords s) ++
            (Document.read file? (Document.codeHead ++ t)).shift (s.count '\n')
              (Document.codeWords s + Document.codeWords (Document.codeHead ++ line)))) := by
  have hcount : s.getLast? = some '\n' → s.count '\n' = s.count '\n' - 1 + 1 := by
    intro hend
    have hpos : 0 < s.count '\n' := List.count_pos_iff.mpr (List.mem_of_getLast? hend)
    omega
  refine ⟨?_, ?_, ?_⟩
  · intro hs ht
    rw [Document.read, Document.items_append_of_marker hs ht, Document.readFrom_append,
      Document.words_items, Document.readFrom_down]
    rfl
  · intro hend hcode
    rw [Document.read_append_of_code hend hcode, hcount hend, Document.readFrom_resumed,
      Nat.add_sub_cancel]
  · intro hend hcode line hline hmarker
    have hown : (Document.read file? (Document.codeHead ++ line)).shift (s.count '\n' - 1)
        (Document.codeWords s) =
          (Document.lineAt (Position.start.down (s.count '\n')) line).read file?
            (codeBase + Document.codeWords s) := by
      rw [← Document.readFrom_resumed, ← hcount hend, Document.resumed_line hline hmarker]
      exact Contribution.append_empty _
    rw [Document.read_line hline hmarker hend hcode, hown, Document.readFrom_resumed,
      Document.words_codeHead_line hline hmarker]

/-- A literal that cannot be read still moves the addresses behind it. -/
theorem read_compositional_bad_literal :
    let s := ".code\n!zz\n".toList
    let t := ".memory 1g".toList
    let line := "\tnop ; x\r".toList
    (s.getLast? = some '\n' ∧ Document.lastKind? s = some .code ∧ (marker? t).isSome = true ∧
      '\n' ∉ line ∧ markersFrom 0 line = [] ∧ Document.codeWords s = 1 ∧
      Document.codeWords (Document.codeHead ++ line) = 1) ∧
    Document.read none (s ++ t) = Document.read none s ++ (Document.read none t).shift 2 1 ∧
    Document.read none (s ++ t) = Document.read none s ++
      (Document.read none (Document.codeHead ++ t)).shift 1 1 ∧
    Document.read none (s ++ (line ++ '\n' :: t)) = Document.read none s ++
      ((Document.read none (Document.codeHead ++ line)).shift 1 1 ++
        (Document.read none (Document.codeHead ++ t)).shift 2 2) := by
  intro s t line
  have hend : s.getLast? = some '\n' := by decide
  have hcode : Document.lastKind? s = some .code := by decide
  have ht : (marker? t).isSome = true := by decide
  have hline : '\n' ∉ line := by decide
  have hmarker : markersFrom 0 line = [] := by decide
  have hwords : Document.codeWords s = 1 := by decide +kernel
  have hown : Document.codeWords (Document.codeHead ++ line) = 1 := by decide +kernel
  obtain ⟨hdocument, hresumed, hlines⟩ := read_compositional none s t
  have hthird := hlines hend hcode line hline hmarker
  rw [hown] at hthird
  rw [hwords] at hdocument hresumed hthird
  exact ⟨⟨hend, hcode, ht, hline, hmarker, hwords, hown⟩, hdocument (Or.inr hend) ht,
    hresumed hend hcode, hthird⟩

end AsmCheck
