import AsmCheck.Statement
import AsmCheck.Proofs.Layout
import AsmCheck.Proofs.Trimming
import Mathlib.Data.List.TakeWhile

/-!
# Decomposition of a line

The code of a line is blanks, an instruction, an optional size, a gap and a list of operands. All
facts about the spans of a statement come from the layout that these parts give to the line: the
operands are located by adding up lengths of untrimmed pieces, and the layout shows that the sums
are the columns at which the trimmed texts stand.
-/

namespace AsmCheck

set_option autoImplicit false

/-- A line without the line end that closes it. -/
def lineContent (line : Text) : Text := Text.dropEndWhile Statement.isLineEnd line

/-- The spans of a statement from left to right. -/
def Statement.spans (s : Statement) : List Span :=
  s.instruction :: (s.size?.toList ++ (s.operands ++ s.comment?.toList))

/-- The characters between spans are blanks and the given number of commas. -/
structure Separators (gaps : Text) (commas : Nat) : Prop where
  chars : ∀ c ∈ gaps, Text.isBlank c = true ∨ c = ','
  count : gaps.count ',' = commas

namespace Separators

theorem ofBlank {t : Text} (h : Text.AllBlank t) : Separators t 0 := by
  refine ⟨fun c hc => Or.inl (h c hc), List.count_eq_zero.mpr ?_⟩
  intro hmem
  have hblank := h ',' hmem
  exact absurd hblank (by decide)

theorem comma : Separators [','] 1 := ⟨by simp, by simp⟩

theorem append {s t : Text} {m n : Nat} (hs : Separators s m) (ht : Separators t n) :
    Separators (s ++ t) (m + n) := by
  refine ⟨?_, by rw [List.count_append, hs.count, ht.count]⟩
  intro c hc
  rcases List.mem_append.mp hc with hc | hc
  · exact hs.chars c hc
  · exact ht.chars c hc

end Separators

theorem piece_laid (column : Nat) (piece : Text) :
    ∃ gaps, Laid column piece
        [Span.ofText (column + Text.indent piece) (Text.trim piece)] gaps ∧
      Separators gaps 0 := by
  obtain ⟨tail, hpiece, htail⟩ := Text.exists_trim piece
  refine ⟨piece.takeWhile Text.isBlank ++ tail, ?_,
    .ofBlank (Text.allBlank_append (Text.allBlank_leading piece) htail)⟩
  have hword := Laid.single (column + Text.indent piece) (Text.trim piece)
  have hlaid := (Laid.gap column (piece.takeWhile Text.isBlank)).append
    (hword.append (Laid.gap _ tail))
  rw [← hpiece] at hlaid
  simpa using hlaid

/-- The operands of a list are laid out over the list, with one comma between each two. -/
theorem locateOperands_laid (column : Nat) (first : Text) (more : List Text) :
    ∃ gaps, Laid column (Text.join [','] (first :: more))
        (locateOperands column (first :: more)) gaps ∧
      Separators gaps more.length := by
  induction more generalizing column first with
  | nil =>
    obtain ⟨gaps, hlaid, hgaps⟩ := piece_laid column first
    exact ⟨gaps, by simpa [Text.join, locateOperands] using hlaid, hgaps⟩
  | cons second more ih =>
    obtain ⟨gaps, hlaid, hgaps⟩ := piece_laid column first
    obtain ⟨gaps', hlaid', hgaps'⟩ := ih (column + first.length + 1) second
    refine ⟨gaps ++ ([','] ++ gaps'), ?_, ?_⟩
    · rw [Text.join_cons_cons]
      exact hlaid.append ((Laid.gap (column + first.length) [',']).append hlaid')
    · have hall := hgaps.append (Separators.comma.append hgaps')
      rwa [List.length_cons, Nat.add_comm more.length, ← Nat.zero_add (1 + more.length)]

theorem locateOperands_length (column : Int) (pieces : List Text) :
    (locateOperands column pieces).length = pieces.length := by
  induction pieces generalizing column with
  | nil => rfl
  | cons piece rest ih => simp [locateOperands, ih]

theorem locateOperands_text {column : Int} {pieces : List Text} {op : Span}
    (h : op ∈ locateOperands column pieces) : ∃ piece ∈ pieces, op.text = Text.trim piece := by
  induction pieces generalizing column with
  | nil => simp [locateOperands] at h
  | cons piece rest ih =>
    rcases List.mem_cons.mp h with rfl | h
    · exact ⟨piece, List.mem_cons_self, rfl⟩
    · obtain ⟨other, hmem, htext⟩ := ih h
      exact ⟨other, List.mem_cons_of_mem piece hmem, htext⟩

theorem mem_of_mem_trim {t : Text} {c : Char} (h : c ∈ Text.trim t) : c ∈ t := by
  obtain ⟨tail, ht, _⟩ := Text.exists_trim t
  rw [ht]
  simp [h]

theorem operandSpans_text {list : Text} {column : Int} {op : Span}
    (h : op ∈ operandSpans list column) :
    ',' ∉ op.text ∧ Text.Trimmed op.text ∧ ∀ c ∈ op.text, c ∈ list := by
  unfold operandSpans at h
  split at h
  · simp at h
  · obtain ⟨piece, hpiece, htext⟩ := locateOperands_text h
    rw [htext]
    refine ⟨?_, Text.trim_trimmed piece, ?_⟩
    · intro hcomma
      exact Text.not_mem_of_mem_pieces hpiece (mem_of_mem_trim hcomma)
    · intro c hc
      exact Text.mem_of_mem_pieces hpiece (mem_of_mem_trim hc)

theorem operandSpans_laid (column : Nat) {list : Text}
    (hhead : ∀ c ∈ list.head?, Text.isBlank c = false) :
    ∃ gaps, Laid column list (operandSpans list column) gaps ∧
      Separators gaps ((operandSpans list column).length - 1) := by
  unfold operandSpans
  split
  · rename_i hblank
    have hnil : list = [] := by
      cases list with
      | nil => rfl
      | cons c rest =>
        have hc := hhead c rfl
        have hc' := (Text.isBlankText_iff (c :: rest)).mp hblank c List.mem_cons_self
        rw [hc] at hc'
        exact absurd hc' (by decide)
    subst hnil
    exact ⟨[], .done column, .ofBlank (by simp [Text.AllBlank])⟩
  · cases hp : Text.pieces ',' list with
    | nil => exact absurd hp (Text.pieces_ne_nil ',' list)
    | cons first more =>
      obtain ⟨gaps, hlaid, hgaps⟩ := locateOperands_laid column first more
      rw [← hp, Text.join_pieces] at hlaid
      refine ⟨gaps, by rw [← hp]; exact hlaid, ?_⟩
      rw [locateOperands_length]
      simpa using hgaps

theorem locateOperands_start {column : Int} {pieces : List Text} {op : Span}
    (h : op ∈ locateOperands column pieces) : column ≤ op.start := by
  induction pieces generalizing column with
  | nil => simp [locateOperands] at h
  | cons piece rest ih =>
    rcases List.mem_cons.mp h with rfl | h
    · simp only [Span.ofText]
      omega
    · have hstart := ih h
      omega

/-- Between two operands stands a comma, so their spans do not even touch. -/
theorem operandSpans_separate (list : Text) (column : Int) :
    (operandSpans list column).Pairwise fun a b => a.stop < b.start := by
  have hlocate : ∀ pieces : List Text, ∀ column : Int,
      (locateOperands column pieces).Pairwise fun a b => a.stop < b.start := by
    intro pieces
    induction pieces with
    | nil => exact fun _ => .nil
    | cons piece rest ih =>
      intro column
      apply List.pairwise_cons.mpr
      refine ⟨?_, ih _⟩
      intro op hop
      have hstart := locateOperands_start hop
      obtain ⟨tail, hpiece, _⟩ := Text.exists_trim piece
      have hlen := congrArg List.length hpiece
      simp only [List.length_append] at hlen
      simp only [Span.ofText, Text.indent]
      omega
  unfold operandSpans
  split
  · exact .nil
  · exact hlocate _ _

/-- The code of a line with an instruction, cut into its parts. A list of operands stands behind
at least one blank, since instruction and size reach up to the next blank. -/
@[ext] structure CodeParts (code : Text) where
  lead : Text
  instruction : Text
  size : Text
  gap : Text
  list : Text
  code_eq : code = lead ++ (instruction ++ (size ++ (gap ++ list)))
  lead_blank : Text.AllBlank lead
  instruction_ne_nil : instruction ≠ []
  instruction_chars : ∀ c ∈ instruction, Statement.isInstructionChar c = true
  size_shape : size = [] ∨ ∃ letters, size = '.' :: letters ∧ ∀ c ∈ letters, Text.isBlank c = false
  gap_blank : Text.AllBlank gap
  gap_ne_nil : list ≠ [] → gap ≠ []
  list_head : ∀ c ∈ list.head?, Text.isBlank c = false

namespace CodeParts

variable {code : Text}

def sizeColumn (p : CodeParts code) : Nat := p.lead.length + p.instruction.length

def gapColumn (p : CodeParts code) : Nat := p.sizeColumn + p.size.length

def listColumn (p : CodeParts code) : Nat := p.gapColumn + p.gap.length

/-- The statement that the parts of the code make together with a comment. -/
def statement (p : CodeParts code) (comment? : Option Span) : Statement :=
  { instruction := Span.ofText p.lead.length p.instruction
    size? := if p.size.isEmpty then none else some (Span.ofText p.sizeColumn p.size)
    operands := operandSpans p.list p.listColumn
    comment? := comment? }

theorem size_laid (p : CodeParts code) (comment? : Option Span) :
    Laid p.sizeColumn p.size (p.statement comment?).size?.toList [] := by
  by_cases hsize : p.size = []
  · simpa [statement, hsize] using Laid.done p.sizeColumn
  · simpa [statement, hsize] using Laid.single p.sizeColumn p.size

theorem laid (p : CodeParts code) (comment? : Option Span) :
    ∃ gaps, Laid 0 code ((p.statement comment?).instruction ::
        ((p.statement comment?).size?.toList ++ (p.statement comment?).operands)) gaps ∧
      Separators gaps ((p.statement comment?).operands.length - 1) := by
  obtain ⟨gaps, hlist, hgaps⟩ := operandSpans_laid p.listColumn p.list_head
  refine ⟨p.lead ++ (p.gap ++ gaps), ?_, ?_⟩
  · have hinstruction := Laid.single p.lead.length p.instruction
    have hgap := Laid.gap p.gapColumn p.gap
    have hcode := hinstruction.append ((p.size_laid comment?).append (hgap.append hlist))
    have hlaid := (Laid.gap 0 p.lead).append (by simpa using hcode)
    rw [← p.code_eq] at hlaid
    simpa [statement] using hlaid
  · have hall := (Separators.ofBlank p.lead_blank).append
      ((Separators.ofBlank p.gap_blank).append hgaps)
    simpa [statement] using hall

end CodeParts

theorem leadingSize_shape (t : Text) :
    Statement.leadingSize t = [] ∨ ∃ letters, Statement.leadingSize t = '.' :: letters ∧
      ∀ c ∈ letters, Text.isBlank c = false := by
  unfold Statement.leadingSize
  split
  · rename_i rest
    refine Or.inr ⟨_, rfl, ?_⟩
    intro c hc
    simpa using List.mem_takeWhile_imp hc
  · exact Or.inl rfl

theorem drop_leadingSize (rest : Text) :
    List.drop (Statement.leadingSize ('.' :: rest)).length ('.' :: rest) =
      rest.dropWhile (!Text.isBlank ·) := by
  change rest.drop (rest.takeWhile (!Text.isBlank ·)).length = _
  exact Text.drop_length_takeWhile _ rest

theorem leadingSize_of_ne {c : Char} (hc : c ≠ '.') (rest : Text) :
    Statement.leadingSize (c :: rest) = [] := by
  unfold Statement.leadingSize
  split
  · rename_i heq
    exact absurd (List.cons.inj heq).1 hc
  · rfl

theorem leadingSize_append (t : Text) :
    Statement.leadingSize t ++ t.drop (Statement.leadingSize t).length = t := by
  cases t with
  | nil => rfl
  | cons c rest =>
    by_cases hc : c = '.'
    · subst hc
      rw [drop_leadingSize]
      change '.' :: (rest.takeWhile (!Text.isBlank ·) ++ rest.dropWhile (!Text.isBlank ·)) = _
      rw [List.takeWhile_append_dropWhile]
    · simp [leadingSize_of_ne hc]

/-- What follows an instruction and its size is nothing or starts with a blank. -/
theorem head?_drop_leadingSize {t : Text}
    (ht : ∀ c ∈ t.head?, Statement.isInstructionChar c = false) :
    ∀ c ∈ (t.drop (Statement.leadingSize t).length).head?, Text.isBlank c = true := by
  cases t with
  | nil => simp
  | cons first rest =>
    intro c hc
    by_cases hdot : first = '.'
    · subst hdot
      rw [drop_leadingSize] at hc
      simpa using Text.head?_dropWhile (!Text.isBlank ·) rest c hc
    · rw [leadingSize_of_ne hdot] at hc
      have hfirst : first = c := Option.some.inj hc
      subst hfirst
      have hnot := ht first rfl
      simpa [Statement.isInstructionChar, hdot] using hnot

/-- The instruction at the head of some code. -/
def leadingInstruction (code : Text) : Text :=
  (Text.trimStart code).takeWhile Statement.isInstructionChar

def afterInstruction (code : Text) : Text :=
  (Text.trimStart code).dropWhile Statement.isInstructionChar

def afterSize (code : Text) : Text :=
  (afterInstruction code).drop (Statement.leadingSize (afterInstruction code)).length

theorem code_eq_parts (code : Text) :
    code = code.takeWhile Text.isBlank ++ (leadingInstruction code ++
      (Statement.leadingSize (afterInstruction code) ++
        ((afterSize code).takeWhile Text.isBlank ++ Text.trimStart (afterSize code)))) := by
  have hgap : (afterSize code).takeWhile Text.isBlank ++ Text.trimStart (afterSize code) =
      afterSize code := List.takeWhile_append_dropWhile
  have hsize : Statement.leadingSize (afterInstruction code) ++ afterSize code =
      afterInstruction code := leadingSize_append (afterInstruction code)
  have hinstruction : leadingInstruction code ++ afterInstruction code = Text.trimStart code :=
    List.takeWhile_append_dropWhile
  rw [hgap, hsize, hinstruction]
  exact List.takeWhile_append_dropWhile.symm

/-- The parts of code that has an instruction at its head. -/
def CodeParts.ofCode (code : Text) (h : leadingInstruction code ≠ []) : CodeParts code where
  lead := code.takeWhile Text.isBlank
  instruction := leadingInstruction code
  size := Statement.leadingSize (afterInstruction code)
  gap := (afterSize code).takeWhile Text.isBlank
  list := Text.trimStart (afterSize code)
  code_eq := code_eq_parts code
  lead_blank := Text.allBlank_leading code
  instruction_ne_nil := h
  instruction_chars := fun _ hc => List.mem_takeWhile_imp hc
  size_shape := leadingSize_shape (afterInstruction code)
  gap_blank := Text.allBlank_leading (afterSize code)
  gap_ne_nil := by
    intro hlist hgap
    cases hafter : afterSize code with
    | nil => simp [hafter, Text.trimStart] at hlist
    | cons c rest =>
      have hblank : Text.isBlank c = true := by
        apply head?_drop_leadingSize (t := afterInstruction code)
          (Text.head?_dropWhile Statement.isInstructionChar _)
        change (afterSize code).head? = some c
        rw [hafter]
        rfl
      rw [hafter, List.takeWhile_cons_of_pos hblank] at hgap
      simp at hgap
  list_head := Text.trimStart_head? (afterSize code)

theorem ofLine?_eq_some {line : Text}
    (h : leadingInstruction (codePart (lineContent line)) ≠ []) :
    Statement.ofLine? line = some
      ((CodeParts.ofCode _ h).statement (commentSpan? (lineContent line))) := by
  have hempty : (leadingInstruction (codePart (lineContent line))).isEmpty = false := by
    simpa using h
  change (if (leadingInstruction (codePart (lineContent line))).isEmpty then none else some _) = _
  rw [hempty]
  rfl

theorem ofLine?_eq_none_iff (line : Text) :
    Statement.ofLine? line = none ↔ leadingInstruction (codePart (lineContent line)) = [] := by
  constructor
  · intro h
    by_contra hne
    rw [ofLine?_eq_some hne] at h
    simp at h
  · intro h
    change (if (leadingInstruction (codePart (lineContent line))).isEmpty then none else some _) = _
    rw [h]
    rfl

theorem ofLine?_parts {line : Text} {s : Statement} (h : Statement.ofLine? line = some s) :
    ∃ p : CodeParts (codePart (lineContent line)),
      s = p.statement (commentSpan? (lineContent line)) := by
  by_cases hne : leadingInstruction (codePart (lineContent line)) = []
  · rw [(ofLine?_eq_none_iff line).mpr hne] at h
    simp at h
  · rw [ofLine?_eq_some hne] at h
    exact ⟨_, (Option.some.inj h).symm⟩

theorem codePart_append (line : Text) :
    codePart line ++ line.dropWhile (· != ';') = line := List.takeWhile_append_dropWhile

theorem not_mem_codePart (line : Text) : ';' ∉ codePart line := by
  intro h
  have hne := List.mem_takeWhile_imp h
  simp at hne

theorem codePart_of_not_mem {line : Text} (h : ';' ∉ line) :
    codePart line = line ∧ line.dropWhile (· != ';') = [] := by
  have hall : ∀ c ∈ line, (c != ';') = true := by
    intro c hc
    have hne : c ≠ ';' := fun heq => h (heq ▸ hc)
    simpa using hne
  exact ⟨List.takeWhile_eq_self_iff.mpr hall, List.dropWhile_eq_nil_iff.mpr hall⟩

theorem commentSpan?_laid (line : Text) :
    Laid (codePart line).length (line.dropWhile (· != ';')) (commentSpan? line).toList [] := by
  unfold commentSpan?
  split
  · rename_i hnil
    rw [hnil]
    exact .done _
  · exact .single _ _

theorem idxOf_semicolon {line : Text} (h : ';' ∈ line) :
    line.idxOf ';' = (codePart line).length := by
  induction line with
  | nil => simp at h
  | cons c rest ih =>
    by_cases hc : c = ';'
    · subst hc
      simp [codePart, Text.before]
    · have hrest : ';' ∈ rest := by
        rcases List.mem_cons.mp h with heq | hmem
        · exact absurd heq.symm hc
        · exact hmem
      have hcode : codePart (c :: rest) = c :: codePart rest := by
        simp [codePart, Text.before, hc]
      rw [hcode, List.length_cons, List.idxOf_cons_ne rest hc, ih hrest]

theorem commentSpan?_eq (line : Text) :
    commentSpan? line =
      if ';' ∈ line then some ⟨line.idxOf ';', line.length, line.drop (line.idxOf ';')⟩
      else none := by
  have hline := codePart_append line
  split
  · rename_i hmem
    have hdrop : line.drop (codePart line).length = line.dropWhile (· != ';') :=
      Text.drop_length_takeWhile _ line
    have hlen := congrArg List.length hline
    rw [List.length_append] at hlen
    rw [idxOf_semicolon hmem, hdrop]
    unfold commentSpan?
    split
    · rename_i hnil
      rw [hnil, List.append_nil] at hline
      have hcode : ';' ∈ codePart line := by rw [hline]; exact hmem
      exact absurd hcode (not_mem_codePart line)
    · simp only [Span.ofText, Option.some.injEq, Span.mk.injEq, and_true, true_and]
      omega
  · rename_i hmem
    have hnil : line.dropWhile (· != ';') = [] := by
      rw [List.dropWhile_eq_nil_iff]
      intro c hc
      have hne : c ≠ ';' := fun heq => hmem (heq ▸ hc)
      simpa using hne
    simp [commentSpan?, hnil]

end AsmCheck
