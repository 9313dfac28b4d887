import AsmCheck.Proofs.Decomposition

/-!
# Spans of a statement

A line gives a statement unless its code is blank or starts with a dot. The spans of the statement
are exact: they are slices of the line in their order, and nothing but blanks and the commas
between operands is left outside them.
-/

namespace AsmCheck

set_option autoImplicit false

/-- What a statement has to say about the line that it was cut from. -/
structure Statement.Decomposes (line : Text) (s : Statement) : Prop where
  cut : ∀ span ∈ s.spans, span.CutFrom line
  ordered : s.spans.Pairwise fun a b => a.stop ≤ b.start
  instruction_ne_nil : s.instruction.text ≠ []
  size_start : ∀ size ∈ s.size?, size.start = s.instruction.stop
  operand_text : ∀ op ∈ s.operands, ',' ∉ op.text ∧ ';' ∉ op.text ∧ Text.Trimmed op.text
  comment_eq : s.comment? =
    if ';' ∈ line then some ⟨line.idxOf ';', line.length, line.drop (line.idxOf ';')⟩ else none
  gaps : ∀ c ∈ uncovered s.spans line, Text.isBlank c = true ∨ c = ','
  commas : (uncovered s.spans line).count ',' = s.operands.length - 1

theorem leadingInstruction_eq_nil_iff (code : Text) :
    leadingInstruction code = [] ↔
      Text.AllBlank code ∨ code.find? (!Text.isBlank ·) = some '.' := by
  rw [← Text.trimStart_eq_nil_iff, List.find?_not_eq_head?_dropWhile Text.isBlank code]
  change _ ↔ _ ∨ (Text.trimStart code).head? = some '.'
  unfold leadingInstruction
  have hhead := Text.trimStart_head? code
  cases hbody : Text.trimStart code with
  | nil => simp
  | cons c rest =>
    have hc : Text.isBlank c = false := hhead c (by rw [hbody]; rfl)
    by_cases hdot : c = '.' <;> simp [Statement.isInstructionChar, hc, hdot]

/-- The comment completes the layout of the code to a layout of the line. -/
theorem CodeParts.statement_laid {line : Text} (p : CodeParts (codePart line)) :
    ∃ gaps, Laid 0 line (p.statement (commentSpan? line)).spans gaps ∧
      Separators gaps ((p.statement (commentSpan? line)).operands.length - 1) := by
  obtain ⟨gaps, hcode, hgaps⟩ := p.laid (commentSpan? line)
  have hcomment := commentSpan?_laid line
  rw [← Nat.zero_add (codePart line).length] at hcomment
  have hline := hcode.append hcomment
  rw [codePart_append, List.append_nil] at hline
  exact ⟨gaps, by simpa [Statement.spans, CodeParts.statement] using hline, hgaps⟩

theorem CodeParts.size_start {code : Text} (p : CodeParts code) (comment? : Option Span) :
    ∀ size ∈ (p.statement comment?).size?,
      size.start = (p.statement comment?).instruction.stop := by
  intro size hsize
  by_cases hnil : p.size = []
  · simp [CodeParts.statement, hnil] at hsize
  · have heq : Span.ofText p.sizeColumn p.size = size := by
      simpa [CodeParts.statement, hnil] using hsize
    rw [← heq]
    simp [CodeParts.statement, Span.ofText, CodeParts.sizeColumn]

theorem CodeParts.operand_text {line : Text} (p : CodeParts (codePart line))
    (comment? : Option Span) :
    ∀ op ∈ (p.statement comment?).operands,
      ',' ∉ op.text ∧ ';' ∉ op.text ∧ Text.Trimmed op.text := by
  intro op hop
  obtain ⟨hcomma, htrimmed, hchars⟩ := operandSpans_text hop
  refine ⟨hcomma, ?_, htrimmed⟩
  intro hsemicolon
  apply not_mem_codePart line
  have hlist := hchars ';' hsemicolon
  rw [p.code_eq]
  simp [hlist]

theorem Statement.trimmed_of_mem_operands {line : Text} {s : Statement}
    (h : Statement.ofLine? line = some s) : ∀ op ∈ s.operands, Text.Trimmed op.text := by
  obtain ⟨p, rfl⟩ := ofLine?_parts h
  intro op hop
  exact (p.operand_text _ op hop).2.2

theorem CodeParts.decomposes {line : Text} (p : CodeParts (codePart line)) :
    (p.statement (commentSpan? line)).Decomposes line := by
  obtain ⟨gaps, hlaid, hgaps⟩ := p.statement_laid
  have huncovered : uncovered (p.statement (commentSpan? line)).spans line = gaps :=
    hlaid.uncoveredFrom_eq [] (by simp)
  exact
    { cut := fun _ hs => hlaid.cutFrom hs [] rfl
      ordered := hlaid.ordered
      instruction_ne_nil := p.instruction_ne_nil
      size_start := p.size_start _
      operand_text := p.operand_text _
      comment_eq := commentSpan?_eq line
      gaps := by rw [huncovered]; exact hgaps.chars
      commas := by rw [huncovered]; exact hgaps.count }

/-- A line has no statement exactly if its code is blank or starts with a dot, and the statement
of any other line accounts for all of its characters. -/
theorem ofLine?_decomposes (line : Text) :
    (Statement.ofLine? line = none ↔
      (∀ c ∈ Text.before ';' (lineContent line), Text.isBlank c = true) ∨
        (Text.before ';' (lineContent line)).find? (!Text.isBlank ·) = some '.') ∧
    ∀ s, Statement.ofLine? line = some s → s.Decomposes (lineContent line) := by
  constructor
  · rw [ofLine?_eq_none_iff]
    exact leadingInstruction_eq_nil_iff (codePart (lineContent line))
  · intro s hs
    obtain ⟨p, rfl⟩ := ofLine?_parts hs
    exact p.decomposes

/-- A size that swallows a comma, an empty operand, a comment and a line end. -/
theorem ofLine?_decomposes_empty_operand :
    let line := "\tadd.b,  r0 ,,\u3000c1;x\r\n".toList
    let s : Statement :=
      { instruction := ⟨1, 4, "add".toList⟩
        size? := some ⟨4, 7, ".b,".toList⟩
        operands := [⟨9, 11, "r0".toList⟩, ⟨13, 13, []⟩, ⟨15, 17, "c1".toList⟩]
        comment? := some ⟨17, 19, ";x".toList⟩ }
    Statement.ofLine? line = some s ∧ s.Decomposes (lineContent line) := by
  intro line s
  have hs : Statement.ofLine? line = some s := by decide
  exact ⟨hs, (ofLine?_decomposes line).2 s hs⟩

end AsmCheck
