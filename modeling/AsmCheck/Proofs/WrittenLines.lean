import AsmCheck.Proofs.Tokens
import Mathlib.Data.Bool.AllAny

/-!
# Written lines

A line is written from an instruction, a size, operands and a comment, with blanks in front of it,
behind its head and around every comma. Reading the line gives back the texts from which it was
written. Blanks between the head and the first comma may belong to an empty first operand, and a
line end may be cut off behind an empty last one; neither changes the texts of the operands.
-/

namespace AsmCheck

set_option autoImplicit false

/-- A comma between two operands, with blanks on both sides. -/
structure Comma where
  before : Text
  after : Text
  before_blank : Text.AllBlank before
  after_blank : Text.AllBlank after

/-- Operands in a row. The first comma stands behind the first operand, and so on. -/
def joinOperands (commas : Nat → Comma) : List Text → Text
  | [] => []
  | [op] => op
  | op :: next :: more =>
    op ++ ((commas 0).before ++ ',' :: ((commas 0).after ++
      joinOperands (fun i => commas (i + 1)) (next :: more)))

/-- What a line is written from. -/
structure Writing where
  indentation : Text
  instruction : Text
  size? : Option Text
  gap : Text
  operands : List Text
  commas : Nat → Comma
  comment? : Option Text
  indentation_blank : Text.AllBlank indentation
  instruction_ne_nil : instruction ≠ []
  instruction_chars : ∀ c ∈ instruction, Text.isBlank c = false ∧ c ≠ '.' ∧ c ≠ ';'
  size_shape : ∀ size ∈ size?, ∃ letters, size = '.' :: letters ∧
    ∀ c ∈ letters, Text.isBlank c = false ∧ c ≠ ';'
  gap_blank : Text.AllBlank gap
  gap_ne_nil : operands ≠ [] → gap ≠ []
  operand_text : ∀ op ∈ operands, ',' ∉ op ∧ ';' ∉ op ∧ Text.Trimmed op
  /-- A single operand that is empty leaves no trace in the line. -/
  operands_ne : operands ≠ [[]]
  comment_shape : ∀ comment ∈ comment?, comment.head? = some ';' ∧
    comment.getLast? ≠ some '\r' ∧ comment.getLast? ≠ some '\n'

namespace Writing

variable (w : Writing)

def list : Text := joinOperands w.commas w.operands

def code : Text :=
  w.indentation ++ (w.instruction ++ (w.size?.getD [] ++ (w.gap ++ w.list)))

/-- The written line. Nothing stands between the code and the comment. -/
def line : Text := w.code ++ w.comment?.getD []

end Writing

/-- Blanks in front of a list belong to its first piece. -/
theorem map_trim_pieces_append_left {blanks : Text} (hblanks : Text.AllBlank blanks) (t : Text) :
    (Text.pieces ',' (blanks ++ t)).map Text.trim = (Text.pieces ',' t).map Text.trim := by
  induction blanks with
  | nil => rfl
  | cons c blanks ih =>
    have hc : Text.isBlank c = true := hblanks c List.mem_cons_self
    have hcomma : c ≠ ',' := by
      rintro rfl
      exact absurd hc (by decide)
    obtain ⟨piece, more, hpieces, hall⟩ := Text.exists_pieces_cons hcomma (blanks ++ t)
    have htrim : Text.trim (c :: piece) = Text.trim piece := by
      rw [Text.trim, Text.trimStart, List.dropWhile_cons_of_pos hc]
      rfl
    rw [List.cons_append, hall, List.map_cons, htrim, ← List.map_cons, ← hpieces]
    exact ih fun d hd => hblanks d (List.mem_cons_of_mem c hd)

theorem operandTexts_trimStart (list : Text) :
    operandTexts (Text.trimStart list) = operandTexts list := by
  have hlist : list.takeWhile Text.isBlank ++ Text.trimStart list = list :=
    List.takeWhile_append_dropWhile
  have hblank : Text.isBlankText (Text.trimStart list) = Text.isBlankText list := by
    rw [Bool.eq_iff_iff, Text.isBlankText_iff, Text.isBlankText_iff]
    constructor
    · intro h
      rw [← hlist]
      exact Text.allBlank_append (Text.allBlank_leading list) h
    · intro h c hc
      exact h c (List.dropWhile_subset _ hc)
  have hpieces := map_trim_pieces_append_left (Text.allBlank_leading list) (Text.trimStart list)
  rw [hlist] at hpieces
  rw [operandTexts, operandTexts, hblank, hpieces]

/-- Cutting a row of operands at its commas and trimming the pieces gives the operands. -/
theorem map_trim_pieces_joinOperands (commas : Nat → Comma) {ops : List Text} (hne : ops ≠ [])
    (hops : ∀ op ∈ ops, ',' ∉ op ∧ Text.Trimmed op) :
    (Text.pieces ',' (joinOperands commas ops)).map Text.trim = ops := by
  induction ops generalizing commas with
  | nil => exact absurd rfl hne
  | cons op rest ih =>
    obtain ⟨hcomma, htrimmed⟩ := hops op List.mem_cons_self
    cases rest with
    | nil =>
      rw [joinOperands, Text.pieces_of_not_mem hcomma, List.map_singleton,
        Text.trim_of_trimmed htrimmed]
    | cons next more =>
      have hfirst : ',' ∉ op ++ (commas 0).before := by
        intro h
        rcases List.mem_append.mp h with h | h
        · exact hcomma h
        · exact absurd ((commas 0).before_blank ',' h) (by decide)
      have hlater := ih (fun i => commas (i + 1)) (List.cons_ne_nil next more)
        fun op' hop' => hops op' (List.mem_cons_of_mem op hop')
      rw [joinOperands, ← List.append_assoc, Text.pieces_append, Text.pieces_of_not_mem hfirst,
        List.map_append, List.map_singleton, map_trim_pieces_append_left (commas 0).after_blank,
        hlater, Text.trim_append_of_allBlank (commas 0).before_blank,
        Text.trim_of_trimmed htrimmed]
      rfl

theorem not_mem_joinOperands {c : Char} (hblank : Text.isBlank c = false) (hcomma : c ≠ ',')
    (commas : Nat → Comma) {ops : List Text} (hops : ∀ op ∈ ops, c ∉ op) :
    c ∉ joinOperands commas ops := by
  have hfree : ∀ blanks : Text, Text.AllBlank blanks → c ∉ blanks := by
    intro blanks hblanks hmem
    rw [hblanks c hmem] at hblank
    exact absurd hblank (by decide)
  induction ops generalizing commas with
  | nil => simp [joinOperands]
  | cons op rest ih =>
    have hop := hops op List.mem_cons_self
    cases rest with
    | nil => exact hop
    | cons next more =>
      have hlater := ih (fun i => commas (i + 1))
        fun op' hop' => hops op' (List.mem_cons_of_mem op hop')
      simp only [joinOperands, List.mem_append, List.mem_cons, not_or]
      exact ⟨hop, hfree _ (commas 0).before_blank, hcomma, hfree _ (commas 0).after_blank, hlater⟩

theorem comma_mem_joinOperands (commas : Nat → Comma) (op next : Text) (more : List Text) :
    ',' ∈ joinOperands commas (op :: next :: more) := by
  simp [joinOperands]

namespace Writing

variable (w : Writing)

theorem operandTexts_list : operandTexts w.list = w.operands := by
  by_cases hnil : w.operands = []
  · simp [operandTexts, list, hnil, joinOperands, Text.isBlankText]
  · have hpieces := map_trim_pieces_joinOperands w.commas hnil fun op hop =>
      ⟨(w.operand_text op hop).1, (w.operand_text op hop).2.2⟩
    have hblank : ¬ Text.isBlankText w.list = true := by
      rw [Text.isBlankText_iff]
      intro hall
      cases hops : w.operands with
      | nil => exact hnil hops
      | cons op rest =>
        cases rest with
        | nil =>
          -- A trimmed text without other characters than blanks is empty.
          have hop : op = [] := by
            have hlist : w.list = op := by rw [list, hops, joinOperands]
            have htrimmed := (w.operand_text op (by simp [hops])).2.2
            cases op with
            | nil => rfl
            | cons c more =>
              have hc := hall c (by simp [hlist])
              rw [htrimmed.1 c rfl] at hc
              exact absurd hc (by decide)
          exact w.operands_ne (by rw [hops, hop])
        | cons next more =>
          have hcomma : ',' ∈ w.list := by
            rw [list, hops]
            exact comma_mem_joinOperands w.commas op next more
          exact absurd (hall ',' hcomma) (by decide)
    rw [operandTexts, if_neg hblank]
    exact hpieces

/-- The parts of the code. Blanks in front of the first comma go over to the gap if the first
operand is empty. -/
def parts : CodeParts w.code where
  lead := w.indentation
  instruction := w.instruction
  size := w.size?.getD []
  gap := w.gap ++ w.list.takeWhile Text.isBlank
  list := Text.trimStart w.list
  code_eq := by
    have hlist : w.list.takeWhile Text.isBlank ++ Text.trimStart w.list = w.list :=
      List.takeWhile_append_dropWhile
    rw [List.append_assoc, hlist]
    rfl
  lead_blank := w.indentation_blank
  instruction_ne_nil := w.instruction_ne_nil
  instruction_chars := by
    intro c hc
    obtain ⟨hblank, hdot, _⟩ := w.instruction_chars c hc
    simp [Statement.isInstructionChar, hblank, hdot]
  size_shape := by
    cases hsize : w.size? with
    | none => exact Or.inl rfl
    | some size =>
      obtain ⟨letters, hletters, hchars⟩ := w.size_shape size (by simp [hsize])
      exact Or.inr ⟨letters, hletters, fun c hc => (hchars c hc).1⟩
  gap_blank := Text.allBlank_append w.gap_blank (Text.allBlank_leading w.list)
  gap_ne_nil := by
    intro hlist hgap
    have hops : w.operands ≠ [] := by
      intro hnil
      apply hlist
      rw [list, hnil]
      rfl
    exact w.gap_ne_nil hops (List.append_eq_nil_iff.mp hgap).1
  list_head := Text.trimStart_head? w.list

theorem tokens_parts :
    w.parts.tokens.size? = w.size? ∧ w.parts.tokens.operands = w.operands := by
  constructor
  · change (if (w.size?.getD []).isEmpty then none else some (w.size?.getD [])) = w.size?
    cases hsize : w.size? with
    | none => rfl
    | some size =>
      obtain ⟨letters, hletters, _⟩ := w.size_shape size (by simp [hsize])
      simp [hletters]
  · change operandTexts (Text.trimStart w.list) = w.operands
    rw [operandTexts_trimStart, operandTexts_list]

theorem semicolon_not_mem_code : ';' ∉ w.code := by
  have hfree : ∀ blanks : Text, Text.AllBlank blanks → ';' ∉ blanks :=
    fun blanks hblanks hmem => absurd (hblanks ';' hmem) (by decide)
  simp only [code, List.mem_append, not_or]
  refine ⟨hfree _ w.indentation_blank, ?_, ?_, hfree _ w.gap_blank, ?_⟩
  · exact fun hmem => (w.instruction_chars ';' hmem).2.2 rfl
  · cases hsize : w.size? with
    | none => simp
    | some size =>
      obtain ⟨letters, rfl, hchars⟩ := w.size_shape size (by simp [hsize])
      have hletters : ';' ∉ letters := fun hmem => (hchars ';' hmem).2 rfl
      simp [hletters]
  · exact not_mem_joinOperands (by decide) (by decide) w.commas
      fun op hop => (w.operand_text op hop).2.1

theorem codePart_line : codePart w.line = w.code := by
  have hcomment : Text.before ';' (w.comment?.getD []) = [] := by
    cases hcomment : w.comment? with
    | none => rfl
    | some comment =>
      obtain ⟨rest, hrest⟩ :=
        List.head?_eq_some_iff.mp (w.comment_shape comment (by simp [hcomment])).1
      simp [Text.before, hrest]
  change Text.before ';' (w.code ++ w.comment?.getD []) = w.code
  rw [Text.before_append_of_not_mem w.semicolon_not_mem_code, hcomment, List.append_nil]

theorem trimmedCode_line : trimmedCode w.line = Text.trim w.code := by
  rw [trimmedCode, codePart_line]

theorem leadingInstruction_line :
    leadingInstruction (codePart (lineContent w.line)) = w.instruction := by
  rw [leadingInstruction_lineContent, trimmedCode_line, Text.firstToken_trim,
    ← leadingInstruction_eq, w.parts.leadingInstruction_eq]
  rfl

theorem map_text_commentSpan? :
    (commentSpan? (lineContent w.line)).map Span.text = w.comment? := by
  cases hcomment : w.comment? with
  | none =>
    have hfree : ';' ∉ lineContent w.line := by
      have hline : w.line = w.code := by simp [line, hcomment]
      rw [hline]
      obtain ⟨ending, hending, _⟩ := Text.dropEndWhile_append Statement.isLineEnd w.code
      intro hmem
      apply w.semicolon_not_mem_code
      rw [hending]
      exact List.mem_append_left _ hmem
    rw [commentSpan?_eq, if_neg hfree]
    rfl
  | some comment =>
    obtain ⟨hhead, hreturn, hnewline⟩ := w.comment_shape comment (by simp [hcomment])
    have hline : w.line = w.code ++ comment := by simp [line, hcomment]
    have hne : comment ≠ [] := by
      rintro rfl
      simp at hhead
    -- The line ends as its comment does, so that there is no line end to be cut off.
    have hcontent : lineContent w.line = w.line := by
      apply Text.dropEndWhile_eq_self
      intro c hc
      rw [hline, List.getLast?_append_of_ne_nil _ hne] at hc
      have hends : c ≠ '\r' ∧ c ≠ '\n' :=
        ⟨fun heq => hreturn (heq ▸ hc), fun heq => hnewline (heq ▸ hc)⟩
      simp [Statement.isLineEnd, hends]
    have hmem : ';' ∈ w.line := by
      rw [hline]
      exact List.mem_append_right _ (List.mem_of_mem_head? hhead)
    rw [hcontent, commentSpan?_eq, if_pos hmem, idxOf_semicolon hmem, codePart_line, hline,
      List.drop_left]
    rfl

end Writing

/-- Reading undoes writing: the statement of a written line has the instruction, the size, the
operands and the comment from which the line was written. -/
theorem written_line_read_back (w : Writing) :
    ∃ s, Statement.ofLine? w.line = some s ∧
      s.instruction.text = w.instruction ∧
      s.size?.map Span.text = w.size? ∧
      s.operands.map Span.text = w.operands ∧
      s.comment?.map Span.text = w.comment? := by
  have hne : leadingInstruction (codePart (lineContent w.line)) ≠ [] := by
    rw [w.leadingInstruction_line]
    exact w.instruction_ne_nil
  obtain ⟨p⟩ : Nonempty (CodeParts (codePart (lineContent w.line))) := ⟨.ofCode _ hne⟩
  have htokens : p.tokens = w.parts.tokens := by
    apply p.tokens_eq_of_trim
    rw [trim_codePart_lineContent, w.trimmedCode_line]
  have hstatement := p.tokens_statement (commentSpan? (lineContent w.line))
  rw [htokens] at hstatement
  refine ⟨_, ofLine?_of_parts rfl p, ?_, ?_, ?_, w.map_text_commentSpan?⟩
  · exact p.leadingInstruction_eq.symm.trans w.leadingInstruction_line
  · exact (congrArg Tokens.size? hstatement).trans w.tokens_parts.1
  · exact (congrArg Tokens.operands hstatement).trans w.tokens_parts.2

/-- Empty operands at both ends of the list, an operand that starts with a dot, a size that holds a
comma, and a line end behind the last comma. -/
theorem written_line_read_back_empty_operands :
    ∃ w : Writing, w.line = "\tmov.b,\n ,\u3000.x y\t,\r\n".toList ∧
      ∃ s, Statement.ofLine? w.line = some s ∧ s.instruction.text = "mov".toList ∧
        s.size?.map Span.text = some ".b,".toList ∧
        s.operands.map Span.text = [[], ".x y".toList, []] ∧ s.comment?.map Span.text = none := by
  have hblank : ∀ t : Text, Text.isBlankText t = true → Text.AllBlank t :=
    fun t => (Text.isBlankText_iff t).mp
  let w : Writing :=
    { indentation := "\t".toList
      instruction := "mov".toList
      size? := some ".b,".toList
      gap := "\n".toList
      operands := [[], ".x y".toList, []]
      commas := fun
        | 0 => ⟨" ".toList, "\u3000".toList, hblank _ (by decide), hblank _ (by decide)⟩
        | _ => ⟨"\t".toList, "\r\n".toList, hblank _ (by decide), hblank _ (by decide)⟩
      comment? := none
      indentation_blank := hblank _ (by decide)
      instruction_ne_nil := by decide
      instruction_chars := List.all_iff_forall_prop.mp (by decide)
      size_shape := by
        intro size hsize
        exact ⟨"b,".toList, (Option.some.inj hsize).symm,
          List.all_iff_forall_prop.mp (by decide)⟩
      gap_blank := hblank _ (by decide)
      gap_ne_nil := by decide
      operand_text := by simp [Text.Trimmed]; decide
      operands_ne := by decide
      comment_shape := by simp }
  exact ⟨w, rfl, written_line_read_back w⟩

end AsmCheck
