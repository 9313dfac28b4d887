import AsmCheck.Proofs.LineReading
import AsmCheck.Proofs.Recomposition
import AsmCheck.Proofs.RelatedStatements

/-!
# Tokens

The tokens of a statement are its mnemonic in lower case, its size and its operands, without the
columns at which they stand. The verdict on a line is a verdict on its tokens: blanks, comments and
the case of the mnemonic move a report or leave it where it is, and never change what it says.
-/

namespace AsmCheck

set_option autoImplicit false

structure Tokens where
  mnemonic : Text
  size? : Option Text
  operands : List Text
  deriving DecidableEq

def Statement.tokens (s : Statement) : Tokens :=
  { mnemonic := Text.lower s.instruction.text
    size? := s.size?.map Span.text
    operands := s.operands.map Span.text }

/-- Statements with the same tokens are related, whatever their columns are. -/
theorem Statement.related_of_tokens {s t : Statement} (h : s.tokens = t.tokens) :
    s.Related .any t := by
  have hspan : ∀ a b : Span, a.text = b.text → a.Related .any b := by
    rintro ⟨start, stop, text⟩ ⟨start', stop', text'⟩ htext
    obtain rfl : text = text' := htext
    exact .mk text trivial trivial
  refine ⟨trivial, trivial, ?_, ?_⟩
  · have hsize : s.size?.map Span.text = t.size?.map Span.text := congrArg Tokens.size? h
    generalize s.size? = a, t.size? = b at hsize
    cases a with
    | none =>
      rw [Option.map_none, eq_comm, Option.map_eq_none_iff] at hsize
      rw [hsize]
      exact .none
    | some a =>
      rw [Option.map_some, eq_comm] at hsize
      obtain ⟨b, rfl, htext⟩ := Option.map_eq_some_iff.mp hsize
      exact .some (hspan a b htext.symm)
  · have hoperands : s.operands.map Span.text = t.operands.map Span.text :=
      congrArg Tokens.operands h
    rw [← List.forall₂_eq_eq_eq, List.forall₂_map_left_iff, List.forall₂_map_right_iff] at hoperands
    exact hoperands.imp hspan

/-- The texts of the operands in a list. -/
def operandTexts (list : Text) : List Text :=
  if Text.isBlankText list then [] else (Text.pieces ',' list).map Text.trim

theorem map_text_operandSpans (list : Text) (column : Int) :
    (operandSpans list column).map Span.text = operandTexts list := by
  have hlocate : ∀ pieces : List Text, ∀ column : Int,
      (locateOperands column pieces).map Span.text = pieces.map Text.trim := by
    intro pieces
    induction pieces with
    | nil => exact fun _ => rfl
    | cons piece rest ih =>
      intro column
      rw [locateOperands, List.map_cons, ih, List.map_cons]
      rfl
  unfold operandSpans operandTexts
  split
  · rfl
  · exact hlocate _ _

/-- Blanks behind a text lengthen its last piece. -/
theorem pieces_append_blanks {tail : Text} (htail : Text.AllBlank tail) (t : Text) :
    List.Forall₂ (fun piece longer => ∃ blanks, longer = piece ++ blanks ∧ Text.AllBlank blanks)
      (Text.pieces ',' t) (Text.pieces ',' (t ++ tail)) := by
  induction t with
  | nil =>
    have hcomma : ',' ∉ tail := fun hmem => absurd (htail ',' hmem) (by decide)
    rw [List.nil_append, Text.pieces_of_not_mem hcomma]
    exact .cons ⟨tail, rfl, htail⟩ .nil
  | cons c rest ih =>
    rw [List.cons_append]
    by_cases hc : c = ','
    · rw [hc, Text.pieces_cons_self, Text.pieces_cons_self]
      exact .cons ⟨[], rfl, by simp [Text.AllBlank]⟩ ih
    · obtain ⟨piece, more, hpieces, hall⟩ := Text.exists_pieces_cons hc rest
      obtain ⟨piece', more', hpieces', hall'⟩ := Text.exists_pieces_cons hc (rest ++ tail)
      rw [hpieces, hpieces'] at ih
      obtain ⟨⟨blanks, hpiece, hblanks⟩, hmore⟩ := List.forall₂_cons.mp ih
      rw [hall, hall']
      exact .cons ⟨blanks, by rw [hpiece, List.cons_append], hblanks⟩ hmore

theorem operandTexts_append_blanks {list tail : Text} (htail : Text.AllBlank tail) :
    operandTexts (list ++ tail) = operandTexts list := by
  have hblank : Text.isBlankText (list ++ tail) = Text.isBlankText list := by
    rw [Bool.eq_iff_iff, Text.isBlankText_iff, Text.isBlankText_iff]
    constructor
    · intro h c hc
      exact h c (List.mem_append_left tail hc)
    · intro h
      exact Text.allBlank_append h htail
  have hpieces : (Text.pieces ',' list).map Text.trim =
      (Text.pieces ',' (list ++ tail)).map Text.trim := by
    rw [← List.forall₂_eq_eq_eq, List.forall₂_map_left_iff, List.forall₂_map_right_iff]
    apply (pieces_append_blanks htail list).imp
    rintro piece longer ⟨blanks, rfl, hblanks⟩
    exact (Text.trim_append_of_allBlank hblanks piece).symm
  rw [operandTexts, operandTexts, hblank, hpieces]

namespace CodeParts

variable {code : Text}

def tokens (p : CodeParts code) : Tokens :=
  { mnemonic := Text.lower p.instruction
    size? := if p.size.isEmpty then none else some p.size
    operands := operandTexts p.list }

theorem tokens_statement (p : CodeParts code) (comment? : Option Span) :
    (p.statement comment?).tokens = p.tokens := by
  have hsize : (p.statement comment?).size?.map Span.text = p.tokens.size? := by
    unfold statement tokens
    split <;> rfl
  have hoperands : (p.statement comment?).operands.map Span.text = p.tokens.operands :=
    map_text_operandSpans p.list p.listColumn
  rw [Statement.tokens, hsize, hoperands]
  rfl

theorem tokens_padded (p : CodeParts code) {w : Text} (hw : Text.AllBlank w) :
    (p.padded hw).tokens = p.tokens := by
  unfold padded
  split
  · rename_i hnil
    simp only [tokens, hnil]
  · simp only [tokens, operandTexts_append_blanks hw]

theorem tokens_congr {code' : Text} (p : CodeParts code) (q : CodeParts code')
    (h : code = code') : p.tokens = q.tokens := by
  subst h
  rw [p.unique q]

theorem exists_trim (p : CodeParts code) :
    ∃ q : CodeParts (Text.trim code), p.tokens = q.tokens := by
  obtain ⟨tail, hcode, htail⟩ := Text.exists_trim code
  have hne : leadingInstruction (Text.trim code) ≠ [] := by
    rw [AsmCheck.leadingInstruction_eq, Text.firstToken_trim, ← AsmCheck.leadingInstruction_eq,
      p.leadingInstruction_eq]
    exact p.instruction_ne_nil
  let q := ofCode (Text.trim code) hne
  refine ⟨q, ?_⟩
  calc p.tokens
      = ((q.padded htail).indented (Text.allBlank_leading code)).tokens := p.tokens_congr _ hcode
    _ = (q.padded htail).tokens := rfl
    _ = q.tokens := q.tokens_padded htail

/-- Blanks around the code are no part of its tokens. -/
theorem tokens_eq_of_trim {code' : Text} (p : CodeParts code) (q : CodeParts code')
    (h : Text.trim code = Text.trim code') : p.tokens = q.tokens := by
  obtain ⟨p', hp⟩ := p.exists_trim
  obtain ⟨q', hq⟩ := q.exists_trim
  rw [hp, hq, p'.tokens_congr q' h]

end CodeParts

theorem leadingInstruction_lineContent (line : Text) :
    leadingInstruction (codePart (lineContent line)) =
      Text.before '.' (Text.firstToken (trimmedCode line)).1 := by
  rw [leadingInstruction_eq, firstToken_trimmedCode]

section

variable {a b : Text}

theorem ofLine?_eq_none_congr (h : trimmedCode a = trimmedCode b) :
    Statement.ofLine? a = none ↔ Statement.ofLine? b = none := by
  rw [ofLine?_eq_none_iff, ofLine?_eq_none_iff, leadingInstruction_lineContent,
    leadingInstruction_lineContent, h]

theorem trim_codePart_lineContent (line : Text) :
    Text.trim (codePart (lineContent line)) = trimmedCode line := by
  obtain ⟨tail, hcode, htail⟩ := codePart_lineContent line
  rw [trimmedCode, hcode, Text.trim_append_of_allBlank htail]

/-- Lines with the same code between different blanks, comments and line ends have the same
tokens. -/
theorem tokens_eq_of_trimmedCode {s t : Statement} (hs : Statement.ofLine? a = some s)
    (ht : Statement.ofLine? b = some t) (h : trimmedCode a = trimmedCode b) :
    s.tokens = t.tokens := by
  obtain ⟨p, rfl⟩ := ofLine?_parts hs
  obtain ⟨q, rfl⟩ := ofLine?_parts ht
  rw [p.tokens_statement, q.tokens_statement]
  apply p.tokens_eq_of_trim q
  rw [trim_codePart_lineContent, trim_codePart_lineContent, h]

end

theorem trimmedCode_trimmedCode (line : Text) :
    trimmedCode (trimmedCode line) = trimmedCode line := by
  have hsemicolon : ';' ∉ trimmedCode line :=
    fun h => not_mem_codePart line (mem_of_mem_trim h)
  rw [trimmedCode, (codePart_of_not_mem hsemicolon).1]
  exact Text.trim_of_trimmed (Text.trim_trimmed (codePart line))

theorem codePart_indented {w : Text} (hw : Text.AllBlank w) (line : Text) :
    codePart (w ++ line) = w ++ codePart line :=
  Text.before_append_of_not_mem (fun h => absurd (hw ';' h) (by decide)) line

theorem trimmedCode_indented {w : Text} (hw : Text.AllBlank w) (line : Text) :
    trimmedCode (w ++ line) = trimmedCode line := by
  rw [trimmedCode, codePart_indented hw, Text.trim, Text.trimStart_append_of_allBlank hw]
  rfl

/-- What a diagnostic says, wherever it stands. -/
def Diagnostic.wording (d : Diagnostic) : Severity × String := (d.severity, d.message)

/-- A diagnostic on a line whose text starts further to the right. -/
def Diagnostic.moved (width : Int) (d : Diagnostic) : Diagnostic :=
  { d with start := d.start + width, stop := d.stop + width }

namespace RelatedVerdicts

variable {a b : Option Diagnostic}

theorem wording_eq {R : ColumnRelation} (h : RelatedVerdicts R a b) :
    a.map Diagnostic.wording = b.map Diagnostic.wording := by
  cases h with
  | none => rfl
  | some hab => rw [← hab.rest]; rfl

theorem isNone_eq {R : ColumnRelation} (h : RelatedVerdicts R a b) : a.isNone = b.isNone := by
  cases h with
  | none => rfl
  | some _ => rfl

theorem eq_map_moved {width : Int} (h : RelatedVerdicts (.moved width) a b) :
    b = a.map (Diagnostic.moved width) := by
  cases h with
  | none => rfl
  | @some c d hcd =>
    have hstart : d.start = c.start + width := hcd.start
    have hstop : d.stop = c.stop + width := hcd.stop
    rw [Option.map_some, Diagnostic.moved, ← hstart, ← hstop, ← hcd.rest]

end RelatedVerdicts

theorem mnemonic_eq_tokens {line : Text} {s : Statement} (h : Statement.ofLine? line = some s) :
    Family.mnemonic s.instruction.text = s.tokens.mnemonic := by
  obtain ⟨p, rfl⟩ := ofLine?_parts h
  exact p.mnemonic_instruction

section

variable {a b : Text} {s t : Statement}

theorem checkLine_related {R : ColumnRelation} (hs : Statement.ofLine? a = some s)
    (ht : Statement.ofLine? b = some t) (h : s.Related R t)
    (hmnemonic : Family.mnemonic s.instruction.text = Family.mnemonic t.instruction.text) :
    RelatedVerdicts R (checkLine a) (checkLine b) := by
  rw [SourceLine.checkLine_eq_bind hs, SourceLine.checkLine_eq_bind ht, Family.ofToken?, hmnemonic,
    ← Family.ofToken?]
  cases Family.ofToken? t.instruction.text with
  | none => exact .none
  | some family => exact family.form.check_related h hmnemonic

theorem checkLine_related_of_tokens (hs : Statement.ofLine? a = some s)
    (ht : Statement.ofLine? b = some t) (h : s.tokens = t.tokens) :
    RelatedVerdicts .any (checkLine a) (checkLine b) := by
  apply checkLine_related hs ht (Statement.related_of_tokens h)
  rw [mnemonic_eq_tokens hs, mnemonic_eq_tokens ht, h]

end

theorem checkLine_of_ofLine?_none {line : Text} (h : Statement.ofLine? line = none) :
    checkLine line = none := by
  unfold checkLine
  rw [h]
  rfl

/-- The code of a line that is taken out of it gets the verdict of the line. -/
theorem isNone_checkLine_trimmedCode (line : Text) :
    (checkLine (trimmedCode line)).isNone = (checkLine line).isNone := by
  have htrimmed := trimmedCode_trimmedCode line
  cases hs : Statement.ofLine? line with
  | none =>
    have ht := (ofLine?_eq_none_congr htrimmed).mpr hs
    rw [checkLine_of_ofLine?_none hs, checkLine_of_ofLine?_none ht]
  | some s =>
    cases ht : Statement.ofLine? (trimmedCode line) with
    | none =>
      rw [(ofLine?_eq_none_congr htrimmed).mp ht] at hs
      cases hs
    | some t =>
      apply RelatedVerdicts.isNone_eq
      exact checkLine_related_of_tokens ht hs (tokens_eq_of_trimmedCode ht hs htrimmed)

theorem Span.ofText_related (width column : Int) (text : Text) :
    (ofText column text).Related (.moved width) (ofText (column + width) text) := by
  apply Span.Related.mk
  · rfl
  · change column + width + text.length = column + text.length + width
    omega

theorem locateOperands_related (width : Int) (pieces : List Text) (column : Int) :
    List.Forall₂ (Span.Related (.moved width)) (locateOperands column pieces)
      (locateOperands (column + width) pieces) := by
  induction pieces generalizing column with
  | nil => exact .nil
  | cons piece rest ih =>
    have hstart : column + width + Text.indent piece = column + Text.indent piece + width := by
      omega
    have hnext : column + width + piece.length + 1 = column + piece.length + 1 + width := by
      omega
    rw [locateOperands, locateOperands, hstart, hnext]
    exact .cons (Span.ofText_related width _ _) (ih _)

theorem operandSpans_related (width : Int) (list : Text) (column : Int) :
    List.Forall₂ (Span.Related (.moved width)) (operandSpans list column)
      (operandSpans list (column + width)) := by
  unfold operandSpans
  split
  · exact .nil
  · exact locateOperands_related width _ column

theorem CodeParts.indented_related {code w : Text} (p : CodeParts code) (hw : Text.AllBlank w)
    (comment? comment?' : Option Span) :
    (p.statement comment?).Related (.moved w.length) ((p.indented hw).statement comment?') := by
  have hlead : ((p.indented hw).lead.length : Int) = p.lead.length + w.length := by
    change ((w ++ p.lead).length : Int) = _
    rw [List.length_append]
    omega
  have hsize : ((p.indented hw).sizeColumn : Int) = p.sizeColumn + w.length := by
    change (((p.indented hw).lead.length + p.instruction.length : Nat) : Int) =
      ((p.lead.length + p.instruction.length : Nat) : Int) + w.length
    omega
  have hlist : ((p.indented hw).listColumn : Int) = p.listColumn + w.length := by
    change (((p.indented hw).sizeColumn + p.size.length + p.gap.length : Nat) : Int) =
      ((p.sizeColumn + p.size.length + p.gap.length : Nat) : Int) + w.length
    omega
  refine ⟨?_, ?_, ?_, ?_⟩
  · change ((p.indented hw).lead.length : Int) = _
    exact hlead
  · change ((p.indented hw).lead.length : Int) + p.instruction.length =
      p.lead.length + p.instruction.length + w.length
    omega
  · change Option.Rel _ (if p.size.isEmpty then none else some (Span.ofText p.sizeColumn p.size))
      (if p.size.isEmpty then none else some (Span.ofText (p.indented hw).sizeColumn p.size))
    rw [hsize]
    split
    · exact .none
    · exact .some (Span.ofText_related _ _ _)
  · change List.Forall₂ _ (operandSpans p.list p.listColumn)
      (operandSpans p.list (p.indented hw).listColumn)
    rw [hlist]
    exact operandSpans_related _ _ _

theorem ofLine?_indented {w line : Text} {s : Statement} (hw : Text.AllBlank w)
    (h : Statement.ofLine? line = some s) :
    ∃ t, Statement.ofLine? (w ++ line) = some t ∧ s.Related (.moved w.length) t ∧
      t.instruction.text = s.instruction.text := by
  have hcontent : lineContent (w ++ line) = w ++ lineContent line := by
    apply Text.dropEndWhile_append_left
    intro hnil
    change lineContent line = [] at hnil
    rw [(ofLine?_eq_none_iff line).mpr (by rw [hnil]; rfl)] at h
    cases h
  obtain ⟨p, rfl⟩ := ofLine?_parts h
  have hcode : codePart (lineContent (w ++ line)) = w ++ codePart (lineContent line) := by
    rw [hcontent, codePart_indented hw]
  exact ⟨_, ofLine?_of_parts hcode (p.indented hw), p.indented_related hw _ _, rfl⟩

theorem checkLine_indented {w : Text} (hw : Text.AllBlank w) (line : Text) :
    checkLine (w ++ line) = (checkLine line).map (Diagnostic.moved w.length) := by
  cases hs : Statement.ofLine? line with
  | none =>
    -- The line may be no more than a line end, which is then cut off together with the blanks.
    have ht := (ofLine?_eq_none_congr (trimmedCode_indented hw line)).mpr hs
    rw [checkLine_of_ofLine?_none hs, checkLine_of_ofLine?_none ht]
    rfl
  | some s =>
    obtain ⟨t, ht, hrelated, htext⟩ := ofLine?_indented hw hs
    apply RelatedVerdicts.eq_map_moved
    apply checkLine_related hs ht hrelated
    rw [htext]

theorem SourceLine.Adds.valid_eq {file? : Option String} {address : Int} {l : SourceLine}
    {found : Contribution} (h : l.Adds file? address found) {n : Instruction}
    (hn : .instruction n ∈ found.nodes) : n.valid = (checkLine n.text).isNone := by
  cases h with
  | nothing _ _ => simp at hn
  | @instruction s family _ hs hfamily =>
    obtain rfl : n = l.instructionNode address family s := by simpa using hn
    change (family.check s).isNone = (checkLine (trimmedCode l.text)).isNone
    rw [isNone_checkLine_trimmedCode, checkLine_eq hs hfamily]
  | literal value _ _ => simp [Contribution.ofNode] at hn
  | label name _ _ => simp [Contribution.ofNode] at hn
  | report problem _ => simp [SourceLine.report, Contribution.ofDiagnostic] at hn

/-- A verdict is a verdict on tokens. Two lines with the same mnemonic in lower case, the same size
and the same operands get no report or reports that say the same; blanks in front of a line move
its report and change nothing else; and the instruction that a line adds to its document is valid
exactly if its text, which has neither indentation nor comment, gets no report by itself. -/
theorem verdict_depends_on_tokens :
    (∀ a b s t, Statement.ofLine? a = some s → Statement.ofLine? b = some t →
      s.tokens = t.tokens →
        (checkLine a).map Diagnostic.wording = (checkLine b).map Diagnostic.wording) ∧
    (∀ w line, Text.AllBlank w →
      checkLine (w ++ line) = (checkLine line).map (Diagnostic.moved w.length)) ∧
    ∀ file? t n, .instruction n ∈ (Document.read file? t).nodes →
      n.valid = (checkLine n.text).isNone := by
  refine ⟨?_, fun w line hw => checkLine_indented hw line, ?_⟩
  · intro a b s t hs ht htokens
    exact (checkLine_related_of_tokens hs ht htokens).wording_eq
  · intro file? t n hn
    obtain ⟨before, item, after, _, hitem⟩ :=
      Document.exists_item_of_mem Contribution.nodes_empty Contribution.nodes_append hn
    cases item with
    | memory p body => simp [Item.read] at hitem
    | line l => exact (l.read_adds file? _).valid_eq hitem

/-- A set instruction with too few operands, written in two ways, behind an ideographic space, and
as a line of a document. -/
theorem verdict_depends_on_tokens_set :
    let a := "\tSet2 r0 ,1 ;x".toList
    let b := "set2 r0,1".toList
    let t := ".code\n\tSet2 r0 ,1 ;x".toList
    (checkLine a).map Diagnostic.wording = (checkLine b).map Diagnostic.wording ∧
      (checkLine b).isSome = true ∧
      checkLine ("\u3000".toList ++ a) = (checkLine a).map (Diagnostic.moved 1) ∧
      ∃ n, .instruction n ∈ (Document.read none t).nodes ∧ n.valid = false ∧
        n.valid = (checkLine n.text).isNone := by
  intro a b t
  obtain ⟨hwording, hindented, hvalid⟩ := verdict_depends_on_tokens
  have htokens : (Statement.ofLine? a).map Statement.tokens =
      (Statement.ofLine? b).map Statement.tokens := by decide +kernel
  have hblank : Text.AllBlank "\u3000".toList := by
    simp [Text.AllBlank]
    decide
  obtain ⟨s, hs⟩ := Option.isSome_iff_exists.mp
    (by decide +kernel : (Statement.ofLine? a).isSome = true)
  obtain ⟨s', hs'⟩ := Option.isSome_iff_exists.mp
    (by decide +kernel : (Statement.ofLine? b).isSome = true)
  rw [hs, hs', Option.map_some, Option.map_some, Option.some.injEq] at htokens
  let n : Instruction :=
    { text := "Set2 r0 ,1".toList
      statement := ⟨⟨1, 5, "Set2".toList⟩, none, [⟨6, 8, "r0".toList⟩, ⟨10, 11, "1".toList⟩],
        some ⟨12, 14, ";x".toList⟩⟩
      family := .set
      line := 2
      column := 0
      address := 0x40
      valid := false }
  have hn : .instruction n ∈ (Document.read none t).nodes := by decide +kernel
  exact ⟨hwording a b s s' hs hs' htokens, by decide +kernel,
    hindented "\u3000".toList a hblank, n, hn, rfl, hvalid none t n hn⟩

end AsmCheck
