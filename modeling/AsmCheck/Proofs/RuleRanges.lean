import AsmCheck.Proofs.Recomposition
import AsmCheck.Rules

/-!
# Ranges marked by the rules

Whatever a rule finds wrong with a statement, it marks the instruction, the size, an operand, all
operands, the head, or the character behind an instruction that has operands. A rule is put
together from checks by "the first that finds something", so what is true of each check is true of
the rule. All these ranges lie in the code of the line.
-/

namespace AsmCheck

set_option autoImplicit false

namespace Statement

/-- The ranges of a statement that a rule may mark. -/
inductive Markable (s : Statement) : Int × Int → Prop where
  | instruction : Markable s (s.instruction.start, s.instruction.stop)
  | size {size : Span} : s.size? = some size → Markable s (size.start, size.stop)
  | operand {op : Span} : op ∈ s.operands → Markable s (op.start, op.stop)
  | operands : Markable s s.operandRange
  | head : Markable s s.headRange
  | gap : s.operands ≠ [] → Markable s (s.instruction.stop, s.instruction.stop + 1)

/-- What was found wrong with a statement, if anything, is an error over one of its ranges. -/
def Marks (s : Statement) (found : Option Diagnostic) : Prop :=
  ∀ d, found = some d →
    ∃ problem range, Problem.severity problem = .error ∧ s.Markable range ∧
      d = problem.markRange range

namespace Marks

variable {s : Statement} {a b : Option Diagnostic}

theorem none : s.Marks .none := by
  intro d hd
  simp at hd

theorem range (problem : Problem) (hp : problem.severity = .error) {r : Int × Int}
    (hr : s.Markable r) : s.Marks (some (problem.markRange r)) := by
  intro d hd
  exact ⟨problem, r, hp, hr, (Option.some.inj hd).symm⟩

theorem or (ha : s.Marks a) (hb : s.Marks b) : s.Marks (a.or b) := by
  intro d hd
  rcases Option.or_eq_some_iff.mp hd with hd | ⟨_, hd⟩
  · exact ha d hd
  · exact hb d hd

theorem markIf (problem : Problem) (hp : problem.severity = .error) (condition : Bool) {span : Span}
    (hspan : s.Markable (span.start, span.stop)) : s.Marks (problem.markIf condition span) := by
  unfold Problem.markIf
  split
  · exact range problem hp hspan
  · exact none

theorem operandIf (problem : Problem) (hp : problem.severity = .error) (condition : Bool)
    {op : Span} (hop : op ∈ s.operands) : s.Marks (problem.markIf condition op) :=
  markIf problem hp condition (.operand hop)

theorem sizeMap (problem : Span → Problem) (hp : ∀ span, (problem span).severity = .error) :
    s.Marks (s.size?.map fun size => (problem size).mark size) := by
  intro d hd
  obtain ⟨size, hsize, rfl⟩ := Option.map_eq_some_iff.mp hd
  exact ⟨problem size, _, hp size, .size hsize, rfl⟩

end Marks

end Statement

namespace Rules

open Statement

variable (s : Statement)

theorem noSize_marks (instructions : String) : s.Marks (noSize instructions s) :=
  .sizeMap _ fun _ => rfl

theorem commonSize_marks (required : Bool) :
    s.Marks (commonSize s.size? s.instruction required) := by
  unfold commonSize
  split
  · exact .markIf _ rfl _ .instruction
  · rename_i size hsize
    exact .markIf _ rfl _ (.size hsize)

theorem wrongCount_marks (instructions : String) (expected : Nat) :
    s.Marks (some (wrongCount instructions expected s)) := .range _ rfl .operands

theorem noOperands_marks (problem : Problem) (hp : problem.severity = .error) :
    s.Marks (noOperands problem s) := by
  unfold noOperands
  split
  · exact .none
  · exact .range problem hp .operands

theorem nop_marks : s.Marks (nop s) := (noSize_marks s _).or (noOperands_marks s _ rfl)

theorem halt_marks : s.Marks (halt s) := (noSize_marks s _).or (noOperands_marks s _ rfl)

theorem skip_marks : s.Marks (skip s) :=
  (Marks.sizeMap (fun _ => .skipSize) fun _ => rfl).or (noOperands_marks s _ rfl)

theorem sleepDuration_marks {op : Span} (hop : op ∈ s.operands) :
    s.Marks (sleepDuration s op) := by
  unfold sleepDuration
  split
  · exact .operandIf _ rfl _ hop
  · split
    · exact .range _ rfl (.gap (List.ne_nil_of_mem hop))
    · exact .operandIf _ rfl _ hop

theorem sleep_marks : s.Marks (sleep s) := by
  apply Marks.or
  · intro d hd
    obtain ⟨size, hsize, hd⟩ := Option.bind_eq_some_iff.mp hd
    exact Marks.markIf .sleepSize rfl _ (.size hsize) d hd
  · split
    · rename_i op hops
      exact sleepDuration_marks s (by simp [hops])
    · exact .range _ rfl .operands

theorem operandRange_pair {dst src : Span} (h : s.operands = [dst, src]) :
    s.operandRange = (dst.start, src.stop) := by
  simp [operandRange, h]

theorem moveSwizzles_severity {dst src : Span} {problem : Problem}
    (h : (if isPointer dst && isPointer src then some Problem.moveTwoPointers
      else moveSwizzles dst src) = some problem) : problem.severity = .error := by
  unfold moveSwizzles at h
  repeat' split at h
  all_goals cases h
  all_goals rfl

theorem moveOperands_marks {dst src : Span} (h : s.operands = [dst, src]) :
    s.Marks (moveOperands dst src) := by
  have hdst : dst ∈ s.operands := by simp [h]
  have hsrc : src ∈ s.operands := by simp [h]
  refine (Marks.operandIf _ rfl _ hdst).or ((Marks.operandIf _ rfl _ hsrc).or
    ((Marks.operandIf _ rfl _ hdst).or ((Marks.operandIf _ rfl _ hsrc).or ?_)))
  intro d hd
  obtain ⟨problem, hproblem, rfl⟩ := Option.map_eq_some_iff.mp hd
  refine ⟨problem, _, moveSwizzles_severity hproblem, ?_, rfl⟩
  rw [← operandRange_pair s h]
  exact .operands

theorem move_marks : s.Marks (move s) := by
  apply (noSize_marks s _).or
  split
  · rename_i h
    exact moveOperands_marks s h
  · exact wrongCount_marks s _ _

theorem wordSelect_marks : s.Marks (wordSelect s) := by
  apply (noSize_marks s _).or
  split
  · rename_i dst src h
    have hdst : dst ∈ s.operands := by simp [h]
    have hsrc : src ∈ s.operands := by simp [h]
    exact (Marks.operandIf _ rfl _ hdst).or ((Marks.operandIf _ rfl _ hsrc).or
      ((Marks.operandIf _ rfl _ hdst).or (Marks.operandIf _ rfl _ hsrc)))
  · exact wrongCount_marks s _ _

theorem math_marks : s.Marks (math s) := by
  apply (commonSize_marks s false).or
  split
  · rename_i dst lhs rhs h
    have hdst : dst ∈ s.operands := by simp [h]
    have hlhs : lhs ∈ s.operands := by simp [h]
    have hrhs : rhs ∈ s.operands := by simp [h]
    exact (Marks.operandIf _ rfl _ hdst).or ((Marks.operandIf _ rfl _ hlhs).or
      ((Marks.operandIf _ rfl _ hrhs).or ((Marks.operandIf _ rfl _ hdst).or
      ((Marks.operandIf _ rfl _ hlhs).or ((Marks.operandIf _ rfl _ hrhs).or
      ((Marks.operandIf _ rfl _ hdst).or ((Marks.operandIf _ rfl _ hlhs).or
      ((Marks.operandIf _ rfl _ hrhs).or (Marks.operandIf _ rfl _ hdst)))))))))
  · exact wrongCount_marks s _ _

theorem shift_marks : s.Marks (shift s) := by
  apply (commonSize_marks s true).or
  split
  · rename_i dst src h
    have hdst : dst ∈ s.operands := by simp [h]
    have hsrc : src ∈ s.operands := by simp [h]
    exact (Marks.operandIf _ rfl _ hdst).or ((Marks.operandIf _ rfl _ hsrc).or
      ((Marks.operandIf _ rfl _ hdst).or (Marks.operandIf _ rfl _ hsrc)))
  · exact wrongCount_marks s _ _

theorem bitwise_marks : s.Marks (bitwise s) := by
  apply (noSize_marks s _).or
  split
  · exact .range _ rfl .head
  · split
    · split
      · exact .none
      · exact .range _ rfl .operands
    · split
      · exact .none
      · exact wrongCount_marks s _ _

theorem special_marks : s.Marks (special s) := by
  apply (Marks.sizeMap (fun size => .specialSize size.text) fun _ => rfl).or
  split
  · rename_i dst src h
    have hdst : dst ∈ s.operands := by simp [h]
    have hsrc : src ∈ s.operands := by simp [h]
    exact (Marks.operandIf _ rfl _ hdst).or ((Marks.operandIf _ rfl _ hsrc).or
      ((Marks.operandIf _ rfl _ hdst).or (Marks.operandIf _ rfl _ hsrc)))
  · exact wrongCount_marks s _ _

theorem swizzle_marks : s.Marks (swizzle s) := by
  apply (noSize_marks s _).or
  split
  · rename_i op h
    have hop : op ∈ s.operands := by simp [h]
    apply (Marks.operandIf _ rfl _ hop).or
    split
    · exact .range _ rfl (.operand hop)
    · exact .operandIf _ rfl _ hop
  · exact wrongCount_marks s _ _

theorem setOperands_marks {ops : List Span} (h : s.operands = ops) :
    s.Marks (setOperands ops) := by
  unfold setOperands
  split
  · exact .none
  · rename_i dst values
    apply (Marks.operandIf _ rfl _ (by simp [h])).or
    intro d hd
    obtain ⟨value, hvalue, rfl⟩ := Option.map_eq_some_iff.mp hd
    have hmem : value ∈ s.operands := by
      rw [h]
      exact List.mem_cons_of_mem dst (List.mem_of_find?_eq_some hvalue)
    exact ⟨_, _, rfl, .operand hmem, rfl⟩

theorem set_marks : s.Marks (set s) := by
  apply (noSize_marks s _).or
  split
  · exact setOperands_marks s rfl
  · exact .range _ rfl .operands

theorem jumpTarget_marks (unknown : Problem) (hp : unknown.severity = .error) {op : Span}
    (hop : op ∈ s.operands) : s.Marks (jumpTarget unknown op) := by
  unfold jumpTarget
  split
  · exact .range unknown hp (.operand hop)
  · exact .operandIf _ rfl _ hop

theorem jump_marks : s.Marks (jump s) := by
  apply (noSize_marks s _).or
  split
  · rename_i op h
    exact jumpTarget_marks s _ rfl (by simp [h])
  · exact wrongCount_marks s _ _

theorem conditionalJumpOperands_marks {src dst : Span} (h : s.operands = [src, dst]) :
    s.Marks (conditionalJumpOperands src dst) := by
  have hsrc : src ∈ s.operands := by simp [h]
  have hdst : dst ∈ s.operands := by simp [h]
  unfold conditionalJumpOperands
  split
  · exact .range _ rfl (.operand hsrc)
  · exact (Marks.operandIf _ rfl _ hdst).or ((Marks.operandIf _ rfl _ hsrc).or
      (jumpTarget_marks s _ rfl hdst))

theorem conditionalJump_marks : s.Marks (conditionalJump s) := by
  apply (noSize_marks s _).or
  split
  · rename_i src dst h
    exact conditionalJumpOperands_marks s h
  · exact wrongCount_marks s _ _

end Rules

theorem Form.check_marks (form : Form) (s : Statement) : s.Marks (form.check s) := by
  cases form with
  | nop => exact Rules.nop_marks s
  | halt => exact Rules.halt_marks s
  | skip => exact Rules.skip_marks s
  | sleep => exact Rules.sleep_marks s
  | move => exact Rules.move_marks s
  | wordSelect => exact Rules.wordSelect_marks s
  | math => exact Rules.math_marks s
  | shift => exact Rules.shift_marks s
  | bitwise => exact Rules.bitwise_marks s
  | special => exact Rules.special_marks s
  | swizzle => exact Rules.swizzle_marks s
  | set => exact Rules.set_marks s
  | jump => exact Rules.jump_marks s
  | conditionalJump => exact Rules.conditionalJump_marks s

/-- A range from the given start on that does not pass the given end. -/
def Within (start stop : Int) (r : Int × Int) : Prop := start ≤ r.1 ∧ r.1 ≤ r.2 ∧ r.2 ≤ stop

namespace CodeParts

variable {code : Text} (p : CodeParts code) (comment? : Option Span)

theorem code_length :
    code.length = p.lead.length + p.instruction.length + p.size.length + p.gap.length +
      p.list.length := by
  have hlen := congrArg List.length p.code_eq
  simp only [List.length_append] at hlen
  omega

theorem instruction_bounds :
    (p.statement comment?).instruction.start ≤ (p.statement comment?).instruction.stop ∧
      (p.statement comment?).instruction.stop ≤ code.length := by
  obtain ⟨gaps, hlaid, _⟩ := p.laid comment?
  have hbounds := hlaid.bounds List.mem_cons_self
  exact ⟨hbounds.2.1, by omega⟩

/-- Size and operands come after the instruction and end in the code. -/
theorem bounds_of_mem {span : Span}
    (h : span ∈ (p.statement comment?).size?.toList ++ (p.statement comment?).operands) :
    (p.statement comment?).instruction.stop ≤ span.start ∧ span.start ≤ span.stop ∧
      span.stop ≤ code.length := by
  obtain ⟨gaps, hlaid, _⟩ := p.laid comment?
  have hbounds := hlaid.bounds (List.mem_cons_of_mem _ h)
  have hafter := (List.pairwise_cons.mp hlaid.ordered).1 span h
  exact ⟨hafter, hbounds.2.1, by omega⟩

theorem gap_bound (hops : (p.statement comment?).operands ≠ []) :
    (p.statement comment?).instruction.stop + 1 ≤ code.length := by
  have hlist : p.list ≠ [] := by
    intro hnil
    apply hops
    simp [statement, operandSpans, hnil, Text.isBlankText]
  have hgap := List.length_pos_iff.mpr (p.gap_ne_nil hlist)
  have hlen := p.code_length
  simp only [statement, Span.ofText]
  omega

theorem headRange_within :
    Within (p.statement comment?).instruction.start code.length
      (p.statement comment?).headRange := by
  have hinstruction := p.instruction_bounds comment?
  unfold Statement.headRange Within
  split
  · rename_i size hsize
    have hmem : size ∈ (p.statement comment?).size?.toList := by simp [hsize]
    have hbounds := p.bounds_of_mem comment? (List.mem_append_left _ hmem)
    simp only
    omega
  · exact ⟨Int.le_refl _, hinstruction⟩

theorem operandRange_within :
    Within (p.statement comment?).instruction.start code.length
      (p.statement comment?).operandRange := by
  have hinstruction := p.instruction_bounds comment?
  have horder : (p.statement comment?).operands.Pairwise fun a b => a.stop < b.start :=
    operandSpans_separate p.list p.listColumn
  have hmem := fun (op : Span) (hop : op ∈ (p.statement comment?).operands) =>
    p.bounds_of_mem comment? (List.mem_append_right _ hop)
  unfold Statement.operandRange
  split
  · exact p.headRange_within comment?
  · rename_i first rest hops
    rw [hops] at horder hmem
    have hfirst := hmem first List.mem_cons_self
    have hlast := List.getLast_mem (List.cons_ne_nil first rest)
    refine ⟨by simp only; omega, ?_, (hmem _ hlast).2.2⟩
    rcases List.mem_cons.mp hlast with heq | hlater
    · rw [heq]
      exact hfirst.2.1
    · have hafter := (List.pairwise_cons.mp horder).1 _ hlater
      have hbounds := hmem _ hlast
      simp only
      omega

theorem markable_within {r : Int × Int} (h : (p.statement comment?).Markable r) :
    Within (p.statement comment?).instruction.start code.length r := by
  have hinstruction := p.instruction_bounds comment?
  cases h with
  | instruction => exact ⟨Int.le_refl _, hinstruction⟩
  | @size size hsize =>
    have hmem : size ∈ (p.statement comment?).size?.toList := by simp [hsize]
    have hbounds := p.bounds_of_mem comment? (List.mem_append_left _ hmem)
    exact ⟨by simp only; omega, hbounds.2⟩
  | operand hop =>
    have hbounds := p.bounds_of_mem comment? (List.mem_append_right _ hop)
    exact ⟨by simp only; omega, hbounds.2⟩
  | operands => exact p.operandRange_within comment?
  | head => exact p.headRange_within comment?
  | gap hops => exact ⟨hinstruction.1, by simp only; omega, p.gap_bound comment? hops⟩

end CodeParts

theorem Statement.operand_within {line : Text} {s : Statement}
    (hs : Statement.ofLine? line = some s) {op : Span} (hop : op ∈ s.operands) :
    Within s.instruction.start (codePart (lineContent line)).length (op.start, op.stop) := by
  obtain ⟨p, rfl⟩ := ofLine?_parts hs
  exact p.markable_within _ (.operand hop)

theorem Statement.operands_separate {line : Text} {s : Statement}
    (hs : Statement.ofLine? line = some s) :
    s.operands.Pairwise fun a b => a.stop < b.start := by
  obtain ⟨p, rfl⟩ := ofLine?_parts hs
  exact operandSpans_separate p.list p.listColumn

/-- A range in the code of a line lies in the line. -/
theorem Within.line_bounds {line : Text} {s : Statement} {r : Int × Int}
    (h : Within s.instruction.start (codePart (lineContent line)).length r)
    (hs : Statement.ofLine? line = some s) : 0 ≤ r.1 ∧ r.1 ≤ r.2 ∧ r.2 ≤ line.length := by
  obtain ⟨hstart, hle, hstop⟩ := h
  have hcode : (codePart (lineContent line)).length ≤ (lineContent line).length :=
    (List.takeWhile_sublist _).length_le
  have hline := Text.length_dropEndWhile_le Statement.isLineEnd line
  have hfirst : 0 ≤ s.instruction.start := by
    obtain ⟨p, rfl⟩ := ofLine?_parts hs
    exact Int.natCast_nonneg _
  change (lineContent line).length ≤ line.length at hline
  omega

/-- What a rule reports is an error without a place in a document, and it lies in the code of the
line, from the instruction on. -/
theorem check_within {line : Text} {s : Statement} {family : Family} {d : Diagnostic}
    (hs : Statement.ofLine? line = some s) (hd : family.check s = some d) :
    d.severity = .error ∧ d.line? = none ∧ d.file? = none ∧
      Within s.instruction.start (codePart (lineContent line)).length (d.start, d.stop) := by
  obtain ⟨p, rfl⟩ := ofLine?_parts hs
  obtain ⟨problem, r, hseverity, hr, rfl⟩ := Form.check_marks family.form _ d hd
  exact ⟨hseverity, rfl, rfl, p.markable_within _ hr⟩

/-- Where the code of a line ends: at the first semicolon or, without one, where the line ends. -/
def codeEnd (line : Text) : Nat :=
  if ';' ∈ line then line.idxOf ';' else (lineContent line).length

theorem length_codePart_lineContent (line : Text) :
    (codePart (lineContent line)).length = codeEnd line := by
  obtain ⟨ending, hline, hending⟩ := Text.dropEndWhile_append Statement.isLineEnd line
  change line = lineContent line ++ ending at hline
  have hfree : ';' ∉ ending := fun hmem => absurd (hending ';' hmem) (by decide)
  by_cases hmem : ';' ∈ lineContent line
  · have hall : ';' ∈ line := by
      rw [hline]
      exact List.mem_append_left ending hmem
    have hindex : line.idxOf ';' = (lineContent line).idxOf ';' := by
      conv_lhs => rw [hline]
      exact List.idxOf_append_of_mem hmem
    rw [codeEnd, if_pos hall, hindex, idxOf_semicolon hmem]
  · have hnone : ';' ∉ line := by
      rw [hline, List.mem_append, not_or]
      exact ⟨hmem, hfree⟩
    rw [codeEnd, if_neg hnone, (codePart_of_not_mem hmem).1]

theorem CodeParts.indent_append {code : Text} (p : CodeParts code) (rest : Text) :
    Text.indent (code ++ rest) = p.lead.length := by
  have hcode : code ++ rest =
      p.lead ++ (p.instruction ++ (p.size ++ (p.gap ++ (p.list ++ rest)))) := by
    conv_lhs => rw [p.code_eq]
    simp only [List.append_assoc]
  rw [Text.indent, hcode,
    Text.takeWhile_append_of_boundary p.lead_blank (p.head?_instruction _)]

/-- The instruction stands behind the blanks with which the line starts. -/
theorem Statement.instruction_start {line : Text} {s : Statement}
    (hs : Statement.ofLine? line = some s) : s.instruction.start = Text.indent line := by
  obtain ⟨ending, hline, _⟩ := Text.dropEndWhile_append Statement.isLineEnd line
  change line = lineContent line ++ ending at hline
  obtain ⟨p, rfl⟩ := ofLine?_parts hs
  have hindent := p.indent_append ((lineContent line).dropWhile (· != ';') ++ ending)
  rw [← List.append_assoc, codePart_append, ← hline] at hindent
  exact congrArg Nat.cast hindent.symm

/-- Whatever the rules report about a line is an error without a place in a document, and it covers
code only: it starts at the instruction or behind it, so after the indentation, and it ends in
front of the comment and of the line end. -/
theorem line_report_in_code {line : Text} {d : Diagnostic} (h : checkLine line = some d) :
    d.severity = .error ∧ d.line? = none ∧ d.file? = none ∧
      ∃ s, Statement.ofLine? line = some s ∧ s.instruction.start = Text.indent line ∧
        s.instruction.start ≤ d.start ∧ d.start ≤ d.stop ∧ d.stop ≤ codeEnd line := by
  obtain ⟨s, hs, hfamily⟩ := Option.bind_eq_some_iff.mp h
  obtain ⟨family, _, hd⟩ := Option.bind_eq_some_iff.mp hfamily
  obtain ⟨hseverity, hline, hfile, hwithin⟩ := check_within hs hd
  rw [length_codePart_lineContent] at hwithin
  exact ⟨hseverity, hline, hfile, s, hs, Statement.instruction_start hs, hwithin⟩

/-- A sleep for a register without a size: the character behind the mnemonic is marked, and it is
the blank in front of the operand. -/
theorem line_report_in_code_sleep :
    let line := "\tslp r0;x\r\n".toList
    let d := Problem.sleepSizeNeeded.markRange (4, 5)
    checkLine line = some d ∧ d.severity = .error ∧ codeEnd line = 7 ∧
      ∃ s, Statement.ofLine? line = some s ∧ s.instruction.start = 1 ∧
        s.instruction.start ≤ d.start ∧ d.start ≤ d.stop ∧ d.stop ≤ 7 := by
  intro line d
  have hd : checkLine line = some d := by decide +kernel
  obtain ⟨hseverity, _, _, hrange⟩ := line_report_in_code hd
  exact ⟨hd, hseverity, rfl, hrange⟩

end AsmCheck
