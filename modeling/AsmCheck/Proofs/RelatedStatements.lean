import AsmCheck.Rules
import Mathlib.Data.List.Forall2

/-!
# Related statements

A rule takes its decisions and its wording from the texts of a statement and takes the range that it
marks from the columns. So for two statements with the same texts the rules report the same problem,
and the ranges are related in whatever way the columns are. The instruction itself is read by two
rules only: that of set instructions counts operands by the mnemonic, and that of bitwise
instructions by the family which the instruction names.
-/

namespace AsmCheck

set_option autoImplicit false

/-- A relation between the columns of two lines that holds of all columns computed from related
ones: the column behind, and the larger of two. -/
structure ColumnRelation where
  Rel : Int → Int → Prop
  next : ∀ {a b : Int}, Rel a b → Rel (a + 1) (b + 1)
  max : ∀ {a b c d : Int}, Rel a b → Rel c d → Rel (max a c) (max b d)

namespace ColumnRelation

/-- Columns need not be related at all. -/
def any : ColumnRelation := ⟨fun _ _ => True, fun _ => trivial, fun _ _ => trivial⟩

/-- The second column is the first one moved to the right. -/
def moved (width : Int) : ColumnRelation where
  Rel a b := b = a + width
  next h := by omega
  max h h' := by omega

end ColumnRelation

section

variable (R : ColumnRelation)

/-- Two spans with the same text at related columns. -/
inductive Span.Related : Span → Span → Prop where
  | mk {start stop start' stop' : Int} (text : Text) : R.Rel start start' → R.Rel stop stop' →
      Related ⟨start, stop, text⟩ ⟨start', stop', text⟩

/-- Two statements whose sizes and operands have the same texts, at related columns. The texts of
their instructions are left open. -/
structure Statement.Related (s t : Statement) : Prop where
  start : R.Rel s.instruction.start t.instruction.start
  stop : R.Rel s.instruction.stop t.instruction.stop
  size : Option.Rel (Span.Related R) s.size? t.size?
  operands : List.Forall₂ (Span.Related R) s.operands t.operands

/-- Two reports of one problem over related ranges. -/
structure Diagnostic.Related (c d : Diagnostic) : Prop where
  start : R.Rel c.start d.start
  stop : R.Rel c.stop d.stop
  rest : { d with start := c.start, stop := c.stop } = c

/-- What is found wrong with two statements: nothing, or the same problem. -/
abbrev RelatedVerdicts : Option Diagnostic → Option Diagnostic → Prop :=
  Option.Rel (Diagnostic.Related R)

end

section

variable {R : ColumnRelation}

theorem Span.Related.text_eq {a b : Span} (h : a.Related R b) : a.text = b.text := by
  cases h with
  | mk text _ _ => rfl

theorem Span.Related.start {a b : Span} (h : a.Related R b) : R.Rel a.start b.start := by
  cases h with
  | mk text hstart _ => exact hstart

theorem Span.Related.stop {a b : Span} (h : a.Related R b) : R.Rel a.stop b.stop := by
  cases h with
  | mk text _ hstop => exact hstop

namespace RelatedVerdicts

theorem range (problem : Problem) {r r' : Int × Int}
    (h : R.Rel r.1 r'.1 ∧ R.Rel r.2 r'.2) :
    RelatedVerdicts R (some (problem.markRange r)) (some (problem.markRange r')) :=
  .some ⟨h.1, h.2, rfl⟩

theorem mark (problem : Problem) {a b : Span} (h : a.Related R b) :
    RelatedVerdicts R (some (problem.mark a)) (some (problem.mark b)) :=
  range problem ⟨h.start, h.stop⟩

theorem markIf (problem : Problem) (condition : Bool) {a b : Span} (h : a.Related R b) :
    RelatedVerdicts R (problem.markIf condition a) (problem.markIf condition b) := by
  cases condition with
  | false => exact .none
  | true => exact mark problem h

theorem or {a b c d : Option Diagnostic} (h : RelatedVerdicts R a b) (h' : RelatedVerdicts R c d) :
    RelatedVerdicts R (a.or c) (b.or d) := by
  cases h with
  | none => exact h'
  | some h => exact .some h

theorem mapRange (problem? : Option Problem) {r r' : Int × Int}
    (h : R.Rel r.1 r'.1 ∧ R.Rel r.2 r'.2) :
    RelatedVerdicts R (problem?.map (·.markRange r)) (problem?.map (·.markRange r')) := by
  cases problem? with
  | none => exact .none
  | some problem => exact range problem h

end RelatedVerdicts

namespace Statement.Related

variable {s t : Statement}

theorem headRange (h : s.Related R t) :
    R.Rel s.headRange.1 t.headRange.1 ∧ R.Rel s.headRange.2 t.headRange.2 := by
  refine ⟨h.start, ?_⟩
  have hsize := h.size
  unfold Statement.headRange
  generalize s.size? = a, t.size? = b at hsize
  cases hsize with
  | none => exact h.stop
  | some hspan => exact R.max h.stop hspan.stop

theorem getLast {ops ops' : List Span} (h : List.Forall₂ (Span.Related R) ops ops')
    (hops : ops ≠ []) (hops' : ops' ≠ []) :
    Span.Related R (ops.getLast hops) (ops'.getLast hops') := by
  induction h with
  | nil => exact absurd rfl hops
  | cons hspan hrest ih =>
    cases hrest with
    | nil => exact hspan
    | cons hnext hmore => exact ih (by simp) (by simp)

theorem operandRange (h : s.Related R t) :
    R.Rel s.operandRange.1 t.operandRange.1 ∧ R.Rel s.operandRange.2 t.operandRange.2 := by
  have hhead := h.headRange
  have hoperands := h.operands
  unfold Statement.operandRange
  generalize s.operands = ops, t.operands = ops' at hoperands
  cases hoperands with
  | nil => exact hhead
  | cons hfirst hrest => exact ⟨hfirst.start, (getLast (.cons hfirst hrest) _ _).stop⟩

end Statement.Related

namespace Rules

section

variable {ops ops' : List Span} {d d' : Diagnostic}

theorem single_related {rule rule' : Span → Option Diagnostic}
    {report report' : List Span → Diagnostic} :
    List.Forall₂ (Span.Related R) ops ops' →
    (∀ {a a'}, a.Related R a' → RelatedVerdicts R (rule a) (rule' a')) →
    RelatedVerdicts R (some (report ops)) (some (report' ops')) →
    RelatedVerdicts R
      (match ops with
        | [op] => rule op
        | ops => some (report ops))
      (match ops' with
        | [op] => rule' op
        | ops => some (report' ops)) := by
  intro h hrule hreport
  cases h with
  | nil => exact hreport
  | cons hfirst hrest =>
    cases hrest with
    | nil => exact hrule hfirst
    | cons _ _ => exact hreport

theorem pair_related {rule : Span → Span → Option Diagnostic} :
    List.Forall₂ (Span.Related R) ops ops' →
    (∀ {a b a' b'}, a.Related R a' → b.Related R b' → RelatedVerdicts R (rule a b) (rule a' b')) →
    RelatedVerdicts R (some d) (some d') →
    RelatedVerdicts R
      (match ops with
        | [a, b] => rule a b
        | _ => some d)
      (match ops' with
        | [a, b] => rule a b
        | _ => some d') := by
  intro h hrule hreport
  cases h with
  | nil => exact hreport
  | cons hfirst hrest =>
    cases hrest with
    | nil => exact hreport
    | cons hsecond hrest =>
      cases hrest with
      | nil => exact hrule hfirst hsecond
      | cons _ _ => exact hreport

theorem triple_related {rule : Span → Span → Span → Option Diagnostic} :
    List.Forall₂ (Span.Related R) ops ops' →
    (∀ {a b c a' b' c'}, a.Related R a' → b.Related R b' → c.Related R c' →
      RelatedVerdicts R (rule a b c) (rule a' b' c')) →
    RelatedVerdicts R (some d) (some d') →
    RelatedVerdicts R
      (match ops with
        | [a, b, c] => rule a b c
        | _ => some d)
      (match ops' with
        | [a, b, c] => rule a b c
        | _ => some d') := by
  intro h hrule hreport
  cases h with
  | nil => exact hreport
  | cons hfirst hrest =>
    cases hrest with
    | nil => exact hreport
    | cons hsecond hrest =>
      cases hrest with
      | nil => exact hreport
      | cons hthird hrest =>
        cases hrest with
        | nil => exact hrule hfirst hsecond hthird
        | cons _ _ => exact hreport

end

section

open RelatedVerdicts

variable {a b c a' b' c' : Span}

theorem moveOperands_related (ha : a.Related R a') (hb : b.Related R b') :
    RelatedVerdicts R (moveOperands a b) (moveOperands a' b') := by
  simp only [moveOperands, hasKind, isKind, isPointer, moveSwizzles, swizzledOutside, ha.text_eq,
    hb.text_eq]
  refine (markIf _ _ ha).or ((markIf _ _ hb).or ((markIf _ _ ha).or ((markIf _ _ hb).or ?_)))
  exact mapRange _ ⟨ha.start, hb.stop⟩

theorem wordSelectOperands_related (ha : a.Related R a') (hb : b.Related R b') :
    RelatedVerdicts R (wordSelectOperands a b) (wordSelectOperands a' b') := by
  simp only [wordSelectOperands, isKind, isSource, ha.text_eq, hb.text_eq]
  exact (markIf _ _ ha).or ((markIf _ _ hb).or ((markIf _ _ ha).or (markIf _ _ hb)))

theorem mathOperands_related (ha : a.Related R a') (hb : b.Related R b') (hc : c.Related R c') :
    RelatedVerdicts R (mathOperands a b c) (mathOperands a' b' c') := by
  simp only [mathOperands, hasKind, isKind, isSource, ha.text_eq, hb.text_eq, hc.text_eq]
  exact (markIf _ _ ha).or ((markIf _ _ hb).or ((markIf _ _ hc).or ((markIf _ _ ha).or
    ((markIf _ _ hb).or ((markIf _ _ hc).or ((markIf _ _ ha).or ((markIf _ _ hb).or
    ((markIf _ _ hc).or (markIf _ _ ha)))))))))

theorem shiftOperands_related (ha : a.Related R a') (hb : b.Related R b') :
    RelatedVerdicts R (shiftOperands a b) (shiftOperands a' b') := by
  simp only [shiftOperands, hasKind, isKind, isSource, ha.text_eq, hb.text_eq]
  exact (markIf _ _ ha).or ((markIf _ _ hb).or ((markIf _ _ ha).or (markIf _ _ hb)))

theorem specialOperands_related (ha : a.Related R a') (hb : b.Related R b') :
    RelatedVerdicts R (specialOperands a b) (specialOperands a' b') := by
  simp only [specialOperands, isKind, isSource, ha.text_eq, hb.text_eq]
  exact (markIf _ _ ha).or ((markIf _ _ hb).or ((markIf _ _ ha).or (markIf _ _ hb)))

theorem swizzleOperand_related (ha : a.Related R a') :
    RelatedVerdicts R (swizzleOperand a) (swizzleOperand a') := by
  simp only [swizzleOperand, isKind, ha.text_eq]
  apply (markIf _ _ ha).or
  split
  · exact mark _ ha
  · exact markIf _ _ ha

theorem setOperands_related {ops ops' : List Span}
    (h : List.Forall₂ (Span.Related R) ops ops') :
    RelatedVerdicts R (setOperands ops) (setOperands ops') := by
  cases h with
  | nil => exact .none
  | cons hdst hvalues =>
    simp only [setOperands, isKind, hdst.text_eq]
    apply (markIf _ _ hdst).or
    induction hvalues with
    | nil => exact .none
    | cons hvalue hmore ih =>
      simp only [List.find?_cons, isTarget, hvalue.text_eq]
      split
      · exact mark _ hvalue
      · exact ih

theorem jumpTarget_related (unknown : Problem) (ha : a.Related R a') :
    RelatedVerdicts R (jumpTarget unknown a) (jumpTarget unknown a') := by
  simp only [jumpTarget, ha.text_eq]
  split
  · exact mark _ ha
  · exact markIf _ _ ha

theorem conditionalJumpOperands_related (ha : a.Related R a') (hb : b.Related R b') :
    RelatedVerdicts R (conditionalJumpOperands a b) (conditionalJumpOperands a' b') := by
  simp only [conditionalJumpOperands, hasKind, ha.text_eq, hb.text_eq]
  split
  · exact mark _ ha
  · exact (markIf _ _ hb).or ((markIf _ _ ha).or (jumpTarget_related _ hb))

end

section

open RelatedVerdicts

variable {s t : Statement} (h : s.Related R t)

include h

theorem sizeMap_related (problem : Text → Problem) :
    RelatedVerdicts R (s.size?.map fun size => (problem size.text).mark size)
      (t.size?.map fun size => (problem size.text).mark size) := by
  have hsize := h.size
  generalize s.size? = a, t.size? = b at hsize
  cases hsize with
  | none => exact .none
  | some hspan =>
    simp only [Option.map_some, hspan.text_eq]
    exact mark _ hspan

theorem noSize_related (instructions : String) :
    RelatedVerdicts R (noSize instructions s) (noSize instructions t) :=
  sizeMap_related h (.sizeNotTaken instructions)

theorem commonSize_related (required : Bool) :
    RelatedVerdicts R (commonSize s.size? s.instruction required)
      (commonSize t.size? t.instruction required) := by
  have hsize := h.size
  generalize s.size? = a, t.size? = b at hsize
  cases hsize with
  | none =>
    cases required with
    | false => exact .none
    | true => exact range _ ⟨h.start, h.stop⟩
  | some hspan =>
    simp only [commonSize, hspan.text_eq]
    exact markIf _ _ hspan

theorem wrongCount_related (instructions : String) (expected : Nat) :
    RelatedVerdicts R (some (wrongCount instructions expected s))
      (some (wrongCount instructions expected t)) := by
  rw [wrongCount, wrongCount, h.operands.length_eq]
  exact range _ h.operandRange

theorem isEmpty_operands_eq : s.operands.isEmpty = t.operands.isEmpty := by
  have hoperands := h.operands
  generalize s.operands = ops, t.operands = ops' at hoperands
  cases hoperands with
  | nil => rfl
  | cons _ _ => rfl

theorem noOperands_related (problem : Problem) :
    RelatedVerdicts R (noOperands problem s) (noOperands problem t) := by
  rw [noOperands, noOperands, isEmpty_operands_eq h]
  split
  · exact .none
  · exact range problem h.operandRange

theorem nop_related : RelatedVerdicts R (nop s) (nop t) := by
  rw [nop, nop, h.operands.length_eq]
  exact (noSize_related h _).or (noOperands_related h _)

theorem halt_related : RelatedVerdicts R (halt s) (halt t) := by
  rw [halt, halt, h.operands.length_eq]
  exact (noSize_related h _).or (noOperands_related h _)

theorem skip_related : RelatedVerdicts R (skip s) (skip t) :=
  (sizeMap_related h fun _ => .skipSize).or (noOperands_related h _)

theorem sleepDuration_related {op op' : Span} (hop : op.Related R op') :
    RelatedVerdicts R (sleepDuration s op) (sleepDuration t op') := by
  have hsize := h.size
  simp only [sleepDuration, isSource, isKind, hop.text_eq]
  generalize s.size? = a, t.size? = b at hsize
  cases hsize with
  | some _ => exact markIf _ _ hop
  | none =>
    by_cases hsource : (Operand.Kind.ofText? op'.text).any Operand.Kind.isSource = true
    · simp only [hsource, Option.isSome_none, Bool.false_eq_true, if_false, if_true]
      exact .some ⟨h.stop, R.next h.stop, rfl⟩
    · simp only [hsource, Option.isSome_none, Bool.false_eq_true, if_false]
      exact markIf _ _ hop

theorem sleep_related : RelatedVerdicts R (sleep s) (sleep t) := by
  apply RelatedVerdicts.or
  · have hsize := h.size
    generalize s.size? = a, t.size? = b at hsize
    cases hsize with
    | none => exact .none
    | some hspan =>
      simp only [Option.bind_some, hspan.text_eq]
      exact markIf _ _ hspan
  · apply single_related h.operands (sleepDuration_related h)
    rw [h.operands.length_eq]
    exact range _ h.operandRange

theorem move_related : RelatedVerdicts R (move s) (move t) :=
  (noSize_related h _).or
    (pair_related h.operands moveOperands_related (wrongCount_related h _ _))

theorem wordSelect_related : RelatedVerdicts R (wordSelect s) (wordSelect t) :=
  (noSize_related h _).or
    (pair_related h.operands wordSelectOperands_related (wrongCount_related h _ _))

theorem math_related : RelatedVerdicts R (math s) (math t) :=
  (commonSize_related h _).or
    (triple_related h.operands mathOperands_related (wrongCount_related h _ _))

theorem shift_related : RelatedVerdicts R (shift s) (shift t) :=
  (commonSize_related h _).or
    (pair_related h.operands shiftOperands_related (wrongCount_related h _ _))

theorem special_related : RelatedVerdicts R (special s) (special t) :=
  (sizeMap_related h .specialSize).or
    (pair_related h.operands specialOperands_related (wrongCount_related h _ _))

theorem swizzle_related : RelatedVerdicts R (swizzle s) (swizzle t) :=
  (noSize_related h _).or
    (single_related h.operands swizzleOperand_related (wrongCount_related h _ _))

theorem jump_related : RelatedVerdicts R (jump s) (jump t) := by
  refine (noSize_related h _).or (single_related h.operands ?_ (wrongCount_related h _ _))
  intro op op' hop
  rw [hop.text_eq]
  exact jumpTarget_related _ hop

theorem conditionalJump_related : RelatedVerdicts R (conditionalJump s) (conditionalJump t) :=
  (noSize_related h _).or
    (pair_related h.operands conditionalJumpOperands_related (wrongCount_related h _ _))

/-- Bitwise instructions ask whether the family that the instruction names is unary. -/
theorem bitwise_related
    (hunary : (Family.ofToken? s.instruction.text).any Family.isUnary =
      (Family.ofToken? t.instruction.text).any Family.isUnary) :
    RelatedVerdicts R (bitwise s) (bitwise t) := by
  apply (noSize_related h _).or
  rw [isEmpty_operands_eq h, hunary, h.operands.length_eq]
  split
  · exact range _ h.headRange
  · split
    · split
      · exact .none
      · exact range _ h.operandRange
    · split
      · exact .none
      · exact wrongCount_related h _ _

/-- Set instructions count and name by their mnemonic. -/
theorem set_related
    (hmnemonic : Family.mnemonic s.instruction.text = Family.mnemonic t.instruction.text) :
    RelatedVerdicts R (set s) (set t) := by
  unfold set
  rw [hmnemonic, h.operands.length_eq]
  apply (noSize_related h _).or
  split
  · exact setOperands_related h.operands
  · exact range _ h.operandRange

end

end Rules

variable {s t : Statement}

/-- Related statements get related verdicts from all rules that do not read the instruction. -/
theorem Form.check_related_of_ne {form : Form} (hset : form ≠ .set) (hbitwise : form ≠ .bitwise)
    (h : s.Related R t) : RelatedVerdicts R (form.check s) (form.check t) := by
  cases form with
  | nop => exact Rules.nop_related h
  | halt => exact Rules.halt_related h
  | skip => exact Rules.skip_related h
  | sleep => exact Rules.sleep_related h
  | move => exact Rules.move_related h
  | wordSelect => exact Rules.wordSelect_related h
  | math => exact Rules.math_related h
  | shift => exact Rules.shift_related h
  | bitwise => exact absurd rfl hbitwise
  | special => exact Rules.special_related h
  | swizzle => exact Rules.swizzle_related h
  | set => exact absurd rfl hset
  | jump => exact Rules.jump_related h
  | conditionalJump => exact Rules.conditionalJump_related h

/-- Related statements with the same mnemonic get related verdicts from every rule. -/
theorem Form.check_related (form : Form) (h : s.Related R t)
    (hmnemonic : Family.mnemonic s.instruction.text = Family.mnemonic t.instruction.text) :
    RelatedVerdicts R (form.check s) (form.check t) := by
  by_cases hset : form = .set
  · subst hset
    exact Rules.set_related h hmnemonic
  by_cases hbitwise : form = .bitwise
  · subst hbitwise
    refine Rules.bitwise_related h ?_
    rw [Family.ofToken?, hmnemonic, ← Family.ofToken?]
  · exact check_related_of_ne hset hbitwise h

end

end AsmCheck
