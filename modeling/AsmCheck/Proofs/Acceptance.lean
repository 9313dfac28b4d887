import AsmCheck.Proofs.FamilyGroups
import AsmCheck.Rules

/-!
# What the rules accept

A rule finds nothing exactly if none of its checks does, so each rule comes down to the size, the
number of operands and the conditions on each of them.
-/

namespace AsmCheck

set_option autoImplicit false

open Operand (Kind swizzle? key?)

theorem Family.form_eq_move_iff (family : Family) : family.form = .move ↔ family = .move :=
  (family.form_eq_iff .move).trans List.mem_singleton

theorem Family.form_eq_set_iff (family : Family) : family.form = .set ↔ family = .set :=
  (family.form_eq_iff .set).trans List.mem_singleton

@[simp] theorem Problem.markIf_eq_none_iff (problem : Problem) (condition : Bool) (span : Span) :
    problem.markIf condition span = none ↔ condition = false := by
  unfold markIf
  split <;> simp_all

namespace Rules

theorem hasKind_iff (op : Span) : hasKind op = true ↔ ∃ kind, Kind.ofText? op.text = some kind := by
  rw [hasKind, Option.isSome_iff_exists]

theorem isKind_iff (kind : Kind) (op : Span) :
    isKind kind op = true ↔ Kind.ofText? op.text = some kind := by
  rw [isKind, beq_iff_eq]

theorem hasKind_of_isKind {kind : Kind} {op : Span} (h : isKind kind op = true) :
    hasKind op = true :=
  (hasKind_iff op).mpr ⟨kind, (isKind_iff kind op).mp h⟩

theorem isSource_iff (op : Span) :
    isSource op = true ↔ ∃ kind, Kind.ofText? op.text = some kind ∧ kind.isSource = true := by
  rw [isSource, Option.any_eq_true]

theorem isTarget_iff (op : Span) :
    isTarget op = true ↔ ∃ kind, Kind.ofText? op.text = some kind ∧ kind.isTarget = true := by
  rw [isTarget, Option.any_eq_true]

theorem hasKind_of_isSource {op : Span} (h : isSource op = true) : hasKind op = true := by
  obtain ⟨kind, hkind, _⟩ := (isSource_iff op).mp h
  exact (hasKind_iff op).mpr ⟨kind, hkind⟩

theorem hasKind_of_isTarget {op : Span} (h : isTarget op = true) : hasKind op = true := by
  obtain ⟨kind, hkind, _⟩ := (isTarget_iff op).mp h
  exact (hasKind_iff op).mpr ⟨kind, hkind⟩

theorem single_eq_none_iff (ops : List Span) (rule : Span → Option Diagnostic)
    (report : List Span → Diagnostic) :
    (match ops with
      | [op] => rule op
      | ops => some (report ops)) = none ↔ ∃ op, ops = [op] ∧ rule op = none := by
  split
  · simp
  · rename_i hops
    simp only [reduceCtorEq, false_iff]
    rintro ⟨op, heq, _⟩
    exact hops op heq

theorem pair_eq_none_iff (ops : List Span) (rule : Span → Span → Option Diagnostic)
    (report : Diagnostic) :
    (match ops with
      | [a, b] => rule a b
      | _ => some report) = none ↔ ∃ a b, ops = [a, b] ∧ rule a b = none := by
  split
  · simp [and_assoc]
  · rename_i hops
    simp only [reduceCtorEq, false_iff]
    rintro ⟨a, b, heq, _⟩
    exact hops a b heq

theorem triple_eq_none_iff (ops : List Span) (rule : Span → Span → Span → Option Diagnostic)
    (report : Diagnostic) :
    (match ops with
      | [a, b, c] => rule a b c
      | _ => some report) = none ↔ ∃ a b c, ops = [a, b, c] ∧ rule a b c = none := by
  split
  · simp [and_assoc]
  · rename_i hops
    simp only [reduceCtorEq, false_iff]
    rintro ⟨a, b, c, heq, _⟩
    exact hops a b c heq

theorem moveOperands_eq_none_iff (dst src : Span) :
    moveOperands dst src = none ↔ hasKind dst = true ∧ hasKind src = true ∧
      isKind .immediate dst = false ∧ isKind .immediate src = false ∧
        (isPointer dst && isPointer src) = false ∧ moveSwizzles dst src = none := by
  simp only [moveOperands, Option.or_eq_none_iff, Problem.markIf_eq_none_iff, Bool.not_eq_false',
    Option.map_eq_none_iff]
  cases isPointer dst && isPointer src <;> simp

theorem wordSelectOperands_eq_none_iff (dst src : Span) :
    wordSelectOperands dst src = none ↔ isKind .register dst = true ∧ isSource src = true ∧
      swizzle? dst.text = none ∧ ∀ words, swizzle? src.text = some words →
        words.length = 1 ∧ words.all Operand.isWordLetter = true := by
  simp only [wordSelectOperands, Option.or_eq_none_iff, Problem.markIf_eq_none_iff,
    Bool.not_eq_false', Option.isSome_eq_false_iff, Option.isNone_iff_eq_none]
  cases swizzle? src.text <;> simp

theorem mathOperands_eq_none_iff (dst lhs rhs : Span) :
    mathOperands dst lhs rhs = none ↔
      isKind .register dst = true ∧ isSource lhs = true ∧ isSource rhs = true ∧
        swizzle? dst.text = none ∧ swizzle? lhs.text = none ∧ swizzle? rhs.text = none ∧
          (key? dst.text = key? lhs.text ∨ key? dst.text = key? rhs.text) := by
  simp only [mathOperands, Option.or_eq_none_iff, Problem.markIf_eq_none_iff, Bool.not_eq_false',
    Option.isSome_eq_false_iff, Option.isNone_iff_eq_none, Bool.and_eq_false_iff,
    bne_eq_false_iff_eq]
  constructor
  · rintro ⟨_, _, _, hvalid⟩
    exact hvalid
  · intro hvalid
    exact ⟨hasKind_of_isKind hvalid.1, hasKind_of_isSource hvalid.2.1,
      hasKind_of_isSource hvalid.2.2.1, hvalid⟩

theorem shiftOperands_eq_none_iff (dst src : Span) :
    shiftOperands dst src = none ↔
      isKind .register dst = true ∧ (isSource src = true ∨ isKind .immediate src = true) := by
  simp only [shiftOperands, Option.or_eq_none_iff, Problem.markIf_eq_none_iff,
    Bool.not_eq_false', Bool.and_eq_false_iff]
  constructor
  · rintro ⟨_, _, hdst, hsrc⟩
    exact ⟨hdst, hsrc⟩
  · rintro ⟨hdst, hsrc⟩
    exact ⟨hasKind_of_isKind hdst, hsrc.elim hasKind_of_isSource hasKind_of_isKind, hdst, hsrc⟩

theorem specialOperands_eq_none_iff (dst src : Span) :
    specialOperands dst src = none ↔ isKind .register dst = true ∧ isSource src = true ∧
      swizzle? dst.text = none ∧ swizzle? src.text = none := by
  simp only [specialOperands, Option.or_eq_none_iff, Problem.markIf_eq_none_iff,
    Bool.not_eq_false', Option.isSome_eq_false_iff, Option.isNone_iff_eq_none]

theorem swizzleOperand_eq_none_iff (op : Span) :
    swizzleOperand op = none ↔ isKind .register op = true ∧
      ∃ words, swizzle? op.text = some words ∧ words.length = 4 ∧
        words.all Operand.isWordLetter = true := by
  simp only [swizzleOperand, Option.or_eq_none_iff, Problem.markIf_eq_none_iff,
    Bool.not_eq_false']
  cases swizzle? op.text <;> simp

theorem setOperands_cons_eq_none_iff (dst : Span) (values : List Span) :
    setOperands (dst :: values) = none ↔
      isKind .register dst = true ∧ ∀ value ∈ values, isTarget value = true := by
  simp [setOperands, Option.or_eq_none_iff]

theorem jumpTarget_eq_none_iff (unknown : Problem) (op : Span) :
    jumpTarget unknown op = none ↔ isTarget op = true := by
  rw [isTarget_iff]
  unfold jumpTarget
  cases Kind.ofText? op.text <;> simp

theorem conditionalJumpOperands_eq_none_iff (src dst : Span) :
    conditionalJumpOperands src dst = none ↔ isSource src = true ∧ isTarget dst = true := by
  unfold conditionalJumpOperands
  rw [isSource_iff]
  cases Kind.ofText? src.text with
  | none => simp
  | some kind =>
    simp only [Option.or_eq_none_iff, Problem.markIf_eq_none_iff, Bool.not_eq_false',
      jumpTarget_eq_none_iff, Option.some.injEq, exists_eq_left']
    exact and_iff_right_of_imp fun h => hasKind_of_isTarget h.2

variable (s : Statement)

theorem noSize_eq_none_iff (instructions : String) :
    noSize instructions s = none ↔ s.size? = none := by
  simp [noSize]

theorem noOperands_eq_none_iff (problem : Problem) :
    noOperands problem s = none ↔ s.operands = [] := by
  unfold noOperands
  split <;> simp_all

theorem nop_eq_none_iff : nop s = none ↔ s.size? = none ∧ s.operands = [] := by
  rw [nop, Option.or_eq_none_iff, noSize_eq_none_iff, noOperands_eq_none_iff]

theorem halt_eq_none_iff : halt s = none ↔ s.size? = none ∧ s.operands = [] := by
  rw [halt, Option.or_eq_none_iff, noSize_eq_none_iff, noOperands_eq_none_iff]

theorem skip_eq_none_iff : skip s = none ↔ s.size? = none ∧ s.operands = [] := by
  rw [skip, Option.or_eq_none_iff, Option.map_eq_none_iff, noOperands_eq_none_iff]

theorem commonSize_eq_none_iff (size? : Option Span) (instruction : Span) (required : Bool) :
    commonSize size? instruction required = none ↔
      (required = true → size? ≠ none) ∧
        ∀ size, size? = some size → sizes.contains (Text.lower size.text) = true := by
  cases size? <;> simp [commonSize]

theorem sleepDuration_eq_none_iff (op : Span) :
    sleepDuration s op = none ↔
      if s.size?.isSome then isSource op = true else isKind .immediate op = true := by
  unfold sleepDuration
  split
  · simp
  · split
    · rename_i hsource
      obtain ⟨kind, hkind, hsource⟩ := (isSource_iff op).mp hsource
      simp only [reduceCtorEq, false_iff, isKind_iff, hkind, Option.some.injEq]
      rintro rfl
      cases hsource
    · simp

theorem sleep_eq_none_iff :
    sleep s = none ↔
      (∀ size, s.size? = some size → sleepSizes.contains (Text.lower size.text) = true) ∧
        ∃ op, s.operands = [op] ∧ sleepDuration s op = none := by
  unfold sleep
  rw [Option.or_eq_none_iff]
  refine and_congr ?_ (single_eq_none_iff s.operands (sleepDuration s) fun ops =>
    (Problem.sleepOperandCount ops.length).markRange s.operandRange)
  cases s.size? <;> simp

theorem move_eq_none_iff :
    move s = none ↔ s.size? = none ∧
      ∃ dst src, s.operands = [dst, src] ∧ moveOperands dst src = none := by
  rw [move, Option.or_eq_none_iff, noSize_eq_none_iff]
  exact and_congr_right fun _ => pair_eq_none_iff s.operands moveOperands _

theorem wordSelect_eq_none_iff :
    wordSelect s = none ↔ s.size? = none ∧
      ∃ dst src, s.operands = [dst, src] ∧ wordSelectOperands dst src = none := by
  rw [wordSelect, Option.or_eq_none_iff, noSize_eq_none_iff]
  exact and_congr_right fun _ => pair_eq_none_iff s.operands wordSelectOperands _

theorem math_eq_none_iff :
    math s = none ↔ commonSize s.size? s.instruction false = none ∧
      ∃ dst lhs rhs, s.operands = [dst, lhs, rhs] ∧ mathOperands dst lhs rhs = none := by
  rw [math, Option.or_eq_none_iff]
  exact and_congr_right fun _ => triple_eq_none_iff s.operands mathOperands _

theorem shift_eq_none_iff :
    shift s = none ↔ commonSize s.size? s.instruction true = none ∧
      ∃ dst src, s.operands = [dst, src] ∧ shiftOperands dst src = none := by
  rw [shift, Option.or_eq_none_iff]
  exact and_congr_right fun _ => pair_eq_none_iff s.operands shiftOperands _

theorem bitwise_eq_none_iff :
    bitwise s = none ↔ s.size? = none ∧ s.operands.length =
      if (Family.ofToken? s.instruction.text).any Family.isUnary then 1 else 2 := by
  unfold bitwise
  rw [Option.or_eq_none_iff, noSize_eq_none_iff]
  refine and_congr_right fun _ => ?_
  cases s.operands with
  | nil =>
    simp only [List.isEmpty_nil, if_true, List.length_nil, reduceCtorEq, false_iff]
    split <;> omega
  | cons op rest =>
    simp only [List.isEmpty_cons, Bool.false_eq_true, if_false]
    split
    · split <;> simp_all
    · split <;> simp_all

theorem special_eq_none_iff :
    special s = none ↔ s.size? = none ∧
      ∃ dst src, s.operands = [dst, src] ∧ specialOperands dst src = none := by
  rw [special, Option.or_eq_none_iff, Option.map_eq_none_iff]
  exact and_congr_right fun _ => pair_eq_none_iff s.operands specialOperands _

theorem swizzle_eq_none_iff :
    swizzle s = none ↔ s.size? = none ∧
      ∃ op, s.operands = [op] ∧ swizzleOperand op = none := by
  rw [swizzle, Option.or_eq_none_iff, noSize_eq_none_iff]
  exact and_congr_right fun _ => single_eq_none_iff s.operands swizzleOperand fun _ => _

theorem set_eq_none_iff :
    set s = none ↔ s.size? = none ∧
      s.operands.length = setOperandCount (Family.mnemonic s.instruction.text) ∧
        setOperands s.operands = none := by
  unfold set
  rw [Option.or_eq_none_iff, noSize_eq_none_iff]
  refine and_congr_right fun _ => ?_
  split <;> simp_all

theorem jump_eq_none_iff :
    jump s = none ↔ s.size? = none ∧ ∃ op, s.operands = [op] ∧ isTarget op = true := by
  rw [jump, Option.or_eq_none_iff, noSize_eq_none_iff]
  refine and_congr_right fun _ => ?_
  have hsingle := single_eq_none_iff s.operands
    (fun op => jumpTarget (.jumpOperand op.text) op) fun _ => wrongCount "Jump" 1 s
  simp only [jumpTarget_eq_none_iff] at hsingle
  exact hsingle

theorem conditionalJump_eq_none_iff :
    conditionalJump s = none ↔ s.size? = none ∧
      ∃ src dst, s.operands = [src, dst] ∧ isSource src = true ∧ isTarget dst = true := by
  rw [conditionalJump, Option.or_eq_none_iff, noSize_eq_none_iff]
  refine and_congr_right fun _ => ?_
  have hpair := pair_eq_none_iff s.operands conditionalJumpOperands
    (wrongCount "Conditional jump" 2 s)
  simp only [conditionalJumpOperands_eq_none_iff] at hpair
  exact hpair

theorem setOperandCount_pos (mnemonic : Text) : 0 < setOperandCount mnemonic := by
  unfold setOperandCount
  split
  · decide
  · split
    · decide
    · split <;> decide

end Rules

end AsmCheck
