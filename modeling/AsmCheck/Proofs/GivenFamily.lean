import AsmCheck.Proofs.Acceptance
import AsmCheck.Proofs.Tokens

/-!
# Statements of a given family

A statement can be checked for any family, whatever its instruction says. All rules but two ignore
the instruction then. Set instructions differ in their number of operands, so their rule needs the
mnemonic. The rule of bitwise instructions takes the number of operands from the family that the
instruction names and not from the family that is given, so the verdict is that of the given family
only where the two agree on it.
-/

namespace AsmCheck

set_option autoImplicit false

/-- A statement with another instruction in the same place. -/
def Statement.renamed (s : Statement) (text : Text) : Statement :=
  { s with instruction := { s.instruction with text := text } }

/-- Whether a token names a bitwise operation of one operand. -/
def Family.namesUnary (token : Text) : Bool :=
  (ofToken? token).any fun family => decide (family ∈ unaryBitwise)

theorem Family.any_isUnary (token : Text) : (ofToken? token).any isUnary = namesUnary token := by
  have hunary : isUnary = fun family => decide (family ∈ unaryBitwise) := by
    funext family
    rw [Bool.eq_iff_iff, isUnary_iff, decide_eq_true_iff]
  rw [namesUnary, hunary]

theorem Diagnostic.moved_zero (d : Diagnostic) : d.moved 0 = d := by
  rw [moved, Int.add_zero, Int.add_zero]

theorem RelatedVerdicts.eq {a b : Option Diagnostic} (h : RelatedVerdicts (.moved 0) a b) :
    b = a := by
  rw [h.eq_map_moved, Option.map_congr fun d _ => d.moved_zero, Option.map_id']

theorem Statement.renamed_related (s : Statement) (text : Text) :
    s.Related (.moved 0) (s.renamed text) := by
  have hcolumn : ∀ column : Int, (ColumnRelation.moved 0).Rel column column :=
    fun column => (Int.add_zero column).symm
  have hspan : ∀ span : Span, span.Related (.moved 0) span :=
    fun span => .mk span.text (hcolumn span.start) (hcolumn span.stop)
  refine ⟨hcolumn _, hcolumn _, ?_, ?_⟩
  · change Option.Rel _ s.size? s.size?
    cases s.size? with
    | none => exact .none
    | some size => exact .some (hspan size)
  · exact List.forall₂_same.mpr fun op _ => hspan op

namespace Rules

variable {s : Statement}

/-- The two reports of a wrong number of operands differ in their first letter. -/
theorem unaryOperandCount_ne_wrongCount (found : Nat) (range : Int × Int) :
    (Problem.unaryOperandCount found).markRange range ≠ wrongCount "Bitwise" 2 s := by
  intro h
  have hmessage : (Problem.unaryOperandCount found).message =
      (Problem.operandCount "Bitwise" 2 s.operands.length).message :=
    congrArg Diagnostic.message h
  have hunary : (Problem.unaryOperandCount found).message.toList.head? = some 'U' := by
    delta Problem.message
    simp [toString]
  have hbinary : (Problem.operandCount "Bitwise" 2 s.operands.length).message.toList.head? =
      some 'B' := by
    delta Problem.message
    simp [toString]
  rw [hmessage, hbinary] at hunary
  exact absurd hunary (by decide)

theorem bitwise_of_operands (hsize : s.size? = none) (hoperands : s.operands ≠ []) :
    bitwise s =
      if Family.namesUnary s.instruction.text then
        if s.operands.length = 1 then none
        else some ((Problem.unaryOperandCount s.operands.length).markRange s.operandRange)
      else if s.operands.length = 2 then none
      else some (wrongCount "Bitwise" 2 s) := by
  have hempty : s.operands.isEmpty = false := by simpa using hoperands
  rw [bitwise, (noSize_eq_none_iff s "Bitwise").mpr hsize, hempty, Family.any_isUnary]
  rfl

/-- A unary and a binary verdict on the same operands never agree. -/
theorem bitwise_ne_of_namesUnary {t : Statement} (hsize : s.size? = none) (hsize' : t.size? = none)
    (hoperands : s.operands ≠ []) (hoperands' : t.operands = s.operands)
    (hs : Family.namesUnary s.instruction.text = true)
    (ht : Family.namesUnary t.instruction.text = false) : bitwise s ≠ bitwise t := by
  have hcount : t.operands.length = s.operands.length := congrArg List.length hoperands'
  rw [bitwise_of_operands hsize hoperands, bitwise_of_operands hsize' (hoperands' ▸ hoperands)]
  simp only [hs, ht, if_true, Bool.false_eq_true, if_false]
  -- No number of operands is right for both, and two reports differ in their wording.
  split
  · rw [if_neg (by omega)]
    simp
  · split
    · simp
    · intro h
      exact unaryOperandCount_ne_wrongCount _ _ (Option.some.inj h)

theorem bitwise_renamed_eq_iff (text : Text) :
    bitwise (s.renamed text) = bitwise s ↔ s.size? ≠ none ∨ s.operands = [] ∨
      Family.namesUnary text = Family.namesUnary s.instruction.text := by
  constructor
  · intro h
    by_contra hne
    obtain ⟨hsize, hne⟩ := not_or.mp hne
    obtain ⟨hoperands, hunary⟩ := not_or.mp hne
    have hsize := not_not.mp hsize
    cases hs : Family.namesUnary s.instruction.text with
    | true =>
      have ht : Family.namesUnary text = false := by simpa [hs] using hunary
      exact bitwise_ne_of_namesUnary (t := s.renamed text) hsize hsize hoperands rfl hs ht h.symm
    | false =>
      have ht : Family.namesUnary text = true := by simpa [hs] using hunary
      exact bitwise_ne_of_namesUnary (s := s.renamed text) hsize hsize hoperands rfl ht hs h
  · rintro (hsize | hoperands | hunary)
    · obtain ⟨size, hsize⟩ := Option.ne_none_iff_exists'.mp hsize
      simp [bitwise, noSize, Statement.renamed, hsize]
    · simp [bitwise, noSize, Statement.renamed, Statement.headRange, hoperands]
    · rw [← Family.any_isUnary, ← Family.any_isUnary] at hunary
      exact (bitwise_related (s.renamed_related text) hunary.symm).eq

end Rules

/-- The number of operands that a bitwise operation takes. -/
def bitwiseCount (unary : Bool) : Nat := if unary then 1 else 2

theorem Rules.bitwise_eq_none_iff_count (s : Statement) :
    bitwise s = none ↔ s.size? = none ∧
      s.operands.length = bitwiseCount (Family.namesUnary s.instruction.text) := by
  rw [bitwise_eq_none_iff, Family.any_isUnary]
  rfl

/-- The number of operands that is accepted tells a unary operation from the others. -/
theorem Rules.bitwise_counts_iff (s : Statement) (unary : Bool) :
    (bitwise s = none ↔ s.size? = none ∧ s.operands.length = bitwiseCount unary) ↔
      s.size? ≠ none ∨ (s.operands.length ≠ 1 ∧ s.operands.length ≠ 2) ∨
        Family.namesUnary s.instruction.text = unary := by
  rw [bitwise_eq_none_iff_count]
  by_cases hsize : s.size? = none
  · cases Family.namesUnary s.instruction.text <;> cases unary <;>
      simp only [hsize, bitwiseCount] <;> simp <;> omega
  · simp [hsize]

/-- A statement that is checked for a family other than set is judged by this family, whatever its
instruction says, unless the family is bitwise, there are operands and no size, and the instructions
differ in whether they name a unary operation. A bitwise family accepts the number of operands of
the operation that the instruction names. This is the number of the family itself exactly if the
instruction names a unary operation just if the family is one, or if there is a size or another
number of operands than one and two, which no bitwise family accepts. -/
theorem check_by_given_family (family : Family) (s : Statement) (text : Text)
    (hset : family ≠ .set) :
    (family.check (s.renamed text) = family.check s ↔
      family ∉ Family.bitwise ∨ s.size? ≠ none ∨ s.operands = [] ∨
        Family.namesUnary text = Family.namesUnary s.instruction.text) ∧
    (family ∈ Family.bitwise →
      (family.check s = none ↔ s.size? = none ∧
        s.operands.length = bitwiseCount (Family.namesUnary s.instruction.text)) ∧
      ((family.check s = none ↔ s.size? = none ∧
          s.operands.length = bitwiseCount (decide (family ∈ Family.unaryBitwise))) ↔
        s.size? ≠ none ∨ (s.operands.length ≠ 1 ∧ s.operands.length ≠ 2) ∨
          Family.namesUnary s.instruction.text = decide (family ∈ Family.unaryBitwise))) := by
  by_cases hbitwise : family ∈ Family.bitwise
  · rw [Family.check, (family.form_eq_iff .bitwise).mpr hbitwise]
    refine ⟨?_, fun _ => ⟨Rules.bitwise_eq_none_iff_count s, Rules.bitwise_counts_iff s _⟩⟩
    rw [or_iff_right (not_not_intro hbitwise)]
    exact Rules.bitwise_renamed_eq_iff text
  · have hform : family.form ≠ .set := fun h => hset (family.form_eq_set_iff.mp h)
    have hother : family.form ≠ .bitwise := fun h => hbitwise ((family.form_eq_iff _).mp h)
    have hsame := (Form.check_related_of_ne hform hother (s.renamed_related text)).eq
    exact ⟨iff_of_true hsame (Or.inl hbitwise), fun h => absurd h hbitwise⟩

/-- A shift with one operand is reported under any name, and a bitwise operation of two operands is
accepted under the name of another one. -/
theorem check_by_given_family_shift :
    let s : Statement :=
      ⟨⟨0, 3, "lsl".toList⟩, some ⟨3, 5, ".b".toList⟩, [⟨6, 8, "r0".toList⟩], none⟩
    let t : Statement := ⟨⟨0, 2, "or".toList⟩, none, [⟨3, 4, "?".toList⟩, ⟨5, 5, []⟩], none⟩
    Family.shiftLeft.check (s.renamed "jmp".toList) = Family.shiftLeft.check s ∧
      (Family.shiftLeft.check s).isSome = true ∧
      Family.bitwiseAnd.check t = none ∧
      Family.bitwiseAnd.check (t.renamed "xor".toList) = Family.bitwiseAnd.check t := by
  intro s t
  obtain ⟨hshift, _⟩ := check_by_given_family .shiftLeft s "jmp".toList (by decide)
  obtain ⟨hand, hcounts⟩ := check_by_given_family .bitwiseAnd t "xor".toList (by decide)
  refine ⟨hshift.mpr (Or.inl (by decide)), by decide +kernel, ?_, ?_⟩
  · exact (hcounts (by decide)).1.mpr (by decide +kernel)
  · exact hand.mpr (Or.inr (Or.inr (Or.inr (by decide +kernel))))

/-- Under the name of a unary operation a bitwise family of two operands accepts one: the verdict is
not that of the given family. -/
theorem check_by_given_family_all :
    let s : Statement := ⟨⟨0, 3, "all".toList⟩, none, [⟨4, 6, "r0".toList⟩], none⟩
    Family.bitwiseAnd ∉ Family.unaryBitwise ∧ s.operands.length ≠ 2 ∧
      Family.bitwiseAnd.check s = none ∧
      Family.bitwiseAnd.check (s.renamed "and".toList) =
        some ((Problem.operandCount "Bitwise" 2 1).markRange (4, 6)) ∧
      ¬ ∀ (family : Family) s text, family ≠ .set →
        family.check (s.renamed text) = family.check s := by
  intro s
  have hall : Family.bitwiseAnd.check s = none := by decide +kernel
  have hand : Family.bitwiseAnd.check (s.renamed "and".toList) =
      some ((Problem.operandCount "Bitwise" 2 1).markRange (4, 6)) := by decide +kernel
  refine ⟨by decide, by decide, hall, hand, ?_⟩
  intro h
  have hsame := h .bitwiseAnd s "and".toList (by decide)
  rw [hall, hand] at hsame
  cases hsame

end AsmCheck
