import AsmCheck.Proofs.FirstToken

/-!
# Recomposition of a line

Code can be cut into its parts in one way only: the parts that satisfy the conditions of a cut are
the parts from which the statement of the line is made. So a line that is put together from parts
has the statement of these parts, and it is enough to say what happens to the parts when blanks are
put in front of the code or behind it.
-/

namespace AsmCheck

set_option autoImplicit false

namespace CodeParts

variable {code : Text} (p : CodeParts code)

/-- What follows the instruction and its size: nothing, or a blank and more. -/
theorem head?_gap_list : ∀ c ∈ (p.gap ++ p.list).head?, Text.isBlank c = true := by
  intro c hc
  cases hgap : p.gap with
  | nil =>
    have hlist : p.list = [] := by
      by_contra hne
      exact p.gap_ne_nil hne hgap
    simp [hgap, hlist] at hc
  | cons d rest =>
    rw [hgap] at hc
    have hd : d = c := Option.some.inj hc
    exact p.gap_blank c (by simp [hgap, hd])

theorem head?_size_gap_list :
    ∀ c ∈ (p.size ++ (p.gap ++ p.list)).head?, Statement.isInstructionChar c = false := by
  intro c hc
  rcases p.size_shape with hsize | ⟨letters, hsize, _⟩
  · rw [hsize] at hc
    simp [Statement.isInstructionChar, p.head?_gap_list c hc]
  · rw [hsize] at hc
    have hdot : '.' = c := Option.some.inj hc
    rw [← hdot]
    decide

theorem head?_instruction (rest : Text) :
    ∀ c ∈ (p.instruction ++ rest).head?, Text.isBlank c = false := by
  intro c hc
  cases hinstruction : p.instruction with
  | nil => exact absurd hinstruction p.instruction_ne_nil
  | cons d more =>
    rw [hinstruction] at hc
    have hd : d = c := Option.some.inj hc
    have hchar := p.instruction_chars c (by simp [hinstruction, hd])
    simp only [Statement.isInstructionChar, Bool.and_eq_true, Bool.not_eq_true'] at hchar
    exact hchar.1

theorem lead_eq : code.takeWhile Text.isBlank = p.lead := by
  conv_lhs => rw [p.code_eq]
  exact Text.takeWhile_append_of_boundary p.lead_blank (p.head?_instruction _)

theorem trimStart_eq :
    Text.trimStart code = p.instruction ++ (p.size ++ (p.gap ++ p.list)) := by
  conv_lhs => rw [p.code_eq]
  exact Text.dropWhile_append_of_boundary p.lead_blank (p.head?_instruction _)

theorem leadingInstruction_eq : leadingInstruction code = p.instruction := by
  rw [leadingInstruction, p.trimStart_eq]
  exact Text.takeWhile_append_of_boundary p.instruction_chars p.head?_size_gap_list

theorem afterInstruction_eq : afterInstruction code = p.size ++ (p.gap ++ p.list) := by
  rw [afterInstruction, p.trimStart_eq]
  exact Text.dropWhile_append_of_boundary p.instruction_chars p.head?_size_gap_list

theorem leadingSize_eq : Statement.leadingSize (afterInstruction code) = p.size := by
  have hhead := p.head?_gap_list
  rw [p.afterInstruction_eq]
  rcases p.size_shape with hsize | ⟨letters, hsize, hletters⟩
  · rw [hsize, List.nil_append]
    cases hrest : p.gap ++ p.list with
    | nil => rfl
    | cons c rest =>
      apply leadingSize_of_ne
      rintro rfl
      exact absurd (hhead '.' (by simp [hrest])) (by decide)
  · rw [hsize]
    change '.' :: (letters ++ (p.gap ++ p.list)).takeWhile (!Text.isBlank ·) = _
    rw [Text.takeWhile_append_of_boundary]
    · intro c hc
      simp [hletters c hc]
    · intro c hc
      simp [hhead c hc]

theorem afterSize_eq : afterSize code = p.gap ++ p.list := by
  rw [afterSize, p.leadingSize_eq, p.afterInstruction_eq, List.drop_left]

theorem gap_eq : (afterSize code).takeWhile Text.isBlank = p.gap := by
  rw [p.afterSize_eq]
  exact Text.takeWhile_append_of_boundary p.gap_blank p.list_head

theorem list_eq : Text.trimStart (afterSize code) = p.list := by
  rw [p.afterSize_eq]
  exact Text.dropWhile_append_of_boundary p.gap_blank p.list_head

theorem ofCode_eq (h : leadingInstruction code ≠ []) : ofCode code h = p :=
  CodeParts.ext p.lead_eq p.leadingInstruction_eq p.leadingSize_eq p.gap_eq p.list_eq

end CodeParts

theorem CodeParts.unique {code : Text} (p q : CodeParts code) : p = q := by
  have hne : leadingInstruction code ≠ [] := by
    rw [p.leadingInstruction_eq]
    exact p.instruction_ne_nil
  rw [← p.ofCode_eq hne, q.ofCode_eq hne]

/-- The statement of a line is made from any parts into which its code can be cut. -/
theorem ofLine?_of_parts {line code : Text} (hcode : codePart (lineContent line) = code)
    (p : CodeParts code) :
    Statement.ofLine? line = some (p.statement (commentSpan? (lineContent line))) := by
  subst hcode
  have hne : leadingInstruction (codePart (lineContent line)) ≠ [] := by
    rw [p.leadingInstruction_eq]
    exact p.instruction_ne_nil
  rw [ofLine?_eq_some hne, p.unique]

namespace CodeParts

variable {code : Text}

/-- The parts of code with blanks in front of it. -/
def indented (p : CodeParts code) {w : Text} (hw : Text.AllBlank w) : CodeParts (w ++ code) :=
  { p with
    lead := w ++ p.lead
    code_eq := by rw [List.append_assoc, ← p.code_eq]
    lead_blank := Text.allBlank_append hw p.lead_blank }

/-- The parts of code with blanks behind it. They belong to the list of operands, if there is
one. -/
def padded (p : CodeParts code) {w : Text} (hw : Text.AllBlank w) : CodeParts (code ++ w) :=
  if h : p.list = [] then
    { p with
      gap := p.gap ++ w
      list := []
      code_eq := by
        conv_lhs => rw [p.code_eq, h]
        simp
      gap_blank := Text.allBlank_append p.gap_blank hw
      gap_ne_nil := fun hne => absurd rfl hne
      list_head := by simp }
  else
    { p with
      list := p.list ++ w
      code_eq := by
        conv_lhs => rw [p.code_eq]
        simp
      gap_ne_nil := fun _ => p.gap_ne_nil h
      list_head := by
        intro c hc
        apply p.list_head
        rw [List.head?_append_of_ne_nil _ h] at hc
        exact hc }

end CodeParts

end AsmCheck
