import AsmCheck.Document
import AsmCheck.Proofs.FirstToken

/-!
# Reading lines

What a line of code adds to its document, case by case, and what a list of items adds. A line is an
instruction for the reader of the document exactly if its statement has an instruction that is
known, so such a line always adds its instruction, and the family under which it was read is the
one under which it was checked.
-/

namespace AsmCheck

set_option autoImplicit false

namespace Contribution

@[simp] theorem nodes_append (a b : Contribution) : (a ++ b).nodes = a.nodes ++ b.nodes := rfl

@[simp] theorem diagnostics_append (a b : Contribution) :
    (a ++ b).diagnostics = a.diagnostics ++ b.diagnostics := rfl

@[simp] theorem nodes_empty : empty.nodes = [] := rfl

@[simp] theorem diagnostics_empty : empty.diagnostics = [] := rfl

theorem append_assoc (a b c : Contribution) : a ++ b ++ c = a ++ (b ++ c) := by
  change Contribution.mk _ _ = Contribution.mk _ _
  simp

end Contribution

namespace Document

/-- The number of words of code that items occupy. -/
def words : List Item → Nat
  | [] => 0
  | item :: rest => item.words + words rest

@[simp] theorem words_nil : words [] = 0 := rfl

@[simp] theorem words_cons (item : Item) (items : List Item) :
    words (item :: items) = item.words + words items := rfl

theorem readFrom_cons (file? : Option String) (address : Int) (item : Item) (items : List Item) :
    readFrom file? address (item :: items) =
      item.read file? address ++ readFrom file? (address + item.words) items := rfl

/-- Items are read one part after the other; only the address is handed on. -/
theorem readFrom_append (file? : Option String) (address : Int) (first second : List Item) :
    readFrom file? address (first ++ second) =
      readFrom file? address first ++ readFrom file? (address + words first) second := by
  induction first generalizing address with
  | nil =>
    rw [List.nil_append, words_nil, Int.natCast_zero, Int.add_zero]
    rfl
  | cons item rest ih =>
    have haddress : address + item.words + words rest = address + words (item :: rest) := by
      rw [words_cons]
      omega
    rw [List.cons_append, readFrom_cons, readFrom_cons, ih, haddress, Contribution.append_assoc]

/-- Whatever is found in a document was found in one of its items, read at the address that the
words before it give. -/
theorem exists_item_of_mem {α : Type} {part : Contribution → List α} (hempty : part .empty = [])
    (happend : ∀ a b, part (a ++ b) = part a ++ part b) {file? : Option String} {address : Int}
    {items : List Item} {x : α} (h : x ∈ part (readFrom file? address items)) :
    ∃ before item after, items = before ++ item :: after ∧
      x ∈ part (item.read file? (address + words before)) := by
  induction items generalizing address with
  | nil =>
    change x ∈ part .empty at h
    simp [hempty] at h
  | cons item rest ih =>
    rw [readFrom_cons, happend] at h
    rcases List.mem_append.mp h with h | h
    · exact ⟨[], item, rest, rfl, by simpa using h⟩
    · obtain ⟨before, other, after, hrest, hx⟩ := ih h
      refine ⟨item :: before, other, after, by rw [hrest]; rfl, ?_⟩
      have haddress : address + item.words + words before = address + words (item :: before) := by
        rw [words_cons]
        omega
      rwa [haddress] at hx

end Document

/-- What the kind of a line says about its code. -/
def LineKind.Fits (code : Text) : LineKind → Prop
  | .blank => code = []
  | .instruction family => Family.ofToken? (splitFirstToken code).1 = some family
  | .literal digits => Family.ofToken? (splitFirstToken code).1 = none ∧
      ∃ rest, code = '!' :: rest ∧ digits = Text.removeBlanks rest
  | .label name => Family.ofToken? (splitFirstToken code).1 = none ∧
      ∃ rest, code = ':' :: rest ∧ name = Text.removeBlanks rest
  | .unknown token => Family.ofToken? (splitFirstToken code).1 = none ∧ code ≠ [] ∧
      (∀ rest, code ≠ '!' :: rest) ∧ token = (Text.firstToken code).1

namespace SourceLine

theorem kind_fits (l : SourceLine) : l.kind.Fits l.code := by
  unfold kind
  split
  · rename_i hempty
    exact List.isEmpty_iff.mp hempty
  · rename_i hcode
    cases hfamily : Family.ofToken? (splitFirstToken l.code).1 with
    | some family => exact hfamily
    | none =>
      simp only
      split
      · rename_i rest heq
        exact ⟨hfamily, rest, heq, rfl⟩
      · rename_i rest heq
        exact ⟨hfamily, rest, heq, rfl⟩
      · rename_i hmark _
        exact ⟨hfamily, by simpa using hcode, hmark, rfl⟩

theorem kind_eq_instruction_iff (l : SourceLine) (family : Family) :
    l.kind = .instruction family ↔
      Family.ofToken? (splitFirstToken l.code).1 = some family := by
  unfold kind
  split
  · rename_i hempty
    have htoken : (splitFirstToken l.code).1 = [] := by
      rw [List.isEmpty_iff.mp hempty]
      rfl
    rw [htoken, Family.ofToken?_nil]
    simp
  · cases Family.ofToken? (splitFirstToken l.code).1 with
    | some other => simp
    | none =>
      simp only [reduceCtorEq, iff_false]
      split <;> simp

/-- The reader of lines and the reader of statements find the same instruction. -/
theorem kind_eq_instruction_iff_statement (l : SourceLine) (family : Family) :
    l.kind = .instruction family ↔
      ∃ s, Statement.ofLine? l.text = some s ∧
        Family.ofToken? s.instruction.text = some family := by
  rw [kind_eq_instruction_iff]
  exact firstToken_family_iff l.text family

def instructionNode (l : SourceLine) (address : Int) (family : Family) (s : Statement) :
    Instruction :=
  { text := l.code
    statement := s
    family := family
    line := l.line
    column := l.column
    address := address
    valid := (family.check s).isNone }

def instructionReports (file? : Option String) (l : SourceLine) (family : Family) (s : Statement) :
    List Diagnostic :=
  match family.check s with
  | some d => [d.placed l.line l.column file?]
  | none => []

theorem checkLine_eq_bind {line : Text} {s : Statement} (hs : Statement.ofLine? line = some s) :
    checkLine line = (Family.ofToken? s.instruction.text).bind (·.check s) := by
  unfold checkLine
  rw [hs]
  rfl

theorem checkLine_eq {line : Text} {s : Statement} {family : Family}
    (hs : Statement.ofLine? line = some s)
    (hfamily : Family.ofToken? s.instruction.text = some family) :
    checkLine line = family.check s := by
  rw [checkLine_eq_bind hs, hfamily]
  rfl

theorem readInstruction_eq (file? : Option String) (address : Int) (l : SourceLine) {s : Statement}
    {family : Family} (hs : Statement.ofLine? l.text = some s)
    (hfamily : Family.ofToken? s.instruction.text = some family) :
    l.readInstruction file? address family =
      ⟨[.instruction (l.instructionNode address family s)],
        l.instructionReports file? family s⟩ := by
  simp only [readInstruction, hs, checkLine_eq hs hfamily, instructionNode, instructionReports]
  cases family.check s <;> rfl

/-- What a line adds to its document, by the kind of the line. -/
inductive Adds (file? : Option String) (address : Int) (l : SourceLine) : Contribution → Prop where
  | nothing : l.words = 0 → l.code = [] → Adds file? address l .empty
  | instruction {s : Statement} {family : Family} : l.words = 1 →
      Statement.ofLine? l.text = some s → Family.ofToken? s.instruction.text = some family →
      Adds file? address l ⟨[.instruction (l.instructionNode address family s)],
        l.instructionReports file? family s⟩
  | literal (value : Nat) : l.words = 1 → value < 65536 →
      Adds file? address l (.ofNode (.literal ⟨value, l.line, l.codeStart, address⟩))
  | label (name : Text) : l.words = 0 → Operand.isLabelName name = true →
      Adds file? address l (.ofNode (.label ⟨name, l.line, l.codeStart, address⟩))
  | report (problem : Problem) : problem.severity = .error →
      Adds file? address l (l.report file? problem)

theorem read_adds (file? : Option String) (address : Int) (l : SourceLine) :
    l.Adds file? address (l.read file? address) := by
  unfold read
  cases hkind : l.kind with
  | blank =>
    have hcode := l.kind_fits
    rw [hkind] at hcode
    exact .nothing (by simp [words, hkind]) hcode
  | instruction family =>
    obtain ⟨s, hs, hfamily⟩ := (l.kind_eq_instruction_iff_statement family).mp hkind
    simp only [readInstruction_eq file? address l hs hfamily]
    exact .instruction (by simp [words, hkind]) hs hfamily
  | literal digits =>
    simp only [readLiteral]
    split
    · exact .report _ rfl
    · split
      · exact .literal _ (by simp [words, hkind]) (by assumption)
      · exact .report _ rfl
  | label name =>
    simp only [readLabel]
    split
    · exact .label name (by simp [words, hkind]) (by assumption)
    · exact .report _ rfl
  | unknown token => exact .report _ rfl

end SourceLine

/-- On every line of code the reader of the document and the rules see the same instruction: the
line is an instruction of a family exactly if it has a statement whose instruction names that
family. The line then adds this statement as one node, valid exactly if the rule of the family
finds nothing, and one report exactly if it does. -/
theorem instruction_line_agrees (file? : Option String) (t : Text) (before after : List Item)
    (l : SourceLine) (h : Document.items t = before ++ .line l :: after) :
    (∀ family, (l.kind = .instruction family ↔
        Family.ofToken? (splitFirstToken l.code).1 = some family) ∧
      (l.kind = .instruction family ↔ ∃ s, Statement.ofLine? l.text = some s ∧
        Family.ofToken? s.instruction.text = some family)) ∧
    ∀ family, l.kind = .instruction family →
      let address := codeBase + Document.words before
      ∃ s, Statement.ofLine? l.text = some s ∧
        (Document.read file? t).nodes =
          (Document.readFrom file? codeBase before).nodes ++
            .instruction
              { text := l.code
                statement := s
                family := family
                line := l.line
                column := l.column
                address := address
                valid := (family.check s).isNone } ::
            (Document.readFrom file? (address + 1) after).nodes ∧
        (Document.read file? t).diagnostics =
          (Document.readFrom file? codeBase before).diagnostics ++
            (match family.check s with
              | some d => [d.placed l.line l.column file?]
              | none => []) ++
            (Document.readFrom file? (address + 1) after).diagnostics := by
  refine ⟨fun family => ⟨l.kind_eq_instruction_iff family,
    l.kind_eq_instruction_iff_statement family⟩, ?_⟩
  intro family hkind address
  obtain ⟨s, hs, hfamily⟩ := (l.kind_eq_instruction_iff_statement family).mp hkind
  have hwords : (Item.line l).words = 1 := by simp [Item.words, SourceLine.words, hkind]
  have hline : (Item.line l).read file? address =
      ⟨[.instruction (l.instructionNode address family s)],
        l.instructionReports file? family s⟩ := by
    change l.read file? address = _
    simp only [SourceLine.read, hkind]
    exact l.readInstruction_eq file? address hs hfamily
  refine ⟨s, hs, ?_, ?_⟩
  · rw [Document.read, h, Document.readFrom_append, Document.readFrom_cons, hwords]
    change _ ++ (((Item.line l).read file? address).nodes ++ _) = _
    rw [hline]
    rfl
  · rw [Document.read, h, Document.readFrom_append, Document.readFrom_cons, hwords]
    change _ ++ (((Item.line l).read file? address).diagnostics ++ _) = _
    rw [hline, ← List.append_assoc]
    rfl

/-- The Kelvin sign is a letter of a mnemonic, and a sigma behind the dot does not count. -/
theorem instruction_line_agrees_kelvin :
    let t := ".code\n\ts\u212AiP.Σ\r".toList
    let l : SourceLine := ⟨"\ts\u212AiP.Σ".toList, 2, 0⟩
    Document.items t = [.line ⟨[], 1, 5⟩] ++ .line l :: [] ∧
      l.kind = .instruction .skip ∧
      ∃ s, Statement.ofLine? l.text = some s ∧
        Node.instruction (l.instructionNode 0x40 .skip s) ∈ (Document.read none t).nodes := by
  intro t l
  have hitems : Document.items t = [.line ⟨[], 1, 5⟩] ++ .line l :: [] := by decide
  have hkind : l.kind = .instruction .skip := by decide +kernel
  obtain ⟨s, hs, hnodes, _⟩ := (instruction_line_agrees none t _ _ l hitems).2 .skip hkind
  refine ⟨hitems, hkind, s, hs, ?_⟩
  rw [hnodes]
  exact List.mem_append_right _ List.mem_cons_self

end AsmCheck
