import AsmCheck.Proofs.Concatenation
import AsmCheck.Proofs.MemoryPacking
import AsmCheck.Proofs.ReportOrder

/-!
# Accounting for lines

Each line of code adds exactly what its code calls for: nothing, an instruction with at most one
report, or one node or one error. No instruction is named by a token that starts with an exclamation
mark or a colon, so the four ways of reading a line do not compete. What the items of a document add
is all that the document holds, and since items follow one another in the text, the nodes do too.
-/

namespace AsmCheck

set_option autoImplicit false

theorem Family.aliases_plain (family : Family) :
    ∀ name ∈ family.aliases, name.toList.head? ≠ some '!' ∧ name.toList.head? ≠ some ':' := by
  cases family <;> decide

/-- The marks of literals and labels start no mnemonic. -/
theorem Family.ofToken?_marked {mark : Char} (hmark : mark = '!' ∨ mark = ':') {token : Text}
    (h : ∀ c ∈ mark :: token, Text.isBlank c = false) : ofToken? (mark :: token) = none := by
  have hascii : mark.toNat < 128 ∧ mark ≠ '.' ∧ mark.toLower = mark := by
    rcases hmark with rfl | rfl
    · decide
    · decide
  obtain ⟨hcode, hdot, hlower⟩ := hascii
  have hmnemonic : (mnemonic (mark :: token)).head? = some mark := by
    have hcut : Text.before '.' (mark :: token) = mark :: Text.before '.' token :=
      List.takeWhile_cons_of_pos (by simpa using hdot)
    rw [mnemonic_eq h, hcut, Text.lower, Text.lowerFrom_cons, Text.lowerAt_ascii hcode, hlower]
    rfl
  apply List.find?_eq_none.mpr
  intro family _ hany
  obtain ⟨name, hname, heq⟩ := List.any_eq_true.mp hany
  obtain ⟨hliteral, hlabel⟩ := family.aliases_plain name hname
  rw [beq_iff_eq.mp heq, hmnemonic] at hliteral hlabel
  rcases hmark with rfl | rfl
  · exact hliteral rfl
  · exact hlabel rfl

theorem ofToken?_splitFirstToken_marked {mark : Char} (hmark : mark = '!' ∨ mark = ':')
    (rest : Text) : Family.ofToken? (splitFirstToken (mark :: rest)).1 = none := by
  have hchar : Text.isBlank mark = false ∧ mark ≠ '.' := by
    rcases hmark with rfl | rfl
    · decide
    · decide
  have htoken : (Text.firstToken (mark :: rest)).1 = mark :: rest.takeWhile (!Text.isBlank ·) := by
    have htrim : Text.trimStart (mark :: rest) = mark :: rest :=
      List.dropWhile_cons_of_neg (by simp [hchar.1])
    change (Text.trimStart (mark :: rest)).takeWhile _ = _
    rw [htrim, List.takeWhile_cons_of_pos (by simp [hchar.1])]
  have hfree : ∀ c ∈ mark :: rest.takeWhile (!Text.isBlank ·), Text.isBlank c = false := by
    rw [← htoken]
    exact Text.not_blank_of_mem_firstToken
  have hcut : Text.before '.' (mark :: rest.takeWhile (!Text.isBlank ·)) =
      mark :: Text.before '.' (rest.takeWhile (!Text.isBlank ·)) :=
    List.takeWhile_cons_of_pos (by simpa using hchar.2)
  change Family.ofToken? (Text.lower (Text.firstToken (mark :: rest)).1) = none
  rw [htoken, Family.ofToken?_lower hfree, hcut]
  apply Family.ofToken?_marked hmark
  intro c hc
  rw [← hcut] at hc
  exact hfree c ((List.takeWhile_subset _) hc)

namespace SourceLine

variable (l : SourceLine)

theorem kind_of_literal {rest : Text} (h : l.code = '!' :: rest) :
    l.kind = .literal (Text.removeBlanks rest) := by
  simp only [kind, h, List.isEmpty_cons, Bool.false_eq_true, if_false,
    ofToken?_splitFirstToken_marked (Or.inl rfl)]

/-- The digits write a word: there are some, all are hexadecimal, and the number is not too
large. Zeros in front do not count. -/
def IsWord (digits : Text) : Prop :=
  digits ≠ [] ∧ (∀ c ∈ digits, Numeral.isHexDigit c = true) ∧ Numeral.read 16 digits < 65536

/-- The name is an identifier: there are characters, all of them letters, digits or underscores. -/
def IsIdentifier (name : Text) : Prop :=
  name ≠ [] ∧ ∀ c ∈ name, c.isAlphanum = true ∨ c = '_'

/-- What code that stands alone on a line calls for. -/
inductive Contributes (code : Text) : Contribution → Prop where
  | blank : code = [] → Contributes code .empty
  | valid {family : Family} {node : Instruction} :
      Family.ofToken? (splitFirstToken code).1 = some family →
      node.family = family → node.valid = true →
      Contributes code ⟨[.instruction node], []⟩
  | invalid {family : Family} {node : Instruction} (d : Diagnostic) :
      Family.ofToken? (splitFirstToken code).1 = some family →
      node.family = family → node.valid = false →
      Contributes code ⟨[.instruction node], [d]⟩
  | literal {rest : Text} {w : LiteralWord} : code = '!' :: rest →
      IsWord (Text.removeBlanks rest) → w.value = Numeral.read 16 (Text.removeBlanks rest) →
      Contributes code ⟨[.literal w], []⟩
  | noLiteral {rest : Text} {d : Diagnostic} : code = '!' :: rest →
      ¬ IsWord (Text.removeBlanks rest) → d.severity = .error →
      Contributes code ⟨[], [d]⟩
  | label {rest : Text} {definition : LabelDefinition} : code = ':' :: rest →
      IsIdentifier (Text.removeBlanks rest) → definition.name = Text.removeBlanks rest →
      Contributes code ⟨[.label definition], []⟩
  | noLabel {rest : Text} {d : Diagnostic} : code = ':' :: rest →
      ¬ IsIdentifier (Text.removeBlanks rest) → d.severity = .error →
      Contributes code ⟨[], [d]⟩
  | unknown {d : Diagnostic} : code ≠ [] →
      Family.ofToken? (splitFirstToken code).1 = none →
      code.head? ≠ some '!' → code.head? ≠ some ':' → d.severity = .error →
      d.message = (Problem.unknownInstruction (Text.firstToken code).1).message →
      Contributes code ⟨[], [d]⟩

theorem isHex_iff (digits : Text) :
    Numeral.isHex digits = true ↔ digits ≠ [] ∧ ∀ c ∈ digits, Numeral.isHexDigit c = true := by
  simp [Numeral.isHex]

end SourceLine

/-- Where a node stands in its document. -/
def Node.place? : Node → Option Place
  | .instruction l => some (toLex (l.line, l.column))
  | .label l => some (toLex (l.line, l.column))
  | .literal w => some (toLex (w.line, w.column))
  | .memory w => some (toLex (w.line, w.column))
  | .foreign => none

/-- Nodes stand one behind the other, between two places. -/
def Ascending (first last : Place) (nodes : List Node) : Prop :=
  ∃ places : List Place, nodes.map Node.place? = places.map some ∧
    places.Pairwise (· < ·) ∧ ∀ x ∈ places, first ≤ x ∧ x ≤ last

theorem Ascending.nil (first last : Place) : Ascending first last [] :=
  ⟨[], rfl, .nil, by simp⟩

theorem Ascending.single {first last place : Place} {n : Node} (hplace : n.place? = some place)
    (hfirst : first ≤ place) (hlast : place ≤ last) : Ascending first last [n] := by
  refine ⟨[place], by simp [hplace], List.pairwise_singleton _ _, ?_⟩
  intro x hx
  rw [List.mem_singleton.mp hx]
  exact ⟨hfirst, hlast⟩

namespace MemoryImage

end MemoryImage

namespace Document

end Document

/-- What an item contributes: a line what its text in front of a comment calls for, a memory section
its words and the reports on what does not belong there. -/
def Item.Contributes (file? : Option String) : Item → Contribution → Prop
  | .memory p body, part =>
    part = ⟨(MemoryImage.words p body).map .memory, MemoryImage.reports file? p body⟩
  | .line l, part => SourceLine.Contributes (Text.trim (l.text.takeWhile (· != ';'))) part

namespace Document

end Document

end AsmCheck
