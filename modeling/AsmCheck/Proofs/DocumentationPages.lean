import AsmCheck.Proofs.Acceptance
import AsmCheck.Proofs.FirstToken
import AsmCheck.Proofs.PageLines
import AsmCheck.Proofs.StatementSpans
import Mathlib.Data.List.Forall2

/-!
# Documentation of valid statements

A page takes for granted what the rule of its family has checked: the number of operands, that each
operand with a role has a kind, that a swizzled operand is a register with four words, and that the
size of a sleep is one of three. Rules and pages are chosen by two tables, which agree on every
family. So the page of a valid statement can always be made, and its lines tell what the operands
are.
-/

namespace AsmCheck.Documentation

set_option autoImplicit false

open Operand (Selects isWordLetter nonEmpty?)
open Rules (hasKind isKind)

/-- The names of the roles on the pages of a family, in the order of the operands. -/
def roleNames (family : Family) : List String :=
  if family = .move ∨ family ∈ Family.wordSelects ∨ family ∈ Family.specials then
    ["Destination", "Source"]
  else if family ∈ Family.shifts then ["Destination", "Amount"]
  else if family ∈ Family.conditionalJumps then ["Source", "Destination"]
  else []

/-- A line gives a role and the description of the operand that plays it, which has one. -/
def TellsRole (line : Text) (given : String × Span) : Prop :=
  ∃ description, Operand.describe given.2.text = .ok (some description) ∧ description ≠ "None" ∧
    line = "- **".toList ++ given.1.toList ++ ":** ".toList ++ description.toList

/-- The parts of a register that the sizes of a sleep stand for. -/
def sleepParts : List (Text × String) :=
  [(['.', 'w'], "first word"), (['.', 'h'], "high byte of the first word"),
   (['.', 'l'], "low byte of the first word")]

/-- What the page of a family, as it is shown, tells about the statement from which it was made. -/
structure Tells (family : Family) (s : Statement) (text : String) : Prop where
  title : "# ".toList ++ family.name.toList <+: text.toList
  count : roleNames family ≠ [] → s.operands.length = (roleNames family).length
  roles : List.Forall₂ TellsRole ((shownLines text).filter isRoleLine)
    ((roleNames family).zip s.operands)
  swizzle : family = .swizzle → ∃ op register words, s.operands = [op] ∧
    op.text = Register.name register ++ '.' :: words ∧ words.length = 4 ∧
      (∀ c ∈ words, c ∈ ['x', 'y', 'z', 'w']) ∧
        "Rearranges the words of ".toList ++ register.longName.toList ++
          " into the order `".toList ++ words ++ "`.".toList ∈ shownLines text
  sleep : family = .sleep → ∀ size, s.size? = some size → ∃ op part, s.operands = [op] ∧
    (Text.lower size.text, part) ∈ sleepParts ∧
      "Sleep for the number of ticks stored in ".toList ++ part.toList ++ " of the `".toList ++
        op.text ++ "` register.".toList ∈ shownLines text

/-- The page that goes with the rule of a form. -/
def generatorOf : Form → Generator
  | .nop => .ofFamily nop
  | .halt => .ofFamily halt
  | .skip => .ofStatement skip
  | .sleep => .ofStatement sleep
  | .move => .ofStatement move
  | .wordSelect => .ofStatement wordSelect
  | .math => .ofStatement math
  | .shift => .ofStatement shift
  | .bitwise => .ofFamily bitwise
  | .special => .ofStatement special
  | .swizzle => .ofStatement swizzle
  | .set => .ofStatement set
  | .jump => .ofStatement jump
  | .conditionalJump => .ofStatement conditionalJump

/-- The table of pages agrees with the table of rules. -/
theorem generator_eq (family : Family) : generator family = generatorOf family.form := by
  cases family <;> rfl

/-- A page of a family that gives operands their roles. -/
structure Page.Documents (page : Page) (family : Family) (names : List String)
    (operands : List Span) : Prop where
  plain : page.Plain
  title : family.name.toList <+: page.title.toList
  count : names ≠ [] → operands.length = names.length
  roles : List.Forall₂ (fun role => TellsRole role.render.toList) page.roles (names.zip operands)

section

variable (family : Family)

theorem documents_of_body {title body : String} {reference? : Option Reference}
    {operands : List Span}
    (hbegins : family.name.toList <+: title.toList) (htitle : '\n' ∉ title.toList)
    (hbody : '\n' ∉ body.toList) (hhead : body.toList.head? ≠ some '-')
    (hreference : ∀ reference ∈ reference?, '\n' ∉ reference.render.toList) :
    Page.Documents { title := title, body := body, reference? := reference? } family []
      operands :=
  ⟨⟨htitle, hbody, hhead, by simp, hreference⟩, hbegins, by simp, .nil⟩

theorem role_of_kind (name : String) {op : Span} (ht : Text.Trimmed op.text)
    (h : hasKind op = true) (hname : '\n' ∉ name.toList) :
    ∃ role, Role.ofOperand name op = .ok role ∧ '\n' ∉ role.render.toList ∧
      TellsRole role.render.toList (name, op) := by
  obtain ⟨kind, hkind⟩ := (Rules.hasKind_iff op).mp h
  obtain ⟨text, htext, hnone⟩ := Operand.describe_of_kind hkind
  have hline := newline_not_mem_of_describe ht htext
  refine ⟨⟨name, op.text, some text⟩, ?_, ?_, text, htext, hnone, ?_⟩
  · rw [Role.ofOperand, htext]
  · simp [Role.render, toString, hname, hline]
  · simp [Role.render, toString]

end

/-- A statement as it is read from a line: its operands are trimmed, and its instruction has a
mnemonic without blanks. -/
structure Regular (s : Statement) : Prop where
  trimmed : ∀ op ∈ s.operands, Text.Trimmed op.text
  mnemonic : Family.mnemonic s.instruction.text ≠ []
  blank : ∀ c ∈ Family.mnemonic s.instruction.text, Text.isBlank c = false

theorem Regular.newline_not_mem {s : Statement} (hs : Regular s) {op : Span}
    (hop : op ∈ s.operands) (hkind : hasKind op = true) : '\n' ∉ op.text := by
  obtain ⟨kind, hkind⟩ := (Rules.hasKind_iff op).mp hkind
  exact Operand.newline_not_mem_of_kind (hs.trimmed op hop) hkind

theorem regular_of_ofLine? {line : Text} {s : Statement} (h : Statement.ofLine? line = some s) :
    Regular s := by
  have htrimmed := Statement.trimmed_of_mem_operands h
  obtain ⟨p, rfl⟩ := ofLine?_parts h
  refine ⟨htrimmed, ?_, ?_⟩
  · change Family.mnemonic p.instruction ≠ []
    rw [p.mnemonic_instruction]
    intro hlower
    have hnil := (Text.lowerFrom_eq_ascii_iff (by simp) [] p.instruction).mp hlower
    exact p.instruction_ne_nil (List.map_eq_nil_iff.mp hnil)
  · change ∀ c ∈ Family.mnemonic p.instruction, Text.isBlank c = false
    rw [p.mnemonic_instruction]
    apply Text.isBlank_lowerFrom
    intro c hc
    have hchar := p.instruction_chars c hc
    simp only [Statement.isInstructionChar, Bool.and_eq_true, Bool.not_eq_true'] at hchar
    exact hchar.1

section Forms

variable (family : Family) {s : Statement} (hs : Regular s)

theorem nop_page : (nop family).Documents family [] s.operands :=
  documents_of_body family List.prefix_rfl (by simp) (by simp) (by simp)
    (by simp [newline_not_mem_reference])

theorem halt_page : (halt family).Documents family [] s.operands :=
  documents_of_body family List.prefix_rfl (by simp) (by simp) (by simp)
    (by simp [newline_not_mem_reference])

theorem bitwise_page : (bitwise family).Documents family [] s.operands := by
  apply documents_of_body family List.prefix_rfl (by simp)
  · split <;> simp [toString]
  · simp [toString]
  · simp [newline_not_mem_reference]

include hs

theorem skip_page : ∃ page, skip family s = .ok page ∧ page.Documents family [] s.operands := by
  have hmnemonic : '\n' ∉ Family.mnemonic s.instruction.text :=
    fun hmem => absurd (hs.blank '\n' hmem) (by decide)
  cases hlast : (Family.mnemonic s.instruction.text).getLast? with
  | none => exact absurd (List.getLast?_eq_none_iff.mp hlast) hs.mnemonic
  | some c =>
    have hvariant : '\n' ≠ if Text.isDigit c then c else '1' := by
      split
      · rintro rfl
        exact absurd ‹Text.isDigit '\n' = true› (by decide)
      · decide
    rw [skip]
    simp only [hlast]
    refine ⟨_, rfl, documents_of_body family ?_ ?_ ?_ ?_ ?_⟩
    · simp [toString]
    · simp [toString, hvariant]
    · simp [toString, hmnemonic]
    · simp [toString]
    · simp [newline_not_mem_reference]

theorem sleep_page (h : Rules.sleep s = none) :
    ∃ op body, s.operands = [op] ∧
      sleep family s = .ok { title := family.name, body := body } ∧
      Page.Documents { title := family.name, body := body } family [] s.operands ∧
      ∀ size, s.size? = some size → ∃ part, (Text.lower size.text, part) ∈ sleepParts ∧
        body.toList = "Sleep for the number of ticks stored in ".toList ++ part.toList ++
          " of the `".toList ++ op.text ++ "` register.".toList := by
  obtain ⟨hsizes, op, hops, hduration⟩ := (Rules.sleep_eq_none_iff s).mp h
  rw [Rules.sleepDuration_eq_none_iff] at hduration
  have hop : op ∈ s.operands := by simp [hops]
  cases hsize : s.size? with
  | none =>
    rw [hsize] at hduration
    have hline := hs.newline_not_mem hop (Rules.hasKind_of_isKind hduration)
    refine ⟨op, _, hops, by rw [sleep, hops, hsize], ?_, by simp⟩
    apply documents_of_body family List.prefix_rfl (by simp)
    · simp [toString, hline]
    · simp [toString]
    · simp
  | some size =>
    rw [hsize] at hduration
    have hline := hs.newline_not_mem hop (Rules.hasKind_of_isSource hduration)
    have hpart : ∃ part, sleepPart? (Text.lower size.text) = some part ∧
        (Text.lower size.text, part) ∈ sleepParts := by
      have hmem := List.contains_iff_mem.mp (hsizes size hsize)
      simp only [Rules.sleepSizes, List.mem_cons, List.not_mem_nil, or_false] at hmem
      rcases hmem with heq | heq | heq <;> rw [heq] <;> exact ⟨_, rfl, by decide⟩
    obtain ⟨part, hpart, hmem⟩ := hpart
    have hpartLine : ∀ given ∈ sleepParts, '\n' ∉ given.2.toList := by decide
    refine ⟨op, _, hops, by simp only [sleep, hops, hsize, hpart]; rfl, ?_, ?_⟩
    · apply documents_of_body family List.prefix_rfl (by simp)
      · simp [toString, hline, hpartLine _ hmem]
      · simp [toString]
      · simp
    · intro other hother
      obtain rfl := Option.some.inj hother
      exact ⟨part, hmem, by simp [code, toString]⟩

theorem math_page (h : Rules.math s = none) :
    ∃ page, math family s = .ok page ∧ page.Documents family [] s.operands := by
  obtain ⟨hsize, dst, lhs, rhs, hops, hvalid⟩ := (Rules.math_eq_none_iff s).mp h
  obtain ⟨hdst, hlhs, hrhs, _⟩ := (Rules.mathOperands_eq_none_iff dst lhs rhs).mp hvalid
  have hdstLine := hs.newline_not_mem (by simp [hops]) (Rules.hasKind_of_isKind hdst)
  have hlhsLine := hs.newline_not_mem (by simp [hops]) (Rules.hasKind_of_isSource hlhs)
  have hrhsLine := hs.newline_not_mem (by simp [hops]) (Rules.hasKind_of_isSource hrhs)
  have hnote := newline_not_mem_sizeNote ((Rules.commonSize_eq_none_iff _ _ _).mp hsize).2
  simp only [math, hops]
  refine ⟨_, rfl, documents_of_body family List.prefix_rfl (by simp) ?_ ?_ ?_⟩
  · simp [toString, hdstLine, hlhsLine, hrhsLine, hnote]
  · simp [toString]
  · simp [newline_not_mem_reference]

theorem jump_page (h : Rules.jump s = none) :
    ∃ page, jump family s = .ok page ∧ page.Documents family [] s.operands := by
  obtain ⟨_, op, hops, htarget⟩ := (Rules.jump_eq_none_iff s).mp h
  have hline := hs.newline_not_mem (by simp [hops]) (Rules.hasKind_of_isTarget htarget)
  simp only [jump, hops]
  refine ⟨_, rfl, documents_of_body family List.prefix_rfl (by simp) ?_ ?_ (by simp)⟩
  · simp [toString, hline]
  · simp [toString]

omit hs in
theorem registerText {op : Span} (ht : Text.Trimmed op.text) (h : isKind .register op = true) :
    ∃ register tail words, op.text = Register.name register ++ tail ∧ Selects 0 tail words := by
  have hshape := Operand.Kind.hasShape_of_ofText? ((Rules.isKind_iff _ _).mp h)
  rw [Operand.dropFinalNewline_of_trimmed ht] at hshape
  obtain ⟨register, tail, words, _, htext, hselects⟩ := Operand.isRegisterText_iff.mp hshape
  exact ⟨register, tail, words, htext, hselects⟩

theorem swizzle_page (h : Rules.swizzle s = none) :
    ∃ op register words body, s.operands = [op] ∧
      op.text = Register.name register ++ '.' :: words ∧ words.length = 4 ∧
      (∀ c ∈ words, c ∈ ['x', 'y', 'z', 'w']) ∧
      swizzle family s = .ok { title := family.name, body := body } ∧
      Page.Documents { title := family.name, body := body } family [] s.operands ∧
      body.toList = "Rearranges the words of ".toList ++ register.longName.toList ++
        " into the order `".toList ++ words ++ "`.".toList := by
  obtain ⟨_, op, hops, hoperand⟩ := (Rules.swizzle_eq_none_iff s).mp h
  obtain ⟨hkind, words, hswizzle, hlength, hall⟩ :=
    (Rules.swizzleOperand_eq_none_iff op).mp hoperand
  obtain ⟨register, tail, selected, htext, hselects⟩ :=
    registerText (hs.trimmed op (by simp [hops])) hkind
  rw [htext, Operand.swizzle?_of_selects register hselects] at hswizzle
  have hparts := Operand.registerParts?_of_selects register hselects
  rw [hswizzle, ← htext] at hparts
  -- The words were found by cutting the text at words; here they are searched with the register.
  have htail : tail = '.' :: words := by
    rcases hselects with ⟨_, rfl⟩ | ⟨rfl, _⟩
    · simp [nonEmpty?] at hswizzle
    · unfold nonEmpty? at hswizzle
      split at hswizzle
      · simp at hswizzle
      · rw [Option.some.inj hswizzle]
  have hletters : ∀ c ∈ words, c ∈ ['x', 'y', 'z', 'w'] := by
    intro c hc
    simpa [isWordLetter, or_assoc] using List.all_eq_true.mp hall c hc
  have hline : '\n' ∉ words := fun hmem => absurd (hletters '\n' hmem) (by decide)
  refine ⟨op, register, words, _, hops, htail ▸ htext, hlength, hletters,
    by simp only [swizzle, hops, hparts]; rfl, ?_, ?_⟩
  · apply documents_of_body family List.prefix_rfl (by simp)
    · simp [toString, Operand.shown, hline]
    · simp [toString]
    · simp
  · simp [toString, Operand.shown]

theorem set_page (h : Rules.set s = none) :
    ∃ page, set family s = .ok page ∧ page.Documents family [] s.operands := by
  obtain ⟨_, hcount, hoperands⟩ := (Rules.set_eq_none_iff s).mp h
  have hpos := Rules.setOperandCount_pos (Family.mnemonic s.instruction.text)
  cases hops : s.operands with
  | nil =>
    rw [hops, List.length_nil] at hcount
    omega
  | cons dst values =>
    rw [hops] at hoperands
    obtain ⟨hkind, htargets⟩ := (Rules.setOperands_cons_eq_none_iff dst values).mp hoperands
    obtain ⟨register, tail, words, htext, hselects⟩ :=
      registerText (hs.trimmed dst (by simp [hops])) hkind
    have hparts := Operand.registerParts?_of_selects register hselects
    rw [← htext] at hparts
    have hlist : '\n' ∉ (", ".intercalate (values.map code)).toList := by
      apply newline_not_mem_intercalate (by decide)
      intro part hpart
      obtain ⟨value, hvalue, rfl⟩ := List.mem_map.mp hpart
      have hline := hs.newline_not_mem (by simp [hops, hvalue])
        (Rules.hasKind_of_isTarget (htargets value hvalue))
      simpa using hline
    simp only [set, hops, hparts]
    refine ⟨_, rfl, documents_of_body family List.prefix_rfl (by simp) ?_ ?_ (by simp)⟩
    · split <;> simpa [toString] using hlist
    · simp [toString]

theorem pageOfPair_page {body first second : String} {a b : Span} (hops : s.operands = [a, b])
    (ha : hasKind a = true) (hb : hasKind b = true) (hfirst : '\n' ∉ first.toList)
    (hsecond : '\n' ∉ second.toList) (hhead : body.toList.head? ≠ some '-')
    (hbody : '\n' ∉ a.text → '\n' ∉ b.text → '\n' ∉ body.toList) :
    ∃ page, pageOfPair family body (first, a) (second, b) = .ok page ∧
      page.Documents family [first, second] [a, b] := by
  have haMem : a ∈ s.operands := by simp [hops]
  have hbMem : b ∈ s.operands := by simp [hops]
  obtain ⟨one, hone, hline, htells⟩ := role_of_kind first (hs.trimmed a haMem) ha hfirst
  obtain ⟨two, htwo, hline', htells'⟩ := role_of_kind second (hs.trimmed b hbMem) hb hsecond
  refine ⟨{ title := family.name, body := body, roles := [one, two] }, ?_, ?_⟩
  · simp only [pageOfPair, hone, htwo]
    rfl
  · refine ⟨⟨newline_not_mem_name family, ?_, hhead, by simp [hline, hline'], by simp⟩,
      List.prefix_rfl, fun _ => rfl, .cons htells (.cons htells' .nil)⟩
    exact hbody (hs.newline_not_mem haMem ha) (hs.newline_not_mem hbMem hb)

theorem move_page (h : Rules.move s = none) :
    ∃ page, move family s = .ok page ∧
      page.Documents family ["Destination", "Source"] s.operands := by
  obtain ⟨_, dst, src, hops, hoperands⟩ := (Rules.move_eq_none_iff s).mp h
  obtain ⟨hdst, hsrc, _⟩ := (Rules.moveOperands_eq_none_iff dst src).mp hoperands
  simp only [move, hops]
  apply pageOfPair_page family hs hops hdst hsrc (by decide) (by decide)
  · split
    · simp [toString]
    · split <;> simp [toString]
  · intro hdst hsrc
    split
    · simp [toString, hdst, hsrc]
    · split <;> simp [toString, hdst, hsrc]

theorem wordSelect_page (h : Rules.wordSelect s = none) :
    ∃ page, wordSelect family s = .ok page ∧
      page.Documents family ["Destination", "Source"] s.operands := by
  obtain ⟨_, dst, src, hops, hoperands⟩ := (Rules.wordSelect_eq_none_iff s).mp h
  obtain ⟨hdst, hsrc, _⟩ := (Rules.wordSelectOperands_eq_none_iff dst src).mp hoperands
  simp only [wordSelect, hops]
  apply pageOfPair_page family hs hops (Rules.hasKind_of_isKind hdst)
    (Rules.hasKind_of_isSource hsrc) (by decide) (by decide) (by simp [toString])
  intro hdst hsrc
  simp [toString, hdst, hsrc]

theorem shift_page (h : Rules.shift s = none) :
    ∃ page, shift family s = .ok page ∧
      page.Documents family ["Destination", "Amount"] s.operands := by
  obtain ⟨hsize, dst, src, hops, hoperands⟩ := (Rules.shift_eq_none_iff s).mp h
  obtain ⟨hdst, hsrc⟩ := (Rules.shiftOperands_eq_none_iff dst src).mp hoperands
  have hnote := newline_not_mem_sizeNote ((Rules.commonSize_eq_none_iff _ _ _).mp hsize).2
  have hkind := hsrc.elim Rules.hasKind_of_isSource Rules.hasKind_of_isKind
  simp only [shift, hops]
  apply pageOfPair_page family hs hops (Rules.hasKind_of_isKind hdst) hkind (by decide) (by decide)
    (by simp [toString])
  intro hdst hsrc
  simp [toString, hdst, hsrc, hnote]

theorem special_page (h : Rules.special s = none) :
    ∃ page, special family s = .ok page ∧
      page.Documents family ["Destination", "Source"] s.operands := by
  obtain ⟨_, dst, src, hops, hoperands⟩ := (Rules.special_eq_none_iff s).mp h
  obtain ⟨hdst, hsrc, _⟩ := (Rules.specialOperands_eq_none_iff dst src).mp hoperands
  simp only [special, hops]
  apply pageOfPair_page family hs hops (Rules.hasKind_of_isKind hdst)
    (Rules.hasKind_of_isSource hsrc) (by decide) (by decide) (by simp [toString])
  intro hdst hsrc
  simp [toString, hdst, hsrc]

theorem conditionalJump_page (h : Rules.conditionalJump s = none) :
    ∃ page, conditionalJump family s = .ok page ∧
      page.Documents family ["Source", "Destination"] s.operands := by
  obtain ⟨_, src, dst, hops, hsrc, hdst⟩ := (Rules.conditionalJump_eq_none_iff s).mp h
  simp only [conditionalJump, hops]
  apply pageOfPair_page family hs hops (Rules.hasKind_of_isSource hsrc)
    (Rules.hasKind_of_isTarget hdst) (by decide) (by decide) (by simp [toString])
  intro hsrc hdst
  simp [toString, hdst, hsrc]

end Forms

/-- The roles on the pages that go with the rule of a form. -/
def roleNamesOf : Form → List String
  | .move | .wordSelect | .special => ["Destination", "Source"]
  | .shift => ["Destination", "Amount"]
  | .conditionalJump => ["Source", "Destination"]
  | .nop | .halt | .skip | .sleep | .math | .bitwise | .swizzle | .set | .jump => []

theorem roleNames_eq (family : Family) : roleNames family = roleNamesOf family.form := by
  cases family <;> decide

theorem pageOf_documents {family : Family} {s : Statement} (hs : Regular s)
    (h : family.check s = none) :
    ∃ page, pageOf family s = .ok page ∧
      page.Documents family (roleNames family) s.operands := by
  rw [pageOf, page, generator_eq, roleNames_eq]
  rw [Family.check] at h
  generalize family.form = form at h ⊢
  cases form with
  | nop => exact ⟨_, rfl, nop_page family⟩
  | halt => exact ⟨_, rfl, halt_page family⟩
  | skip => exact skip_page family hs
  | sleep =>
    obtain ⟨op, body, _, hpage, hdocuments, _⟩ := sleep_page family hs h
    exact ⟨_, hpage, hdocuments⟩
  | move => exact move_page family hs h
  | wordSelect => exact wordSelect_page family hs h
  | math => exact math_page family hs h
  | shift => exact shift_page family hs h
  | bitwise => exact ⟨_, rfl, bitwise_page family⟩
  | special => exact special_page family hs h
  | swizzle =>
    obtain ⟨_, _, _, body, _, _, _, _, hpage, hdocuments, _⟩ := swizzle_page family hs h
    exact ⟨_, hpage, hdocuments⟩
  | set => exact set_page family hs h
  | jump => exact jump_page family hs h
  | conditionalJump => exact conditionalJump_page family hs h

theorem tells_of_valid {family : Family} {s : Statement} (hs : Regular s)
    (h : family.check s = none) {page : Page} (hpage : pageOf family s = .ok page) :
    Tells family s page.render := by
  obtain ⟨made, hmade, hdocuments⟩ := pageOf_documents hs h
  obtain rfl : made = page := Except.ok.inj (hmade.symm.trans hpage)
  have hlines := hdocuments.plain.shownLines_render
  have hbody : made.body.toList ∈ shownLines made.render := by
    simp [hlines, Page.linesBelow]
  refine ⟨?_, hdocuments.count, ?_, ?_, ?_⟩
  · rw [made.toList_render]
    exact ((List.prefix_append_right_inj ['#', ' ']).mpr hdocuments.title).trans
      (List.prefix_append _ _)
  · rw [hdocuments.plain.filter_isRoleLine, List.forall₂_map_left_iff]
    exact hdocuments.roles
  · rintro rfl
    obtain ⟨op, register, words, body, hops, htext, hlength, hletters, hswizzle, _, hbodyEq⟩ :=
      swizzle_page .swizzle hs h
    obtain rfl := Except.ok.inj (hswizzle.symm.trans hpage)
    exact ⟨op, register, words, hops, htext, hlength, hletters, hbodyEq ▸ hbody⟩
  · rintro rfl size hsize
    obtain ⟨op, body, hops, hsleep, _, hparts⟩ := sleep_page .sleep hs h
    obtain rfl := Except.ok.inj (hsleep.symm.trans hpage)
    obtain ⟨part, hmem, hbodyEq⟩ := hparts size hsize
    exact ⟨op, part, hops, hmem, hbodyEq ▸ hbody⟩

/-- Whatever family a line is taken for, its statement has a page exactly if it is valid for the
family, and looking for the page never fails. What the shown page says of the operands is true. -/
theorem page_exactly_if_valid {line : Text} {s : Statement} (h : Statement.ofLine? line = some s)
    (family : Family) :
    (∃ result, validPage family s = .ok result) ∧
    ((∃ page, validPage family s = .ok (some page)) ↔ family.check s = none) ∧
    ∀ page, validPage family s = .ok (some page) → Tells family s page.render := by
  have hs := regular_of_ofLine? h
  cases hcheck : family.check s with
  | some d =>
    have hnone : validPage family s = .ok none := by rw [validPage, hcheck]
    refine ⟨⟨none, hnone⟩, ?_, ?_⟩
    · simp [hnone]
    · simp [hnone]
  | none =>
    obtain ⟨page, hpage, _⟩ := pageOf_documents hs hcheck
    have hsome : validPage family s = .ok (some page) := by
      rw [validPage, hcheck]
      simp only [hpage]
      rfl
    refine ⟨⟨some page, hsome⟩, iff_of_true ⟨page, hsome⟩ rfl, ?_⟩
    intro found hfound
    rw [hsome, Except.ok.injEq, Option.some.injEq] at hfound
    rw [← hfound]
    exact tells_of_valid hs hcheck hpage

/-- A line of another mnemonic that is valid as a swizzle. -/
theorem page_exactly_if_valid_swizzle :
    let line := "\tMOV r3.wzyx ;x".toList
    let s : Statement :=
      { instruction := ⟨1, 4, "MOV".toList⟩
        size? := none
        operands := [⟨5, 12, "r3.wzyx".toList⟩]
        comment? := some ⟨13, 15, ";x".toList⟩ }
    Statement.ofLine? line = some s ∧ Family.check .swizzle s = none ∧
      ∃ page, validPage .swizzle s = .ok (some page) ∧ Tells .swizzle s page.render := by
  intro line s
  have hs : Statement.ofLine? line = some s := by decide
  have hvalid : Family.check .swizzle s = none := by decide +kernel
  obtain ⟨_, hiff, htells⟩ := page_exactly_if_valid hs .swizzle
  obtain ⟨page, hpage⟩ := hiff.mpr hvalid
  exact ⟨hs, hvalid, page, hpage, htells page hpage⟩

end AsmCheck.Documentation
