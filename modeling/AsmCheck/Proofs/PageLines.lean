import AsmCheck.Documentation
import AsmCheck.Proofs.OperandShapes

/-!
# Lines of a page

A page is shown as lines of text: its title, its sentence, a line for each role and the reference,
with empty lines between them. The lines can be read off the shown text, since none of the parts has
a line feed: an operand with a kind has none, and so its description has none.
-/

namespace AsmCheck

set_option autoImplicit false

namespace Operand

theorem newline_not_mem_of_selects (register : Register) {least : Nat} {tail words : Text}
    (h : Selects least tail words) : '\n' ∉ register.name ++ tail := by
  intro hmem
  rcases isPlain_or_dot_of_mem register h '\n' hmem with hplain | hdot
  · exact absurd hplain.2.2 (by decide)
  · exact absurd hdot (by decide)

theorem newline_not_mem_of_isRegisterText {allowed : Register → Bool} {least : Nat} {t : Text}
    (h : isRegisterText allowed least t = true) : '\n' ∉ t := by
  obtain ⟨register, tail, words, _, rfl, hselects⟩ := isRegisterText_iff.mp h
  exact newline_not_mem_of_selects register hselects

theorem newline_not_mem_of_isBracketed {closing t : Text} (hclosing : '\n' ∉ closing)
    (h : isBracketed closing t = true) : '\n' ∉ t := by
  obtain ⟨body, hbody, hregister⟩ := (Option.any_eq_true _ _).mp h
  rw [Text.enclosed?_eq_some_iff.mp hbody]
  simp [newline_not_mem_of_isRegisterText hregister, hclosing]

theorem newline_not_mem_of_isLabelText {t : Text} (h : isLabelText t = true) : '\n' ∉ t := by
  unfold isLabelText at h
  split at h
  · rename_i name
    intro hmem
    have hname := (Bool.and_eq_true_iff.mp h).2
    have hchar := List.all_eq_true.mp hname '\n' (List.mem_of_ne_of_mem (by decide) hmem)
    exact absurd hchar (by decide)
  · cases h

theorem newline_not_mem_of_kind {t : Text} {kind : Kind} (ht : Text.Trimmed t)
    (h : Kind.ofText? t = some kind) : '\n' ∉ t := by
  have hshape := Kind.hasShape_of_ofText? h
  rw [dropFinalNewline_of_trimmed ht] at hshape
  cases kind with
  | register => exact newline_not_mem_of_isRegisterText hshape
  | constant => exact newline_not_mem_of_isRegisterText hshape
  | pointer => exact newline_not_mem_of_isBracketed (by decide) hshape
  | pointerIncrement => exact newline_not_mem_of_isBracketed (by decide) hshape
  | label => exact newline_not_mem_of_isLabelText hshape
  | immediate =>
    intro hmem
    exact absurd (isImmediateText_chars hshape '\n' hmem).2 (by decide)

theorem isWordLetter_of_leadingSelection? {t words : Text}
    (h : leadingSelection? t = some words) : ∀ c ∈ words, isWordLetter c = true := by
  unfold leadingSelection? nonEmpty? at h
  split at h
  · split at h
    · cases h
    · obtain rfl := Option.some.inj h
      intro c hc
      exact List.mem_takeWhile_imp (List.mem_of_mem_take hc)
  · cases h

/-- What is found behind a register are letters, whatever the text around them. -/
theorem isWordLetter_of_firstRegister? {t words : Text} {register : Register}
    (h : firstRegister? t = some (register, some words)) : ∀ c ∈ words, isWordLetter c = true := by
  induction t with
  | nil => cases h
  | cons c rest ih =>
    rw [firstRegister?] at h
    split at h
    · rw [Option.some.injEq, Prod.mk.injEq] at h
      exact isWordLetter_of_leadingSelection? h.2
    · exact ih h

end Operand

namespace Documentation

open Operand (describe describeWords registerParts? shown)

@[simp] theorem newline_mem_code (op : Span) : '\n' ∈ (code op).toList ↔ '\n' ∈ op.text := by
  simp [code, toString]

/-- Neither a name of a family nor the anchor that is made of it has a line feed. -/
theorem anchor_ne_newline (family : Family) :
    ∀ c ∈ family.name.toList, (if c = ' ' then '-' else c.toLower) ≠ '\n' := by
  have hall : family.name.toList.all (fun c => (if c = ' ' then '-' else c.toLower) != '\n') := by
    cases family <;> decide +kernel
  intro c hc
  exact bne_iff_ne.mp (List.all_eq_true.mp hall c hc)

@[simp] theorem newline_not_mem_name (family : Family) : '\n' ∉ family.name.toList :=
  fun hmem => anchor_ne_newline family '\n' hmem (by decide)

@[simp] theorem newline_not_mem_toDigits (n : Nat) : '\n' ∉ Nat.toDigits 10 n := by
  intro hmem
  exact absurd (Nat.isDigit_of_mem_toDigits (by decide) (by decide) hmem) (by decide)

@[simp] theorem newline_not_mem_longName (register : Register) :
    '\n' ∉ register.longName.toList := by
  cases register <;> simp [Register.longName, toString]

theorem newline_not_mem_registerName (register : Register) : '\n' ∉ register.name := by
  intro hmem
  exact absurd (Operand.isPlain_of_mem_name register '\n' hmem).2.2 (by decide)

@[simp] theorem newline_not_mem_shown (parts? : Option (Register × Option Text)) :
    '\n' ∉ (shown (parts?.map (·.1.name))).toList := by
  cases parts? with
  | none => decide
  | some parts => simp [shown, newline_not_mem_registerName]

@[simp] theorem newline_not_mem_describeWords (t : Text) :
    '\n' ∉ (describeWords ((registerParts? t).bind (·.2))).toList := by
  cases hparts : registerParts? t with
  | none => decide
  | some parts =>
    obtain ⟨register, _ | words⟩ := parts
    · exact List.not_mem_nil
    · have hletters := Operand.isWordLetter_of_firstRegister? hparts
      have hwords : '\n' ∉ words := fun hmem => absurd (hletters '\n' hmem) (by decide)
      simp only [Option.bind_some, describeWords]
      split <;> simp [toString, hwords]

theorem newline_not_mem_sizeNote {size? : Option Span}
    (h : ∀ size, size? = some size → Rules.sizes.contains (Text.lower size.text) = true) :
    '\n' ∉ (sizeNote size?).toList := by
  cases size? with
  | none => decide
  | some size =>
    have hmem := List.contains_iff_mem.mp (h size rfl)
    simp only [Rules.sizes, List.mem_cons, List.not_mem_nil, or_false] at hmem
    rcases hmem with heq | heq <;> simp [sizeNote, heq, toString]

theorem newline_not_mem_intercalate {separator : String} {parts : List String}
    (hseparator : '\n' ∉ separator.toList) (hparts : ∀ part ∈ parts, '\n' ∉ part.toList) :
    '\n' ∉ (separator.intercalate parts).toList := by
  rw [String.toList_intercalate]
  induction parts with
  | nil => simp
  | cons part more ih =>
    have hmore := ih fun other hother => hparts other (List.mem_cons_of_mem part hother)
    have hpart := hparts part List.mem_cons_self
    cases more with
    | nil => simpa using hpart
    | cons next rest =>
      simp only [List.map_cons] at hmore ⊢
      rw [← Text.join, Text.join_cons_cons]
      simp [hpart, hseparator, Text.join, hmore]

/-- An operand without a line feed is described on one line. -/
theorem newline_not_mem_of_describe {t : Text} {text : String} (ht : Text.Trimmed t)
    (h : describe t = .ok (some text)) : '\n' ∉ text.toList := by
  rw [describe] at h
  cases hkind : Operand.Kind.ofText? t with
  | none => simp [hkind] at h
  | some kind =>
    have hnewline := Operand.newline_not_mem_of_kind ht hkind
    rw [hkind] at h
    cases kind with
    | register =>
      obtain rfl := Option.some.inj (Except.ok.inj h)
      simp [toString]
    | constant =>
      obtain rfl := Option.some.inj (Except.ok.inj h)
      simp [toString]
    | pointer =>
      obtain rfl := Option.some.inj (Except.ok.inj h)
      simp [toString]
    | pointerIncrement =>
      obtain rfl := Option.some.inj (Except.ok.inj h)
      simp [toString]
    | label =>
      obtain rfl := Option.some.inj (Except.ok.inj h)
      simp [toString, hnewline]
    | immediate =>
      have hshape := Operand.Kind.hasShape_of_ofText? hkind
      obtain ⟨value, _, hvalue⟩ := Operand.parse_lower hshape
      rw [Operand.dropFinalNewline_of_trimmed ht] at hshape
      have hchars := Operand.isImmediateText_chars hshape
      have hlower : '\n' ∉ Text.lower t := by
        intro hmem
        exact absurd (Text.isBlank_lowerFrom (fun c hc => (hchars c hc).2) [] '\n' hmem) (by decide)
      simp only [Operand.describeAs, hvalue] at h
      obtain rfl := Option.some.inj (Except.ok.inj h)
      simp [toString, hlower]

def shownLines (text : String) : List Text := Text.pieces '\n' text.toList

def roleLines : List Role → List Text
  | [] => []
  | roles => [] :: roles.map (·.render.toList)

def referenceLines : Option Reference → List Text
  | none => []
  | some reference => [[], reference.render.toList]

/-- The lines of a page that follow its title. -/
def Page.linesBelow (page : Page) : List Text :=
  [] :: page.body.toList :: (roleLines page.roles ++ referenceLines page.reference?)

theorem intercalate_newline (line : Text) (more : List Text) :
    '\n' :: ['\n'].intercalate (line :: more) = (line :: more).flatMap ('\n' :: ·) := by
  induction more generalizing line with
  | nil => simp
  | cons next more ih =>
    rw [List.flatMap_cons, ← ih next]
    simp [List.intercalate]

theorem toList_renderRoles (roles : List Role) :
    (Page.renderRoles roles).toList = (roleLines roles).flatMap ('\n' :: ·) := by
  cases roles with
  | nil => rfl
  | cons role more =>
    have hlines := intercalate_newline role.render.toList (more.map (·.render.toList))
    simp only [Page.renderRoles, roleLines, String.toList_append, String.toList_intercalate,
      List.map_cons, List.map_map, List.flatMap_cons] at hlines ⊢
    rw [← hlines]
    rfl

theorem toList_renderReference (reference? : Option Reference) :
    (Page.renderReference reference?).toList = (referenceLines reference?).flatMap ('\n' :: ·) := by
  cases reference? with
  | none => rfl
  | some reference => simp [Page.renderReference, referenceLines]

theorem Page.toList_render (page : Page) :
    page.render.toList =
      ('#' :: ' ' :: page.title.toList) ++ page.linesBelow.flatMap ('\n' :: ·) := by
  simp [render, linesBelow, toList_renderRoles, toList_renderReference, toString]

/-- Every part of a page stands on one line, and the sentence does not begin like a role. -/
structure Page.Plain (page : Page) : Prop where
  title : '\n' ∉ page.title.toList
  body : '\n' ∉ page.body.toList
  head : page.body.toList.head? ≠ some '-'
  roles : ∀ role ∈ page.roles, '\n' ∉ role.render.toList
  reference : ∀ reference ∈ page.reference?, '\n' ∉ reference.render.toList

/-- Whether a line gives an operand a role. -/
def isRoleLine (line : Text) : Bool := ['-', ' ', '*', '*'].isPrefixOf line

theorem isRoleLine_of_head?_ne {line : Text} (h : line.head? ≠ some '-') :
    isRoleLine line = false := by
  cases line with
  | nil => rfl
  | cons c rest =>
    have hc : '-' ≠ c := fun heq => h (congrArg some heq.symm)
    simp [isRoleLine, List.isPrefixOf, hc]

theorem isRoleLine_render (role : Role) : isRoleLine role.render.toList = true := by
  simp [isRoleLine, Role.render, toString]

theorem Reference.render_eq (reference : Reference) :
    reference.render = "[Documentation](https://nimphio.us/wave2/w2s/instructions/" ++
      reference.chapter ++ ".html#" ++ reference.anchor ++ ")" := rfl

theorem isRoleLine_reference (reference : Reference) :
    isRoleLine reference.render.toList = false := by
  have hhead : reference.render.toList.head? = some '[' := by
    simp only [Reference.render_eq, String.toList_append, List.append_assoc]
    rfl
  apply isRoleLine_of_head?_ne
  simp [hhead]

namespace Page.Plain

variable {page : Page} (h : page.Plain)

include h

theorem newline_not_mem_linesBelow : ∀ line ∈ page.linesBelow, '\n' ∉ line := by
  have hroles : ∀ line ∈ roleLines page.roles, '\n' ∉ line := by
    intro line hline
    unfold roleLines at hline
    split at hline
    · cases hline
    · rcases List.mem_cons.mp hline with rfl | hline
      · exact List.not_mem_nil
      · obtain ⟨role, hrole, rfl⟩ := List.mem_map.mp hline
        exact h.roles role hrole
  have hreference : ∀ line ∈ referenceLines page.reference?, '\n' ∉ line := by
    cases hreference : page.reference? with
    | none => simp [referenceLines]
    | some reference => simp [referenceLines, h.reference reference hreference]
  intro line hline
  simp only [linesBelow, List.mem_cons, List.mem_append] at hline
  rcases hline with rfl | rfl | hline | hline
  · exact List.not_mem_nil
  · exact h.body
  · exact hroles line hline
  · exact hreference line hline

theorem shownLines_render :
    shownLines page.render = ('#' :: ' ' :: page.title.toList) :: page.linesBelow := by
  rw [shownLines, page.toList_render]
  apply Text.pieces_flatMap_newline
  · simp [h.title]
  · exact h.newline_not_mem_linesBelow

/-- The lines of a shown page that give roles are those of its roles. -/
theorem filter_isRoleLine :
    (shownLines page.render).filter isRoleLine = page.roles.map (·.render.toList) := by
  have hempty : isRoleLine [] = false := rfl
  have htitle : isRoleLine ('#' :: ' ' :: page.title.toList) = false :=
    isRoleLine_of_head?_ne (by simp)
  have hbody := isRoleLine_of_head?_ne h.head
  have hroles : (roleLines page.roles).filter isRoleLine = page.roles.map (·.render.toList) := by
    have hall : (page.roles.map (·.render.toList)).filter isRoleLine =
        page.roles.map (·.render.toList) := by
      simp [isRoleLine_render]
    cases hroles : page.roles with
    | nil => rfl
    | cons role more => rwa [hroles] at hall
  have hreference : (referenceLines page.reference?).filter isRoleLine = [] := by
    cases page.reference? with
    | none => rfl
    | some reference => simp [referenceLines, isRoleLine_reference, hempty]
  rw [h.shownLines_render, List.filter_cons_of_neg (by simp [htitle]), linesBelow,
    List.filter_cons_of_neg (by simp [hempty]), List.filter_cons_of_neg (by simp [hbody]),
    List.filter_append, hroles, hreference, List.append_nil]

end Page.Plain

theorem newline_not_mem_reference {chapter : String} (h : '\n' ∉ chapter.toList)
    (family : Family) : '\n' ∉ (Reference.ofFamily chapter family).render.toList := by
  simpa [Reference.render_eq, Reference.ofFamily, h] using anchor_ne_newline family

end Documentation

end AsmCheck
