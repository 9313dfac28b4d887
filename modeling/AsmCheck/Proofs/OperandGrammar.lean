import AsmCheck.Proofs.Acceptance
import AsmCheck.Proofs.OperandShapes

/-!
# The grammar of operands

What the texts of registers, labels and immediates look like, said without the shapes by which
operands are read, and that an operand has the kind register, constant, label or immediate exactly
if its text is such a text. The shapes of different kinds start with different characters. Only a
constant register can be taken for a number, and the names of constants are excluded from numbers
for that reason.
-/

namespace AsmCheck

set_option autoImplicit false

namespace Operand

/-- The texts that write a register with a selection of its words. A dot alone selects none. -/
inductive Names (register : Register) : Text → Text → Prop where
  | bare : Names register [] register.name
  | selected (words : Text) : (∀ c ∈ words, c ∈ ['x', 'y', 'z', 'w']) → words.length ≤ 4 →
      Names register words (register.name ++ '.' :: words)

def IsHexNumeral (t : Text) : Prop :=
  t ≠ [] ∧ ∀ c ∈ t, '0' ≤ c ∧ c ≤ '9' ∨ 'a' ≤ c ∧ c ≤ 'f' ∨ 'A' ≤ c ∧ c ≤ 'F'

/-- Hexadecimal numerals with or without a dollar sign, less the names of constant registers. -/
def IsImmediate (t : Text) : Prop :=
  (IsHexNumeral t ∨ ∃ digits, t = '$' :: digits ∧ IsHexNumeral digits) ∧
    ∀ i, t ≠ (Register.constant i).name

/-- A colon and an identifier. -/
def IsLabel (t : Text) : Prop :=
  ∃ name, t = ':' :: name ∧ name ≠ [] ∧ ∀ c ∈ name, c.isAlphanum = true ∨ c = '_'

theorem forall_mem_letters_iff (words : Text) :
    (∀ c ∈ words, c ∈ ['x', 'y', 'z', 'w']) ↔ words.all isWordLetter = true := by
  simp [isWordLetter, or_assoc]

theorem names_iff_selects {register : Register} {words t : Text} :
    Names register words t ↔ ∃ tail, t = register.name ++ tail ∧ Selects 0 tail words := by
  constructor
  · intro h
    cases h with
    | bare => exact ⟨[], (List.append_nil _).symm, Or.inl ⟨rfl, rfl⟩⟩
    | selected _ hwords hmost =>
      exact ⟨_, rfl, Or.inr ⟨rfl, (forall_mem_letters_iff words).mp hwords, Nat.zero_le _, hmost⟩⟩
  · rintro ⟨tail, rfl, ⟨rfl, rfl⟩ | ⟨rfl, hwords, _, hmost⟩⟩
    · rw [List.append_nil]
      exact .bare
    · exact .selected words ((forall_mem_letters_iff words).mpr hwords) hmost

theorem isRegisterText_iff_names {allowed : Register → Bool} {t : Text} :
    isRegisterText allowed 0 t = true ↔
      ∃ register words, allowed register = true ∧ Names register words t := by
  rw [isRegisterText_iff]
  constructor
  · rintro ⟨register, tail, words, hallowed, ht, hselects⟩
    exact ⟨register, words, hallowed, names_iff_selects.mpr ⟨tail, ht, hselects⟩⟩
  · rintro ⟨register, words, hallowed, hnames⟩
    obtain ⟨tail, ht, hselects⟩ := names_iff_selects.mp hnames
    exact ⟨register, tail, words, hallowed, ht, hselects⟩

theorem hasShape_constant_iff {t : Text} :
    Kind.constant.hasShape t = true ↔ ∃ i words, Names (.constant i) words t := by
  rw [Kind.hasShape, isRegisterText_iff_names]
  constructor
  · rintro ⟨register, words, hregister, hnames⟩
    cases register with
    | constant i => exact ⟨i, words, hnames⟩
    | general i => cases hregister
    | counter => cases hregister
  · rintro ⟨i, words, hnames⟩
    exact ⟨.constant i, words, rfl, hnames⟩

theorem isHexDigit_iff (c : Char) :
    Numeral.isHexDigit c = true ↔
      '0' ≤ c ∧ c ≤ '9' ∨ 'a' ≤ c ∧ c ≤ 'f' ∨ 'A' ≤ c ∧ c ≤ 'F' := by
  unfold Numeral.isHexDigit Numeral.hexValue?
  split
  · simp_all
  · split
    · simp_all
    · split <;> simp_all

theorem isHex_iff_isHexNumeral (t : Text) : Numeral.isHex t = true ↔ IsHexNumeral t := by
  simp only [Numeral.isHex, IsHexNumeral, Bool.and_eq_true, Bool.not_eq_true',
    List.isEmpty_eq_false_iff, List.all_eq_true, isHexDigit_iff]

theorem isImmediateText_iff (t : Text) :
    isImmediateText t = true ↔
      IsHexNumeral t ∨ ∃ digits, t = '$' :: digits ∧ IsHexNumeral digits := by
  unfold isImmediateText
  split
  · rename_i digits
    have hdollar : ¬ IsHexNumeral ('$' :: digits) :=
      fun h => absurd (h.2 '$' List.mem_cons_self) (by decide)
    simp [isHex_iff_isHexNumeral, hdollar]
  · rename_i hdollar
    rw [isHex_iff_isHexNumeral, or_iff_left]
    rintro ⟨digits, ht, _⟩
    exact hdollar digits ht

theorem isLabelText_iff (t : Text) : isLabelText t = true ↔ IsLabel t := by
  unfold isLabelText
  split
  · simp [IsLabel, isLabelName, isLabelChar]
  · rename_i hcolon
    simp only [Bool.false_eq_true, false_iff]
    rintro ⟨name, ht, _⟩
    exact hcolon name ht

/-- The characters with which texts of a kind start. -/
def Kind.startsWith : Kind → Char → Bool
  | .register, c => c == 'r'
  | .constant, c => c == 'c'
  | .immediate, c => c == '$' || Numeral.isHexDigit c
  | .pointer, c => c == '['
  | .pointerIncrement, c => c == '['
  | .label, c => c == ':'

theorem Names.head? {register : Register} {words t : Text} (h : Names register words t) :
    t.head? = some (if register.isWritable then 'r' else 'c') := by
  cases h with
  | bare => cases register <;> rfl
  | selected _ _ _ => cases register <;> rfl

theorem head?_of_isRegisterText (writable : Bool) {allowed : Register → Bool} {t : Text}
    (h : isRegisterText allowed 0 t = true)
    (hallowed : ∀ register, allowed register = true → register.isWritable = writable) :
    t.head? = some (if writable then 'r' else 'c') := by
  obtain ⟨register, words, hregister, hnames⟩ := isRegisterText_iff_names.mp h
  rw [hnames.head?, hallowed register hregister]

theorem head?_of_isBracketed {closing t : Text} (h : isBracketed closing t = true) :
    t.head? = some '[' := by
  obtain ⟨body, hbody, _⟩ := (Option.any_eq_true _ _).mp h
  rw [Text.enclosed?_eq_some_iff.mp hbody]
  rfl

theorem head?_of_isHexNumeral {t : Text} (h : IsHexNumeral t) :
    ∃ c, t.head? = some c ∧ Numeral.isHexDigit c = true := by
  cases t with
  | nil => exact absurd rfl h.1
  | cons c rest => exact ⟨c, rfl, (isHexDigit_iff c).mpr (h.2 c List.mem_cons_self)⟩

theorem Kind.head?_of_hasShape {kind : Kind} {t : Text} (h : kind.hasShape t = true) :
    ∃ c, t.head? = some c ∧ kind.startsWith c = true := by
  cases kind with
  | register => exact ⟨'r', head?_of_isRegisterText true h (by simp), rfl⟩
  | constant => exact ⟨'c', head?_of_isRegisterText false h (by simp), rfl⟩
  | pointer => exact ⟨'[', head?_of_isBracketed h, rfl⟩
  | pointerIncrement => exact ⟨'[', head?_of_isBracketed h, rfl⟩
  | immediate =>
    rcases (isImmediateText_iff t).mp h with hhex | ⟨digits, rfl, _⟩
    · obtain ⟨c, hc, hdigit⟩ := head?_of_isHexNumeral hhex
      exact ⟨c, hc, by simp [startsWith, hdigit]⟩
    · exact ⟨'$', rfl, rfl⟩
  | label =>
    obtain ⟨name, rfl, _⟩ := (isLabelText_iff t).mp h
    exact ⟨':', rfl, rfl⟩

/-- Kinds that can start with the same character: pointers, and constants with immediates. -/
theorem Kind.startsWith_cases {a b : Kind} {c : Char} (ha : a.startsWith c = true)
    (hb : b.startsWith c = true) :
    a = b ∨ a.isPointer = true ∧ b.isPointer = true ∨
      a = .constant ∧ b = .immediate ∨ a = .immediate ∧ b = .constant := by
  have hdigits : Numeral.isHexDigit 'r' = false ∧ Numeral.isHexDigit '[' = false ∧
      Numeral.isHexDigit ':' = false := by decide
  cases a <;> cases b <;> simp only [startsWith, beq_iff_eq, Bool.or_eq_true] at ha hb <;>
    simp_all [isPointer]

section

variable {t : Text}

/-- A dot is no digit, so a constant that looks like a number is its name alone. -/
theorem Kind.eq_name_of_constant_of_immediate (hconstant : Kind.constant.hasShape t = true)
    (himmediate : Kind.immediate.hasShape t = true) : ∃ i, t = (Register.constant i).name := by
  obtain ⟨i, words, hnames⟩ := hasShape_constant_iff.mp hconstant
  have hnumber := (isImmediateText_iff t).mp himmediate
  cases hnames with
  | bare => exact ⟨i, rfl⟩
  | selected _ _ _ =>
    rcases hnumber with hhex | ⟨digits, hdollar, _⟩
    · exact absurd (hhex.2 '.' (by simp)) (by decide)
    · cases hdollar

/-- The shape of constants comes before that of immediates. -/
theorem Kind.not_constant_of_immediate (h : Kind.ofText? t = some .immediate) :
    Kind.constant.hasShape (Text.dropFinalNewline t) = false := by
  by_contra hconstant
  have hshape : Kind.constant.hasShape (Text.dropFinalNewline t) = true := by simpa using hconstant
  unfold ofText? precedence at h
  rw [List.find?_cons, List.find?_cons, List.find?_cons, List.find?_cons, hshape] at h
  split at h
  · cases h
  · split at h
    · cases h
    · split at h <;> cases h

variable (ht : Text.Trimmed t)

include ht

theorem Kind.hasShape_of_trimmed {kind : Kind} (h : Kind.ofText? t = some kind) :
    kind.hasShape t = true := by
  have hshape := hasShape_of_ofText? h
  rwa [dropFinalNewline_of_trimmed ht] at hshape

/-- A text with the shape of a kind has a kind, whose shape starts with the same character. -/
theorem Kind.exists_ofText?_of_hasShape {kind : Kind} (h : kind.hasShape t = true) :
    ∃ found, Kind.ofText? t = some found ∧ found.hasShape t = true ∧
      (kind = found ∨ kind.isPointer = true ∧ found.isPointer = true ∨
        kind = .constant ∧ found = .immediate ∨ kind = .immediate ∧ found = .constant) := by
  have hfound : (Kind.ofText? t).isSome = true := by
    rw [ofText?, dropFinalNewline_of_trimmed ht, List.find?_isSome]
    exact ⟨kind, by cases kind <;> decide, h⟩
  obtain ⟨found, hfound⟩ := Option.isSome_iff_exists.mp hfound
  have hshape := Kind.hasShape_of_trimmed ht hfound
  obtain ⟨c, hc, hstart⟩ := Kind.head?_of_hasShape h
  obtain ⟨d, hd, hstart'⟩ := Kind.head?_of_hasShape hshape
  obtain rfl : c = d := Option.some.inj (hc.symm.trans hd)
  exact ⟨found, hfound, hshape, Kind.startsWith_cases hstart hstart'⟩

/-- A text with the shape of a kind that is no pointer has this kind, unless it is a number with
the shape of a constant. -/
theorem Kind.ofText?_of_hasShape {kind : Kind} (h : kind.hasShape t = true)
    (hpointer : kind.isPointer = false)
    (hconstant : kind = .immediate → Kind.constant.hasShape t = false) :
    Kind.ofText? t = some kind := by
  obtain ⟨found, hfound, hshape, rfl | ⟨hkind, _⟩ | ⟨rfl, rfl⟩ | ⟨rfl, rfl⟩⟩ :=
    Kind.exists_ofText?_of_hasShape ht h
  · exact hfound
  · rw [hkind] at hpointer
    cases hpointer
  · have hnot := Kind.not_constant_of_immediate hfound
    rw [dropFinalNewline_of_trimmed ht, h] at hnot
    cases hnot
  · rw [hconstant rfl] at hshape
    cases hshape

theorem Kind.exists_pointer_of_hasShape {kind : Kind} (h : kind.hasShape t = true)
    (hpointer : kind.isPointer = true) :
    ∃ found, Kind.ofText? t = some found ∧ found.isPointer = true := by
  obtain ⟨found, hfound, _, rfl | ⟨_, hkind⟩ | ⟨rfl, _⟩ | ⟨rfl, _⟩⟩ :=
    Kind.exists_ofText?_of_hasShape ht h
  · exact ⟨kind, hfound, hpointer⟩
  · exact ⟨found, hfound, hkind⟩
  · cases hpointer
  · cases hpointer

theorem ofText?_eq_register_iff :
    Kind.ofText? t = some .register ↔
      ∃ register words, register.isWritable = true ∧ Names register words t := by
  constructor
  · intro h
    exact isRegisterText_iff_names.mp (Kind.hasShape_of_trimmed ht h)
  · intro h
    exact Kind.ofText?_of_hasShape ht (isRegisterText_iff_names.mpr h) rfl nofun

theorem ofText?_eq_constant_iff :
    Kind.ofText? t = some .constant ↔ ∃ i words, Names (.constant i) words t := by
  constructor
  · intro h
    exact hasShape_constant_iff.mp (Kind.hasShape_of_trimmed ht h)
  · intro h
    exact Kind.ofText?_of_hasShape ht (hasShape_constant_iff.mpr h) rfl nofun

theorem ofText?_eq_immediate_iff : Kind.ofText? t = some .immediate ↔ IsImmediate t := by
  constructor
  · intro h
    refine ⟨(isImmediateText_iff t).mp (Kind.hasShape_of_trimmed ht h), ?_⟩
    rintro i rfl
    have hnot := Kind.not_constant_of_immediate h
    rw [dropFinalNewline_of_trimmed ht, hasShape_constant_iff.mpr ⟨i, [], .bare⟩] at hnot
    cases hnot
  · rintro ⟨hnumber, hname⟩
    refine Kind.ofText?_of_hasShape ht ((isImmediateText_iff t).mpr hnumber) rfl fun _ => ?_
    by_contra hconstant
    obtain ⟨i, hi⟩ := Kind.eq_name_of_constant_of_immediate (by simpa using hconstant)
      ((isImmediateText_iff t).mpr hnumber)
    exact hname i hi

theorem ofText?_eq_label_iff : Kind.ofText? t = some .label ↔ IsLabel t := by
  constructor
  · intro h
    exact (isLabelText_iff t).mp (Kind.hasShape_of_trimmed ht h)
  · intro h
    exact Kind.ofText?_of_hasShape ht ((isLabelText_iff t).mpr h) rfl nofun

end

namespace Names

variable {register : Register} {words t : Text} (h : Names register words t)

include h

theorem letters : words.all isWordLetter = true := by
  obtain ⟨tail, _, ⟨_, rfl⟩ | ⟨_, hletters, _⟩⟩ := names_iff_selects.mp h
  · rfl
  · exact hletters

theorem key?_eq : key? t = some register.name := by
  obtain ⟨tail, rfl, hselects⟩ := names_iff_selects.mp h
  exact key?_of_selects register hselects

theorem swizzle?_eq : swizzle? t = nonEmpty? words := by
  obtain ⟨tail, rfl, hselects⟩ := names_iff_selects.mp h
  exact swizzle?_of_selects register hselects

theorem swizzle?_eq_some_iff (found : Text) :
    swizzle? t = some found ↔ found = words ∧ words ≠ [] := by
  rw [h.swizzle?_eq, nonEmpty?]
  cases words <;> simp [eq_comm]

theorem swizzle?_eq_none_iff : swizzle? t = none ↔ words = [] := by
  rw [h.swizzle?_eq, nonEmpty?]
  cases words <;> simp

end Names

end Operand

open Operand (Names IsLabel IsImmediate)

namespace Rules

section

variable {op : Span} (ht : Text.Trimmed op.text)

include ht

theorem isKind_register_iff :
    isKind .register op = true ↔
      ∃ register words, register.isWritable = true ∧ Names register words op.text := by
  rw [isKind_iff, Operand.ofText?_eq_register_iff ht]

theorem isKind_immediate_iff : isKind .immediate op = true ↔ IsImmediate op.text := by
  rw [isKind_iff, Operand.ofText?_eq_immediate_iff ht]

theorem isSource_iff_names :
    isSource op = true ↔ ∃ register words, Names register words op.text := by
  rw [isSource_iff]
  constructor
  · rintro ⟨kind, hkind, hsource⟩
    cases kind with
    | register =>
      obtain ⟨register, words, _, hnames⟩ := (Operand.ofText?_eq_register_iff ht).mp hkind
      exact ⟨register, words, hnames⟩
    | constant =>
      obtain ⟨i, words, hnames⟩ := (Operand.ofText?_eq_constant_iff ht).mp hkind
      exact ⟨.constant i, words, hnames⟩
    | immediate => cases hsource
    | pointer => cases hsource
    | pointerIncrement => cases hsource
    | label => cases hsource
  · rintro ⟨register, words, hnames⟩
    cases register with
    | general i =>
      exact ⟨.register, (Operand.ofText?_eq_register_iff ht).mpr ⟨_, words, rfl, hnames⟩, rfl⟩
    | counter =>
      exact ⟨.register, (Operand.ofText?_eq_register_iff ht).mpr ⟨_, words, rfl, hnames⟩, rfl⟩
    | constant i =>
      exact ⟨.constant, (Operand.ofText?_eq_constant_iff ht).mpr ⟨i, words, hnames⟩, rfl⟩

theorem isTarget_iff_label_or_immediate :
    isTarget op = true ↔ IsLabel op.text ∨ IsImmediate op.text := by
  rw [isTarget_iff, ← Operand.ofText?_eq_label_iff ht, ← Operand.ofText?_eq_immediate_iff ht]
  constructor
  · rintro ⟨kind, hkind, htarget⟩
    cases kind with
    | label => exact Or.inl hkind
    | immediate => exact Or.inr hkind
    | register => cases htarget
    | constant => cases htarget
    | pointer => cases htarget
    | pointerIncrement => cases htarget
  · rintro (hkind | hkind)
    · exact ⟨.label, hkind, rfl⟩
    · exact ⟨.immediate, hkind, rfl⟩

end

end Rules

end AsmCheck
