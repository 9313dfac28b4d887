import AsmCheck.Operand.Description
import AsmCheck.Proofs.LowerCasing
import AsmCheck.Proofs.Trimming

/-!
# Shapes of operands

A register operand is the name of a register and a selection of its words. Taking it apart by words
and searching it for a register find the same parts, since names and selections are words of
lower-case letters. An immediate stays one in lower case, so its description can be given.
-/

namespace AsmCheck

set_option autoImplicit false

namespace Register

theorem index?_eq_some {c : Char} {i : Fin 8} (h : index? c = some i) : c = indexChar i := by
  unfold index? at h
  split at h <;> simp only [Option.some.injEq, reduceCtorEq] at h <;> subst h <;> rfl

theorem ofPair?_eq_some_iff {bank index : Char} {register : Register} :
    ofPair? bank index = some register ↔ register.name = [bank, index] := by
  constructor
  · intro h
    unfold ofPair? at h
    split at h
    · rename_i hbank
      split at h
      · rename_i hindex
        rw [← Option.some.inj h, hbank, hindex]
        rfl
      · obtain ⟨i, hi, rfl⟩ := Option.map_eq_some_iff.mp h
        rw [hbank, index?_eq_some hi]
        rfl
    · split at h
      · rename_i hbank
        obtain ⟨i, hi, rfl⟩ := Option.map_eq_some_iff.mp h
        rw [hbank, index?_eq_some hi]
        rfl
      · simp at h
  · intro h
    have hname := ofName?_name register
    rwa [h] at hname

theorem leading?_eq_some_iff {t rest : Text} {register : Register} :
    leading? t = some (register, rest) ↔ t = register.name ++ rest := by
  constructor
  · intro h
    unfold leading? at h
    split at h
    · obtain ⟨found, hpair, heq⟩ := Option.map_eq_some_iff.mp h
      obtain ⟨rfl, rfl⟩ := Prod.mk.inj heq
      rw [ofPair?_eq_some_iff.mp hpair]
      rfl
    · simp at h
  · rintro rfl
    have hname : ∃ bank index, register.name = [bank, index] := by
      cases register with
      | general i => exact ⟨_, _, rfl⟩
      | constant i => exact ⟨_, _, rfl⟩
      | counter => exact ⟨_, _, rfl⟩
    obtain ⟨bank, index, hname⟩ := hname
    have hpair := ofPair?_eq_some_iff.mpr hname
    rw [hname]
    simp [leading?, hpair]

theorem name_ne_nil (register : Register) : register.name ≠ [] := by
  cases register <;> simp [name]

end Register

namespace Operand

/-- A character of register names and selections. -/
def IsPlain (c : Char) : Prop := c.toNat < 128 ∧ c.toLower = c ∧ Text.isWordChar c = true

theorem isPlain_indexChar (i : Fin 8) : IsPlain (Register.indexChar i) := by
  refine ⟨?_, ?_, ?_⟩ <;> revert i <;> decide

theorem isPlain_of_mem_name (register : Register) : ∀ c ∈ register.name, IsPlain c := by
  have hr : IsPlain 'r' := ⟨by decide, rfl, by decide⟩
  have hc : IsPlain 'c' := ⟨by decide, rfl, by decide⟩
  have hi : IsPlain 'i' := ⟨by decide, rfl, by decide⟩
  cases register with
  | general index => simp [Register.name, hr, isPlain_indexChar]
  | constant index => simp [Register.name, hc, isPlain_indexChar]
  | counter => simp [Register.name, hr, hi]

theorem isPlain_of_isWordLetter {c : Char} (h : isWordLetter c = true) : IsPlain c := by
  simp only [isWordLetter, Bool.or_eq_true, beq_iff_eq] at h
  rcases h with ((rfl | rfl) | rfl) | rfl <;> exact ⟨by decide, rfl, by decide⟩

/-- What follows a register in a register operand: nothing, or a dot and the selected words. -/
def Selects (least : Nat) (tail words : Text) : Prop :=
  tail = [] ∧ words = [] ∨
    tail = '.' :: words ∧ words.all isWordLetter = true ∧ least ≤ words.length ∧ words.length ≤ 4

theorem isRegisterText_iff {allowed : Register → Bool} {least : Nat} {t : Text} :
    isRegisterText allowed least t = true ↔ ∃ register tail words, allowed register = true ∧
      t = register.name ++ tail ∧ Selects least tail words := by
  unfold isRegisterText
  constructor
  · intro h
    cases hleading : Register.leading? t with
    | none => simp [hleading] at h
    | some found =>
      obtain ⟨register, tail⟩ := found
      rw [hleading] at h
      simp only [Bool.and_eq_true, Bool.or_eq_true] at h
      obtain ⟨hallowed, hempty | hselection⟩ := h
      · exact ⟨register, tail, [], hallowed, Register.leading?_eq_some_iff.mp hleading,
          Or.inl ⟨List.isEmpty_iff.mp hempty, rfl⟩⟩
      · unfold isSelection at hselection
        split at hselection
        · rename_i words
          simp only [Bool.and_eq_true, decide_eq_true_eq] at hselection
          exact ⟨register, _, words, hallowed, Register.leading?_eq_some_iff.mp hleading,
            Or.inr ⟨rfl, hselection.1.1, hselection.1.2, hselection.2⟩⟩
        · simp at hselection
  · rintro ⟨register, tail, words, hallowed, ht, hselects⟩
    rw [Register.leading?_eq_some_iff.mpr ht]
    rcases hselects with ⟨rfl, _⟩ | ⟨rfl, hletters, hleast, hmost⟩
    · simp [hallowed]
    · simp only [hallowed, isSelection, hletters, hleast, hmost]
      simp

section Register

variable (register : Register) {least : Nat} {tail words : Text}

theorem isPlain_of_selects (h : Selects least tail words) : ∀ c ∈ words, IsPlain c := by
  intro c hc
  rcases h with ⟨_, rfl⟩ | ⟨_, hletters, _⟩
  · simp at hc
  · exact isPlain_of_isWordLetter (List.all_eq_true.mp hletters c hc)

theorem isPlain_or_dot_of_mem (h : Selects least tail words) :
    ∀ c ∈ register.name ++ tail, IsPlain c ∨ c = '.' := by
  intro c hc
  have hwords := isPlain_of_selects h
  rcases List.mem_append.mp hc with hc | hc
  · exact Or.inl (isPlain_of_mem_name register c hc)
  · rcases h with ⟨rfl, _⟩ | ⟨rfl, _⟩
    · simp at hc
    · rcases List.mem_cons.mp hc with rfl | hc
      · exact Or.inr rfl
      · exact Or.inl (hwords c hc)

theorem firstRegister?_name (rest : Text) :
    firstRegister? (register.name ++ rest) = some (register, leadingSelection? rest) := by
  have hleading : Register.leading? (register.name ++ rest) = some (register, rest) :=
    Register.leading?_eq_some_iff.mpr rfl
  cases ht : register.name ++ rest with
  | nil => simp [Register.name_ne_nil] at ht
  | cons c more =>
    rw [ht] at hleading
    rw [firstRegister?, hleading]

/-- No register starts with a character that belongs to no word. -/
theorem firstRegister?_append {opening : Text}
    (hopening : ∀ c ∈ opening, Text.isWordChar c = false) (t : Text) :
    firstRegister? (opening ++ t) = firstRegister? t := by
  induction opening with
  | nil => rfl
  | cons c opening ih =>
    have hleading : Register.leading? (c :: (opening ++ t)) = none := by
      by_contra hsome
      obtain ⟨⟨register, rest⟩, hregister⟩ := Option.ne_none_iff_exists'.mp hsome
      have hname := Register.leading?_eq_some_iff.mp hregister
      have hmem : c ∈ register.name := by
        cases hcons : register.name with
        | nil => exact absurd hcons register.name_ne_nil
        | cons d more =>
          rw [hcons] at hname
          rw [(List.cons.inj hname).1]
          exact List.mem_cons_self
      have hword := (isPlain_of_mem_name register c hmem).2.2
      rw [hopening c List.mem_cons_self] at hword
      cases hword
    rw [List.cons_append, firstRegister?, hleading]
    exact ih fun d hd => hopening d (List.mem_cons_of_mem c hd)

theorem leadingSelection?_append {closing : Text}
    (hclosing : ∀ c ∈ closing.head?, Text.isWordChar c = false ∧ c ≠ '.')
    (h : Selects least tail words) : leadingSelection? (tail ++ closing) = nonEmpty? words := by
  rcases h with ⟨rfl, rfl⟩ | ⟨rfl, hletters, _, hmost⟩
  · rw [List.nil_append]
    cases closing with
    | nil => rfl
    | cons c rest =>
      have hdot : c ≠ '.' := (hclosing c rfl).2
      unfold leadingSelection?
      split
      · rename_i heq
        exact absurd (List.cons.inj heq).1 hdot
      · rfl
  · have hstop : ∀ c ∈ closing.head?, isWordLetter c = false := by
      intro c hc
      by_contra hletter
      have hword := (isPlain_of_isWordLetter (by simpa using hletter)).2.2
      rw [(hclosing c hc).1] at hword
      cases hword
    rw [List.cons_append, leadingSelection?,
      Text.takeWhile_append_of_boundary (List.all_eq_true.mp hletters) hstop,
      List.take_of_length_le hmost]

/-- Searching for a register passes over the characters in front of it and stops behind the selected
words. Lower case changes nothing if the characters around the operand have none. -/
theorem registerParts?_enclosed {opening closing : Text}
    (hopening : ∀ c ∈ opening, Text.isWordChar c = false)
    (hclosing : ∀ c ∈ closing.head?, Text.isWordChar c = false ∧ c ≠ '.')
    (hlower : ∀ c ∈ opening ++ closing, c.toNat < 128 ∧ c.toLower = c)
    (h : Selects least tail words) :
    registerParts? (opening ++ (register.name ++ (tail ++ closing))) =
      some (register, nonEmpty? words) := by
  have hchars : ∀ c ∈ opening ++ (register.name ++ (tail ++ closing)),
      c.toNat < 128 ∧ c.toLower = c := by
    intro c hc
    have hcases : c ∈ opening ++ closing ∨ c ∈ register.name ++ tail := by
      simp only [List.mem_append] at hc ⊢
      tauto
    rcases hcases with hc | hc
    · exact hlower c hc
    · rcases isPlain_or_dot_of_mem register h c hc with hplain | rfl
      · exact ⟨hplain.1, hplain.2.1⟩
      · decide
  rw [registerParts?, Text.lower_ascii fun c hc => (hchars c hc).1,
    List.map_congr_left (g := id) fun c hc => (hchars c hc).2, List.map_id,
    firstRegister?_append hopening, firstRegister?_name, leadingSelection?_append hclosing h]

theorem registerParts?_of_selects (h : Selects least tail words) :
    registerParts? (register.name ++ tail) = some (register, nonEmpty? words) := by
  have hplain := registerParts?_enclosed register (by simp : ∀ c ∈ ([] : Text), _)
    (by simp : ∀ c ∈ ([] : Text).head?, _) (by simp) h
  rwa [List.nil_append, List.append_nil] at hplain

/-- Characters that belong to no word may stand around a register operand. Those behind it start
with no dot, which would begin a selection. -/
theorem wordParts?_enclosed {opening closing : Text}
    (hopening : ∀ c ∈ opening, Text.isWordChar c = false)
    (hclosing : ∀ c ∈ closing.head?, Text.isWordChar c = false ∧ c ≠ '.')
    (h : Selects least tail words) :
    wordParts? (opening ++ (register.name ++ (tail ++ closing))) =
      some (register.name, nonEmpty? words) := by
  have hname : ∀ c ∈ register.name, Text.isWordChar c = true :=
    fun c hc => (isPlain_of_mem_name register c hc).2.2
  have hwords : ∀ c ∈ words, Text.isWordChar c = true :=
    fun c hc => (isPlain_of_selects h c hc).2.2
  have hstart : (opening ++ (register.name ++ (tail ++ closing))).dropWhile
      (!Text.isWordChar ·) = register.name ++ (tail ++ closing) := by
    apply Text.dropWhile_append_of_boundary
    · intro c hc
      simp [hopening c hc]
    · cases hc : register.name with
      | nil => exact absurd hc register.name_ne_nil
      | cons c rest =>
        intro d hd
        rw [← Option.some.inj hd, hname c (hc ▸ List.mem_cons_self)]
        rfl
  have hhead : ∀ c ∈ (tail ++ closing).head?, Text.isWordChar c = false := by
    intro c hc
    rcases h with ⟨rfl, _⟩ | ⟨rfl, _⟩
    · exact (hclosing c hc).1
    · rw [← Option.some.inj hc]
      decide
  have hnonempty : nonEmpty? register.name = some register.name := by
    simp [nonEmpty?, register.name_ne_nil]
  simp only [wordParts?, hstart, Text.takeWhile_append_of_boundary hname hhead,
    Text.dropWhile_append_of_boundary hname hhead, hnonempty, Option.map_some]
  rcases h with ⟨rfl, rfl⟩ | ⟨rfl, _⟩
  · rw [List.nil_append]
    cases closing with
    | nil => rfl
    | cons c rest =>
      have hdot : c ≠ '.' := (hclosing c rfl).2
      split
      · rename_i heq
        exact absurd (List.cons.inj heq).1 hdot
      · rfl
  · simp only [List.cons_append]
    rw [Text.takeWhile_append_of_boundary hwords fun c hc => (hclosing c hc).1]

theorem wordParts?_of_selects (h : Selects least tail words) :
    wordParts? (register.name ++ tail) = some (register.name, nonEmpty? words) := by
  have hplain := wordParts?_enclosed register (by simp : ∀ c ∈ ([] : Text), _)
    (by simp : ∀ c ∈ ([] : Text).head?, _) h
  rwa [List.nil_append, List.append_nil] at hplain

/-- Cutting the text at words finds the same selection as searching it for a register. -/
theorem swizzle?_of_selects (h : Selects least tail words) :
    swizzle? (register.name ++ tail) = nonEmpty? words := by
  rw [swizzle?, wordParts?_of_selects register h]
  rfl

theorem key?_of_selects (h : Selects least tail words) :
    key? (register.name ++ tail) = some register.name := by
  rw [key?, wordParts?_of_selects register h]
  rfl

end Register

theorem Kind.hasShape_of_ofText? {t : Text} {kind : Kind} (h : Kind.ofText? t = some kind) :
    kind.hasShape (Text.dropFinalNewline t) = true :=
  List.find?_some (p := fun kind => Kind.hasShape kind (Text.dropFinalNewline t)) h

theorem isHexDigit_ascii {c : Char} (h : Numeral.isHexDigit c = true) :
    c.toNat < 128 ∧ Text.isBlank c = false := by
  have hascii : c.toNat < 128 := by
    have hle : ∀ d : Char, c ≤ d → c.toNat ≤ d.toNat := fun d hd => hd
    unfold Numeral.isHexDigit Numeral.hexValue? at h
    split at h
    · rename_i hc
      exact lt_of_le_of_lt (hle _ hc.2) (by decide)
    · split at h
      · rename_i hc
        exact lt_of_le_of_lt (hle _ hc.2) (by decide)
      · split at h
        · rename_i hc
          exact lt_of_le_of_lt (hle _ hc.2) (by decide)
        · simp at h
  refine ⟨hascii, ?_⟩
  revert h
  exact Text.forall_ascii (P := fun c => Numeral.isHexDigit c = true → Text.isBlank c = false)
    (by decide) hascii

theorem isHexDigit_toLower {c : Char} (h : Numeral.isHexDigit c = true) :
    Numeral.hexValue? c.toLower = Numeral.hexValue? c ∧ c.toLower.isDigit = c.isDigit := by
  have hascii := (isHexDigit_ascii h).1
  revert h
  exact Text.forall_ascii (P := fun c => Numeral.isHexDigit c = true →
    Numeral.hexValue? c.toLower = Numeral.hexValue? c ∧ c.toLower.isDigit = c.isDigit)
    (by decide) hascii

section

variable {digits : Text} (h : Numeral.isHex digits = true)

include h

theorem isHexDigit_of_mem : ∀ c ∈ digits, Numeral.isHexDigit c = true := by
  simp only [Numeral.isHex, Bool.and_eq_true] at h
  exact List.all_eq_true.mp h.2

theorem read_lower (base : Nat) :
    Numeral.read base (digits.map Char.toLower) = Numeral.read base digits := by
  rw [Numeral.read, Numeral.read, List.map_map]
  congr 1
  apply List.map_congr_left
  intro c hc
  have hvalue := (isHexDigit_toLower (isHexDigit_of_mem h c hc)).1
  simp [hvalue]

theorem isHex_lower : Numeral.isHex (digits.map Char.toLower) = true := by
  have hdigits := isHexDigit_of_mem h
  simp only [Numeral.isHex, Bool.and_eq_true, Bool.not_eq_true', List.all_eq_true] at h ⊢
  refine ⟨by simpa using h.1, fun c hc => ?_⟩
  obtain ⟨d, hd, rfl⟩ := List.mem_map.mp hc
  rw [Numeral.isHexDigit, (isHexDigit_toLower (hdigits d hd)).1]
  exact hdigits d hd

theorem isDecimal_lower :
    Numeral.isDecimal (digits.map Char.toLower) = Numeral.isDecimal digits := by
  have hsame : ∀ c ∈ digits, c.toLower.isDigit = c.isDigit :=
    fun c hc => (isHexDigit_toLower (isHexDigit_of_mem h c hc)).2
  have hall : (digits.map Char.toLower).all Char.isDigit = digits.all Char.isDigit := by
    apply Bool.eq_iff_iff.mpr
    simp only [List.all_map, List.all_eq_true, Function.comp_apply]
    exact forall₂_congr fun c hc => by rw [hsame c hc]
  rw [Numeral.isDecimal, Numeral.isDecimal, hall, List.isEmpty_map]

/-- Digits without a dollar sign are decimal if they can be. -/
theorem value?_of_isHex :
    Immediate.value? digits =
      some (Numeral.read (if Numeral.isDecimal digits then 10 else 16) digits) := by
  unfold Immediate.value?
  split
  · have hdollar := isHexDigit_of_mem h '$' List.mem_cons_self
    exact absurd hdollar (by decide)
  · split
    · rfl
    · rfl

end

theorem value?_dollar {digits : Text} (h : Numeral.isHex digits = true) :
    Immediate.value? ('$' :: digits) = some (Numeral.read 16 digits) := by
  rw [Immediate.value?, if_pos h]

theorem isImmediateText_chars {t : Text} (h : isImmediateText t = true) :
    ∀ c ∈ t, c.toNat < 128 ∧ Text.isBlank c = false := by
  have hdigits : ∀ digits, Numeral.isHex digits = true →
      ∀ c ∈ digits, c.toNat < 128 ∧ Text.isBlank c = false := by
    intro digits hhex c hc
    exact isHexDigit_ascii (isHexDigit_of_mem hhex c hc)
  intro c hc
  unfold isImmediateText at h
  split at h
  · rcases List.mem_cons.mp hc with rfl | hc
    · decide
    · exact hdigits _ h c hc
  · exact hdigits _ h c hc

/-- An immediate has a value, which is the same in lower case. -/
theorem value?_lower {t : Text} (h : isImmediateText t = true) :
    ∃ value, Immediate.value? t = some value ∧
      Immediate.value? (t.map Char.toLower) = some value := by
  unfold isImmediateText at h
  split at h
  · rename_i digits
    have hdollar : ('$' :: digits).map Char.toLower = '$' :: digits.map Char.toLower := rfl
    rw [hdollar, value?_dollar h, value?_dollar (isHex_lower h), read_lower h]
    exact ⟨_, rfl, rfl⟩
  · rw [value?_of_isHex h, value?_of_isHex (isHex_lower h), isDecimal_lower h, read_lower h]
    exact ⟨_, rfl, rfl⟩

theorem exists_final_newline (t : Text) :
    ∃ ending, t = Text.dropFinalNewline t ++ ending ∧ (ending = [] ∨ ending = ['\n']) := by
  unfold Text.dropFinalNewline
  split
  · rename_i hlast
    obtain ⟨u, rfl⟩ := List.getLast?_eq_some_iff.mp hlast
    exact ⟨['\n'], by simp, Or.inr rfl⟩
  · exact ⟨[], by simp, Or.inl rfl⟩

theorem dropFinalNewline_of_trimmed {t : Text} (h : Text.Trimmed t) :
    Text.dropFinalNewline t = t := by
  apply if_neg
  intro hlast
  exact absurd (h.2 '\n' hlast) (by decide)

/-- An immediate can be read with or without its final line feed, and in lower case as well. -/
theorem parse_lower {t : Text} (h : isImmediateText (Text.dropFinalNewline t) = true) :
    ∃ value, Immediate.parse t = .ok value ∧ Immediate.parse (Text.lower t) = .ok value := by
  obtain ⟨ending, ht, hending⟩ := exists_final_newline t
  generalize Text.dropFinalNewline t = digits at h ht
  have hchars := isImmediateText_chars h
  obtain ⟨value, hvalue, hlower⟩ := value?_lower h
  have hascii : ∀ c ∈ t, c.toNat < 128 := by
    intro c hc
    rw [ht] at hc
    rcases List.mem_append.mp hc with hc | hc
    · exact (hchars c hc).1
    · rcases hending with rfl | rfl
      · simp at hc
      · rw [List.mem_singleton.mp hc]
        decide
  have hdigits : ∀ c ∈ digits.map Char.toLower, Text.isBlank c = false := by
    rw [← Text.lower_ascii fun c hc => (hchars c hc).1]
    exact Text.isBlank_lowerFrom (fun c hc => (hchars c hc).2) []
  have hblank : Text.AllBlank ending ∧ Text.AllBlank (ending.map Char.toLower) := by
    rcases hending with rfl | rfl
    · simp [Text.AllBlank]
    · simp only [Text.AllBlank, List.map_cons, List.map_nil, List.mem_singleton, forall_eq]
      decide
  refine ⟨value, ?_, ?_⟩
  · rw [Immediate.parse, ht, Text.trim_append (fun c hc => (hchars c hc).2) hblank.1, hvalue]
  · rw [Immediate.parse, Text.lower_ascii hascii, ht, List.map_append,
      Text.trim_append hdigits hblank.2, hlower]

/-- An operand with a kind has a description, and reading its value never fails. -/
theorem describe_of_kind {t : Text} {kind : Kind} (h : Kind.ofText? t = some kind) :
    ∃ text, describe t = .ok (some text) ∧ text ≠ "None" := by
  have hother : ∀ text : String, text.toList.head? ≠ some 'N' → text ≠ "None" := by
    rintro text hhead rfl
    exact hhead (by decide)
  rw [describe, h]
  cases kind with
  | register => exact ⟨_, rfl, hother _ (by simp [toString, String.toList_append])⟩
  | constant => exact ⟨_, rfl, hother _ (by simp [toString, String.toList_append])⟩
  | pointer => exact ⟨_, rfl, hother _ (by simp [toString, String.toList_append])⟩
  | pointerIncrement => exact ⟨_, rfl, hother _ (by simp [toString, String.toList_append])⟩
  | label => exact ⟨_, rfl, hother _ (by simp [toString, String.toList_append])⟩
  | immediate =>
    obtain ⟨value, _, hvalue⟩ := parse_lower (Kind.hasShape_of_ofText? h)
    simp only [describeAs, hvalue]
    exact ⟨_, rfl, hother _ (by simp [toString, String.toList_append])⟩

end Operand

end AsmCheck
