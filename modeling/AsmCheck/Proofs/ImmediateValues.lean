import AsmCheck.Proofs.MemoryPacking
import AsmCheck.Proofs.OperandGrammar
import AsmCheck.Proofs.Tips

/-!
# Immediates and their values

The numerals that can be read as immediates are the operands of this kind and the names of constant
registers, which are numerals too but have the kind of constants. The base of a numeral is seen from
its text: sixteen behind a dollar sign or with a letter among the digits, else ten. Neither the case
of the letters nor blanks around the numeral count, so the value in the description of an operand is
that of the operand itself.
-/

namespace AsmCheck

set_option autoImplicit false

theorem Text.trim_padded {t before after : Text} (ht : Trimmed t) (hbefore : AllBlank before)
    (hafter : AllBlank after) : trim (before ++ (t ++ after)) = t := by
  calc trim (before ++ (t ++ after))
      = trim (t ++ after) := by rw [trim, trimStart_append_of_allBlank hbefore, ← trim]
    _ = trim t := trim_append_of_allBlank hafter t
    _ = t := trim_of_trimmed ht

namespace Immediate

/-- The value of a digit is its place among the digits. Letters of either case count. -/
def digitValue (c : Char) : Nat := "0123456789abcdef".toList.idxOf c.toLower

/-- The digits of a numeral, without the dollar sign. -/
def digits : Text → Text
  | '$' :: rest => rest
  | t => t

def hexLetters : Text := "abcdefABCDEF".toList

/-- A numeral is hexadecimal behind a dollar sign or with a letter among its digits. -/
def isHexadecimal (t : Text) : Bool := t.head? == some '$' || t.any hexLetters.contains

def base (t : Text) : Nat := if isHexadecimal t then 16 else 10

/-- The number that a numeral writes, as a sum over its digits. -/
def written (t : Text) : Nat := Nat.ofDigits (base t) ((digits t).map digitValue).reverse

theorem isHexDigit_class {c : Char} (h : Numeral.isHexDigit c = true) :
    Numeral.hexValue? c = some (digitValue c) ∧ (c.isDigit = true ↔ c ∉ hexLetters) := by
  have hascii := (Operand.isHexDigit_ascii h).1
  revert h
  exact Text.forall_ascii (P := fun c => Numeral.isHexDigit c = true →
    Numeral.hexValue? c = some (digitValue c) ∧ (c.isDigit = true ↔ c ∉ hexLetters))
    (by decide) hascii

section

variable {t : Text} (h : Numeral.isHex t = true)

include h

theorem read_eq_ofDigits (b : Nat) :
    Numeral.read b t = Nat.ofDigits b (t.map digitValue).reverse := by
  have hvalues : (t.map fun c => (Numeral.hexValue? c).getD 0) = t.map digitValue := by
    apply List.map_congr_left
    intro c hc
    rw [(isHexDigit_class (Operand.isHexDigit_of_mem h c hc)).1]
    rfl
  rw [Numeral.read, Numeral.ofDigits_eq, hvalues]

theorem head?_ne_dollar : t.head? ≠ some '$' := by
  intro hhead
  have hdollar := Operand.isHexDigit_of_mem h '$' (List.mem_of_mem_head? hhead)
  exact absurd hdollar (by decide)

theorem isDecimal_eq_not_isHexadecimal : Numeral.isDecimal t = !isHexadecimal t := by
  have hdollar : (t.head? == some '$') = false := beq_eq_false_iff_ne.mpr (head?_ne_dollar h)
  have hletters : Numeral.isDecimal t = true ↔ ∀ c ∈ t, c ∉ hexLetters := by
    have hdigits := Operand.isHexDigit_of_mem h
    simp only [Numeral.isHex, Bool.and_eq_true] at h
    simp only [Numeral.isDecimal, h.1, Bool.true_and, List.all_eq_true]
    exact forall₂_congr fun c hc => (isHexDigit_class (hdigits c hc)).2
  rw [isHexadecimal, hdollar, Bool.false_or, Bool.eq_iff_iff, hletters]
  simp

theorem base_of_isHex : base t = if Numeral.isDecimal t then 10 else 16 := by
  rw [isDecimal_eq_not_isHexadecimal h, base]
  cases isHexadecimal t <;> rfl

theorem digits_of_isHex : digits t = t := by
  unfold digits
  split
  · exact absurd rfl (head?_ne_dollar h)
  · rfl

end

theorem isHex_of_isDecimal {t : Text} (h : Numeral.isDecimal t = true) :
    Numeral.isHex t = true := by
  have hdigit : ∀ c : Char, c.isDigit = true → Numeral.isHexDigit c = true := by
    intro c hc
    rw [Operand.isHexDigit_iff]
    simp only [Char.isDigit, Bool.and_eq_true, decide_eq_true_eq] at hc
    exact Or.inl hc
  simp only [Numeral.isDecimal, Numeral.isHex, Bool.and_eq_true, List.all_eq_true] at h ⊢
  exact ⟨h.1, fun c hc => hdigit c (h.2 c hc)⟩

/-- A numeral has the value that it writes. -/
theorem value?_of_isImmediateText {t : Text} (h : Operand.isImmediateText t = true) :
    value? t = some (written t) := by
  unfold Operand.isImmediateText at h
  split at h
  · rename_i rest
    rw [Operand.value?_dollar h, read_eq_ofDigits h]
    rfl
  · rw [Operand.value?_of_isHex h, read_eq_ofDigits h, written, base_of_isHex h, digits_of_isHex h]

/-- No other text has a value. -/
theorem isImmediateText_of_value? {t : Text} {value : Nat} (h : value? t = some value) :
    Operand.isImmediateText t = true := by
  rw [Operand.isImmediateText_iff]
  unfold value? at h
  split at h
  · rename_i rest
    split at h
    · rename_i hhex
      exact Or.inr ⟨rest, rfl, (Operand.isHex_iff_isHexNumeral rest).mp hhex⟩
    · cases h
  · refine Or.inl ((Operand.isHex_iff_isHexNumeral t).mp ?_)
    split at h
    · rename_i hdecimal
      exact isHex_of_isDecimal hdecimal
    · split at h
      · assumption
      · cases h

end Immediate

namespace Operand

/-- An operand that is a numeral: an immediate, or the name of a constant register. -/
def IsNumeral (t : Text) : Prop :=
  Kind.ofText? t = some .immediate ∨ ∃ i, t = (Register.constant i).name

theorem isImmediateText_iff_isNumeral {t : Text} (ht : Text.Trimmed t) :
    isImmediateText t = true ↔ IsNumeral t := by
  have hnames : ∀ i, isImmediateText (Register.constant i).name = true := by decide
  rw [IsNumeral, ofText?_eq_immediate_iff ht, IsImmediate, ← isImmediateText_iff]
  constructor
  · intro h
    by_cases hname : ∃ i, t = (Register.constant i).name
    · exact Or.inr hname
    · exact Or.inl ⟨h, not_exists.mp hname⟩
  · rintro (⟨h, _⟩ | ⟨i, rfl⟩)
    · exact h
    · exact hnames i

theorem describe_immediate {t : Text} (h : Kind.ofText? t = some .immediate) :
    ∃ value, Immediate.parse t = .ok value ∧ describe t =
      .ok (some s!"Immediate value `{String.ofList (Text.lower t)}` ({value})") := by
  obtain ⟨value, hvalue, hlower⟩ := parse_lower (Kind.hasShape_of_ofText? h)
  refine ⟨value, hvalue, ?_⟩
  simp only [describe, h, describeAs, hlower]
  rfl

end Operand

/-- A text without blanks around it can be read as an immediate exactly if it is an operand of this
kind or the name of a constant register, and it has the value that its digits write; blanks around
it change nothing. Hence every text can be described, and the description of an immediate shows the
value of its text. -/
theorem immediate_agrees_with_kind :
    (∀ t before after, Text.Trimmed t → Text.AllBlank before → Text.AllBlank after →
      (Operand.IsNumeral t → Immediate.parse (before ++ (t ++ after)) = .ok (Immediate.written t)) ∧
      (¬ Operand.IsNumeral t → Immediate.parse (before ++ (t ++ after)) =
        .error (.notImmediate (before ++ (t ++ after))))) ∧
    (∀ t, ∃ text?, Operand.describe t = .ok text?) ∧
    ∀ t, Operand.Kind.ofText? t = some .immediate →
      ∃ value, Immediate.parse t = .ok value ∧ Operand.describe t =
        .ok (some s!"Immediate value `{String.ofList (Text.lower t)}` ({value})") := by
  refine ⟨?_, Documentation.describe_ok, fun t h => Operand.describe_immediate h⟩
  intro t before after ht hbefore hafter
  rw [Immediate.parse, Text.trim_padded ht hbefore hafter, ← Operand.isImmediateText_iff_isNumeral ht]
  constructor
  · intro h
    rw [Immediate.value?_of_isImmediateText h]
  · intro h
    cases hvalue : Immediate.value? t with
    | none => rfl
    | some value => exact absurd (Immediate.isImmediateText_of_value? hvalue) h

/-- Capital digits between blanks, of a numeral that is described in lower case. -/
theorem immediate_agrees_with_kind_capital :
    Operand.Kind.ofText? "1F".toList = some .immediate ∧
      Immediate.parse "\t1F ".toList = .ok 31 ∧
      Operand.describe "1F".toList = .ok (some "Immediate value `1f` (31)") := by
  obtain ⟨hparse, _, hdescribe⟩ := immediate_agrees_with_kind
  have hkind : Operand.Kind.ofText? "1F".toList = some .immediate := by decide
  have htrim : Text.trim "1F".toList = "1F".toList := by decide
  have htrimmed : Text.Trimmed "1F".toList := by
    rw [← htrim]
    exact Text.trim_trimmed _
  have hblank : ∀ s : Text, Text.isBlankText s = true → Text.AllBlank s :=
    fun s => (Text.isBlankText_iff s).mp
  have hwritten : Immediate.written "1F".toList = 31 := by decide
  have hpadded := (hparse _ ['\t'] [' '] htrimmed (hblank _ rfl) (hblank _ rfl)).1 (Or.inl hkind)
  have halone := (hparse _ [] [] htrimmed (hblank _ rfl) (hblank _ rfl)).1 (Or.inl hkind)
  rw [hwritten] at hpadded halone
  obtain ⟨value, hvalue, htext⟩ := hdescribe _ hkind
  obtain rfl : value = 31 := Except.ok.inj (hvalue.symm.trans halone)
  exact ⟨hkind, hpadded, htext⟩

end AsmCheck
