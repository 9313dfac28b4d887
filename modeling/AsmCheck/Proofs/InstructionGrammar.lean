import AsmCheck.Proofs.OperandGrammar
import AsmCheck.Proofs.StatementSpans
import AsmCheck.Proofs.Tokens

/-!
# The grammar of instructions

A grammar for all instructions but moves, written over the tokens of a line, and the theorem that
the lines without a report are the sentences of this grammar. Each rule is compared with the
productions of its form; the order in which a rule makes its checks decides which problem it names,
but not whether it names one.
-/

namespace AsmCheck

set_option autoImplicit false

open Operand (Names IsLabel IsImmediate)

/-- What can be set and jumped to. -/
def IsValue (t : Text) : Prop := IsLabel t ∨ IsImmediate t

/-- The registers that can be written: those that are not constant. -/
def Register.IsGeneral (register : Register) : Prop := ∀ index, register ≠ .constant index

/-- The mnemonics of set instructions with their numbers of values. -/
def setVariants : List (Text × Nat) :=
  [(['s', 'e', 't'], 1), (['s', 'e', 't', '1'], 1), (['s', 'e', 't', '2'], 2),
   (['s', 'e', 't', '3'], 3), (['s', 'e', 't', '4'], 4)]

/-- The productions of the grammar. Moves have none here. -/
inductive Production where
  | bare
  | sleep
  | wordSelect
  | math
  | shift
  | unaryBitwise
  | binaryBitwise
  | special
  | swizzle
  | set
  | jump
  | conditionalJump

/-- The families whose instructions a production writes. -/
def Production.families : Production → List Family
  | .bare => [.nop, .halt, .skip]
  | .sleep => [.sleep]
  | .wordSelect => Family.wordSelects
  | .math => Family.mathOperations
  | .shift => Family.shifts
  | .unaryBitwise => Family.unaryBitwise
  | .binaryBitwise => Family.binaryBitwise
  | .special => Family.specials
  | .swizzle => [.swizzle]
  | .set => [.set]
  | .jump => [.jump]
  | .conditionalJump => Family.conditionalJumps

/-- The sizes and operands that each production allows. Those of set instructions depend on the
mnemonic. -/
inductive Sentence (mnemonic : Text) : Production → Option Text → List Text → Prop where
  | bare : Sentence mnemonic .bare none []
  | sleepNumber {op : Text} : IsImmediate op → Sentence mnemonic .sleep none [op]
  | sleepRegister {size op words : Text} {register : Register} :
      Text.lower size ∈ [['.', 'w'], ['.', 'h'], ['.', 'l']] → Names register words op →
      Sentence mnemonic .sleep (some size) [op]
  | wordSelect {dst src words : Text} {d r : Register} :
      d.IsGeneral → Names d [] dst → Names r words src → words.length ≤ 1 →
      Sentence mnemonic .wordSelect none [dst, src]
  | math {size? : Option Text} {dst lhs rhs : Text} {d l r : Register} :
      (∀ size ∈ size?, Text.lower size ∈ [['.', 'b'], ['.', 'w']]) →
      d.IsGeneral → Names d [] dst → Names l [] lhs → Names r [] rhs → d = l ∨ d = r →
      Sentence mnemonic .math size? [dst, lhs, rhs]
  | shift {size dst src words : Text} {d : Register} :
      Text.lower size ∈ [['.', 'b'], ['.', 'w']] → d.IsGeneral → Names d words dst →
      (∃ register words, Names register words src) ∨ IsImmediate src →
      Sentence mnemonic .shift (some size) [dst, src]
  | unaryBitwise {op : Text} : Sentence mnemonic .unaryBitwise none [op]
  | binaryBitwise {first second : Text} : Sentence mnemonic .binaryBitwise none [first, second]
  | special {dst src : Text} {d r : Register} :
      d.IsGeneral → Names d [] dst → Names r [] src →
      Sentence mnemonic .special none [dst, src]
  | swizzle {op words : Text} {d : Register} :
      d.IsGeneral → Names d words op → words.length = 4 →
      Sentence mnemonic .swizzle none [op]
  | set {dst words : Text} {values : List Text} {d : Register} :
      (mnemonic, values.length) ∈ setVariants → d.IsGeneral → Names d words dst →
      (∀ value ∈ values, IsValue value) →
      Sentence mnemonic .set none (dst :: values)
  | jump {op : Text} : IsValue op → Sentence mnemonic .jump none [op]
  | conditionalJump {src dst words : Text} {register : Register} :
      Names register words src → IsValue dst →
      Sentence mnemonic .conditionalJump none [src, dst]

/-- The tokens of a line are a sentence of a family: one of the productions of the family writes
them. -/
def Tokens.IsSentence (tokens : Tokens) (family : Family) : Prop :=
  ∃ production : Production, family ∈ production.families ∧
    Sentence tokens.mnemonic production tokens.size? tokens.operands

theorem Register.isWritable_iff (register : Register) :
    register.isWritable = true ↔ register.IsGeneral := by
  cases register <;> simp [isWritable, IsGeneral]

theorem Register.name_injective {a b : Register} (h : a.name = b.name) : a = b := by
  have hname := ofName?_name a
  rw [h, ofName?_name] at hname
  exact (Option.some.inj hname).symm

section

variable {ops : List Span} {a b c : Text}

theorem exists_of_map_single (h : ops.map Span.text = [a]) : ∃ x, ops = [x] ∧ x.text = a :=
  List.map_eq_singleton_iff.mp h

theorem exists_of_map_pair (h : ops.map Span.text = [a, b]) :
    ∃ x y, ops = [x, y] ∧ x.text = a ∧ y.text = b := by
  obtain ⟨x, rest, rfl, hx, hrest⟩ := List.map_eq_cons_iff.mp h
  obtain ⟨y, rfl, hy⟩ := exists_of_map_single hrest
  exact ⟨x, y, rfl, hx, hy⟩

theorem exists_of_map_triple (h : ops.map Span.text = [a, b, c]) :
    ∃ x y z, ops = [x, y, z] ∧ x.text = a ∧ y.text = b ∧ z.text = c := by
  obtain ⟨x, rest, rfl, hx, hrest⟩ := List.map_eq_cons_iff.mp h
  obtain ⟨y, z, rfl, hy, hz⟩ := exists_of_map_pair hrest
  exact ⟨x, y, z, rfl, hx, hy, hz⟩

end

namespace Rules

section

variable {dst src lhs rhs : Span}

theorem isKind_register_iff_isGeneral (hdst : Text.Trimmed dst.text) :
    isKind .register dst = true ↔ ∃ d words, d.IsGeneral ∧ Names d words dst.text := by
  simp only [isKind_register_iff hdst, Register.isWritable_iff]

theorem wordSelectOperands_iff (hdst : Text.Trimmed dst.text) (hsrc : Text.Trimmed src.text) :
    wordSelectOperands dst src = none ↔ ∃ d r words, d.IsGeneral ∧ Names d [] dst.text ∧
      Names r words src.text ∧ words.length ≤ 1 := by
  rw [wordSelectOperands_eq_none_iff, isKind_register_iff_isGeneral hdst, isSource_iff_names hsrc]
  constructor
  · rintro ⟨⟨d, selected, hd, hdst⟩, ⟨r, words, hsrc⟩, hnone, hsingle⟩
    obtain rfl := hdst.swizzle?_eq_none_iff.mp hnone
    refine ⟨d, r, words, hd, hdst, hsrc, ?_⟩
    by_cases hwords : words = []
    · simp [hwords]
    · exact (hsingle words ((hsrc.swizzle?_eq_some_iff words).mpr ⟨rfl, hwords⟩)).1.le
  · rintro ⟨d, r, words, hd, hdst, hsrc, hlength⟩
    refine ⟨⟨d, [], hd, hdst⟩, ⟨r, words, hsrc⟩, hdst.swizzle?_eq_none_iff.mpr rfl, ?_⟩
    intro found hfound
    obtain ⟨rfl, hwords⟩ := (hsrc.swizzle?_eq_some_iff found).mp hfound
    have hpos := List.length_pos_iff.mpr hwords
    exact ⟨by omega, hsrc.letters⟩

theorem mathOperands_iff (hdst : Text.Trimmed dst.text) (hlhs : Text.Trimmed lhs.text)
    (hrhs : Text.Trimmed rhs.text) :
    mathOperands dst lhs rhs = none ↔ ∃ d l r, d.IsGeneral ∧ Names d [] dst.text ∧
      Names l [] lhs.text ∧ Names r [] rhs.text ∧ (d = l ∨ d = r) := by
  rw [mathOperands_eq_none_iff, isKind_register_iff_isGeneral hdst, isSource_iff_names hlhs,
    isSource_iff_names hrhs]
  constructor
  · rintro ⟨⟨d, words, hd, hdst⟩, ⟨l, words', hlhs⟩, ⟨r, words'', hrhs⟩, hd', hl', hr', hkeys⟩
    obtain rfl := hdst.swizzle?_eq_none_iff.mp hd'
    obtain rfl := hlhs.swizzle?_eq_none_iff.mp hl'
    obtain rfl := hrhs.swizzle?_eq_none_iff.mp hr'
    refine ⟨d, l, r, hd, hdst, hlhs, hrhs, ?_⟩
    -- The rule compares the first words of the texts, which are the names of the registers.
    rw [hdst.key?_eq, hlhs.key?_eq, hrhs.key?_eq] at hkeys
    exact hkeys.imp (fun h => Register.name_injective (Option.some.inj h))
      fun h => Register.name_injective (Option.some.inj h)
  · rintro ⟨d, l, r, hd, hdst, hlhs, hrhs, hsame⟩
    refine ⟨⟨d, [], hd, hdst⟩, ⟨l, [], hlhs⟩, ⟨r, [], hrhs⟩, hdst.swizzle?_eq_none_iff.mpr rfl,
      hlhs.swizzle?_eq_none_iff.mpr rfl, hrhs.swizzle?_eq_none_iff.mpr rfl, ?_⟩
    rw [hdst.key?_eq, hlhs.key?_eq, hrhs.key?_eq]
    exact hsame.imp (congrArg fun register => some (Register.name register))
      (congrArg fun register => some (Register.name register))

theorem shiftOperands_iff (hdst : Text.Trimmed dst.text) (hsrc : Text.Trimmed src.text) :
    shiftOperands dst src = none ↔ (∃ d words, d.IsGeneral ∧ Names d words dst.text) ∧
      ((∃ r words, Names r words src.text) ∨ IsImmediate src.text) := by
  rw [shiftOperands_eq_none_iff, isKind_register_iff_isGeneral hdst, isSource_iff_names hsrc,
    isKind_immediate_iff hsrc]

theorem specialOperands_iff (hdst : Text.Trimmed dst.text) (hsrc : Text.Trimmed src.text) :
    specialOperands dst src = none ↔
      ∃ d r, d.IsGeneral ∧ Names d [] dst.text ∧ Names r [] src.text := by
  rw [specialOperands_eq_none_iff, isKind_register_iff_isGeneral hdst, isSource_iff_names hsrc]
  constructor
  · rintro ⟨⟨d, words, hd, hdst⟩, ⟨r, words', hsrc⟩, hd', hr'⟩
    obtain rfl := hdst.swizzle?_eq_none_iff.mp hd'
    obtain rfl := hsrc.swizzle?_eq_none_iff.mp hr'
    exact ⟨d, r, hd, hdst, hsrc⟩
  · rintro ⟨d, r, hd, hdst, hsrc⟩
    exact ⟨⟨d, [], hd, hdst⟩, ⟨r, [], hsrc⟩, hdst.swizzle?_eq_none_iff.mpr rfl,
      hsrc.swizzle?_eq_none_iff.mpr rfl⟩

theorem swizzleOperand_iff (hdst : Text.Trimmed dst.text) :
    swizzleOperand dst = none ↔
      ∃ d words, d.IsGeneral ∧ Names d words dst.text ∧ words.length = 4 := by
  rw [swizzleOperand_eq_none_iff, isKind_register_iff_isGeneral hdst]
  constructor
  · rintro ⟨⟨d, words, hd, hdst⟩, found, hfound, hlength, _⟩
    obtain ⟨rfl, _⟩ := (hdst.swizzle?_eq_some_iff found).mp hfound
    exact ⟨d, found, hd, hdst, hlength⟩
  · rintro ⟨d, words, hd, hdst, hlength⟩
    have hwords : words ≠ [] := by
      rintro rfl
      cases hlength
    exact ⟨⟨d, words, hd, hdst⟩, words, (hdst.swizzle?_eq_some_iff words).mpr ⟨rfl, hwords⟩,
      hlength, hdst.letters⟩

end

section

variable {s : Statement} {mnemonic : Text}

/-- The texts of the size and of the operands of a statement make a sentence. -/
def IsSentence (mnemonic : Text) (production : Production) (s : Statement) : Prop :=
  ∃ size? ops, Sentence mnemonic production size? ops ∧
    s.size?.map Span.text = size? ∧ s.operands.map Span.text = ops

theorem isSentence_of_texts {production : Production} {size? : Option Span} {ops : List Span}
    (hsize : s.size? = size?) (hoperands : s.operands = ops)
    (h : Sentence mnemonic production (size?.map Span.text) (ops.map Span.text)) :
    IsSentence mnemonic production s := by
  subst hsize hoperands
  exact ⟨_, _, h, rfl, rfl⟩

theorem bare_iff : s.size? = none ∧ s.operands = [] ↔ IsSentence mnemonic .bare s := by
  constructor
  · rintro ⟨hsize, hoperands⟩
    exact isSentence_of_texts hsize hoperands .bare
  · rintro ⟨_, _, h, hsize, hmap⟩
    cases h
    exact ⟨Option.map_eq_none_iff.mp hsize, List.map_eq_nil_iff.mp hmap⟩

theorem unaryBitwise_iff (hunary : (Family.ofToken? s.instruction.text).any Family.isUnary = true) :
    bitwise s = none ↔ IsSentence mnemonic .unaryBitwise s := by
  rw [bitwise_eq_none_iff, hunary, if_pos rfl]
  constructor
  · rintro ⟨hsize, hcount⟩
    obtain ⟨op, hoperands⟩ := List.length_eq_one_iff.mp hcount
    exact isSentence_of_texts hsize hoperands .unaryBitwise
  · rintro ⟨_, _, h, hsize, hmap⟩
    cases h
    obtain ⟨op, hoperands, _⟩ := exists_of_map_single hmap
    exact ⟨Option.map_eq_none_iff.mp hsize, by rw [hoperands]; rfl⟩

theorem binaryBitwise_iff
    (hunary : (Family.ofToken? s.instruction.text).any Family.isUnary = false) :
    bitwise s = none ↔ IsSentence mnemonic .binaryBitwise s := by
  rw [bitwise_eq_none_iff, hunary, if_neg Bool.false_ne_true]
  constructor
  · rintro ⟨hsize, hcount⟩
    obtain ⟨first, second, hoperands⟩ := List.length_eq_two.mp hcount
    exact isSentence_of_texts hsize hoperands .binaryBitwise
  · rintro ⟨_, _, h, hsize, hmap⟩
    cases h
    obtain ⟨first, second, hoperands, _⟩ := exists_of_map_pair hmap
    exact ⟨Option.map_eq_none_iff.mp hsize, by rw [hoperands]; rfl⟩

/-- A set instruction takes one operand more than it sets values. -/
theorem setOperandCount_iff {values : Nat}
    (h : ∃ name ∈ Family.set.aliases, name.toList = mnemonic) :
    values + 1 = setOperandCount mnemonic ↔ (mnemonic, values) ∈ setVariants := by
  have haliases : ∀ name ∈ Family.set.aliases,
      (name.toList, setOperandCount name.toList - 1) ∈ setVariants := by decide
  have hvariants : ∀ variant ∈ setVariants, variant.2 + 1 = setOperandCount variant.1 := by decide
  obtain ⟨name, hname, rfl⟩ := h
  constructor
  · intro hcount
    have hvariant := haliases name hname
    rwa [← hcount, Nat.add_sub_cancel] at hvariant
  · intro hvariant
    exact hvariants _ hvariant

variable (ht : ∀ op ∈ s.operands, Text.Trimmed op.text)

include ht

theorem sleep_iff : sleep s = none ↔ IsSentence mnemonic .sleep s := by
  rw [sleep_eq_none_iff]
  constructor
  · rintro ⟨hsizes, op, hoperands, hvalid⟩
    have hop := ht op (by simp [hoperands])
    rw [sleepDuration_eq_none_iff] at hvalid
    cases hsize : s.size? with
    | none =>
      rw [hsize] at hvalid
      apply isSentence_of_texts hsize hoperands
      exact .sleepNumber ((isKind_immediate_iff hop).mp hvalid)
    | some size =>
      rw [hsize] at hvalid
      obtain ⟨register, words, hnames⟩ := (isSource_iff_names hop).mp hvalid
      apply isSentence_of_texts hsize hoperands
      exact .sleepRegister (List.contains_iff_mem.mp (hsizes size hsize)) hnames
  · rintro ⟨_, _, h, htext, hmap⟩
    cases h with
    | sleepNumber hnumber =>
      obtain ⟨op, hoperands, rfl⟩ := exists_of_map_single hmap
      have hsize := Option.map_eq_none_iff.mp htext
      refine ⟨by simp [hsize], op, hoperands, ?_⟩
      rw [sleepDuration_eq_none_iff, hsize]
      exact (isKind_immediate_iff (ht op (by simp [hoperands]))).mpr hnumber
    | sleepRegister hsizes hnames =>
      obtain ⟨op, hoperands, rfl⟩ := exists_of_map_single hmap
      obtain ⟨size, hsize, rfl⟩ := Option.map_eq_some_iff.mp htext
      refine ⟨?_, op, hoperands, ?_⟩
      · intro other hother
        obtain rfl : size = other := Option.some.inj (hsize.symm.trans hother)
        exact List.contains_iff_mem.mpr hsizes
      · rw [sleepDuration_eq_none_iff, hsize]
        exact (isSource_iff_names (ht op (by simp [hoperands]))).mpr ⟨_, _, hnames⟩

theorem wordSelect_iff : wordSelect s = none ↔ IsSentence mnemonic .wordSelect s := by
  rw [wordSelect_eq_none_iff]
  constructor
  · rintro ⟨hsize, dst, src, hoperands, hvalid⟩
    obtain ⟨d, r, words, hd, hdst, hsrc, hlength⟩ := (wordSelectOperands_iff
      (ht dst (by simp [hoperands])) (ht src (by simp [hoperands]))).mp hvalid
    exact isSentence_of_texts hsize hoperands (.wordSelect hd hdst hsrc hlength)
  · rintro ⟨_, _, h, hsize, hmap⟩
    cases h with
    | wordSelect hd hdst hsrc hlength =>
      obtain ⟨dst, src, hoperands, rfl, rfl⟩ := exists_of_map_pair hmap
      refine ⟨Option.map_eq_none_iff.mp hsize, dst, src, hoperands, ?_⟩
      rw [wordSelectOperands_iff (ht dst (by simp [hoperands])) (ht src (by simp [hoperands]))]
      exact ⟨_, _, _, hd, hdst, hsrc, hlength⟩

theorem math_iff : math s = none ↔ IsSentence mnemonic .math s := by
  rw [math_eq_none_iff, commonSize_eq_none_iff]
  constructor
  · rintro ⟨⟨_, hsizes⟩, dst, lhs, rhs, hoperands, hvalid⟩
    obtain ⟨d, l, r, hd, hdst, hlhs, hrhs, hsame⟩ := (mathOperands_iff
      (ht dst (by simp [hoperands])) (ht lhs (by simp [hoperands]))
      (ht rhs (by simp [hoperands]))).mp hvalid
    refine isSentence_of_texts rfl hoperands (.math ?_ hd hdst hlhs hrhs hsame)
    intro text htext
    obtain ⟨size, hsize, rfl⟩ := Option.map_eq_some_iff.mp htext
    exact List.contains_iff_mem.mp (hsizes size hsize)
  · rintro ⟨_, _, h, rfl, hmap⟩
    cases h with
    | math hsizes hd hdst hlhs hrhs hsame =>
      obtain ⟨dst, lhs, rhs, hoperands, rfl, rfl, rfl⟩ := exists_of_map_triple hmap
      refine ⟨⟨nofun, ?_⟩, dst, lhs, rhs, hoperands, ?_⟩
      · intro size hsize
        apply List.contains_iff_mem.mpr
        exact hsizes size.text (Option.map_eq_some_iff.mpr ⟨size, hsize, rfl⟩)
      · rw [mathOperands_iff (ht dst (by simp [hoperands])) (ht lhs (by simp [hoperands]))
          (ht rhs (by simp [hoperands]))]
        exact ⟨_, _, _, hd, hdst, hlhs, hrhs, hsame⟩

theorem shift_iff : shift s = none ↔ IsSentence mnemonic .shift s := by
  rw [shift_eq_none_iff, commonSize_eq_none_iff]
  constructor
  · rintro ⟨⟨hrequired, hsizes⟩, dst, src, hoperands, hvalid⟩
    obtain ⟨⟨d, words, hd, hdst⟩, hsrc⟩ := (shiftOperands_iff
      (ht dst (by simp [hoperands])) (ht src (by simp [hoperands]))).mp hvalid
    obtain ⟨size, hsize⟩ := Option.ne_none_iff_exists'.mp (hrequired rfl)
    apply isSentence_of_texts hsize hoperands
    exact .shift (List.contains_iff_mem.mp (hsizes size hsize)) hd hdst hsrc
  · rintro ⟨_, _, h, htext, hmap⟩
    cases h with
    | shift hsizes hd hdst hsrc =>
      obtain ⟨dst, src, hoperands, rfl, rfl⟩ := exists_of_map_pair hmap
      obtain ⟨size, hsize, rfl⟩ := Option.map_eq_some_iff.mp htext
      refine ⟨⟨by simp [hsize], ?_⟩, dst, src, hoperands, ?_⟩
      · intro other hother
        obtain rfl : size = other := Option.some.inj (hsize.symm.trans hother)
        exact List.contains_iff_mem.mpr hsizes
      · rw [shiftOperands_iff (ht dst (by simp [hoperands])) (ht src (by simp [hoperands]))]
        exact ⟨⟨_, _, hd, hdst⟩, hsrc⟩

theorem special_iff : special s = none ↔ IsSentence mnemonic .special s := by
  rw [special_eq_none_iff]
  constructor
  · rintro ⟨hsize, dst, src, hoperands, hvalid⟩
    obtain ⟨d, r, hd, hdst, hsrc⟩ := (specialOperands_iff
      (ht dst (by simp [hoperands])) (ht src (by simp [hoperands]))).mp hvalid
    exact isSentence_of_texts hsize hoperands (.special hd hdst hsrc)
  · rintro ⟨_, _, h, hsize, hmap⟩
    cases h with
    | special hd hdst hsrc =>
      obtain ⟨dst, src, hoperands, rfl, rfl⟩ := exists_of_map_pair hmap
      refine ⟨Option.map_eq_none_iff.mp hsize, dst, src, hoperands, ?_⟩
      rw [specialOperands_iff (ht dst (by simp [hoperands])) (ht src (by simp [hoperands]))]
      exact ⟨_, _, hd, hdst, hsrc⟩

theorem swizzle_iff : swizzle s = none ↔ IsSentence mnemonic .swizzle s := by
  rw [swizzle_eq_none_iff]
  constructor
  · rintro ⟨hsize, op, hoperands, hvalid⟩
    obtain ⟨d, words, hd, hop, hlength⟩ :=
      (swizzleOperand_iff (ht op (by simp [hoperands]))).mp hvalid
    exact isSentence_of_texts hsize hoperands (.swizzle hd hop hlength)
  · rintro ⟨_, _, h, hsize, hmap⟩
    cases h with
    | swizzle hd hop hlength =>
      obtain ⟨op, hoperands, rfl⟩ := exists_of_map_single hmap
      refine ⟨Option.map_eq_none_iff.mp hsize, op, hoperands, ?_⟩
      rw [swizzleOperand_iff (ht op (by simp [hoperands]))]
      exact ⟨_, _, hd, hop, hlength⟩

theorem jump_iff : jump s = none ↔ IsSentence mnemonic .jump s := by
  rw [jump_eq_none_iff]
  constructor
  · rintro ⟨hsize, op, hoperands, hvalid⟩
    apply isSentence_of_texts hsize hoperands
    exact .jump ((isTarget_iff_label_or_immediate (ht op (by simp [hoperands]))).mp hvalid)
  · rintro ⟨_, _, h, hsize, hmap⟩
    cases h with
    | jump hvalue =>
      obtain ⟨op, hoperands, rfl⟩ := exists_of_map_single hmap
      refine ⟨Option.map_eq_none_iff.mp hsize, op, hoperands, ?_⟩
      exact (isTarget_iff_label_or_immediate (ht op (by simp [hoperands]))).mpr hvalue

theorem conditionalJump_iff :
    conditionalJump s = none ↔ IsSentence mnemonic .conditionalJump s := by
  rw [conditionalJump_eq_none_iff]
  constructor
  · rintro ⟨hsize, src, dst, hoperands, hsource, htarget⟩
    obtain ⟨register, words, hsrc⟩ :=
      (isSource_iff_names (ht src (by simp [hoperands]))).mp hsource
    apply isSentence_of_texts hsize hoperands
    exact .conditionalJump hsrc
      ((isTarget_iff_label_or_immediate (ht dst (by simp [hoperands]))).mp htarget)
  · rintro ⟨_, _, h, hsize, hmap⟩
    cases h with
    | conditionalJump hsrc hdst =>
      obtain ⟨src, dst, hoperands, rfl, rfl⟩ := exists_of_map_pair hmap
      refine ⟨Option.map_eq_none_iff.mp hsize, src, dst, hoperands, ?_, ?_⟩
      · exact (isSource_iff_names (ht src (by simp [hoperands]))).mpr ⟨_, _, hsrc⟩
      · exact (isTarget_iff_label_or_immediate (ht dst (by simp [hoperands]))).mpr hdst

theorem set_iff (hmnemonic : Family.mnemonic s.instruction.text = mnemonic)
    (halias : ∃ name ∈ Family.set.aliases, name.toList = mnemonic) :
    set s = none ↔ IsSentence mnemonic .set s := by
  rw [set_eq_none_iff, hmnemonic]
  constructor
  · rintro ⟨hsize, hcount, hvalid⟩
    cases hoperands : s.operands with
    | nil =>
      have hpos := setOperandCount_pos mnemonic
      rw [hoperands, List.length_nil] at hcount
      omega
    | cons dst values =>
      rw [hoperands] at hcount hvalid
      obtain ⟨hdst, hvalues⟩ := (setOperands_cons_eq_none_iff dst values).mp hvalid
      obtain ⟨d, words, hd, hnames⟩ :=
        (isKind_register_iff_isGeneral (ht dst (by simp [hoperands]))).mp hdst
      refine isSentence_of_texts hsize hoperands (.set ?_ hd hnames ?_)
      · rw [List.length_map]
        exact (setOperandCount_iff halias).mp hcount
      · intro text htext
        obtain ⟨value, hvalue, rfl⟩ := List.mem_map.mp htext
        have htrimmed := ht value (by simp [hoperands, hvalue])
        exact (isTarget_iff_label_or_immediate htrimmed).mp (hvalues value hvalue)
  · rintro ⟨_, _, h, hsize, hmap⟩
    cases h with
    | set hcount hd hnames hvalues =>
      obtain ⟨dst, values, hoperands, rfl, rfl⟩ := List.map_eq_cons_iff.mp hmap
      rw [List.length_map] at hcount
      rw [hoperands, setOperands_cons_eq_none_iff]
      refine ⟨Option.map_eq_none_iff.mp hsize, (setOperandCount_iff halias).mpr hcount, ?_, ?_⟩
      · exact (isKind_register_iff_isGeneral (ht dst (by simp [hoperands]))).mpr ⟨_, _, hd, hnames⟩
      · intro value hvalue
        have htrimmed := ht value (by simp [hoperands, hvalue])
        exact (isTarget_iff_label_or_immediate htrimmed).mpr
          (hvalues value.text (List.mem_map_of_mem hvalue))

end

end Rules

theorem Family.exists_alias {token : Text} {family : Family} (h : ofToken? token = some family) :
    ∃ name ∈ family.aliases, name.toList = mnemonic token := by
  have hany : family.aliases.any (fun name => name.toList == mnemonic token) = true :=
    List.find?_some (p := fun family : Family =>
      family.aliases.any fun name => name.toList == mnemonic token) h
  obtain ⟨name, hname, heq⟩ := List.any_eq_true.mp hany
  exact ⟨name, hname, beq_iff_eq.mp heq⟩

theorem Production.exists_mem_families {family : Family} (h : family ≠ .move) :
    ∃ production : Production, family ∈ production.families := by
  have hmem := (family.form_eq_iff family.form).mp rfl
  cases hform : family.form <;> rw [hform] at hmem
  case nop | halt | skip =>
    rw [List.mem_singleton.mp hmem]
    exact ⟨.bare, by decide⟩
  case sleep => exact ⟨.sleep, hmem⟩
  case move => exact absurd (List.mem_singleton.mp hmem) h
  case wordSelect => exact ⟨.wordSelect, hmem⟩
  case math => exact ⟨.math, hmem⟩
  case shift => exact ⟨.shift, hmem⟩
  case bitwise =>
    rcases List.mem_append.mp hmem with hunary | hbinary
    · exact ⟨.unaryBitwise, hunary⟩
    · exact ⟨.binaryBitwise, hbinary⟩
  case special => exact ⟨.special, hmem⟩
  case swizzle => exact ⟨.swizzle, hmem⟩
  case set => exact ⟨.set, hmem⟩
  case jump => exact ⟨.jump, hmem⟩
  case conditionalJump => exact ⟨.conditionalJump, hmem⟩

/-- The rule of a family accepts what any production of the family writes, and nothing else. -/
theorem Production.check_iff {production : Production} {family : Family} {s : Statement}
    {mnemonic : Text} (hmem : family ∈ production.families)
    (ht : ∀ op ∈ s.operands, Text.Trimmed op.text)
    (hfamily : Family.ofToken? s.instruction.text = some family)
    (hmnemonic : Family.mnemonic s.instruction.text = mnemonic) :
    family.check s = none ↔ Rules.IsSentence mnemonic production s := by
  have hform : ∀ form : Form, family ∈ form.families →
      (family.check s = none ↔ form.check s = none) := by
    intro form hmem
    rw [Family.check, (family.form_eq_iff form).mpr hmem]
  have hunary : (Family.ofToken? s.instruction.text).any Family.isUnary = family.isUnary := by
    rw [hfamily]
    rfl
  cases production with
  | bare =>
    simp only [families, List.mem_cons, List.not_mem_nil, or_false] at hmem
    rcases hmem with rfl | rfl | rfl
    · exact (Rules.nop_eq_none_iff s).trans Rules.bare_iff
    · exact (Rules.halt_eq_none_iff s).trans Rules.bare_iff
    · exact (Rules.skip_eq_none_iff s).trans Rules.bare_iff
  | sleep => exact (hform .sleep hmem).trans (Rules.sleep_iff ht)
  | wordSelect => exact (hform .wordSelect hmem).trans (Rules.wordSelect_iff ht)
  | math => exact (hform .math hmem).trans (Rules.math_iff ht)
  | shift => exact (hform .shift hmem).trans (Rules.shift_iff ht)
  | unaryBitwise =>
    rw [family.isUnary_iff.mpr hmem] at hunary
    exact (hform .bitwise (List.mem_append_left _ hmem)).trans (Rules.unaryBitwise_iff hunary)
  | binaryBitwise =>
    have hbinary : ∀ member ∈ Family.binaryBitwise, member.isUnary = false := by decide
    rw [hbinary family hmem] at hunary
    exact (hform .bitwise (List.mem_append_right _ hmem)).trans (Rules.binaryBitwise_iff hunary)
  | special => exact (hform .special hmem).trans (Rules.special_iff ht)
  | swizzle => exact (hform .swizzle hmem).trans (Rules.swizzle_iff ht)
  | set =>
    obtain rfl := List.mem_singleton.mp hmem
    exact (hform .set hmem).trans
      (Rules.set_iff ht hmnemonic (hmnemonic ▸ Family.exists_alias hfamily))
  | jump => exact (hform .jump hmem).trans (Rules.jump_iff ht)
  | conditionalJump => exact (hform .conditionalJump hmem).trans (Rules.conditionalJump_iff ht)

/-- A line with an instruction other than a move gets no report exactly if its tokens are a sentence
of the family that the instruction names. -/
theorem accepted_iff_sentence {line : Text} {s : Statement} {family : Family}
    (hs : Statement.ofLine? line = some s)
    (hfamily : Family.ofToken? s.instruction.text = some family) (hmove : family ≠ .move) :
    checkLine line = none ↔ s.tokens.IsSentence family := by
  have ht : ∀ op ∈ s.operands, Text.Trimmed op.text := by
    intro op hop
    exact Statement.trimmed_of_mem_operands hs op hop
  have hmnemonic := mnemonic_eq_tokens hs
  have hsentence : ∀ production, family ∈ Production.families production →
      (family.check s = none ↔
        Sentence s.tokens.mnemonic production s.tokens.size? s.tokens.operands) := by
    intro production hmem
    rw [Production.check_iff hmem ht hfamily hmnemonic]
    simp [Rules.IsSentence, Statement.tokens]
  rw [SourceLine.checkLine_eq hs hfamily]
  constructor
  · intro haccepted
    obtain ⟨production, hmem⟩ := Production.exists_mem_families hmove
    exact ⟨production, hmem, (hsentence production hmem).mp haccepted⟩
  · rintro ⟨production, hmem, htokens⟩
    exact (hsentence production hmem).mpr htokens

/-- A dot alone selects no words, so `r7.` is a destination; and `c0` is a register and no number,
so it is no duration without a size. -/
theorem accepted_iff_sentence_dot :
    checkLine "\tWADD r7. , c0.y ;x".toList = none ∧ checkLine "slp c0".toList ≠ none := by
  have hadd : Statement.ofLine? "\tWADD r7. , c0.y ;x".toList =
      some ⟨⟨1, 5, "WADD".toList⟩, none, [⟨6, 9, ['r', '7', '.']⟩, ⟨12, 16, ['c', '0', '.', 'y']⟩],
        some ⟨17, 19, ";x".toList⟩⟩ := by decide +kernel
  have hsleep : Statement.ofLine? "slp c0".toList =
      some ⟨⟨0, 3, "slp".toList⟩, none, [⟨4, 6, ['c', '0']⟩], none⟩ := by decide +kernel
  have haddWord : Family.ofToken? "WADD".toList = some .addWord := by decide +kernel
  have hslp : Family.ofToken? "slp".toList = some .sleep := by decide +kernel
  constructor
  · apply (accepted_iff_sentence hadd haddWord (by decide)).mpr
    refine ⟨.wordSelect, by decide, ?_⟩
    exact .wordSelect (d := .general 7) (r := .constant 0) nofun
      (.selected [] (by simp) (by decide)) (.selected ['y'] (by simp) (by decide)) (by decide)
  · intro haccepted
    obtain ⟨production, hmem, hsentence⟩ :=
      (accepted_iff_sentence hsleep hslp (by decide)).mp haccepted
    cases hsentence with
    | sleepNumber himmediate => exact himmediate.2 0 rfl
    | unaryBitwise => exact absurd hmem (by decide)
    | swizzle => exact absurd hmem (by decide)
    | set => exact absurd hmem (by decide)
    | jump => exact absurd hmem (by decide)

end AsmCheck
