import AsmCheck.Proofs.InstructionGrammar
import AsmCheck.Proofs.RuleRanges

/-!
# The grammar of moves

A move is a store into memory, a load from memory or a copy. Memory is addressed by a register in
brackets, of which all words or the first one count, and what is stored or loaded is a run of words
from the first one on. A copy takes words to the same words. Stores and loads mirror one another,
so a move stays one when its operands are exchanged.
-/

namespace AsmCheck

set_option autoImplicit false

namespace Operand

def pointerClosings : List Text := [[']'], ['+', ']']]

/-- The texts that point into memory by a register with a selection of its words. A plus sign makes
the register count up. Unlike outside of brackets, a dot is followed by at least one word. -/
inductive Points (register : Register) : Text → Text → Prop where
  | bare {closing : Text} : closing ∈ pointerClosings →
      Points register [] ('[' :: (register.name ++ closing))
  | selected {words closing : Text} : closing ∈ pointerClosings → words ≠ [] →
      (∀ c ∈ words, c ∈ ['x', 'y', 'z', 'w']) → words.length ≤ 4 →
      Points register words ('[' :: (register.name ++ '.' :: (words ++ closing)))

theorem points_iff_selects {register : Register} {words t : Text} :
    Points register words t ↔ ∃ tail, ∃ closing ∈ pointerClosings,
      t = ['['] ++ (register.name ++ (tail ++ closing)) ∧ Selects 1 tail words := by
  constructor
  · intro h
    cases h with
    | bare hclosing => exact ⟨[], _, hclosing, rfl, Or.inl ⟨rfl, rfl⟩⟩
    | selected hclosing hne hwords hmost =>
      exact ⟨_, _, hclosing, rfl, Or.inr ⟨rfl, (forall_mem_letters_iff words).mp hwords,
        List.length_pos_iff.mpr hne, hmost⟩⟩
  · rintro ⟨tail, closing, hclosing, rfl, ⟨rfl, rfl⟩ | ⟨rfl, hwords, hleast, hmost⟩⟩
    · exact .bare hclosing
    · exact .selected hclosing (List.length_pos_iff.mp hleast)
        ((forall_mem_letters_iff words).mpr hwords) hmost

theorem isBracketed_iff {closing t : Text} :
    isBracketed closing t = true ↔ ∃ (register : Register) (tail words : Text),
      t = ['['] ++ (register.name ++ (tail ++ closing)) ∧ Selects 1 tail words := by
  unfold isBracketed
  rw [Option.any_eq_true]
  constructor
  · rintro ⟨body, hbody, hregister⟩
    obtain ⟨register, tail, words, _, rfl, hselects⟩ := isRegisterText_iff.mp hregister
    refine ⟨register, tail, words, ?_, hselects⟩
    rw [Text.enclosed?_eq_some_iff.mp hbody]
    simp
  · rintro ⟨register, tail, words, rfl, hselects⟩
    refine ⟨register.name ++ tail, Text.enclosed?_eq_some_iff.mpr (by simp), ?_⟩
    exact isRegisterText_iff.mpr ⟨register, tail, words, rfl, rfl, hselects⟩

theorem exists_points_iff {t : Text} :
    (∃ register words, Points register words t) ↔
      ∃ kind : Kind, kind.isPointer = true ∧ kind.hasShape t = true := by
  constructor
  · rintro ⟨register, words, h⟩
    obtain ⟨tail, closing, hclosing, ht, hselects⟩ := points_iff_selects.mp h
    have hbracketed := isBracketed_iff.mpr ⟨register, tail, words, ht, hselects⟩
    simp only [pointerClosings, List.mem_cons, List.not_mem_nil, or_false] at hclosing
    rcases hclosing with rfl | rfl
    · exact ⟨.pointer, rfl, hbracketed⟩
    · exact ⟨.pointerIncrement, rfl, hbracketed⟩
  · rintro ⟨kind, hpointer, hshape⟩
    have hclosing : ∃ closing ∈ pointerClosings, isBracketed closing t = true := by
      cases kind with
      | pointer => exact ⟨_, by simp [pointerClosings], hshape⟩
      | pointerIncrement => exact ⟨_, by simp [pointerClosings], hshape⟩
      | register => cases hpointer
      | constant => cases hpointer
      | immediate => cases hpointer
      | label => cases hpointer
    obtain ⟨closing, hmem, hbracketed⟩ := hclosing
    obtain ⟨register, tail, words, ht, hselects⟩ := isBracketed_iff.mp hbracketed
    exact ⟨register, words, points_iff_selects.mpr ⟨tail, closing, hmem, ht, hselects⟩⟩

theorem nonEmpty?_injective {s t : Text} (h : nonEmpty? s = nonEmpty? t) : s = t := by
  unfold nonEmpty? at h
  cases s <;> cases t <;> simp_all

/-- The words that a pointer selects are found behind the bracket, and the closing does not count as
one of them. -/
theorem Points.swizzle?_eq {register : Register} {words t : Text} (h : Points register words t) :
    swizzle? t = nonEmpty? words := by
  obtain ⟨tail, closing, hclosing, rfl, hselects⟩ := points_iff_selects.mp h
  have hopening : ∀ c ∈ ['['], Text.isWordChar c = false :=
    List.forall_mem_singleton.mpr (by decide)
  have hhead : ∀ c ∈ closing.head?, Text.isWordChar c = false ∧ c ≠ '.' := by
    intro c hc
    simp only [pointerClosings, List.mem_cons, List.not_mem_nil, or_false] at hclosing
    rcases hclosing with rfl | rfl
    · obtain rfl := Option.some.inj hc
      decide
    · obtain rfl := Option.some.inj hc
      decide
  rw [swizzle?, wordParts?_enclosed register hopening hhead hselects]
  rfl

/-- A label is one word behind its colon and has no dot. -/
theorem IsLabel.swizzle?_eq {t : Text} (h : IsLabel t) : swizzle? t = none := by
  obtain ⟨name, rfl, _, hname⟩ := h
  have hdot : ∀ c ∈ name, c ≠ '.' := by
    rintro c hc rfl
    rcases hname '.' hc with hchar | hchar
    · exact absurd hchar (by decide)
    · exact absurd hchar (by decide)
  have hrest : ∀ c ∈ ((':' :: name).dropWhile (!Text.isWordChar ·)).dropWhile Text.isWordChar,
      c ≠ '.' := by
    intro c hc
    have hmem := (List.dropWhile_suffix _).subset ((List.dropWhile_suffix _).subset hc)
    rcases List.mem_cons.mp hmem with rfl | hmem
    · decide
    · exact hdot c hmem
  unfold swizzle? wordParts?
  simp only
  cases nonEmpty? _ with
  | none => rfl
  | some key =>
    simp only [Option.map_some, Option.bind_some]
    split
    · rename_i heq
      exact absurd rfl (hrest '.' (by rw [heq]; exact List.mem_cons_self))
    · rfl

/-- The operands of a move that are no pointers, with the words that they select. A label selects
none. -/
inductive Direct : Text → Text → Prop where
  | register {register : Register} {words t : Text} : Names register words t → Direct words t
  | label {t : Text} : IsLabel t → Direct [] t

theorem Direct.swizzle?_eq {words t : Text} (h : Direct words t) :
    swizzle? t = nonEmpty? words := by
  cases h with
  | register hnames => exact hnames.swizzle?_eq
  | label hlabel => exact hlabel.swizzle?_eq

end Operand

open Operand (Kind Names Points Direct IsImmediate nonEmpty? swizzle?)

/-- The pairs of operands that make a move: a store, a load or a copy. -/
inductive IsMove : Text → Text → Prop where
  | store {dst src words stored : Text} {register : Register} : Points register words dst →
      words ∈ [[], ['x'], ['x', 'y', 'z', 'w']] → Direct stored src →
      stored ∈ [[], ['x'], ['x', 'y'], ['x', 'y', 'z'], ['x', 'y', 'z', 'w']] → IsMove dst src
  | load {dst src words loaded : Text} {register : Register} : Direct loaded dst →
      loaded ∈ [[], ['x'], ['x', 'y'], ['x', 'y', 'z'], ['x', 'y', 'z', 'w']] →
      Points register words src → words ∈ [[], ['x'], ['x', 'y', 'z', 'w']] → IsMove dst src
  | copy {dst src words : Text} : Direct words dst → Direct words src → IsMove dst src

theorem IsMove.exchange {dst src : Text} (h : IsMove dst src) : IsMove src dst := by
  cases h with
  | store hdst hwords hsrc hstored => exact .load hsrc hstored hdst hwords
  | load hdst hloaded hsrc hwords => exact .store hsrc hwords hdst hloaded
  | copy hdst hsrc => exact .copy hsrc hdst

namespace Rules

section

variable {op dst src : Span}

theorem isPointer_iff (op : Span) :
    isPointer op = true ↔ ∃ kind, Kind.ofText? op.text = some kind ∧ kind.isPointer = true := by
  rw [isPointer, Option.any_eq_true]

theorem pointerOperand_iff (ht : Text.Trimmed op.text) :
    hasKind op = true ∧ isKind .immediate op = false ∧ isPointer op = true ↔
      ∃ register words, Points register words op.text := by
  rw [isPointer_iff, Operand.exists_points_iff]
  constructor
  · rintro ⟨_, _, kind, hkind, hpointer⟩
    exact ⟨kind, hpointer, Kind.hasShape_of_trimmed ht hkind⟩
  · rintro ⟨kind, hpointer, hshape⟩
    obtain ⟨found, hfound, hpointer⟩ := Kind.exists_pointer_of_hasShape ht hshape hpointer
    refine ⟨(hasKind_iff op).mpr ⟨found, hfound⟩, ?_, found, hfound, hpointer⟩
    rw [← Bool.not_eq_true, isKind_iff, hfound]
    rintro ⟨⟩
    cases hpointer

theorem directOperand_iff (ht : Text.Trimmed op.text) :
    hasKind op = true ∧ isKind .immediate op = false ∧ isPointer op = false ↔
      ∃ words, Direct words op.text := by
  have hclass : ∀ kind : Kind, kind ≠ .immediate ∧ kind.isPointer = false ↔
      kind.isSource = true ∨ kind = .label := by
    intro kind
    cases kind <;> decide
  constructor
  · rintro ⟨hkind, himmediate, hpointer⟩
    obtain ⟨kind, hkind⟩ := (hasKind_iff op).mp hkind
    simp only [isKind, isPointer, hkind, beq_eq_false_iff_ne, ne_eq, Option.some.injEq,
      Option.any_some] at himmediate hpointer
    rcases (hclass kind).mp ⟨himmediate, hpointer⟩ with hsource | rfl
    · obtain ⟨register, words, hnames⟩ :=
        (isSource_iff_names ht).mp ((isSource_iff op).mpr ⟨kind, hkind, hsource⟩)
      exact ⟨words, .register hnames⟩
    · exact ⟨[], .label ((Operand.ofText?_eq_label_iff ht).mp hkind)⟩
  · rintro ⟨words, hdirect⟩
    have hkind : ∃ kind, Kind.ofText? op.text = some kind ∧
        (kind.isSource = true ∨ kind = .label) := by
      cases hdirect with
      | register hnames =>
        obtain ⟨kind, hkind, hsource⟩ :=
          (isSource_iff op).mp ((isSource_iff_names ht).mpr ⟨_, words, hnames⟩)
        exact ⟨kind, hkind, Or.inl hsource⟩
      | label hlabel => exact ⟨_, (Operand.ofText?_eq_label_iff ht).mpr hlabel, Or.inr rfl⟩
    obtain ⟨kind, hkind, hcases⟩ := hkind
    obtain ⟨himmediate, hpointer⟩ := (hclass kind).mpr hcases
    simp [hasKind, isKind, isPointer, hkind, himmediate, hpointer]

theorem swizzledOutside_eq_false_iff {words : Text} (h : swizzle? op.text = nonEmpty? words)
    (allowed : List Text) : swizzledOutside allowed op = false ↔ words ∈ [] :: allowed := by
  rw [swizzledOutside, h, nonEmpty?]
  cases words <;> simp

theorem moveSwizzles_eq_none_iff (dst src : Span) :
    moveSwizzles dst src = none ↔
      if isPointer dst then
        swizzledOutside pointerSwizzles dst = false ∧ swizzledOutside sequentialSwizzles src = false
      else if isPointer src then
        swizzledOutside pointerSwizzles src = false ∧ swizzledOutside sequentialSwizzles dst = false
      else swizzle? dst.text = swizzle? src.text := by
  unfold moveSwizzles
  split
  · cases swizzledOutside pointerSwizzles dst <;>
      cases swizzledOutside sequentialSwizzles src <;> simp
  · split
    · cases swizzledOutside pointerSwizzles src <;>
        cases swizzledOutside sequentialSwizzles dst <;> simp
    · simp

theorem moveOperands_iff (hdst : Text.Trimmed dst.text) (hsrc : Text.Trimmed src.text) :
    moveOperands dst src = none ↔ IsMove dst.text src.text := by
  rw [moveOperands_eq_none_iff, moveSwizzles_eq_none_iff]
  constructor
  · rintro ⟨hdstKind, hsrcKind, hdstNumber, hsrcNumber, hboth, hswizzles⟩
    cases hd : isPointer dst with
    | true =>
      have hs : isPointer src = false := by simpa [hd] using hboth
      obtain ⟨register, words, hpoints⟩ := (pointerOperand_iff hdst).mp ⟨hdstKind, hdstNumber, hd⟩
      obtain ⟨stored, hdirect⟩ := (directOperand_iff hsrc).mp ⟨hsrcKind, hsrcNumber, hs⟩
      rw [if_pos hd, swizzledOutside_eq_false_iff hpoints.swizzle?_eq,
        swizzledOutside_eq_false_iff hdirect.swizzle?_eq] at hswizzles
      exact .store hpoints hswizzles.1 hdirect hswizzles.2
    | false =>
      rw [if_neg (by simp [hd])] at hswizzles
      obtain ⟨words, hdirect⟩ := (directOperand_iff hdst).mp ⟨hdstKind, hdstNumber, hd⟩
      cases hs : isPointer src with
      | true =>
        obtain ⟨register, words', hpoints⟩ :=
          (pointerOperand_iff hsrc).mp ⟨hsrcKind, hsrcNumber, hs⟩
        rw [if_pos hs, swizzledOutside_eq_false_iff hpoints.swizzle?_eq,
          swizzledOutside_eq_false_iff hdirect.swizzle?_eq] at hswizzles
        exact .load hdirect hswizzles.2 hpoints hswizzles.1
      | false =>
        obtain ⟨words', hdirect'⟩ := (directOperand_iff hsrc).mp ⟨hsrcKind, hsrcNumber, hs⟩
        rw [if_neg (by simp [hs]), hdirect.swizzle?_eq, hdirect'.swizzle?_eq] at hswizzles
        obtain rfl := Operand.nonEmpty?_injective hswizzles
        exact .copy hdirect hdirect'
  · intro h
    cases h with
    | store hpoints hwords hdirect hstored =>
      obtain ⟨hdstKind, hdstNumber, hd⟩ := (pointerOperand_iff hdst).mpr ⟨_, _, hpoints⟩
      obtain ⟨hsrcKind, hsrcNumber, hs⟩ := (directOperand_iff hsrc).mpr ⟨_, hdirect⟩
      refine ⟨hdstKind, hsrcKind, hdstNumber, hsrcNumber, by simp [hs], ?_⟩
      rw [if_pos hd, swizzledOutside_eq_false_iff hpoints.swizzle?_eq,
        swizzledOutside_eq_false_iff hdirect.swizzle?_eq]
      exact ⟨hwords, hstored⟩
    | load hdirect hloaded hpoints hwords =>
      obtain ⟨hdstKind, hdstNumber, hd⟩ := (directOperand_iff hdst).mpr ⟨_, hdirect⟩
      obtain ⟨hsrcKind, hsrcNumber, hs⟩ := (pointerOperand_iff hsrc).mpr ⟨_, _, hpoints⟩
      refine ⟨hdstKind, hsrcKind, hdstNumber, hsrcNumber, by simp [hd], ?_⟩
      rw [if_neg (by simp [hd]), if_pos hs, swizzledOutside_eq_false_iff hpoints.swizzle?_eq,
        swizzledOutside_eq_false_iff hdirect.swizzle?_eq]
      exact ⟨hwords, hloaded⟩
    | copy hdirect hdirect' =>
      obtain ⟨hdstKind, hdstNumber, hd⟩ := (directOperand_iff hdst).mpr ⟨_, hdirect⟩
      obtain ⟨hsrcKind, hsrcNumber, hs⟩ := (directOperand_iff hsrc).mpr ⟨_, hdirect'⟩
      refine ⟨hdstKind, hsrcKind, hdstNumber, hsrcNumber, by simp [hd], ?_⟩
      rw [if_neg (by simp [hd]), if_neg (by simp [hs]), hdirect.swizzle?_eq,
        hdirect'.swizzle?_eq]

end

/-- Numbers are refused as they are found, before the operands are looked at more closely. -/
theorem not_isImmediate_of_move {s : Statement} (ht : ∀ op ∈ s.operands, Text.Trimmed op.text)
    (h : move s = none) : ∀ op ∈ s.operands, ¬ IsImmediate op.text := by
  obtain ⟨_, dst, src, hoperands, hvalid⟩ := (move_eq_none_iff s).mp h
  obtain ⟨_, _, hdst, hsrc, _⟩ := (moveOperands_eq_none_iff dst src).mp hvalid
  intro op hop
  have hnumber : isKind .immediate op = false := by
    rw [hoperands, List.mem_cons, List.mem_singleton] at hop
    rcases hop with rfl | rfl
    · exact hdst
    · exact hsrc
  rw [← isKind_immediate_iff (ht op hop), hnumber]
  decide

theorem move_iff {s : Statement} (ht : ∀ op ∈ s.operands, Text.Trimmed op.text) :
    move s = none ↔ s.tokens.size? = none ∧
      ∃ dst src, s.tokens.operands = [dst, src] ∧ IsMove dst src := by
  rw [move_eq_none_iff]
  constructor
  · rintro ⟨hsize, dst, src, hoperands, hvalid⟩
    refine ⟨by simp [Statement.tokens, hsize], dst.text, src.text,
      by simp [Statement.tokens, hoperands], ?_⟩
    exact (moveOperands_iff (ht dst (by simp [hoperands]))
      (ht src (by simp [hoperands]))).mp hvalid
  · rintro ⟨hsize, _, _, hmap, hvalid⟩
    obtain ⟨dst, src, hoperands, rfl, rfl⟩ := exists_of_map_pair hmap
    refine ⟨Option.map_eq_none_iff.mp hsize, dst, src, hoperands, ?_⟩
    exact (moveOperands_iff (ht dst (by simp [hoperands]))
      (ht src (by simp [hoperands]))).mpr hvalid

end Rules

/-- A line with a move gets no report exactly if it has no size and its two operands make a store, a
load or a copy, in which no operand is a number. Any other report is an error. A line with the same
operands in the other order gets a report exactly if this one does. -/
theorem accepted_iff_move {line : Text} {s : Statement} (hs : Statement.ofLine? line = some s)
    (hmove : Family.ofToken? s.instruction.text = some .move) :
    (checkLine line = none ↔ s.tokens.size? = none ∧
      ∃ dst src, s.tokens.operands = [dst, src] ∧ IsMove dst src) ∧
    (checkLine line = none → ∀ op ∈ s.tokens.operands, ¬ IsImmediate op) ∧
    (checkLine line ≠ none → ∃ d, checkLine line = some d ∧ d.severity = .error) ∧
    ∀ other t, Statement.ofLine? other = some t →
      Family.ofToken? t.instruction.text = some .move → t.tokens.size? = s.tokens.size? →
      t.tokens.operands = s.tokens.operands.reverse →
        (checkLine other = none ↔ checkLine line = none) := by
  have haccepted : ∀ {line : Text} {s : Statement}, Statement.ofLine? line = some s →
      Family.ofToken? s.instruction.text = some .move →
      (checkLine line = none ↔ s.tokens.size? = none ∧
        ∃ dst src, s.tokens.operands = [dst, src] ∧ IsMove dst src) := by
    intro line s hs hmove
    rw [SourceLine.checkLine_eq hs hmove]
    exact Rules.move_iff (Statement.trimmed_of_mem_operands hs)
  refine ⟨haccepted hs hmove, ?_, ?_, ?_⟩
  · intro hnone op hop
    rw [SourceLine.checkLine_eq hs hmove] at hnone
    obtain ⟨span, hspan, rfl⟩ := List.mem_map.mp hop
    exact Rules.not_isImmediate_of_move (Statement.trimmed_of_mem_operands hs) hnone span hspan
  · intro hreport
    obtain ⟨d, hd⟩ := Option.ne_none_iff_exists'.mp hreport
    refine ⟨d, hd, ?_⟩
    rw [SourceLine.checkLine_eq hs hmove] at hd
    exact (check_within hs hd).1
  · intro other t ht hmove' hsize hoperands
    rw [haccepted ht hmove', haccepted hs hmove, hsize, hoperands]
    refine and_congr_right fun _ => ?_
    constructor
    · rintro ⟨dst, src, hreverse, hvalid⟩
      exact ⟨src, dst, by simpa using congrArg List.reverse hreverse, hvalid.exchange⟩
    · rintro ⟨dst, src, hsame, hvalid⟩
      exact ⟨src, dst, by simp [hsame], hvalid.exchange⟩

/-- A pointer to memory by a constant that counts up, and a register with a dot alone. In a copy the
words have to be the same. -/
theorem accepted_iff_move_store :
    checkLine "mov [c0.x+], r1.".toList = none ∧ checkLine "\tMOVE r1. ,[c0.x+];x".toList = none ∧
      ∃ d, checkLine "mov r1.x, :a".toList = some d ∧ d.severity = .error := by
  have hstore : Statement.ofLine? "mov [c0.x+], r1.".toList =
      some ⟨⟨0, 3, "mov".toList⟩, none,
        [⟨4, 11, ['[', 'c', '0', '.', 'x', '+', ']']⟩, ⟨13, 16, ['r', '1', '.']⟩], none⟩ := by
    decide +kernel
  have hload : Statement.ofLine? "\tMOVE r1. ,[c0.x+];x".toList =
      some ⟨⟨1, 5, "MOVE".toList⟩, none,
        [⟨6, 9, ['r', '1', '.']⟩, ⟨11, 18, ['[', 'c', '0', '.', 'x', '+', ']']⟩],
        some ⟨18, 20, ";x".toList⟩⟩ := by decide +kernel
  have hcopy : Statement.ofLine? "mov r1.x, :a".toList =
      some ⟨⟨0, 3, "mov".toList⟩, none, [⟨4, 8, ['r', '1', '.', 'x']⟩, ⟨10, 12, [':', 'a']⟩],
        none⟩ := by decide +kernel
  have hmov : Family.ofToken? "mov".toList = some .move := by decide +kernel
  have hmove : Family.ofToken? "MOVE".toList = some .move := by decide +kernel
  obtain ⟨haccepted, _, _, hexchange⟩ := accepted_iff_move hstore hmov
  have hclosing : ['+', ']'] ∈ Operand.pointerClosings := by decide
  have hpointer : Points (.constant 0) ['x'] ['[', 'c', '0', '.', 'x', '+', ']'] :=
    .selected hclosing (by decide) (List.forall_mem_singleton.mpr (by decide)) (by decide)
  have hregister : Names (.general 1) [] ['r', '1', '.'] :=
    .selected [] (List.forall_mem_nil _) (by decide)
  have hnone : checkLine "mov [c0.x+], r1.".toList = none :=
    haccepted.mpr ⟨rfl, _, _, rfl, .store hpointer (by decide) (.register hregister) (by decide)⟩
  refine ⟨hnone, (hexchange _ _ hload hmove rfl rfl).mpr hnone, ?_⟩
  exact (accepted_iff_move hcopy hmov).2.2.1 (by decide +kernel)

end AsmCheck
