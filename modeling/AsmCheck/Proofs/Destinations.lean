import AsmCheck.Proofs.Acceptance
import AsmCheck.Proofs.LineReading

/-!
# Destinations

The first operand of an instruction that writes is its destination. Constant registers are
read-only, and every rule but one asks for a register that can be written. The rule of moves only
excludes immediates, since memory can be a destination as well, and so lets constants and labels
through.
-/

namespace AsmCheck

set_option autoImplicit false

open Operand (Kind swizzle?)

/-- The families whose first operand is written. -/
def Family.writing : List Family :=
  [.move, .swizzle, .set] ++ wordSelects ++ mathOperations ++ shifts ++ specials

/-- Forms whose first operand is written. -/
def Form.writes : Form → Bool
  | .move | .wordSelect | .math | .shift | .special | .swizzle | .set => true
  | .nop | .halt | .skip | .sleep | .bitwise | .jump | .conditionalJump => false

theorem Family.writes_of_mem_writing : ∀ family ∈ writing, family.form.writes = true := by
  decide

/-- The first operand of a statement has the given kind. -/
def Statement.HasDestination (s : Statement) (kind : Kind) : Prop :=
  ∃ dst rest, s.operands = dst :: rest ∧ Kind.ofText? dst.text = some kind

section

variable {s : Statement}

theorem Statement.hasDestination_of_isKind {dst : Span} {rest : List Span} {kind : Kind}
    (hoperands : s.operands = dst :: rest) (hdst : Rules.isKind kind dst = true) :
    s.HasDestination kind :=
  ⟨dst, rest, hoperands, (Rules.isKind_iff kind dst).mp hdst⟩

theorem Form.check_destination {form : Form} (hwrites : form.writes = true) (hmove : form ≠ .move)
    (h : form.check s = none) : s.HasDestination .register := by
  cases form with
  | move => exact absurd rfl hmove
  | wordSelect =>
    obtain ⟨_, dst, src, hoperands, hvalid⟩ := (Rules.wordSelect_eq_none_iff s).mp h
    obtain ⟨hdst, _⟩ := (Rules.wordSelectOperands_eq_none_iff dst src).mp hvalid
    exact Statement.hasDestination_of_isKind hoperands hdst
  | math =>
    obtain ⟨_, dst, lhs, rhs, hoperands, hvalid⟩ := (Rules.math_eq_none_iff s).mp h
    obtain ⟨hdst, _⟩ := (Rules.mathOperands_eq_none_iff dst lhs rhs).mp hvalid
    exact Statement.hasDestination_of_isKind hoperands hdst
  | shift =>
    obtain ⟨_, dst, src, hoperands, hvalid⟩ := (Rules.shift_eq_none_iff s).mp h
    obtain ⟨hdst, _⟩ := (Rules.shiftOperands_eq_none_iff dst src).mp hvalid
    exact Statement.hasDestination_of_isKind hoperands hdst
  | special =>
    obtain ⟨_, dst, src, hoperands, hvalid⟩ := (Rules.special_eq_none_iff s).mp h
    obtain ⟨hdst, _⟩ := (Rules.specialOperands_eq_none_iff dst src).mp hvalid
    exact Statement.hasDestination_of_isKind hoperands hdst
  | swizzle =>
    obtain ⟨_, op, hoperands, hvalid⟩ := (Rules.swizzle_eq_none_iff s).mp h
    obtain ⟨hop, _⟩ := (Rules.swizzleOperand_eq_none_iff op).mp hvalid
    exact Statement.hasDestination_of_isKind hoperands hop
  | set =>
    obtain ⟨_, hcount, hvalid⟩ := (Rules.set_eq_none_iff s).mp h
    cases hoperands : s.operands with
    | nil =>
      have hpos := Rules.setOperandCount_pos (Family.mnemonic s.instruction.text)
      rw [hoperands, List.length_nil] at hcount
      omega
    | cons dst values =>
      rw [hoperands] at hvalid
      obtain ⟨hdst, _⟩ := (Rules.setOperands_cons_eq_none_iff dst values).mp hvalid
      exact Statement.hasDestination_of_isKind hoperands hdst
  | nop => cases hwrites
  | halt => cases hwrites
  | skip => cases hwrites
  | sleep => cases hwrites
  | bitwise => cases hwrites
  | jump => cases hwrites
  | conditionalJump => cases hwrites

theorem Rules.move_destination (h : Rules.move s = none) :
    ∃ kind, s.HasDestination kind ∧ kind ≠ .immediate := by
  obtain ⟨_, dst, src, hoperands, hvalid⟩ := (Rules.move_eq_none_iff s).mp h
  obtain ⟨hdst, _, himmediate, _⟩ := (Rules.moveOperands_eq_none_iff dst src).mp hvalid
  obtain ⟨kind, hkind⟩ := (Rules.hasKind_iff dst).mp hdst
  refine ⟨kind, ⟨dst, [src], hoperands, hkind⟩, ?_⟩
  rintro rfl
  rw [(Rules.isKind_iff .immediate dst).mpr hkind] at himmediate
  cases himmediate

/-- All that the rule of moves asks of a destination: whether it has a kind, is an immediate or a
pointer, and which words it selects. -/
theorem Rules.moveOperands_congr {dst dst' : Span} (src : Span)
    (hkind : hasKind dst = hasKind dst')
    (himmediate : isKind .immediate dst = isKind .immediate dst')
    (hpointer : isPointer dst = isPointer dst') (hwords : swizzle? dst.text = swizzle? dst'.text) :
    moveOperands dst src = none ↔ moveOperands dst' src = none := by
  have hswizzles : moveSwizzles dst src = moveSwizzles dst' src := by
    unfold moveSwizzles swizzledOutside
    rw [hpointer, hwords]
  rw [moveOperands_eq_none_iff, moveOperands_eq_none_iff, hkind, himmediate, hpointer, hswizzles]

theorem Rules.move_replaced {dst dst' : Span} (rest : List Span)
    (hdst : Kind.ofText? dst.text = some .constant ∨ Kind.ofText? dst.text = some .label)
    (hdst' : Kind.ofText? dst'.text = some .register)
    (hwords : swizzle? dst.text = swizzle? dst'.text) :
    move { s with operands := dst :: rest } = none ↔
      move { s with operands := dst' :: rest } = none := by
  have hsame : ∀ src, moveOperands dst src = none ↔ moveOperands dst' src = none := by
    intro src
    rcases hdst with hdst | hdst
    · apply moveOperands_congr src _ _ _ hwords <;>
        simp [hasKind, isKind, isPointer, hdst, hdst', Kind.isPointer]
    · apply moveOperands_congr src _ _ _ hwords <;>
        simp [hasKind, isKind, isPointer, hdst, hdst', Kind.isPointer]
  rw [move_eq_none_iff, move_eq_none_iff]
  apply and_congr_right
  intro _
  constructor
  · rintro ⟨a, src, hoperands, hvalid⟩
    obtain ⟨rfl, rfl⟩ := List.cons.inj hoperands
    exact ⟨dst', src, rfl, (hsame src).mp hvalid⟩
  · rintro ⟨a, src, hoperands, hvalid⟩
    obtain ⟨rfl, rfl⟩ := List.cons.inj hoperands
    exact ⟨dst, src, rfl, (hsame src).mpr hvalid⟩

end

/-- The destination of an accepted line has a kind and is no immediate. It is a register or, for a
move, a pointer exactly if the line is not a move to a constant or to a label. Such a move is wrong
in its destination only: with a register that selects the same words it is accepted as well. -/
theorem destination_of_accepted {line : Text} {s : Statement} {family : Family}
    (hs : Statement.ofLine? line = some s)
    (hfamily : Family.ofToken? s.instruction.text = some family)
    (hwriting : family ∈ Family.writing) (haccepted : checkLine line = none) :
    ∃ dst rest kind, s.operands = dst :: rest ∧ Kind.ofText? dst.text = some kind ∧
      kind ≠ .immediate ∧
      ((kind = .register ∨ family = .move ∧ kind.isPointer = true) ↔
        ¬ (family = .move ∧ (kind = .constant ∨ kind = .label))) ∧
      ∀ register : Span, kind = .constant ∨ kind = .label →
        Kind.ofText? register.text = some .register →
        swizzle? register.text = swizzle? dst.text →
          family.check { s with operands := register :: rest } = none := by
  rw [SourceLine.checkLine_eq hs hfamily, Family.check] at haccepted
  by_cases hmove : family.form = .move
  · rw [hmove] at haccepted
    obtain ⟨kind, ⟨dst, rest, hoperands, hkind⟩, himmediate⟩ := Rules.move_destination haccepted
    refine ⟨dst, rest, kind, hoperands, hkind, himmediate, ?_, ?_⟩
    · rw [family.form_eq_move_iff.mp hmove]
      cases kind with
      | immediate => exact absurd rfl himmediate
      | register => simp
      | pointer => simp [Kind.isPointer]
      | pointerIncrement => simp [Kind.isPointer]
      | constant => simp [Kind.isPointer]
      | label => simp [Kind.isPointer]
    · intro register hwrong hregister hwords
      have hdst := hwrong.imp (fun h => h ▸ hkind) fun h => h ▸ hkind
      rw [Family.check, hmove]
      apply (Rules.move_replaced rest hdst hregister hwords.symm).mp
      rw [← hoperands]
      exact haccepted
  · have hwrites := Family.writes_of_mem_writing family hwriting
    obtain ⟨dst, rest, hoperands, hkind⟩ := Form.check_destination hwrites hmove haccepted
    refine ⟨dst, rest, .register, hoperands, hkind, by decide, ?_, by simp⟩
    simp [← family.form_eq_move_iff, hmove]

/-- A move may store into memory. -/
theorem destination_of_accepted_store :
    let s : Statement :=
      ⟨⟨0, 3, "mov".toList⟩, none, [⟨4, 8, "[r0]".toList⟩, ⟨10, 12, "c1".toList⟩], none⟩
    Statement.ofLine? "mov [r0], c1".toList = some s ∧
      ∃ dst rest kind, s.operands = dst :: rest ∧ Kind.ofText? dst.text = some kind ∧
        kind.isPointer = true := by
  intro s
  have hs : Statement.ofLine? "mov [r0], c1".toList = some s := by decide +kernel
  have hfamily : Family.ofToken? s.instruction.text = some .move := by decide +kernel
  obtain ⟨dst, rest, kind, hoperands, hkind, _, hwritable, _⟩ :=
    destination_of_accepted hs hfamily (by decide) (by decide +kernel)
  obtain ⟨rfl, rfl⟩ := List.cons.inj hoperands
  have hpointer : Kind.ofText? "[r0]".toList = some .pointer := by decide +kernel
  obtain rfl : Kind.pointer = kind := Option.some.inj (hpointer.symm.trans hkind)
  rcases hwritable.mpr (by simp) with hregister | ⟨_, hpointer⟩
  · cases hregister
  · exact ⟨hs, _, _, _, rfl, hkind, hpointer⟩

/-- A move to a constant register is accepted, and so is one to a label: the destination of an
accepted line need be neither a register nor memory. -/
theorem destination_of_accepted_constant :
    checkLine "mov c0, r1".toList = none ∧ checkLine "mov :a, r1".toList = none ∧
      ¬ ∀ line s family, Statement.ofLine? line = some s →
        Family.ofToken? s.instruction.text = some family → family ∈ Family.writing →
        checkLine line = none →
          ∃ dst rest kind, s.operands = dst :: rest ∧ Kind.ofText? dst.text = some kind ∧
            (kind = .register ∨ family = .move ∧ kind.isPointer = true) := by
  have hconstant : checkLine "mov c0, r1".toList = none := by decide +kernel
  refine ⟨hconstant, by decide +kernel, ?_⟩
  intro h
  have hs : Statement.ofLine? "mov c0, r1".toList =
      some ⟨⟨0, 3, "mov".toList⟩, none, [⟨4, 6, "c0".toList⟩, ⟨8, 10, "r1".toList⟩], none⟩ := by
    decide +kernel
  obtain ⟨dst, rest, kind, hoperands, hkind, hwritable⟩ :=
    h _ _ .move hs (by decide +kernel) (by decide) hconstant
  obtain ⟨rfl, rfl⟩ := List.cons.inj hoperands
  have hc0 : Kind.ofText? "c0".toList = some .constant := by decide +kernel
  obtain rfl : Kind.constant = kind := Option.some.inj (hc0.symm.trans hkind)
  rcases hwritable with hregister | ⟨_, hpointer⟩
  · cases hregister
  · cases hpointer

end AsmCheck
