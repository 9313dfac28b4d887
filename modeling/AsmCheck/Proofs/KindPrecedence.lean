import AsmCheck.Proofs.MoveGrammar

/-!
# The precedence of kinds

The shapes of operands exclude one another, but for the name of a constant register, which is a
hexadecimal numeral as well. So an order in which the shapes are tried counts for these two kinds
only: every order in which constants come before immediates gives each text the same kind, and no
other order does.
-/

namespace AsmCheck.Operand

set_option autoImplicit false

/-- What stands in front of the closing bracket is a name or a word, and no plus sign. -/
theorem not_isBracketed_of_isBracketed {t : Text} (h : isBracketed [']'] t = true) :
    isBracketed ['+', ']'] t = false := by
  by_contra hplus
  obtain ⟨register, tail, words, ht, hselects⟩ := isBracketed_iff.mp h
  obtain ⟨register', tail', words', ht', _⟩ := isBracketed_iff.mp (by simpa using hplus)
  have hbody : register.name ++ tail = register'.name ++ tail' ++ ['+'] := by
    rw [ht] at ht'
    have hclosed : register.name ++ tail ++ [']'] = register'.name ++ tail' ++ ['+'] ++ [']'] := by
      simpa using ht'
    exact List.append_cancel_right hclosed
  have hmem : '+' ∈ register.name ++ tail := by
    rw [hbody]
    exact List.mem_append_right _ (List.mem_singleton.mpr rfl)
  rcases isPlain_or_dot_of_mem register hselects '+' hmem with hplain | hdot
  · exact absurd hplain.2.2 (by decide)
  · exact absurd hdot (by decide)

namespace Kind

theorem eq_of_isPointer {a b : Kind} {t : Text} (ha : a.hasShape t = true)
    (hb : b.hasShape t = true) (hpointer : a.isPointer = true) (hpointer' : b.isPointer = true) :
    a = b := by
  have hclosings : ¬ (Kind.pointer.hasShape t = true ∧ Kind.pointerIncrement.hasShape t = true) := by
    rintro ⟨hplain, hplus⟩
    have hnot := not_isBracketed_of_isBracketed hplain
    rw [Kind.hasShape, hnot] at hplus
    cases hplus
  cases a <;> cases b <;> simp_all [isPointer]

/-- The names of constants are the only texts with two shapes. -/
theorem eq_or_of_hasShape {a b : Kind} {t : Text} (ha : a.hasShape t = true)
    (hb : b.hasShape t = true) :
    a = b ∨ (∃ i, t = (Register.constant i).name) ∧
      (a = .constant ∧ b = .immediate ∨ a = .immediate ∧ b = .constant) := by
  obtain ⟨c, hc, hstart⟩ := head?_of_hasShape ha
  obtain ⟨d, hd, hstart'⟩ := head?_of_hasShape hb
  obtain rfl : c = d := Option.some.inj (hc.symm.trans hd)
  rcases startsWith_cases hstart hstart' with heq | ⟨hpointer, hpointer'⟩ | hkinds | hkinds
  · exact Or.inl heq
  · exact Or.inl (eq_of_isPointer ha hb hpointer hpointer')
  · obtain ⟨rfl, rfl⟩ := hkinds
    exact Or.inr ⟨eq_name_of_constant_of_immediate ha hb, Or.inl ⟨rfl, rfl⟩⟩
  · obtain ⟨rfl, rfl⟩ := hkinds
    exact Or.inr ⟨eq_name_of_constant_of_immediate hb ha, Or.inr ⟨rfl, rfl⟩⟩

theorem hasShape_name (i : Fin 8) :
    Kind.constant.hasShape (Register.constant i).name = true ∧
      Kind.immediate.hasShape (Register.constant i).name = true := by
  revert i
  decide

end Kind

theorem dropFinalNewline_eq_iff {s t : Text} (hs : s.getLast? ≠ some '\n') :
    Text.dropFinalNewline t = s ↔ t = s ∨ t = s ++ ['\n'] := by
  constructor
  · intro h
    obtain ⟨ending, ht, rfl | rfl⟩ := exists_final_newline t
    · exact Or.inl (by rw [ht, h, List.append_nil])
    · exact Or.inr (by rw [ht, h])
  · rintro (rfl | rfl)
    · exact if_neg hs
    · simp [Text.dropFinalNewline]

/-- The name of a constant register, with or without a final line feed. -/
def IsConstantName (t : Text) : Prop :=
  ∃ i, t = (Register.constant i).name ∨ t = (Register.constant i).name ++ ['\n']

theorem isConstantName_iff (t : Text) :
    IsConstantName t ↔ ∃ i, Text.dropFinalNewline t = (Register.constant i).name := by
  have hlast : ∀ i, (Register.constant i).name.getLast? ≠ some '\n' := by decide
  exact exists_congr fun i => (dropFinalNewline_eq_iff (hlast i)).symm

namespace Kind

/-- Whether a text has the shape of a kind, with or without a final line feed. -/
def fits (kind : Kind) (t : Text) : Bool := kind.hasShape (Text.dropFinalNewline t)

/-- The first kind of an order whose shape a text has. -/
def firstOf (order : List Kind) (t : Text) : Option Kind := order.find? (·.fits t)

theorem fits_of_firstOf {order : List Kind} {t : Text} {kind : Kind}
    (h : firstOf order t = some kind) : kind.fits t = true :=
  List.find?_some (p := fun found => fits found t) h

theorem eq_or_of_fits {a b : Kind} {t : Text} (ha : a.fits t = true) (hb : b.fits t = true) :
    a = b ∨ IsConstantName t ∧
      (a = .constant ∧ b = .immediate ∨ a = .immediate ∧ b = .constant) := by
  rw [isConstantName_iff]
  exact eq_or_of_hasShape ha hb

theorem fits_of_isConstantName {t : Text} (h : IsConstantName t) (kind : Kind) :
    kind.fits t = true ↔ kind = .constant ∨ kind = .immediate := by
  obtain ⟨i, hi⟩ := (isConstantName_iff t).mp h
  have hconstant : Kind.constant.fits t = true := by
    rw [fits, hi]
    exact (hasShape_name i).1
  have himmediate : Kind.immediate.fits t = true := by
    rw [fits, hi]
    exact (hasShape_name i).2
  constructor
  · intro hkind
    rcases eq_or_of_fits hkind hconstant with heq | ⟨_, ⟨_, heq⟩ | ⟨heq, _⟩⟩
    · exact Or.inl heq
    · cases heq
    · exact Or.inr heq
  · rintro (rfl | rfl)
    · exact hconstant
    · exact himmediate

section

variable {order : List Kind} (hperm : order.Perm precedence)

include hperm

theorem mem_order (kind : Kind) : kind ∈ order :=
  hperm.mem_iff.mpr (by cases kind <;> decide)

/-- With constants in front of immediates, the kind that is found can be told without the order. -/
theorem firstOf_eq_some_iff (hbefore : [Kind.constant, .immediate].Sublist order) {t : Text}
    {kind : Kind} :
    firstOf order t = some kind ↔
      kind.fits t = true ∧ ¬ (kind = .immediate ∧ Kind.constant.fits t = true) := by
  have hskipped : ∀ found, firstOf order t = some found →
      ¬ (found = .immediate ∧ Kind.constant.fits t = true) := by
    rintro found hfound ⟨rfl, hconstant⟩
    obtain ⟨_, front, back, hsplit, hfront⟩ := List.find?_eq_some_iff_append.mp hfound
    have hnot : Kind.constant ∉ front := by
      intro hmem
      have hfalse := hfront _ hmem
      rw [hconstant] at hfalse
      cases hfalse
    -- Immediates come once, and what is in front of them holds no constant.
    have hnodup : order.Nodup := hperm.nodup_iff.mpr (by decide)
    rw [hsplit] at hnodup hbefore
    have hcons : [Kind.constant, .immediate].Sublist (.immediate :: back) := by
      obtain ⟨left, right, heq, hleft, hright⟩ := List.sublist_append_iff.mp hbefore
      cases left with
      | nil => exact heq ▸ hright
      | cons first _ =>
        obtain ⟨rfl, _⟩ := List.cons.inj heq
        exact absurd (hleft.subset List.mem_cons_self) hnot
    have hlater : Kind.immediate ∈ back := by
      cases hcons with
      | cons _ hback => exact hback.subset (by simp)
    exact (List.nodup_cons.mp (List.nodup_append.mp hnodup).2.1).1 hlater
  constructor
  · intro h
    exact ⟨fits_of_firstOf h, hskipped kind h⟩
  · rintro ⟨hkind, hfirst⟩
    have hsome : (firstOf order t).isSome = true :=
      List.find?_isSome.mpr ⟨kind, mem_order hperm kind, hkind⟩
    obtain ⟨found, hfound⟩ := Option.isSome_iff_exists.mp hsome
    have hfits := fits_of_firstOf hfound
    rcases eq_or_of_fits hfits hkind with rfl | ⟨_, ⟨rfl, rfl⟩ | ⟨rfl, rfl⟩⟩
    · exact hfound
    · exact absurd ⟨rfl, hfits⟩ hfirst
    · exact absurd ⟨rfl, hkind⟩ (hskipped _ hfound)

/-- An order that finds the same kinds finds the constant in its name, which is a number too. -/
theorem constant_before_of_firstOf (h : ∀ t, firstOf order t = ofText? t) :
    [Kind.constant, .immediate].Sublist order := by
  have hname : IsConstantName ['c', '0'] := ⟨0, Or.inl rfl⟩
  have hfound : firstOf order ['c', '0'] = some .constant := by
    rw [h]
    decide
  obtain ⟨_, front, back, hsplit, hfront⟩ := List.find?_eq_some_iff_append.mp hfound
  have himmediate := (fits_of_isConstantName hname .immediate).mpr (Or.inr rfl)
  have hmem := mem_order hperm .immediate
  rw [hsplit] at hmem ⊢
  rcases List.mem_append.mp hmem with hmem | hmem
  · have hfalse := hfront _ hmem
    rw [himmediate] at hfalse
    cases hfalse
  · rcases List.mem_cons.mp hmem with heq | hmem
    · cases heq
    · exact ((List.singleton_sublist.mpr hmem).cons_cons _).trans (List.sublist_append_right _ _)

end

end Kind

/-- No two shapes have a text in common, except that the names of constant registers have those of
constants and of immediates and no other. Hence the shapes may be tried in any order that keeps
constants in front of immediates, and in no other one, for every text to have the same kind. -/
theorem kinds_unambiguous :
    (∀ t a b, Kind.fits a t = true → Kind.fits b t = true → a = b ∨ IsConstantName t) ∧
    (∀ t, IsConstantName t → ∀ kind, Kind.fits kind t = true ↔
      kind = .constant ∨ kind = .immediate) ∧
    ∀ order, order.Perm Kind.precedence →
      ((∀ t, Kind.firstOf order t = Kind.ofText? t) ↔ [Kind.constant, .immediate].Sublist order) := by
  refine ⟨?_, fun t h => Kind.fits_of_isConstantName h, ?_⟩
  · intro t a b ha hb
    exact (Kind.eq_or_of_fits ha hb).imp_right And.left
  · intro order hperm
    constructor
    · exact Kind.constant_before_of_firstOf hperm
    · intro hbefore t
      have hstandard : [Kind.constant, .immediate].Sublist Kind.precedence := by decide
      apply Option.ext
      intro kind
      rw [Kind.firstOf_eq_some_iff hperm hbefore]
      exact (Kind.firstOf_eq_some_iff (List.Perm.refl _) hstandard).symm

/-- A constant in front of a line feed is no number in an order that starts with labels. -/
theorem kinds_unambiguous_labels_first :
    let order : List Kind := [.label, .constant, .immediate, .register, .pointer, .pointerIncrement]
    order.Perm Kind.precedence ∧ IsConstantName "c3\n".toList ∧
      Kind.fits .immediate "c3\n".toList = true ∧
      Kind.firstOf order "c3\n".toList = Kind.ofText? "c3\n".toList ∧
      ∀ kind, Kind.fits kind "c3.x".toList = true → kind = .constant := by
  intro order
  obtain ⟨hexclusive, hnames, horders⟩ := kinds_unambiguous
  have hperm : order.Perm Kind.precedence := by decide
  have hname : IsConstantName "c3\n".toList := ⟨3, Or.inr rfl⟩
  refine ⟨hperm, hname, (hnames _ hname .immediate).mpr (Or.inr rfl),
    (horders order hperm).mpr (by decide) _, ?_⟩
  intro kind hkind
  have hconstant : Kind.fits .constant "c3.x".toList = true := by decide
  have hother : ¬ IsConstantName "c3.x".toList := by
    rintro ⟨i, hi⟩
    revert i
    decide
  exact (hexclusive _ kind .constant hkind hconstant).resolve_right hother

end AsmCheck.Operand
