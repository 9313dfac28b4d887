import AsmCheck.Span
import Mathlib.Data.List.Basic

/-!
# Layouts

A line is laid out as spans and as characters between them. A layout is put together from left to
right, and what is asked of the spans of a line is read off its layout: each is a slice of the
line, they follow one another, and the characters outside them are known.
-/

namespace AsmCheck

set_option autoImplicit false

/-- The text of a span is the slice of the line at its columns. -/
def Span.CutFrom (line : Text) (span : Span) : Prop :=
  0 ≤ span.start ∧ span.start ≤ span.stop ∧ span.stop ≤ line.length ∧
    span.text = (line.take span.stop.toNat).drop span.start.toNat

/-- The characters of a text in no span, if its first character has the given column. -/
def uncoveredFrom (column : Nat) (spans : List Span) (t : Text) : Text :=
  ((t.zipIdx column).filter fun placed => !spans.any (·.covers placed.2)).map (·.1)

/-- The characters of a line that lie in none of the given spans, in order. -/
def uncovered (spans : List Span) (line : Text) : Text := uncoveredFrom 0 spans line

/-- `Laid column t spans gaps`: a text that starts at the given column consists of the spans, one
after the other, and of the characters `gaps` around them. -/
inductive Laid : Nat → Text → List Span → Text → Prop where
  | done (column : Nat) : Laid column [] [] []
  | skip {column : Nat} {rest gaps : Text} {spans : List Span} (c : Char) :
      Laid (column + 1) rest spans gaps → Laid column (c :: rest) spans (c :: gaps)
  | span {column : Nat} {rest gaps : Text} {spans : List Span} (t : Text) :
      Laid (column + t.length) rest spans gaps →
        Laid column (t ++ rest) (Span.ofText column t :: spans) gaps

namespace Laid

variable {column : Nat} {t u gaps gaps' : Text} {spans spans' : List Span}

theorem gap (column : Nat) (t : Text) : Laid column t [] t := by
  induction t generalizing column with
  | nil => exact .done column
  | cons c rest ih => exact .skip c (ih (column + 1))

theorem single (column : Nat) (t : Text) : Laid column t [Span.ofText column t] [] := by
  have h := Laid.span t (.done (column + t.length))
  rwa [List.append_nil] at h

theorem append (ht : Laid column t spans gaps) (hu : Laid (column + t.length) u spans' gaps') :
    Laid column (t ++ u) (spans ++ spans') (gaps ++ gaps') := by
  induction ht with
  | done column => exact hu
  | @skip column rest gaps spans c _ ih =>
    apply Laid.skip c
    apply ih
    rwa [List.length_cons, Nat.add_comm rest.length, ← Nat.add_assoc] at hu
  | @span column rest gaps spans t _ ih =>
    rw [List.append_assoc]
    apply Laid.span t
    apply ih
    rwa [List.length_append, ← Nat.add_assoc] at hu

theorem bounds (h : Laid column t spans gaps) {span : Span} (hs : span ∈ spans) :
    column ≤ span.start ∧ span.start ≤ span.stop ∧ span.stop ≤ column + t.length := by
  induction h with
  | done => simp at hs
  | skip c _ ih =>
    have hb := ih hs
    simp only [List.length_cons]
    omega
  | @span column rest gaps spans t _ ih =>
    simp only [List.length_append]
    rcases List.mem_cons.mp hs with rfl | hs
    · simp only [Span.ofText]
      omega
    · have hb := ih hs
      omega

theorem ordered (h : Laid column t spans gaps) : spans.Pairwise fun a b => a.stop ≤ b.start := by
  induction h with
  | done => exact .nil
  | skip c _ ih => exact ih
  | @span column rest gaps spans t hrest ih =>
    apply List.pairwise_cons.mpr
    refine ⟨?_, ih⟩
    intro span hs
    have hb := hrest.bounds hs
    simp only [Span.ofText]
    omega

/-- The induction runs to the right, so the part of the line already passed is kept in front. -/
theorem cutFrom (h : Laid column t spans gaps) {span : Span} (hs : span ∈ spans) (left : Text)
    (hleft : left.length = column) : span.CutFrom (left ++ t) := by
  induction h generalizing left with
  | done => simp at hs
  | skip c _ ih =>
    have hcut := ih hs (left ++ [c]) (by simp [hleft])
    simpa using hcut
  | @span column rest gaps spans t _ ih =>
    rcases List.mem_cons.mp hs with rfl | hs
    · have hstop : ((column : Int) + t.length).toNat = (left ++ t).length := by
        simp only [List.length_append]
        omega
      refine ⟨?_, ?_, ?_, ?_⟩
      · exact Int.natCast_nonneg column
      · exact Int.le_add_of_nonneg_right (Int.natCast_nonneg t.length)
      · simp only [Span.ofText, List.length_append]
        omega
      · simp only [Span.ofText, Int.toNat_natCast, hstop]
        rw [← List.append_assoc, List.take_left, ← hleft, List.drop_left]
    · have hcut := ih hs (left ++ t) (by simp [hleft])
      simpa using hcut

end Laid

theorem uncoveredFrom_append (column : Nat) (spans : List Span) (t u : Text) :
    uncoveredFrom column spans (t ++ u) =
      uncoveredFrom column spans t ++ uncoveredFrom (column + t.length) spans u := by
  simp [uncoveredFrom, List.zipIdx_append]

theorem uncoveredFrom_eq_self {column : Nat} {spans : List Span} {t : Text}
    (h : ∀ span ∈ spans, span.stop ≤ column ∨ column + t.length ≤ span.start) :
    uncoveredFrom column spans t = t := by
  have hall : ∀ placed ∈ t.zipIdx column,
      (!spans.any (·.covers placed.2)) = true := by
    intro placed hp
    have hi := List.mem_zipIdx hp
    simp only [Bool.not_eq_true', List.any_eq_false, Span.covers, Bool.and_eq_true,
      decide_eq_true_eq]
    intro span hs hcov
    have hspan := h span hs
    omega
  unfold uncoveredFrom
  rw [List.filter_eq_self.mpr hall, List.zipIdx_map_fst]

theorem uncoveredFrom_eq_nil {column : Nat} {spans : List Span} {t : Text} (span : Span)
    (hs : span ∈ spans) (hstart : span.start ≤ column) (hstop : column + t.length ≤ span.stop) :
    uncoveredFrom column spans t = [] := by
  have hall : ∀ placed ∈ t.zipIdx column, ¬ (!spans.any (·.covers placed.2)) = true := by
    intro placed hp
    have hi := List.mem_zipIdx hp
    simp only [Bool.not_eq_true', Bool.not_eq_false, List.any_eq_true, Span.covers,
      Bool.and_eq_true, decide_eq_true_eq]
    exact ⟨span, hs, by omega, by omega⟩
  unfold uncoveredFrom
  rw [List.filter_eq_nil_iff.mpr hall, List.map_nil]

/-- The gaps of a layout are the characters in no span, whatever spans precede the text. -/
theorem Laid.uncoveredFrom_eq {column : Nat} {t gaps : Text} {spans : List Span}
    (h : Laid column t spans gaps) (past : List Span) (hpast : ∀ span ∈ past, span.stop ≤ column) :
    uncoveredFrom column (past ++ spans) t = gaps := by
  induction h generalizing past with
  | done => rfl
  | @skip column rest gaps spans c hrest ih =>
    have hfirst : uncoveredFrom column (past ++ spans) [c] = [c] := by
      apply uncoveredFrom_eq_self
      intro span hs
      rcases List.mem_append.mp hs with hs | hs
      · exact Or.inl (hpast span hs)
      · have hb := hrest.bounds hs
        exact Or.inr (by simp only [List.length_singleton]; omega)
    have hlater := ih past fun span hs => by have hp := hpast span hs; omega
    have hsplit := uncoveredFrom_append column (past ++ spans) [c] rest
    rw [hfirst, List.length_singleton, hlater] at hsplit
    exact hsplit
  | @span column rest gaps spans t hrest ih =>
    have hfirst : uncoveredFrom column (past ++ Span.ofText column t :: spans) t = [] := by
      apply uncoveredFrom_eq_nil (Span.ofText column t) (by simp) <;>
        simp [Span.ofText]
    have hlater := ih (past ++ [Span.ofText column t]) (by
      intro span hs
      rcases List.mem_append.mp hs with hs | hs
      · have hp := hpast span hs
        omega
      · rw [List.mem_singleton.mp hs]
        simp [Span.ofText])
    rw [uncoveredFrom_append, hfirst, List.nil_append, List.append_cons]
    exact hlater

end AsmCheck
