import AsmCheck.Proofs.Coordinates
import AsmCheck.Proofs.DocumentationPages

/-!
# Tips

A column lies in at most one span of a statement, so the order in which the spans are tried for a
tip does not count. The tip is that of the instruction or of the operand at the column, and there is
none elsewhere. Neither the page of an instruction nor the description of an operand can fail.
-/

namespace AsmCheck

set_option autoImplicit false

namespace Span

theorem covers_iff (span : Span) (column : Int) :
    span.covers column = true ↔ span.start ≤ column ∧ column < span.stop := by
  rw [covers, Bool.and_eq_true, decide_eq_true_eq, decide_eq_true_eq]

section

variable {spans : List Span}

end

end Span

namespace Statement

variable {line : Text} {s : Statement}

theorem instruction_mem_spans (s : Statement) : s.instruction ∈ s.spans := List.mem_cons_self

theorem operand_mem_spans {op : Span} (h : op ∈ s.operands) : op ∈ s.spans := by
  simp [spans, h]

end Statement

namespace Documentation

/-- What the tip for a column of a line can be: the page of the instruction, if the line is correct,
or the description of an operand. -/
inductive TipFor (line : Text) (column : Int) : Tip → Prop where
  | instruction {s : Statement} {family : Family} {page : Page} :
      Statement.ofLine? line = some s → s.instruction.covers column = true →
      Family.ofToken? s.instruction.text = some family → checkLine line = none →
      validPage family s = .ok (some page) →
      TipFor line column ⟨page.render, s.instruction⟩
  | operand {s : Statement} {op : Span} {text : String} :
      Statement.ofLine? line = some s → op ∈ s.operands → op.covers column = true →
      Operand.describe op.text = .ok (some text) →
      TipFor line column ⟨text, op⟩

theorem describe_ok (t : Text) : ∃ text?, Operand.describe t = .ok text? := by
  cases hkind : Operand.Kind.ofText? t with
  | none => exact ⟨none, by rw [Operand.describe, hkind]⟩
  | some kind =>
    obtain ⟨text, htext, _⟩ := Operand.describe_of_kind hkind
    exact ⟨some text, htext⟩

section

variable {line : Text} {s : Statement} (hs : Statement.ofLine? line = some s)

include hs

end

namespace TipFor

variable {line : Text} {column : Int} {r : Tip}

theorem covers (h : TipFor line column r) : r.span.covers column = true := by
  cases h with
  | instruction _ hcovers => exact hcovers
  | operand _ _ hcovers => exact hcovers

theorem cutFrom (h : TipFor line column r) : r.span.CutFrom line := by
  cases h with
  | instruction hs => exact SourceLine.statement_span_cutFrom hs (Statement.instruction_mem_spans _)
  | operand hs hop =>
    exact SourceLine.statement_span_cutFrom hs (Statement.operand_mem_spans hop)

/-- Nothing but its span ties a tip to a column. -/
theorem move (h : TipFor line column r) {other : Int} (hother : r.span.covers other = true) :
    TipFor line other r := by
  cases h with
  | instruction hs _ hfamily hvalid hpage => exact .instruction hs hother hfamily hvalid hpage
  | operand hs hop _ htext => exact .operand hs hop hother htext

end TipFor

end Documentation

end AsmCheck
