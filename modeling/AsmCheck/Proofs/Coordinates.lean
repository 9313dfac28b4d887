import AsmCheck.Proofs.Placement
import AsmCheck.Proofs.LineReading
import AsmCheck.Proofs.RuleRanges
import AsmCheck.Proofs.LabelPass
import AsmCheck.Proofs.StatementSpans

/-!
# Coordinates

The coordinates of nodes and diagnostics lead back to the text that they are about. A line of code
is held by the document at its position, and everything found on the line is located by a distance
from there; the distances of the code of a line are counted in the line with its comment, and they
fit because code that is not blank ends its indent. The label pass adds no coordinates of its own.
-/

namespace AsmCheck

set_option autoImplicit false

namespace SourceLine

variable (l : SourceLine)

/-- Code that is not empty stands behind the indent of its line, up to the end of what precedes
the comment. -/
theorem code_cutFrom (h : l.code ≠ []) :
    Span.CutFrom l.text ⟨Text.indent l.text, (Text.trimEnd (codePart l.text)).length, l.code⟩ := by
  obtain ⟨tail, hcode, htail⟩ := Text.exists_trim (codePart l.text)
  obtain ⟨hfirst, hlast⟩ := Text.trim_trimmed (codePart l.text)
  change codePart l.text = (codePart l.text).takeWhile Text.isBlank ++ (l.code ++ tail) at hcode
  change ∀ c ∈ l.code.head?, _ at hfirst
  change ∀ c ∈ l.code.getLast?, _ at hlast
  have hlead := Text.allBlank_leading (codePart l.text)
  generalize (codePart l.text).takeWhile Text.isBlank = lead at hcode hlead
  have hline : l.text = lead ++ (l.code ++ (tail ++ l.text.dropWhile (· != ';'))) := by
    have hall := codePart_append l.text
    rw [hcode] at hall
    simpa using hall.symm
  have hindent : Text.indent l.text = lead.length := by
    have hhead : ∀ c ∈ (l.code ++ (tail ++ l.text.dropWhile (· != ';'))).head?,
        Text.isBlank c = false := by
      intro c hc
      rw [List.head?_append_of_ne_nil _ h] at hc
      exact hfirst c hc
    rw [Text.indent, hline, Text.takeWhile_append_of_boundary hlead hhead]
  have hend : Text.trimEnd (codePart l.text) = lead ++ l.code := by
    rw [hcode, ← List.append_assoc]
    apply Text.trimEnd_append _ htail
    intro c hc
    rw [List.getLast?_append_of_ne_nil _ h] at hc
    exact hlast c hc
  refine (Span.cutFrom_iff _ _).mpr ⟨lead, _, hline, by rw [hindent], ?_⟩
  rw [hend, List.length_append]
  simp

end SourceLine

/-- The document holds what a node was read from at the coordinates of the node. -/
def Node.Located (t : Text) : Node → Prop
  | .instruction l => ∀ span ∈ l.statement.spans,
      Document.Holds t l.line ⟨l.column + span.start, l.column + span.stop, span.text⟩
  | .label l => ∃ rest, Document.Holds t l.line (Span.ofText l.column (':' :: rest)) ∧
      l.name = Text.removeBlanks rest
  | .literal w => Document.Holds t w.line (Span.ofText w.column ['!'])
  | .memory w => ∃ c, Numeral.isHexDigit c = true ∧
      Document.Holds t w.line (Span.ofText w.column [c])
  | .foreign => True

namespace SourceLine

variable {t : Text} {l : SourceLine}

theorem holds_code (hline : Document.Holds t l.line (Span.ofText l.column l.text))
    (h : l.code ≠ []) : Document.Holds t l.line ⟨l.codeStart, l.codeStop, l.code⟩ :=
  hline.slice (l.code_cutFrom h)

theorem holds_codeStart (hline : Document.Holds t l.line (Span.ofText l.column l.text))
    {u v : Text} (h : l.code = u ++ v) (hne : l.code ≠ []) :
    Document.Holds t l.line (Span.ofText l.codeStart u) := by
  have hcut := l.code_cutFrom hne
  rw [h] at hcut
  exact hline.sliceText hcut.left

theorem statement_span_cutFrom {line : Text} {s : Statement}
    (hs : Statement.ofLine? line = some s) {span : Span} (hspan : span ∈ s.spans) :
    span.CutFrom line := by
  obtain ⟨p, rfl⟩ := ofLine?_parts hs
  obtain ⟨ending, hline, _⟩ := Text.dropEndWhile_append Statement.isLineEnd line
  rw [hline]
  exact (p.decomposes.cut span hspan).append ending

theorem read_located (hline : Document.Holds t l.line (Span.ofText l.column l.text))
    (file? : Option String) (address : Int) :
    ∀ n ∈ (l.read file? address).nodes, n.Located t := by
  have hfits := l.kind_fits
  unfold read
  cases hkind : l.kind with
  | blank => simp
  | instruction family =>
    obtain ⟨s, hs, hfamily⟩ := (l.kind_eq_instruction_iff_statement family).mp hkind
    intro n hn
    simp only [readInstruction_eq file? address l hs hfamily] at hn
    rw [List.mem_singleton.mp hn]
    intro span hspan
    exact hline.slice (statement_span_cutFrom hs hspan)
  | literal digits =>
    rw [hkind] at hfits
    obtain ⟨_, rest, hcode, _⟩ := hfits
    have hholds := holds_codeStart hline (u := ['!']) hcode (by simp [hcode])
    intro n hn
    simp only [readLiteral] at hn
    split at hn
    · simp [report, Contribution.ofDiagnostic] at hn
    · split at hn
      · rw [List.mem_singleton.mp hn]
        exact hholds
      · simp [report, Contribution.ofDiagnostic] at hn
  | label name =>
    rw [hkind] at hfits
    obtain ⟨_, rest, hcode, hname⟩ := hfits
    have hholds := holds_codeStart hline (List.append_nil l.code).symm (by simp [hcode])
    rw [hcode] at hholds
    intro n hn
    simp only [readLabel] at hn
    split at hn
    · rw [List.mem_singleton.mp hn]
      exact ⟨rest, hholds, hname⟩
    · simp [report, Contribution.ofDiagnostic] at hn
  | unknown token => simp [report, Contribution.ofDiagnostic]

end SourceLine

namespace MemoryImage

theorem mem_of_mem_groupsOfFour {α : Type} {l group : List α} (h : group ∈ groupsOfFour l) {x : α}
    (hx : x ∈ group) : x ∈ l := by
  fun_induction groupsOfFour l with
  | case1 => simp at h
  | case2 a => simp_all
  | case3 a b => simp_all
  | case4 a b c => simp_all
  | case5 a b c d rest ih =>
    rcases List.mem_cons.mp h with rfl | h
    · simp only [List.mem_cons, List.not_mem_nil, or_false] at hx
      rcases hx with rfl | rfl | rfl | rfl <;> simp
    · have hmem := ih h
      simp [hmem]

theorem ne_newline_of_isHexDigit {c : Char} (h : Numeral.isHexDigit c = true) : c ≠ '\n' := by
  rintro rfl
  exact absurd h (by decide)

theorem words_located {t body : Text} {p : Position} (h : Item.memory p body ∈ Document.items t)
    {w : MemoryWord} (hw : w ∈ words p body) : (Node.memory w).Located t := by
  obtain ⟨group, hgroup, hword⟩ := List.mem_filterMap.mp hw
  cases group with
  | nil => simp [word?] at hword
  | cons first rest =>
    obtain ⟨hchar, hdigit⟩ :=
      List.mem_filter.mp (mem_of_mem_groupsOfFour hgroup List.mem_cons_self)
    have hholds := holds_character h hchar (ne_newline_of_isHexDigit hdigit)
    rw [← Option.some.inj hword]
    exact ⟨first.1, hdigit, hholds⟩

end MemoryImage

theorem Document.nodes_located (file? : Option String) (t : Text) :
    ∀ n ∈ (read file? t).nodes, n.Located t := by
  intro n hn
  obtain ⟨before, item, after, hitems, hn⟩ :=
    exists_item_of_mem Contribution.nodes_empty Contribution.nodes_append hn
  have hitem : item ∈ items t := by
    rw [hitems]
    exact List.mem_append_right _ List.mem_cons_self
  cases item with
  | memory p body =>
    obtain ⟨w, hw, rfl⟩ := List.mem_map.mp hn
    exact MemoryImage.words_located hitem hw
  | line l => exact SourceLine.read_located (holds_line hitem) file? _ n hn

/-- The diagnostic covers exactly the given text, on one line of the document. -/
def Diagnostic.Covers (t : Text) (d : Diagnostic) (content : Text) : Prop :=
  ∃ line, d.line? = some line ∧ Document.Holds t line ⟨d.start, d.stop, content⟩

/-- The diagnostic is an error of the file and covers a part of one line of the document. -/
structure Diagnostic.PlacedIn (t : Text) (file? : Option String) (d : Diagnostic) : Prop where
  severity : d.severity = .error
  file : d.file? = file?
  covers : ∃ content, d.Covers t content

theorem MemoryImage.reports_covers {t body : Text} {p : Position}
    (h : Item.memory p body ∈ Document.items t) (file? : Option String) :
    ∀ d ∈ reports file? p body, d.severity = .error ∧ d.file? = file? ∧
      ∃ c ∈ body, Numeral.isHexDigit c = false ∧ Text.isBlank c = false ∧
        d.message = (Problem.memoryCharacter c).message ∧ d.Covers t [c] := by
  intro d hd
  obtain ⟨stranger, hstranger, rfl⟩ := List.mem_map.mp hd
  obtain ⟨hchar, hclass⟩ := List.mem_filter.mp hstranger
  rw [Bool.and_eq_true, Bool.not_eq_true', Bool.not_eq_true'] at hclass
  have hne : stranger.1 ≠ '\n' := by
    intro heq
    rw [heq] at hclass
    exact absurd hclass.2 (by decide)
  have hbody : stranger.1 ∈ body := by
    obtain ⟨u, w, hsplit, _⟩ := uncommented_split hchar
    rw [hsplit]
    simp
  exact ⟨rfl, rfl, stranger.1, hbody, hclass.1, hclass.2, rfl, _, rfl,
    holds_character h hchar hne⟩

namespace SourceLine

variable {t : Text} {l : SourceLine}

/-- The problems that are reported over the whole code of a line. -/
def codeProblems (code : Text) : List Problem :=
  [.literalDigits code, .literalRange, .labelName code,
    .unknownInstruction (Text.firstToken code).1]

/-- The diagnostic is one of the errors that are reported over the whole code of a line, which is
its text in front of a comment without blanks around it. -/
structure CoversCode (t : Text) (file? : Option String) (l : SourceLine) (d : Diagnostic) :
    Prop where
  problem : ∃ problem ∈ codeProblems (Text.trim (l.text.takeWhile (· != ';'))),
    d.message = problem.message
  severity : d.severity = .error
  file : d.file? = file?
  line : d.line? = some l.line
  covers : d.Covers t (Text.trim (l.text.takeWhile (· != ';')))

theorem report_coversCode (h : Item.line l ∈ Document.items t) (hcode : l.code ≠ [])
    (file? : Option String) {problem : Problem} (hproblem : problem ∈ codeProblems l.code) :
    ∀ d ∈ (l.report file? problem).diagnostics, l.CoversCode t file? d := by
  intro d hd
  rw [List.mem_singleton.mp hd]
  have hseverity : problem.severity = .error := by
    simp only [codeProblems, List.mem_cons, List.not_mem_nil, or_false] at hproblem
    rcases hproblem with rfl | rfl | rfl | rfl <;> rfl
  exact ⟨⟨problem, hproblem, rfl⟩, hseverity, rfl, rfl, _, rfl,
    holds_code (Document.holds_line h) hcode⟩

theorem read_coversCode (h : Item.line l ∈ Document.items t) (file? : Option String)
    (address : Int) (hkind : ∀ family, l.kind ≠ .instruction family) :
    ∀ d ∈ (l.read file? address).diagnostics, l.CoversCode t file? d := by
  have hfits := l.kind_fits
  unfold read
  cases hk : l.kind with
  | blank => simp
  | instruction family => exact absurd hk (hkind family)
  | literal digits =>
    rw [hk] at hfits
    obtain ⟨_, rest, hcode, _⟩ := hfits
    have hne : l.code ≠ [] := by simp [hcode]
    simp only [readLiteral]
    split
    · exact report_coversCode h hne file? (by simp [codeProblems])
    · split
      · simp [Contribution.ofNode]
      · exact report_coversCode h hne file? (by simp [codeProblems])
  | label name =>
    rw [hk] at hfits
    obtain ⟨_, rest, hcode, _⟩ := hfits
    have hne : l.code ≠ [] := by simp [hcode]
    simp only [readLabel]
    split
    · simp [Contribution.ofNode]
    · exact report_coversCode h hne file? (by simp [codeProblems])
  | unknown token =>
    rw [hk] at hfits
    obtain ⟨_, hne, _, rfl⟩ := hfits
    exact report_coversCode h hne file? (by simp [codeProblems])

theorem instructionReports_placedIn (h : Item.line l ∈ Document.items t) (file? : Option String)
    {s : Statement} (hs : Statement.ofLine? l.text = some s) (family : Family) :
    ∀ d ∈ l.instructionReports file? family s, d.PlacedIn t file? := by
  intro d hd
  unfold instructionReports at hd
  split at hd
  · rename_i found hfound
    obtain ⟨hseverity, _, hfile, hwithin⟩ := check_within hs hfound
    obtain ⟨hstart, hle, hstop⟩ := hwithin.line_bounds hs
    obtain ⟨content, hholds⟩ := (Document.holds_line h).range hstart hle hstop
    rw [List.mem_singleton.mp hd]
    exact ⟨hseverity, by simp [Diagnostic.placed, hfile], content, _, rfl, hholds⟩
  · simp at hd

theorem read_placedIn (h : Item.line l ∈ Document.items t) (file? : Option String)
    (address : Int) : ∀ d ∈ (l.read file? address).diagnostics, d.PlacedIn t file? := by
  intro d hd
  by_cases hkind : ∃ family, l.kind = .instruction family
  · obtain ⟨family, hkind⟩ := hkind
    obtain ⟨s, hs, hfamily⟩ := (l.kind_eq_instruction_iff_statement family).mp hkind
    simp only [read, hkind, readInstruction_eq file? address l hs hfamily] at hd
    exact instructionReports_placedIn h file? hs family d hd
  · have hcode := read_coversCode h file? address (fun family heq => hkind ⟨family, heq⟩) d hd
    exact ⟨hcode.severity, hcode.file, l.code, hcode.covers⟩

end SourceLine

namespace Document

theorem exists_item_of_diagnostic {file? : Option String} {t : Text} {d : Diagnostic}
    (h : d ∈ (read file? t).diagnostics) :
    ∃ item ∈ items t, ∃ address, d ∈ (item.read file? address).diagnostics := by
  obtain ⟨before, item, after, hitems, hd⟩ :=
    exists_item_of_mem Contribution.diagnostics_empty Contribution.diagnostics_append h
  refine ⟨item, ?_, _, hd⟩
  rw [hitems]
  exact List.mem_append_right _ List.mem_cons_self

theorem read_placedIn (file? : Option String) (t : Text) :
    ∀ d ∈ (read file? t).diagnostics, d.PlacedIn t file? := by
  intro d hd
  obtain ⟨item, hitem, address, hd⟩ := exists_item_of_diagnostic hd
  cases item with
  | memory p body =>
    obtain ⟨hseverity, hfile, c, _, _, _, _, hcovers⟩ :=
      MemoryImage.reports_covers hitem file? d hd
    exact ⟨hseverity, hfile, [c], hcovers⟩
  | line l => exact SourceLine.read_placedIn hitem file? address d hd

end Document

namespace Labels

/-- A name is not longer than the code behind the colon, since only blanks are left out. -/
theorem duplicate_placedIn {t : Text} {l : LabelDefinition} (h : (Node.label l).Located t)
    (file? : Option String) (first : LabelDefinition) :
    (duplicate file? l first).PlacedIn t file? := by
  obtain ⟨rest, hholds, hname⟩ := h
  have hlength : l.name.length ≤ rest.length := by
    rw [hname]
    exact List.length_filter_le _ _
  obtain ⟨content, hcontent⟩ := hholds.range (Int.le_refl 0)
    (by omega : (0 : Int) ≤ l.name.length + 1) (by rw [List.length_cons]; omega)
  refine ⟨rfl, rfl, content, l.line, rfl, ?_⟩
  have hstop : (l.name.length : Int) + 1 + l.column = l.column + l.name.length + 1 := by omega
  rw [Int.zero_add, hstop] at hcontent
  exact hcontent

theorem undefined_covers {t : Text} {l : Instruction} (h : (Node.instruction l).Located t)
    (file? : Option String) {op : Span} (hop : op ∈ l.statement.operands) :
    (undefined file? (l, op)).Covers t op.text := by
  have hholds := h op (by simp [Statement.spans, hop])
  rw [Int.add_comm l.column, Int.add_comm l.column] at hholds
  exact ⟨l.line, rfl, hholds⟩

end Labels

theorem Resolution.diagnostics_placedIn {t : Text} {nodes : List Node}
    (h : ∀ n ∈ nodes, n.Located t) (file? : Option String) :
    ∀ d ∈ (Resolution.ofNodes file? nodes).diagnostics, d.PlacedIn t file? := by
  intro d hd
  rcases diagnostic_cases hd with ⟨l, first, hl, _, _, rfl⟩ | ⟨l, op, hl, _, hop, _, _, rfl⟩
  · exact Labels.duplicate_placedIn (h _ hl) file? first
  · exact ⟨rfl, rfl, op.text, Labels.undefined_covers (h _ hl) file? hop⟩

/-- What the coordinates of a document say. -/
structure Document.ExactCoordinates (file? : Option String) (t : Text) : Prop where
  /-- Every diagnostic, of the lines or of the label pass, is an error of the file inside one line
  of the document. -/
  placed : ∀ d ∈ (read file? t).diagnostics ++
    (Resolution.ofNodes file? (read file? t).nodes).diagnostics, d.PlacedIn t file?
  origin : ∀ d ∈ (read file? t).diagnostics, ∃ item ∈ items t, ∃ address,
    d ∈ (item.read file? address).diagnostics
  /-- A report on a memory section covers the one character that does not belong there. -/
  character : ∀ p body, Item.memory p body ∈ items t → ∀ address,
    ∀ d ∈ ((Item.memory p body).read file? address).diagnostics,
      ∃ c ∈ body, Numeral.isHexDigit c = false ∧ Text.isBlank c = false ∧
        d.message = (Problem.memoryCharacter c).message ∧ d.Covers t [c]
  /-- A report on a line that is no instruction covers the trimmed code of the line. -/
  code : ∀ l, Item.line l ∈ items t → (∀ family, l.kind ≠ .instruction family) → ∀ address,
    ∀ d ∈ ((Item.line l).read file? address).diagnostics, l.CoversCode t file? d
  /-- A report of the label pass is about a repeated definition, or it is about a label without a
  definition and covers the operand that uses it. -/
  labels : ∀ d ∈ (Resolution.ofNodes file? (read file? t).nodes).diagnostics,
    (∃ l first, Node.label l ∈ (read file? t).nodes ∧ Node.label first ∈ (read file? t).nodes ∧
      first.name = l.name ∧
      d.message = s!"Label \"{String.ofList l.name}\" is already defined at {first.line}" ∧
      d.line? = some l.line ∧ d.start = l.column ∧ d.stop = l.column + l.name.length + 1) ∨
    ∃ l op, Node.instruction l ∈ (read file? t).nodes ∧ op ∈ l.statement.operands ∧
      Operand.Kind.ofText? op.text = some .label ∧
      (∀ m, Node.label m ∈ (read file? t).nodes → op.text ≠ ':' :: m.name) ∧
      d.message = s!"Label \"{String.ofList op.text}\" is not defined." ∧
      d.line? = some l.line ∧ d.start = op.start + l.column ∧ d.stop = op.stop + l.column ∧
      d.Covers t op.text
  line : ∀ l, Item.line l ∈ items t → Holds t l.line (Span.ofText l.column l.text)
  span : ∀ l, Node.instruction l ∈ (read file? t).nodes → ∀ span ∈ l.statement.spans,
    Holds t l.line ⟨l.column + span.start, l.column + span.stop, span.text⟩
  label : ∀ l, Node.label l ∈ (read file? t).nodes → Holds t l.line ⟨l.column, l.column + 1, [':']⟩
  literal : ∀ w, Node.literal w ∈ (read file? t).nodes →
    Holds t w.line ⟨w.column, w.column + 1, ['!']⟩
  memory : ∀ w, Node.memory w ∈ (read file? t).nodes → ∃ c, Numeral.isHexDigit c = true ∧
    Holds t w.line ⟨w.column, w.column + 1, [c]⟩

theorem coordinates_exact (file? : Option String) (t : Text) :
    Document.ExactCoordinates file? t := by
  have hnodes := Document.nodes_located file? t
  refine
    { placed := ?_
      origin := fun d hd => Document.exists_item_of_diagnostic hd
      character := ?_
      code := fun l hl hkind address => SourceLine.read_coversCode hl file? address hkind
      labels := ?_
      line := fun l hl => Document.holds_line hl
      span := fun l hl => hnodes _ hl
      label := ?_
      literal := fun w hw => hnodes _ hw
      memory := fun w hw => hnodes _ hw }
  · intro d hd
    rcases List.mem_append.mp hd with hd | hd
    · exact Document.read_placedIn file? t d hd
    · exact Resolution.diagnostics_placedIn hnodes file? d hd
  · intro p body hitem address d hd
    exact (MemoryImage.reports_covers hitem file? d hd).2.2
  · intro d hd
    rcases Resolution.diagnostic_cases hd with
      ⟨l, first, hl, hfirst, hname, rfl⟩ | ⟨l, op, hl, _, hop, hlabel, hundefined, rfl⟩
    · exact Or.inl ⟨l, first, hl, hfirst, hname, rfl, rfl, rfl, rfl⟩
    · exact Or.inr ⟨l, op, hl, hop, hlabel, hundefined, rfl, rfl, rfl, rfl,
        Labels.undefined_covers (hnodes _ hl) file? hop⟩
  · intro l hl
    obtain ⟨rest, hholds, _⟩ := hnodes _ hl
    have hcolon : Span.CutFrom (':' :: rest) (Span.ofText 0 [':']) :=
      (Span.cutFrom_iff _ _).mpr ⟨[], rest, rfl, rfl, rfl⟩
    have hslice := hholds.sliceText hcolon
    rwa [Int.add_zero] at hslice

end AsmCheck
