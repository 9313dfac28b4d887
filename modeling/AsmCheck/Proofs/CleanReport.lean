import AsmCheck.Proofs.Addresses
import AsmCheck.Proofs.LabelTable
import AsmCheck.Proofs.WordValues
import AsmCheck.Report

/-!
# Reports without diagnostics

A text without diagnostics is a program: its words of code are numbered without a gap, its
instructions are valid, each label names the word that follows it, each use of a label has its
definition, and all values fit in a word.
-/

namespace AsmCheck

set_option autoImplicit false

/-- The node is valid by itself: its instruction is accepted, or its value fits in a word. -/
def Node.Sound : Node → Prop
  | .instruction l => l.valid = true ∧ l.family.check l.statement = none
  | .literal w => w.value < 65536
  | .memory w => w.value < 65536
  | _ => True

theorem SourceLine.Adds.sound {file? : Option String} {address : Int} {l : SourceLine}
    {added : Contribution} (h : l.Adds file? address added) (hclean : added.diagnostics = []) :
    ∀ n ∈ added.nodes, n.Sound := by
  cases h with
  | nothing => simp
  | @instruction s family =>
    intro n hn
    rw [List.mem_singleton.mp hn]
    cases hcheck : family.check s with
    | none => exact ⟨by simp [instructionNode, hcheck], hcheck⟩
    | some d => simp [instructionReports, hcheck] at hclean
  | literal value _ hvalue =>
    intro n hn
    rw [List.mem_singleton.mp hn]
    exact hvalue
  | label =>
    intro n hn
    rw [List.mem_singleton.mp hn]
    trivial
  | report => simp [SourceLine.report, Contribution.ofDiagnostic]

theorem Item.read_sound {file? : Option String} {address : Int} {item : Item}
    (hclean : (item.read file? address).diagnostics = []) :
    ∀ n ∈ (item.read file? address).nodes, n.Sound := by
  cases item with
  | memory p body =>
    intro n hn
    obtain ⟨w, hw, rfl⟩ := List.mem_map.mp hn
    exact MemoryImage.words_value_lt hw
  | line l => exact (l.read_adds file? address).sound hclean

theorem Document.readFrom_sound {file? : Option String} {address : Int} {items : List Item}
    (hclean : (readFrom file? address items).diagnostics = []) :
    ∀ n ∈ (readFrom file? address items).nodes, n.Sound := by
  induction items generalizing address with
  | nil => simp [readFrom]
  | cons item rest ih =>
    rw [readFrom_cons, Contribution.diagnostics_append, List.append_eq_nil_iff] at hclean
    intro n hn
    rw [readFrom_cons, Contribution.nodes_append] at hn
    rcases List.mem_append.mp hn with hitem | hrest
    · exact Item.read_sound hclean.1 n hitem
    · exact ih hclean.2 n hrest

namespace Resolution

@[simp] theorem symbols_ofNodes (file? : Option String) (nodes : List Node) :
    (ofNodes file? nodes).symbols = Labels.table nodes := rfl

theorem fresh_of_clean {file? : Option String} {nodes : List Node}
    (hclean : (ofNodes file? nodes).diagnostics = []) :
    SymbolTable.Fresh [] (Labels.definitions nodes) :=
  (Labels.repetitions_eq_nil_iff file? [] _).mp (List.append_eq_nil_iff.mp hclean).1

theorem find?_of_clean {file? : Option String} {nodes : List Node} {l : LabelDefinition}
    (hclean : (ofNodes file? nodes).diagnostics = []) (hl : Node.label l ∈ nodes) :
    (ofNodes file? nodes).symbols.find? l.name = some l.symbol := by
  have hfresh := fresh_of_clean hclean
  rw [symbols_ofNodes, Labels.table_eq_map hfresh]
  exact Labels.find?_symbol hfresh.distinct (Labels.mem_definitions.mpr hl)

theorem isDefined_of_clean {file? : Option String} {nodes : List Node} {l : Instruction}
    {op : Span} (hclean : (ofNodes file? nodes).diagnostics = [])
    (hl : Node.instruction l ∈ nodes) (hvalid : l.valid = true)
    (hop : op ∈ l.statement.operands) (hlabel : Operand.Kind.ofText? op.text = some .label) :
    (ofNodes file? nodes).symbols.isDefined (op.text.drop 1) = true := by
  have huses := List.flatMap_eq_nil_iff.mp (List.append_eq_nil_iff.mp hclean).2 _ hl
  simp only [Labels.undefinedUses, hvalid, if_true, List.map_eq_nil_iff,
    List.filter_eq_nil_iff] at huses
  have huse := huses op hop
  simpa [Labels.isUndefinedUse, hlabel] using huse

/-- In nodes that are numbered from the base, a label is mapped to an address of the code or to the
one behind it. -/
theorem symbol_of_clean {file? : Option String} {nodes before after : List Node}
    {l : LabelDefinition} (hclean : (ofNodes file? nodes).diagnostics = [])
    (hnumbered : Numbered codeBase nodes) (hsplit : nodes = before ++ .label l :: after) :
    ∃ symbol, (ofNodes file? nodes).symbols.find? l.name = some symbol ∧
      symbol.address = codeBase + before.countP Node.isCode ∧
      codeBase ≤ symbol.address ∧
      symbol.address ≤ codeBase + (ofNodes file? nodes).codeSize := by
  have hl : Node.label l ∈ nodes := by
    rw [hsplit]
    exact List.mem_append_right _ List.mem_cons_self
  have haddress : l.symbol.address = codeBase + before.countP Node.isCode := by
    rw [hsplit] at hnumbered
    exact hnumbered.label_address
  have hsize : (ofNodes file? nodes).codeSize =
      before.countP Node.isCode + (Node.label l :: after).countP Node.isCode := by
    rw [← List.countP_append, ← hsplit]
    rfl
  exact ⟨l.symbol, find?_of_clean hclean hl, haddress, by omega, by omega⟩

end Resolution

theorem Report.diagnostics_eq_nil_iff (file? : Option String) (t : Text) :
    (Report.ofText file? (-1) t).diagnostics = [] ↔
      (Document.read file? t).diagnostics = [] ∧
        (Resolution.ofNodes file? (Document.read file? t).nodes).diagnostics = [] := by
  rw [← List.append_eq_nil_iff]
  change List.mergeSort _ _ = [] ↔ _
  rw [← List.length_eq_zero_iff, List.length_mergeSort, List.length_eq_zero_iff]

/-- What a report without diagnostics says about its text. -/
structure Report.Sound (report : Report) : Prop where
  /-- Words of code are numbered from the base, without a gap or a repetition. -/
  addresses : report.nodes.filterMap Node.codeAddress? =
    (List.range report.resolution.codeSize).map fun (i : Nat) => (0x40 : Int) + i
  accepted : ∀ l, Node.instruction l ∈ report.nodes →
    l.valid = true ∧ l.family.check l.statement = none
  names_distinct : ((Nodes.labels report.nodes).map LabelDefinition.name).Nodup
  names_defined : report.resolution.symbols.map Symbol.name =
    (Nodes.labels report.nodes).map LabelDefinition.name
  /-- A label is mapped to the base plus the number of words of code before it. -/
  symbol_address : ∀ before l after, report.nodes = before ++ .label l :: after →
    ∃ symbol, report.resolution.symbols.find? l.name = some symbol ∧
      symbol.address = 0x40 + ((Nodes.instructions before).length +
        (Nodes.literals before).length : Nat) ∧
      0x40 ≤ symbol.address ∧ symbol.address ≤ 0x40 + report.resolution.codeSize
  uses_defined : ∀ l, Node.instruction l ∈ report.nodes → ∀ op ∈ l.statement.operands,
    Operand.Kind.ofText? op.text = some .label →
      ∃ symbol ∈ report.resolution.symbols, op.text = ':' :: symbol.name
  literal_values : ∀ w, Node.literal w ∈ report.nodes → w.value < 65536
  memory_values : ∀ w, Node.memory w ∈ report.nodes → w.value < 65536
  codeSize_eq : report.resolution.codeSize =
    (Nodes.instructions report.nodes).length + (Nodes.literals report.nodes).length
  memorySize_eq : report.resolution.memorySize = (Nodes.memoryWords report.nodes).length

theorem clean_report_sound (file? : Option String) (t : Text)
    (h : (Report.ofText file? (-1) t).diagnostics = []) : (Report.ofText file? (-1) t).Sound := by
  obtain ⟨hlines, hlabels⟩ := (Report.diagnostics_eq_nil_iff file? t).mp h
  have hnumbered := Document.readFrom_numbered hlines
  have hsound := Document.readFrom_sound hlines
  have hfresh := Resolution.fresh_of_clean hlabels
  refine
    { addresses := hnumbered.codeAddresses
      accepted := fun l hl => hsound _ hl
      names_distinct := hfresh.distinct
      names_defined := ?_
      symbol_address := ?_
      uses_defined := ?_
      literal_values := fun w hw => hsound _ hw
      memory_values := fun w hw => hsound _ hw
      codeSize_eq := Nodes.countP_isCode _
      memorySize_eq := Nodes.countP_isMemory _ }
  · change (Labels.table (Document.read file? t).nodes).map Symbol.name = _
    rw [Labels.table_eq_map hfresh, List.map_map]
    rfl
  · intro before l after hsplit
    rw [← Nodes.countP_isCode]
    exact Resolution.symbol_of_clean hlabels hnumbered hsplit
  · intro l hl op hop hlabel
    have hdefined := Resolution.isDefined_of_clean hlabels hl (hsound _ hl).1 hop hlabel
    obtain ⟨symbol, hsymbol, hname⟩ := (SymbolTable.isDefined_iff _ _).mp hdefined
    refine ⟨symbol, hsymbol, ?_⟩
    rw [hname]
    exact Operand.eq_cons_of_label hlabel

/-- A loop over one label, in front of a word that a second label follows. -/
theorem clean_report_sound_loop :
    let t := ".memory\n12 34 5\n.code\n:a\n jmp :a\n!FFFF\n:b".toList
    (Report.ofText none (-1) t).diagnostics = [] ∧
      (Report.ofText none (-1) t).resolution.codeSize = 2 ∧
      (Report.ofText none (-1) t).Sound := by
  intro t
  have hclean : (Report.ofText none (-1) t).diagnostics = [] := by
    rw [Report.diagnostics_eq_nil_iff]
    decide +kernel
  exact ⟨hclean, by decide +kernel, clean_report_sound none t hclean⟩

end AsmCheck
