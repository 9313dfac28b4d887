import AsmCheck.Proofs.LabelTable
import AsmCheck.Proofs.LineReading
import AsmCheck.Proofs.OperandGrammar

/-!
# The label pass

The table of labels finds a name exactly where the first definition of the name stands among all
definitions. With this the pass is described without its table: what is reported about a definition
depends on the definitions before it, and what is reported about a use on all definitions, wherever
they stand.
-/

namespace AsmCheck

set_option autoImplicit false

/-- The first of some definitions that gives a name. -/
def LabelDefinition.first? (definitions : List LabelDefinition) (name : Text) :
    Option LabelDefinition :=
  definitions.find? fun l => l.name == name

namespace SymbolTable

theorem find?_define (table : SymbolTable) (l : LabelDefinition) (name : Text) :
    (table.define l).find? name =
      (table.find? name).or (if l.name == name then some l.symbol else none) := by
  cases h : table.isDefined l.name with
  | true =>
    rw [define_of_isDefined h]
    split
    · rename_i heq
      rw [← eq_of_beq heq]
      exact (Option.or_of_isSome h).symm
    · exact Option.or_none.symm
  | false =>
    rw [define_of_not_isDefined h, find?, List.find?_append, List.find?_singleton]
    rfl

/-- Definitions are found behind those of the table, each name at its first definition. -/
theorem find?_foldl_define (table : SymbolTable) (definitions : List LabelDefinition)
    (name : Text) :
    (definitions.foldl define table).find? name =
      (table.find? name).or ((LabelDefinition.first? definitions name).map (·.symbol)) := by
  induction definitions generalizing table with
  | nil => simp [LabelDefinition.first?]
  | cons l rest ih =>
    rw [List.foldl_cons, ih, find?_define, Option.or_assoc]
    unfold LabelDefinition.first?
    rw [List.find?_cons]
    cases l.name == name with
    | true => rfl
    | false => rfl

/-- The table holds each name once, in the order of the first definitions. -/
theorem map_name_foldl_define (definitions : List LabelDefinition) :
    (definitions.foldl define []).map Symbol.name =
      (definitions.map LabelDefinition.name).eraseDups := by
  induction definitions using List.reverseRecOn with
  | nil => rfl
  | append_singleton definitions l ih =>
    have hused : (definitions.foldl define []).isDefined l.name = true ↔
        l.name ∈ definitions.map LabelDefinition.name := by
      rw [isDefined_iff, ← List.mem_eraseDups, ← ih]
      exact List.mem_map.symm
    rw [List.foldl_append, List.foldl_cons, List.foldl_nil, List.map_append, List.eraseDups_append,
      ← ih, List.map_singleton, List.cons_removeAll]
    cases h : SymbolTable.isDefined (definitions.foldl define []) l.name with
    | true =>
      rw [define_of_isDefined h, if_neg (by simpa using hused.mp h)]
      exact (List.append_nil _).symm
    | false =>
      have hfresh : l.name ∉ definitions.map LabelDefinition.name := by
        rw [← hused, h]
        exact Bool.false_ne_true
      rw [define_of_not_isDefined h, if_pos (by simpa using hfresh), List.map_append]
      rfl

end SymbolTable

namespace Labels

theorem find?_table (nodes : List Node) (name : Text) :
    (table nodes).find? name =
      (LabelDefinition.first? (definitions nodes) name).map (·.symbol) :=
  SymbolTable.find?_foldl_define [] (definitions nodes) name

/-- The report of a definition whose name was given by an earlier one. -/
def duplicate (file? : Option String) (l first : LabelDefinition) : Diagnostic :=
  { severity := .error
    message := s!"Label \"{String.ofList l.name}\" is already defined at {first.line}"
    start := l.column
    stop := l.column + l.name.length + 1
    line? := some l.line
    file? := file? }

/-- The report of the definition at an index, if one before it gives its name. -/
def duplicate? (file? : Option String) (definitions : List LabelDefinition)
    (indexed : LabelDefinition × Nat) : Option Diagnostic :=
  (LabelDefinition.first? (definitions.take indexed.2) indexed.1.name).map
    (duplicate file? indexed.1)

/-- The pass at any definition: its table holds the definitions that it has passed. -/
theorem repetitions_eq_filterMap (file? : Option String) {all passed rest : List LabelDefinition}
    (h : all = passed ++ rest) :
    repetitions file? (passed.foldl SymbolTable.define []) rest =
      (rest.zipIdx passed.length).filterMap (duplicate? file? all) := by
  induction rest generalizing passed with
  | nil => rfl
  | cons l rest ih =>
    have hnext := ih (h.trans (List.append_cons passed l rest))
    rw [List.foldl_append, List.foldl_cons, List.foldl_nil, List.length_append,
      List.length_singleton] at hnext
    have hhere : duplicate? file? all (l, passed.length) =
        (LabelDefinition.first? passed l.name).map (duplicate file? l) := by
      rw [duplicate?, h, List.take_left]
    rw [repetitions, hnext, SymbolTable.find?_foldl_define, List.zipIdx_cons, List.filterMap_cons,
      hhere]
    cases LabelDefinition.first? passed l.name with
    | none => rfl
    | some first => rfl

theorem repetitions_nil_eq (file? : Option String) (definitions : List LabelDefinition) :
    repetitions file? [] definitions =
      definitions.zipIdx.filterMap (duplicate? file? definitions) :=
  repetitions_eq_filterMap file? (List.nil_append definitions).symm

/-- The operands of a valid instruction that are labels, each with its instruction. -/
def nodeUses : Node → List (Instruction × Span)
  | .instruction l =>
    if l.valid then
      (l.statement.operands.filter (Operand.Kind.ofText? ·.text == some .label)).map (l, ·)
    else []
  | _ => []

def uses (nodes : List Node) : List (Instruction × Span) := nodes.flatMap nodeUses

/-- Whether no definition gives the name that is used. -/
def isUndefined (definitions : List LabelDefinition) (use : Instruction × Span) : Bool :=
  definitions.all fun l => use.2.text != ':' :: l.name

/-- The report of a use of a label that is not defined. -/
def undefined (file? : Option String) (use : Instruction × Span) : Diagnostic :=
  { severity := .error
    message := s!"Label \"{String.ofList use.2.text}\" is not defined."
    start := use.2.start + use.1.column
    stop := use.2.stop + use.1.column
    line? := some use.1.line
    file? := file? }

theorem isDefined_table (nodes : List Node) (name : Text) :
    (table nodes).isDefined name = (definitions nodes).any fun l => l.name == name := by
  rw [SymbolTable.isDefined, find?_table, Option.isSome_map, LabelDefinition.first?,
    List.isSome_find?]

/-- The name of an operand that is a label is its text behind the colon. -/
theorem isUndefinedUse_table (nodes : List Node) (l : Instruction) (op : Span) :
    isUndefinedUse (table nodes) op =
      (Operand.Kind.ofText? op.text == some .label &&
        isUndefined (definitions nodes) (l, op)) := by
  rw [isUndefinedUse, isDefined_table, isUndefined]
  by_cases hlabel : Operand.Kind.ofText? op.text = some .label
  · have hname : ∀ name, (op.text != ':' :: name) = !(name == op.text.drop 1) := by
      intro name
      rw [Operand.eq_cons_of_label hlabel, bne, List.cons_beq_cons, beq_self_eq_true,
        Bool.true_and, BEq.comm]
      rfl
    simp only [hname, List.not_any_eq_all_not]
  · rw [beq_false_of_ne hlabel, Bool.false_and, Bool.false_and]

/-- One node at a time: its uses are the operands that are labels, filtered by the definitions. -/
theorem undefinedUses_table (file? : Option String) (nodes : List Node) (n : Node) :
    undefinedUses file? (table nodes) n =
      ((nodeUses n).filter (isUndefined (definitions nodes))).map (undefined file?) := by
  cases n with
  | instruction l =>
    rw [undefinedUses, nodeUses]
    split
    · rw [List.filter_map, List.map_map, List.filter_filter]
      have hreport : ∀ op, ((Problem.labelUndefined op.text).mark op).placed l.line l.column file? =
          undefined file? (l, op) := by
        intro op
        rw [Diagnostic.placed, undefined]
        cases file? with
        | none => rfl
        | some file => rfl
      simp only [hreport]
      congr 1
      apply List.filter_congr
      intro op _
      rw [isUndefinedUse_table nodes l, Bool.and_comm]
      rfl
    · rfl
  | _ => rfl

/-- Uses are reported by all definitions, wherever they stand. -/
theorem flatMap_undefinedUses (file? : Option String) (nodes : List Node) :
    nodes.flatMap (undefinedUses file? (table nodes)) =
      ((uses nodes).filter (isUndefined (definitions nodes))).map (undefined file?) := by
  rw [uses, List.filter_flatMap, List.map_flatMap]
  exact List.flatMap_congr fun n _ => undefinedUses_table file? nodes n

/-- Only the names of the definitions that follow are looked up in the table. -/
theorem repetitions_congr (file? : Option String) {table other : SymbolTable}
    {definitions : List LabelDefinition}
    (h : ∀ l ∈ definitions, table.find? l.name = other.find? l.name) :
    repetitions file? table definitions = repetitions file? other definitions := by
  induction definitions generalizing table other with
  | nil => rfl
  | cons l rest ih =>
    have hrest : ∀ m ∈ rest, (table.define l).find? m.name = (other.define l).find? m.name := by
      intro m hm
      rw [SymbolTable.find?_define, SymbolTable.find?_define, h m (List.mem_cons_of_mem l hm)]
    rw [repetitions, repetitions, h l List.mem_cons_self, ih hrest]

theorem repetitions_insert (file? : Option String) {table : SymbolTable} {l : LabelDefinition}
    {before after : List LabelDefinition} (htable : table.find? l.name = none)
    (hunique : ∀ m ∈ before ++ after, m.name ≠ l.name) :
    repetitions file? table (before ++ l :: after) =
      repetitions file? table (before ++ after) := by
  induction before generalizing table with
  | nil =>
    -- The definition itself is not reported, and it hides no other name from those behind it.
    rw [List.nil_append, repetitions, htable]
    apply repetitions_congr
    intro m hm
    rw [SymbolTable.find?_define, if_neg (by simpa using Ne.symm (hunique m hm)), Option.or_none]
  | cons first before ih =>
    have hfirst : first.name ≠ l.name := hunique first List.mem_cons_self
    have hnext : (table.define first).find? l.name = none := by
      rw [SymbolTable.find?_define, htable, if_neg (by simpa using hfirst), Option.or_none]
    rw [List.cons_append, List.cons_append, repetitions, repetitions,
      ih hnext fun m hm => hunique m (List.mem_cons_of_mem first hm)]

theorem definitions_insert (l : LabelDefinition) (before after : List Node) :
    definitions (before ++ .label l :: after) = definitions before ++ l :: definitions after := by
  rw [definitions, List.filterMap_append]
  rfl

theorem uses_insert (l : LabelDefinition) (before after : List Node) :
    uses (before ++ .label l :: after) = uses (before ++ after) := by
  rw [uses, uses, List.flatMap_append, List.flatMap_append]
  rfl

end Labels

namespace Resolution

open Labels

theorem diagnostics_eq (file? : Option String) (nodes : List Node) :
    (ofNodes file? nodes).diagnostics =
      repetitions file? [] (definitions nodes) ++
        ((uses nodes).filter (isUndefined (definitions nodes))).map (undefined file?) := by
  rw [← flatMap_undefinedUses]
  rfl

/-- A report of the pass is about a definition whose name another one gives as well, or about an
operand whose name no definition gives. -/
theorem diagnostic_cases {file? : Option String} {nodes : List Node} {d : Diagnostic}
    (h : d ∈ (ofNodes file? nodes).diagnostics) :
    (∃ l first, Node.label l ∈ nodes ∧ Node.label first ∈ nodes ∧ first.name = l.name ∧
      d = duplicate file? l first) ∨
    ∃ l op, Node.instruction l ∈ nodes ∧ l.valid = true ∧ op ∈ l.statement.operands ∧
      Operand.Kind.ofText? op.text = some .label ∧
      (∀ m, Node.label m ∈ nodes → op.text ≠ ':' :: m.name) ∧ d = undefined file? (l, op) := by
  rw [diagnostics_eq, repetitions_nil_eq] at h
  rcases List.mem_append.mp h with h | h
  · obtain ⟨⟨l, i⟩, hl, hfirst⟩ := List.mem_filterMap.mp h
    obtain ⟨first, hfind, rfl⟩ := Option.map_eq_some_iff.mp hfirst
    have hname : (first.name == l.name) = true :=
      List.find?_some (p := fun m : LabelDefinition => m.name == l.name) hfind
    refine Or.inl ⟨l, first, ?_, ?_, eq_of_beq hname, rfl⟩
    · exact mem_definitions.mp (List.fst_mem_of_mem_zipIdx hl)
    · exact mem_definitions.mp (List.mem_of_mem_take (List.mem_of_find?_eq_some hfind))
  · obtain ⟨⟨l, op⟩, huse, rfl⟩ := List.mem_map.mp h
    obtain ⟨huse, hundefined⟩ := List.mem_filter.mp huse
    obtain ⟨n, hn, huse⟩ := List.mem_flatMap.mp huse
    cases n with
    | instruction other =>
      rw [nodeUses] at huse
      split at huse
      · rename_i hvalid
        obtain ⟨other, hop, heq⟩ := List.mem_map.mp huse
        obtain ⟨rfl, rfl⟩ := Prod.mk.inj heq
        obtain ⟨hop, hlabel⟩ := List.mem_filter.mp hop
        refine Or.inr ⟨_, _, hn, hvalid, hop, eq_of_beq hlabel, ?_, rfl⟩
        intro m hm
        exact bne_iff_ne.mp (List.all_eq_true.mp hundefined m (mem_definitions.mpr hm))
      · cases huse
    | _ => cases huse

/-- The place of a definition with a name of its own does not count. -/
theorem diagnostics_insert (file? : Option String) {l : LabelDefinition} {before after : List Node}
    (hunique : ∀ m ∈ definitions (before ++ after), m.name ≠ l.name) :
    (ofNodes file? (before ++ .label l :: after)).diagnostics =
      repetitions file? [] (definitions (before ++ after)) ++
        ((uses (before ++ after)).filter
          (isUndefined (l :: definitions (before ++ after)))).map (undefined file?) := by
  have hsplit : definitions (before ++ after) = definitions before ++ definitions after :=
    List.filterMap_append
  rw [hsplit] at hunique ⊢
  have hdefined : isUndefined (definitions before ++ l :: definitions after) =
      isUndefined (l :: (definitions before ++ definitions after)) := by
    funext use
    simp [isUndefined, Bool.and_left_comm]
  rw [diagnostics_eq, definitions_insert, uses_insert, repetitions_insert file? rfl hunique,
    hdefined]

end Resolution

namespace Operand

theorem isBlank_of_isLabelChar {c : Char} (h : isLabelChar c = true) : Text.isBlank c = false := by
  have hupper : c.isUpper = true → c.toNat ≤ 'Z'.toNat := fun h => (of_decide_eq_true h).2
  have hlower : c.isLower = true → c.toNat ≤ 'z'.toNat :=
    fun h => of_decide_eq_true ((Bool.and_eq_true _ _).mp h).2
  have hascii : c.toNat < 128 := by
    change (c.isUpper || c.isLower || c.isDigit || c == '_') = true at h
    rw [Bool.or_eq_true, Bool.or_eq_true, Bool.or_eq_true, beq_iff_eq] at h
    rcases h with ((h | h) | h) | rfl
    · exact lt_of_le_of_lt (hupper h) (by decide)
    · exact lt_of_le_of_lt (hlower h) (by decide)
    · exact lt_of_le_of_lt (Char.isDigit_iff_toNat.mp h).2 (by decide)
    · decide
  exact Text.forall_ascii (P := fun c => isLabelChar c = true → Text.isBlank c = false)
    (by decide) hascii h

/-- What can name a label is read as a label behind a colon. -/
theorem ofText?_label {name : Text} (h : isLabelName name = true) :
    Kind.ofText? (':' :: name) = some .label := by
  have hchars : ∀ c ∈ name, isLabelChar c = true := by
    rw [isLabelName, Bool.and_eq_true, List.all_eq_true] at h
    exact h.2
  have htrimmed : Text.Trimmed (':' :: name) := by
    refine ⟨?_, ?_⟩
    · intro c hc
      obtain rfl : ':' = c := Option.some.inj hc
      decide
    · intro c hc
      rcases List.mem_cons.mp (List.mem_of_getLast? hc) with rfl | hmem
      · decide
      · exact isBlank_of_isLabelChar (hchars c hmem)
  refine Kind.ofText?_of_hasShape htrimmed h rfl ?_
  intro hkind
  cases hkind

end Operand

theorem Document.isLabelName_of_mem {file? : Option String} {t : Text} {l : LabelDefinition}
    (h : Node.label l ∈ (read file? t).nodes) : Operand.isLabelName l.name = true := by
  obtain ⟨before, item, after, _, hitem⟩ :=
    exists_item_of_mem Contribution.nodes_empty Contribution.nodes_append h
  cases item with
  | memory p body => simp [Item.read] at hitem
  | line source =>
    have hadds := source.read_adds file? (codeBase + words before)
    change Node.label l ∈ (source.read file? _).nodes at hitem
    generalize source.read file? _ = added at hadds hitem
    cases hadds with
    | label name _ hname =>
      obtain rfl := Node.label.inj (List.mem_singleton.mp hitem)
      exact hname
    | nothing => simp at hitem
    | instruction => simp at hitem
    | literal => simp [Contribution.ofNode] at hitem
    | report => simp [SourceLine.report, Contribution.ofDiagnostic] at hitem

/-- The result of the label pass, without its table. -/
structure Resolution.Describes (file? : Option String) (nodes : List Node) (r : Resolution) :
    Prop where
  names : r.symbols.map Symbol.name =
    ((Nodes.labels nodes).map LabelDefinition.name).eraseDups
  addresses : ∀ name, (r.symbols.find? name).map Symbol.address =
    (LabelDefinition.first? (Nodes.labels nodes) name).map LabelDefinition.address
  codeSize : r.codeSize = (Nodes.instructions nodes).length + (Nodes.literals nodes).length
  memorySize : r.memorySize = (Nodes.memoryWords nodes).length
  diagnostics : r.diagnostics =
    (Nodes.labels nodes).zipIdx.filterMap (Labels.duplicate? file? (Nodes.labels nodes)) ++
    ((Labels.uses nodes).filter (Labels.isUndefined (Nodes.labels nodes))).map
      (Labels.undefined file?)

/-- The label pass over any nodes. The first definition of a name counts, each later one is
reported, and so is each use of a name that is nowhere defined. A label with a name of its own can
be defined anywhere, and every label of a document can be used. -/
theorem label_pass (file? : Option String) :
    (∀ nodes, (Resolution.ofNodes file? nodes).Describes file? nodes) ∧
    (∀ l before after before' after', before ++ after = before' ++ after' →
      (∀ m, Node.label m ∈ before ++ after → m.name ≠ l.name) →
        (Resolution.ofNodes file? (before ++ .label l :: after)).diagnostics =
          (Resolution.ofNodes file? (before' ++ .label l :: after')).diagnostics) ∧
    ∀ t l, Node.label l ∈ (Document.read file? t).nodes →
      Operand.Kind.ofText? (':' :: l.name) = some .label := by
  refine ⟨?_, ?_, ?_⟩
  · intro nodes
    exact
      { names := SymbolTable.map_name_foldl_define (Labels.definitions nodes)
        addresses := fun name => by
          change ((Labels.table nodes).find? name).map Symbol.address = _
          rw [Labels.find?_table, Option.map_map, Nodes.definitions_eq_labels]
          rfl
        codeSize := Nodes.countP_isCode nodes
        memorySize := Nodes.countP_isMemory nodes
        diagnostics := by
          rw [Resolution.diagnostics_eq, Labels.repetitions_nil_eq, Nodes.definitions_eq_labels] }
  · intro l before after before' after' hsame hunique
    have hnames : ∀ m ∈ Labels.definitions (before ++ after), m.name ≠ l.name :=
      fun m hm => hunique m (Labels.mem_definitions.mp hm)
    rw [Resolution.diagnostics_insert file? hnames, hsame]
    rw [hsame] at hnames
    exact (Resolution.diagnostics_insert file? hnames).symm
  · intro t l hl
    exact Operand.ofText?_label (Document.isLabelName_of_mem hl)

/-- The label is found on a line behind its use, and it may as well stand in front of it. -/
theorem label_pass_forward :
    let t := ".code\njump :x\n: x".toList
    let x : LabelDefinition := ⟨['x'], 3, 0, 0x41⟩
    let others := (Document.read none t).nodes.take 1
    Node.label x ∈ (Document.read none t).nodes ∧
      Operand.Kind.ofText? [':', 'x'] = some .label ∧
      (∀ m, Node.label m ∈ others ++ [] → m.name ≠ x.name) ∧
      (Resolution.ofNodes none ([] ++ .label x :: others)).diagnostics =
        (Resolution.ofNodes none (others ++ .label x :: [])).diagnostics ∧
      (Labels.uses others).length = 1 := by
  intro t x others
  have hx : Node.label x ∈ (Document.read none t).nodes := by decide +kernel
  have hnone : Labels.definitions others = [] := by decide +kernel
  have hunique : ∀ m, Node.label m ∈ others ++ [] → m.name ≠ x.name := by
    intro m hm
    rw [List.append_nil, ← Labels.mem_definitions, hnone] at hm
    simp at hm
  obtain ⟨_, hmove, hname⟩ := label_pass none
  have hsame : others ++ [] = [] ++ others := by rw [List.append_nil, List.nil_append]
  refine ⟨hx, hname t x hx, hunique, ?_, by decide +kernel⟩
  exact (hmove x others [] [] others hsame hunique).symm

end AsmCheck
