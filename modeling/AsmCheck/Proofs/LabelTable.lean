import AsmCheck.Labels
import Mathlib.Data.List.Nodup

/-!
# Table of labels

The label pass reports nothing about definitions exactly if their names are distinct. The table
then holds one symbol for each definition, in order, and finds it by its name.
-/

namespace AsmCheck

set_option autoImplicit false

namespace Nodes

def labels (nodes : List Node) : List LabelDefinition :=
  nodes.filterMap fun
    | .label l => some l
    | _ => none

def instructions (nodes : List Node) : List Instruction :=
  nodes.filterMap fun
    | .instruction l => some l
    | _ => none

def literals (nodes : List Node) : List LiteralWord :=
  nodes.filterMap fun
    | .literal w => some w
    | _ => none

def memoryWords (nodes : List Node) : List MemoryWord :=
  nodes.filterMap fun
    | .memory w => some w
    | _ => none

theorem definitions_eq_labels (nodes : List Node) : Labels.definitions nodes = labels nodes := rfl

theorem countP_isCode (nodes : List Node) :
    nodes.countP Node.isCode = (instructions nodes).length + (literals nodes).length := by
  induction nodes with
  | nil => rfl
  | cons n rest ih =>
    rw [List.countP_cons, ih]
    cases n <;> simp [instructions, literals, Node.isCode] <;> omega

theorem countP_isMemory (nodes : List Node) :
    nodes.countP Node.isMemory = (memoryWords nodes).length := by
  induction nodes with
  | nil => rfl
  | cons n rest ih =>
    rw [List.countP_cons, ih]
    cases n <;> simp [memoryWords, Node.isMemory]

end Nodes

/-- The symbol that a definition adds to a table. -/
def LabelDefinition.symbol (l : LabelDefinition) : Symbol := ⟨l.name, l.address, l.line⟩

namespace SymbolTable

theorem isDefined_iff (table : SymbolTable) (name : Text) :
    table.isDefined name = true ↔ ∃ symbol ∈ table, symbol.name = name := by
  simp [isDefined, find?, List.find?_isSome]

theorem find?_eq_none_iff (table : SymbolTable) (name : Text) :
    table.find? name = none ↔ table.isDefined name = false := by
  simp [isDefined]

theorem define_of_isDefined {table : SymbolTable} {l : LabelDefinition}
    (h : table.isDefined l.name = true) : table.define l = table := by
  simp [define, h]

theorem define_of_not_isDefined {table : SymbolTable} {l : LabelDefinition}
    (h : table.isDefined l.name = false) : table.define l = table ++ [l.symbol] := by
  simp [define, h, LabelDefinition.symbol]

theorem isDefined_define (table : SymbolTable) (l : LabelDefinition) (name : Text) :
    (table.define l).isDefined name = true ↔ table.isDefined name = true ∨ l.name = name := by
  cases h : table.isDefined l.name with
  | true =>
    rw [define_of_isDefined h]
    constructor
    · exact Or.inl
    · rintro (hname | rfl)
      · exact hname
      · exact h
  | false =>
    rw [define_of_not_isDefined h]
    simp [isDefined_iff, or_and_right, exists_or, LabelDefinition.symbol]

/-- The names of the definitions are distinct and not in use. -/
structure Fresh (table : SymbolTable) (definitions : List LabelDefinition) : Prop where
  unused : ∀ l ∈ definitions, table.isDefined l.name = false
  distinct : (definitions.map LabelDefinition.name).Nodup

theorem fresh_cons_iff (table : SymbolTable) (l : LabelDefinition)
    (rest : List LabelDefinition) :
    table.Fresh (l :: rest) ↔ table.isDefined l.name = false ∧ (table.define l).Fresh rest := by
  constructor
  · rintro ⟨hunused, hdistinct⟩
    rw [List.map_cons, List.nodup_cons] at hdistinct
    refine ⟨hunused l List.mem_cons_self, ?_, hdistinct.2⟩
    intro m hm
    rw [← Bool.not_eq_true, isDefined_define]
    rintro (hdefined | heq)
    · rw [hunused m (List.mem_cons_of_mem l hm)] at hdefined
      simp at hdefined
    · exact hdistinct.1 (heq ▸ List.mem_map_of_mem hm)
  · rintro ⟨hl, hunused, hdistinct⟩
    have hnot : ∀ m ∈ rest, ¬(table.isDefined m.name = true ∨ l.name = m.name) := by
      intro m hm
      rw [← isDefined_define, Bool.not_eq_true]
      exact hunused m hm
    constructor
    · intro m hm
      rcases List.mem_cons.mp hm with rfl | hm
      · exact hl
      · exact Bool.eq_false_iff.mpr fun hdefined => hnot m hm (Or.inl hdefined)
    · rw [List.map_cons, List.nodup_cons]
      refine ⟨?_, hdistinct⟩
      intro hmem
      obtain ⟨m, hm, heq⟩ := List.mem_map.mp hmem
      exact hnot m hm (Or.inr heq.symm)

end SymbolTable

namespace Labels

theorem mem_definitions {nodes : List Node} {l : LabelDefinition} :
    l ∈ definitions nodes ↔ Node.label l ∈ nodes := by
  unfold definitions
  rw [List.mem_filterMap]
  constructor
  · rintro ⟨n, hn, hl⟩
    cases n with
    | label other => rwa [← Option.some.inj hl]
    | _ => simp at hl
  · intro hl
    exact ⟨.label l, hl, rfl⟩

theorem repetitions_eq_nil_iff (file? : Option String) (table : SymbolTable)
    (definitions : List LabelDefinition) :
    repetitions file? table definitions = [] ↔ table.Fresh definitions := by
  induction definitions generalizing table with
  | nil =>
    simp only [repetitions, true_iff]
    exact ⟨by simp, .nil⟩
  | cons l rest ih =>
    rw [repetitions, List.append_eq_nil_iff, ih, SymbolTable.fresh_cons_iff,
      Option.toList_eq_nil_iff, Option.map_eq_none_iff, SymbolTable.find?_eq_none_iff]

theorem foldl_define {table : SymbolTable} {definitions : List LabelDefinition}
    (h : table.Fresh definitions) :
    definitions.foldl SymbolTable.define table =
      table ++ definitions.map LabelDefinition.symbol := by
  induction definitions generalizing table with
  | nil => simp
  | cons l rest ih =>
    obtain ⟨hl, hrest⟩ := (SymbolTable.fresh_cons_iff table l rest).mp h
    rw [List.foldl_cons, ih hrest, SymbolTable.define_of_not_isDefined hl, List.map_cons,
      List.append_assoc, List.singleton_append]

theorem find?_symbol {definitions : List LabelDefinition} {l : LabelDefinition}
    (hdistinct : (definitions.map LabelDefinition.name).Nodup) (hl : l ∈ definitions) :
    SymbolTable.find? (definitions.map LabelDefinition.symbol) l.name = some l.symbol := by
  induction definitions with
  | nil => simp at hl
  | cons first rest ih =>
    rw [List.map_cons, List.nodup_cons] at hdistinct
    rcases List.mem_cons.mp hl with rfl | hl
    · simp [SymbolTable.find?, LabelDefinition.symbol]
    · have hne : first.symbol.name ≠ l.name := by
        intro heq
        apply hdistinct.1
        change first.symbol.name ∈ _
        rw [heq]
        exact List.mem_map_of_mem hl
      rw [← ih hdistinct.2 hl]
      simp [SymbolTable.find?, hne]

/-- Without repeated names the table is the list of all definitions. -/
theorem table_eq_map {nodes : List Node} (h : SymbolTable.Fresh [] (definitions nodes)) :
    table nodes = (definitions nodes).map LabelDefinition.symbol :=
  foldl_define h

end Labels

theorem Operand.eq_cons_of_label {t : Text} (h : Kind.ofText? t = some .label) :
    t = ':' :: t.drop 1 := by
  have hshape : Kind.hasShape .label (Text.dropFinalNewline t) = true :=
    List.find?_some (p := fun kind => Kind.hasShape kind (Text.dropFinalNewline t)) h
  change isLabelText (Text.dropFinalNewline t) = true at hshape
  cases t with
  | nil => simp [Text.dropFinalNewline, isLabelText] at hshape
  | cons c rest =>
    rw [List.drop_one, List.tail_cons]
    have hhead : ∃ more, Text.dropFinalNewline (c :: rest) = c :: more ∨
        Text.dropFinalNewline (c :: rest) = [] := by
      unfold Text.dropFinalNewline
      split
      · cases rest with
        | nil => exact ⟨[], Or.inr rfl⟩
        | cons d rest => exact ⟨(d :: rest).dropLast, Or.inl rfl⟩
      · exact ⟨rest, Or.inl rfl⟩
    obtain ⟨more, hmore | hnil⟩ := hhead
    · rw [hmore] at hshape
      unfold isLabelText at hshape
      split at hshape
      · rename_i heq
        rw [(List.cons.inj heq).1]
      · simp at hshape
    · rw [hnil] at hshape
      simp [isLabelText] at hshape

end AsmCheck
