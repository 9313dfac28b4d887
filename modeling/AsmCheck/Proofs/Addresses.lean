import AsmCheck.Labels
import AsmCheck.Proofs.LineReading

/-!
# Addresses

In a list of nodes that is numbered from an address, the address of a node of code and of a label
is the first address plus the number of nodes of code before it. An item without a report adds one
node of code for each word that it occupies, so a document without reports is numbered from the
base.
-/

namespace AsmCheck

set_option autoImplicit false

namespace Node

def codeAddress? : Node → Option Int
  | .instruction l => some l.address
  | .literal w => some w.address
  | _ => none

/-- The node stands at the given address, unless it is not a part of the code. -/
def StandsAt (address : Int) : Node → Prop
  | .instruction l => l.address = address
  | .literal w => w.address = address
  | .label l => l.address = address
  | _ => True

end Node

/-- Nodes of code and labels are numbered from the given address. -/
def Numbered : Int → List Node → Prop
  | _, [] => True
  | address, n :: rest =>
    n.StandsAt address ∧ Numbered (if n.isCode then address + 1 else address) rest

namespace Numbered

theorem append_iff (address : Int) (first second : List Node) :
    Numbered address (first ++ second) ↔
      Numbered address first ∧ Numbered (address + first.countP Node.isCode) second := by
  induction first generalizing address with
  | nil => simp [Numbered]
  | cons n rest ih =>
    have hcount : (if n.isCode then address + 1 else address) + rest.countP Node.isCode =
        address + (n :: rest).countP Node.isCode := by
      rw [List.countP_cons]
      cases n.isCode
      · rfl
      · simp only [if_true]
        omega
    rw [List.cons_append, Numbered, ih, hcount, Numbered, and_assoc]

theorem codeAddresses {address : Int} {nodes : List Node} (h : Numbered address nodes) :
    nodes.filterMap Node.codeAddress? =
      (List.range (nodes.countP Node.isCode)).map fun (i : Nat) => address + i := by
  induction nodes generalizing address with
  | nil => rfl
  | cons n rest ih =>
    obtain ⟨hn, hrest⟩ := h
    have hcode : ∀ a : Int, a = address → n.isCode = true →
        a :: rest.filterMap Node.codeAddress? =
          (List.range ((n :: rest).countP Node.isCode)).map fun (i : Nat) => address + i := by
      intro a ha hcode
      rw [if_pos hcode] at hrest
      rw [ih hrest, List.countP_cons_of_pos hcode, List.range_succ_eq_map, List.map_cons,
        List.map_map, ha]
      simp [Function.comp_def, Int.add_assoc, Int.add_comm 1]
    have hother : n.codeAddress? = none → n.isCode = false →
        (n :: rest).filterMap Node.codeAddress? =
          (List.range ((n :: rest).countP Node.isCode)).map fun (i : Nat) => address + i := by
      intro hnone hcode
      rw [hcode, if_neg Bool.false_ne_true] at hrest
      rw [List.filterMap_cons_none hnone, ih hrest, List.countP_cons_of_neg (by simp [hcode])]
    cases n with
    | instruction l => exact hcode l.address hn rfl
    | literal w => exact hcode w.address hn rfl
    | label _ => exact hother rfl rfl
    | memory _ => exact hother rfl rfl
    | foreign => exact hother rfl rfl

theorem label_address {address : Int} {before after : List Node} {l : LabelDefinition}
    (h : Numbered address (before ++ .label l :: after)) :
    l.address = address + before.countP Node.isCode :=
  ((append_iff address before _).mp h).2.1

theorem map_memory (address : Int) (words : List MemoryWord) :
    Numbered address (words.map .memory) := by
  induction words generalizing address with
  | nil => trivial
  | cons w rest ih => exact ⟨trivial, ih _⟩

end Numbered

namespace SourceLine

theorem Adds.numbered {file? : Option String} {address : Int} {l : SourceLine}
    {added : Contribution} (h : l.Adds file? address added) : Numbered address added.nodes := by
  cases h with
  | nothing => trivial
  | instruction => exact ⟨rfl, trivial⟩
  | literal => exact ⟨rfl, trivial⟩
  | label => exact ⟨rfl, trivial⟩
  | report => trivial

theorem Adds.countP_isCode {file? : Option String} {address : Int} {l : SourceLine}
    {added : Contribution} (h : l.Adds file? address added) (hclean : added.diagnostics = []) :
    added.nodes.countP Node.isCode = l.words := by
  cases h with
  | nothing hwords => exact hwords.symm
  | instruction hwords => exact hwords.symm
  | literal _ hwords => exact hwords.symm
  | label _ hwords => exact hwords.symm
  | report problem => simp [SourceLine.report, Contribution.ofDiagnostic] at hclean

end SourceLine

namespace Item

/-- What an item adds to the code is numbered from its address, with or without reports. -/
theorem read_numbered (file? : Option String) (address : Int) (item : Item) :
    Numbered address (item.read file? address).nodes := by
  cases item with
  | memory p body => exact Numbered.map_memory address _
  | line l => exact (l.read_adds file? address).numbered

theorem countP_isCode_read {file? : Option String} {address : Int} {item : Item}
    (hclean : (item.read file? address).diagnostics = []) :
    (item.read file? address).nodes.countP Node.isCode = item.words := by
  cases item with
  | memory p body =>
    apply List.countP_eq_zero.mpr
    intro n hn
    obtain ⟨w, _, rfl⟩ := List.mem_map.mp hn
    simp [Node.isCode]
  | line l => exact (l.read_adds file? address).countP_isCode hclean

end Item

namespace Document

/-- The counter of words runs along with the nodes as long as nothing is reported. -/
theorem readFrom_numbered {file? : Option String} {address : Int} {items : List Item}
    (hclean : (readFrom file? address items).diagnostics = []) :
    Numbered address (readFrom file? address items).nodes := by
  induction items generalizing address with
  | nil => trivial
  | cons item rest ih =>
    rw [readFrom_cons, Contribution.diagnostics_append, List.append_eq_nil_iff] at hclean
    rw [readFrom_cons, Contribution.nodes_append, Numbered.append_iff,
      Item.countP_isCode_read hclean.1]
    exact ⟨item.read_numbered file? address, ih hclean.2⟩

end Document

end AsmCheck
