import AsmCheck.Proofs.LineReading
import AsmCheck.Proofs.Division

/-!
# Shifting

Items that stand some lines further down, read with the counter some words further on, add the same
nodes and diagnostics with other lines and addresses. Nothing else that is found depends on where
an item stands.
-/

namespace AsmCheck

set_option autoImplicit false

namespace Position

def down (lines : Nat) (p : Position) : Position := ⟨p.line + lines, p.column⟩

theorem advance_down (lines : Nat) (p : Position) (c : Char) :
    (p.down lines).advance c = (p.advance c).down lines := by
  unfold advance
  split
  · simp only [down, Nat.add_right_comm]
  · rfl

theorem after_down (lines : Nat) (p : Position) (t : Text) :
    (p.down lines).after t = (p.after t).down lines := by
  induction t generalizing p with
  | nil => rfl
  | cons c rest ih => rw [after_cons, after_cons, advance_down, ih]

theorem nextLine_down (lines : Nat) (p : Position) :
    (p.down lines).nextLine = p.nextLine.down lines := by
  simp only [nextLine, down, Nat.add_right_comm]

theorem line_after (p : Position) (t : Text) : (p.after t).line = p.line + t.count '\n' := by
  induction t generalizing p with
  | nil => rfl
  | cons c rest ih =>
    rw [after_cons, ih]
    unfold advance
    split
    · rename_i hc
      rw [hc, List.count_cons_self]
      simp only
      omega
    · rename_i hc
      rw [List.count_cons_of_ne hc]

/-- Behind a line feed stands the start of a line. -/
theorem after_append_newline (p : Position) (t : Text) :
    p.after (t ++ ['\n']) = ⟨p.line + t.count '\n' + 1, 0⟩ := by
  rw [after_append, after_newline, after_nil, nextLine, line_after]

theorem start_after {t : Text} (h : t = [] ∨ t.getLast? = some '\n') :
    start.after t = start.down (t.count '\n') := by
  rcases h with rfl | h
  · rfl
  · obtain ⟨u, rfl⟩ := List.getLast?_eq_some_iff.mp h
    rw [after_append_newline, List.count_append, List.count_singleton_self]
    rfl

end Position

namespace SourceLine

def down (lines : Nat) (l : SourceLine) : SourceLine := { l with line := l.line + lines }

theorem kind_down (lines : Nat) (l : SourceLine) : (l.down lines).kind = l.kind := by
  have hcode : (l.down lines).code = l.code := congrArg trimmedCode rfl
  rw [kind, hcode, ← kind]

theorem words_down (lines : Nat) (l : SourceLine) : (l.down lines).words = l.words := by
  rw [words, kind_down, ← words]

end SourceLine

namespace Item

def down (lines : Nat) : Item → Item
  | .memory p body => .memory (p.down lines) body
  | .line l => .line (l.down lines)

theorem words_down (lines : Nat) (item : Item) : (item.down lines).words = item.words := by
  cases item with
  | memory p body => rfl
  | line l => exact l.words_down lines

end Item

namespace Node

def shift (lines words : Nat) : Node → Node
  | .instruction l => .instruction { l with line := l.line + lines, address := l.address + words }
  | .label l => .label { l with line := l.line + lines, address := l.address + words }
  | .literal w => .literal { w with line := w.line + lines, address := w.address + words }
  | .memory w => .memory { w with line := w.line + lines }
  | .foreign => .foreign

end Node

def Diagnostic.shift (lines : Nat) (d : Diagnostic) : Diagnostic :=
  { d with line? := d.line?.map fun (line : Int) => line + lines }

namespace Contribution

/-- What was found, with every line and every address increased. -/
def shift (lines words : Nat) (c : Contribution) : Contribution :=
  ⟨c.nodes.map (Node.shift lines words), c.diagnostics.map (Diagnostic.shift lines)⟩

theorem shift_append (lines words : Nat) (a b : Contribution) :
    (a ++ b).shift lines words = a.shift lines words ++ b.shift lines words := by
  change Contribution.mk _ _ = Contribution.mk _ _
  simp [shift]

theorem append_empty (c : Contribution) : c ++ empty = c := by
  change Contribution.mk _ _ = _
  simp

end Contribution

namespace MemoryImage

def Placed.down (lines : Nat) (x : Placed) : Placed := (x.1, x.2.down lines)

theorem uncommented_down (lines : Nat) (inComment : Bool) (p : Position) (t : Text) :
    uncommented inComment (p.down lines) t =
      (uncommented inComment p t).map (Placed.down lines) := by
  induction t generalizing inComment p with
  | nil => rfl
  | cons c rest ih =>
    unfold uncommented
    rw [Position.advance_down]
    split
    · rw [List.map_cons, ih]
      rfl
    · split
      · exact ih true (p.advance c)
      · rw [List.map_cons, ih]
        rfl

theorem groupsOfFour_map {α β : Type} (f : α → β) (l : List α) :
    groupsOfFour (l.map f) = (groupsOfFour l).map (List.map f) := by
  fun_induction groupsOfFour l with
  | case1 => rfl
  | case2 a => rfl
  | case3 a b => rfl
  | case4 a b c => rfl
  | case5 a b c d rest ih =>
    simp only [List.map_cons, groupsOfFour, ih, List.map_nil]

theorem word?_down (lines : Nat) (group : List Placed) :
    word? (group.map (Placed.down lines)) =
      (word? group).map fun w => { w with line := w.line + lines } := by
  cases group with
  | nil => rfl
  | cons first rest =>
    simp [word?, Placed.down, Position.down, Function.comp_def]

theorem digits_down (lines : Nat) (p : Position) (body : Text) :
    digits (p.down lines) body = (digits p body).map (Placed.down lines) := by
  rw [digits, uncommented_down, List.filter_map]
  rfl

theorem strangers_down (lines : Nat) (p : Position) (body : Text) :
    strangers (p.down lines) body = (strangers p body).map (Placed.down lines) := by
  rw [strangers, uncommented_down, List.filter_map]
  rfl

theorem read_down (file? : Option String) (address : Int) (p : Position) (body : Text)
    (lines words : Nat) :
    ((Item.memory p body).down lines).read file? (address + words) =
      ((Item.memory p body).read file? address).shift lines words := by
  have hnodes : (MemoryImage.words (p.down lines) body).map Node.memory =
      ((MemoryImage.words p body).map Node.memory).map (Node.shift lines words) := by
    rw [MemoryImage.words, MemoryImage.words, digits_down, groupsOfFour_map, List.filterMap_map,
      List.map_filterMap, List.map_map, List.map_filterMap]
    congr 1
    funext group
    rw [Function.comp_apply, word?_down, Option.map_map]
    rfl
  have hreports : reports file? (p.down lines) body =
      (reports file? p body).map (Diagnostic.shift lines) := by
    rw [reports, reports, strangers_down, List.map_map, List.map_map]
    rfl
  change Contribution.mk _ _ = Contribution.mk _ _
  rw [hnodes, hreports]
  rfl

end MemoryImage

namespace SourceLine

variable (file? : Option String) (address : Int) (l : SourceLine) (lines words : Nat)

theorem readInstruction_down (family : Family) :
    (l.down lines).readInstruction file? (address + words) family =
      (l.readInstruction file? address family).shift lines words := by
  have hnodes : ((l.down lines).readInstruction file? (address + words) family).nodes =
      ((l.readInstruction file? address family).shift lines words).nodes := by
    simp only [readInstruction, Contribution.shift, down]
    cases Statement.ofLine? l.text <;> rfl
  have hdiagnostics : ((l.down lines).readInstruction file? (address + words) family).diagnostics =
      ((l.readInstruction file? address family).shift lines words).diagnostics := by
    simp only [readInstruction, Contribution.shift, down]
    cases checkLine l.text <;> rfl
  exact congrArg₂ Contribution.mk hnodes hdiagnostics

theorem readLiteral_down (digits : Text) :
    (l.down lines).readLiteral file? (address + words) digits =
      (l.readLiteral file? address digits).shift lines words := by
  unfold readLiteral
  split
  · rfl
  · split
    · rfl
    · rfl

theorem readLabel_down (name : Text) :
    (l.down lines).readLabel file? (address + words) name =
      (l.readLabel file? address name).shift lines words := by
  unfold readLabel
  split
  · rfl
  · rfl

theorem read_down :
    (l.down lines).read file? (address + words) = (l.read file? address).shift lines words := by
  unfold read
  rw [kind_down]
  cases l.kind with
  | blank => rfl
  | instruction family => exact readInstruction_down file? address l lines words family
  | literal digits => exact readLiteral_down file? address l lines words digits
  | label name => exact readLabel_down file? address l lines words name
  | unknown token => rfl

end SourceLine

namespace Document

theorem linesFrom_down (lines : Nat) (p : Position) (pieces : List Text) :
    linesFrom (p.down lines) pieces = (linesFrom p pieces).map (SourceLine.down lines) := by
  induction pieces generalizing p with
  | nil => rfl
  | cons piece rest ih =>
    rw [linesFrom_cons, linesFrom_cons, Position.nextLine_down, ih, List.map_cons]
    simp [SourceLine.down, Position.down]

theorem map_line_down (lines : Nat) (sources : List SourceLine) :
    (sources.map (SourceLine.down lines)).map Item.line =
      (sources.map Item.line).map (Item.down lines) := by
  rw [List.map_map, List.map_map]
  rfl

theorem blockItems_down (lines : Nat) (p : Position) (b : Block) :
    blockItems (p.down lines) b = (blockItems p b).map (Item.down lines) := by
  unfold blockItems
  rw [Position.after_down]
  cases b.kind with
  | memory => rfl
  | code =>
    simp only
    rw [linesFrom_down, map_line_down]

theorem itemsFrom_down (lines : Nat) (p : Position) (blocks : List Block) :
    itemsFrom (p.down lines) blocks = (itemsFrom p blocks).map (Item.down lines) := by
  induction blocks generalizing p with
  | nil => rfl
  | cons b rest ih =>
    rw [itemsFrom, itemsFrom, blockItems_down, Position.after_down, ih, List.map_append]

/-- Items further down are read like the items themselves. -/
theorem readFrom_down (file? : Option String) (address : Int) (items : List Item)
    (lines words : Nat) :
    readFrom file? (address + words) (items.map (Item.down lines)) =
      (readFrom file? address items).shift lines words := by
  induction items generalizing address with
  | nil => rfl
  | cons item rest ih =>
    have hitem : (item.down lines).read file? (address + words) =
        (item.read file? address).shift lines words := by
      cases item with
      | memory p body => exact MemoryImage.read_down file? address p body lines words
      | line l => exact l.read_down file? address lines words
    rw [List.map_cons, readFrom_cons, readFrom_cons, Contribution.shift_append, hitem,
      Item.words_down, Int.add_right_comm, ih]

end Document

end AsmCheck
