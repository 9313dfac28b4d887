import AsmCheck.Proofs.Addresses
import AsmCheck.Proofs.Concatenation

/-!
# Counting words

Every line that is an instruction or a literal moves the addresses behind it by one, also if it
adds no node. So the address of a node is the base plus the number of such lines that end in front
of the node, and only their number matters: one of them can be put in the place of another.
-/

namespace AsmCheck

set_option autoImplicit false

namespace Node

/-- The place and the address of a node of code or of a label. -/
def addressed? : Node → Option (Place × Int)
  | .instruction l => some (toLex (l.line, l.column), l.address)
  | .label l => some (toLex (l.line, l.column), l.address)
  | .literal w => some (toLex (w.line, w.column), w.address)
  | .memory _ => none
  | .foreign => none

end Node

theorem Item.first_le_last (item : Item) : item.first ≤ item.last := by
  cases item with
  | memory p body => exact p.place_le_after body
  | line l =>
    apply Prod.Lex.toLex_le_toLex.mpr
    exact Or.inr ⟨rfl, by simp only; omega⟩

namespace Document

/-- The number of lines of code that occupy a word and end in front of a place. -/
def wordsBefore (t : Text) (place : Place) : Nat :=
  (codeLines t).countP fun l => occupiesWord l.text && decide ((Item.line l).last < place)

theorem mem_line? {items : List Item} {l : SourceLine} (h : l ∈ items.filterMap Item.line?) :
    Item.line l ∈ items := by
  obtain ⟨item, hitem, hl⟩ := List.mem_filterMap.mp h
  cases item with
  | memory p body => simp [Item.line?] at hl
  | line other =>
    obtain rfl : other = l := Option.some.inj hl
    exact hitem

/-- The lines that end in front of a place within an item are those of the items before it. -/
theorem wordsBefore_eq {t : Text} {before after : List Item} {item : Item}
    (hitems : items t = before ++ item :: after) {place : Place} (hfirst : item.first ≤ place)
    (hlast : place ≤ item.last) : wordsBefore t place = words before := by
  have hseparate := items_separate t
  rw [hitems, List.pairwise_append, List.pairwise_cons] at hseparate
  obtain ⟨_, ⟨hafter, _⟩, hbefore⟩ := hseparate
  -- The items before this one end in front of it, and those from it on do not end before the place.
  have hfront : (before.filterMap Item.line?).countP
      (fun l => occupiesWord l.text && decide ((Item.line l).last < place)) = words before := by
    rw [words_eq_countP]
    apply List.countP_congr
    intro l hl
    have hlt := hbefore (.line l) (mem_line? hl) item List.mem_cons_self
    simp [lt_of_lt_of_le hlt hfirst]
  have hback : ((item :: after).filterMap Item.line?).countP
      (fun l => occupiesWord l.text && decide ((Item.line l).last < place)) = 0 := by
    apply List.countP_eq_zero.mpr
    intro l hl
    have hle : place ≤ (Item.line l).last := by
      rcases List.mem_cons.mp (mem_line? hl) with heq | hmem
      · rwa [heq]
      · exact le_trans hlast (le_trans (hafter _ hmem).le (Item.line l).first_le_last)
    simp [not_lt.mpr hle]
  rw [wordsBefore, codeLines, hitems, List.filterMap_append, List.countP_append, hfront, hback,
    Nat.add_zero]

end Document

namespace SourceLine

theorem read_addressed (file? : Option String) (address : Int) (l : SourceLine) :
    ∀ n ∈ (l.read file? address).nodes, ∀ place a, n.addressed? = some (place, a) →
      a = address ∧ (Item.line l).first ≤ place ∧ place ≤ (Item.line l).last := by
  have hcode := l.codeStart_bounds
  have hadds := l.read_adds file? address
  generalize l.read file? address = added at hadds ⊢
  intro n hn place a hplace
  cases hadds with
  | nothing => simp at hn
  | instruction =>
    rw [List.mem_singleton.mp hn] at hplace
    obtain ⟨rfl, rfl⟩ := Prod.mk.inj (Option.some.inj hplace)
    exact ⟨rfl, le_refl _, (Item.line l).first_le_last⟩
  | literal =>
    rw [List.mem_singleton.mp hn] at hplace
    obtain ⟨rfl, rfl⟩ := Prod.mk.inj (Option.some.inj hplace)
    exact ⟨rfl, hcode⟩
  | label =>
    rw [List.mem_singleton.mp hn] at hplace
    obtain ⟨rfl, rfl⟩ := Prod.mk.inj (Option.some.inj hplace)
    exact ⟨rfl, hcode⟩
  | report => simp [report, Contribution.ofDiagnostic] at hn

theorem codeAddresses_read (file? : Option String) (address : Int) (l : SourceLine) :
    (l.read file? address).nodes.filterMap Node.codeAddress? = [] ∨
      (l.read file? address).nodes.filterMap Node.codeAddress? = [address] ∧ l.words = 1 := by
  have hadds := l.read_adds file? address
  generalize l.read file? address = added at hadds ⊢
  cases hadds with
  | nothing => exact Or.inl rfl
  | instruction hwords => exact Or.inr ⟨rfl, hwords⟩
  | literal _ hwords => exact Or.inr ⟨rfl, hwords⟩
  | label => exact Or.inl rfl
  | report => exact Or.inl rfl

end SourceLine

namespace Document

theorem read_addressed {file? : Option String} {t : Text} {n : Node}
    (hn : n ∈ (read file? t).nodes) {place : Place} {address : Int}
    (hplace : n.addressed? = some (place, address)) :
    address = codeBase + wordsBefore t place := by
  obtain ⟨before, item, after, hitems, hn⟩ :=
    exists_item_of_mem Contribution.nodes_empty Contribution.nodes_append hn
  cases item with
  | memory p body =>
    obtain ⟨w, _, rfl⟩ := List.mem_map.mp hn
    simp [Node.addressed?] at hplace
  | line l =>
    obtain ⟨haddress, hfirst, hlast⟩ := l.read_addressed file? _ n hn place address hplace
    rw [haddress, wordsBefore_eq hitems hfirst hlast]

/-- The counter never falls behind the addresses that were given out. -/
theorem readFrom_codeAddresses (file? : Option String) (address : Int) (items : List Item) :
    ((readFrom file? address items).nodes.filterMap Node.codeAddress?).Pairwise (· < ·) ∧
      ∀ a ∈ (readFrom file? address items).nodes.filterMap Node.codeAddress?, address ≤ a := by
  induction items generalizing address with
  | nil => exact ⟨.nil, by simp [readFrom]⟩
  | cons item rest ih =>
    obtain ⟨hrest, hbound⟩ := ih (address + item.words)
    have hitem : (item.read file? address).nodes.filterMap Node.codeAddress? = [] ∨
        (item.read file? address).nodes.filterMap Node.codeAddress? = [address] ∧
          item.words = 1 := by
      cases item with
      | memory p body =>
        refine Or.inl (List.filterMap_eq_nil_iff.mpr ?_)
        intro n hn
        obtain ⟨w, _, rfl⟩ := List.mem_map.mp hn
        rfl
      | line l => exact l.codeAddresses_read file? address
    rw [readFrom_cons, Contribution.nodes_append, List.filterMap_append]
    rcases hitem with hnone | ⟨hone, hwords⟩
    · rw [hnone, List.nil_append]
      refine ⟨hrest, fun a ha => ?_⟩
      have hle := hbound a ha
      omega
    · rw [hone, List.singleton_append]
      refine ⟨List.pairwise_cons.mpr ⟨fun a ha => ?_, hrest⟩, fun a ha => ?_⟩
      · have hle := hbound a ha
        omega
      · rcases List.mem_cons.mp ha with rfl | ha
        · exact Int.le_refl _
        · have hle := hbound a ha
          omega

/-- Around a line that occupies a word the nodes do not depend on the line. -/
theorem exists_nodes_around {s rest : Text} (hend : s.getLast? = some '\n')
    (hcode : lastKind? s = some .code) (hrest : rest = [] ∨ rest.head? = some '\n')
    (file? : Option String) :
    ∃ before after, ∀ line, '\n' ∉ line → markersFrom 0 line = [] →
      let l := lineAt (Position.start.down (s.count '\n')) line
      occupiesWord l.text = true →
        (read file? (s ++ (line ++ rest))).nodes =
          before ++ ((l.read file? (codeBase + codeWords s)).nodes ++ after) := by
  rcases hrest with rfl | hrest
  · refine ⟨(read file? s).nodes, [], ?_⟩
    intro line hline hmarker l _
    rw [List.append_nil, read_append_of_code hend hcode, resumed_line hline hmarker]
    rfl
  · obtain ⟨t, rfl⟩ := List.head?_eq_some_iff.mp hrest
    refine ⟨(read file? s).nodes, (readFrom file? (codeBase + (codeWords s + 1 : Nat))
      (resumed (Position.start.down (s.count '\n' + 1)) t)).nodes, ?_⟩
    intro line hline hmarker l hword
    have hwords : l.words = 1 := by rw [l.words_eq, if_pos hword]
    rw [read_line hline hmarker hend hcode, ← hwords]
    rfl

end Document

/-- Addresses count the lines before a node that occupy a word, correct or not. So the addresses of
code increase along a document, and a line that occupies a word may be exchanged for any other one
without moving the rest. -/
theorem addresses_count_words (file? : Option String) :
    (∀ t, ∀ n ∈ (Document.read file? t).nodes, ∀ place address,
      n.addressed? = some (place, address) →
        address = codeBase + Document.wordsBefore t place) ∧
    (∀ t, ((Document.read file? t).nodes.filterMap Node.codeAddress?).Pairwise (· < ·)) ∧
    ∀ s rest, s.getLast? = some '\n' → Document.lastKind? s = some .code →
      (rest = [] ∨ rest.head? = some '\n') →
        ∃ before after, ∀ line, '\n' ∉ line → markersFrom 0 line = [] →
          let l := Document.lineAt (Position.start.down (s.count '\n')) line
          occupiesWord l.text = true →
            (Document.read file? (s ++ (line ++ rest))).nodes =
              before ++ ((l.read file? (codeBase + Document.codeWords s)).nodes ++ after) := by
  refine ⟨?_, ?_, ?_⟩
  · intro t n hn place address hplace
    exact Document.read_addressed hn hplace
  · intro t
    exact (Document.readFrom_codeAddresses file? codeBase (Document.items t)).1
  · intro s rest hend hcode hrest
    exact Document.exists_nodes_around hend hcode hrest file?

/-- The literal that cannot be read counts, and the memory between the sections does not. -/
theorem addresses_count_words_label :
    let t := ".code nop\n!zz\n.memory 12\n.code\n:x".toList
    let x : Node := .label ⟨['x'], 5, 0, 0x42⟩
    let s := ".code\n".toList
    let rest := "\n:x".toList
    (x ∈ (Document.read none t).nodes ∧ Document.wordsBefore t (toLex (5, 0)) = 2 ∧
      (0x42 : Int) = codeBase + Document.wordsBefore t (toLex (5, 0))) ∧
    ∃ before after,
      (Document.read none (s ++ ("!zz".toList ++ rest))).nodes = before ++ after ∧
      (Document.read none (s ++ ("!41".toList ++ rest))).nodes =
        before ++ (.literal ⟨0x41, 2, 0, 0x40⟩ :: after) := by
  intro t x s rest
  obtain ⟨hcount, _, hexchange⟩ := addresses_count_words none
  have hx : x ∈ (Document.read none t).nodes := by decide +kernel
  have haddress := hcount t x hx (toLex (5, 0)) 0x42 rfl
  have hwords : Document.wordsBefore t (toLex (5, 0)) = 2 := by
    have hbase : codeBase = 0x40 := rfl
    omega
  refine ⟨⟨hx, hwords, haddress⟩, ?_⟩
  obtain ⟨before, after, hnodes⟩ :=
    hexchange s rest (by decide) (by decide) (Or.inr (by decide))
  have hbad := hnodes "!zz".toList (by decide) (by decide) (by decide +kernel)
  have hgood := hnodes "!41".toList (by decide) (by decide) (by decide +kernel)
  have hnone : ((Document.lineAt (Position.start.down (s.count '\n')) "!zz".toList).read none
      (codeBase + Document.codeWords s)).nodes = [] := by decide +kernel
  have hone : ((Document.lineAt (Position.start.down (s.count '\n')) "!41".toList).read none
      (codeBase + Document.codeWords s)).nodes = [.literal ⟨0x41, 2, 0, 0x40⟩] := by
    decide +kernel
  rw [hnone] at hbad
  rw [hone] at hgood
  exact ⟨before, after, hbad, hgood⟩

end AsmCheck
