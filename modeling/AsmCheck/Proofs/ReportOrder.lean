import AsmCheck.Report
import AsmCheck.Proofs.DocumentOrder
import AsmCheck.Proofs.LineReading
import AsmCheck.Proofs.RuleRanges
import Mathlib.Data.List.Flatten
import Mathlib.Data.List.Nodup
import Mathlib.Data.List.Perm.Basic

/-!
# Order of the report

The sites of a part of a document are the places of its diagnostics together with the places at
which its labels could still be reported: definitions, and operands of valid instructions. A line
with a diagnostic has no other site, and items keep their sites between their first and their last
place, so all sites of a document differ. The label pass reports at some of these sites, each at
most once, and the sorted report is strictly increasing.
-/

namespace AsmCheck

set_option autoImplicit false

/-- The place by which a diagnostic is sorted. -/
def Diagnostic.site (d : Diagnostic) : Place := toLex d.position

namespace Node

/-- Where a repeated definition would be reported. -/
def labelSites : Node → List Place
  | .label l => [toLex (l.line, l.column)]
  | _ => []

/-- Where the use of a label without a definition would be reported. -/
def useSites : Node → List Place
  | .instruction l =>
    if l.valid then l.statement.operands.map fun op => toLex (l.line, op.start + l.column) else []
  | _ => []

end Node

/-- The places of the diagnostics and of all labels of a contribution. -/
def Contribution.sites (c : Contribution) : List Place :=
  c.diagnostics.map Diagnostic.site ++ c.nodes.flatMap fun n => n.labelSites ++ n.useSites

theorem Contribution.sites_append (a b : Contribution) :
    (a ++ b).sites.Perm (a.sites ++ b.sites) := by
  unfold Contribution.sites
  rw [nodes_append, diagnostics_append, List.map_append, List.flatMap_append,
    List.append_assoc, List.append_assoc]
  exact (List.perm_append_comm_assoc _ _ _).append_left _

/-- The sites of a contribution are increasing and lie between two places. -/
structure Contribution.SitedIn (c : Contribution) (first last : Place) : Prop where
  increasing : c.sites.Pairwise (· < ·)
  bounds : ∀ x ∈ c.sites, first ≤ x ∧ x ≤ last

theorem Contribution.SitedIn.ofEmpty {c : Contribution} {first last : Place} (h : c.sites = []) :
    c.SitedIn first last :=
  ⟨by rw [h]; exact .nil, by simp [h]⟩

namespace SourceLine

theorem sitedIn_of_single (l : SourceLine) {c : Contribution} {distance : Int}
    (hstart : 0 ≤ distance) (hstop : distance ≤ l.text.length)
    (h : c.sites = [toLex (l.line, distance + l.column)]) :
    c.SitedIn (Item.line l).first (Item.line l).last := by
  refine ⟨by rw [h]; exact List.pairwise_singleton _ _, ?_⟩
  intro x hx
  rw [h, List.mem_singleton] at hx
  rw [hx]
  exact l.place_bounds hstart hstop

/-- A valid instruction has a site for each operand, and one that is not valid has the site of its
diagnostic only. -/
theorem instruction_sitedIn (file? : Option String) (address : Int) (l : SourceLine)
    {s : Statement} (hs : Statement.ofLine? l.text = some s) (family : Family) :
    Contribution.SitedIn ⟨[.instruction (l.instructionNode address family s)],
        l.instructionReports file? family s⟩ (Item.line l).first (Item.line l).last := by
  cases hcheck : family.check s with
  | some d =>
    obtain ⟨_, _, _, hwithin⟩ := check_within hs hcheck
    have hbounds := hwithin.line_bounds hs
    apply l.sitedIn_of_single hbounds.1 (by omega)
    simp [Contribution.sites, instructionReports, instructionNode, hcheck, Node.labelSites,
      Node.useSites, Diagnostic.site, Diagnostic.position, Diagnostic.placed]
  | none =>
    have hsites : Contribution.sites ⟨[.instruction (l.instructionNode address family s)],
        l.instructionReports file? family s⟩ =
          s.operands.map fun op => toLex (l.line, op.start + l.column) := by
      simp [Contribution.sites, instructionReports, instructionNode, hcheck, Node.labelSites,
        Node.useSites]
    constructor
    · rw [hsites, List.pairwise_map]
      apply (Statement.operands_separate hs).imp_of_mem
      intro a b ha _ hab
      have hbounds := (Statement.operand_within hs ha).line_bounds hs
      apply Prod.Lex.toLex_lt_toLex.mpr
      exact Or.inr ⟨rfl, by simp only; omega⟩
    · intro x hx
      rw [hsites] at hx
      obtain ⟨op, hop, rfl⟩ := List.mem_map.mp hx
      have hbounds := (Statement.operand_within hs hop).line_bounds hs
      exact l.place_bounds hbounds.1 (by omega)

theorem read_sitedIn (file? : Option String) (address : Int) (l : SourceLine) :
    (l.read file? address).SitedIn (Item.line l).first (Item.line l).last := by
  have hindent : (Text.indent l.text : Int) ≤ l.text.length := by
    have hle := Text.indent_le_length l.text
    omega
  have hadds := l.read_adds file? address
  generalize l.read file? address = added at hadds ⊢
  cases hadds with
  | nothing => exact .ofEmpty rfl
  | instruction _ hs _ => exact l.instruction_sitedIn file? address hs _
  | literal => exact .ofEmpty rfl
  | label name =>
    apply l.sitedIn_of_single (Int.natCast_nonneg (Text.indent l.text)) hindent
    rw [← codeStart_eq]
    rfl
  | report problem =>
    apply l.sitedIn_of_single (Int.natCast_nonneg (Text.indent l.text)) hindent
    rw [← codeStart_eq]
    rfl

end SourceLine

namespace MemoryImage

theorem uncommented_bounds {inComment : Bool} {p : Position} {t : Text} {x : Placed}
    (h : x ∈ uncommented inComment p t) :
    p.place ≤ x.2.place ∧ x.2.place ≤ (p.after t).place := by
  induction t generalizing inComment p with
  | nil => simp [uncommented] at h
  | cons c rest ih =>
    have hhere : x = (c, p) → p.place ≤ x.2.place ∧ x.2.place ≤ (p.after (c :: rest)).place := by
      rintro rfl
      exact ⟨le_refl _, p.place_le_after (c :: rest)⟩
    have hlater : ∀ {b : Bool}, x ∈ uncommented b (p.advance c) rest →
        p.place ≤ x.2.place ∧ x.2.place ≤ (p.after (c :: rest)).place := by
      intro b hx
      have hbounds := ih hx
      exact ⟨le_trans (p.place_lt_advance c).le hbounds.1, hbounds.2⟩
    unfold uncommented at h
    split at h
    · exact (List.mem_cons.mp h).elim hhere hlater
    · split at h
      · exact hlater h
      · exact (List.mem_cons.mp h).elim hhere hlater

theorem uncommented_increasing (inComment : Bool) (p : Position) (t : Text) :
    (uncommented inComment p t).Pairwise fun a b => a.2.place < b.2.place := by
  induction t generalizing inComment p with
  | nil => exact .nil
  | cons c rest ih =>
    have hkept : ((c, p) :: uncommented false (p.advance c) rest).Pairwise
        fun a b => a.2.place < b.2.place := by
      refine List.pairwise_cons.mpr ⟨?_, ih false (p.advance c)⟩
      intro x hx
      exact lt_of_lt_of_le (p.place_lt_advance c) (uncommented_bounds hx).1
    unfold uncommented
    split
    · exact hkept
    · split
      · exact ih true (p.advance c)
      · exact hkept

theorem read_sitedIn (file? : Option String) (address : Int) (p : Position) (body : Text) :
    ((Item.memory p body).read file? address).SitedIn
      (Item.memory p body).first (Item.memory p body).last := by
  have hsites : ((Item.memory p body).read file? address).sites =
      (strangers p body).map fun x => x.2.place := by
    simp only [Contribution.sites, Item.read, reports, List.map_map, List.flatMap_map,
      Node.labelSites, Node.useSites, List.append_nil, List.flatMap_eq_nil_iff.mpr fun _ _ => rfl]
    rfl
  constructor
  · rw [hsites]
    exact List.pairwise_map.mpr ((uncommented_increasing false p body).filter _)
  · intro x hx
    rw [hsites] at hx
    obtain ⟨stranger, hstranger, rfl⟩ := List.mem_map.mp hx
    exact uncommented_bounds (List.mem_filter.mp hstranger).1

end MemoryImage

theorem Item.read_sitedIn (file? : Option String) (address : Int) (item : Item) :
    (item.read file? address).SitedIn item.first item.last := by
  cases item with
  | memory p body => exact MemoryImage.read_sitedIn file? address p body
  | line l => exact l.read_sitedIn file? address

namespace Document

theorem exists_item_of_site {file? : Option String} {address : Int} {items : List Item} {x : Place}
    (h : x ∈ (readFrom file? address items).sites) :
    ∃ item ∈ items, item.first ≤ x ∧ x ≤ item.last := by
  induction items generalizing address with
  | nil => simp [readFrom, Contribution.sites] at h
  | cons item rest ih =>
    rw [readFrom_cons, (Contribution.sites_append _ _).mem_iff] at h
    rcases List.mem_append.mp h with hitem | hrest
    · exact ⟨item, List.mem_cons_self, (item.read_sitedIn file? address).bounds x hitem⟩
    · obtain ⟨other, hmem, hbounds⟩ := ih hrest
      exact ⟨other, List.mem_cons_of_mem item hmem, hbounds⟩

theorem readFrom_sites_nodup (file? : Option String) (address : Int) {items : List Item}
    (hseparate : items.Pairwise fun a b => a.last < b.first) :
    (readFrom file? address items).sites.Nodup := by
  induction items generalizing address with
  | nil => exact .nil
  | cons item rest ih =>
    obtain ⟨hfirst, hrest⟩ := List.pairwise_cons.mp hseparate
    have hitem := item.read_sitedIn file? address
    rw [readFrom_cons, (Contribution.sites_append _ _).nodup_iff]
    refine List.nodup_append.mpr ⟨hitem.increasing.imp ne_of_lt, ih _ hrest, ?_⟩
    intro x hx y hy
    obtain ⟨other, hmem, hbounds⟩ := exists_item_of_site hy
    apply ne_of_lt
    calc x ≤ item.last := (hitem.bounds x hx).2
      _ < other.first := hfirst other hmem
      _ ≤ y := hbounds.1

theorem read_sites_nodup (file? : Option String) (t : Text) : (read file? t).sites.Nodup :=
  readFrom_sites_nodup file? codeBase (items_separate t)

end Document

namespace Labels

theorem repetitions_sites (file? : Option String) (table : SymbolTable)
    (definitions : List LabelDefinition) :
    ((repetitions file? table definitions).map Diagnostic.site).Sublist
      (definitions.map fun l => toLex (l.line, l.column)) := by
  induction definitions generalizing table with
  | nil => exact .slnil
  | cons l rest ih =>
    rw [repetitions, List.map_append, List.map_cons]
    cases table.find? l.name with
    | none => exact (ih _).cons _
    | some first => exact (ih _).cons_cons _

theorem definitions_sites (nodes : List Node) :
    (definitions nodes).map (fun l => (toLex (l.line, l.column) : Place)) =
      nodes.flatMap Node.labelSites := by
  induction nodes with
  | nil => rfl
  | cons n rest ih =>
    rw [List.flatMap_cons, ← ih]
    cases n <;> rfl

theorem undefinedUses_sites (file? : Option String) (table : SymbolTable) (n : Node) :
    ((undefinedUses file? table n).map Diagnostic.site).Sublist n.useSites := by
  cases n with
  | instruction l =>
    simp only [undefinedUses, Node.useSites]
    split
    · rw [List.map_map]
      exact List.filter_sublist.map _
    · exact .slnil
  | label _ => exact .slnil
  | literal _ => exact .slnil
  | memory _ => exact .slnil
  | foreign => exact .slnil

end Labels

/-- The label pass reports at sites of labels only, and at each of them at most once. -/
theorem Resolution.diagnostics_sites (file? : Option String) (nodes : List Node) :
    ((Resolution.ofNodes file? nodes).diagnostics.map Diagnostic.site).Subperm
      (nodes.flatMap fun n => n.labelSites ++ n.useSites) := by
  have hlabels := Labels.repetitions_sites file? [] (Labels.definitions nodes)
  rw [Labels.definitions_sites] at hlabels
  have huses : ((nodes.flatMap (Labels.undefinedUses file? (Labels.table nodes))).map
      Diagnostic.site).Sublist (nodes.flatMap Node.useSites) := by
    rw [List.map_flatMap]
    exact List.Sublist.flatMap_right nodes fun n _ => Labels.undefinedUses_sites file? _ n
  rw [Resolution.ofNodes, List.map_append]
  exact (hlabels.append huses).subperm.trans (List.flatMap_append_perm _ _ _).subperm

namespace Report

theorem inOrder_iff (a b : Diagnostic) : inOrder a b = true ↔ a.site ≤ b.site := by
  simp [inOrder, Diagnostic.site, Prod.Lex.toLex_le_toLex]

theorem sorted_strict {found : List Diagnostic} (h : (found.map Diagnostic.site).Nodup) :
    (found.mergeSort inOrder).Pairwise fun a b => a.site < b.site := by
  have hsorted : (found.mergeSort inOrder).Pairwise fun a b => inOrder a b = true := by
    apply List.pairwise_mergeSort
    · intro a b c hab hbc
      rw [inOrder_iff] at hab hbc ⊢
      exact le_trans hab hbc
    · intro a b
      rw [Bool.or_eq_true, inOrder_iff, inOrder_iff]
      exact le_total a.site b.site
  have hdistinct := ((List.mergeSort_perm found inOrder).map Diagnostic.site).nodup_iff.mpr h
  apply (hsorted.and (List.pairwise_map.mp hdistinct)).imp
  intro a b hab
  exact lt_of_le_of_ne ((inOrder_iff a b).mp hab.1) hab.2

theorem found_sites_nodup (file? : Option String) (t : Text) :
    let document := Document.read file? t
    ((document.diagnostics ++ (Resolution.ofNodes file? document.nodes).diagnostics).map
      Diagnostic.site).Nodup := by
  intro document
  have hall : document.sites.Nodup := Document.read_sites_nodup file? t
  have hlabels := Resolution.diagnostics_sites file? document.nodes
  rw [List.map_append]
  obtain ⟨sites, hperm, hsub⟩ :=
    (List.subperm_append_left (document.diagnostics.map Diagnostic.site)).mpr hlabels
  exact hperm.nodup_iff.mp (hall.sublist hsub)

end Report

/-- The whole report holds each diagnostic of the document and of the label pass once, and is
strictly increasing in line and column. A limit only cuts its list of diagnostics. -/
theorem report_strictly_ordered (file? : Option String) (t : Text) :
    let document := Document.read file? t
    let resolution := Resolution.ofNodes file? document.nodes
    let whole := (Report.ofText file? (-1) t).diagnostics
    whole.Perm (document.diagnostics ++ resolution.diagnostics) ∧
      whole.Pairwise (fun a b => (toLex a.position : Int ×ₗ Int) < toLex b.position) ∧
      ∀ limit : Int,
        (Report.ofText file? limit t).diagnostics =
            (if 0 ≤ limit then whole.take limit.toNat else whole) ∧
          (Report.ofText file? limit t).nodes = document.nodes ∧
          (Report.ofText file? limit t).resolution = resolution := by
  intro document resolution whole
  have hwhole : whole =
      (document.diagnostics ++ resolution.diagnostics).mergeSort Report.inOrder := rfl
  refine ⟨?_, ?_, fun limit => ⟨?_, rfl, rfl⟩⟩
  · rw [hwhole]
    exact List.mergeSort_perm _ _
  · rw [hwhole]
    exact Report.sorted_strict (Report.found_sites_nodup file? t)
  · change Report.cut limit _ = _
    rw [hwhole, Report.cut]
    split
    · rw [if_neg (by omega)]
    · rw [if_pos (by omega)]

end AsmCheck
