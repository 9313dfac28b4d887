import AsmCheck.Report
import AsmCheck.Proofs.Shifting

/-!
# Line endings

A line may end in a line feed or in a carriage return and a line feed: the returns stand in no
marker, move no character that counts, are cut off the lines of code and are blank in a memory
section. So the document with returns has the same sections at the same positions, and only its
memory sections have other texts.
-/

namespace AsmCheck

set_option autoImplicit false

/-- The text with a carriage return put in front of every line feed. -/
def Text.withReturns (t : Text) : Text := t.flatMap fun c => if c = '\n' then ['\r', '\n'] else [c]

namespace Text

theorem withReturns_newline (t : Text) :
    withReturns ('\n' :: t) = '\r' :: '\n' :: withReturns t := rfl

theorem withReturns_cons {c : Char} (hc : c ≠ '\n') (t : Text) :
    withReturns (c :: t) = c :: withReturns t := by
  rw [withReturns, List.flatMap_cons, if_neg hc]
  rfl

theorem withReturns_append_of_not_mem {s : Text} (hs : '\n' ∉ s) (t : Text) :
    withReturns (s ++ t) = s ++ withReturns t := by
  induction s with
  | nil => rfl
  | cons c s ih =>
    have hc : c ≠ '\n' := fun heq => hs (heq ▸ List.mem_cons_self)
    rw [List.cons_append, withReturns_cons hc, ih fun hmem => hs (List.mem_cons_of_mem c hmem)]
    rfl

/-- A piece without the line feed behind it may have got a carriage return at its end. -/
theorem pieces_withReturns (t : Text) :
    List.Forall₂ (fun piece piece' => piece' = piece ∨ piece' = piece ++ ['\r'])
      (pieces '\n' t) (pieces '\n' (withReturns t)) := by
  induction t with
  | nil => exact .cons (Or.inl rfl) .nil
  | cons c rest ih =>
    by_cases hc : c = '\n'
    · subst hc
      obtain ⟨piece, more, hpiece, hall⟩ :=
        exists_pieces_cons (by decide : '\r' ≠ '\n') ('\n' :: withReturns rest)
      rw [pieces_cons_self, List.cons.injEq] at hpiece
      rw [pieces_cons_self, withReturns_newline, hall, ← hpiece.1, ← hpiece.2]
      exact .cons (Or.inr rfl) ih
    · obtain ⟨piece, more, hpiece, hall⟩ := exists_pieces_cons hc rest
      obtain ⟨piece', more', hpiece', hall'⟩ := exists_pieces_cons hc (withReturns rest)
      rw [hpiece, hpiece'] at ih
      obtain ⟨hfirst, hmore⟩ := List.forall₂_cons.mp ih
      rw [withReturns_cons hc, hall, hall']
      refine .cons ?_ hmore
      rcases hfirst with heq | heq
      · exact Or.inl (congrArg (c :: ·) heq)
      · exact Or.inr (congrArg (c :: ·) heq)

end Text

theorem Position.after_withReturns (p : Position) (t : Text) :
    p.after (Text.withReturns t) = p.after t := by
  induction t generalizing p with
  | nil => rfl
  | cons c rest ih =>
    by_cases hc : c = '\n'
    · subst hc
      rw [Text.withReturns_newline, after_cons, after_cons, after_cons, ih]
      rfl
    · rw [Text.withReturns_cons hc, after_cons, after_cons, ih]

theorem endsMarker_return : EndsMarker '\r' := ⟨fun kind => by cases kind <;> decide, by decide⟩

theorem sameHead_withReturns (t : Text) : SameHead (Text.withReturns t) t := by
  induction t with
  | nil => exact .stop (by simp [Text.withReturns]) (by simp)
  | cons c rest ih =>
    by_cases hc : c = '\n'
    · subst hc
      exact .stop (fun c hc => Option.some.inj hc ▸ endsMarker_return)
        (fun c hc => Option.some.inj hc ▸ endsMarker_newline)
    · rw [Text.withReturns_cons hc]
      exact .cons c ih

def Block.withReturns (b : Block) : Block := ⟨b.kind, Text.withReturns b.text⟩

theorem Division.ofText_withReturns (t : Text) :
    ofText (Text.withReturns t) =
      ⟨Text.withReturns (ofText t).opening, (ofText t).blocks.map Block.withReturns⟩ := by
  induction t with
  | nil => rfl
  | cons c rest ih =>
    by_cases hc : c = '\n'
    · subst hc
      rw [Text.withReturns_newline, ofText, marker?_of_ne (by decide), ofText_newline, ih,
        ofText_newline]
      rfl
    · have hmarker := (sameHead_withReturns (c :: rest)).marker?_eq
      rw [Text.withReturns_cons hc] at hmarker ⊢
      rw [ofText, ofText, hmarker, ih]
      cases marker? (c :: rest) with
      | none => simp only [push, Text.withReturns_cons hc]
      | some kind =>
        simp only [push, List.map_cons, Block.withReturns, Text.withReturns_cons hc]
        rfl

theorem Block.body_withReturns {b : Block} (h : b.text = b.kind.marker ++ b.body) :
    b.withReturns.body = Text.withReturns b.body := by
  apply body_of_text
  rw [withReturns, h]
  exact Text.withReturns_append_of_not_mem (endsMarker_newline.1 b.kind) b.body

def Item.withReturns : Item → Item
  | .memory p body => .memory p (Text.withReturns body)
  | .line l => .line l

namespace Document

theorem linesFrom_withReturns (p : Position) (t : Text) :
    linesFrom p (Text.pieces '\n' (Text.withReturns t)) = linesFrom p (Text.pieces '\n' t) := by
  have hpieces := Text.pieces_withReturns t
  generalize Text.pieces '\n' (Text.withReturns t) = ended at hpieces ⊢
  generalize Text.pieces '\n' t = pieces at hpieces ⊢
  induction hpieces generalizing p with
  | nil => rfl
  | @cons piece piece' _ _ hpiece _ ih =>
    have hcut : Text.dropEndWhile (· == '\r') piece' = Text.dropEndWhile (· == '\r') piece := by
      rcases hpiece with rfl | rfl
      · rfl
      · exact List.rdropWhile_concat_pos _ _ _ rfl
    rw [linesFrom_cons, linesFrom_cons, hcut, ih]

theorem blockItems_withReturns (p : Position) {b : Block}
    (h : b.text = b.kind.marker ++ b.body) :
    blockItems p b.withReturns = (blockItems p b).map Item.withReturns := by
  refine blockItems_map (fun _ _ => rfl) (fun p body => ?_) p rfl (Block.body_withReturns h)
  rw [linesFrom_withReturns, List.map_map]
  rfl

theorem itemsFrom_withReturns (p : Position) {blocks : List Block}
    (h : ∀ b ∈ blocks, b.text = b.kind.marker ++ b.body) :
    itemsFrom p (blocks.map Block.withReturns) = (itemsFrom p blocks).map Item.withReturns := by
  induction blocks generalizing p with
  | nil => rfl
  | cons b rest ih =>
    rw [List.map_cons, itemsFrom, itemsFrom, List.map_append,
      blockItems_withReturns p (h b List.mem_cons_self)]
    change _ ++ itemsFrom (p.after (Text.withReturns b.text)) _ = _
    rw [Position.after_withReturns, ih _ fun b' hb' => h b' (List.mem_cons_of_mem b hb')]

theorem items_withReturns (t : Text) :
    items (Text.withReturns t) = (items t).map Item.withReturns := by
  rw [items_eq_itemsFrom, items_eq_itemsFrom, Division.ofText_withReturns]
  simp only
  rw [Position.after_withReturns]
  exact itemsFrom_withReturns _ fun b hb => Division.block_text hb

end Document

namespace MemoryImage

/-- Only returns and line feeds change or move, and neither is kept. -/
theorem filter_uncommented_withReturns {keep : Placed → Bool}
    (hreturn : ∀ p, keep ('\r', p) = false) (hnewline : ∀ p, keep ('\n', p) = false)
    (inComment : Bool) (p : Position) (t : Text) :
    (uncommented inComment p (Text.withReturns t)).filter keep =
      (uncommented inComment p t).filter keep := by
  induction t generalizing inComment p with
  | nil => rfl
  | cons c rest ih =>
    by_cases hc : c = '\n'
    · subst hc
      have hfeed : ∀ (b : Bool) (q : Position) (u : Text),
          (uncommented b q ('\n' :: u)).filter keep =
            (uncommented false q.nextLine u).filter keep := by
        intro b q u
        exact List.filter_cons_of_neg (by simp [hnewline])
      have hended : (uncommented inComment p ('\r' :: '\n' :: Text.withReturns rest)).filter keep =
          (uncommented false p.nextLine (Text.withReturns rest)).filter keep := by
        cases inComment with
        | true => exact hfeed true (p.advance '\r') _
        | false =>
          refine Eq.trans ?_ (hfeed false (p.advance '\r') _)
          exact List.filter_cons_of_neg (by simp [hreturn])
      rw [Text.withReturns_newline, hended, hfeed, ih]
    · rw [Text.withReturns_cons hc, uncommented, uncommented, if_neg hc, if_neg hc]
      split
      · exact ih true (p.advance c)
      · rw [List.filter_cons, List.filter_cons, ih]

theorem digits_withReturns (p : Position) (body : Text) :
    digits p (Text.withReturns body) = digits p body :=
  filter_uncommented_withReturns (fun _ => rfl) (fun _ => rfl) false p body

theorem strangers_withReturns (p : Position) (body : Text) :
    strangers p (Text.withReturns body) = strangers p body :=
  filter_uncommented_withReturns (fun _ => rfl) (fun _ => rfl) false p body

end MemoryImage

theorem Item.read_withReturns (file? : Option String) (address : Int) (item : Item) :
    item.withReturns.read file? address = item.read file? address := by
  cases item with
  | memory p body =>
    simp only [withReturns, read, MemoryImage.words, MemoryImage.reports,
      MemoryImage.digits_withReturns, MemoryImage.strangers_withReturns]
  | line l => rfl

theorem Item.words_withReturns (item : Item) : item.withReturns.words = item.words := by
  cases item with
  | memory p body => rfl
  | line l => rfl

theorem Document.readFrom_withReturns (file? : Option String) (address : Int)
    (items : List Item) :
    readFrom file? address (items.map Item.withReturns) = readFrom file? address items := by
  induction items generalizing address with
  | nil => rfl
  | cons item rest ih =>
    rw [List.map_cons, readFrom_cons, readFrom_cons, Item.read_withReturns, Item.words_withReturns,
      ih]

/-- A carriage return in front of every line feed changes nothing that is found in a document, and
nothing in the report on it. -/
theorem line_endings_ignored (file? : Option String) (t : Text) :
    Document.read file? (Text.withReturns t) = Document.read file? t ∧
      ∀ limit, Report.ofText file? limit (Text.withReturns t) = Report.ofText file? limit t := by
  have hread : Document.read file? (Text.withReturns t) = Document.read file? t := by
    rw [Document.read, Document.items_withReturns, Document.readFrom_withReturns, ← Document.read]
  refine ⟨hread, fun limit => ?_⟩
  simp only [Report.ofText, hread]

end AsmCheck
