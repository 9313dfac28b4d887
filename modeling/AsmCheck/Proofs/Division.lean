import AsmCheck.Proofs.DocumentOrder

/-!
# Division

A text is divided in front of its markers into what precedes the first marker and one block for
each section. A line feed is no part of a marker and ends one, so a text may be cut in front of a
line feed and the two parts divided apart: what precedes the first marker of the second part goes
on with the last section of the first. The items of a document are the items of its blocks.
-/

namespace AsmCheck

set_option autoImplicit false

/-- A section as it stands in its text, with its marker. -/
structure Block where
  kind : SectionKind
  text : Text
  deriving DecidableEq

/-- The body of a block, without the marker. -/
def Block.body (b : Block) : Text := b.text.drop b.kind.marker.length

theorem Block.body_of_text {b : Block} {body : Text} (h : b.text = b.kind.marker ++ body) :
    b.body = body := by
  rw [Block.body, h]
  exact List.drop_left

structure Division where
  opening : Text
  blocks : List Block
  deriving DecidableEq

namespace Division

/-- The division of a text in front of which a character is put, which may start a section. -/
def push (c : Char) (d : Division) : Option SectionKind → Division
  | none => ⟨c :: d.opening, d.blocks⟩
  | some kind => ⟨[], ⟨kind, c :: d.opening⟩ :: d.blocks⟩

def ofText : Text → Division
  | [] => ⟨[], []⟩
  | c :: rest => (ofText rest).push c (marker? (c :: rest))

def join (blocks : List Block) : Text := blocks.flatMap Block.text

/-- The opening of the second division goes on with the last block of the first. -/
def append (d e : Division) : Division :=
  match d.blocks.getLast? with
  | none => ⟨d.opening ++ e.opening, e.blocks⟩
  | some b => ⟨d.opening, d.blocks.dropLast ++ ⟨b.kind, b.text ++ e.opening⟩ :: e.blocks⟩

theorem opening_append_join (t : Text) : (ofText t).opening ++ join (ofText t).blocks = t := by
  induction t with
  | nil => rfl
  | cons c rest ih =>
    rw [ofText]
    cases marker? (c :: rest) with
    | none => exact congrArg (c :: ·) ih
    | some kind => exact congrArg (c :: ·) ih

theorem opening_of_marker? {t : Text} (h : (marker? t).isSome = true) : (ofText t).opening = [] := by
  cases t with
  | nil => simp [marker?, startsSection, SectionKind.marker] at h
  | cons c rest =>
    obtain ⟨kind, hkind⟩ := Option.isSome_iff_exists.mp h
    rw [ofText, hkind]
    rfl

theorem append_of_blocks_nil {d : Division} (h : d.blocks = []) (e : Division) :
    d.append e = ⟨d.opening ++ e.opening, e.blocks⟩ := by
  simp [append, h]

theorem append_of_blocks {d : Division} {before : List Block} {b : Block}
    (h : d.blocks = before ++ [b]) (e : Division) :
    d.append e = ⟨d.opening, before ++ ⟨b.kind, b.text ++ e.opening⟩ :: e.blocks⟩ := by
  simp [append, h]

theorem append_of_opening_nil (d : Division) {e : Division} (h : e.opening = []) :
    d.append e = ⟨d.opening, d.blocks ++ e.blocks⟩ := by
  rcases List.eq_nil_or_concat' d.blocks with hnil | ⟨before, b, hblocks⟩
  · rw [append_of_blocks_nil hnil, h, hnil, List.append_nil, List.nil_append]
  · rw [append_of_blocks hblocks, h, hblocks, List.append_nil]
    simp

theorem push_append (c : Char) (d e : Division) (kind? : Option SectionKind) :
    (d.push c kind?).append e = (d.append e).push c kind? := by
  rcases List.eq_nil_or_concat' d.blocks with hnil | ⟨before, b, hblocks⟩
  · rw [append_of_blocks_nil hnil]
    cases kind? with
    | none =>
      rw [append_of_blocks_nil (d := d.push c none) hnil]
      rfl
    | some kind =>
      have hpush : (d.push c (some kind)).blocks = [] ++ [⟨kind, c :: d.opening⟩] := by
        simp [push, hnil]
      rw [append_of_blocks hpush]
      rfl
  · rw [append_of_blocks hblocks]
    cases kind? with
    | none =>
      rw [append_of_blocks (d := d.push c none) hblocks]
      rfl
    | some kind =>
      have hpush : (d.push c (some kind)).blocks = (⟨kind, c :: d.opening⟩ :: before) ++ [b] := by
        simp [push, hblocks]
      rw [append_of_blocks hpush]
      rfl

end Division

/-- A character that stands in no marker and may follow one. -/
def EndsMarker (c : Char) : Prop :=
  (∀ kind : SectionKind, c ∉ kind.marker) ∧ Text.isWordChar c = false

theorem endsMarker_newline : EndsMarker '\n' := ⟨fun kind => by cases kind <;> decide, by decide⟩

/-- Two texts are the same up to a place where each of them ends or goes on with a character that
ends markers. -/
inductive SameHead : Text → Text → Prop where
  | stop {s t : Text} : (∀ c ∈ s.head?, EndsMarker c) → (∀ c ∈ t.head?, EndsMarker c) → SameHead s t
  | cons (c : Char) {s t : Text} : SameHead s t → SameHead (c :: s) (c :: t)

theorem sameHead_newline (s rest : Text) : SameHead (s ++ '\n' :: rest) s := by
  induction s with
  | nil => exact .stop (fun c hc => Option.some.inj hc ▸ endsMarker_newline) (by simp)
  | cons c s ih => exact .cons c ih

theorem SameHead.startsSection_eq {s t : Text} (h : SameHead s t) (kind : SectionKind) :
    startsSection kind s = startsSection kind t := by
  have hend : ∀ m : Text, (∀ c, EndsMarker c → c ∉ m) → ∀ s t : Text, SameHead s t →
      (m.isPrefixOf s && !((s.drop m.length).head?.any Text.isWordChar)) =
        (m.isPrefixOf t && !((t.drop m.length).head?.any Text.isWordChar)) := by
    -- A character that ends markers ends both matches in the place of a character of the marker,
    -- and behind the marker it is no word character.
    intro m hm
    induction m with
    | nil =>
      intro s t hst
      have hstop : ∀ u : Text, (∀ c ∈ u.head?, EndsMarker c) →
          u.head?.any Text.isWordChar = false := by
        intro u hu
        cases u with
        | nil => rfl
        | cons c u => exact (hu c rfl).2
      cases hst with
      | stop hs ht => simp [hstop s hs, hstop t ht]
      | cons c _ => simp
    | cons x m ih =>
      intro s t hst
      have hstop : ∀ u : Text, (∀ c ∈ u.head?, EndsMarker c) →
          (x :: m).isPrefixOf u = false := by
        intro u hu
        cases u with
        | nil => rfl
        | cons c u =>
          have hne : (x == c) = false := by
            rw [beq_eq_false_iff_ne]
            exact fun heq => hm c (hu c rfl) (heq ▸ List.mem_cons_self)
          simp [List.isPrefixOf, hne]
      cases hst with
      | stop hs ht => rw [hstop s hs, hstop t ht, Bool.false_and, Bool.false_and]
      | @cons c s t hrest =>
        have hmore := ih (fun d hd hmem => hm d hd (List.mem_cons_of_mem x hmem)) s t hrest
        simp only [List.isPrefixOf, List.length_cons, List.drop_succ_cons, Bool.and_assoc, hmore]
  exact hend kind.marker (fun c hc => hc.1 kind) s t h

theorem SameHead.marker?_eq {s t : Text} (h : SameHead s t) : marker? s = marker? t := by
  simp only [marker?, h.startsSection_eq]

theorem marker?_newline (s rest : Text) : marker? (s ++ '\n' :: rest) = marker? s :=
  (sameHead_newline s rest).marker?_eq

namespace Division

theorem ofText_newline (rest : Text) :
    ofText ('\n' :: rest) = ⟨'\n' :: (ofText rest).opening, (ofText rest).blocks⟩ := by
  rw [ofText, marker?_of_ne (by decide)]
  rfl

theorem ofText_append_newline (s rest : Text) :
    ofText (s ++ '\n' :: rest) = (ofText s).append (ofText ('\n' :: rest)) := by
  induction s with
  | nil => rfl
  | cons c s ih =>
    have hmarker := marker?_newline (c :: s) rest
    rw [List.cons_append] at hmarker ⊢
    rw [ofText, ofText, hmarker, ih, push_append]

theorem blocks_eq_nil_iff (t : Text) : (ofText t).blocks = [] ↔ markersFrom 0 t = [] := by
  have hall : ∀ offset, (ofText t).blocks = [] ↔ markersFrom offset t = [] := by
    induction t with
    | nil => simp [ofText, markersFrom]
    | cons c rest ih =>
      intro offset
      rw [ofText, markersFrom]
      cases marker? (c :: rest) with
      | none => exact ih (offset + 1)
      | some kind => simp [push]
  exact hall 0

theorem opening_of_blocks_nil {t : Text} (h : (ofText t).blocks = []) : (ofText t).opening = t := by
  have hall := opening_append_join t
  rw [h] at hall
  simpa [join] using hall

theorem ofText_skip {u : Text} (hu : '.' ∉ u) (rest : Text) :
    ofText (u ++ rest) = ⟨u ++ (ofText rest).opening, (ofText rest).blocks⟩ := by
  induction u with
  | nil => rfl
  | cons c u ih =>
    have hc : c ≠ '.' := fun heq => hu (heq ▸ List.mem_cons_self)
    have hrest : '.' ∉ u := fun hmem => hu (List.mem_cons_of_mem c hmem)
    rw [List.cons_append, ofText, marker?_of_ne hc, ih hrest]
    rfl

theorem block_text {t : Text} {b : Block} (h : b ∈ (ofText t).blocks) :
    b.text = b.kind.marker ++ b.body := by
  induction t with
  | nil => simp [ofText] at h
  | cons c rest ih =>
    rw [ofText] at h
    cases hkind : marker? (c :: rest) with
    | none =>
      rw [hkind] at h
      exact ih h
    | some kind =>
      rw [hkind] at h
      rcases List.mem_cons.mp h with rfl | h
      · obtain ⟨tail, htail⟩ := eq_append_of_marker? hkind
        rw [kind.marker_eq, List.cons_append, List.cons.injEq] at htail
        simp only [Block.body, kind.marker_eq, htail.1, htail.2, ofText_skip kind.dot_not_mem_name,
          List.length_cons, List.drop_succ_cons, List.drop_left, List.cons_append]
      · exact ih h

theorem length_opening (offset : Nat) (t : Text) :
    Section.stopBefore (offset + t.length) (markersFrom offset t) =
      offset + (ofText t).opening.length := by
  induction t generalizing offset with
  | nil => rfl
  | cons c rest ih =>
    rw [ofText, markersFrom]
    cases marker? (c :: rest) with
    | none =>
      have hrest := ih (offset + 1)
      rw [Nat.add_assoc, Nat.add_assoc, Nat.add_comm 1, Nat.add_comm 1] at hrest
      exact hrest
    | some kind => rfl

end Division

namespace Division

theorem append_opening (d : Division) (x : Text) (e : Division) :
    (d.append ⟨x, []⟩).append e = d.append ⟨x ++ e.opening, e.blocks⟩ := by
  rcases List.eq_nil_or_concat' d.blocks with hnil | ⟨before, b, hblocks⟩
  · rw [append_of_blocks_nil hnil, append_of_blocks_nil hnil, append_of_blocks_nil rfl,
      List.append_assoc]
  · rw [append_of_blocks hblocks, append_of_blocks hblocks, append_of_blocks rfl,
      List.append_assoc]

/-- A text is divided like its parts, if the first one ends a line. -/
theorem ofText_append {s : Text} (h : s = [] ∨ s.getLast? = some '\n') (rest : Text) :
    ofText (s ++ rest) = (ofText s).append (ofText rest) := by
  rcases h with rfl | h
  · rfl
  · obtain ⟨u, rfl⟩ := List.getLast?_eq_some_iff.mp h
    rw [List.append_assoc, List.singleton_append, ofText_append_newline, ofText_append_newline,
      ofText_newline, ofText_newline]
    exact (append_opening (ofText u) ['\n'] (ofText rest)).symm

theorem kinds_append (d e : Division) :
    (d.append e).blocks.map Block.kind = d.blocks.map Block.kind ++ e.blocks.map Block.kind := by
  rcases List.eq_nil_or_concat' d.blocks with hnil | ⟨before, b, hblocks⟩
  · rw [append_of_blocks_nil hnil, hnil]
    rfl
  · rw [append_of_blocks hblocks, hblocks]
    simp

theorem kinds_eq (t : Text) :
    (Section.ofText t).map Section.kind = (ofText t).blocks.map Block.kind := by
  have hmarkers : ∀ (length : Nat) (markers : List (SectionKind × Nat)),
      (Section.ofMarkers length markers).map Section.kind = markers.map (·.1) := by
    intro length markers
    induction markers with
    | nil => rfl
    | cons m rest ih => rw [Section.ofMarkers_cons, List.map_cons, List.map_cons, ih]
  have hblocks : ∀ (offset : Nat) (t : Text),
      (markersFrom offset t).map (·.1) = (ofText t).blocks.map Block.kind := by
    intro offset t
    induction t generalizing offset with
    | nil => rfl
    | cons c rest ih =>
      rw [markersFrom, ofText]
      cases marker? (c :: rest) with
      | none => exact ih (offset + 1)
      | some kind => simp [push, ih]
  rw [Section.ofText, hmarkers, hblocks]

end Division

namespace Document

/-- The items of a block that starts at the given position. -/
def blockItems (p : Position) (b : Block) : List Item :=
  let start := p.after b.kind.marker
  match b.kind with
  | .memory => [.memory start b.body]
  | .code => (linesFrom start (Text.pieces '\n' b.body)).map .line

def itemsFrom (p : Position) : List Block → List Item
  | [] => []
  | b :: rest => blockItems p b ++ itemsFrom (p.after b.text) rest

/-- A change to bodies that keeps the kind of a block changes its items accordingly. -/
theorem blockItems_map {f : Text → Text} {g : Item → Item}
    (hmemory : ∀ p body, g (.memory p body) = .memory p (f body))
    (hcode : ∀ p body, (linesFrom p (Text.pieces '\n' (f body))).map Item.line =
      ((linesFrom p (Text.pieces '\n' body)).map Item.line).map g)
    (p : Position) {b b' : Block} (hkind : b'.kind = b.kind) (hbody : b'.body = f b.body) :
    blockItems p b' = (blockItems p b).map g := by
  unfold blockItems
  rw [hkind, hbody]
  cases b.kind with
  | memory => simp only [List.map_cons, List.map_nil, hmemory]
  | code => exact hcode (p.after SectionKind.code.marker) b.body

theorem itemsFrom_append (p : Position) (first second : List Block) :
    itemsFrom p (first ++ second) =
      itemsFrom p first ++ itemsFrom (p.after (Division.join first)) second := by
  induction first generalizing p with
  | nil => rfl
  | cons b rest ih =>
    rw [List.cons_append, itemsFrom, itemsFrom, ih, List.append_assoc, ← Position.after_append]
    rfl

theorem sectionItems_eq_blockItems (u v w : Text) {kind : SectionKind}
    (h : marker? (v ++ w) = some kind) :
    sectionItems (u ++ (v ++ w)) ⟨kind, u.length + kind.marker.length, u.length + v.length⟩ =
      blockItems (Position.start.after u) ⟨kind, v⟩ := by
  obtain ⟨tail, htail⟩ := eq_append_of_marker? h
  have hposition : Position.ofOffset (u ++ (v ++ w)) (u.length + kind.marker.length) =
      (Position.start.after u).after kind.marker := by
    rw [Position.ofOffset, htail, ← List.append_assoc, ← List.length_append, List.take_left,
      Position.after_append]
  have hbody : Section.body (u ++ (v ++ w))
      ⟨kind, u.length + kind.marker.length, u.length + v.length⟩ = Block.body ⟨kind, v⟩ := by
    have htake : (u ++ (v ++ w)).take (u.length + v.length) = u ++ v := by
      rw [← List.append_assoc, ← List.length_append, List.take_left]
    rw [Section.body, ← List.drop_take, htake, List.drop_length_add_append]
    rfl
  cases kind <;> simp only [sectionItems, blockItems, hposition, hbody]

theorem sectionItems_eq_itemsFrom (u v : Text) :
    (Section.ofMarkers (u.length + v.length) (markersFrom u.length v)).flatMap
        (sectionItems (u ++ v)) =
      itemsFrom (Position.start.after (u ++ (Division.ofText v).opening))
        (Division.ofText v).blocks := by
  -- Characters go over from `v` to `u`, so that offsets count from the start of the whole text.
  induction v generalizing u with
  | nil => rfl
  | cons c rest ih =>
    have hrest := ih (u ++ [c])
    have hlength : (u ++ [c]).length + rest.length = u.length + (c :: rest).length := by
      simp only [List.length_append, List.length_cons, List.length_nil]
      omega
    rw [hlength, List.append_assoc, List.singleton_append, List.append_assoc,
      List.singleton_append, List.length_append, List.length_singleton] at hrest
    rw [Division.ofText, markersFrom]
    cases hkind : marker? (c :: rest) with
    | none => exact hrest
    | some kind =>
      have hstop : Section.stopBefore (u.length + (c :: rest).length)
          (markersFrom (u.length + 1) rest) =
            u.length + (c :: (Division.ofText rest).opening).length := by
        have hopening := Division.length_opening (u.length + 1) rest
        rw [List.length_cons, List.length_cons]
        rw [Nat.add_assoc, Nat.add_assoc, Nat.add_comm 1, Nat.add_comm 1] at hopening
        exact hopening
      have hsplit : c :: rest =
          (c :: (Division.ofText rest).opening) ++ Division.join (Division.ofText rest).blocks := by
        rw [List.cons_append, Division.opening_append_join]
      have hblock := sectionItems_eq_blockItems u (c :: (Division.ofText rest).opening)
        (Division.join (Division.ofText rest).blocks) (hsplit ▸ hkind)
      rw [← hsplit] at hblock
      rw [Section.ofMarkers_cons, List.flatMap_cons, hrest, hstop, hblock]
      simp only [Division.push, itemsFrom, List.append_nil]
      rw [← Position.after_append]

theorem items_eq_itemsFrom (t : Text) :
    items t = itemsFrom (Position.start.after (Division.ofText t).opening)
      (Division.ofText t).blocks := by
  have hitems := sectionItems_eq_itemsFrom [] t
  rw [List.length_nil, Nat.zero_add, List.nil_append, List.nil_append] at hitems
  exact hitems

end Document

end AsmCheck
