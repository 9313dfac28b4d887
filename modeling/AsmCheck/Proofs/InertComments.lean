import AsmCheck.Proofs.Coordinates
import AsmCheck.Proofs.Shifting

/-!
# Inert comments

What stands behind a semicolon is of no consequence as long as it holds no marker. A document is
compared with the one whose comments are empty: it has the same sections, its lines have the same
code at the same positions, and its memory sections have the same characters outside comments. Two
documents that differ in their comments only have the same document with empty comments.
-/

namespace AsmCheck

set_option autoImplicit false

/-- Two lines are the same, or the same up to their first semicolon. -/
def SameCode (a b : Text) : Prop :=
  a = b ∨ ∃ code x y, ';' ∉ code ∧ a = code ++ ';' :: x ∧ b = code ++ ';' :: y

/-- What a line has behind its first semicolon. -/
def commentBody (line : Text) : Text := (line.dropWhile (· != ';')).drop 1

/-- A line up to its first semicolon, the semicolon included. -/
def emptyComment (line : Text) : Text := codePart line ++ (line.dropWhile (· != ';')).take 1

theorem codePart_of_split {code : Text} (h : ';' ∉ code) (rest : Text) :
    codePart (code ++ ';' :: rest) = code ∧
      (code ++ ';' :: rest).dropWhile (· != ';') = ';' :: rest := by
  have hall : ∀ c ∈ code, (c != ';') = true := by
    intro c hc
    have hne : c ≠ ';' := fun heq => h (heq ▸ hc)
    simpa using hne
  constructor
  · rw [codePart, Text.before, List.takeWhile_append_of_pos hall,
      List.takeWhile_cons_of_neg (by simp), List.append_nil]
  · rw [List.dropWhile_append_of_pos hall, List.dropWhile_cons_of_neg (by simp)]

theorem emptyComment_of_not_mem {line : Text} (h : ';' ∉ line) : emptyComment line = line := by
  obtain ⟨hcode, hrest⟩ := codePart_of_not_mem h
  rw [emptyComment, hcode, hrest]
  exact List.append_nil line

theorem emptyComment_of_split {code : Text} (h : ';' ∉ code) (rest : Text) :
    emptyComment (code ++ ';' :: rest) = code ++ [';'] := by
  obtain ⟨hcode, hrest⟩ := codePart_of_split h rest
  rw [emptyComment, hcode, hrest]
  rfl

theorem SameCode.emptyComment_eq {a b : Text} (h : SameCode a b) :
    emptyComment a = emptyComment b := by
  rcases h with rfl | ⟨code, x, y, hcode, rfl, rfl⟩
  · rfl
  · rw [emptyComment_of_split hcode, emptyComment_of_split hcode]

theorem sameCode_emptyComment (line : Text) : SameCode line (emptyComment line) := by
  by_cases h : ';' ∈ line
  · obtain ⟨code, rest, rfl, hcode⟩ := List.eq_append_cons_of_mem h
    exact Or.inr ⟨code, rest, [], hcode, rfl, emptyComment_of_split hcode rest⟩
  · exact Or.inl (emptyComment_of_not_mem h).symm

theorem dropEndWhile_emptyComment (line : Text) :
    Text.dropEndWhile (· == '\r') (emptyComment line) =
      emptyComment (Text.dropEndWhile (· == '\r') line) := by
  by_cases h : ';' ∈ line
  · obtain ⟨code, rest, rfl, hcode⟩ := List.eq_append_cons_of_mem h
    rw [emptyComment_of_split hcode, Text.dropEndWhile_append_cons (by decide),
      Text.dropEndWhile_append_cons (by decide), emptyComment_of_split hcode]
    rfl
  · have hdrop : ';' ∉ Text.dropEndWhile (· == '\r') line := by
      obtain ⟨tail, htail, _⟩ := Text.dropEndWhile_append (· == '\r') line
      intro hmem
      rw [htail] at h
      exact h (List.mem_append_left _ hmem)
    rw [emptyComment_of_not_mem h, emptyComment_of_not_mem hdrop]

/-- A text with nothing behind the semicolons of its lines. It may start inside a comment. -/
def emptyComments (inComment : Bool) : Text → Text
  | [] => []
  | c :: rest =>
    if c = '\n' then '\n' :: emptyComments false rest
    else if inComment then emptyComments true rest
    else c :: emptyComments (c == ';') rest

/-- No marker starts inside a comment. -/
def CommentsPlain (inComment : Bool) : Text → Prop
  | [] => True
  | c :: rest =>
    if c = '\n' then CommentsPlain false rest
    else if inComment then marker? (c :: rest) = none ∧ CommentsPlain true rest
    else CommentsPlain (c == ';') rest

theorem emptyComments_newline (inComment : Bool) (rest : Text) :
    emptyComments inComment ('\n' :: rest) = '\n' :: emptyComments false rest := by
  rw [emptyComments, if_pos rfl]

theorem emptyComments_comment {c : Char} (hc : c ≠ '\n') (rest : Text) :
    emptyComments true (c :: rest) = emptyComments true rest := by
  rw [emptyComments, if_neg hc, if_pos rfl]

theorem emptyComments_code {c : Char} (hc : c ≠ '\n') (rest : Text) :
    emptyComments false (c :: rest) = c :: emptyComments (c == ';') rest := by
  rw [emptyComments, if_neg hc, if_neg Bool.false_ne_true]

theorem emptyComments_append {s : Text} (hnewline : '\n' ∉ s) (hsemicolon : ';' ∉ s) (t : Text) :
    emptyComments false (s ++ t) = s ++ emptyComments false t := by
  induction s with
  | nil => rfl
  | cons c s ih =>
    rw [List.mem_cons, not_or] at hnewline hsemicolon
    have hc : (c == ';') = false := beq_eq_false_iff_ne.mpr (Ne.symm hsemicolon.1)
    rw [List.cons_append, emptyComments_code (Ne.symm hnewline.1), hc,
      ih hnewline.2 hsemicolon.2]
    rfl

theorem emptyComment_cons (c : Char) (line : Text) :
    emptyComment (c :: line) = c :: if c == ';' then [] else emptyComment line := by
  by_cases hc : c = ';'
  · subst hc
    rfl
  · simp [emptyComment, codePart, Text.before, hc]

theorem commentBody_cons (c : Char) (line : Text) :
    commentBody (c :: line) = if c == ';' then line else commentBody line := by
  by_cases hc : c = ';'
  · subst hc
    rfl
  · simp [commentBody, hc]

theorem exists_pieces_eq (separator : Char) (t : Text) :
    ∃ piece more, Text.pieces separator t = piece :: more :=
  List.exists_cons_of_ne_nil (Text.pieces_ne_nil separator t)

/-- A comment that goes on from the line before is emptied with its line. -/
theorem pieces_emptyComments {inComment : Bool} {t piece : Text} {more : List Text}
    (h : Text.pieces '\n' t = piece :: more) :
    Text.pieces '\n' (emptyComments inComment t) =
      (if inComment then [] else emptyComment piece) :: more.map emptyComment := by
  induction t generalizing inComment piece more with
  | nil =>
    obtain ⟨rfl, rfl⟩ := List.cons.inj h
    cases inComment <;> rfl
  | cons c rest ih =>
    by_cases hc : c = '\n'
    · subst hc
      obtain ⟨first, others, hrest⟩ := exists_pieces_eq '\n' rest
      rw [Text.pieces_cons_self, hrest] at h
      obtain ⟨rfl, rfl⟩ := List.cons.inj h
      rw [emptyComments_newline, Text.pieces_cons_self, ih hrest]
      cases inComment <;> rfl
    · obtain ⟨first', others', hfirst, hall⟩ := Text.exists_pieces_cons hc rest
      rw [hall] at h
      obtain ⟨rfl, rfl⟩ := List.cons.inj h
      cases inComment with
      | true =>
        rw [emptyComments_comment hc, ih hfirst]
        rfl
      | false =>
        obtain ⟨piece, more, hpiece, hmore⟩ :=
          Text.exists_pieces_cons hc (emptyComments (c == ';') rest)
        rw [ih hfirst] at hpiece
        obtain ⟨rfl, rfl⟩ := List.cons.inj hpiece
        rw [emptyComments_code hc, hmore, if_neg Bool.false_ne_true, emptyComment_cons]

theorem lines_emptyComments (t : Text) :
    Document.lines (emptyComments false t) = (Document.lines t).map emptyComment := by
  obtain ⟨piece, more, h⟩ := exists_pieces_eq '\n' t
  rw [Document.lines, Document.lines, pieces_emptyComments h, h]
  rfl

theorem emptyComments_eq_of_sameCode {t t' : Text}
    (h : List.Forall₂ SameCode (Document.lines t) (Document.lines t')) :
    emptyComments false t = emptyComments false t' := by
  have hlines : (Document.lines t).map emptyComment = (Document.lines t').map emptyComment := by
    generalize Document.lines t = lines at h
    generalize Document.lines t' = lines' at h
    induction h with
    | nil => rfl
    | cons hline _ ih => rw [List.map_cons, List.map_cons, hline.emptyComment_eq, ih]
  calc emptyComments false t
      = Text.join ['\n'] ((Document.lines t).map emptyComment) := by
        rw [← lines_emptyComments, Document.lines, Text.join_pieces]
    _ = emptyComments false t' := by
        rw [hlines, ← lines_emptyComments, Document.lines, Text.join_pieces]

/-- A marker is looked for on the line on which it starts. -/
theorem marker?_pieces {t piece : Text} {more : List Text}
    (h : Text.pieces '\n' t = piece :: more) : marker? t = marker? piece := by
  have hjoin := Text.join_pieces '\n' t
  rw [h] at hjoin
  cases more with
  | nil =>
    have ht : t = piece := by simpa [Text.join] using hjoin.symm
    rw [ht]
  | cons second more =>
    rw [← hjoin, Text.join_cons_cons]
    exact marker?_newline piece _

theorem markersFrom_eq_nil_cons {c : Char} {rest : Text} (h : markersFrom 0 (c :: rest) = []) :
    marker? (c :: rest) = none ∧ markersFrom 0 rest = [] := by
  rw [← Division.blocks_eq_nil_iff, Division.ofText] at h
  rw [← Division.blocks_eq_nil_iff]
  cases hmarker : marker? (c :: rest) with
  | none =>
    rw [hmarker] at h
    exact ⟨rfl, h⟩
  | some kind =>
    rw [hmarker] at h
    simp [Division.push] at h

theorem commentsPlain_of_pieces {inComment : Bool} {t piece : Text} {more : List Text}
    (h : Text.pieces '\n' t = piece :: more)
    (hpiece : markersFrom 0 (if inComment then piece else commentBody piece) = [])
    (hmore : ∀ line ∈ more, markersFrom 0 (commentBody line) = []) :
    CommentsPlain inComment t := by
  induction t generalizing inComment piece more with
  | nil => trivial
  | cons c rest ih =>
    by_cases hc : c = '\n'
    · subst hc
      obtain ⟨first, others, hrest⟩ := exists_pieces_eq '\n' rest
      rw [Text.pieces_cons_self, hrest] at h
      obtain ⟨rfl, rfl⟩ := List.cons.inj h
      rw [CommentsPlain, if_pos rfl]
      exact ih hrest (hmore first List.mem_cons_self)
        fun line hline => hmore line (List.mem_cons_of_mem first hline)
    · obtain ⟨first', others', hfirst, hall⟩ := Text.exists_pieces_cons hc rest
      have hmarker := marker?_pieces hall
      rw [hall] at h
      obtain ⟨rfl, rfl⟩ := List.cons.inj h
      rw [CommentsPlain, if_neg hc]
      cases inComment with
      | true =>
        obtain ⟨hnone, hbody⟩ := markersFrom_eq_nil_cons hpiece
        exact ⟨hmarker.trans hnone, ih hfirst hbody hmore⟩
      | false =>
        rw [if_neg Bool.false_ne_true, commentBody_cons] at hpiece
        exact ih hfirst hpiece hmore

theorem commentsPlain_of_lines {t : Text}
    (h : ∀ line ∈ Document.lines t, markersFrom 0 (commentBody line) = []) :
    CommentsPlain false t := by
  obtain ⟨piece, more, hpieces⟩ := exists_pieces_eq '\n' t
  rw [Document.lines, hpieces] at h
  exact commentsPlain_of_pieces hpieces (h piece List.mem_cons_self)
    fun line hline => h line (List.mem_cons_of_mem piece hline)

theorem endsMarker_semicolon : EndsMarker ';' := ⟨fun kind => by cases kind <;> decide, by decide⟩

theorem sameHead_emptyComments (t : Text) : SameHead (emptyComments false t) t := by
  induction t with
  | nil => exact .stop (by simp [emptyComments]) (by simp)
  | cons c rest ih =>
    by_cases hc : c = '\n'
    · subst hc
      rw [emptyComments_newline]
      exact .stop (fun c hc => Option.some.inj hc ▸ endsMarker_newline)
        (fun c hc => Option.some.inj hc ▸ endsMarker_newline)
    · rw [emptyComments_code hc]
      by_cases hsemicolon : c = ';'
      · subst hsemicolon
        exact .stop (fun c hc => Option.some.inj hc ▸ endsMarker_semicolon)
          (fun c hc => Option.some.inj hc ▸ endsMarker_semicolon)
      · rw [beq_eq_false_iff_ne.mpr hsemicolon]
        exact .cons c ih

def Block.emptyComments (b : Block) : Block := ⟨b.kind, AsmCheck.emptyComments false b.text⟩

theorem Division.ofText_emptyComments {inComment : Bool} {t : Text}
    (h : CommentsPlain inComment t) :
    ofText (emptyComments inComment t) =
      ⟨emptyComments inComment (ofText t).opening, (ofText t).blocks.map Block.emptyComments⟩ := by
  induction t generalizing inComment with
  | nil => rfl
  | cons c rest ih =>
    by_cases hc : c = '\n'
    · subst hc
      rw [CommentsPlain, if_pos rfl] at h
      rw [emptyComments_newline, ofText_newline, ofText_newline, emptyComments_newline, ih h]
    · rw [CommentsPlain, if_neg hc] at h
      cases inComment with
      | true =>
        rw [emptyComments_comment hc, ofText, h.1, ih h.2]
        simp only [push, emptyComments_comment hc]
      | false =>
        have hmarker := (sameHead_emptyComments (c :: rest)).marker?_eq
        rw [emptyComments_code hc] at hmarker ⊢
        rw [ofText, ofText, hmarker, ih h]
        cases marker? (c :: rest) with
        | none => simp only [push, emptyComments_code hc]
        | some kind =>
          simp only [push, List.map_cons, Block.emptyComments, emptyComments_code hc]
          rfl

theorem Block.body_emptyComments {b : Block} (h : b.text = b.kind.marker ++ b.body) :
    b.emptyComments.body = AsmCheck.emptyComments false b.body := by
  apply body_of_text
  rw [emptyComments, h]
  exact emptyComments_append (endsMarker_newline.1 b.kind) (endsMarker_semicolon.1 b.kind) b.body

/-- A position in a text and the one in the text with empty comments, after the same part has been
read: both are on the same line, and outside of comments they are the same. -/
structure Aligned (inComment : Bool) (p p' : Position) : Prop where
  line : p.line = p'.line
  same : inComment = false → p = p'

namespace Aligned

variable {inComment : Bool} {p p' : Position}

theorem refl (inComment : Bool) (p : Position) : Aligned inComment p p := ⟨rfl, fun _ => rfl⟩

theorem nextLine_eq (h : Aligned inComment p p') : p.nextLine = p'.nextLine := by
  rw [Position.nextLine, h.line, Position.nextLine]

/-- The character of a comment is passed in the text only. -/
theorem comment (h : Aligned true p p') {c : Char} (hc : c ≠ '\n') :
    Aligned true (p.advance c) p' := by
  refine ⟨?_, fun hfalse => absurd hfalse (by decide)⟩
  rw [Position.advance, if_neg hc]
  exact h.line

end Aligned

def SourceLine.emptyComment (l : SourceLine) : SourceLine :=
  { l with text := AsmCheck.emptyComment l.text }

def Item.emptyComments : Item → Item
  | .memory p body => .memory p (AsmCheck.emptyComments false body)
  | .line l => .line l.emptyComment

namespace Document

theorem linesFrom_emptyComment (p : Position) (pieces : List Text) :
    linesFrom p (pieces.map emptyComment) = (linesFrom p pieces).map SourceLine.emptyComment := by
  induction pieces generalizing p with
  | nil => rfl
  | cons piece rest ih =>
    rw [List.map_cons, linesFrom_cons, linesFrom_cons, dropEndWhile_emptyComment, ih]
    rfl

theorem blockItems_emptyComments (p : Position) {b : Block}
    (h : b.text = b.kind.marker ++ b.body) :
    blockItems p b.emptyComments = (blockItems p b).map Item.emptyComments := by
  refine blockItems_map (fun _ _ => rfl) (fun p body => ?_) p rfl (Block.body_emptyComments h)
  rw [← lines, lines_emptyComments, linesFrom_emptyComment, List.map_map, List.map_map]
  rfl

/-- Emptied comments move nothing outside of comments: a section starts on the same line and, since
no marker stands in a comment, at the same column. -/
theorem itemsFrom_emptyComments {inComment : Bool} {t : Text} (h : CommentsPlain inComment t)
    {p p' : Position} (hp : Aligned inComment p p') :
    itemsFrom (p'.after (emptyComments inComment (Division.ofText t).opening))
        ((Division.ofText t).blocks.map Block.emptyComments) =
      (itemsFrom (p.after (Division.ofText t).opening) (Division.ofText t).blocks).map
        Item.emptyComments := by
  induction t generalizing inComment p p' with
  | nil => rfl
  | cons c rest ih =>
    by_cases hc : c = '\n'
    · subst hc
      rw [CommentsPlain, if_pos rfl] at h
      rw [Division.ofText_newline, emptyComments_newline, Position.after_newline,
        Position.after_newline, hp.nextLine_eq]
      exact ih h (.refl false p'.nextLine)
    · rw [CommentsPlain, if_neg hc] at h
      cases inComment with
      | true =>
        rw [Division.ofText, h.1]
        simp only [Division.push, emptyComments_comment hc, Position.after_cons]
        exact ih h.2 (hp.comment hc)
      | false =>
        obtain rfl := hp.same rfl
        have hrest := ih h (.refl (c == ';') (p.advance c))
        have hblocks : ∀ b ∈ (Division.ofText (c :: rest)).blocks,
            blockItems p b.emptyComments = (blockItems p b).map Item.emptyComments :=
          fun b hb => blockItems_emptyComments p (Division.block_text hb)
        rw [Division.ofText] at hblocks ⊢
        cases hmarker : marker? (c :: rest) with
        | none =>
          simp only [Division.push, emptyComments_code hc, Position.after_cons]
          exact hrest
        | some kind =>
          -- A block starts outside of comments only, where the two positions are the same.
          rw [hmarker] at hblocks
          have hfirst := hblocks ⟨kind, c :: (Division.ofText rest).opening⟩ List.mem_cons_self
          simp only [Division.push, List.map_cons, itemsFrom, List.map_append]
          refine congrArg₂ (· ++ ·) hfirst (Eq.trans ?_ hrest)
          simp only [Block.emptyComments, emptyComments_code hc, Position.after_cons]
          rfl

theorem items_emptyComments {t : Text} (h : CommentsPlain false t) :
    items (emptyComments false t) = (items t).map Item.emptyComments := by
  rw [items_eq_itemsFrom, items_eq_itemsFrom, Division.ofText_emptyComments h]
  exact itemsFrom_emptyComments h (.refl false Position.start)

end Document

namespace MemoryImage

/-- Outside of comments only line feeds move, and they are not kept. -/
theorem filter_uncommented_emptyComments {keep : Placed → Bool}
    (hnewline : ∀ p, keep ('\n', p) = false) {inComment : Bool} {p p' : Position}
    (hp : Aligned inComment p p') (t : Text) :
    (uncommented inComment p' (emptyComments inComment t)).filter keep =
      (uncommented inComment p t).filter keep := by
  induction t generalizing inComment p p' with
  | nil => rfl
  | cons c rest ih =>
    by_cases hc : c = '\n'
    · subst hc
      have hnext : p.advance '\n' = p'.advance '\n' := hp.nextLine_eq
      rw [emptyComments_newline, uncommented, uncommented, if_pos rfl, if_pos rfl,
        List.filter_cons_of_neg (by simp [hnewline]), List.filter_cons_of_neg (by simp [hnewline]),
        hnext]
      exact ih (.refl false (p'.advance '\n'))
    · cases inComment with
      | true =>
        rw [emptyComments_comment hc, uncommented, if_neg hc]
        exact ih (hp.comment hc)
      | false =>
        obtain rfl := hp.same rfl
        rw [emptyComments_code hc, uncommented, uncommented, if_neg hc, if_neg hc]
        by_cases hsemicolon : c = ';'
        · subst hsemicolon
          exact ih (.refl true (p.advance ';'))
        · rw [beq_eq_false_iff_ne.mpr hsemicolon]
          simp only [hsemicolon, decide_false, Bool.or_self, Bool.false_eq_true, if_false,
            List.filter_cons]
          rw [ih (.refl false (p.advance c))]

theorem digits_emptyComments (p : Position) (body : Text) :
    digits p (emptyComments false body) = digits p body :=
  filter_uncommented_emptyComments (fun _ => rfl) (.refl false p) body

theorem strangers_emptyComments (p : Position) (body : Text) :
    strangers p (emptyComments false body) = strangers p body :=
  filter_uncommented_emptyComments (fun _ => rfl) (.refl false p) body

end MemoryImage

theorem SameCode.codePart_eq {a b : Text} (h : SameCode a b) : codePart a = codePart b := by
  rcases h with rfl | ⟨code, x, y, hcode, rfl, rfl⟩
  · rfl
  · rw [(codePart_of_split hcode x).1, (codePart_of_split hcode y).1]

theorem SameCode.lineContent {a b : Text} (h : SameCode a b) :
    SameCode (lineContent a) (lineContent b) := by
  rcases h with rfl | ⟨code, x, y, hcode, rfl, rfl⟩
  · exact Or.inl rfl
  · exact Or.inr ⟨code, _, _, hcode, Text.dropEndWhile_append_cons (by decide) code x,
      Text.dropEndWhile_append_cons (by decide) code y⟩

def Statement.withoutComment (s : Statement) : Statement := { s with comment? := none }

def Node.withoutComment : Node → Node
  | .instruction l => .instruction { l with statement := l.statement.withoutComment }
  | .label l => .label l
  | .literal w => .literal w
  | .memory w => .memory w
  | .foreign => .foreign

/-- What was found, without the comments of the instructions. -/
def Contribution.withoutComments (c : Contribution) : Contribution :=
  ⟨c.nodes.map Node.withoutComment, c.diagnostics⟩

/-- No rule looks at the comment of a statement. -/
theorem Family.check_withoutComment (family : Family) (s : Statement) :
    family.check s.withoutComment = family.check s := by
  unfold check
  cases family.form <;> rfl

theorem CodeParts.withoutComment_eq {code code' : Text} (hcode : code = code')
    (h : leadingInstruction code ≠ []) (h' : leadingInstruction code' ≠ [])
    (comment? comment?' : Option Span) :
    ((ofCode code h).statement comment?).withoutComment =
      ((ofCode code' h').statement comment?').withoutComment := by
  subst hcode
  rfl

theorem SameCode.withoutComment_eq {a b : Text} (h : SameCode a b) :
    (Statement.ofLine? a).map Statement.withoutComment =
      (Statement.ofLine? b).map Statement.withoutComment := by
  have hcode := h.lineContent.codePart_eq
  by_cases hnil : leadingInstruction (codePart (AsmCheck.lineContent b)) = []
  · rw [(ofLine?_eq_none_iff b).mpr hnil, (ofLine?_eq_none_iff a).mpr (hcode ▸ hnil)]
  · rw [ofLine?_eq_some hnil, ofLine?_eq_some (hcode ▸ hnil)]
    exact congrArg some (CodeParts.withoutComment_eq hcode _ _ _ _)

namespace SourceLine

variable {l l' : SourceLine}

/-- Two lines at the same position with the same code. -/
structure Alike (l l' : SourceLine) : Prop where
  line : l.line = l'.line
  column : l.column = l'.column
  text : SameCode l.text l'.text

namespace Alike

theorem code_eq (h : l.Alike l') : l.code = l'.code := by
  rw [code, trimmedCode, h.text.codePart_eq, ← trimmedCode, ← code]

theorem kind_eq (h : l.Alike l') : l.kind = l'.kind := by rw [kind, h.code_eq, ← kind]

theorem words_eq (h : l.Alike l') : l.words = l'.words := by rw [words, h.kind_eq, ← words]

theorem codeStop_eq (h : l.Alike l') : l.codeStop = l'.codeStop := by
  rw [codeStop, h.column, h.text.codePart_eq, ← codeStop]

/-- The start of the code is counted in the line with its comment, but code that is not empty ends
the indent. -/
theorem codeStart_eq (h : l.Alike l') (hcode : l.code ≠ []) : l.codeStart = l'.codeStart := by
  obtain ⟨x, _, _, hstart, hstop⟩ := (Span.cutFrom_iff _ _).mp (l.code_cutFrom hcode)
  obtain ⟨x', _, _, hstart', hstop'⟩ :=
    (Span.cutFrom_iff _ _).mp (l'.code_cutFrom (h.code_eq ▸ hcode))
  simp only [h.code_eq, h.text.codePart_eq] at hstart hstop hstart' hstop'
  rw [codeStart, codeStart, h.column]
  omega

theorem report_eq (h : l.Alike l') (hcode : l.code ≠ []) (file? : Option String)
    (problem : Problem) : l.report file? problem = l'.report file? problem := by
  rw [report, report, h.codeStart_eq hcode, h.codeStop_eq, h.line]

theorem readInstruction_eq (h : l.Alike l') {family : Family} (hkind : l.kind = .instruction family)
    (file? : Option String) (address : Int) :
    (l.readInstruction file? address family).withoutComments =
      (l'.readInstruction file? address family).withoutComments := by
  obtain ⟨s, hs, hfamily⟩ := (l.kind_eq_instruction_iff_statement family).mp hkind
  obtain ⟨s', hs', hfamily'⟩ :=
    (l'.kind_eq_instruction_iff_statement family).mp (h.kind_eq ▸ hkind)
  have hstatement : s.withoutComment = s'.withoutComment := by
    have hsame := h.text.withoutComment_eq
    rw [hs, hs'] at hsame
    exact Option.some.inj hsame
  have hcheck : family.check s = family.check s' := by
    rw [← family.check_withoutComment s, hstatement, family.check_withoutComment]
  rw [SourceLine.readInstruction_eq file? address l hs hfamily,
    SourceLine.readInstruction_eq file? address l' hs' hfamily']
  simp only [Contribution.withoutComments, List.map_cons, List.map_nil, Node.withoutComment,
    instructionNode, instructionReports, hstatement, hcheck, h.code_eq, h.line, h.column]

theorem read_eq (h : l.Alike l') (file? : Option String) (address : Int) :
    (l.read file? address).withoutComments = (l'.read file? address).withoutComments := by
  have hfits := l.kind_fits
  unfold read
  rw [← h.kind_eq]
  cases hkind : l.kind with
  | blank => rfl
  | instruction family => exact h.readInstruction_eq hkind file? address
  | literal digits =>
    rw [hkind] at hfits
    obtain ⟨_, rest, hcode, _⟩ := hfits
    have hne : l.code ≠ [] := by simp [hcode]
    simp only [readLiteral, h.report_eq hne, h.codeStart_eq hne, h.code_eq, h.line]
  | label name =>
    rw [hkind] at hfits
    obtain ⟨_, rest, hcode, _⟩ := hfits
    have hne : l.code ≠ [] := by simp [hcode]
    simp only [readLabel, h.report_eq hne, h.codeStart_eq hne, h.code_eq, h.line]
  | unknown token =>
    rw [hkind] at hfits
    simp only [h.report_eq hfits.2.1]

end Alike

theorem alike_emptyComment (l : SourceLine) : l.Alike l.emptyComment :=
  ⟨rfl, rfl, sameCode_emptyComment l.text⟩

end SourceLine

theorem Item.words_emptyComments (item : Item) : item.emptyComments.words = item.words := by
  cases item with
  | memory p body => rfl
  | line l => exact l.alike_emptyComment.words_eq.symm

theorem Item.read_emptyComments (file? : Option String) (address : Int) (item : Item) :
    (item.emptyComments.read file? address).withoutComments =
      (item.read file? address).withoutComments := by
  cases item with
  | memory p body =>
    simp only [emptyComments, read, MemoryImage.words, MemoryImage.reports,
      MemoryImage.digits_emptyComments, MemoryImage.strangers_emptyComments]
  | line l => exact (l.alike_emptyComment.read_eq file? address).symm

theorem Contribution.withoutComments_append (a b : Contribution) :
    (a ++ b).withoutComments = a.withoutComments ++ b.withoutComments := by
  change Contribution.mk _ _ = Contribution.mk _ _
  simp [withoutComments]

theorem Document.readFrom_emptyComments (file? : Option String) (address : Int)
    (items : List Item) :
    (readFrom file? address (items.map Item.emptyComments)).withoutComments =
      (readFrom file? address items).withoutComments := by
  induction items generalizing address with
  | nil => rfl
  | cons item rest ih =>
    rw [List.map_cons, readFrom_cons, readFrom_cons, Contribution.withoutComments_append,
      Contribution.withoutComments_append, Item.read_emptyComments, Item.words_emptyComments, ih]

theorem Resolution.ofNodes_withoutComment (file? : Option String) (nodes : List Node) :
    ofNodes file? (nodes.map Node.withoutComment) = ofNodes file? nodes := by
  have hdefinitions : Labels.definitions (nodes.map Node.withoutComment) =
      Labels.definitions nodes := by
    rw [Labels.definitions, List.filterMap_map]
    refine congrArg (List.filterMap · nodes) (funext fun node => ?_)
    cases node <;> rfl
  have hcode : Node.isCode ∘ Node.withoutComment = Node.isCode := by
    funext node
    cases node <;> rfl
  have hmemory : Node.isMemory ∘ Node.withoutComment = Node.isMemory := by
    funext node
    cases node <;> rfl
  have huses : ∀ table : SymbolTable,
      (nodes.map Node.withoutComment).flatMap (Labels.undefinedUses file? table) =
        nodes.flatMap (Labels.undefinedUses file? table) := by
    intro table
    rw [List.flatMap_map]
    refine congrArg (List.flatMap · nodes) (funext fun node => ?_)
    cases node <;> rfl
  simp only [ofNodes, Labels.table, hdefinitions, List.countP_map, hcode, hmemory, huses]

/-- Comments are inert: two documents whose lines are the same, or the same up to the first
semicolon, and that have no marker behind the first semicolon of a line, have the same diagnostics,
the same nodes but for the comments of instructions, and the same labels, sizes and reports on
labels. -/
theorem comments_inert (file? : Option String) {t t' : Text}
    (hlines : List.Forall₂ SameCode (Document.lines t) (Document.lines t'))
    (hplain : ∀ line ∈ Document.lines t ++ Document.lines t',
      markersFrom 0 (commentBody line) = []) :
    (Document.read file? t).diagnostics = (Document.read file? t').diagnostics ∧
      (Document.read file? t).nodes.map Node.withoutComment =
        (Document.read file? t').nodes.map Node.withoutComment ∧
      Resolution.ofNodes file? (Document.read file? t).nodes =
        Resolution.ofNodes file? (Document.read file? t').nodes := by
  have hread : ∀ {u : Text}, (∀ line ∈ Document.lines u, markersFrom 0 (commentBody line) = []) →
      (Document.read file? u).withoutComments =
        (Document.read file? (emptyComments false u)).withoutComments := by
    intro u hu
    rw [Document.read, Document.read, Document.items_emptyComments (commentsPlain_of_lines hu),
      Document.readFrom_emptyComments]
  have hsame : (Document.read file? t).withoutComments =
      (Document.read file? t').withoutComments := by
    rw [hread fun line hline => hplain line (List.mem_append_left _ hline),
      hread fun line hline => hplain line (List.mem_append_right _ hline),
      emptyComments_eq_of_sameCode hlines]
  have hnodes : (Document.read file? t).nodes.map Node.withoutComment =
      (Document.read file? t').nodes.map Node.withoutComment :=
    congrArg Contribution.nodes hsame
  have hdiagnostics := congrArg Contribution.diagnostics hsame
  refine ⟨hdiagnostics, hnodes, ?_⟩
  rw [← Resolution.ofNodes_withoutComment, hnodes, Resolution.ofNodes_withoutComment]

/-- A longer comment moves neither the word of memory behind it nor the reports on a character and
on an instruction, and only the comment of the instruction is another one. -/
theorem comments_inert_longer :
    let t := ".memory;\n1F g\n.code\nSKIP 1;".toList
    let t' := ".memory; .co\n1F g\n.code\nSKIP 1; \r".toList
    List.Forall₂ SameCode (Document.lines t) (Document.lines t') ∧
      (∀ line ∈ Document.lines t ++ Document.lines t', markersFrom 0 (commentBody line) = []) ∧
      (Document.read none t).diagnostics = (Document.read none t').diagnostics ∧
      (Document.read none t).diagnostics.length = 2 ∧
      (Document.read none t).nodes.map Node.withoutComment =
        (Document.read none t').nodes.map Node.withoutComment ∧
      (Document.read none t).nodes ≠ (Document.read none t').nodes ∧
      Resolution.ofNodes none (Document.read none t).nodes =
        Resolution.ofNodes none (Document.read none t').nodes := by
  intro t t'
  have hlines : List.Forall₂ SameCode (Document.lines t) (Document.lines t') := by
    refine .cons (Or.inr ⟨".memory".toList, [], " .co".toList, by decide, rfl, rfl⟩) ?_
    refine .cons (Or.inl rfl) (.cons (Or.inl rfl) (.cons ?_ .nil))
    exact Or.inr ⟨"SKIP 1".toList, [], " \r".toList, by decide, rfl, rfl⟩
  have hplain : ∀ line ∈ Document.lines t ++ Document.lines t',
      markersFrom 0 (commentBody line) = [] := by decide
  obtain ⟨hdiagnostics, hnodes, hlabels⟩ := comments_inert none hlines hplain
  exact ⟨hlines, hplain, hdiagnostics, by decide +kernel, hnodes, by decide +kernel, hlabels⟩

end AsmCheck
