import AsmCheck.Immediate
import AsmCheck.Word16
import AsmCheck.Proofs.LineAccounts
import AsmCheck.Proofs.MemoryPacking
import Mathlib.Data.Bool.AllAny

/-!
# Words printed and read back

An integer is printed as the four hexadecimal digits of its word, and there are three readers for
them: memory images, literals in code and immediates. Each gives back the integer modulo `2 ^ 16`.
For a list of any length one line is read at a time: four digits fill one word of memory, so that
every word starts on its own line, and every literal moves the address by one.
-/

namespace AsmCheck

set_option autoImplicit false

namespace Numeral

def lowerDigits : Text := "0123456789abcdef".toList

theorem lowerDigits_plain : ∀ c ∈ lowerDigits,
    isHexDigit c = true ∧ Text.isBlank c = false ∧ c ≠ ';' ∧ c ≠ '.' :=
  List.all_iff_forall_prop.mp (by decide)

theorem digitChar_lower {d : Nat} (h : d < 16) :
    Nat.digitChar d ∈ lowerDigits ∧ hexValue? (Nat.digitChar d) = some d := by
  have hall : ∀ d < 16, Nat.digitChar d ∈ lowerDigits ∧ hexValue? (Nat.digitChar d) = some d := by
    decide
  exact hall d h

theorem mem_lowerDigits_of_mem_hexDigits {width n : Nat} {c : Char} (h : c ∈ hexDigits width n) :
    c ∈ lowerDigits := by
  induction width generalizing n with
  | zero => simp [hexDigits] at h
  | succ width ih =>
    rw [hexDigits] at h
    rcases List.mem_append.mp h with h | h
    · exact ih h
    · rw [List.mem_singleton.mp h]
      exact (digitChar_lower (Nat.mod_lt n (by decide))).1

theorem read_hexDigits (width n : Nat) : read 16 (hexDigits width n) = n % 16 ^ width := by
  induction width generalizing n with
  | zero => simp [hexDigits, read, ofDigits, Nat.mod_one]
  | succ width ih =>
    have hlast := (digitChar_lower (Nat.mod_lt n (by decide : 0 < 16))).2
    calc read 16 (hexDigits (width + 1) n)
        = n / 16 % 16 ^ width * 16 + n % 16 := by
          rw [hexDigits, read_append_singleton, ih, hlast, Option.getD_some]
      _ = n % 16 ^ (width + 1) := by
          rw [Nat.pow_succ, Nat.mul_comm (16 ^ width), Nat.mod_mul]
          omega

end Numeral

namespace Word16

variable (x : Int)

theorem mem_lowerDigits : ∀ c ∈ digits x, c ∈ Numeral.lowerDigits :=
  fun _ hc => Numeral.mem_lowerDigits_of_mem_hexDigits hc

theorem plain : ∀ c ∈ digits x,
    Numeral.isHexDigit c = true ∧ Text.isBlank c = false ∧ c ≠ ';' ∧ c ≠ '.' :=
  fun c hc => Numeral.lowerDigits_plain c (mem_lowerDigits x c hc)

theorem marked_plain {mark c : Char} (hmark : Text.isBlank mark = false ∧ mark ≠ ';' ∧ mark ≠ '.')
    (hc : c ∈ mark :: digits x) : Text.isBlank c = false ∧ c ≠ ';' ∧ c ≠ '.' := by
  rcases List.mem_cons.mp hc with rfl | hc
  · exact hmark
  · exact (plain x c hc).2

theorem newline_not_mem : '\n' ∉ digits x :=
  fun hmem => absurd (plain x '\n' hmem).2.1 (by decide)

theorem digits_ne_nil : digits x ≠ [] := by
  apply List.ne_nil_of_length_pos
  rw [length_digits]
  decide

theorem isHex_digits : Numeral.isHex (digits x) = true :=
  (SourceLine.isHex_iff _).mpr ⟨digits_ne_nil x, fun c hc => (plain x c hc).1⟩

theorem read_digits : Numeral.read 16 (digits x) = (x % 65536).toNat := by
  rw [digits, Numeral.read_hexDigits]
  exact Nat.mod_eq_of_lt (wrap_lt x)

end Word16

theorem Immediate.parse_digits (x : Int) :
    parse ('$' :: Word16.digits x) = .ok (x % 65536).toNat := by
  have htrim : Text.trim ('$' :: Word16.digits x) = '$' :: Word16.digits x :=
    Text.trim_eq_self fun c hc => (Word16.marked_plain x (by decide) hc).1
  have hvalue : value? ('$' :: Word16.digits x) = some (x % 65536).toNat := by
    rw [value?, if_pos (Word16.isHex_digits x), Word16.read_digits]
  rw [parse, htrim, hvalue]

/-- A document of one section: the marker, and each line behind a line feed. Line feeds may follow
the last line. -/
def sheet (kind : SectionKind) (lines : List Text) (closing : Nat) : Text :=
  kind.marker ++ (lines ++ List.replicate closing []).flatMap ('\n' :: ·)

theorem SectionKind.line_after_marker (kind : SectionKind) :
    (Position.start.after kind.marker).line = 1 := by
  cases kind <;> decide

theorem not_mem_closed {c : Char} {lines : List Text} (h : ∀ line ∈ lines, c ∉ line)
    {closing : Nat} {line : Text} (hline : line ∈ lines ++ List.replicate closing []) :
    c ∉ line := by
  rcases List.mem_append.mp hline with hline | hline
  · exact h line hline
  · rw [List.eq_of_mem_replicate hline]
    exact List.not_mem_nil

theorem head?_flatMap_newline (lines : List Text) :
    ∀ c ∈ (lines.flatMap ('\n' :: ·)).head?, Text.isWordChar c = false := by
  intro c hc
  cases lines with
  | nil => simp at hc
  | cons line rest =>
    obtain rfl : '\n' = c := Option.some.inj hc
    decide

theorem Division.ofText_section (kind : SectionKind) {body : Text} (hdot : '.' ∉ body)
    (hhead : ∀ c ∈ body.head?, Text.isWordChar c = false) :
    ofText (kind.marker ++ body) = ⟨[], [⟨kind, kind.marker ++ body⟩]⟩ := by
  have hmarker : marker? (kind.marker ++ body) = some kind :=
    (marker?_eq_some_iff _ _).mpr ((startsSection_iff _ _).mpr ⟨body, rfl, hhead⟩)
  have hfree : '.' ∉ kind.name.toList ++ body := by
    rw [List.mem_append, not_or]
    exact ⟨kind.dot_not_mem_name, hdot⟩
  have hrest := ofText_skip hfree []
  rw [kind.marker_eq, List.cons_append] at hmarker ⊢
  rw [List.append_nil] at hrest
  rw [ofText, hmarker, hrest]
  simp [push, ofText]

theorem Document.items_sheet (kind : SectionKind) {lines : List Text}
    (hdot : ∀ line ∈ lines, '.' ∉ line) (closing : Nat) :
    items (sheet kind lines closing) =
      blockItems Position.start ⟨kind, sheet kind lines closing⟩ := by
  have hfree : '.' ∉ (lines ++ List.replicate closing []).flatMap ('\n' :: ·) := by
    intro hmem
    obtain ⟨line, hline, hmem⟩ := List.mem_flatMap.mp hmem
    exact not_mem_closed hdot hline (List.mem_of_ne_of_mem (by decide) hmem)
  rw [sheet, items_eq_itemsFrom, Division.ofText_section kind hfree (head?_flatMap_newline _)]
  exact List.append_nil _

namespace MemoryImage

section

variable {h : Text} (hdigits : ∀ c ∈ h, Numeral.isHexDigit c = true)

include hdigits

/-- Digits that stand together are read one after the other. -/
theorem exists_uncommented_append (p : Position) (rest : Text) :
    ∃ placed : List Placed,
      uncommented false p (h ++ rest) = placed ++ uncommented false (p.after h) rest ∧
        placed.map (·.1) = h ∧ ∀ x ∈ placed.head?, x.2 = p := by
  induction h generalizing p with
  | nil => exact ⟨[], rfl, rfl, by simp⟩
  | cons c h ih =>
    have hc := hdigits c List.mem_cons_self
    have hopen : (c != '\n' && (c == ';' || false)) = false := by
      have hsemicolon : c ≠ ';' := by
        rintro rfl
        exact absurd hc (by decide)
      simp [hsemicolon]
    obtain ⟨placed, hplaced, htext, _⟩ :=
      ih (fun d hd => hdigits d (List.mem_cons_of_mem c hd)) (p.advance c)
    refine ⟨(c, p) :: placed, ?_, by rw [List.map_cons, htext], ?_⟩
    · rw [List.cons_append, uncommented_cons, hopen, hplaced]
      rfl
    · rintro x hx
      rw [← Option.some.inj hx]

/-- Digits are kept, and nothing is reported about them. -/
theorem exists_digits_append (p : Position) (rest : Text) :
    ∃ placed : List Placed,
      digits p (h ++ rest) = placed ++ digits (p.after h) rest ∧
        strangers p (h ++ rest) = strangers (p.after h) rest ∧
        placed.map (·.1) = h ∧ ∀ x ∈ placed.head?, x.2 = p := by
  obtain ⟨placed, hplaced, htext, hplace⟩ := exists_uncommented_append hdigits p rest
  have hall : ∀ x ∈ placed, Numeral.isHexDigit x.1 = true := by
    intro x hx
    exact hdigits x.1 (by rw [← htext]; exact List.mem_map_of_mem hx)
  refine ⟨placed, ?_, ?_, htext, hplace⟩
  · rw [digits, hplaced, List.filter_append, List.filter_eq_self.mpr hall]
    rfl
  · have hnone : placed.filter (fun x => !Numeral.isHexDigit x.1 && !Text.isBlank x.1) = [] := by
      apply List.filter_eq_nil_iff.mpr
      intro x hx
      simp [hall x hx]
    rw [strangers, hplaced, List.filter_append, hnone]
    rfl

/-- Four digits are a word that stands where they do. -/
theorem words_append (hlength : h.length = 4) (p : Position) (rest : Text) :
    words p (h ++ rest) =
      ⟨Numeral.read 16 h, p.line, p.column⟩ :: words (p.after h) rest := by
  obtain ⟨placed, hplaced, _, htext, hplace⟩ := exists_digits_append hdigits p rest
  have hfour : placed.length = 4 := by
    rw [← hlength, ← htext, List.length_map]
  obtain ⟨a, b, c, d, rfl⟩ := List.length_eq_four.mp hfour
  rw [words, hplaced, ← htext, ← hplace a rfl]
  rfl

end

theorem words_newline (p : Position) (rest : Text) :
    words p ('\n' :: rest) = words p.nextLine rest := rfl

theorem strangers_newline (p : Position) (rest : Text) :
    strangers p ('\n' :: rest) = strangers p.nextLine rest := rfl

theorem blank_lines (p : Position) (closing : Nat) :
    words p ((List.replicate closing []).flatMap ('\n' :: ·)) = [] ∧
      strangers p ((List.replicate closing []).flatMap ('\n' :: ·)) = [] := by
  induction closing generalizing p with
  | zero => exact ⟨rfl, rfl⟩
  | succ closing ih =>
    rw [List.replicate_succ, List.flatMap_cons]
    exact ih p.nextLine

/-- Each line of digits is one word, whatever line the reader starts on. -/
theorem words_lines (p : Position) (xs : List Int) (closing : Nat) :
    words p ((xs.map Word16.digits ++ List.replicate closing []).flatMap ('\n' :: ·)) =
      xs.mapIdx fun i x => ⟨(x % 65536).toNat, p.line + (i + 1), 0⟩ := by
  induction xs generalizing p with
  | nil => exact (blank_lines p closing).1
  | cons x xs ih =>
    have hline : (p.nextLine.after (Word16.digits x)).line = p.line + 1 := by
      rw [Position.after_of_no_newline (Word16.newline_not_mem x)]
      rfl
    rw [List.map_cons, List.cons_append, List.flatMap_cons, List.cons_append, words_newline,
      words_append (fun c hc => (Word16.plain x c hc).1) (Word16.length_digits x),
      Word16.read_digits, ih, hline, List.mapIdx_cons]
    congr 2
    funext i y
    rw [MemoryWord.mk.injEq]
    exact ⟨rfl, by omega, rfl⟩

theorem strangers_lines (p : Position) (xs : List Int) (closing : Nat) :
    strangers p ((xs.map Word16.digits ++ List.replicate closing []).flatMap ('\n' :: ·)) = [] := by
  induction xs generalizing p with
  | nil => exact (blank_lines p closing).2
  | cons x xs ih =>
    obtain ⟨_, _, hline, _⟩ := exists_digits_append (fun c hc => (Word16.plain x c hc).1)
      p.nextLine ((xs.map Word16.digits ++ List.replicate closing []).flatMap ('\n' :: ·))
    rw [List.map_cons, List.cons_append, List.flatMap_cons, List.cons_append, strangers_newline,
      hline, ih]

end MemoryImage

namespace SourceLine

theorem read_blank (file? : Option String) (address : Int) {l : SourceLine} (h : l.text = []) :
    l.read file? address = .empty ∧ l.words = 0 := by
  have hkind : l.kind = .blank := by
    rw [kind, code, h]
    rfl
  exact ⟨by rw [read, hkind], by rw [words, hkind]⟩

theorem read_digits (file? : Option String) (address : Int) {l : SourceLine} {x : Int}
    (h : l.text = '!' :: Word16.digits x) :
    l.read file? address =
        .ofNode (.literal ⟨(x % 65536).toNat, l.line, l.column, address⟩) ∧ l.words = 1 := by
  have hcode : l.code = '!' :: Word16.digits x := by
    have hsemicolon : ';' ∉ '!' :: Word16.digits x :=
      fun hmem => (Word16.marked_plain x (by decide) hmem).2.1 rfl
    rw [code, trimmedCode, h, (codePart_of_not_mem hsemicolon).1,
      Text.trim_eq_self fun c hc => (Word16.marked_plain x (by decide) hc).1]
  have hkind : l.kind = .literal (Word16.digits x) := by
    have hblanks : Text.removeBlanks (Word16.digits x) = Word16.digits x := by
      apply List.filter_eq_self.mpr
      intro c hc
      simp [(Word16.plain x c hc).2.1]
    rw [l.kind_of_literal hcode, hblanks]
  have hstart : l.codeStart = l.column := by
    have hindent : Text.indent l.text = 0 := by
      rw [h]
      rfl
    rw [codeStart, hindent, Int.natCast_zero, Int.add_zero]
  have hvalue : (x % 65536).toNat < 65536 := Word16.wrap_lt x
  refine ⟨?_, by rw [words, hkind]⟩
  rw [read, hkind]
  simp only [readLiteral, Word16.isHex_digits, Word16.read_digits, hstart, hvalue, Bool.not_true,
    Bool.false_eq_true, if_false, if_true]

end SourceLine

namespace Document

theorem readFrom_blanks (file? : Option String) (address : Int) (p : Position) (closing : Nat) :
    readFrom file? address ((linesFrom p (List.replicate closing [])).map .line) = .empty := by
  induction closing generalizing address p with
  | zero => rfl
  | succ closing ih =>
    rw [List.replicate_succ, linesFrom_cons, List.map_cons, readFrom_cons, ih]
    exact congrArg (· ++ Contribution.empty) (SourceLine.read_blank file? address rfl).1

/-- Each marked line of digits is one literal, and its word moves the address by one. -/
theorem readFrom_literals (file? : Option String) (address : Int) (p : Position) (xs : List Int)
    (closing : Nat) :
    readFrom file? address ((linesFrom p.nextLine
        (xs.map ('!' :: Word16.digits ·) ++ List.replicate closing [])).map .line) =
      ⟨xs.mapIdx fun i x => .literal ⟨(x % 65536).toNat, p.line + (i + 1), 0, address + i⟩, []⟩ := by
  -- Each step hands on the place of the next line and the address of the next word.
  induction xs generalizing address p with
  | nil => exact readFrom_blanks file? address p.nextLine closing
  | cons x xs ih =>
    have hreturns : Text.dropEndWhile (· == '\r') ('!' :: Word16.digits x) =
        '!' :: Word16.digits x := by
      apply Text.dropEndWhile_eq_self
      intro c hc
      rw [beq_eq_false_iff_ne]
      rintro rfl
      exact absurd (Word16.marked_plain x (by decide) (List.mem_of_mem_getLast? hc)).1 (by decide)
    obtain ⟨hread, hwords⟩ := SourceLine.read_digits file? address
      (l := ⟨'!' :: Word16.digits x, p.nextLine.line, p.nextLine.column⟩) rfl
    rw [List.map_cons, List.cons_append, linesFrom_cons, List.map_cons, readFrom_cons, hreturns,
      Item.read, hread, Item.words, hwords, ih, List.mapIdx_cons]
    refine congrArg₂ Contribution.mk (congrArg₂ List.cons ?_ (congrArg (List.mapIdx · xs) ?_)) rfl
    · rw [Node.literal.injEq, LiteralWord.mk.injEq]
      exact ⟨rfl, by simp [Position.nextLine], rfl, by simp⟩
    · funext i y
      rw [Node.literal.injEq, LiteralWord.mk.injEq]
      exact ⟨rfl, by simp only [Position.nextLine]; omega, rfl, by omega⟩

/-- The digits of words, each on its own line, fill a memory section with these words. -/
theorem read_memory_sheet (file? : Option String) (xs : List Int) (closing : Nat) :
    read file? (sheet .memory (xs.map Word16.digits) closing) =
      ⟨xs.mapIdx fun i x => .memory ⟨(x % 65536).toNat, i + 2, 0⟩, []⟩ := by
  have hdot : ∀ line ∈ xs.map Word16.digits, '.' ∉ line := by
    rintro line hline hmem
    obtain ⟨x, _, rfl⟩ := List.mem_map.mp hline
    exact (Word16.plain x '.' hmem).2.2.2 rfl
  rw [read, items_sheet .memory hdot]
  simp only [blockItems]
  rw [readFrom_memory, Block.body_of_text rfl, MemoryImage.words_lines, MemoryImage.reports,
    MemoryImage.strangers_lines, SectionKind.line_after_marker]
  refine congrArg₂ Contribution.mk (List.ext_getElem (by simp) ?_) rfl
  intro i _ _
  rw [List.getElem_map, List.getElem_mapIdx, List.getElem_mapIdx, Node.memory.injEq,
    MemoryWord.mk.injEq]
  exact ⟨rfl, by omega, rfl⟩

/-- The digits of words, each behind its mark on its own line, are literals in a code section. -/
theorem read_code_sheet (file? : Option String) (xs : List Int) (closing : Nat) :
    read file? (sheet .code (xs.map ('!' :: Word16.digits ·)) closing) =
      ⟨xs.mapIdx fun i x => .literal ⟨(x % 65536).toNat, i + 2, 0, codeBase + i⟩, []⟩ := by
  have hdot : ∀ line ∈ xs.map ('!' :: Word16.digits ·), '.' ∉ line := by
    rintro line hline hmem
    obtain ⟨x, _, rfl⟩ := List.mem_map.mp hline
    exact (Word16.marked_plain x (by decide) hmem).2.2 rfl
  have hnewline : ∀ line ∈ xs.map ('!' :: Word16.digits ·), '\n' ∉ line := by
    rintro line hline hmem
    obtain ⟨x, _, rfl⟩ := List.mem_map.mp hline
    exact absurd (Word16.marked_plain x (by decide) hmem).1 (by decide)
  -- The marker's own line is empty behind the marker, and is read as a line of code.
  obtain ⟨hread, hwords⟩ := SourceLine.read_blank file? codeBase
    (l := ⟨Text.dropEndWhile (· == '\r') [], (Position.start.after SectionKind.code.marker).line,
      (Position.start.after SectionKind.code.marker).column⟩) rfl
  have hclosed : ∀ line ∈ xs.map ('!' :: Word16.digits ·) ++ List.replicate closing [],
      '\n' ∉ line := fun _ => not_mem_closed hnewline
  have hpieces := Text.pieces_flatMap_newline List.not_mem_nil hclosed
  rw [read, items_sheet .code hdot]
  simp only [blockItems]
  rw [Block.body_of_text rfl, ← List.nil_append (List.flatMap _ _), hpieces, linesFrom_cons,
    List.map_cons, readFrom_cons, Item.read, Item.words, hread, hwords, readFrom_literals,
    SectionKind.line_after_marker]
  refine congrArg₂ Contribution.mk (congrArg (List.mapIdx · xs) ?_) rfl
  funext i x
  rw [Node.literal.injEq, LiteralWord.mk.injEq]
  exact ⟨rfl, by omega, rfl, by omega⟩

end Document

/-- Words survive printing and reading back. An integer is printed as four lower-case digits. A
memory section with the digits of a list of integers, each on its own line, has exactly their words;
a code section with these lines behind marks has exactly their literals, at consecutive addresses;
and the digits behind a dollar sign are an immediate. Nothing is reported, and the values are the
integers modulo `2 ^ 16`. The text may end with the last line or go on with line feeds. -/
theorem words_read_back (file? : Option String) (xs : List Int) (closing : Nat) :
    (∀ x ∈ xs, (Word16.digits x).length = 4 ∧
      (∀ c ∈ Word16.digits x, c ∈ "0123456789abcdef".toList) ∧
      Immediate.parse ('$' :: Word16.digits x) = .ok (x % 65536).toNat) ∧
    Document.read file? (sheet .memory (xs.map Word16.digits) closing) =
      ⟨xs.mapIdx fun i x => .memory ⟨(x % 65536).toNat, i + 2, 0⟩, []⟩ ∧
    Document.read file? (sheet .code (xs.map ('!' :: Word16.digits ·)) closing) =
      ⟨xs.mapIdx fun i x => .literal ⟨(x % 65536).toNat, i + 2, 0, 0x40 + i⟩, []⟩ := by
  exact ⟨fun x _ => ⟨Word16.length_digits x, Word16.mem_lowerDigits x, Immediate.parse_digits x⟩,
    Document.read_memory_sheet file? xs closing, Document.read_code_sheet file? xs closing⟩

theorem words_read_back_wrapped :
    Document.read none ".code\n!ffff\n!0000\n".toList =
      ⟨[.literal ⟨65535, 2, 0, 64⟩, .literal ⟨0, 3, 0, 65⟩], []⟩ := by
  have htext : sheet .code ([-1, 65536].map ('!' :: Word16.digits ·)) 1 =
      ".code\n!ffff\n!0000\n".toList := by decide
  rw [← htext]
  exact (words_read_back none [-1, 65536] 1).2.2

end AsmCheck
