import AsmCheck.Proofs.DocumentOrder
import AsmCheck.Proofs.LineReading
import AsmCheck.Proofs.WordValues
import Mathlib.Data.List.Forall2
import Mathlib.Data.Nat.Digits.Defs

/-!
# Packing of memory

A memory section is described by offsets into its text. The offsets of its digits outside comments,
in increasing order and four at a time, give its words, and the offsets of the characters that do
not belong there give its reports. Nothing else counts: a word may reach over blanks, comments,
lines and reported characters, but never into another section.
-/

namespace AsmCheck

set_option autoImplicit false

namespace Position

/-- The line and the column of an offset, counted by the line feeds in front of it. -/
def counted (t : Text) (offset : Nat) : Position :=
  ⟨1 + (t.take offset).count '\n', ((t.take offset).reverse.takeWhile (· != '\n')).length⟩

theorem start_after_eq (t : Text) :
    start.after t = ⟨1 + t.count '\n', (t.reverse.takeWhile (· != '\n')).length⟩ := by
  induction t using List.reverseRecOn with
  | nil => rfl
  | append_singleton t c ih =>
    rw [after_append, ih, after_cons, after_nil, advance, List.count_append,
      List.reverse_append, List.reverse_singleton, List.singleton_append]
    split
    · rename_i hc
      subst hc
      simp [Nat.add_assoc]
    · rename_i hc
      simp [hc]

theorem ofOffset_eq_counted (t : Text) (offset : Nat) : ofOffset t offset = counted t offset :=
  start_after_eq (t.take offset)

end Position

/-- A distance into a section leads to the offset behind the start of the section. -/
theorem Section.ofOffset_add {t : Text} {s : Section} (hs : s ∈ ofText t) {i : Nat}
    (hi : i ≤ (s.body t).length) :
    Position.ofOffset t (s.start + i) =
      (Position.ofOffset t s.start).after ((s.body t).take i) := by
  have hbounds := ofText_bounds hs
  rw [body, List.length_take, List.length_drop] at hi
  rw [Position.ofOffset_after t (Nat.le_add_right s.start i), Nat.add_sub_cancel_left, body,
    List.take_take, Nat.min_eq_left (by omega)]

/-- A numeral is the sum of its digits, each times the power of the base at its place. -/
theorem Numeral.ofDigits_eq (base : Nat) (digits : List Nat) :
    ofDigits base digits = Nat.ofDigits base digits.reverse := by
  induction digits using List.reverseRecOn with
  | nil => rfl
  | append_singleton digits d ih =>
    rw [ofDigits, List.foldl_append, List.reverse_append, List.reverse_singleton,
      List.singleton_append, Nat.ofDigits_cons, ← ih]
    simp [ofDigits, Nat.mul_comm, Nat.add_comm]

namespace MemoryImage

/-- Reading a text ends inside a comment: behind a semicolon there is no line feed. -/
def EndsInComment (t : Text) : Prop := ∃ code comment, t = code ++ ';' :: comment ∧ '\n' ∉ comment

theorem not_endsInComment_nil : ¬ EndsInComment [] := by
  rintro ⟨code, comment, heq, _⟩
  simp at heq

/-- A line feed ends a comment, and a semicolon begins one. -/
theorem endsInComment_append_singleton (t : Text) (c : Char) :
    EndsInComment (t ++ [c]) ↔ c ≠ '\n' ∧ (c = ';' ∨ EndsInComment t) := by
  constructor
  · rintro ⟨code, comment, heq, hfree⟩
    rcases List.eq_nil_or_concat comment with rfl | ⟨body, last, rfl⟩
    · obtain ⟨_, hc⟩ := List.append_inj' heq rfl
      obtain rfl : c = ';' := by simpa using hc
      exact ⟨by decide, Or.inl rfl⟩
    · rw [List.concat_eq_append, ← List.cons_append, ← List.append_assoc] at heq
      obtain ⟨ht, hc⟩ := List.append_inj' heq rfl
      obtain rfl : c = last := by simpa using hc
      rw [List.concat_eq_append, List.mem_append, List.mem_singleton, not_or] at hfree
      exact ⟨fun h => hfree.2 h.symm, Or.inr ⟨code, body, ht, hfree.1⟩⟩
  · rintro ⟨hne, rfl | ⟨code, comment, rfl, hfree⟩⟩
    · exact ⟨t, [], rfl, by simp⟩
    · refine ⟨code, comment ++ [c], by simp, ?_⟩
      rw [List.mem_append, List.mem_singleton, not_or]
      exact ⟨hfree, fun h => hne h.symm⟩

/-- The character at an offset of a section belongs to a comment. -/
def InComment (body : Text) (i : Nat) : Prop := EndsInComment (body.take (i + 1))

/-- The character at an offset is outside comments and of the given class. -/
def Chosen (body : Text) (keep : Char → Bool) (i : Nat) : Prop :=
  ¬ InComment body i ∧ ∃ c, body[i]? = some c ∧ keep c = true

/-- The chosen offsets from a given one on, in increasing order. -/
structure Chooses (body : Text) (keep : Char → Bool) (first : Nat) (offsets : List Nat) : Prop where
  increasing : offsets.Pairwise (· < ·)
  mem_iff : ∀ i, i ∈ offsets ↔ first ≤ i ∧ Chosen body keep i

namespace Chooses

variable {body : Text} {keep : Char → Bool} {first : Nat} {offsets : List Nat}

theorem nil (h : body.length ≤ first) : Chooses body keep first [] := by
  refine ⟨.nil, fun i => ?_⟩
  simp only [List.not_mem_nil, false_iff]
  rintro ⟨hi, _, c, hc, _⟩
  have hlt := (List.getElem?_eq_some_iff.mp hc).1
  omega

theorem cons (h : Chooses body keep (first + 1) offsets) (hfirst : Chosen body keep first) :
    Chooses body keep first (first :: offsets) := by
  refine ⟨List.pairwise_cons.mpr ⟨fun i hi => ((h.mem_iff i).mp hi).1, h.increasing⟩, fun i => ?_⟩
  rw [List.mem_cons, h.mem_iff]
  constructor
  · rintro (rfl | ⟨hi, hchosen⟩)
    · exact ⟨Nat.le_refl _, hfirst⟩
    · exact ⟨by omega, hchosen⟩
  · rintro ⟨hi, hchosen⟩
    by_cases heq : i = first
    · exact Or.inl heq
    · exact Or.inr ⟨by omega, hchosen⟩

theorem skip (h : Chooses body keep (first + 1) offsets) (hfirst : ¬ Chosen body keep first) :
    Chooses body keep first offsets := by
  refine ⟨h.increasing, fun i => ?_⟩
  rw [h.mem_iff]
  constructor
  · rintro ⟨hi, hchosen⟩
    exact ⟨by omega, hchosen⟩
  · rintro ⟨hi, hchosen⟩
    refine ⟨?_, hchosen⟩
    by_contra hlt
    obtain rfl : i = first := by omega
    exact hfirst hchosen

end Chooses

/-- One step of the reader: a character is left out exactly if a comment is open behind it. -/
theorem uncommented_cons (inComment : Bool) (p : Position) (c : Char) (rest : Text) :
    uncommented inComment p (c :: rest) =
      if c != '\n' && (c == ';' || inComment) then uncommented true (p.advance c) rest
      else (c, p) :: uncommented false (p.advance c) rest := by
  rw [uncommented]
  by_cases hc : c = '\n'
  · simp [hc]
  · simp [hc, or_comm]

/-- The reader at any point of its run: what is still to be read gives the chosen characters of the
section from that point on. -/
theorem uncommented_chooses (p : Position) (keep : Char → Bool) {body read rest : Text}
    (hbody : body = read ++ rest) {inComment : Bool}
    (hcomment : inComment = true ↔ EndsInComment read) :
    ∃ offsets, Chooses body keep read.length offsets ∧
      List.Forall₂ (fun i x => body[i]? = some x.1 ∧ x.2 = p.after (body.take i)) offsets
        ((uncommented inComment (p.after read) rest).filter fun x => keep x.1) := by
  induction rest generalizing read inComment with
  | nil => exact ⟨[], .nil (by simp [hbody]), .nil⟩
  | cons c rest ih =>
    have hnext : body = (read ++ [c]) ++ rest := by rw [hbody, List.append_cons]
    have hget : body[read.length]? = some c := by simp [hbody]
    -- The state behind the character tells whether the character belongs to a comment.
    have hin : InComment body read.length ↔ EndsInComment (read ++ [c]) := by
      rw [InComment, hnext, List.take_left' (by simp)]
    have hstate : (c != '\n' && (c == ';' || inComment)) = true ↔ EndsInComment (read ++ [c]) := by
      simp [endsInComment_append_singleton, hcomment]
    obtain ⟨offsets, hchooses, hforall⟩ := ih hnext hstate
    rw [List.length_append, List.length_singleton] at hchooses
    rw [Position.after_append, Position.after_cons, Position.after_nil] at hforall
    rw [uncommented_cons]
    split
    · rename_i hopen
      rw [hopen] at hforall
      exact ⟨offsets, hchooses.skip fun h => h.1 (hin.mpr (hstate.mp hopen)), hforall⟩
    · rename_i hclosed
      rw [Bool.not_eq_true] at hclosed
      rw [hclosed] at hforall
      have hout : ¬ InComment body read.length := by simp [hin, ← hstate, hclosed]
      rw [List.filter_cons]
      split
      · rename_i hkeep
        refine ⟨_, hchooses.cons ⟨hout, c, hget, hkeep⟩, .cons ⟨hget, ?_⟩ hforall⟩
        rw [hbody, List.take_left]
      · rename_i hkeep
        refine ⟨offsets, hchooses.skip ?_, hforall⟩
        rintro ⟨_, d, hd, hkeep'⟩
        obtain rfl : c = d := Option.some.inj (hget.symm.trans hd)
        exact hkeep hkeep'

/-- A character of a section by its offset, with its position in the document. -/
def StandsAt (t : Text) (s : Section) (i : Nat) (x : Placed) : Prop :=
  (s.body t)[i]? = some x.1 ∧ x.2 = Position.counted t (s.start + i)

/-- The characters of a class outside the comments of a section, by their offsets. -/
theorem exists_chosen {t : Text} {s : Section} (hs : s ∈ Section.ofText t) (keep : Char → Bool) :
    ∃ offsets, Chooses (s.body t) keep 0 offsets ∧
      List.Forall₂ (StandsAt t s) offsets
        ((uncommented false (Position.ofOffset t s.start) (s.body t)).filter
          fun x => keep x.1) := by
  have hstart : false = true ↔ EndsInComment [] := by simp [not_endsInComment_nil]
  obtain ⟨offsets, hchooses, hforall⟩ := uncommented_chooses (Position.ofOffset t s.start) keep
    (List.nil_append (s.body t)).symm hstart
  refine ⟨offsets, hchooses, hforall.imp ?_⟩
  rintro i x ⟨hget, hplace⟩
  refine ⟨hget, ?_⟩
  rw [hplace, ← Position.ofOffset_eq_counted]
  exact (Section.ofOffset_add hs (List.getElem?_eq_some_iff.mp hget).1.le).symm

theorem groupsOfFour_eq {α : Type} (l : List α) :
    groupsOfFour l = (List.range ((l.length + 3) / 4)).map fun k => (l.drop (4 * k)).take 4 := by
  fun_induction groupsOfFour l with
  | case1 => simp
  | case2 a => simp [List.range_succ]
  | case3 a b => simp [List.range_succ]
  | case4 a b c => simp [List.range_succ]
  | case5 a b c d rest ih =>
    have hlength : ((a :: b :: c :: d :: rest).length + 3) / 4 = (rest.length + 3) / 4 + 1 := by
      simp only [List.length_cons]
      omega
    have hdrop : ∀ k, (a :: b :: c :: d :: rest).drop (4 * (k + 1)) = rest.drop (4 * k) := by
      intro k
      simp [Nat.mul_add]
    rw [hlength, List.range_succ_eq_map, List.map_cons, List.map_map, ih]
    simp only [Function.comp_def, Nat.succ_eq_add_one, hdrop]
    rfl

theorem forall₂_filterMap {α β : Type} {R : α → β → Prop} {f : α → Option β} {l : List α}
    (h : ∀ a ∈ l, ∃ b, f a = some b ∧ R a b) : List.Forall₂ R l (l.filterMap f) := by
  induction l with
  | nil => exact .nil
  | cons a l ih =>
    obtain ⟨b, hb, hrel⟩ := h a List.mem_cons_self
    rw [List.filterMap_cons_some hb]
    exact .cons hrel (ih fun a' ha' => h a' (List.mem_cons_of_mem a ha'))

/-- The number that digits of a text write, given by their offsets. -/
def Writes (body : Text) (offsets : List Nat) (value : Nat) : Prop :=
  ∃ digits, List.Forall₂ (fun i d => (body[i]?).bind Numeral.hexValue? = some d) offsets digits ∧
    value = Nat.ofDigits 16 digits.reverse

/-- A word is written by the digits at the given offsets and stands at the first of them. -/
structure Packs (t : Text) (s : Section) (offsets : List Nat) (w : MemoryWord) : Prop where
  value : Writes (s.body t) offsets w.value
  fits : w.value < 2 ^ 16
  place : ∃ first, offsets.head? = some first ∧
    w.line = (Position.counted t (s.start + first)).line ∧
    w.column = (Position.counted t (s.start + first)).column

section

variable {t : Text} {s : Section} {offsets : List Nat} {placed : List Placed}

theorem writes_read (h : List.Forall₂ (StandsAt t s) offsets placed)
    (hdigits : ∀ x ∈ placed, Numeral.isHexDigit x.1 = true) :
    Writes (s.body t) offsets (Numeral.read 16 (placed.map (·.1))) := by
  refine ⟨_, ?_, Numeral.ofDigits_eq 16 _⟩
  rw [List.map_map, List.forall₂_map_right_iff]
  induction h with
  | nil => exact .nil
  | @cons i x offsets placed hx _ ih =>
    obtain ⟨value, hvalue⟩ := Option.isSome_iff_exists.mp (hdigits x List.mem_cons_self)
    refine .cons ?_ (ih fun y hy => hdigits y (List.mem_cons_of_mem x hy))
    simp [hx.1, hvalue]

theorem exists_word (h : List.Forall₂ (StandsAt t s) offsets placed)
    (hdigits : ∀ x ∈ placed, Numeral.isHexDigit x.1 = true) (hne : placed ≠ [])
    (hlength : placed.length ≤ 4) : ∃ w, word? placed = some w ∧ Packs t s offsets w := by
  have hwrites := writes_read h hdigits
  cases h with
  | nil => exact absurd rfl hne
  | @cons first x offsets placed hx _ =>
    refine ⟨_, rfl, hwrites, word?_value_lt hlength rfl, first, rfl, ?_, ?_⟩
    · rw [← hx.2]
    · rw [← hx.2]

end

/-- The words of a section are the groups of four of its digits, in order. -/
theorem words_pack {t : Text} {s : Section} (hs : s ∈ Section.ofText t) :
    ∃ offsets, Chooses (s.body t) Numeral.isHexDigit 0 offsets ∧
      List.Forall₂ (fun k w => Packs t s ((offsets.drop (4 * k)).take 4) w)
        (List.range ((offsets.length + 3) / 4))
        (words (Position.ofOffset t s.start) (s.body t)) := by
  obtain ⟨offsets, hchooses, hforall⟩ := exists_chosen hs Numeral.isHexDigit
  refine ⟨offsets, hchooses, ?_⟩
  rw [words, digits, groupsOfFour_eq, ← hforall.length_eq, List.filterMap_map]
  apply forall₂_filterMap
  intro k hk
  have hlength := hforall.length_eq
  have hlt := List.mem_range.mp hk
  -- A group has a first digit, since the number of groups is rounded up from that of the digits.
  refine exists_word (List.forall₂_take 4 (List.forall₂_drop (4 * k) hforall)) ?_ ?_ ?_
  · intro x hx
    exact (List.mem_filter.mp (List.mem_of_mem_drop (List.mem_of_mem_take hx))).2
  · apply List.ne_nil_of_length_pos
    rw [List.length_take, List.length_drop]
    omega
  · rw [List.length_take]
    omega

/-- Whether a character does not belong into a memory section. -/
def isStranger (c : Char) : Bool := !Numeral.isHexDigit c && !Text.isBlank c

/-- The report on the character at an offset of a section. -/
def Reports (file? : Option String) (t : Text) (s : Section) (i : Nat) (d : Diagnostic) : Prop :=
  let p := Position.counted t (s.start + i)
  ∃ c, (s.body t)[i]? = some c ∧ d =
    { severity := .error
      message := s!"Unexpected character \"{c}\" in memory section."
      start := p.column
      stop := p.column + 1
      line? := some p.line
      file? := file? }

theorem reports_chosen (file? : Option String) {t : Text} {s : Section}
    (hs : s ∈ Section.ofText t) :
    ∃ offsets, Chooses (s.body t) isStranger 0 offsets ∧
      List.Forall₂ (Reports file? t s) offsets
        (reports file? (Position.ofOffset t s.start) (s.body t)) := by
  obtain ⟨offsets, hchooses, hforall⟩ := exists_chosen hs isStranger
  refine ⟨offsets, hchooses, ?_⟩
  rw [reports, List.forall₂_map_right_iff]
  apply hforall.imp
  rintro i x ⟨hget, hplace⟩
  refine ⟨x.1, hget, ?_⟩
  rw [← hplace]
  rfl

end MemoryImage

namespace Document

open MemoryImage

/-- The words and the reports of a section by the offsets of the characters that they stand for. -/
structure PacksMemory (file? : Option String) (t : Text) (s : Section) (words : List MemoryWord)
    (reports : List Diagnostic) : Prop where
  /-- One word for every four digits outside comments, and one for those that are left. -/
  words : ∃ offsets, Chooses (s.body t) Numeral.isHexDigit 0 offsets ∧
    List.Forall₂ (fun k w => Packs t s ((offsets.drop (4 * k)).take 4) w)
      (List.range ((offsets.length + 3) / 4)) words
  /-- One report for every character outside comments that is neither a digit nor blank. -/
  reports : ∃ offsets, Chooses (s.body t) isStranger 0 offsets ∧
    List.Forall₂ (Reports file? t s) offsets reports

/-- What a section adds stands between what the sections before it and behind it add. -/
theorem read_section (file? : Option String) {t : Text} {before after : List Section} {s : Section}
    (h : Section.ofText t = before ++ s :: after) :
    read file? t =
      readFrom file? codeBase (before.flatMap (sectionItems t)) ++
        (readFrom file? (codeBase + words (before.flatMap (sectionItems t))) (sectionItems t s) ++
          readFrom file? (codeBase + words (before.flatMap (sectionItems t)) +
            words (sectionItems t s)) (after.flatMap (sectionItems t))) := by
  rw [read, items, h, List.flatMap_append, List.flatMap_cons, readFrom_append, readFrom_append]

theorem sectionItems_memory (t : Text) {s : Section} (h : s.kind = .memory) :
    sectionItems t s = [.memory (Position.ofOffset t s.start) (s.body t)] := by
  rw [sectionItems]
  simp only [h]

theorem readFrom_memory (file? : Option String) (address : Int) (p : Position) (body : Text) :
    readFrom file? address [.memory p body] =
      ⟨(MemoryImage.words p body).map .memory, MemoryImage.reports file? p body⟩ := by
  rw [readFrom_cons]
  exact congrArg₂ Contribution.mk (List.append_nil _) (List.append_nil _)

end Document

end AsmCheck
