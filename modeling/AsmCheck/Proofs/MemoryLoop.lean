import AsmCheck.Proofs.LineTable

/-!
# The loop over a memory section

A memory section is read by an index that runs from its start to its end. A comment moves the index
to the line feed that ends it. A digit is shifted into the open word, which keeps the position of
its first digit; with the fourth digit the word is closed, and what is still open at the end of the
section is its last word. At every index the words and the reports that are still to come are those
of the digits in the open word and of the rest of the section.
-/

namespace AsmCheck

set_option autoImplicit false

namespace Position

theorem ofOffset_succ {t : Text} {i : Nat} (h : i < t.length) :
    ofOffset t (i + 1) = (ofOffset t i).advance t[i] := by
  rw [ofOffset, List.take_succ_eq_append_getElem h, after_append]
  rfl

end Position

namespace MemoryImage

/-- A word that is not full yet: the value and the number of its digits so far, and the position of
the first of them. -/
structure OpenWord where
  value : Nat
  digits : Nat
  position : Position

namespace OpenWord

def start : OpenWord := ⟨0, 0, ⟨0, 0⟩⟩

def add (word : OpenWord) (digit : Nat) (p : Position) : OpenWord where
  value := word.value <<< 4 ||| digit
  digits := word.digits + 1
  position := if word.digits = 0 then p else word.position

def close (word : OpenWord) : MemoryWord :=
  ⟨word.value, word.position.line, word.position.column⟩

/-- The position is left as it is: the next digit replaces it. -/
def clear (word : OpenWord) : OpenWord := { word with value := 0, digits := 0 }

/-- The open word consists of the given digits. -/
structure Holds (word : OpenWord) (pending : List Placed) : Prop where
  value : word.value = Numeral.read 16 (pending.map (·.1))
  digits : word.digits = pending.length
  position : ∀ first ∈ pending.head?, word.position = first.2

theorem start_holds : start.Holds [] := ⟨rfl, rfl, by simp⟩

theorem clear_holds (word : OpenWord) : word.clear.Holds [] := ⟨rfl, rfl, by simp⟩

namespace Holds

variable {word : OpenWord} {pending : List Placed}

theorem add (h : word.Holds pending) {c : Char} {digit : Nat}
    (hdigit : Numeral.hexValue? c = some digit) (p : Position) :
    (word.add digit p).Holds (pending ++ [(c, p)]) where
  value := by
    have hlt : digit < 2 ^ 4 := Numeral.hexValue?_lt hdigit
    rw [List.map_append, List.map_singleton, Numeral.read_append_singleton, ← h.value, hdigit,
      Option.getD_some]
    -- The shift leaves the last four bits free for the digit.
    exact (Nat.shiftLeft_add_eq_or_of_lt hlt word.value).symm.trans
      (congrArg (· + digit) (Nat.shiftLeft_eq word.value 4))
  digits := by
    rw [List.length_append, List.length_singleton, ← h.digits]
    rfl
  position := by
    cases pending with
    | nil =>
      intro first hfirst
      rw [← Option.some.inj hfirst]
      exact if_pos h.digits
    | cons x pending =>
      intro first hfirst
      rw [← h.position first hfirst]
      refine if_neg ?_
      rw [h.digits]
      exact Nat.succ_ne_zero _

theorem word?_eq (h : word.Holds pending) (hne : pending ≠ []) :
    word? pending = some word.close := by
  cases pending with
  | nil => exact absurd rfl hne
  | cons x pending =>
    rw [close, h.position x rfl, h.value]
    rfl

end Holds

end OpenWord

section

variable {t : Text} {stop : Nat}

/-- The offset of the first line feed from the given offset on, or the end of the section. -/
def skipComment (t : Text) (stop : Nat) (hstop : stop ≤ t.length) (i : Nat) : Nat :=
  if hi : i < stop then
    if t[i] = '\n' then i else skipComment t stop hstop (i + 1)
  else i
termination_by stop - i

theorem le_skipComment (hstop : stop ≤ t.length) (i : Nat) : i ≤ skipComment t stop hstop i := by
  fun_induction skipComment t stop hstop i with
  | case1 => exact Nat.le_refl _
  | case2 i _ _ ih => omega
  | case3 => exact Nat.le_refl _

theorem skipComment_semicolon (hstop : stop ≤ t.length) {i : Nat} (hi : i < stop)
    (hc : t[i] = ';') : skipComment t stop hstop i = skipComment t stop hstop (i + 1) := by
  rw [skipComment, dif_pos hi, hc, if_neg (by decide)]

end

/-- What the loop still adds, with the given word open at the given offset. -/
def scan (file? : Option String) (table : LineTable) (t : Text) (stop : Nat)
    (hstop : stop ≤ t.length) (i : Nat) (word : OpenWord) : Contribution :=
  if hi : i < stop then
    if hc : t[i] = ';' then
      scan file? table t stop hstop (skipComment t stop hstop i) word
    else
      match Numeral.hexValue? t[i] with
      | some digit =>
        let longer := word.add digit (table.position i)
        if longer.digits = 4 then
          ⟨[.memory longer.close], []⟩ ++ scan file? table t stop hstop (i + 1) longer.clear
        else scan file? table t stop hstop (i + 1) longer
      | none =>
        if Text.isBlank t[i] then scan file? table t stop hstop (i + 1) word
        else
          ⟨[], [report file? (t[i], table.position i)]⟩ ++
            scan file? table t stop hstop (i + 1) word
  else if word.digits = 0 then .empty
  else ⟨[.memory word.close], []⟩
termination_by stop - i
decreasing_by
  · have hle := le_skipComment hstop (i + 1)
    rw [skipComment_semicolon hstop hi hc]
    omega
  all_goals omega

/-- The characters outside comments from an offset outside comments up to the end of a section. -/
def remaining (t : Text) (stop i : Nat) : List Placed :=
  uncommented false (Position.ofOffset t i) ((t.drop i).take (stop - i))

section

variable {t : Text} {stop i : Nat}

theorem slice_eq_cons (hstop : stop ≤ t.length) (hi : i < stop) :
    (t.drop i).take (stop - i) = t[i] :: (t.drop (i + 1)).take (stop - (i + 1)) := by
  rw [List.drop_eq_getElem_cons (by omega : i < t.length),
    (by omega : stop - i = stop - (i + 1) + 1), List.take_succ_cons]

theorem remaining_stop (hi : ¬ i < stop) : remaining t stop i = [] := by
  rw [remaining, Nat.sub_eq_zero_of_le (Nat.le_of_not_lt hi), List.take_zero]
  rfl

theorem remaining_cons (hstop : stop ≤ t.length) (hi : i < stop) (hc : t[i] ≠ ';') :
    remaining t stop i = (t[i], Position.ofOffset t i) :: remaining t stop (i + 1) := by
  rw [remaining, slice_eq_cons hstop hi, uncommented_cons, remaining,
    Position.ofOffset_succ (by omega)]
  simp [hc]

/-- Inside a comment nothing is left to read up to the offset at which the comment ends. -/
theorem uncommented_skipComment (hstop : stop ≤ t.length) (i : Nat) :
    uncommented true (Position.ofOffset t i) ((t.drop i).take (stop - i)) =
      remaining t stop (skipComment t stop hstop i) := by
  fun_induction skipComment t stop hstop i with
  | case1 i hi hc =>
    rw [remaining, slice_eq_cons hstop hi, hc]
    rfl
  | case2 i hi hc ih =>
    rw [← ih, slice_eq_cons hstop hi, uncommented_cons, Position.ofOffset_succ (by omega)]
    simp [hc]
  | case3 i hi =>
    rw [remaining_stop hi, Nat.sub_eq_zero_of_le (Nat.le_of_not_lt hi), List.take_zero]
    rfl

theorem remaining_comment (hstop : stop ≤ t.length) (hi : i < stop) (hc : t[i] = ';') :
    remaining t stop i = remaining t stop (skipComment t stop hstop i) := by
  rw [skipComment_semicolon hstop hi hc, ← uncommented_skipComment, remaining,
    slice_eq_cons hstop hi, uncommented_cons, Position.ofOffset_succ (by omega), hc]
  rfl

end

/-- What digits that are already read and further characters outside comments add together. -/
def packed (file? : Option String) (pending rest : List Placed) : Contribution where
  nodes :=
    ((groupsOfFour (pending ++ rest.filter fun x => Numeral.isHexDigit x.1)).filterMap word?).map
      .memory
  diagnostics := (rest.filter fun x => isStranger x.1).map (report file?)

section

variable {file? : Option String} {pending rest : List Placed} {c : Char} {p : Position}

theorem packed_digit {digit : Nat} (hdigit : Numeral.hexValue? c = some digit) :
    packed file? pending ((c, p) :: rest) = packed file? (pending ++ [(c, p)]) rest := by
  simp [packed, isStranger, Numeral.isHexDigit, hdigit]

theorem packed_blank (hdigit : Numeral.hexValue? c = none) (hblank : Text.isBlank c = true) :
    packed file? pending ((c, p) :: rest) = packed file? pending rest := by
  simp [packed, isStranger, Numeral.isHexDigit, hdigit, hblank]

theorem packed_stranger (hdigit : Numeral.hexValue? c = none) (hblank : ¬ Text.isBlank c = true) :
    packed file? pending ((c, p) :: rest) =
      ⟨[], [report file? (c, p)]⟩ ++ packed file? pending rest := by
  simp only [packed, isStranger, Numeral.isHexDigit, hdigit, hblank, List.filter_cons]
  rfl

theorem packed_full {w : MemoryWord} (hlength : pending.length = 4)
    (hword : word? pending = some w) :
    packed file? pending rest = ⟨[.memory w], []⟩ ++ packed file? [] rest := by
  match pending, hlength with
  | [a, b, c, d], _ =>
    simp only [packed, List.cons_append, List.nil_append, groupsOfFour]
    rw [List.filterMap_cons_some hword]
    rfl

theorem packed_end {w : MemoryWord} (hlength : pending.length < 4)
    (hword : word? pending = some w) : packed file? pending [] = ⟨[.memory w], []⟩ := by
  have hgroup : groupsOfFour pending = [pending] := by
    match pending, hlength with
    | [], _ => simp [word?] at hword
    | [_], _ => rfl
    | [_, _], _ => rfl
    | [_, _, _], _ => rfl
  simp [packed, hgroup, hword]

end

/-- The loop at any point of its run. The induction follows the index, and the open word holds the
digits that are read but not packed yet. -/
theorem scan_eq (file? : Option String) {t : Text} {stop : Nat} (hstop : stop ≤ t.length) {i : Nat}
    {word : OpenWord} {pending : List Placed} (hword : word.Holds pending)
    (hlength : pending.length < 4) :
    scan file? (LineTable.ofText t) t stop hstop i word =
      packed file? pending (remaining t stop i) := by
  fun_induction scan file? (LineTable.ofText t) t stop hstop i word generalizing pending with
  | case1 i word hi hc ih => rw [ih hword hlength, remaining_comment hstop hi hc]
  | case2 i word hi hc digit hdigit longer hfull =>
    rename_i ih
    have hlonger : longer.Holds _ := hword.add hdigit ((LineTable.ofText t).position i)
    rw [ih (OpenWord.clear_holds _) (by decide), remaining_cons hstop hi hc, packed_digit hdigit,
      ← LineTable.position_ofText (by omega)]
    refine (packed_full ?_ (hlonger.word?_eq (by simp))).symm
    rw [← hlonger.digits]
    exact hfull
  | case3 i word hi hc digit hdigit longer hfull =>
    rename_i ih
    have hlonger : longer.Holds _ := hword.add hdigit ((LineTable.ofText t).position i)
    have hdigits := hlonger.digits
    rw [List.length_append, List.length_singleton] at hdigits
    rw [ih hlonger (by rw [List.length_append, List.length_singleton]; omega),
      remaining_cons hstop hi hc, packed_digit hdigit, LineTable.position_ofText (by omega)]
  | case4 i word hi hc hdigit hblank ih =>
    rw [ih hword hlength, remaining_cons hstop hi hc, packed_blank hdigit hblank]
  | case5 i word hi hc hdigit hblank ih =>
    rw [ih hword hlength, remaining_cons hstop hi hc, packed_stranger hdigit hblank,
      LineTable.position_ofText (by omega)]
  | case6 i word hi hdigits =>
    obtain rfl : pending = [] := List.length_eq_zero_iff.mp (hword.digits.symm.trans hdigits)
    rw [remaining_stop hi]
    rfl
  | case7 i word hi hdigits =>
    have hne : pending ≠ [] := by
      rintro rfl
      exact hdigits hword.digits
    rw [remaining_stop hi, packed_end hlength (hword.word?_eq hne)]

/-- The loop over a whole section adds its words and its reports. -/
theorem scan_section (file? : Option String) {t : Text} {s : Section} (hstop : s.stop ≤ t.length) :
    scan file? (LineTable.ofText t) t s.stop hstop s.start .start =
      ⟨(words (Position.ofOffset t s.start) (s.body t)).map .memory,
        reports file? (Position.ofOffset t s.start) (s.body t)⟩ :=
  scan_eq file? hstop OpenWord.start_holds (by decide)

end MemoryImage

/-- Packing loses nothing and invents nothing: a memory section adds exactly the words that its own
digits write and the reports on its own characters, between what the other sections add. The loop
over the section gives the same words and reports. -/
theorem memory_packed (file? : Option String) {t : Text} {before after : List Section} {s : Section}
    (hsections : Section.ofText t = before ++ s :: after) (hkind : s.kind = .memory) :
    ∃ words reports, Document.PacksMemory file? t s words reports ∧
      (∃ hstop : s.stop ≤ t.length,
        MemoryImage.scan file? (LineTable.ofText t) t s.stop hstop s.start .start =
          ⟨words.map .memory, reports⟩) ∧
      let first := before.flatMap (Document.sectionItems t)
      let last := after.flatMap (Document.sectionItems t)
      Document.read file? t =
        Document.readFrom file? codeBase first ++
          (⟨words.map .memory, reports⟩ ++
            Document.readFrom file? (codeBase + Document.words first) last) := by
  have hs : s ∈ Section.ofText t := by
    rw [hsections]
    exact List.mem_append_right _ List.mem_cons_self
  have hstop := (Section.ofText_bounds hs).2
  refine ⟨_, _, ⟨MemoryImage.words_pack hs, MemoryImage.reports_chosen file? hs⟩,
    ⟨hstop, MemoryImage.scan_section file? hstop⟩, ?_⟩
  intro first last
  have hnone : Document.words (Document.sectionItems t s) = 0 := by
    rw [Document.sectionItems_memory t hkind]
    rfl
  rw [Document.read_section file? hsections, hnone, Int.natCast_zero, Int.add_zero,
    Document.sectionItems_memory t hkind, Document.readFrom_memory]

/-- A comment, a line feed and a reported character stand between the digits of the first word. -/
theorem memory_packed_straddling :
    let t := ".memory 12;ff\ng3 4 5".toList
    let s : Section := ⟨.memory, 7, 20⟩
    Section.ofText t = [] ++ s :: [] ∧ s.kind = .memory ∧
      Document.PacksMemory none t s [⟨0x1234, 1, 8⟩, ⟨5, 2, 5⟩]
        [{ severity := .error
           message := "Unexpected character \"g\" in memory section."
           start := 0
           stop := 1
           line? := some 2 }] := by
  intro t s
  have hsections : Section.ofText t = [] ++ s :: [] := by decide +kernel
  refine ⟨hsections, rfl, ?_⟩
  obtain ⟨words, reports, hpacks, _, hread⟩ := memory_packed none hsections rfl
  have hnodes : words.map Node.memory = [⟨0x1234, 1, 8⟩, ⟨5, 2, 5⟩].map Node.memory :=
    calc words.map Node.memory = (Document.read none t).nodes := by
          rw [hread]
          exact (List.append_nil _).symm
      _ = _ := by decide +kernel
  have hreports : reports = (Document.read none t).diagnostics := by
    rw [hread]
    exact (List.append_nil _).symm
  obtain rfl := List.map_injective_iff.mpr (fun _ _ => Node.memory.inj) hnodes
  rwa [hreports] at hpacks

end AsmCheck
