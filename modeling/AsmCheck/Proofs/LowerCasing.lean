import AsmCheck.Proofs.Trimming
import AsmCheck.Text.LowerCase

/-!
# Lower case and ASCII

What the mapping to lower case does to texts of which some other text is compared with an ASCII
word. Two characters beyond ASCII map to ASCII characters, the Kelvin sign to a single one and the
dotted capital I to one of two, so neither the mapping itself nor its being applied once or twice,
nor the context of a capital sigma, decides whether the result is a given ASCII word: that is
decided character by character.
-/

namespace AsmCheck.Text

set_option autoImplicit false

theorem toNat_ofNat {n : Nat} (h : n.isValidChar) : (Char.ofNat n).toNat = n := by
  rw [Char.ofNat, dif_pos h]
  rfl

theorem forall_ascii {P : Char → Prop} (h : ∀ n < 128, P (Char.ofNat n)) {c : Char}
    (hc : c.toNat < 128) : P c := by
  have hval := h c.toNat hc
  rwa [Char.ofNat_toNat] at hval

def kelvin : Char := Char.ofNat 0x212A

/-- The ASCII character that a character turns into in lower case, if that is all of it. -/
def lowerAscii? (c : Char) : Option Char :=
  if c.toNat < 128 then some c.toLower else if c = kelvin then some 'k' else none

theorem lowerAscii?_of_ascii {c : Char} (hc : c.toNat < 128) : lowerAscii? c = some c.toLower :=
  if_pos hc

theorem lowerAscii?_eq_none {c : Char} (hc : ¬ c.toNat < 128) (hk : c ≠ kelvin) :
    lowerAscii? c = none := by
  rw [lowerAscii?, if_neg hc, if_neg hk]

/-- What is read off the table of runs: images are characters, none is blank or the Kelvin sign,
and only the Kelvin sign itself has an ASCII image. -/
def CaseRun.isHarmless (run : CaseRun) : Bool :=
  let last := run.target + (run.last - run.first)
  (last < 0xD800 || (0xE000 ≤ run.target && last < 0x110000)) &&
    (128 ≤ run.target || (run.first == 0x212A && run.last == 0x212A)) &&
    blankRanges.all (fun r => r.2 < run.target || last < r.1) &&
    (0x212A < run.target || last < 0x212A)

theorem lowerRuns_harmless : ∀ run ∈ lowerRuns, run.isHarmless = true := by
  have h : lowerRuns.all CaseRun.isHarmless = true := by decide +kernel
  exact List.all_eq_true.mp h

theorem CaseRun.covers_iff (run : CaseRun) (n : Nat) :
    run.covers n = true ↔ run.first ≤ n ∧ n ≤ run.last ∧ (n - run.first) % run.step = 0 := by
  simp [CaseRun.covers, and_assoc]

theorem CaseRun.toNat_image {run : CaseRun} (hrun : run.isHarmless = true) {n : Nat}
    (hn : run.covers n = true) :
    (Char.ofNat (run.target + (n - run.first))).toNat = run.target + (n - run.first) := by
  apply toNat_ofNat
  obtain ⟨hfirst, hlast, _⟩ := (CaseRun.covers_iff run n).mp hn
  simp only [CaseRun.isHarmless, Bool.and_eq_true, Bool.or_eq_true, decide_eq_true_eq] at hrun
  obtain ⟨⟨⟨hvalid, _⟩, _⟩, _⟩ := hrun
  unfold Nat.isValidChar
  omega

theorem map_lowerRuns_cases (c : Char) :
    CaseRun.map lowerRuns c = c ∨ ∃ run ∈ lowerRuns, run.covers c.toNat = true ∧
      (CaseRun.map lowerRuns c).toNat = run.target + (c.toNat - run.first) := by
  unfold CaseRun.map
  split
  · rename_i run hfind
    have hmem := List.mem_of_find?_eq_some hfind
    have hcovers := List.find?_some hfind
    exact Or.inr ⟨run, hmem, hcovers, CaseRun.toNat_image (lowerRuns_harmless run hmem) hcovers⟩
  · exact Or.inl rfl

theorem isBlank_map_lowerRuns {c : Char} (hc : isBlank c = false) :
    isBlank (CaseRun.map lowerRuns c) = false := by
  rcases map_lowerRuns_cases c with heq | ⟨run, hmem, hcovers, hval⟩
  · rw [heq]
    exact hc
  · have hrun := lowerRuns_harmless run hmem
    obtain ⟨hfirst, hlast, _⟩ := (CaseRun.covers_iff run _).mp hcovers
    simp only [CaseRun.isHarmless, Bool.and_eq_true, List.all_eq_true, Bool.or_eq_true,
      decide_eq_true_eq] at hrun
    obtain ⟨⟨_, hblank⟩, _⟩ := hrun
    rw [Bool.eq_false_iff]
    intro htrue
    obtain ⟨r, hr, hlow, hhigh⟩ := inRanges_iff.mp htrue
    have hout := hblank r hr
    omega

/-- Beyond ASCII, only the Kelvin sign is mapped into ASCII, and nothing onto the Kelvin sign. -/
theorem lowerAscii?_map_lowerRuns {c : Char} (hc : ¬ c.toNat < 128) (hk : c ≠ kelvin) :
    lowerAscii? (CaseRun.map lowerRuns c) = none := by
  rcases map_lowerRuns_cases c with heq | ⟨run, hmem, hcovers, hval⟩
  · rw [heq]
    exact lowerAscii?_eq_none hc hk
  · have hrun := lowerRuns_harmless run hmem
    obtain ⟨hfirst, hlast, _⟩ := (CaseRun.covers_iff run _).mp hcovers
    simp only [CaseRun.isHarmless, Bool.and_eq_true, Bool.or_eq_true, decide_eq_true_eq,
      beq_iff_eq] at hrun
    obtain ⟨⟨⟨_, hascii⟩, _⟩, hkelvin⟩ := hrun
    have hne : c.toNat ≠ 0x212A := by
      intro heq
      apply hk
      rw [← Char.ofNat_toNat c, heq]
      rfl
    apply lowerAscii?_eq_none
    · omega
    · intro heq
      rw [heq] at hval
      change 0x212A = _ at hval
      omega

/-- The lower-case form of a character between two texts, the first of them read leftwards. -/
def lowerAt (before : Text) (c : Char) (after : Text) : Text :=
  if c = 'Σ' then [if isFinalSigma before after then 'ς' else 'σ'] else lowerChar c

theorem lowerFrom_cons (before : Text) (c : Char) (rest : Text) :
    lowerFrom before (c :: rest) = lowerAt before c rest ++ lowerFrom (c :: before) rest := rfl

theorem lowerAt_sigma (before after : Text) :
    lowerAt before 'Σ' after = ['ς'] ∨ lowerAt before 'Σ' after = ['σ'] := by
  unfold lowerAt
  rw [if_pos rfl]
  split
  · exact Or.inl rfl
  · exact Or.inr rfl

theorem lowerAt_ascii {c : Char} (hc : c.toNat < 128) (before after : Text) :
    lowerAt before c after = [c.toLower] := by
  have hne : c ≠ 'Σ' := by
    rintro rfl
    exact absurd hc (by decide)
  rw [lowerAt, if_neg hne, lowerChar, if_pos hc]

theorem lowerAt_cases (before : Text) (c : Char) (after : Text) :
    (c.toNat < 128 ∧ lowerAt before c after = [c.toLower]) ∨
    (c = 'Σ' ∧ (lowerAt before c after = ['ς'] ∨ lowerAt before c after = ['σ'])) ∨
    (c = Char.ofNat 0x130 ∧ lowerAt before c after = ['i', Char.ofNat 0x307]) ∨
    (¬ c.toNat < 128 ∧ lowerAt before c after = [CaseRun.map lowerRuns c]) := by
  by_cases hascii : c.toNat < 128
  · exact Or.inl ⟨hascii, lowerAt_ascii hascii before after⟩
  by_cases hsigma : c = 'Σ'
  · subst hsigma
    exact Or.inr (Or.inl ⟨rfl, lowerAt_sigma before after⟩)
  have hplain : lowerAt before c after = lowerChar c := if_neg hsigma
  by_cases hdotted : c = Char.ofNat 0x130
  · refine Or.inr (Or.inr (Or.inl ⟨hdotted, ?_⟩))
    rw [hplain, lowerChar, if_neg hascii, if_pos hdotted]
  · refine Or.inr (Or.inr (Or.inr ⟨hascii, ?_⟩))
    rw [hplain, lowerChar, if_neg hascii, if_neg hdotted]

theorem toLower_ascii {c : Char} (hc : c.toNat < 128) :
    c.toLower.toNat < 128 ∧ c.toLower.toLower = c.toLower := by
  revert hc
  exact forall_ascii (P := fun c => c.toLower.toNat < 128 ∧ c.toLower.toLower = c.toLower)
    (by decide)

/-- A character turns into one ASCII character in lower case and that one stays as it is, or its
lower-case form has a character from which no ASCII character comes. -/
theorem lowerAt_ascii_cases (before : Text) (c : Char) (after : Text) :
    (∃ d, lowerAscii? c = some d ∧ lowerAscii? d = some d ∧ lowerAt before c after = [d]) ∨
    (lowerAscii? c = none ∧ ∃ x ∈ lowerAt before c after, lowerAscii? x = none) := by
  rcases lowerAt_cases before c after with
    ⟨hc, hat⟩ | ⟨rfl, hat⟩ | ⟨rfl, hat⟩ | ⟨hc, hat⟩
  · obtain ⟨hlower, hfixed⟩ := toLower_ascii hc
    refine Or.inl ⟨c.toLower, lowerAscii?_of_ascii hc, ?_, hat⟩
    rw [lowerAscii?_of_ascii hlower, hfixed]
  · refine Or.inr ⟨by decide, ?_⟩
    rcases hat with hat | hat
    · exact ⟨'ς', by simp [hat], by decide⟩
    · exact ⟨'σ', by simp [hat], by decide⟩
  · exact Or.inr ⟨by decide, Char.ofNat 0x307, by simp [hat], by decide⟩
  · by_cases hk : c = kelvin
    · subst hk
      have hmap : CaseRun.map lowerRuns kelvin = 'k' := by decide +kernel
      exact Or.inl ⟨'k', by decide, by decide, by rw [hat, hmap]⟩
    · exact Or.inr ⟨lowerAscii?_eq_none hc hk, _, by rw [hat]; exact List.mem_singleton.mpr rfl,
        lowerAscii?_map_lowerRuns hc hk⟩

theorem isBlank_lowerAt {c : Char} (hc : isBlank c = false) (before after : Text) :
    ∀ x ∈ lowerAt before c after, isBlank x = false := by
  rcases lowerAt_cases before c after with
    ⟨hascii, hat⟩ | ⟨rfl, hat⟩ | ⟨rfl, hat⟩ | ⟨_, hat⟩
  · have hlower : isBlank c = false → isBlank c.toLower = false :=
      forall_ascii (P := fun c => isBlank c = false → isBlank c.toLower = false)
        (by decide) hascii
    simpa [hat] using hlower hc
  · rcases hat with hat | hat <;> simp only [hat, List.mem_singleton, forall_eq] <;> decide
  · simp only [hat, List.mem_cons, List.not_mem_nil, or_false, forall_eq_or_imp, forall_eq]
    decide
  · simpa [hat] using isBlank_map_lowerRuns hc

theorem dot_not_mem_lowerAt {c : Char} (hc : c ≠ '.') (before after : Text) :
    '.' ∉ lowerAt before c after := by
  intro hdot
  rcases lowerAt_ascii_cases before c after with ⟨d, hcd, _, hat⟩ | ⟨hnone, _⟩
  · rw [hat, List.mem_singleton] at hdot
    subst hdot
    unfold lowerAscii? at hcd
    split at hcd
    · rename_i hascii
      have hpre : c.toLower = '.' → c = '.' :=
        forall_ascii (P := fun c => c.toLower = '.' → c = '.') (by decide) hascii
      exact hc (hpre (Option.some.inj hcd))
    · split at hcd
      · simp at hcd
      · simp at hcd
  · rcases lowerAt_cases before c after with
      ⟨hascii, _⟩ | ⟨_, hat⟩ | ⟨_, hat⟩ | ⟨hascii, hat⟩
    · rw [lowerAscii?_of_ascii hascii] at hnone
      simp at hnone
    · rcases hat with hat | hat <;> rw [hat] at hdot <;> simp at hdot
    · rw [hat] at hdot
      revert hdot
      decide
    · have hk : c ≠ kelvin := by
        rintro rfl
        exact absurd hnone (by decide)
      have hmap := lowerAscii?_map_lowerRuns hascii hk
      rw [hat, List.mem_singleton] at hdot
      rw [← hdot] at hmap
      exact absurd hmap (by decide)

theorem isBlank_lowerFrom {t : Text} (ht : ∀ c ∈ t, isBlank c = false) (before : Text) :
    ∀ x ∈ lowerFrom before t, isBlank x = false := by
  induction t generalizing before with
  | nil => simp [lowerFrom]
  | cons c rest ih =>
    intro x hx
    rw [lowerFrom_cons] at hx
    rcases List.mem_append.mp hx with hx | hx
    · exact isBlank_lowerAt (ht c List.mem_cons_self) before rest x hx
    · exact ih (fun d hd => ht d (List.mem_cons_of_mem c hd)) (c :: before) x hx

theorem lowerFrom_ascii {t : Text} (ht : ∀ c ∈ t, c.toNat < 128) (before : Text) :
    lowerFrom before t = t.map Char.toLower := by
  induction t generalizing before with
  | nil => rfl
  | cons c rest ih =>
    rw [lowerFrom_cons, lowerAt_ascii (ht c List.mem_cons_self),
      ih (fun d hd => ht d (List.mem_cons_of_mem c hd))]
    rfl

theorem lower_ascii {t : Text} (ht : ∀ c ∈ t, c.toNat < 128) : lower t = t.map Char.toLower :=
  lowerFrom_ascii ht []

/-- Whether a text is a given ASCII word in lower case does not depend on what precedes it. -/
theorem lowerFrom_eq_ascii_iff {word : Text} (hword : ∀ c ∈ word, c.toNat < 128)
    (before t : Text) : lowerFrom before t = word ↔ t.map lowerAscii? = word.map some := by
  induction t generalizing before word with
  | nil => cases word <;> simp [lowerFrom]
  | cons c rest ih =>
    rw [lowerFrom_cons]
    rcases lowerAt_ascii_cases before c rest with ⟨d, hcd, _, hat⟩ | ⟨hnone, x, hx, hxnone⟩
    · rw [hat, List.map_cons, hcd]
      cases word with
      | nil => simp
      | cons a more =>
        have hmore := ih (fun b hb => hword b (List.mem_cons_of_mem a hb)) (c :: before)
        simp only [List.singleton_append, List.cons.injEq, List.map_cons, Option.some.injEq, hmore]
    · constructor
      · intro heq
        have hascii := hword x (heq ▸ List.mem_append_left _ hx)
        rw [lowerAscii?_of_ascii hascii] at hxnone
        simp at hxnone
      · intro heq
        cases word <;> simp [hnone] at heq

theorem before_append_of_not_mem {mark : Char} {s : Text} (hs : mark ∉ s) (t : Text) :
    Text.before mark (s ++ t) = s ++ Text.before mark t := by
  apply List.takeWhile_append_of_pos
  intro c hc
  have hne : c ≠ mark := fun heq => hs (heq ▸ hc)
  simpa using hne

/-- Lower case does not move the first dot of a text, and a second mapping adds nothing. -/
theorem before_dot_lowerFrom_iff (word before t : Text) :
    (Text.before '.' (lowerFrom before t)).map lowerAscii? = word.map some ↔
      (Text.before '.' t).map lowerAscii? = word.map some := by
  induction t generalizing before word with
  | nil => rfl
  | cons c rest ih =>
    rw [lowerFrom_cons]
    by_cases hdot : c = '.'
    · subst hdot
      rw [lowerAt_ascii (by decide)]
      rfl
    · have hcons : Text.before '.' (c :: rest) = c :: Text.before '.' rest := by
        simp [Text.before, hdot]
      rw [before_append_of_not_mem (dot_not_mem_lowerAt hdot before rest), hcons,
        List.map_append, List.map_cons]
      rcases lowerAt_ascii_cases before c rest with ⟨d, hcd, hdd, hat⟩ | ⟨hnone, x, hx, hxnone⟩
      · rw [hat, hcd, List.map_singleton, hdd]
        cases word with
        | nil => simp
        | cons a more =>
          simp only [List.singleton_append, List.cons.injEq, List.map_cons, Option.some.injEq, ih]
      · constructor
        · intro heq
          have hmem : none ∈ word.map some := by
            rw [← heq, ← hxnone]
            exact List.mem_append_left _ (List.mem_map_of_mem hx)
          simp at hmem
        · intro heq
          cases word <;> simp [hnone] at heq

end AsmCheck.Text
