import AsmCheck.Family
import AsmCheck.Proofs.Decomposition
import AsmCheck.Proofs.LowerCasing

/-!
# The first token of a line

A line is tokenised twice: its first token is lower-cased and cut at a dot, and its instruction is
cut from the line as it is and lower-cased afterwards. The two mnemonics may differ, since a capital
sigma in front of the dot sees different characters after it, but they name the same family: both
are compared with ASCII words only.
-/

namespace AsmCheck

set_option autoImplicit false

namespace Text

theorem firstToken_append_of_allBlank {b : Text} (hb : AllBlank b) (t : Text) :
    (firstToken (t ++ b)).1 = (firstToken t).1 := by
  have hrun : b.takeWhile (!isBlank ·) = [] := by
    cases b with
    | nil => rfl
    | cons c rest => exact List.takeWhile_cons_of_neg (by simp [hb c List.mem_cons_self])
  have hdrop : trimStart b = [] := (trimStart_eq_nil_iff b).mpr hb
  change (trimStart (t ++ b)).takeWhile (!isBlank ·) = (trimStart t).takeWhile (!isBlank ·)
  have hsplit : trimStart (t ++ b) =
      if (trimStart t).isEmpty then trimStart b else trimStart t ++ b := List.dropWhile_append
  rw [hsplit]
  split
  · rename_i hempty
    rw [hdrop, List.isEmpty_iff.mp hempty]
  · rw [List.takeWhile_append, hrun, List.append_nil]
    split
    · rename_i hlen
      have hall := List.takeWhile_prefix (l := trimStart t) (!isBlank ·)
      exact (hall.eq_of_length hlen).symm
    · rfl

theorem firstToken_append_left {b : Text} (hb : AllBlank b) (t : Text) :
    (firstToken (b ++ t)).1 = (firstToken t).1 := by
  change (trimStart (b ++ t)).takeWhile _ = (trimStart t).takeWhile _
  rw [trimStart_append_of_allBlank hb]

theorem firstToken_trim (t : Text) : (firstToken (trim t)).1 = (firstToken t).1 := by
  obtain ⟨tail, ht, htail⟩ := exists_trim t
  calc (firstToken (trim t)).1
      = (firstToken (trim t ++ tail)).1 := (firstToken_append_of_allBlank htail _).symm
    _ = (firstToken (t.takeWhile isBlank ++ (trim t ++ tail))).1 :=
        (firstToken_append_left (allBlank_leading t) _).symm
    _ = (firstToken t).1 := by rw [← ht]

theorem not_blank_of_mem_firstToken {t : Text} : ∀ c ∈ (firstToken t).1, isBlank c = false := by
  intro c hc
  simpa using List.mem_takeWhile_imp hc

end Text

theorem codePart_lineContent (line : Text) :
    ∃ tail, codePart line = codePart (lineContent line) ++ tail ∧ Text.AllBlank tail := by
  obtain ⟨ending, hline, hending⟩ := Text.dropEndWhile_append Statement.isLineEnd line
  have hblank : ∀ c, Statement.isLineEnd c = true → Text.isBlank c = true := by
    intro c hc
    rcases (Bool.or_eq_true _ _).mp hc with hc | hc
    · rw [beq_iff_eq.mp hc]
      decide
    · rw [beq_iff_eq.mp hc]
      decide
  change line = lineContent line ++ ending at hline
  have hcode : codePart line = (lineContent line ++ ending).takeWhile (· != ';') := by
    rw [← hline]
    rfl
  rw [hcode, List.takeWhile_append]
  split
  · rename_i hlen
    have hall : codePart (lineContent line) = lineContent line :=
      List.IsPrefix.eq_of_length ( List.takeWhile_prefix _) hlen
    refine ⟨ending.takeWhile (· != ';'), by rw [hall], ?_⟩
    intro c hc
    exact hblank c (hending c ((List.takeWhile_subset _) hc))
  · exact ⟨[], (List.append_nil _).symm, by simp [Text.AllBlank]⟩

/-- The first token of the trimmed code is that of the code from which the statement is cut. -/
theorem firstToken_trimmedCode (line : Text) :
    (Text.firstToken (trimmedCode line)).1 =
      (Text.firstToken (codePart (lineContent line))).1 := by
  obtain ⟨tail, hcode, htail⟩ := codePart_lineContent line
  rw [trimmedCode, Text.firstToken_trim, hcode, Text.firstToken_append_of_allBlank htail]

theorem leadingInstruction_eq (code : Text) :
    leadingInstruction code = Text.before '.' (Text.firstToken code).1 := by
  change (Text.trimStart code).takeWhile _ =
    ((Text.trimStart code).takeWhile (!Text.isBlank ·)).takeWhile (· != '.')
  rw [List.takeWhile_takeWhile]
  congr 1
  funext c
  rw [Bool.eq_iff_iff]
  simp [Statement.isInstructionChar, and_comm]

namespace Family

theorem aliases_ascii (family : Family) :
    ∀ name ∈ family.aliases, ∀ c ∈ name.toList, c.toNat < 128 := by
  have hall : family.aliases.all (fun name => name.toList.all (·.toNat < 128)) = true := by
    cases family <;> decide
  simpa only [List.all_eq_true, decide_eq_true_eq] using hall

/-- Tokens name the same family if their mnemonics are the same ASCII words. -/
theorem ofToken?_congr {s t : Text}
    (h : ∀ word : Text, (∀ c ∈ word, c.toNat < 128) → (mnemonic s = word ↔ mnemonic t = word)) :
    ofToken? s = ofToken? t := by
  have htest : (fun family : Family => family.aliases.any fun name => name.toList == mnemonic s) =
      fun family => family.aliases.any fun name => name.toList == mnemonic t := by
    funext family
    rw [Bool.eq_iff_iff, List.any_eq_true, List.any_eq_true]
    apply exists_congr
    intro name
    apply and_congr_right
    intro hname
    have hword := h name.toList (aliases_ascii family name hname)
    rw [beq_iff_eq, beq_iff_eq, eq_comm, hword, eq_comm]
  exact congrArg (fun test => all.find? test) htest

theorem mnemonic_eq {token : Text} (h : ∀ c ∈ token, Text.isBlank c = false) :
    mnemonic token = Text.lower (Text.before '.' token) := by
  rw [mnemonic, Text.trim_eq_self h]

/-- Lower-casing a token before it is cut at a dot does not change the family that it names. -/
theorem ofToken?_lower {token : Text} (h : ∀ c ∈ token, Text.isBlank c = false) :
    ofToken? (Text.lower token) = ofToken? (Text.before '.' token) := by
  have hlower : ∀ c ∈ Text.lower token, Text.isBlank c = false := Text.isBlank_lowerFrom h []
  have hcut : ∀ c ∈ Text.before '.' token, Text.isBlank c = false :=
    fun c hc => h c ((List.takeWhile_subset _) hc)
  have hidem : Text.before '.' (Text.before '.' token) = Text.before '.' token :=
    List.takeWhile_idem
  apply ofToken?_congr
  intro word hword
  rw [mnemonic_eq hlower, mnemonic_eq hcut, hidem]
  calc Text.lower (Text.before '.' (Text.lower token)) = word
      ↔ (Text.before '.' (Text.lower token)).map Text.lowerAscii? = word.map some :=
        Text.lowerFrom_eq_ascii_iff hword [] _
    _ ↔ (Text.before '.' token).map Text.lowerAscii? = word.map some :=
        Text.before_dot_lowerFrom_iff word [] token
    _ ↔ Text.lower (Text.before '.' token) = word :=
        (Text.lowerFrom_eq_ascii_iff hword [] _).symm

theorem ofToken?_nil : ofToken? [] = none := by decide

end Family

/-- The mnemonic of an instruction that was cut from a line is all of it, in lower case. -/
theorem CodeParts.mnemonic_instruction {code : Text} (p : CodeParts code) :
    Family.mnemonic p.instruction = Text.lower p.instruction := by
  have hchars : ∀ c ∈ p.instruction, Text.isBlank c = false ∧ (c != '.') = true := by
    intro c hc
    simpa [Statement.isInstructionChar] using p.instruction_chars c hc
  have hbefore : Text.before '.' p.instruction = p.instruction :=
    List.takeWhile_eq_self_iff.mpr fun c hc => (hchars c hc).2
  rw [Family.mnemonic_eq fun c hc => (hchars c hc).1, hbefore]

theorem ofToken?_splitFirstToken (line : Text) :
    Family.ofToken? (splitFirstToken (trimmedCode line)).1 =
      Family.ofToken? (leadingInstruction (codePart (lineContent line))) := by
  change Family.ofToken? (Text.lower (Text.firstToken (trimmedCode line)).1) = _
  rw [Family.ofToken?_lower Text.not_blank_of_mem_firstToken, firstToken_trimmedCode,
    leadingInstruction_eq]

/-- The first token of a line names a family exactly if the line has a statement whose instruction
names this family. -/
theorem firstToken_family_iff (line : Text) (family : Family) :
    Family.ofToken? (splitFirstToken (trimmedCode line)).1 = some family ↔
      ∃ s, Statement.ofLine? line = some s ∧
        Family.ofToken? s.instruction.text = some family := by
  rw [ofToken?_splitFirstToken]
  constructor
  · intro h
    have hne : leadingInstruction (codePart (lineContent line)) ≠ [] := by
      intro hnil
      rw [hnil, Family.ofToken?_nil] at h
      simp at h
    exact ⟨_, ofLine?_eq_some hne, h⟩
  · rintro ⟨s, hs, h⟩
    have hne : leadingInstruction (codePart (lineContent line)) ≠ [] := by
      intro hnil
      rw [(ofLine?_eq_none_iff line).mpr hnil] at hs
      simp at hs
    rw [ofLine?_eq_some hne] at hs
    rw [← Option.some.inj hs] at h
    exact h

end AsmCheck
