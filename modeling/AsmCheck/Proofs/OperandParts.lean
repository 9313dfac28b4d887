import AsmCheck.Proofs.MoveGrammar

/-!
# Operands taken apart

An operand that names a register is taken apart by cutting its text at words and by searching it for
a register. Both find the name of the register and the selected words, also within brackets and in
front of a final line feed, and nothing is lost: the operand is spelled by its kind and its parts, up
to a dot that selects no words.
-/

namespace AsmCheck.Operand

set_option autoImplicit false

def registerNames : List Text :=
  ["r0", "r1", "r2", "r3", "r4", "r5", "r6", "r7", "ri",
    "c0", "c1", "c2", "c3", "c4", "c5", "c6", "c7"].map String.toList

namespace Kind

/-- The kinds whose operands name a register. -/
def hasRegister : Kind → Bool
  | .register | .constant | .pointer | .pointerIncrement => true
  | .immediate | .label => false

def opening : Kind → Text
  | .pointer | .pointerIncrement => ['[']
  | _ => []

def closing : Kind → Text
  | .pointer => [']']
  | .pointerIncrement => ['+', ']']
  | _ => []

/-- Within brackets a dot is followed by a word. -/
def leastWords (kind : Kind) : Nat := if kind.isPointer then 1 else 0

/-- An operand of the given kind that names a register and selects the given words of it. -/
def spell (kind : Kind) (key : Text) : Option Text → Text
  | none => kind.opening ++ (key ++ kind.closing)
  | some words => kind.opening ++ (key ++ ('.' :: words ++ kind.closing))

theorem exists_selects_of_hasShape {kind : Kind} {t : Text} (h : kind.hasShape t = true)
    (hregister : kind.hasRegister = true) :
    ∃ (register : Register) (tail words : Text),
      t = kind.opening ++ (register.name ++ (tail ++ kind.closing)) ∧
        Selects kind.leastWords tail words := by
  have hbare : ∀ allowed, isRegisterText allowed 0 t = true →
      ∃ (register : Register) (tail words : Text),
        t = [] ++ (register.name ++ (tail ++ [])) ∧ Selects 0 tail words := by
    intro allowed hname
    obtain ⟨register, tail, words, _, ht, hselects⟩ := isRegisterText_iff.mp hname
    exact ⟨register, tail, words, by rw [ht, List.nil_append, List.append_nil], hselects⟩
  cases kind with
  | register => exact hbare _ h
  | constant => exact hbare _ h
  | pointer => exact isBracketed_iff.mp h
  | pointerIncrement => exact isBracketed_iff.mp h
  | immediate => cases hregister
  | label => cases hregister

theorem opening_not_isWordChar (kind : Kind) : ∀ c ∈ kind.opening, Text.isWordChar c = false := by
  have hall : kind.opening.all (!Text.isWordChar ·) = true := by cases kind <;> decide
  simpa using hall

section

variable (kind : Kind) {ending : Text} (hending : ending = [] ∨ ending = ['\n'])

include hending

theorem closing_ends_word :
    ∀ c ∈ (kind.closing ++ ending).head?, Text.isWordChar c = false ∧ c ≠ '.' := by
  have hall : (kind.closing ++ ending).head?.all (fun c => !Text.isWordChar c && c != '.') =
      true := by
    rcases hending with rfl | rfl <;> cases kind <;> decide
  intro c hc
  rw [hc] at hall
  simpa using hall

theorem enclosure_lower :
    ∀ c ∈ kind.opening ++ (kind.closing ++ ending), c.toNat < 128 ∧ c.toLower = c := by
  have hall : (kind.opening ++ (kind.closing ++ ending)).all
      (fun c => c.toNat < 128 && c.toLower == c) = true := by
    rcases hending with rfl | rfl <;> cases kind <;> decide
  intro c hc
  have hchar := List.all_eq_true.mp hall c hc
  simpa using hchar

end

end Kind

theorem mem_registerNames (register : Register) : register.name ∈ registerNames := by
  cases register with
  | general index => revert index; decide
  | constant index => revert index; decide
  | counter => decide

theorem describe_name (register : Register) :
    Register.describe register.name = .ok register.longName := by
  have hname : Register.ofName? (Text.lower (Text.trim register.name)) = some register := by
    cases register with
    | general index => revert index; decide
    | constant index => revert index; decide
    | counter => decide
  rw [Register.describe, hname]

theorem letters_of_selects {least : Nat} {tail words : Text} (h : Selects least tail words) :
    ∀ found ∈ nonEmpty? words,
      1 ≤ found.length ∧ found.length ≤ 4 ∧ ∀ c ∈ found, c ∈ ['x', 'y', 'z', 'w'] := by
  intro found hfound
  rcases h with ⟨_, rfl⟩ | ⟨_, hletters, _, hmost⟩
  · cases hfound
  · obtain ⟨hne, rfl⟩ : words ≠ [] ∧ words = found := by
      cases words with
      | nil => cases hfound
      | cons c rest => exact ⟨List.cons_ne_nil c rest, Option.some.inj hfound⟩
    exact ⟨List.length_pos_iff.mpr hne, hmost, (forall_mem_letters_iff words).mpr hletters⟩

/-- A dot that selects no words is not found again in the parts, and does not stand in brackets. -/
theorem spelled_of_selects {kind : Kind} {tail words : Text} (key : Text)
    (h : Selects kind.leastWords tail words) :
    kind.opening ++ (key ++ (tail ++ kind.closing)) = kind.spell key (nonEmpty? words) ∨
      kind.isPointer = false ∧ nonEmpty? words = none ∧
        kind.opening ++ (key ++ (tail ++ kind.closing)) = kind.spell key none ++ ['.'] := by
  rcases h with ⟨rfl, rfl⟩ | ⟨rfl, _, hleast, _⟩
  · exact Or.inl rfl
  · cases words with
    | cons c rest => exact Or.inl rfl
    | nil =>
      have hpointer : kind.isPointer = false := by
        by_contra hpointer
        rw [Kind.leastWords, if_pos (by simpa using hpointer)] at hleast
        cases hleast
      refine Or.inr ⟨hpointer, rfl, ?_⟩
      cases kind <;> simp_all [Kind.spell, Kind.opening, Kind.closing, Kind.isPointer]

/-- The parts that both ways of taking an operand apart find, and how they spell the operand. -/
structure TakenApart (kind : Kind) (t key : Text) (swizzle? : Option Text) : Prop where
  by_words : wordParts? t = some (key, swizzle?)
  by_search : (registerParts? t).map (fun parts => (parts.1.name, parts.2)) = some (key, swizzle?)
  known : key ∈ registerNames
  described : ∃ longName, Register.describe key = .ok longName
  letters : ∀ words ∈ swizzle?,
    1 ≤ words.length ∧ words.length ≤ 4 ∧ ∀ c ∈ words, c ∈ ['x', 'y', 'z', 'w']
  /-- Only outside of brackets and without words a dot may follow the name. -/
  spelled : Text.dropFinalNewline t = kind.spell key swizzle? ∨
    kind.isPointer = false ∧ swizzle? = none ∧
      Text.dropFinalNewline t = kind.spell key none ++ ['.']

theorem exists_takenApart {t : Text} {kind : Kind} (h : Kind.ofText? t = some kind)
    (hregister : kind.hasRegister = true) : ∃ key swizzle?, TakenApart kind t key swizzle? := by
  obtain ⟨register, tail, words, hbody, hselects⟩ :=
    Kind.exists_selects_of_hasShape (Kind.hasShape_of_ofText? h) hregister
  obtain ⟨ending, ht, hending⟩ := exists_final_newline t
  have htext : t = kind.opening ++ (register.name ++ (tail ++ (kind.closing ++ ending))) := by
    rw [ht, hbody]
    simp only [List.append_assoc]
  have hwords := wordParts?_enclosed register kind.opening_not_isWordChar
    (kind.closing_ends_word hending) hselects
  have hsearch := registerParts?_enclosed register kind.opening_not_isWordChar
    (kind.closing_ends_word hending) (kind.enclosure_lower hending) hselects
  rw [← htext] at hwords hsearch
  exact ⟨register.name, nonEmpty? words,
    { by_words := hwords
      by_search := by rw [hsearch]; rfl
      known := mem_registerNames register
      described := ⟨_, describe_name register⟩
      letters := letters_of_selects hselects
      spelled := by rw [hbody]; exact spelled_of_selects register.name hselects }⟩

/-- Two texts are the same, or one of them has a dot more at its end. -/
def SameUpToDot (s t : Text) : Prop := s = t ∨ s = t ++ ['.'] ∨ t = s ++ ['.']

theorem TakenApart.sameUpToDot {kind : Kind} {t t' key : Text} {swizzle? : Option Text}
    (h : TakenApart kind t key swizzle?) (h' : TakenApart kind t' key swizzle?) :
    SameUpToDot (Text.dropFinalNewline t) (Text.dropFinalNewline t') := by
  rcases h.spelled with ht | ⟨_, hnone, ht⟩
  · rcases h'.spelled with ht' | ⟨_, hnone', ht'⟩
    · exact Or.inl (ht.trans ht'.symm)
    · exact Or.inr (Or.inr (by rw [ht', ht, hnone']))
  · rcases h'.spelled with ht' | ⟨_, _, ht'⟩
    · exact Or.inr (Or.inl (by rw [ht, ht', hnone]))
    · exact Or.inl (ht.trans ht'.symm)

/-- Cutting an operand that names a register at words and searching it for a register find the same
name and the same words, and these spell the operand. Operands of one kind with the same parts are
the same up to a dot and a line feed. -/
theorem operand_parts_agree {t : Text} {kind : Kind} (h : Kind.ofText? t = some kind)
    (hregister : kind.hasRegister = true) :
    ∃ key swizzle?, TakenApart kind t key swizzle? ∧
      ∀ t', Kind.ofText? t' = some kind → wordParts? t' = some (key, swizzle?) →
        SameUpToDot (Text.dropFinalNewline t) (Text.dropFinalNewline t') := by
  obtain ⟨key, swizzle?, hparts⟩ := exists_takenApart h hregister
  refine ⟨key, swizzle?, hparts, ?_⟩
  intro t' hkind' hwords'
  obtain ⟨key', swizzle?', hparts'⟩ := exists_takenApart hkind' hregister
  have hsame := hparts'.by_words.symm.trans hwords'
  obtain ⟨rfl, rfl⟩ := Prod.mk.inj (Option.some.inj hsame)
  exact hparts.sameUpToDot hparts'

theorem operand_parts_agree_increment :
    let t := "[r3.xy+]\n".toList
    Kind.ofText? t = some .pointerIncrement ∧
      TakenApart .pointerIncrement t "r3".toList (some "xy".toList) ∧
      ∀ t', Kind.ofText? t' = some .pointerIncrement →
        wordParts? t' = some ("r3".toList, some "xy".toList) →
          SameUpToDot "[r3.xy+]".toList (Text.dropFinalNewline t') := by
  intro t
  have hkind : Kind.ofText? t = some .pointerIncrement := by decide
  have hwords : wordParts? t = some ("r3".toList, some "xy".toList) := by decide
  obtain ⟨key, swizzle?, hparts, hsame⟩ := operand_parts_agree hkind rfl
  have hfound := hparts.by_words.symm.trans hwords
  obtain ⟨rfl, rfl⟩ := Prod.mk.inj (Option.some.inj hfound)
  exact ⟨hkind, hparts, hsame⟩

end AsmCheck.Operand
