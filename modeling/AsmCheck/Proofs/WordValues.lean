import AsmCheck.Document.MemoryImage
import Mathlib.Algebra.Group.Nat.Defs

/-!
# Values of words

A numeral is smaller than the power of its base by the number of its digits. The digits of a memory
section are taken in groups of at most four, so each of its words fits in sixteen bits.
-/

namespace AsmCheck

set_option autoImplicit false

namespace Numeral

theorem hexValue?_lt {c : Char} {value : Nat} (h : hexValue? c = some value) : value < 16 := by
  unfold hexValue? at h
  split at h
  · rename_i hc
    have hstop : c.toNat ≤ '0'.toNat + 9 := hc.2
    have hvalue := Option.some.inj h
    omega
  · split at h
    · rename_i hc
      have hstop : c.toNat ≤ 'a'.toNat + 5 := hc.2
      have hvalue := Option.some.inj h
      omega
    · split at h
      · rename_i hc
        have hstop : c.toNat ≤ 'A'.toNat + 5 := hc.2
        have hvalue := Option.some.inj h
        omega
      · simp at h

/-- One digit more moves a numeral up by one place. -/
theorem read_append_singleton (base : Nat) (t : Text) (c : Char) :
    read base (t ++ [c]) = read base t * base + (hexValue? c).getD 0 := by
  simp [read, ofDigits]

theorem foldl_lt {base : Nat} {digits : List Nat} (h : ∀ d ∈ digits, d < base) (n : Nat) :
    digits.foldl (fun n d => n * base + d) n < (n + 1) * base ^ digits.length := by
  induction digits generalizing n with
  | nil => simp
  | cons d rest ih =>
    have hd : d < base := h d List.mem_cons_self
    have hrest : ∀ e ∈ rest, e < base := fun e he => h e (List.mem_cons_of_mem d he)
    calc rest.foldl (fun n d => n * base + d) (n * base + d)
        < (n * base + d + 1) * base ^ rest.length := ih hrest (n * base + d)
      _ ≤ ((n + 1) * base) * base ^ rest.length := by
          apply Nat.mul_le_mul_right
          rw [Nat.add_mul]
          omega
      _ = (n + 1) * base ^ (rest.length + 1) := by
          rw [Nat.mul_assoc, Nat.pow_succ, Nat.mul_comm base]

theorem ofDigits_lt {base : Nat} {digits : List Nat} (h : ∀ d ∈ digits, d < base) :
    ofDigits base digits < base ^ digits.length := by
  have hlt := foldl_lt h 0
  rwa [Nat.zero_add, Nat.one_mul] at hlt

theorem read_hex_lt (t : Text) : read 16 t < 16 ^ t.length := by
  have hlt : ∀ d ∈ t.map (fun c => (hexValue? c).getD 0), d < 16 := by
    intro d hd
    obtain ⟨c, _, rfl⟩ := List.mem_map.mp hd
    cases hc : hexValue? c with
    | none => decide
    | some value => exact hexValue?_lt hc
  have hread := ofDigits_lt hlt
  rwa [List.length_map] at hread

end Numeral

namespace MemoryImage

theorem length_le_of_mem_groupsOfFour {α : Type} {l group : List α}
    (h : group ∈ groupsOfFour l) : group.length ≤ 4 := by
  fun_induction groupsOfFour l with
  | case1 => simp at h
  | case2 a => simp_all
  | case3 a b => simp_all
  | case4 a b c => simp_all
  | case5 a b c d rest ih =>
    rcases List.mem_cons.mp h with rfl | h
    · exact Nat.le_refl 4
    · exact ih h

theorem word?_value_lt {group : List Placed} {w : MemoryWord} (hlen : group.length ≤ 4)
    (h : word? group = some w) : w.value < 65536 := by
  cases group with
  | nil => simp [word?] at h
  | cons first rest =>
    have hw : w.value = Numeral.read 16 (first.1 :: rest.map (·.1)) := by
      rw [← Option.some.inj h]
    calc w.value < 16 ^ (first.1 :: rest.map (·.1)).length := by
          rw [hw]
          exact Numeral.read_hex_lt _
      _ ≤ 16 ^ 4 := by
          apply Nat.pow_le_pow_right (by decide)
          rw [List.length_cons, List.length_map]
          exact hlen

theorem words_value_lt {p : Position} {body : Text} {w : MemoryWord} (h : w ∈ words p body) :
    w.value < 65536 := by
  obtain ⟨group, hgroup, hw⟩ := List.mem_filterMap.mp h
  exact word?_value_lt (length_le_of_mem_groupsOfFour hgroup) hw

end MemoryImage

end AsmCheck
