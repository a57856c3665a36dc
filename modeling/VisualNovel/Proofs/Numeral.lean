import Mathlib.Data.List.Induction
import VisualNovel.Proofs.Integer
import VisualNovel.Proofs.Text.Words

namespace VisualNovel.Numeral

inductive Spells (n : Nat) : List Char → Prop
  | plain (zeros : Nat) : Spells n (List.replicate zeros '0' ++ Nat.toDigits 10 n)
  | signed (zeros : Nat) : Spells n ('+' :: (List.replicate zeros '0' ++ Nat.toDigits 10 n))

theorem toNat_bounds_of_isDigit {c : Char} (hc : c.isDigit = true) :
    '0'.toNat ≤ c.toNat ∧ c.toNat ≤ '9'.toNat := by
  rw [Char.isDigit, Bool.and_eq_true, decide_eq_true_eq, decide_eq_true_eq] at hc
  exact hc

theorem digitValue_lt_ten {c : Char} (hc : c.isDigit = true) : digitValue c < 10 :=
  Nat.lt_of_le_of_lt (Nat.sub_le_sub_right (toNat_bounds_of_isDigit hc).2 _) (by decide)

theorem digitChar_digitValue {c : Char} (hc : c.isDigit = true) :
    (digitValue c).digitChar = c := by
  apply Char.toNat_inj.mp
  rw [Nat.toNat_digitChar_of_lt_ten (digitValue_lt_ten hc)]
  exact Nat.add_sub_cancel' (toNat_bounds_of_isDigit hc).1

theorem isDigit_of_mem_zeros_append {zeros n : Nat} {c : Char}
    (hc : c ∈ List.replicate zeros '0' ++ Nat.toDigits 10 n) : c.isDigit = true := by
  rcases List.mem_append.mp hc with hzero | hdigit
  · rw [List.eq_of_mem_replicate hzero]
    rfl
  · exact Integer.isDigit_of_mem_toDigits hdigit

theorem zeros_append_ne_nil (zeros n : Nat) :
    List.replicate zeros '0' ++ Nat.toDigits 10 n ≠ [] :=
  List.append_ne_nil_of_right_ne_nil _ Nat.toDigits_ne_nil

theorem ofDigits_zeros_append (zeros n : Nat) :
    ofDigits (List.replicate zeros '0' ++ Nat.toDigits 10 n) = n := by
  change Nat.ofDigitChars 10 (List.replicate zeros '0' ++ Nat.toDigits 10 n) 0 = n
  rw [Nat.ofDigitChars_append, Nat.ofDigitChars_replicate_zero, Nat.mul_zero,
    Nat.ofDigitChars_ten_toDigits]

theorem ofDigits_concat (digits : List Char) (c : Char) :
    ofDigits (digits ++ [c]) = 10 * ofDigits digits + digitValue c := by
  simp [ofDigits]

theorem exists_eq_zeros_append {digits : List Char} (hne : digits ≠ [])
    (hdigits : ∀ c ∈ digits, c.isDigit = true) :
    ∃ zeros, digits = List.replicate zeros '0' ++ Nat.toDigits 10 (ofDigits digits) := by
  induction digits using List.reverseRecOn with
  | nil => exact absurd rfl hne
  | append_singleton digits c ih =>
      have hc : c.isDigit = true := hdigits c (by simp)
      have hlast : Nat.toDigits 10 (digitValue c) = [c] := by
        rw [Nat.toDigits_of_lt_base (digitValue_lt_ten hc), digitChar_digitValue hc]
      rw [ofDigits_concat]
      cases digits with
      | nil => exact ⟨0, by simp [ofDigits, hlast]⟩
      | cons d digits =>
          obtain ⟨zeros, hzeros⟩ := ih (by simp) fun e he => hdigits e (List.mem_append_left _ he)
          generalize ofDigits (d :: digits) = value at hzeros ⊢
          rw [hzeros]
          cases Nat.eq_zero_or_pos value with
          | inl hzero =>
              -- The digits so far are zeros, and the one that spelled the value joins the others.
              refine ⟨zeros + 1, ?_⟩
              rw [hzero, Nat.mul_zero, Nat.zero_add, hlast, Nat.toDigits_zero,
                List.replicate_succ']
          | inr hpos =>
              refine ⟨zeros, ?_⟩
              rw [List.append_assoc, ← hlast,
                Nat.toDigits_append_toDigits (by decide) hpos (digitValue_lt_ten hc)]

theorem ite_ofDigits_eq_some_iff {digits : List Char} {n : Nat} :
    (if digits ≠ [] ∧ digits.all Char.isDigit then some (ofDigits digits) else none) = some n ↔
      ∃ zeros, digits = List.replicate zeros '0' ++ Nat.toDigits 10 n := by
  constructor
  · intro hread
    split at hread
    · rename_i hdigits
      obtain rfl := Option.some.inj hread
      exact exists_eq_zeros_append hdigits.1 (List.all_eq_true.mp hdigits.2)
    · cases hread
  · rintro ⟨zeros, rfl⟩
    have hall : (List.replicate zeros '0' ++ Nat.toDigits 10 n).all Char.isDigit = true :=
      List.all_eq_true.mpr fun _ => isDigit_of_mem_zeros_append
    rw [if_pos ⟨zeros_append_ne_nil zeros n, hall⟩, ofDigits_zeros_append]

theorem readChars_eq_some_iff {cs : List Char} {n : Nat} :
    readChars cs = some n ↔ Spells n cs := by
  simp only [readChars.eq_def, ite_ofDigits_eq_some_iff]
  split
  · rename_i rest
    constructor
    · rintro ⟨zeros, rfl⟩
      exact .signed zeros
    · intro hspells
      generalize hcs : '+' :: rest = cs at hspells
      cases hspells with
      | plain zeros =>
          have hplus : '+' ∈ List.replicate zeros '0' ++ Nat.toDigits 10 n := by simp [← hcs]
          exact absurd (isDigit_of_mem_zeros_append hplus) (by decide)
      | signed zeros => exact ⟨zeros, (List.cons.inj hcs).2⟩
  · rename_i hsign
    constructor
    · rintro ⟨zeros, rfl⟩
      exact .plain zeros
    · rintro (zeros | zeros)
      · exact ⟨zeros, rfl⟩
      · exact absurd rfl (hsign _)

theorem read32_eq_some_iff {text : String} {n : UInt32} :
    read32 text = some n ↔ Spells n.toNat text.toList := by
  rw [read32, readBelow, Option.map_eq_some_iff, ← readChars_eq_some_iff]
  constructor
  · rintro ⟨value, hvalue, rfl⟩
    obtain ⟨hread, hbelow⟩ := Option.filter_eq_some_iff.mp hvalue
    rw [hread, UInt32.toNat_ofNat_of_lt' (of_decide_eq_true hbelow)]
  · intro hread
    refine ⟨n.toNat, Option.filter_eq_some_iff.mpr ⟨hread, ?_⟩, UInt32.ofNat_toNat⟩
    exact decide_eq_true n.toNat_lt

theorem spells_write (n : Nat) : Spells n (write n).toList := by
  rw [write, String.toList_ofList]
  exact .plain 0

theorem spells_writeTwo (n : Nat) : Spells n (writeTwo n).toList := by
  rw [writeTwo]
  split
  · simpa [write] using (.plain 1 : Spells n _)
  · exact spells_write n

theorem Spells.not_mem {n : Nat} {cs : List Char} {c : Char} (h : Spells n cs)
    (hdigit : c.isDigit = false) (hsign : c ≠ '+') : c ∉ cs := by
  have hzeros (zeros : Nat) : c ∉ List.replicate zeros '0' ++ Nat.toDigits 10 n := by
    intro hc
    rw [isDigit_of_mem_zeros_append hc] at hdigit
    cases hdigit
  cases h with
  | plain zeros => exact hzeros zeros
  | signed zeros => exact List.not_mem_cons_of_ne_of_not_mem hsign (hzeros zeros)

theorem isBlank_of_isDigit {c : Char} (hc : c.isDigit = true) : Text.isBlank c = false := by
  have hbounds : 48 ≤ c.toNat ∧ c.toNat ≤ 57 := toNat_bounds_of_isDigit hc
  simp only [Text.isBlank, Bool.or_eq_false_iff, Bool.and_eq_false_iff, decide_eq_false_iff_not,
    beq_eq_false_iff_ne]
  omega

theorem Spells.solid {n : Nat} {word : String} (h : Spells n word.toList) : Text.Solid word := by
  rw [Text.solid_iff]
  generalize word.toList = cs at h
  cases h with
  | plain zeros =>
      refine ⟨zeros_append_ne_nil zeros n, fun c hc => ?_⟩
      exact isBlank_of_isDigit (isDigit_of_mem_zeros_append hc)
  | signed zeros =>
      refine ⟨List.cons_ne_nil _ _, List.forall_mem_cons.mpr ⟨rfl, fun c hc => ?_⟩⟩
      exact isBlank_of_isDigit (isDigit_of_mem_zeros_append hc)

end VisualNovel.Numeral
