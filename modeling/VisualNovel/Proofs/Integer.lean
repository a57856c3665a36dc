import VisualNovel.Integer
import VisualNovel.Numeral

namespace VisualNovel.Integer

theorem digit?_digitChar {base d : Nat} (hbase : base ≤ 16) (hd : d < base) :
    digit? base d.digitChar = some d := by
  have hall : ∀ base ≤ 16, ∀ d < base, digit? base d.digitChar = some d := by decide
  exact hall base hbase d hd

theorem foldlM_toDigits {base : Nat} (hbase : 1 < base) {take : Nat → Char → Option Nat}
    (htake : ∀ n d, d < base → take n d.digitChar = some (base * n + d)) (n : Nat) :
    (Nat.toDigits base n).foldlM take 0 = some n := by
  induction n using Nat.strongRecOn with
  | ind n ih =>
      rw [Nat.toDigits_eq_if hbase]
      split
      · rename_i hlt
        simp [htake 0 n hlt]
      · rename_i hge
        have hmod : n % base < base := Nat.mod_lt n (by omega)
        have hdiv : n / base < n := Nat.div_lt_self (by omega) hbase
        rw [List.foldlM_append, ih (n / base) hdiv]
        simp [htake (n / base) (n % base) hmod, Nat.div_add_mod]

theorem isDigit_of_mem_toDigits {n : Nat} {c : Char} (hc : c ∈ Nat.toDigits 10 n) :
    c.isDigit = true :=
  Nat.isDigit_of_mem_toDigits (by decide) (by decide) hc

theorem toDigits_eq_cons (n : Nat) :
    ∃ c digits, Nat.toDigits 10 n = c :: digits ∧ c.isDigit = true := by
  cases hdigits : Nat.toDigits 10 n with
  | nil => exact absurd hdigits Nat.toDigits_ne_nil
  | cons c digits => exact ⟨c, digits, rfl, isDigit_of_mem_toDigits (n := n) (by simp [hdigits])⟩

theorem ne_of_isDigit {c d : Char} (hc : c.isDigit = true) (hd : d.isDigit = false) : c ≠ d := by
  rintro rfl
  rw [hc] at hd
  cases hd

theorem isSome_digit?_of_isDigit {c : Char} (hc : c.isDigit = true) :
    (digit? 16 c).isSome = true := by
  have hle : c.toNat ≤ '9'.toNat := by
    simp only [Char.isDigit, Bool.and_eq_true, decide_eq_true_eq] at hc
    exact hc.2
  have hvalue : c.toNat - '0'.toNat < 16 :=
    Nat.lt_of_le_of_lt (Nat.sub_le_sub_right hle _) (by decide)
  rw [digit?, if_pos hc, if_pos hvalue]
  rfl

theorem base_eq_ten {cs : List Char} (hsecond : ∀ c ∈ cs[1]?, c ∉ ['x', 'b', 'o']) :
    base cs = (10, cs) := by
  rw [base.eq_def]
  split
  · exact absurd (hsecond 'x' rfl) (by decide)
  · exact absurd (hsecond 'b' rfl) (by decide)
  · exact absurd (hsecond 'o' rfl) (by decide)
  · rfl

theorem base_toDigits_append (n : Nat) {rest : List Char}
    (hrest : ∀ c ∈ rest.head?, c ∉ ['x', 'b', 'o']) :
    base (Nat.toDigits 10 n ++ rest) = (10, Nat.toDigits 10 n ++ rest) := by
  refine base_eq_ten fun c hc hmark => ?_
  have hall : ['x', 'b', 'o'].all (!·.isDigit) = true := by decide
  have hletter : c.isDigit = false := by simpa using List.all_eq_true.mp hall c hmark
  rw [Option.mem_def, List.getElem?_append] at hc
  split at hc
  · have hdigit : c.isDigit = true := isDigit_of_mem_toDigits (List.mem_of_getElem? hc)
    exact ne_of_isDigit hdigit hletter rfl
  · rename_i hlength
    have hone : (Nat.toDigits 10 n).length = 1 := by
      have hpos := Nat.length_toDigits_pos (b := 10) (n := n)
      omega
    rw [hone, Nat.sub_self, ← List.head?_eq_getElem?] at hc
    exact hrest c hc hmark

theorem magnitude_toDigits (n : Nat) : magnitude 10 (Nat.toDigits 10 n) = some n := by
  have htake : ∀ m d, d < 10 →
      (fun m c => if c = '_' then some m else (digit? 10 c).map (10 * m + ·)) m d.digitChar =
        some (10 * m + d) := by
    intro m d hd
    have hunderscore : d.digitChar ≠ '_' := by
      have hall : ∀ d < 10, Nat.digitChar d ≠ '_' := by decide
      exact hall d hd
    simp [hunderscore, digit?_digitChar (by decide) hd]
  have hhead : (Nat.toDigits 10 n).head? ≠ some '_' := by
    intro hhead
    exact Nat.underscore_not_in_toDigits (List.mem_of_head? hhead)
  rw [magnitude, if_neg (by simp [Nat.toDigits_ne_nil, hhead])]
  exact foldlM_toDigits (by decide) htake n

theorem readChars_toDigits {n : Nat} (hn : n < UInt64.size) :
    readChars (Nat.toDigits 10 n) = some (n : Int) := by
  have hdigits : ∀ c ∈ Nat.toDigits 10 n, c.isDigit = true := fun _ => isDigit_of_mem_toDigits
  have hunsigned : readChars.unsigned (Nat.toDigits 10 n) = some n := by
    have hnone : ∀ c ∈ ([] : List Char).head?, c ∉ ['x', 'b', 'o'] := nofun
    have hbase := base_toDigits_append n hnone
    rw [List.append_nil] at hbase
    rw [readChars.unsigned, hbase, magnitude_toDigits]
  rw [readChars.eq_def]
  split
  · rename_i hsign
    exact absurd (hdigits '-' (by simp [hsign])) (by decide)
  · rename_i hsign
    exact absurd (hdigits '+' (by simp [hsign])) (by decide)
  · have hfits : (some n).filter (· < UInt64.size) = some n := by
      rw [Option.filter_some, if_pos (by simpa using hn)]
    rw [hunsigned, hfits]
    rfl

theorem read_write {n : Nat} (hn : n < UInt64.size) : read (Numeral.write n) = some (n : Int) := by
  rw [read, Numeral.write, String.toList_ofList, readChars_toDigits hn]

end VisualNovel.Integer
