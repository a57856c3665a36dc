import VisualNovel.Datum.Scanner
import VisualNovel.Proofs.Integer
import VisualNovel.Text.Escape

namespace VisualNovel.Scan

open Text

theorem char?_toNat (c : Char) : char? c.toNat = some c := by
  have hvalid : c.toNat.isValidChar := c.valid
  rw [char?, if_pos hvalid, Char.ofNat_toNat]

theorem quotedFrom_digits (close : Char) (digits rest : List Char) {code m k : Nat}
    (hlength : k + digits.length ≤ 6)
    (hdigits : digits.foldlM (fun n c => (hexDigit? c).map (16 * n + ·)) code = some m) :
    quotedFrom close (some (code, k)) (digits ++ rest) =
      quotedFrom close (some (m, k + digits.length)) rest := by
  induction digits generalizing code k with
  | nil =>
      cases hdigits
      rfl
  | cons c digits ih =>
      rw [List.foldlM_cons] at hdigits
      obtain ⟨n, hn, hdigits⟩ := Option.bind_eq_some_iff.mp hdigits
      obtain ⟨digit, hdigit, rfl⟩ := Option.map_eq_some_iff.mp hn
      have hclose : c ≠ '}' := by
        rintro rfl
        cases hdigit
      rw [List.length_cons] at hlength
      have hk : k < 6 := by omega
      have hrest := ih (by omega : k + 1 + digits.length ≤ 6) hdigits
      rw [List.cons_append, quotedFrom, if_neg hclose, if_pos hk, hdigit]
      simpa [Nat.add_assoc, Nat.add_comm 1] using hrest

theorem quotedFrom_codePoint (close c : Char) (rest : List Char) :
    quotedFrom close (some (0, 0)) (Nat.toDigits 16 c.toNat ++ '}' :: rest) =
      (quotedFrom close none rest).map fun (body, rest) => (c :: body, rest) := by
  have hlength : (Nat.toDigits 16 c.toNat).length ≤ 6 := by
    rw [Nat.length_toDigits_le_iff (by decide) (by decide)]
    have hvalid : c.toNat.isValidChar := c.valid
    rw [Nat.isValidChar] at hvalid
    omega
  have hdigits : (Nat.toDigits 16 c.toNat).foldlM
      (fun n c => (hexDigit? c).map (16 * n + ·)) 0 = some c.toNat := by
    refine Integer.foldlM_toDigits (by decide) ?_ c.toNat
    intro n d hd
    simp [hexDigit?, Integer.digit?_digitChar (by decide) hd]
  have hne : (Nat.toDigits 16 c.toNat).length ≠ 0 := by
    simp [Nat.toDigits_ne_nil]
  rw [quotedFrom_digits close _ _ (by omega) hdigits, quotedFrom, if_pos rfl,
    if_neg (by omega), char?_toNat]
  cases quotedFrom close none rest <;> rfl

theorem quotedFrom_shortEscape {c mark : Char} (hmark : shortEscape? c = some mark)
    (close : Char) (rest : List Char) :
    quotedFrom close none ('\\' :: mark :: rest) =
      (quotedFrom close none rest).map fun (body, rest) => (c :: body, rest) := by
  rw [shortEscape?.eq_def] at hmark
  split at hmark <;> cases hmark <;> cases hrest : quotedFrom close none rest <;>
    simp [quotedFrom, escaped?, hrest]

theorem quotedFrom_plain {c : Char} (hplain : shortEscape? c = none) (rest : List Char) :
    quotedFrom '"' none (c :: rest) =
      (quotedFrom '"' none rest).map fun (body, rest) => (c :: body, rest) := by
  have hclose : c ≠ '"' := by
    rintro rfl
    cases hplain
  have hbackslash : c ≠ '\\' := by
    rintro rfl
    cases hplain
  cases hrest : quotedFrom '"' none rest <;>
    simp [quotedFrom, hclose, hbackslash, hrest]

theorem quotedFrom_escape (c : Char) (rest : List Char) :
    quotedFrom '"' none (escape c ++ rest) =
      (quotedFrom '"' none rest).map fun (body, rest) => (c :: body, rest) := by
  rw [escape]
  split
  · rename_i mark hmark
    exact quotedFrom_shortEscape hmark '"' rest
  · rename_i hplain
    split
    · exact quotedFrom_plain hplain rest
    · rw [← quotedFrom_codePoint '"' c rest]
      simp [quotedFrom]

theorem quotedFrom_flatMap_escape (text rest : List Char) :
    quotedFrom '"' none (text.flatMap escape ++ '"' :: rest) = some (text, rest) := by
  induction text with
  | nil => simp [quotedFrom]
  | cons c text ih =>
      rw [List.flatMap_cons, List.append_assoc, quotedFrom_escape, ih]
      rfl

theorem quoted_quote (text : String) (rest : List Char) :
    quoted (quote text ++ rest) = some (text, rest) := by
  simp only [quote, List.cons_append, List.append_assoc, List.nil_append, quoted]
  rw [quotedFrom_flatMap_escape]
  simp

end VisualNovel.Scan
