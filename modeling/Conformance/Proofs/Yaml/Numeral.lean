import Conformance.Proofs.Text.Numeral
import Conformance.Yaml.Scalar

/-!
# Numerals as YAML scalars

* `unsigned?_toString`, `integer?_toString` : a decimal numeral denotes its number;
* `plainData?_of_integer?` : without quotes and tag, an integer of sixty-four bits has no other type.
-/

namespace Conformance.Yaml

variable {s : String} {i : Int}

theorem hexValue?_of_isDigit {c : Char} (h : c.isDigit = true) :
    hexValue? c = some (c.toNat - '0'.toNat) ∧ c.toNat - '0'.toNat < 10 := by
  simp only [Char.isDigit, Bool.and_eq_true, decide_eq_true_eq] at h
  obtain ⟨hlow, hhigh⟩ := h
  refine ⟨if_pos ⟨hlow, hhigh⟩, ?_⟩
  have : c.toNat ≤ 57 := hhigh
  show c.toNat - 48 < 10
  omega

theorem digits?_of_isDigit {cs : List Char} (hne : cs ≠ []) (h : ∀ c ∈ cs, c.isDigit = true) :
    digits? 10 cs = some (Decimal.ofDigits cs) := by
  rw [digits?, if_neg (by simpa using hne), Decimal.ofDigits]
  clear hne
  generalize 0 = n
  induction cs generalizing n with
  | nil => rfl
  | cons c cs ih =>
    obtain ⟨hvalue, hsmall⟩ := hexValue?_of_isDigit (h c List.mem_cons_self)
    rw [List.foldlM_cons, hvalue, List.foldl_cons]
    show (if _ then _ else none).bind _ = _
    rw [if_pos hsmall]
    exact ih (fun c' hmem => h c' (List.mem_cons_of_mem _ hmem)) _

theorem magnitude?_toDigits (n : Nat) : magnitude? (Nat.toDigits 10 n) = some n := by
  have hdigits : ∀ c ∈ Nat.toDigits 10 n, c.isDigit = true := fun c => Numeral.isDigit_of_mem
  have hvalue := digits?_of_isDigit Nat.toDigits_ne_nil hdigits
  rw [Decimal.ofDigits_toDigits] at hvalue
  cases hwritten : Nat.toDigits 10 n with
  | nil => exact absurd hwritten Nat.toDigits_ne_nil
  | cons c rest =>
    have hpadded : isPadded (c :: rest) = false := by
      unfold isPadded
      split
      · rename_i rest' heq
        rw [Numeral.eq_nil_of_leading_zero (hwritten.trans heq)]
        rfl
      · rfl
    rw [hwritten] at hvalue hdigits
    -- the marks of other bases are no digits
    have hmark : ∀ (mark : Char) (rest' : List Char), mark.isDigit = false →
        c :: rest ≠ '0' :: mark :: rest' := by
      intro mark rest' hmark heq
      rw [heq] at hdigits
      have hdigit := hdigits mark (.tail _ (.head _))
      rw [hmark] at hdigit
      cases hdigit
    unfold magnitude?
    split
    · exact absurd (by assumption) (hmark 'x' _ rfl)
    · exact absurd (by assumption) (hmark 'o' _ rfl)
    · exact absurd (by assumption) (hmark 'b' _ rfl)
    · rw [hpadded]
      exact hvalue

theorem unsigned?_toString (n : Nat) : unsigned? (toString (n : Int)) = some n := by
  unfold unsigned?
  rw [toList_toString_natCast]
  split
  · rename_i rest heq
    have hdigit := Numeral.isDigit_of_mem (heq ▸ List.mem_cons_self)
    cases hdigit
  · exact magnitude?_toDigits n

theorem integer?_toString (i : Int) : integer? (toString i) = some i := by
  unfold integer?
  rcases Int.lt_or_le i 0 with hneg | hpos
  · have htext := toList_toString_of_neg hneg
    have hunsigned : unsigned? (toString i) = none := by
      unfold unsigned?
      rw [htext]
      rfl
    have hnegative : negative? (toString i) = some (-(i.natAbs : Int)) := by
      unfold negative?
      rw [htext]
      show Option.map _ _ = _
      simp [magnitude?_toDigits]
    rw [hunsigned, hnegative]
    exact congrArg some (by omega)
  · obtain ⟨n, rfl⟩ := Int.eq_ofNat_of_zero_le hpos
    rw [unsigned?_toString]

theorem plainData?_of_integer? (h : integer? s = some i) (hfits : fits 64 i = true) :
    plainData? s = some (.int i) := by
  have hwords : ∀ word ∈ ["", "null", "Null", "NULL", "~", "true", "True", "TRUE", "false", "False",
      "FALSE"], integer? word = none := by decide +kernel
  have hne : ∀ word ∈ ["", "null", "Null", "NULL", "~", "true", "True", "TRUE", "false", "False",
      "FALSE"], s ≠ word := by
    rintro word hmem rfl
    rw [hwords s hmem] at h
    cases h
  have hnull : (s.isEmpty || isNullWord s) = false := by
    simp [isNullWord, hne]
  have htruth : truth? s = none := by
    simp [truth?, hne]
  have hkept : ∀ otherwise, intData? i otherwise = some (.int i) := fun otherwise => if_pos hfits
  simp only [plainData?, hnull, htruth, h, hkept, Bool.false_eq_true, if_false]

end Conformance.Yaml
