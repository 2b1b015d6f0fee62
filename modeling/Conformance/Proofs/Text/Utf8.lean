import Conformance.Text.Utf8

/-!
# Texts as octets and back

* `Utf8.next_encodeChar` : the octets of a character are read as the character;
* `Utf8.toNat_of_mem_encodeChar` : octets below 0x80 are characters by themselves;
* `Utf8.decodeLossy_encode`, `Bytes.toText_ofText` : the octets of a text are read as the text.
-/

namespace Conformance

namespace Utf8

variable {a b c d : UInt8} {r : Bytes} {v : Nat}

/-! ## Sequences of several octets -/

theorem isTail_of_toNat (h : b.toNat = v % 64 + 128) : isTail b = true := by
  simp only [isTail, Bool.and_eq_true, decide_eq_true_eq, UInt8.le_iff_toNat_le, UInt8.reduceToNat]
  omega

theorem payload_of_toNat (h : b.toNat = v % 64 + 128) : payload b = v % 64 := by
  unfold payload
  omega

theorem nextTwo_of_toNat (ha : a.toNat = v / 64 % 32 + 192) (hb : b.toNat = v % 64 + 128)
    (hv : v < 0x800) : nextTwo a (b :: r) = .char (Char.ofNat v) 1 := by
  have hvalue : a.toNat % 32 * 64 + payload b = v := by
    rw [payload_of_toNat hb]
    omega
  rw [nextTwo, if_pos (isTail_of_toNat hb), hvalue]

theorem nextThree_of_toNat {lo hi : UInt8} (ha : a.toNat = v / 4096 % 16 + 224)
    (hb : b.toNat = v / 64 % 64 + 128) (hc : c.toNat = v % 64 + 128) (hv : v < 0x10000)
    (hlo : lo.toNat ≤ b.toNat) (hhi : b.toNat ≤ hi.toNat) :
    nextThree a lo hi (b :: c :: r) = .char (Char.ofNat v) 2 := by
  have hvalue : (a.toNat % 16 * 64 + payload b) * 64 + payload c = v := by
    rw [payload_of_toNat hb, payload_of_toNat hc]
    omega
  have hrange : (lo ≤ b && b ≤ hi) = true := by
    simp only [Bool.and_eq_true, decide_eq_true_eq, UInt8.le_iff_toNat_le]
    exact ⟨hlo, hhi⟩
  simp only [nextThree, hrange, isTail_of_toNat hc, hvalue, if_true]

theorem nextFour_of_toNat {lo hi : UInt8} (ha : a.toNat = v / 262144 % 8 + 240)
    (hb : b.toNat = v / 4096 % 64 + 128) (hc : c.toNat = v / 64 % 64 + 128)
    (hd : d.toNat = v % 64 + 128) (hv : v < 0x200000)
    (hlo : lo.toNat ≤ b.toNat) (hhi : b.toNat ≤ hi.toNat) :
    nextFour a lo hi (b :: c :: d :: r) = .char (Char.ofNat v) 3 := by
  have hvalue : ((a.toNat % 8 * 64 + payload b) * 64 + payload c) * 64 + payload d = v := by
    rw [payload_of_toNat hb, payload_of_toNat hc, payload_of_toNat hd]
    omega
  have hrange : (lo ≤ b && b ≤ hi) = true := by
    simp only [Bool.and_eq_true, decide_eq_true_eq, UInt8.le_iff_toNat_le]
    exact ⟨hlo, hhi⟩
  simp only [nextFour, hrange, isTail_of_toNat hc, isTail_of_toNat hd, hvalue, if_true]

/-! ## The lead octet -/

theorem next_one (ha : a.toNat = v) (hv : v ≤ 127) : next a r = .char (Char.ofNat v) 0 := by
  have hlt : a < 0x80 := UInt8.lt_iff_toNat_lt.mpr (by rw [ha]; exact Nat.lt_succ_of_le hv)
  rw [next, if_pos hlt, ha]

theorem next_eq_nextTwo (hlo : 0xC2 ≤ a.toNat) (hhi : a.toNat < 0xE0) : next a r = nextTwo a r := by
  simp only [next, UInt8.lt_iff_toNat_lt, UInt8.reduceToNat]
  rw [if_neg (by omega), if_neg (by omega), if_pos hhi]

/-- The second octet of three is restricted after two leads: no overlong form, no surrogate. -/
theorem next_eq_nextThree (hlo : 0xE0 ≤ a.toNat) (hhi : a.toNat < 0xF0) :
    next a r =
      nextThree a (if a.toNat = 0xE0 then 0xA0 else 0x80) (if a.toNat = 0xED then 0x9F else 0xBF)
        r := by
  simp only [next, UInt8.lt_iff_toNat_lt, beq_iff_eq, ← UInt8.toNat_inj, UInt8.reduceToNat]
  rw [if_neg (by omega), if_neg (by omega), if_neg (by omega)]
  by_cases h : a.toNat = 0xE0
  · rw [if_pos h, if_pos h, if_neg (by omega)]
  · rw [if_neg h, if_neg h]
    by_cases h' : a.toNat = 0xED
    · rw [if_pos h', if_pos h']
    · rw [if_neg h', if_neg h', if_pos hhi]

/-- The second octet of four is restricted after two leads: no overlong form, nothing above the
last character. -/
theorem next_eq_nextFour (hlo : 0xF0 ≤ a.toNat) (hhi : a.toNat ≤ 0xF4) :
    next a r =
      nextFour a (if a.toNat = 0xF0 then 0x90 else 0x80) (if a.toNat = 0xF4 then 0x8F else 0xBF)
        r := by
  simp only [next, UInt8.lt_iff_toNat_lt, beq_iff_eq, ← UInt8.toNat_inj, UInt8.reduceToNat]
  rw [if_neg (by omega), if_neg (by omega), if_neg (by omega), if_neg (by omega), if_neg (by omega),
    if_neg (by omega)]
  by_cases h : a.toNat = 0xF0
  · rw [if_pos h, if_pos h, if_neg (by omega)]
  · rw [if_neg h, if_neg h]
    by_cases h' : a.toNat = 0xF4
    · rw [if_neg (by omega), if_pos h', if_pos h']
    · rw [if_pos (by omega), if_neg h']

/-! ## Characters -/

theorem ofNat_toNat_of_lt {n : Nat} (h : n < 256) : (UInt8.ofNat n).toNat = n :=
  UInt8.toNat_ofNat_of_lt' h

theorem next_encodeChar (ch : Char) (r : Bytes) : ∃ lead more,
    String.utf8EncodeChar ch = lead :: more ∧ next lead (more ++ r) = .char ch more.length := by
  have hvalid : ch.val.toNat < 0xD800 ∨ 0xDFFF < ch.val.toNat ∧ ch.val.toNat < 0x110000 := ch.valid
  have hch : Char.ofNat ch.val.toNat = ch := Char.ofNat_toNat ch
  rw [String.utf8EncodeChar.eq_1]
  generalize ch.val.toNat = v at *
  subst hch
  -- one case for each number of octets; surrogates and what is too large are left out by `hvalid`
  by_cases h1 : v ≤ 127
  · rw [if_pos h1]
    exact ⟨_, _, rfl, next_one (ofNat_toNat_of_lt (by omega)) h1⟩
  rw [if_neg h1]
  by_cases h2 : v ≤ 2047
  · rw [if_pos h2]
    have hlead : (UInt8.ofNat (v / 64 % 32 + 192)).toNat = v / 64 % 32 + 192 :=
      ofNat_toNat_of_lt (by omega)
    refine ⟨_, _, rfl, ?_⟩
    rw [List.cons_append, next_eq_nextTwo (by omega) (by omega)]
    exact nextTwo_of_toNat hlead (ofNat_toNat_of_lt (by omega)) (by omega)
  rw [if_neg h2]
  by_cases h3 : v ≤ 65535
  · rw [if_pos h3]
    have hlead : (UInt8.ofNat (v / 4096 % 16 + 224)).toNat = v / 4096 % 16 + 224 :=
      ofNat_toNat_of_lt (by omega)
    have hsecond : (UInt8.ofNat (v / 64 % 64 + 128)).toNat = v / 64 % 64 + 128 :=
      ofNat_toNat_of_lt (by omega)
    refine ⟨_, _, rfl, ?_⟩
    rw [List.cons_append, List.cons_append, next_eq_nextThree (by omega) (by omega)]
    refine nextThree_of_toNat hlead hsecond (ofNat_toNat_of_lt (by omega)) (by omega) ?_ ?_
    · split <;> simp only [UInt8.reduceToNat] <;> omega
    · split <;> simp only [UInt8.reduceToNat] <;> omega
  · rw [if_neg h3]
    have hlead : (UInt8.ofNat (v / 262144 % 8 + 240)).toNat = v / 262144 % 8 + 240 :=
      ofNat_toNat_of_lt (by omega)
    have hsecond : (UInt8.ofNat (v / 4096 % 64 + 128)).toNat = v / 4096 % 64 + 128 :=
      ofNat_toNat_of_lt (by omega)
    refine ⟨_, _, rfl, ?_⟩
    rw [List.cons_append, List.cons_append, List.cons_append, next_eq_nextFour (by omega) (by omega)]
    refine nextFour_of_toNat hlead hsecond (ofNat_toNat_of_lt (by omega))
      (ofNat_toNat_of_lt (by omega)) (by omega) ?_ ?_
    · split <;> simp only [UInt8.reduceToNat] <;> omega
    · split <;> simp only [UInt8.reduceToNat] <;> omega

/-- An octet below 0x80 is a character by itself. -/
theorem toNat_of_mem_encodeChar {ch : Char} (h : b ∈ String.utf8EncodeChar ch) :
    b.toNat = ch.toNat ∨ 0x80 ≤ b.toNat := by
  have hv : ch.val.toNat = ch.toNat := rfl
  rw [String.utf8EncodeChar.eq_1, hv] at h
  generalize ch.toNat = v at *
  by_cases h1 : v ≤ 127
  · rw [if_pos h1, List.mem_singleton] at h
    exact .inl (by rw [h, ofNat_toNat_of_lt (by omega)])
  refine .inr ?_
  rw [if_neg h1] at h
  by_cases h2 : v ≤ 2047
  · rw [if_pos h2] at h
    simp only [List.mem_cons, List.not_mem_nil, or_false] at h
    rcases h with rfl | rfl <;> rw [ofNat_toNat_of_lt (by omega)] <;> omega
  rw [if_neg h2] at h
  by_cases h3 : v ≤ 65535
  · rw [if_pos h3] at h
    simp only [List.mem_cons, List.not_mem_nil, or_false] at h
    rcases h with rfl | rfl | rfl <;> rw [ofNat_toNat_of_lt (by omega)] <;> omega
  · rw [if_neg h3] at h
    simp only [List.mem_cons, List.not_mem_nil, or_false] at h
    rcases h with rfl | rfl | rfl | rfl <;> rw [ofNat_toNat_of_lt (by omega)] <;> omega

/-! ## Texts -/

theorem decodeLossy_encode (cs : List Char) : decodeLossy (encode cs) = cs := by
  induction cs with
  | nil => rw [encode, List.flatMap_nil, decodeLossy]
  | cons ch cs ih =>
    obtain ⟨lead, more, henc, hnext⟩ := next_encodeChar ch (encode cs)
    have hcons : encode (ch :: cs) = lead :: (more ++ encode cs) := by
      rw [encode, List.flatMap_cons, henc, List.cons_append]
      rfl
    rw [hcons, decodeLossy, hnext]
    simp only [List.drop_left, ih]

end Utf8

theorem Bytes.toText_ofText (s : String) : (Bytes.ofText s).toText = s := by
  rw [Bytes.toText, Bytes.ofText, Utf8.decodeLossy_encode, String.ofList_toList]

end Conformance
