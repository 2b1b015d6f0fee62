import Conformance.Proofs.Text.Utf8
import Mathlib.Data.List.Infix
import Mathlib.Tactic.SplitIfs

/-!
# Texts that are cut at an octet

A text may be cut inside a character. The complete characters before the cut are found, and nothing
else is taken for a text.

* `Lead`, `lead` : what the first octet of a sequence says about the others;
* `next_append` : what is read depends on further octets only where a character is cut off;
* `encodeChar_of_next` : a character that is read is written as its octets;
* `exists_encodeChar_of_cut` : a character that is cut off can be completed;
* `Complete` : the longest text whose octets stand at the start;
* `decodeCut?_eq_some_iff` : it is found exactly in the starts of texts;
* `exists_decodeCut?_take` : so a text that is cut anywhere is decoded up to the cut.
-/

namespace Conformance.Utf8

variable {a b c d lo hi : UInt8} {r s : Bytes} {ch : Char} {extra v : Nat} {bs : Bytes}
  {cs text other : List Char}

/-! ## The lead octet -/

/-- What a first octet says: how many octets follow, and in which range the second one lies. -/
inductive Lead (a : UInt8) : Prop
  | one (range : a.toNat < 0x80) (next_eq : ∀ r, next a r = .char (Char.ofNat a.toNat) 0)
  | two (range : 0xC2 ≤ a.toNat ∧ a.toNat < 0xE0) (next_eq : ∀ r, next a r = nextTwo a r)
  | three {lo hi : UInt8} (range : 0xE0 ≤ a.toNat ∧ a.toNat < 0xF0)
    (second : 0x80 ≤ lo.toNat ∧ lo.toNat ≤ hi.toNat ∧ hi.toNat ≤ 0xBF)
    (not_overlong : a.toNat = 0xE0 → 0xA0 ≤ lo.toNat)
    (not_surrogate : a.toNat = 0xED → hi.toNat ≤ 0x9F)
    (next_eq : ∀ r, next a r = nextThree a lo hi r)
  | four {lo hi : UInt8} (range : 0xF0 ≤ a.toNat ∧ a.toNat ≤ 0xF4)
    (second : 0x80 ≤ lo.toNat ∧ lo.toNat ≤ hi.toNat ∧ hi.toNat ≤ 0xBF)
    (not_overlong : a.toNat = 0xF0 → 0x90 ≤ lo.toNat)
    (not_above : a.toNat = 0xF4 → hi.toNat ≤ 0x8F)
    (next_eq : ∀ r, next a r = nextFour a lo hi r)
  | none (next_eq : ∀ r, next a r = .broken 0)

theorem lead (a : UInt8) : Lead a := by
  by_cases hone : a.toNat < 0x80
  · exact .one hone fun r => next_one rfl (by omega)
  by_cases htail : a.toNat < 0xC2
  · refine .none fun r => ?_
    simp only [next, UInt8.lt_iff_toNat_lt, UInt8.reduceToNat]
    rw [if_neg hone, if_pos htail]
  by_cases htwo : a.toNat < 0xE0
  · exact .two ⟨by omega, htwo⟩ fun r => next_eq_nextTwo (by omega) htwo
  by_cases hthree : a.toNat < 0xF0
  · refine .three ⟨by omega, hthree⟩ ?_ ?_ ?_ fun r => next_eq_nextThree (by omega) hthree
    · split_ifs <;> simp only [UInt8.reduceToNat] <;> omega
    · intro h
      rw [if_pos h]
      decide
    · intro h
      rw [if_pos h]
      decide
  by_cases hfour : a.toNat ≤ 0xF4
  · refine .four ⟨by omega, hfour⟩ ?_ ?_ ?_ fun r => next_eq_nextFour (by omega) hfour
    · split_ifs <;> simp only [UInt8.reduceToNat] <;> omega
    · intro h
      rw [if_pos h]
      decide
    · intro h
      rw [if_pos h]
      decide
  · refine .none fun r => ?_
    simp only [next, UInt8.lt_iff_toNat_lt, beq_iff_eq, ← UInt8.toNat_inj, UInt8.reduceToNat]
    rw [if_neg (by omega), if_neg (by omega), if_neg (by omega), if_neg (by omega), if_neg (by omega),
      if_neg (by omega), if_neg (by omega), if_neg (by omega), if_neg (by omega)]

/-! ## Further octets -/

theorem nextTwo_append (h : nextTwo a r ≠ .cut) (s : Bytes) : nextTwo a (r ++ s) = nextTwo a r := by
  rcases r with _ | ⟨b, r⟩
  · exact absurd rfl h
  · rfl

theorem nextThree_append (h : nextThree a lo hi r ≠ .cut) (s : Bytes) :
    nextThree a lo hi (r ++ s) = nextThree a lo hi r := by
  rcases r with _ | ⟨b, _ | ⟨c, r⟩⟩
  · exact absurd rfl h
  · by_cases hb : (lo ≤ b && b ≤ hi) = true
    · exact absurd (if_pos hb) h
    · simp only [List.singleton_append, nextThree, if_neg hb]
  · rfl

theorem nextFour_append (h : nextFour a lo hi r ≠ .cut) (s : Bytes) :
    nextFour a lo hi (r ++ s) = nextFour a lo hi r := by
  rcases r with _ | ⟨b, _ | ⟨c, _ | ⟨d, r⟩⟩⟩
  · exact absurd rfl h
  · by_cases hb : (lo ≤ b && b ≤ hi) = true
    · exact absurd (if_pos hb) h
    · simp only [List.singleton_append, nextFour, if_neg hb]
  · by_cases hb : (lo ≤ b && b ≤ hi) = true
    · by_cases hc : isTail c = true
      · exact absurd ((if_pos hb).trans (if_pos hc)) h
      · simp only [List.cons_append, List.nil_append, nextFour, if_pos hb, if_neg hc]
    · simp only [List.cons_append, List.nil_append, nextFour, if_neg hb]
  · rfl

/-- Only a character that is cut off depends on further octets. -/
theorem next_append (h : next a r ≠ .cut) (s : Bytes) : next a (r ++ s) = next a r := by
  cases lead a with
  | one range next_eq => rw [next_eq, next_eq]
  | two range next_eq =>
    rw [next_eq] at h
    rw [next_eq, next_eq, nextTwo_append h]
  | three range second not_overlong not_surrogate next_eq =>
    rw [next_eq] at h
    rw [next_eq, next_eq, nextThree_append h]
  | four range second not_overlong not_above next_eq =>
    rw [next_eq] at h
    rw [next_eq, next_eq, nextFour_append h]
  | none next_eq => rw [next_eq, next_eq]

theorem isTail_least : isTail 0x80 = true := by decide

theorem nextTwo_complete (h : nextTwo a r = .cut) :
    ∃ s ch, nextTwo a (r ++ s) = .char ch (r ++ s).length := by
  rcases r with _ | ⟨b, r⟩
  · refine ⟨[0x80], Char.ofNat (a.toNat % 32 * 64 + payload 0x80), ?_⟩
    rw [List.nil_append, nextTwo, if_pos isTail_least]
    rfl
  · rw [nextTwo] at h
    split_ifs at h

theorem nextThree_complete (hsecond : lo.toNat ≤ hi.toNat) (h : nextThree a lo hi r = .cut) :
    ∃ s ch, nextThree a lo hi (r ++ s) = .char ch (r ++ s).length := by
  have hlo : (lo ≤ lo && lo ≤ hi) = true := by
    simp [UInt8.le_iff_toNat_le, hsecond]
  rcases r with _ | ⟨b, _ | ⟨c, r⟩⟩
  · exact ⟨[lo, 0x80], _, (if_pos hlo).trans (if_pos isTail_least)⟩
  · by_cases hb : (lo ≤ b && b ≤ hi) = true
    · exact ⟨[0x80], _, (if_pos hb).trans (if_pos isTail_least)⟩
    · rw [nextThree, if_neg hb] at h
      cases h
  · simp only [nextThree] at h
    split_ifs at h

theorem nextFour_complete (hsecond : lo.toNat ≤ hi.toNat) (h : nextFour a lo hi r = .cut) :
    ∃ s ch, nextFour a lo hi (r ++ s) = .char ch (r ++ s).length := by
  have hlo : (lo ≤ lo && lo ≤ hi) = true := by
    simp [UInt8.le_iff_toNat_le, hsecond]
  have htail := isTail_least
  rcases r with _ | ⟨b, _ | ⟨c, _ | ⟨d, r⟩⟩⟩
  · exact ⟨[lo, 0x80, 0x80], _, (if_pos hlo).trans ((if_pos htail).trans (if_pos htail))⟩
  · by_cases hb : (lo ≤ b && b ≤ hi) = true
    · exact ⟨[0x80, 0x80], _, (if_pos hb).trans ((if_pos htail).trans (if_pos htail))⟩
    · rw [nextFour, if_neg hb] at h
      cases h
  · by_cases hb : (lo ≤ b && b ≤ hi) = true
    · by_cases hc : isTail c = true
      · exact ⟨[0x80], _, (if_pos hb).trans ((if_pos hc).trans (if_pos htail))⟩
      · simp only [nextFour, if_pos hb, if_neg hc] at h
        cases h
    · rw [nextFour, if_neg hb] at h
      cases h
  · simp only [nextFour] at h
    split_ifs at h

/-! ## The octets of a character that is read -/

theorem toNat_val_ofNat (h : v < 0xD800 ∨ 0xDFFF < v ∧ v < 0x110000) :
    (Char.ofNat v).val.toNat = v := by
  have hvalid : v.isValidChar := h
  rw [Char.ofNat, dif_pos hvalid]
  rfl

theorem ofNat_eq_of_toNat {n : Nat} (h : a.toNat = n) : UInt8.ofNat n = a := by
  rw [← h, UInt8.ofNat_toNat]

theorem toNat_of_isTail (h : isTail b = true) : 0x80 ≤ b.toNat ∧ b.toNat ≤ 0xBF := by
  simpa [isTail, UInt8.le_iff_toNat_le] using h

theorem toNat_of_range (h : (lo ≤ b && b ≤ hi) = true) :
    lo.toNat ≤ b.toNat ∧ b.toNat ≤ hi.toNat := by
  simpa [UInt8.le_iff_toNat_le] using h

theorem encodeChar_one (ha : a.toNat < 0x80) :
    String.utf8EncodeChar (Char.ofNat a.toNat) = [a] := by
  rw [String.utf8EncodeChar.eq_1, toNat_val_ofNat (by omega), if_pos (by omega), UInt8.ofNat_toNat]

theorem encodeChar_two (ha : 0xC2 ≤ a.toNat ∧ a.toNat < 0xE0) (hb : isTail b = true) :
    String.utf8EncodeChar (Char.ofNat (a.toNat % 32 * 64 + payload b)) = [a, b] := by
  have hb := toNat_of_isTail hb
  unfold payload
  rw [String.utf8EncodeChar.eq_1, toNat_val_ofNat (by omega), if_neg (by omega), if_pos (by omega),
    ofNat_eq_of_toNat (a := a) (by omega), ofNat_eq_of_toNat (a := b) (by omega)]

theorem encodeChar_three (ha : 0xE0 ≤ a.toNat ∧ a.toNat < 0xF0)
    (hb : 0x80 ≤ b.toNat ∧ b.toNat ≤ 0xBF) (hoverlong : a.toNat = 0xE0 → 0xA0 ≤ b.toNat)
    (hsurrogate : a.toNat = 0xED → b.toNat ≤ 0x9F) (hc : isTail c = true) :
    String.utf8EncodeChar (Char.ofNat ((a.toNat % 16 * 64 + payload b) * 64 + payload c)) =
      [a, b, c] := by
  have hc := toNat_of_isTail hc
  unfold payload
  rw [String.utf8EncodeChar.eq_1, toNat_val_ofNat (by omega), if_neg (by omega), if_neg (by omega),
    if_pos (by omega), ofNat_eq_of_toNat (a := a) (by omega), ofNat_eq_of_toNat (a := b) (by omega),
    ofNat_eq_of_toNat (a := c) (by omega)]

theorem encodeChar_four (ha : 0xF0 ≤ a.toNat ∧ a.toNat ≤ 0xF4)
    (hb : 0x80 ≤ b.toNat ∧ b.toNat ≤ 0xBF) (hoverlong : a.toNat = 0xF0 → 0x90 ≤ b.toNat)
    (habove : a.toNat = 0xF4 → b.toNat ≤ 0x8F) (hc : isTail c = true) (hd : isTail d = true) :
    String.utf8EncodeChar
      (Char.ofNat (((a.toNat % 8 * 64 + payload b) * 64 + payload c) * 64 + payload d)) =
      [a, b, c, d] := by
  have hc := toNat_of_isTail hc
  have hd := toNat_of_isTail hd
  unfold payload
  rw [String.utf8EncodeChar.eq_1, toNat_val_ofNat (by omega), if_neg (by omega), if_neg (by omega),
    if_neg (by omega), ofNat_eq_of_toNat (a := a) (by omega), ofNat_eq_of_toNat (a := b) (by omega),
    ofNat_eq_of_toNat (a := c) (by omega), ofNat_eq_of_toNat (a := d) (by omega)]

theorem exists_of_nextTwo (h : nextTwo a r = .char ch extra) :
    ∃ b r', r = b :: r' ∧ isTail b = true ∧ extra = 1 ∧
      ch = Char.ofNat (a.toNat % 32 * 64 + payload b) := by
  unfold nextTwo at h
  split at h
  · cases h
  · split_ifs at h with hb
    cases h
    exact ⟨_, _, rfl, hb, rfl, rfl⟩

theorem exists_of_nextThree (h : nextThree a lo hi r = .char ch extra) :
    ∃ b c r', r = b :: c :: r' ∧ (lo ≤ b && b ≤ hi) = true ∧ isTail c = true ∧ extra = 2 ∧
      ch = Char.ofNat ((a.toNat % 16 * 64 + payload b) * 64 + payload c) := by
  unfold nextThree at h
  split at h
  · cases h
  · split_ifs at h with hb
    split at h
    · cases h
    · split_ifs at h with hc
      cases h
      exact ⟨_, _, _, rfl, hb, hc, rfl, rfl⟩

theorem exists_of_nextFour (h : nextFour a lo hi r = .char ch extra) :
    ∃ b c d r', r = b :: c :: d :: r' ∧ (lo ≤ b && b ≤ hi) = true ∧ isTail c = true ∧
      isTail d = true ∧ extra = 3 ∧
      ch = Char.ofNat (((a.toNat % 8 * 64 + payload b) * 64 + payload c) * 64 + payload d) := by
  unfold nextFour at h
  split at h
  · cases h
  · split_ifs at h with hb
    split at h
    · cases h
    · split_ifs at h with hc
      split at h
      · cases h
      · split_ifs at h with hd
        cases h
        exact ⟨_, _, _, _, rfl, hb, hc, hd, rfl, rfl⟩

/-- A character that is read is written as the octets it was read from. -/
theorem encodeChar_of_next (h : next a r = .char ch extra) :
    a :: r = String.utf8EncodeChar ch ++ r.drop extra := by
  cases lead a with
  | one range next_eq =>
    rw [next_eq] at h
    cases h
    rw [encodeChar_one range]
    rfl
  | two range next_eq =>
    rw [next_eq] at h
    obtain ⟨b, r, rfl, hb, rfl, rfl⟩ := exists_of_nextTwo h
    rw [encodeChar_two range hb]
    rfl
  | three range second not_overlong not_surrogate next_eq =>
    rw [next_eq] at h
    obtain ⟨b, c, r, rfl, hb, hc, rfl, rfl⟩ := exists_of_nextThree h
    have hb := toNat_of_range hb
    rw [encodeChar_three range (by omega) (by omega) (by omega) hc]
    rfl
  | four range second not_overlong not_above next_eq =>
    rw [next_eq] at h
    obtain ⟨b, c, d, r, rfl, hb, hc, hd, rfl, rfl⟩ := exists_of_nextFour h
    have hb := toNat_of_range hb
    rw [encodeChar_four range (by omega) (by omega) (by omega) hc hd]
    rfl
  | none next_eq =>
    rw [next_eq] at h
    cases h

/-- What is cut off is the start of a character. -/
theorem exists_encodeChar_of_cut (h : next a r = .cut) :
    ∃ ch, a :: r <+: String.utf8EncodeChar ch := by
  obtain ⟨s, ch, hnext⟩ : ∃ s ch, next a (r ++ s) = .char ch (r ++ s).length := by
    cases lead a with
    | one range next_eq =>
      rw [next_eq] at h
      cases h
    | two range next_eq =>
      rw [next_eq] at h
      simpa only [next_eq] using nextTwo_complete h
    | three range second not_overlong not_surrogate next_eq =>
      rw [next_eq] at h
      simpa only [next_eq] using nextThree_complete second.2.1 h
    | four range second not_overlong not_above next_eq =>
      rw [next_eq] at h
      simpa only [next_eq] using nextFour_complete second.2.1 h
    | none next_eq =>
      rw [next_eq] at h
      cases h
  have hoctets := encodeChar_of_next hnext
  rw [List.drop_length, List.append_nil] at hoctets
  exact ⟨ch, s, hoctets⟩

/-! ## Texts -/

theorem encode_cons (ch : Char) (cs : List Char) :
    encode (ch :: cs) = String.utf8EncodeChar ch ++ encode cs :=
  List.flatMap_cons

/-- The first character of a text is read off its octets, and the others stand behind. -/
theorem exists_next_of_encode (ch : Char) (cs : List Char) (s : Bytes) :
    ∃ a r extra, encode (ch :: cs) ++ s = a :: r ∧ next a r = .char ch extra ∧
      r.drop extra = encode cs ++ s := by
  obtain ⟨a, more, henc, hnext⟩ := next_encodeChar ch (encode cs ++ s)
  refine ⟨a, more ++ (encode cs ++ s), more.length, ?_, hnext, List.drop_left⟩
  rw [encode_cons, henc, List.append_assoc, List.cons_append]

theorem next_of_prefix (h : encode (ch :: cs) <+: a :: r) :
    ∃ extra, next a r = .char ch extra ∧ encode cs <+: r.drop extra := by
  obtain ⟨s, hs⟩ := h
  obtain ⟨a', r', extra, hoctets, hnext, hrest⟩ := exists_next_of_encode ch cs s
  obtain ⟨rfl, rfl⟩ := List.cons.inj (hoctets.symm.trans hs)
  exact ⟨extra, hnext, s, hrest.symm⟩

/-- The complete characters of octets: the longest text whose octets stand at the start. -/
structure Complete (bs : Bytes) (text : List Char) : Prop where
  starts : encode text <+: bs
  longest : ∀ other, encode other <+: bs → other <+: text

theorem Complete.unique (h : Complete bs text) (h' : Complete bs other) : text = other :=
  (h'.longest text h.starts).eq_of_length_le (h.longest other h'.starts).length_le

theorem complete_nil : Complete [] [] where
  starts := List.prefix_rfl
  longest other h := by
    cases other with
    | nil => exact List.prefix_rfl
    | cons ch other =>
      obtain ⟨a, more, henc, -⟩ := next_encodeChar ch []
      rw [encode_cons, henc] at h
      exact absurd (List.prefix_nil.mp h) nofun

theorem Complete.cons (h : Complete (r.drop extra) text) (hnext : next a r = .char ch extra) :
    Complete (a :: r) (ch :: text) where
  starts := by
    rw [encodeChar_of_next hnext, encode_cons]
    exact (List.prefix_append_right_inj _).mpr h.starts
  longest other hother := by
    cases other with
    | nil => exact List.nil_prefix
    | cons ch' other =>
      obtain ⟨extra', hnext', hrest⟩ := next_of_prefix hother
      rw [hnext] at hnext'
      cases hnext'
      exact List.cons_prefix_cons.mpr ⟨rfl, h.longest other hrest⟩

theorem complete_of_cut (hnext : next a r = .cut) : Complete (a :: r) [] where
  starts := List.nil_prefix
  longest other hother := by
    cases other with
    | nil => exact List.prefix_rfl
    | cons ch other =>
      obtain ⟨extra, hnext', -⟩ := next_of_prefix hother
      rw [hnext] at hnext'
      cases hnext'

/-- What is decoded is the start of a text, and it is decoded to its complete characters. -/
theorem complete_of_decodeCut? (h : decodeCut? bs = some text) :
    (∃ cs, bs <+: encode cs) ∧ Complete bs text := by
  fun_induction decodeCut? bs generalizing text with
  | case1 =>
    cases h
    exact ⟨⟨[], List.prefix_rfl⟩, complete_nil⟩
  | case2 a r ch extra hnext ih =>
    obtain ⟨rest, hrest, rfl⟩ := Option.map_eq_some_iff.mp h
    obtain ⟨⟨cs, hcs⟩, hcomplete⟩ := ih hrest
    refine ⟨⟨ch :: cs, ?_⟩, hcomplete.cons hnext⟩
    rw [encodeChar_of_next hnext, encode_cons]
    exact (List.prefix_append_right_inj _).mpr hcs
  | case3 a r extra hnext => cases h
  | case4 a r hnext =>
    cases h
    obtain ⟨ch, hch⟩ := exists_encodeChar_of_cut hnext
    refine ⟨⟨[ch], ?_⟩, complete_of_cut hnext⟩
    rw [encode_cons]
    exact hch.trans (List.prefix_append _ _)

/-- In the start of a text, what is not cut off is a character of the text. -/
theorem exists_next_of_prefix (h : a :: r <+: encode cs) (hcut : next a r ≠ .cut) :
    ∃ ch rest extra, next a r = .char ch extra ∧ r.drop extra <+: encode rest := by
  obtain ⟨s, hs⟩ := h
  cases cs with
  | nil => cases hs
  | cons ch rest =>
    obtain ⟨a', r', extra, hoctets, hnext, hrest⟩ := exists_next_of_encode ch rest []
    rw [List.append_nil, ← hs, List.cons_append] at hoctets
    obtain ⟨rfl, rfl⟩ := List.cons.inj hoctets
    rw [next_append hcut] at hnext
    refine ⟨ch, rest, extra, hnext, ?_⟩
    have hdrop := List.IsPrefix.drop (List.prefix_append r s) extra
    rwa [hrest, List.append_nil] at hdrop

/-- The start of a text is decoded. -/
theorem exists_decodeCut?_of_prefix (h : bs <+: encode cs) : ∃ text, decodeCut? bs = some text := by
  fun_induction decodeCut? bs generalizing cs with
  | case1 => exact ⟨[], rfl⟩
  | case2 a r ch extra hnext ih =>
    obtain ⟨ch', rest, extra', hnext', hrest⟩ := exists_next_of_prefix h (by rw [hnext]; nofun)
    rw [hnext] at hnext'
    cases hnext'
    obtain ⟨text, htext⟩ := ih hrest
    exact ⟨ch :: text, by rw [htext]; rfl⟩
  | case3 a r extra hnext =>
    obtain ⟨ch', rest, extra', hnext', -⟩ := exists_next_of_prefix h (by rw [hnext]; nofun)
    rw [hnext] at hnext'
    cases hnext'
  | case4 a r hnext => exact ⟨[], rfl⟩

/-- **Exactly the starts of texts are decoded**, to their complete characters. -/
theorem decodeCut?_eq_some_iff :
    decodeCut? bs = some text ↔ (∃ cs, bs <+: encode cs) ∧ Complete bs text := by
  refine ⟨complete_of_decodeCut?, fun ⟨⟨cs, hcs⟩, hcomplete⟩ => ?_⟩
  obtain ⟨found, hfound⟩ := exists_decodeCut?_of_prefix hcs
  rw [hfound, (complete_of_decodeCut? hfound).2.unique hcomplete]

theorem prefix_of_encode_prefix (h : encode text <+: encode cs) : text <+: cs := by
  induction text generalizing cs with
  | nil => exact List.nil_prefix
  | cons ch text ih =>
    cases cs with
    | nil =>
      obtain ⟨a, more, henc, -⟩ := next_encodeChar ch []
      rw [encode_cons, henc] at h
      exact absurd (List.prefix_nil.mp h) nofun
    | cons ch' cs =>
      obtain ⟨a, r, extra, hoctets, hnext, hrest⟩ := exists_next_of_encode ch' cs []
      rw [List.append_nil] at hoctets hrest
      rw [hoctets] at h
      obtain ⟨extra', hnext', htext⟩ := next_of_prefix h
      rw [hnext] at hnext'
      cases hnext'
      rw [hrest] at htext
      exact List.cons_prefix_cons.mpr ⟨rfl, ih htext⟩

/-- **A text may be cut anywhere**: the characters before the cut are decoded. -/
theorem exists_decodeCut?_take (cs : List Char) (n : Nat) : ∃ text,
    decodeCut? ((encode cs).take n) = some text ∧ Complete ((encode cs).take n) text ∧
      text <+: cs := by
  have hstart : (encode cs).take n <+: encode cs := List.take_prefix n _
  obtain ⟨text, htext⟩ := exists_decodeCut?_of_prefix hstart
  have hcomplete := (complete_of_decodeCut? htext).2
  exact ⟨text, htext, hcomplete, prefix_of_encode_prefix (hcomplete.starts.trans hstart)⟩

end Conformance.Utf8
