import Conformance.Artifact.Sniff
import Mathlib.Tactic.SplitIfs

/-!
# Sniffing a file by its leading bytes

A file is classified by a window of `sniffLength` bytes and by the mark of a PE header behind it. The
window sees all that the first bytes decide:

* `sniffMagic?_take`, `peOffset?_take`, `sniffIrText?_take` : what a window decides as the whole does;
* `hasPeAt_take`, `hasPeAt_take_of_lt` : the mark of a PE header, inside the window and behind it;
* `ShadowedPe` : an image with its mark behind a window that reads as a textual module;
* `ofFile_eq_ofBytes_iff` : the two classifications agree on everything but a shadowed image.
-/

namespace Conformance.Classification

variable {bs : Bytes} {n o : Nat}

/-! ## What the first bytes decide -/

theorem universal?_take (bigFirst : Bool) (bs : Bytes) (h : 4 ≤ n) :
    universal? bigFirst (bs.take n) = universal? bigFirst bs := by
  obtain ⟨m, rfl⟩ : ∃ m, n = m + 4 := ⟨n - 4, by omega⟩
  rcases bs with _ | ⟨p, _ | ⟨q, _ | ⟨r, _ | ⟨s, rest⟩⟩⟩⟩ <;> simp [universal?]

theorem sniffMagic?_take (bs : Bytes) (h : 8 ≤ n) : sniffMagic? (bs.take n) = sniffMagic? bs := by
  obtain ⟨m, rfl⟩ : ∃ m, n = m + 4 := ⟨n - 4, by omega⟩
  rcases bs with _ | ⟨p, _ | ⟨q, _ | ⟨r, _ | ⟨s, rest⟩⟩⟩⟩ <;>
    simp [sniffMagic?, universal?_take _ _ (show 4 ≤ m by omega)]

/-! ## The announced PE header -/

/-- A PE header is announced by the first two bytes and the four bytes of a field. -/
theorem peOffset?_eq_some_iff : peOffset? bs = some o ↔ bs.take 2 = [0x4D, 0x5A] ∧
    ∃ p q r s, (bs.drop peFieldOffset).take 4 = [p, q, r, s] ∧ o = bigEndian s r q p ∧
      peFieldOffset + 4 ≤ o := by
  constructor
  · intro h
    unfold peOffset? at h
    split at h
    · split at h
      · rename_i p q r s tail hd
        simp only [Option.ite_none_right_eq_some, Option.some.injEq] at h
        exact ⟨rfl, p, q, r, s, by rw [hd]; rfl, h.2.symm, h.2 ▸ h.1⟩
      · cases h
    · cases h
  · rintro ⟨hm, p, q, r, s, hf, rfl, hle⟩
    obtain ⟨rest, rfl⟩ : ∃ rest, bs = 0x4D :: 0x5A :: rest :=
      ⟨bs.drop 2, by rw [← List.take_append_drop 2 bs, hm]; rfl⟩
    obtain ⟨tail, ht⟩ : ∃ tail, (0x4D :: 0x5A :: rest : Bytes).drop peFieldOffset
        = p :: q :: r :: s :: tail :=
      ⟨_, by rw [← List.take_append_drop 4 (List.drop _ _), hf]; rfl⟩
    unfold peOffset?
    simp only [ht, hle, if_true]

theorem peOffset?_take (bs : Bytes) (h : peFieldOffset + 4 ≤ n) :
    peOffset? (bs.take n) = peOffset? bs := by
  have hmark : (bs.take n).take 2 = bs.take 2 := by
    rw [List.take_take, Nat.min_eq_left (by unfold peFieldOffset at h; omega)]
  have hfield : ((bs.take n).drop peFieldOffset).take 4 = (bs.drop peFieldOffset).take 4 := by
    rw [List.drop_take, List.take_take, Nat.min_eq_left (by omega)]
  ext o
  rw [peOffset?_eq_some_iff, peOffset?_eq_some_iff, hmark, hfield]

/-- No other format starts with the mark of a DOS header. -/
theorem sniffMagic?_of_peOffset? (h : peOffset? bs = some o) : sniffMagic? bs = none := by
  obtain ⟨hm, -⟩ := peOffset?_eq_some_iff.mp h
  obtain ⟨rest, rfl⟩ : ∃ rest, bs = 0x4D :: 0x5A :: rest :=
    ⟨bs.drop 2, by rw [← List.take_append_drop 2 bs, hm]; rfl⟩
  rcases rest with _ | ⟨r, _ | ⟨s, rest⟩⟩
  · rfl
  · rfl
  · have hr := r.toNat_lt
    have hs := s.toNat_lt
    have hmagic : bigEndian 0x4D 0x5A r s = 0x4D5A * 65536 + r.toNat * 256 + s.toNat := by
      simp only [bigEndian, UInt8.reduceToNat]
      omega
    simp only [sniffMagic?, hmagic]
    rw [if_neg (by omega), if_neg (by omega), if_neg (by omega), if_neg (by omega),
      if_neg (by omega)]

/-! ## The mark of a PE header -/

theorem length_of_hasPeAt (h : hasPeAt bs o = true) : o + 4 ≤ bs.length := by
  have hl := congrArg List.length (eq_of_beq h)
  simp only [List.length_take, List.length_drop, peSignature, List.length_cons,
    List.length_nil] at hl
  omega

theorem hasPeAt_take (bs : Bytes) (h : o + 4 ≤ n) : hasPeAt (bs.take n) o = hasPeAt bs o := by
  unfold hasPeAt
  rw [List.drop_take, List.take_take, Nat.min_eq_left (by omega)]

theorem hasPeAt_take_of_lt (bs : Bytes) (h : n < o + 4) : hasPeAt (bs.take n) o = false := by
  refine Bool.eq_false_iff.mpr fun hp => ?_
  have hl := length_of_hasPeAt hp
  rw [List.length_take] at hl
  omega

/-! ## The text of a window -/

theorem sniffIrText?_take (bs : Bytes) : sniffIrText? (bs.take sniffLength) = sniffIrText? bs := by
  unfold sniffIrText?
  rw [List.take_take, Nat.min_self]

theorem sniffIrText?_eq_some {kind : ArtifactKind} (h : sniffIrText? bs = some kind) :
    kind = .llvmIrText ∧ (0 : UInt8) ∉ bs.take sniffLength := by
  simp only [sniffIrText?] at h
  split at h
  · cases h
  · rename_i hz
    refine ⟨?_, by simpa using hz⟩
    split at h
    · split_ifs at h
      exact (Option.some.inj h).symm
    · cases h

/-! ## The two classifications -/

/-- The format of bytes that announce a PE header: its mark goes before a text. -/
theorem ofBytes_of_peOffset? (h : peOffset? bs = some o) :
    ofBytes bs = ⟨if hasPeAt bs o then .pe else (sniffIrText? bs).getD .unknown, false⟩ := by
  have hne : bs.isEmpty = false := by
    cases bs with
    | nil => cases h
    | cons b rest => rfl
  unfold ofBytes sniffPe?
  simp only [hne, sniffMagic?_of_peOffset? h, h]
  cases hasPeAt bs o <;> simp [Option.orElse]

/-- Without an announced PE header, the window has the format of the whole. -/
theorem ofBytes_take_of_peOffset?_eq_none (h : peOffset? bs = none) :
    ofBytes (bs.take sniffLength) = ofBytes bs := by
  have hpe : sniffPe? (bs.take sniffLength) = sniffPe? bs := by
    unfold sniffPe?
    rw [peOffset?_take _ (by decide), h]
  have hempty : (bs.take sniffLength).isEmpty = bs.isEmpty := by
    cases bs <;> rfl
  unfold ofBytes
  rw [sniffMagic?_take _ (by decide), hpe, sniffIrText?_take, hempty]

/-- A file that announces no PE header. -/
theorem ofFile_of_peOffset?_eq_none (h : peOffset? bs = none) : ofFile bs = ofBytes bs := by
  simp only [ofFile, peOffset?_take bs (show peFieldOffset + 4 ≤ sniffLength by decide), h,
    ofBytes_take_of_peOffset?_eq_none h, ite_self]

/-- A file whose PE mark would lie inside the window. -/
theorem ofFile_of_le (h : peOffset? bs = some o) (ho : o + 4 ≤ sniffLength) :
    ofFile bs = ofBytes bs := by
  have hw : peOffset? (bs.take sniffLength) = some o := (peOffset?_take bs (by decide)).trans h
  have hfound : ofBytes (bs.take sniffLength) = ofBytes bs := by
    rw [ofBytes_of_peOffset? hw, ofBytes_of_peOffset? h, hasPeAt_take _ ho, sniffIrText?_take]
  have hbytes := ofBytes_of_peOffset? h
  simp only [ofFile, hw, hfound]
  split_ifs with hknown hmark
  · rfl
  · -- a mark inside the window has been found already
    rw [hbytes, hmark.2] at hknown
    simp at hknown
  · rfl

/-- A file whose PE mark would lie behind the window: a text in the window goes before the mark. -/
theorem ofFile_of_lt (h : peOffset? bs = some o) (ho : sniffLength < o + 4) :
    ofFile bs =
      ⟨(sniffIrText? bs).getD (if hasPeAt bs o then .pe else .unknown), false⟩ := by
  have hw : peOffset? (bs.take sniffLength) = some o := (peOffset?_take bs (by decide)).trans h
  have hfound : ofBytes (bs.take sniffLength) = ⟨(sniffIrText? bs).getD .unknown, false⟩ := by
    rw [ofBytes_of_peOffset? hw, hasPeAt_take_of_lt _ ho, sniffIrText?_take]
    rfl
  have hlen : min sniffLength bs.length < o + 4 := Nat.lt_of_le_of_lt (Nat.min_le_left _ _) ho
  simp only [ofFile, hw, hfound]
  cases htext : sniffIrText? bs with
  | some kind =>
    obtain ⟨rfl, -⟩ := sniffIrText?_eq_some htext
    simp
  | none => cases hasPeAt bs o <;> simp [hlen]

/-- An image whose PE mark stands behind a window that reads as a textual module. -/
def ShadowedPe (bs : Bytes) : Prop :=
  ∃ o, peOffset? bs = some o ∧ sniffLength < o + 4 ∧ hasPeAt bs o = true ∧
    sniffIrText? bs = some .llvmIrText

theorem ShadowedPe.ofFile (h : ShadowedPe bs) : ofFile bs = ⟨.llvmIrText, false⟩ := by
  obtain ⟨o, ho, hlt, -, htext⟩ := h
  rw [ofFile_of_lt ho hlt, htext]
  rfl

theorem ShadowedPe.ofBytes (h : ShadowedPe bs) : ofBytes bs = ⟨.pe, false⟩ := by
  obtain ⟨o, ho, -, hmark, -⟩ := h
  rw [ofBytes_of_peOffset? ho, if_pos hmark]

theorem ofFile_eq_ofBytes_of_not_shadowedPe (h : ¬ ShadowedPe bs) : ofFile bs = ofBytes bs := by
  cases ho : peOffset? bs with
  | none => exact ofFile_of_peOffset?_eq_none ho
  | some o =>
    by_cases hle : o + 4 ≤ sniffLength
    · exact ofFile_of_le ho hle
    · have hlt : sniffLength < o + 4 := Nat.lt_of_not_le hle
      rw [ofFile_of_lt ho hlt, ofBytes_of_peOffset? ho]
      cases hmark : hasPeAt bs o with
      | false => rfl
      | true =>
        cases htext : sniffIrText? bs with
        | none => rfl
        | some kind =>
          obtain ⟨rfl, -⟩ := sniffIrText?_eq_some htext
          exact absurd ⟨o, ho, hlt, hmark, htext⟩ h

/-- The four bytes of the field are among those of the window, and none of them is zero, so that a
shadowed image is longer than sixteen million bytes. -/
theorem ShadowedPe.length_le (h : ShadowedPe bs) : 16843013 ≤ bs.length := by
  obtain ⟨o, ho, -, hmark, htext⟩ := h
  have hlen := length_of_hasPeAt hmark
  obtain ⟨-, hzero⟩ := sniffIrText?_eq_some htext
  obtain ⟨-, p, q, r, s, hfield, rfl, -⟩ := peOffset?_eq_some_iff.mp ho
  have hpos : ∀ b ∈ [p, q, r, s], 0 < b.toNat := by
    intro b hb
    rw [← hfield] at hb
    have hmem : b ∈ bs.take sniffLength := by
      have hsub : (bs.drop peFieldOffset).take 4 = ((bs.take sniffLength).drop peFieldOffset).take 4 := by
        rw [List.drop_take, List.take_take, Nat.min_eq_left (by decide)]
      rw [hsub] at hb
      exact List.mem_of_mem_drop (List.mem_of_mem_take hb)
    refine Nat.pos_of_ne_zero fun hb0 => hzero ?_
    rwa [← UInt8.toNat_inj.mp (show b.toNat = (0 : UInt8).toNat from hb0)]
  simp only [List.mem_cons, List.not_mem_nil, or_false, forall_eq_or_imp, forall_eq] at hpos
  simp only [bigEndian] at hlen
  omega

/-- **A file is classified as its whole content is**, unless it is a shadowed image: the window then
reads as a text, where the whole content shows the mark of a PE header. -/
theorem ofFile_eq_ofBytes_iff (content : Bytes) :
    (ofFile content = ofBytes content ↔ ¬ ShadowedPe content) ∧
    (ShadowedPe content → ofFile content = ⟨.llvmIrText, false⟩ ∧ ofBytes content = ⟨.pe, false⟩ ∧
      16843013 ≤ content.length) ∧
    (∀ o, peOffset? content = some o → hasPeAt content o = true →
      ((ofFile content).kind = .pe ↔ ¬ ShadowedPe content)) ∧
    ∀ other : Bytes, other.take sniffLength = content.take sniffLength →
      (∀ o, peOffset? content = some o → (other.drop o).take 4 = (content.drop o).take 4) →
      ofFile other = ofFile content := by
  refine ⟨⟨fun heq hs => ?_, ofFile_eq_ofBytes_of_not_shadowedPe⟩,
    fun hs => ⟨hs.ofFile, hs.ofBytes, hs.length_le⟩, fun o ho hmark => ⟨fun hpe hs => ?_, fun hs => ?_⟩,
    fun other hwindow hfield => ?_⟩
  · rw [hs.ofFile, hs.ofBytes] at heq
    cases heq
  · rw [hs.ofFile] at hpe
    cases hpe
  · rw [ofFile_eq_ofBytes_of_not_shadowedPe hs, ofBytes_of_peOffset? ho, if_pos hmark]
  · have hoff : peOffset? other = peOffset? content := by
      rw [← peOffset?_take other (show _ ≤ sniffLength by decide), hwindow, peOffset?_take _ (by decide)]
    cases ho : peOffset? content with
    | none => simp only [ofFile, hwindow, peOffset?_take content (show _ ≤ sniffLength by decide), ho]
    | some o =>
      have hmark : hasPeAt other o = hasPeAt content o := by
        rw [hasPeAt, hasPeAt, hfield o ho]
      simp only [ofFile, hwindow, peOffset?_take content (show _ ≤ sniffLength by decide), ho, hmark]

/-! ## A shadowed image -/

/-- The first bytes of a shadowed image: a DOS header that is a text as well, with a field of four
ones. -/
def shadowingHeader : Bytes :=
  Bytes.ofText "MZ\nsource_filename = \"shadowed.c\"\n" ++ List.replicate 26 0x20 ++ [1, 1, 1, 1]

/-- A shadowed image: blanks up to the announced offset, then the mark. -/
def shadowedImage : Bytes := shadowingHeader ++ (List.replicate 16842945 0x20 ++ peSignature)

/-- Seven-bit octets are their own characters. -/
theorem decodeCut?_of_lt {bs : Bytes} (h : ∀ b ∈ bs, b < 0x80) :
    Utf8.decodeCut? bs = some (bs.map fun b => Char.ofNat b.toNat) := by
  induction bs with
  | nil => rw [Utf8.decodeCut?]; rfl
  | cons b rest ih =>
    have hb : b < 0x80 := h b List.mem_cons_self
    rw [Utf8.decodeCut?]
    simp [Utf8.next, hb, ih fun c hc => h c (List.mem_cons_of_mem _ hc)]

theorem length_shadowingHeader : shadowingHeader.length = 64 := by decide +kernel

theorem peOffset?_shadowedImage : peOffset? shadowedImage = some 16843009 := by
  refine peOffset?_eq_some_iff.mpr ⟨?_, 1, 1, 1, 1, ?_, by decide, by decide⟩
  · rw [shadowedImage, List.take_append_of_le_length (by rw [length_shadowingHeader]; omega)]
    decide +kernel
  · rw [shadowedImage, List.drop_append_of_le_length (by rw [length_shadowingHeader]; decide),
      List.take_append_of_le_length (by rw [List.length_drop, length_shadowingHeader]; decide)]
    decide +kernel

theorem hasPeAt_shadowedImage : hasPeAt shadowedImage 16843009 = true := by
  have hdrop : shadowedImage.drop 16843009 = peSignature := by
    rw [shadowedImage, ← List.append_assoc]
    refine List.drop_left' ?_
    rw [List.length_append, length_shadowingHeader, List.length_replicate]
  rw [hasPeAt, hdrop]
  decide

theorem take_shadowedImage :
    shadowedImage.take sniffLength = shadowingHeader ++ List.replicate 4032 0x20 := by
  rw [shadowedImage, List.take_append, length_shadowingHeader,
    List.take_of_length_le (by rw [length_shadowingHeader]; decide),
    List.take_append_of_le_length (by rw [List.length_replicate]; decide), List.take_replicate]
  rfl

theorem sniffIrText?_shadowedImage : sniffIrText? shadowedImage = some .llvmIrText := by
  have hheader : ∀ b ∈ shadowingHeader, b < 0x80 ∧ b ≠ 0 := by decide +kernel
  have hascii : ∀ b ∈ shadowingHeader ++ List.replicate 4032 0x20, b < 0x80 ∧ b ≠ 0 := by
    intro b hb
    rcases List.mem_append.mp hb with hb | hb
    · exact hheader b hb
    · rw [List.eq_of_mem_replicate hb]
      decide
  have hzero : ¬ (shadowingHeader ++ List.replicate 4032 0x20).contains 0 = true := by
    rw [List.contains_iff_mem]
    exact fun hb => (hascii 0 hb).2 rfl
  have hchars : shadowingHeader.map (fun b => Char.ofNat b.toNat) =
      'M' :: 'Z' :: '\n' :: ("source_filename = \"shadowed.c\"\n".toList ++
        List.replicate 26 ' ' ++ List.replicate 4 '\x01') := by decide +kernel
  simp only [sniffIrText?]
  rw [take_shadowedImage, if_neg hzero, decodeCut?_of_lt fun b hb => (hascii b hb).1,
    List.map_append, hchars]
  rfl

/-- A file can be classified otherwise than its content. -/
theorem ofFile_shadowedImage_ne : ofFile shadowedImage = ⟨.llvmIrText, false⟩ ∧
    ofBytes shadowedImage = ⟨.pe, false⟩ ∧ ofFile shadowedImage ≠ ofBytes shadowedImage := by
  have hs : ShadowedPe shadowedImage :=
    ⟨_, peOffset?_shadowedImage, by decide, hasPeAt_shadowedImage, sniffIrText?_shadowedImage⟩
  refine ⟨hs.ofFile, hs.ofBytes, ?_⟩
  rw [hs.ofFile, hs.ofBytes]
  decide

end Conformance.Classification
