import Conformance.Proofs.Artifact.Window

/-!
# Marks of binary formats

Which bytes have a binary format is told by what stands at their start and, for a PE image, at the
offset that its DOS header announces.

* `value`, `ordered` : the number that bytes denote, and bytes in one of two byte orders;
* `Shows` : what bytes of a binary format have to be;
* `shows_iff` : what sniffing finds is what the bytes show;
* `Shows.append` : further bytes hide nothing;
* `ofBytes_kind_iff_shows` : bytes have a binary format exactly if they show it.
-/

namespace Conformance.Classification

variable {bs : Bytes} {kind : ArtifactKind} {p q r s : UInt8} {o : Nat}

/-! ## Numbers in bytes -/

/-- The number that bytes denote, the most significant first. -/
def value (field : Bytes) : Nat := field.foldl (fun n b => n * 256 + b.toNat) 0

/-- Bytes with the most significant first, or last. -/
def ordered (bigFirst : Bool) (field : Bytes) : Bytes := if bigFirst then field else field.reverse

theorem value_four : value [p, q, r, s] = bigEndian p q r s := by
  simp [value, bigEndian]

theorem bigEndian_inj {p' q' r' s' : UInt8} (h : bigEndian p q r s = bigEndian p' q' r' s') :
    [p, q, r, s] = [p', q', r', s'] := by
  unfold bigEndian at h
  have hp := p.toNat_lt
  have hq := q.toNat_lt
  have hr := r.toNat_lt
  have hs := s.toNat_lt
  have hp' := p'.toNat_lt
  have hq' := q'.toNat_lt
  have hr' := r'.toNat_lt
  have hs' := s'.toNat_lt
  have heq : p.toNat = p'.toNat ∧ q.toNat = q'.toNat ∧ r.toNat = r'.toNat ∧
      s.toNat = s'.toNat := by omega
  rw [UInt8.toNat_inj.mp heq.1, UInt8.toNat_inj.mp heq.2.1, UInt8.toNat_inj.mp heq.2.2.1,
    UInt8.toNat_inj.mp heq.2.2.2]

theorem exists_of_length_four {field : Bytes} (h : field.length = 4) :
    ∃ p q r s, field = [p, q, r, s] := by
  rcases field with _ | ⟨p, _ | ⟨q, _ | ⟨r, _ | ⟨s, _ | ⟨t, field⟩⟩⟩⟩⟩ <;> simp at h
  exact ⟨p, q, r, s, rfl⟩

theorem eq_of_bigEndian {field : Bytes} (hlength : field.length = 4)
    (h : bigEndian p q r s = value field) : [p, q, r, s] = field := by
  obtain ⟨p', q', r', s', rfl⟩ := exists_of_length_four hlength
  rw [value_four] at h
  exact bigEndian_inj h

/-! ## Marks -/

/-- How an ELF image starts. -/
def elfMagic : Bytes := [0x7F, 0x45, 0x4C, 0x46]

/-- How bitcode starts, and how it starts in a wrapper. -/
def bitcodeMagics : List Bytes := [[0x42, 0x43, 0xC0, 0xDE], [0xDE, 0xC0, 0x17, 0x0B]]

/-- How a thin Mach-O image starts, in the order in which the most significant byte is first. -/
def thinMagics : List Bytes := [[0xFE, 0xED, 0xFA, 0xCE], [0xFE, 0xED, 0xFA, 0xCF]]

/-- How a universal container starts, in the order in which the most significant byte is first. -/
def universalMagics : List Bytes := [[0xCA, 0xFE, 0xBA, 0xBE], [0xCA, 0xFE, 0xBA, 0xBF]]

/-- A thin Mach-O image, in one of the byte orders. -/
def IsThin (bs : Bytes) : Prop := ∃ magic ∈ thinMagics, ∃ bigFirst, ordered bigFirst magic <+: bs

/-- A universal container: after the magic stand four bytes that count its slices, in the byte order
of the magic, and the count is plausible. -/
def IsUniversal (bs : Bytes) : Prop :=
  ∃ magic ∈ universalMagics, ∃ bigFirst count, count.length = 4 ∧
    ordered bigFirst magic ++ count <+: bs ∧
    1 ≤ value (ordered bigFirst count) ∧ value (ordered bigFirst count) ≤ 30

/-- A PE image with its header at an offset. -/
structure IsPe (bs : Bytes) (o : Nat) : Prop where
  /-- It starts as a DOS program does. -/
  dos : [0x4D, 0x5A] <+: bs
  /-- The DOS header is complete. -/
  long : 0x40 ≤ bs.length
  /-- Its last four bytes announce the offset, the least significant byte first. -/
  announced : value (ordered false ((bs.drop 0x3C).take 4)) = o
  /-- The offset is behind the DOS header. -/
  behind : 0x40 ≤ o
  /-- The mark is not cut off. -/
  inside : o + 4 ≤ bs.length
  /-- The mark stands at the offset. -/
  mark : (bs.drop o).take 4 = [0x50, 0x45, 0, 0]

/-- What bytes of a binary format have to be. -/
def Shows (bs : Bytes) : ArtifactKind → Prop
  | .elf => elfMagic <+: bs
  | .llvmBitcode => ∃ magic ∈ bitcodeMagics, magic <+: bs
  | .machO => IsThin bs ∨ IsUniversal bs
  | .pe => ∃ o, IsPe bs o
  | .llvmIrText => False
  | .unknown => False

/-! ## What the first four bytes decide -/

theorem universal?_eq_some_iff (bigFirst : Bool) : universal? bigFirst bs = some kind ↔
    kind = .machO ∧ ∃ count, count.length = 4 ∧ count <+: bs ∧
      1 ≤ value (ordered bigFirst count) ∧ value (ordered bigFirst count) ≤ 30 := by
  constructor
  · intro h
    unfold universal? at h
    split at h
    · rename_i p q r s rest
      simp only [Option.ite_none_right_eq_some, Option.some.injEq] at h
      obtain ⟨hcount, rfl⟩ := h
      refine ⟨rfl, [p, q, r, s], rfl, ⟨rest, rfl⟩, ?_⟩
      cases bigFirst <;> simpa [ordered, value_four, maxSlices] using hcount
    · cases h
  · rintro ⟨rfl, count, hlength, ⟨rest, rfl⟩, hcount⟩
    obtain ⟨p, q, r, s, rfl⟩ := exists_of_length_four hlength
    rw [List.cons_append, List.cons_append, List.cons_append, List.cons_append, universal?]
    cases bigFirst <;> simpa [ordered, value_four, maxSlices] using hcount

theorem prefix_of_bigEndian {magic rest : Bytes} (hlength : magic.length = 4)
    (h : bigEndian p q r s = value magic) : magic <+: p :: q :: r :: s :: rest := by
  rw [← eq_of_bigEndian hlength h]
  exact ⟨rest, rfl⟩

theorem shows_of_universal? {magic rest : Bytes} (hmem : magic ∈ universalMagics) (bigFirst : Bool)
    (h : bigEndian p q r s = value (ordered bigFirst magic))
    (hcount : universal? bigFirst rest = some kind) : Shows (p :: q :: r :: s :: rest) kind := by
  obtain ⟨rfl, count, hlength, hprefix, hrange⟩ := (universal?_eq_some_iff bigFirst).mp hcount
  have hfour : ∀ magic ∈ universalMagics, (ordered bigFirst magic).length = 4 := by
    cases bigFirst <;> decide
  refine .inr ⟨magic, hmem, bigFirst, count, hlength, ?_, hrange⟩
  rw [← eq_of_bigEndian (hfour magic hmem) h]
  exact (List.prefix_append_right_inj [p, q, r, s]).mpr hprefix

theorem shows_of_sniffMagic? (h : sniffMagic? bs = some kind) : Shows bs kind := by
  obtain ⟨p, q, r, s, rest, rfl⟩ : ∃ p q r s rest, bs = p :: q :: r :: s :: rest := by
    unfold sniffMagic? at h
    split at h
    · exact ⟨_, _, _, _, _, rfl⟩
    · cases h
  simp only [sniffMagic?] at h
  -- each test names the number of four bytes
  split_ifs at h with helf hbitcode hthin hbig hlittle
  · cases h
    exact prefix_of_bigEndian rfl helf
  · cases h
    rcases hbitcode with heq | heq
    · exact ⟨_, .head _, prefix_of_bigEndian rfl heq⟩
    · exact ⟨_, .tail _ (.head _), prefix_of_bigEndian rfl heq⟩
  · cases h
    rcases hthin with heq | heq | heq | heq
    · exact .inl ⟨_, .head _, true, prefix_of_bigEndian rfl heq⟩
    · exact .inl ⟨_, .head _, false, prefix_of_bigEndian rfl heq⟩
    · exact .inl ⟨_, .tail _ (.head _), true, prefix_of_bigEndian rfl heq⟩
    · exact .inl ⟨_, .tail _ (.head _), false, prefix_of_bigEndian rfl heq⟩
  · rcases hbig with heq | heq
    · exact shows_of_universal? (.head _) true heq h
    · exact shows_of_universal? (.tail _ (.head _)) true heq h
  · rcases hlittle with heq | heq
    · exact shows_of_universal? (.head _) false heq h
    · exact shows_of_universal? (.tail _ (.head _)) false heq h

theorem sniffMagic?_of_shows (h : Shows bs kind) (hpe : kind ≠ .pe) :
    sniffMagic? bs = some kind := by
  have huniversal : ∀ {magic rest : Bytes} (bigFirst : Bool), magic ∈ universalMagics →
      sniffMagic? (ordered bigFirst magic ++ rest) = universal? bigFirst rest := by
    intro magic rest bigFirst hmem
    simp only [universalMagics, List.mem_cons, List.not_mem_nil, or_false] at hmem
    rcases hmem with rfl | rfl <;> cases bigFirst <;> simp [ordered, sniffMagic?, bigEndian]
  cases kind with
  | elf =>
    obtain ⟨rest, rfl⟩ := h
    simp [elfMagic, sniffMagic?, bigEndian]
  | llvmBitcode =>
    obtain ⟨magic, hmem, rest, rfl⟩ := h
    simp only [bitcodeMagics, List.mem_cons, List.not_mem_nil, or_false] at hmem
    rcases hmem with rfl | rfl <;> simp [sniffMagic?, bigEndian]
  | machO =>
    rcases h with ⟨magic, hmem, bigFirst, rest, rfl⟩ |
      ⟨magic, hmem, bigFirst, count, hlength, hbs, hrange⟩
    · simp only [thinMagics, List.mem_cons, List.not_mem_nil, or_false] at hmem
      rcases hmem with rfl | rfl <;> cases bigFirst <;> simp [ordered, sniffMagic?, bigEndian]
    · obtain ⟨rest, rfl⟩ := hbs
      rw [List.append_assoc, huniversal bigFirst hmem]
      exact (universal?_eq_some_iff bigFirst).mpr ⟨rfl, count, hlength, ⟨rest, rfl⟩, hrange⟩
  | pe => exact absurd rfl hpe
  | llvmIrText => exact h.elim
  | unknown => exact h.elim

/-! ## PE images -/

theorem peOffset?_eq_some_iff_value : peOffset? bs = some o ↔ [0x4D, 0x5A] <+: bs ∧
    0x40 ≤ bs.length ∧ value (ordered false ((bs.drop 0x3C).take 4)) = o ∧ 0x40 ≤ o := by
  have hmark : bs.take 2 = [0x4D, 0x5A] ↔ [0x4D, 0x5A] <+: bs := by
    rw [List.prefix_iff_eq_take, eq_comm]
    rfl
  rw [peOffset?_eq_some_iff, hmark]
  refine and_congr_right fun _ => ⟨?_, ?_⟩
  · rintro ⟨p, q, r, s, hfield, rfl, hbehind⟩
    have hlength := congrArg List.length hfield
    simp only [List.length_take, List.length_drop, peFieldOffset, List.length_cons,
      List.length_nil] at hlength
    refine ⟨by omega, ?_, hbehind⟩
    rw [show (0x3C : Nat) = peFieldOffset from rfl, hfield]
    exact value_four
  · rintro ⟨hlong, rfl, hbehind⟩
    obtain ⟨p, q, r, s, hfield⟩ := exists_of_length_four
      (show ((bs.drop 0x3C).take 4).length = 4 by simp; omega)
    refine ⟨p, q, r, s, hfield, ?_, hbehind⟩
    rw [hfield]
    exact value_four

theorem sniffPe?_eq_some_iff : sniffPe? bs = some kind ↔ kind = .pe ∧ ∃ o, IsPe bs o := by
  have hpe : (∃ o, IsPe bs o) ↔ ∃ o, peOffset? bs = some o ∧ hasPeAt bs o = true := by
    refine exists_congr fun o => ⟨fun h => ?_, fun ⟨hoffset, hmark⟩ => ?_⟩
    · exact ⟨peOffset?_eq_some_iff_value.mpr ⟨h.dos, h.long, h.announced, h.behind⟩,
        beq_iff_eq.mpr h.mark⟩
    · obtain ⟨hdos, hlong, hannounced, hbehind⟩ := peOffset?_eq_some_iff_value.mp hoffset
      exact ⟨hdos, hlong, hannounced, hbehind, length_of_hasPeAt hmark, eq_of_beq hmark⟩
  rw [hpe]
  unfold sniffPe?
  cases peOffset? bs with
  | none => simp
  | some o => cases hmark : hasPeAt bs o <;> simp [hmark, eq_comm (b := kind)]

theorem IsPe.sniffMagic?_eq_none (h : IsPe bs o) : sniffMagic? bs = none :=
  sniffMagic?_of_peOffset?
    (peOffset?_eq_some_iff_value.mpr ⟨h.dos, h.long, h.announced, h.behind⟩)

/-! ## Further bytes -/

theorem take_drop_append {n : Nat} (more : Bytes) (h : o + n ≤ bs.length) :
    ((bs ++ more).drop o).take n = (bs.drop o).take n := by
  rw [List.drop_append_of_le_length (by omega),
    List.take_append_of_le_length (by rw [List.length_drop]; omega)]

theorem IsPe.append (h : IsPe bs o) (more : Bytes) : IsPe (bs ++ more) o where
  dos := h.dos.trans (List.prefix_append _ _)
  long := by
    rw [List.length_append]
    exact Nat.le_add_right_of_le h.long
  announced := by
    rw [take_drop_append more h.long]
    exact h.announced
  behind := h.behind
  inside := by
    rw [List.length_append]
    exact Nat.le_add_right_of_le h.inside
  mark := by
    rw [take_drop_append more h.inside]
    exact h.mark

/-- **Further bytes hide nothing.** -/
theorem Shows.append (h : Shows bs kind) (more : Bytes) : Shows (bs ++ more) kind := by
  have hmore : ∀ {start : Bytes}, start <+: bs → start <+: bs ++ more :=
    fun hstart => hstart.trans (List.prefix_append _ _)
  cases kind with
  | elf => exact hmore h
  | llvmBitcode =>
    obtain ⟨magic, hmem, hstart⟩ := h
    exact ⟨magic, hmem, hmore hstart⟩
  | machO =>
    rcases h with ⟨magic, hmem, bigFirst, hstart⟩ |
      ⟨magic, hmem, bigFirst, count, hlength, hstart, hrange⟩
    · exact .inl ⟨magic, hmem, bigFirst, hmore hstart⟩
    · exact .inr ⟨magic, hmem, bigFirst, count, hlength, hmore hstart, hrange⟩
  | pe =>
    obtain ⟨o, hpe⟩ := h
    exact ⟨o, hpe.append more⟩
  | llvmIrText => exact h
  | unknown => exact h

/-! ## Whole byte strings -/

/-- What the bytes show is what the first four bytes decide, or else the mark of a PE header. -/
theorem shows_iff : Shows bs kind ↔ (sniffMagic? bs).orElse (fun _ => sniffPe? bs) = some kind := by
  constructor
  · intro h
    by_cases hpe : kind = .pe
    · subst hpe
      obtain ⟨o, himage⟩ := h
      rw [himage.sniffMagic?_eq_none]
      exact sniffPe?_eq_some_iff.mpr ⟨rfl, o, himage⟩
    · rw [sniffMagic?_of_shows h hpe]
      rfl
  · intro h
    cases hmagic : sniffMagic? bs with
    | some found =>
      rw [hmagic] at h
      cases h
      exact shows_of_sniffMagic? hmagic
    | none =>
      rw [hmagic] at h
      obtain ⟨rfl, himage⟩ := sniffPe?_eq_some_iff.mp h
      exact himage

theorem Shows.ofBytes (h : Shows bs kind) : ofBytes bs = ⟨kind, false⟩ := by
  have hfound := shows_iff.mp h
  have hne : bs.isEmpty = false := by
    cases bs with
    | nil => cases hfound
    | cons b rest => rfl
  unfold Classification.ofBytes
  cases hmagic : sniffMagic? bs <;> simp_all

/-- Without the marks of a binary format, the text decides. -/
theorem ofBytes_eq_of_not_shows (h : ∀ kind, ¬ Shows bs kind) :
    ofBytes bs = ⟨(sniffIrText? bs).getD .unknown, bs.isEmpty⟩ := by
  have hmagic : sniffMagic? bs = none :=
    Option.eq_none_iff_forall_ne_some.mpr fun kind hkind => h kind (shows_of_sniffMagic? hkind)
  have hpe : sniffPe? bs = none :=
    Option.eq_none_iff_forall_ne_some.mpr fun kind hkind =>
      h .pe (sniffPe?_eq_some_iff.mp hkind).2
  cases bs with
  | nil =>
    have htext : sniffIrText? [] = none := by simp [sniffIrText?, Utf8.decodeCut?, hasHeaderLine,
      isHeaderLine, headerMarks]
    rw [htext]
    rfl
  | cons b rest =>
    unfold ofBytes
    rw [hmagic, hpe]
    rfl

theorem ofBytes_of_not_shows (h : ∀ kind, ¬ Shows bs kind) :
    (ofBytes bs).kind = .llvmIrText ∨ (ofBytes bs).kind = .unknown := by
  rw [ofBytes_eq_of_not_shows h]
  cases htext : sniffIrText? bs with
  | none => exact .inr rfl
  | some kind =>
    obtain ⟨rfl, -⟩ := sniffIrText?_eq_some htext
    exact .inl rfl

theorem ofBytes_kind_eq_iff (hir : kind ≠ .llvmIrText) (hunknown : kind ≠ .unknown) :
    (ofBytes bs).kind = kind ↔ Shows bs kind := by
  refine ⟨?_, fun h => by rw [h.ofBytes]⟩
  rintro rfl
  by_cases h : ∃ kind, Shows bs kind
  · obtain ⟨kind, hkind⟩ := h
    rwa [hkind.ofBytes]
  · rcases ofBytes_of_not_shows (not_exists.mp h) with h | h
    · exact absurd h hir
    · exact absurd h hunknown

/-- **Bytes have a binary format exactly if they show its marks**, whatever follows these. -/
theorem ofBytes_kind_iff_shows (bs : Bytes) :
    ((ofBytes bs).kind = .elf ↔ elfMagic <+: bs) ∧
    ((ofBytes bs).kind = .llvmBitcode ↔ ∃ magic ∈ bitcodeMagics, magic <+: bs) ∧
    ((ofBytes bs).kind = .machO ↔ IsThin bs ∨ IsUniversal bs) ∧
    ((ofBytes bs).kind = .pe ↔ ∃ o, IsPe bs o) ∧
    ((∀ kind, ¬ Shows bs kind) →
      (ofBytes bs).kind = .llvmIrText ∨ (ofBytes bs).kind = .unknown) ∧
    ((ofBytes bs).isEmpty = true ↔ bs = []) ∧
    ∀ more, (ofBytes bs).kind ∈ [.elf, .llvmBitcode, .machO, .pe] →
      ofBytes (bs ++ more) = ofBytes bs := by
  refine ⟨ofBytes_kind_eq_iff (by decide) (by decide), ofBytes_kind_eq_iff (by decide) (by decide),
    ofBytes_kind_eq_iff (by decide) (by decide), ofBytes_kind_eq_iff (by decide) (by decide),
    ofBytes_of_not_shows, ?_, fun more hbinary => ?_⟩
  · unfold ofBytes
    cases bs <;> simp [empty]
  · have hshows : Shows bs (ofBytes bs).kind :=
      (ofBytes_kind_eq_iff (fun h => by rw [h] at hbinary; revert hbinary; decide)
        (fun h => by rw [h] at hbinary; revert hbinary; decide)).mp rfl
    rw [(hshows.append more).ofBytes, hshows.ofBytes]

end Conformance.Classification
