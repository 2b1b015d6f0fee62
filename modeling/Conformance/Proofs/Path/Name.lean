import Conformance.Path
import Mathlib.Tactic.SplitIfs

/-!
# Names of files

The last name of a path and its parts, and paths that are one name.

* `splitOnChar_of_not_mem`, `not_mem_of_mem_splitOnChar` : parts hold no separator;
* `fileName?_eq_some`, `fileName?_of_not_mem` : what a last name can be, and that of one segment;
* `splitName_of_not_mem_tail`, `splitName_append` : a name with and without an inner dot;
* `PlainStem` : a stem that takes an extension as it is;
* `withExtension_of_plainStem`, `length_withExtension_lt` : the extension of a stem, and what is lost
  of a stem that is not plain.
-/

namespace Conformance

/-! ## Segments -/

theorem splitOnChar_of_not_mem {sep : Char} {cs : List Char} (h : sep ∉ cs) :
    splitOnChar sep cs = [cs] := by
  induction cs with
  | nil => rfl
  | cons c cs ih =>
    rw [List.mem_cons, not_or] at h
    rw [splitOnChar, if_neg (Ne.symm h.1), ih h.2]

theorem not_mem_of_mem_splitOnChar {sep : Char} {cs part : List Char}
    (h : part ∈ splitOnChar sep cs) : sep ∉ part := by
  induction cs generalizing part with
  | nil =>
    rw [splitOnChar, List.mem_singleton] at h
    rw [h]
    exact List.not_mem_nil
  | cons c cs ih =>
    rw [splitOnChar] at h
    split_ifs at h with hc
    · rcases List.mem_cons.mp h with rfl | h
      · exact List.not_mem_nil
      · exact ih h
    · split at h
      · rename_i first parts heq
        rcases List.mem_cons.mp h with rfl | h
        · rw [List.mem_cons, not_or]
          exact ⟨fun e => hc e.symm, ih (heq ▸ List.mem_cons_self)⟩
        · exact ih (heq ▸ List.mem_cons_of_mem _ h)
      · rw [List.mem_singleton] at h
        rw [h, List.mem_singleton]
        exact fun e => hc e.symm

namespace Path

theorem not_mem_of_mem_segments {p : Path} {segment : String} (h : segment ∈ p.segments) :
    '/' ∉ segment.toList := by
  obtain ⟨part, hpart, rfl⟩ := List.mem_map.mp h
  rw [String.toList_ofList]
  exact not_mem_of_mem_splitOnChar hpart

/-- A segment that is a name. -/
theorem componentOf?_eq_normal {segment name : String}
    (h : componentOf? segment = some (.normal name)) :
    name = segment ∧ name ≠ "" ∧ name ≠ "." ∧ name ≠ ".." := by
  unfold componentOf? at h
  split_ifs at h with h1 h2
  · simp at h
  · obtain rfl : segment = name := by simpa using h
    rw [not_or] at h1
    exact ⟨rfl, h1.1, h1.2, h2⟩

/-- The names of a path are segments of it. -/
theorem normal_mem_components {p : Path} {name : String} (h : .normal name ∈ p.components) :
    name ∈ p.segments ∧ name ≠ "" ∧ name ≠ "." ∧ name ≠ ".." := by
  unfold components at h
  split at h
  · cases h
  · rename_i first rest hsegs
    rw [hsegs]
    have hbody : .normal name ∈ rest.filterMap componentOf? →
        name ∈ first :: rest ∧ name ≠ "" ∧ name ≠ "." ∧ name ≠ ".." := by
      intro hm
      obtain ⟨segment, hs, hc⟩ := List.mem_filterMap.mp hm
      obtain ⟨rfl, hname⟩ := componentOf?_eq_normal hc
      exact ⟨List.mem_cons_of_mem _ hs, hname⟩
    simp only at h
    split_ifs at h with habs hdot
    · exact hbody (by simpa using h)
    · exact hbody (by simpa using h)
    · rcases List.mem_append.mp h with h | h
      · obtain ⟨rfl, hname⟩ := componentOf?_eq_normal (by simpa using h)
        exact ⟨List.mem_cons_self, hname⟩
      · exact hbody h

/-- A last name is neither empty nor a step, and holds no separator. -/
theorem fileName?_eq_some {p : Path} {name : String} (h : p.fileName? = some name) :
    '/' ∉ name.toList ∧ name ≠ "" ∧ name ≠ "." ∧ name ≠ ".." := by
  have hmem : .normal name ∈ p.components := by
    unfold fileName? at h
    split at h
    · rename_i last hlast
      cases h
      exact List.mem_of_getLast? hlast
    · cases h
  obtain ⟨hs, hname⟩ := normal_mem_components hmem
  exact ⟨not_mem_of_mem_segments hs, hname⟩

/-! ## Paths of one segment -/

theorem segments_of_not_mem {s : String} (h : '/' ∉ s.toList) : (Path.mk s).segments = [s] := by
  rw [segments, splitOnChar_of_not_mem h, List.map_singleton, String.ofList_toList]

theorem fileName?_of_not_mem {s : String} (h : '/' ∉ s.toList) :
    (Path.mk s).fileName? = if s = "" ∨ s = "." ∨ s = ".." then none else some s := by
  have habs : (Path.mk s).isAbsolute = false := by
    unfold isAbsolute
    cases hs : s.toList with
    | nil => rfl
    | cons c cs =>
      rw [hs, List.mem_cons, not_or] at h
      simpa using Ne.symm h.1
  unfold fileName? components
  rw [segments_of_not_mem h, habs]
  by_cases h0 : s = ""
  · subst h0; rfl
  by_cases h1 : s = "."
  · subst h1; rfl
  by_cases h2 : s = ".."
  · subst h2; rfl
  simp [h0, h1, h2, componentOf?]

theorem setExtension_of_not_mem {s : String} (h : '/' ∉ s.toList) {ext : String} (he : ext ≠ "") :
    (Path.mk s).setExtension ext =
      if s = "" ∨ s = "." ∨ s = ".." then ⟨s⟩ else ⟨(splitName s).1 ++ "." ++ ext⟩ := by
  have hempty : ext.isEmpty = false := by simpa using he
  unfold setExtension stem?
  rw [fileName?_of_not_mem h, segments_of_not_mem h, hempty]
  by_cases hs : s = "" ∨ s = "." ∨ s = ".."
  · rw [if_pos hs, if_pos hs]
    rfl
  · rw [if_neg hs, if_neg hs]
    simp [trimSegments, String.intercalate_singleton]

/-! ## Names and their dots -/

theorem splitName_of_not_mem_tail {name : String} (h : '.' ∉ name.toList.tail) :
    splitName name = (name, none) := by
  unfold splitName
  cases hs : name.toList with
  | nil => rfl
  | cons c cs =>
    rw [hs, List.tail_cons] at h
    have hall : ∀ a ∈ cs.reverse, (a != '.') = true := fun a ha => by
      simpa using fun e : a = '.' => h (e ▸ List.mem_reverse.mp ha)
    simp only [List.reverse_cons, List.takeWhile_append_of_pos hall]
    by_cases hc : c = '.'
    · -- the only dot stands at the start: nothing is left before it
      simp [hc]
    · have hnil : (cs.reverse ++ [c]).drop (cs.length + 1) = [] :=
        List.drop_eq_nil_of_le (by simp)
      simp [hc, hnil]

theorem splitName_append {before after : List Char} (hb : before ≠ []) (ha : '.' ∉ after) :
    splitName (String.ofList (before ++ '.' :: after)) =
      (String.ofList before, some (String.ofList after)) := by
  have hall : ∀ a ∈ after.reverse, (a != '.') = true := fun a h => by
    simpa using fun e : a = '.' => ha (e ▸ List.mem_reverse.mp h)
  have hrev : (before ++ '.' :: after).reverse = after.reverse ++ '.' :: before.reverse := by simp
  have htake : (after.reverse ++ '.' :: before.reverse).takeWhile (· != '.') = after.reverse := by
    rw [List.takeWhile_append_of_pos hall]
    simp
  unfold splitName
  simp only [String.toList_ofList, hrev, htake, List.drop_left]
  simp [hb]

/-- An inner dot of a name, and the last of them. -/
theorem exists_append_of_mem_tail {cs : List Char} (h : '.' ∈ cs.tail) :
    ∃ before after, cs = before ++ '.' :: after ∧ before ≠ [] ∧ '.' ∉ after := by
  cases cs with
  | nil => cases h
  | cons c cs =>
    obtain ⟨after, before, heq, hafter⟩ := List.eq_append_cons_of_mem (List.mem_reverse.mpr h)
    refine ⟨c :: before.reverse, after.reverse, ?_, List.cons_ne_nil _ _, by simpa using hafter⟩
    have hcs := congrArg List.reverse heq
    rw [List.reverse_reverse] at hcs
    simpa using hcs

/-! ## Extensions of stems -/

/-- A stem to which an extension can be put as to a path: it has no inner dot and is not a step. -/
def PlainStem (stem : String) : Prop := '.' ∉ stem.toList.tail ∧ stem ≠ "."

instance (stem : String) : Decidable (PlainStem stem) :=
  inferInstanceAs (Decidable ('.' ∉ stem.toList.tail ∧ stem ≠ "."))

theorem withExtension_of_plainStem {stem ext : String} (hs : PlainStem stem) (h0 : stem ≠ "")
    (h : '/' ∉ stem.toList) (he : ext ≠ "") :
    (Path.mk stem).withExtension ext = ⟨stem ++ "." ++ ext⟩ := by
  have h2 : stem ≠ ".." := by
    rintro rfl
    exact absurd hs.1 (by decide +kernel)
  have hn : ¬ (stem = "" ∨ stem = "." ∨ stem = "..") := by simp [h0, hs.2, h2]
  have hext : (Path.mk stem).extension? = none := by
    rw [extension?, fileName?_of_not_mem h, if_neg hn]
    simp [splitName_of_not_mem_tail hs.1]
  rw [withExtension, hext, setExtension_of_not_mem h he, if_neg hn, splitName_of_not_mem_tail hs.1]

theorem ofList_append_dot_eq_iff {before after : List Char} (hb : before ≠ []) :
    (String.ofList (before ++ '.' :: after) = "" ∨ String.ofList (before ++ '.' :: after) = "." ∨
      String.ofList (before ++ '.' :: after) = "..") ↔ before = ['.'] ∧ after = [] := by
  rw [← String.toList_inj, ← String.toList_inj, ← String.toList_inj, String.toList_ofList]
  rcases before with _ | ⟨c, _ | ⟨d, rest⟩⟩ <;> simp at hb ⊢

/-- The new extension stands behind a last dot. -/
theorem setExtension_append_dot {before : List Char} {ext : String} (hb : before ≠ [])
    (h : '/' ∉ before) (he : ext ≠ "") :
    (Path.mk (String.ofList (before ++ ['.']))).setExtension ext =
      if before = ['.'] then ⟨".."⟩ else ⟨String.ofList before ++ "." ++ ext⟩ := by
  have hslash : '/' ∉ (String.ofList (before ++ ['.'])).toList := by
    simpa [String.toList_ofList] using h
  rw [setExtension_of_not_mem hslash he, splitName_append hb List.not_mem_nil]
  by_cases hdot : before = ['.']
  · subst hdot
    rfl
  · rw [if_neg hdot, if_neg]
    rw [ofList_append_dot_eq_iff hb]
    exact fun hd => hdot hd.1

/-- What stands behind an inner dot of a stem is cut off first, and a lone dot before it takes no
extension. -/
theorem withExtension_append {before after : List Char} {ext : String} (hb : before ≠ [])
    (ha : '.' ∉ after) (h : '/' ∉ before ++ '.' :: after) (he : ext ≠ "") :
    (Path.mk (String.ofList (before ++ '.' :: after))).withExtension ext =
      if before = ['.'] then ⟨".."⟩ else ⟨String.ofList before ++ "." ++ ext⟩ := by
  have hslash : '/' ∉ (String.ofList (before ++ '.' :: after)).toList := by
    rwa [String.toList_ofList]
  have hbefore : '/' ∉ before := fun hm => h (List.mem_append_left _ hm)
  by_cases hstep : before = ['.'] ∧ after = []
  · obtain ⟨rfl, rfl⟩ := hstep
    rw [withExtension, extension?, fileName?_of_not_mem hslash,
      if_pos ((ofList_append_dot_eq_iff hb).mpr ⟨rfl, rfl⟩)]
    exact setExtension_append_dot hb hbefore he
  · have hext : (Path.mk (String.ofList (before ++ '.' :: after))).extension? =
        some (String.ofList after) := by
      rw [extension?, fileName?_of_not_mem hslash,
        if_neg (mt (ofList_append_dot_eq_iff hb).mp hstep), Option.bind_some,
        splitName_append hb ha]
    have hcut : (before ++ '.' :: after).take
        ((before ++ '.' :: after).length - (String.ofList after).length) = before ++ ['.'] := by
      rw [String.length_ofList, List.append_cons, List.length_append, Nat.add_sub_cancel,
        List.take_left]
    simp only [withExtension, hext, String.toList_ofList, hcut]
    exact setExtension_append_dot hb hbefore he

/-- A stem that is not plain is a lone dot, which takes no extension, or has an inner dot. -/
theorem withExtension_of_not_plainStem {stem ext : String} (hs : ¬ PlainStem stem)
    (h : '/' ∉ stem.toList) (he : ext ≠ "") :
    (stem = "." ∧ (Path.mk stem).withExtension ext = ⟨"."⟩) ∨
      ∃ before after, before ≠ [] ∧ stem.toList = before ++ '.' :: after ∧
        (Path.mk stem).withExtension ext =
          if before = ['.'] then ⟨".."⟩ else ⟨String.ofList before ++ "." ++ ext⟩ := by
  by_cases hdot : '.' ∈ stem.toList.tail
  · obtain ⟨before, after, heq, hb, ha⟩ := exists_append_of_mem_tail hdot
    obtain rfl : stem = String.ofList (before ++ '.' :: after) := by
      rw [← heq, String.ofList_toList]
    rw [String.toList_ofList] at h
    exact Or.inr ⟨before, after, hb, heq, withExtension_append hb ha h he⟩
  · obtain rfl : stem = "." := Classical.byContradiction fun hne => hs ⟨hdot, hne⟩
    refine Or.inl ⟨rfl, ?_⟩
    rw [withExtension, extension?, fileName?_of_not_mem h]
    exact (setExtension_of_not_mem h he).trans (if_pos (Or.inr (Or.inl rfl)))

/-- With an extension, a stem that is not plain comes out shorter than it should. -/
theorem length_withExtension_lt {stem ext : String} (hs : ¬ PlainStem stem) (h : '/' ∉ stem.toList)
    (he : ext ≠ "") :
    ((Path.mk stem).withExtension ext).text.length < (stem ++ "." ++ ext).length := by
  have hlen : 0 < ext.length := Nat.pos_of_ne_zero fun h0 => he (by simpa using h0)
  have hone : ".".length = 1 := by decide
  have htwo : "..".length = 2 := by decide
  rw [String.length_append, String.length_append]
  rcases withExtension_of_not_plainStem hs h he with ⟨rfl, hout⟩ | ⟨before, after, hb, heq, hout⟩
  · rw [hout]
    simp only
    omega
  · have hstem : stem.length = before.length + after.length + 1 := by
      rw [← String.length_toList, heq, List.length_append, List.length_cons]
      omega
    have hpos : 0 < before.length := List.length_pos_iff.mpr hb
    rw [hout]
    split_ifs
    · simp only
      omega
    · simp only [String.length_append, String.length_ofList]
      omega

theorem not_mem_withExtension {stem ext : String} (h0 : stem ≠ "") (h : '/' ∉ stem.toList)
    (he : ext ≠ "") (hx : '/' ∉ ext.toList) :
    '/' ∉ ((Path.mk stem).withExtension ext).text.toList := by
  by_cases hs : PlainStem stem
  · rw [withExtension_of_plainStem hs h0 h he]
    simp [h, hx]
  · rcases withExtension_of_not_plainStem hs h he with ⟨-, hout⟩ | ⟨before, after, -, heq, hout⟩
    · rw [hout]
      decide +kernel
    · have hb : '/' ∉ before := fun hm => h (heq ▸ List.mem_append_left _ hm)
      rw [hout]
      split_ifs
      · decide +kernel
      · simp [hb, hx]

/-- The stem of a path is its last name up to the last dot. -/
theorem stem?_of_fileName? {p : Path} {name : String} (h : p.fileName? = some name) :
    ∃ stem, p.stem? = some stem ∧ stem ≠ "" ∧ '/' ∉ stem.toList ∧
      (name = stem ∧ '.' ∉ stem.toList.tail ∨
        ∃ ext, '.' ∉ ext.toList ∧ name = stem ++ "." ++ ext) := by
  obtain ⟨hslash, hne, -⟩ := fileName?_eq_some h
  rw [stem?, h, Option.map_some]
  by_cases hdot : '.' ∈ name.toList.tail
  · obtain ⟨before, after, heq, hb, ha⟩ := exists_append_of_mem_tail hdot
    have hname : name = String.ofList (before ++ '.' :: after) := by
      rw [← heq, String.ofList_toList]
    refine ⟨String.ofList before, by rw [hname, splitName_append hb ha], ?_, ?_, Or.inr
      ⟨String.ofList after, by rwa [String.toList_ofList], ?_⟩⟩
    · simpa using hb
    · rw [String.toList_ofList]
      exact fun hm => hslash (heq ▸ List.mem_append_left _ hm)
    · rw [hname, ← String.toList_inj]
      simp
  · exact ⟨name, by rw [splitName_of_not_mem_tail hdot], hne, hslash, Or.inl ⟨rfl, hdot⟩⟩

end Path

end Conformance
