import Conformance.Proofs.Path.Join

/-!
# The last segment of a path

* `Path.exists_segments_join` : a joined path ends as its other part;
* `Path.isName_of_components` : a relative path of one component that ends in a name is the name;
* `FileStore.steps_of_segments` : the last step that a path asks for.
-/

namespace Conformance

variable {p : Path} {name : String}

namespace Path

theorem ne_empty_of_isAbsolute (h : p.isAbsolute = true) : p.text ≠ "" := by
  intro hempty
  simp [isAbsolute, hempty] at h

theorem exists_segments (p : Path) : ∃ front last, p.segments = front ++ [last] := by
  have hne : p.segments ≠ [] := by
    simpa [segments] using splitOnChar_ne_nil '/' p.text.toList
  obtain ⟨front, last, h⟩ := (List.eq_nil_or_concat p.segments).resolve_left hne
  exact ⟨front, last, h.trans (List.concat_eq_append ..)⟩

theorem exists_segments_join (dir : Path) (hp : p.isAbsolute = false) :
    ∃ before, (dir.join p).segments = before ++ p.segments := by
  by_cases hdir : dir.text = ""
  · exact ⟨[], by simp [join, hp, hdir]⟩
  · obtain ⟨xs, hjoin, -, -⟩ := exists_join_eq hdir hp
    exact ⟨_, by rw [hjoin, segments_append_slash, String.ofList_toList]⟩

theorem segment_ne_empty {first : String} {rest : List String} (hp : p.isAbsolute = false)
    (h : p.segments = first :: rest) (hrest : rest ≠ []) : first ≠ "" := by
  rintro rfl
  unfold isAbsolute at hp
  unfold segments at h
  cases htext : p.text.toList with
  | nil =>
    rw [htext, splitOnChar, List.map_singleton, List.cons.injEq] at h
    exact hrest h.2.symm
  | cons c cs =>
    have hc : c ≠ '/' := by simpa [htext] using hp
    rw [htext, splitOnChar, if_neg hc] at h
    split at h
    · simp at h
    · simp at h

theorem not_mem_of_segments (h : p.segments = [name]) : '/' ∉ p.text.toList := by
  intro hmem
  obtain ⟨xs, ys, heq⟩ := List.append_of_mem hmem
  have hlength := congrArg List.length h
  rw [segments, heq, splitOnChar_append_sep, List.length_map, List.length_append,
    List.length_singleton] at hlength
  have hxs := List.length_pos_iff.mpr (splitOnChar_ne_nil '/' xs)
  have hys := List.length_pos_iff.mpr (splitOnChar_ne_nil '/' ys)
  omega

/-- **A relative path of at most one component that ends in a name is the name.** -/
theorem isName_of_components (hp : p.isAbsolute = false) (hlen : p.components.length ≤ 1)
    {front : List String} (h : p.segments = front ++ [name]) (hname : IsName name) :
    IsName p.text := by
  cases front with
  | nil =>
    rw [List.nil_append] at h
    have htext := h
    rw [segments_of_not_mem (not_mem_of_segments h), List.singleton_inj] at htext
    rwa [htext]
  | cons first front =>
    -- the first segment is one component, and the name is another
    have hfirst := segment_ne_empty hp h (by simp)
    have hlast : [name].filterMap componentOf? = [.normal name] := by
      simp [componentOf?, hname.ne_empty, hname.ne_current, hname.ne_parent]
    refine absurd hlen (Nat.not_le.mpr ?_)
    rw [List.cons_append] at h
    unfold components
    simp only [h, hp, List.filterMap_append, hlast]
    by_cases hcurrent : first = "."
    · simp [hcurrent]
    · by_cases hparent : first = ".." <;> simp [componentOf?, hfirst, hcurrent, hparent]

theorem components_of_isName (h : IsName name) : (Path.mk name).components = [.normal name] := by
  unfold components
  rw [segments_of_not_mem h.no_separator, isAbsolute_of_isName h]
  simp [componentOf?, h.ne_empty, h.ne_current, h.ne_parent]

/-- A path without a separator has no more than one component. -/
theorem components_of_not_mem (h : '/' ∉ p.text.toList) : p.components.length ≤ 1 := by
  have hsegs : p.segments = [p.text] := segments_of_not_mem h
  unfold components
  rw [hsegs]
  dsimp only
  split
  · exact Nat.le_refl 1
  split
  · exact Nat.le_refl 1
  · rw [List.filterMap_nil, List.append_nil]
    exact Option.length_toList_le

end Path

theorem FileStore.steps_of_segments {front : List String} (h : p.segments = front ++ [name]) :
    steps p = front.filter (· ≠ "") ++ [if name = "" then "." else name] := by
  rw [steps, h, List.filter_append, List.getLast?_concat]
  by_cases hname : name = "" <;> simp [hname]

end Conformance
