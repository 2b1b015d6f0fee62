import Conformance.Proofs.Files.Directories
import Conformance.Proofs.Path.Single
import Mathlib.Data.List.Nodup

/-!
# What directories hold

* `FileStore.Sound` : every entry stands in a directory, once, under names that can stand there;
* `FileStore.Sound.exists_of_resolve` : something stands where a path leads;
* `FileStore.mem_namesBelow`, `FileStore.Sound.nodup_namesBelow` : the names in a directory;
* `FileStore.Sound.mem_entriesBelow`, `FileStore.Sound.nodup_entriesBelow` : all entries below one.
-/

namespace Conformance.FileStore

variable {store : FileStore} {loc l names more : Location} {name : String} {e : Entry}

/-- A store of files in which directories hold their entries. -/
structure Sound (store : FileStore) : Prop where
  /-- Every entry stands in a directory. -/
  rooted : store.Rooted
  /-- No two entries stand at one location. -/
  once : (store.entries.map Prod.fst).Nodup
  /-- Every entry has names that can stand in directories. -/
  proper : ∀ e ∈ store.entries, Location.Proper e.1

theorem mem_entries_of_eq (hl : l ≠ []) (h : store.entry? l = some e) : (l, e) ∈ store.entries := by
  rw [entry?_of_ne_nil hl, Option.map_eq_some_iff] at h
  obtain ⟨⟨l', e'⟩, hfound, rfl⟩ := h
  obtain rfl : l' = l := by simpa using List.find?_some hfound
  exact List.mem_of_find?_eq_some hfound

theorem entry?_ne_none (h : (l, e) ∈ store.entries) : store.entry? l ≠ none := by
  by_cases hl : l = []
  · simp [hl]
  · rw [entry?_of_ne_nil hl, Ne, Option.map_eq_none_iff, List.find?_eq_none]
    exact fun hall => hall _ h (by simp)

namespace Sound

theorem entry?_eq_some_iff (h : store.Sound) (hl : l ≠ []) :
    store.entry? l = some e ↔ (l, e) ∈ store.entries := by
  refine ⟨mem_entries_of_eq hl, fun hmem => ?_⟩
  obtain ⟨e', hfound⟩ := Option.ne_none_iff_exists'.mp (entry?_ne_none hmem)
  have hmem' := mem_entries_of_eq hl hfound
  have heq : (l, e') = (l, e) := List.inj_on_of_nodup_map h.once hmem' hmem rfl
  rw [hfound, (Prod.mk.inj heq).2]

theorem proper_of_ne_none (h : store.Sound) (hfound : store.entry? l ≠ none) : Location.Proper l := by
  by_cases hl : l = []
  · rw [hl]
    exact fun name hname => absurd hname List.not_mem_nil
  · obtain ⟨e, he⟩ := Option.ne_none_iff_exists'.mp hfound
    exact h.proper _ (mem_entries_of_eq hl he)

theorem entry?_of_reaches (h : store.Sound) {budget budget' : Nat} {here there : Location} {todo : List String}
    (hreaches : Reaches store budget here todo budget' there) (hhere : store.entry? here ≠ none) :
    store.entry? there ≠ none := by
  induction hreaches with
  | done => exact hhere
  | current _ _ ih => exact ih hhere
  | @parent _ _ here _ _ _ _ ih =>
    refine ih fun hnone => ?_
    have hbelow := h.rooted.entry?_below hnone (here.drop (here.length - 1))
    rw [List.dropLast_eq_take, List.take_append_drop] at hbelow
    exact hhere hbelow
  | @link _ _ _ _ _ _ target _ _ _ _ _ ih =>
    refine ih ?_
    split
    · exact Option.some_ne_none _
    · exact hhere
  | entry _ _ _ found _ _ ih => exact ih (by rw [found]; exact Option.some_ne_none _)

/-- Something stands where a path leads. -/
theorem exists_of_resolve (h : store.Sound) {cwd : Location} {p : Path}
    (hresolve : store.resolve cwd true p = .ok loc) : ∃ e, store.entry? loc = some e := by
  obtain ⟨budget, hreaches⟩ := exists_reaches_of_resolve hresolve
  obtain ⟨front, last, hsegs⟩ := p.exists_segments
  -- a path asks for one step at least, and steps are taken in directories
  have hhere : store.isDirectoryAt (if p.isAbsolute then [] else cwd) = true := by
    obtain ⟨step, rest, hsteps⟩ : ∃ step rest, steps p = step :: rest :=
      List.exists_cons_of_ne_nil (by simp [steps_of_segments hsegs])
    rw [hsteps] at hreaches
    exact hreaches.inside
  obtain ⟨readable, hentry⟩ := isDirectoryAt_iff.mp hhere
  refine Option.ne_none_iff_exists'.mp (h.entry?_of_reaches hreaches ?_)
  rw [hentry]
  exact Option.some_ne_none _

end Sound

/-! ## Names in a directory -/

/-- The name of a location in a directory, if it stands there. -/
def nameIn? (loc l : Location) : Option String := if l.dropLast = loc then l.getLast? else none

theorem nameIn?_eq_some_iff : nameIn? loc l = some name ↔ l = loc ++ [name] := by
  unfold nameIn?
  constructor
  · intro h
    split at h
    · rename_i hloc
      obtain ⟨front, rfl⟩ := List.getLast?_eq_some_iff.mp h
      rw [List.dropLast_concat] at hloc
      rw [hloc]
    · cases h
  · rintro rfl
    simp

theorem namesBelow_eq (store : FileStore) (loc : Location) :
    store.namesBelow loc = (store.entries.map Prod.fst).filterMap (nameIn? loc) := by
  rw [List.filterMap_map]
  rfl

theorem mem_namesBelow : name ∈ store.namesBelow loc ↔ store.entry? (loc ++ [name]) ≠ none := by
  simp only [namesBelow_eq, List.mem_filterMap, List.mem_map, nameIn?_eq_some_iff]
  constructor
  · rintro ⟨l, ⟨⟨l', e⟩, hmem, rfl⟩, rfl⟩
    exact entry?_ne_none hmem
  · intro hfound
    obtain ⟨e, he⟩ := Option.ne_none_iff_exists'.mp hfound
    exact ⟨_, ⟨_, mem_entries_of_eq (by simp) he, rfl⟩, rfl⟩

theorem Sound.nodup_namesBelow (h : store.Sound) (loc : Location) : (store.namesBelow loc).Nodup := by
  rw [namesBelow_eq]
  refine h.once.filterMap fun l l' name hl hl' => ?_
  rw [nameIn?_eq_some_iff.mp hl, nameIn?_eq_some_iff.mp hl']

/-! ## Entries below a directory -/

/-- The names that lead from a directory to a location below it. -/
def namesFrom? (loc l : Location) : Option (List String) :=
  if loc.isPrefixOf l && l.length > loc.length then some (l.drop loc.length) else none

theorem namesFrom?_eq_some_iff : namesFrom? loc l = some names ↔ names ≠ [] ∧ l = loc ++ names := by
  unfold namesFrom?
  constructor
  · intro h
    split at h
    · rename_i hbelow
      rw [Bool.and_eq_true, List.isPrefixOf_iff_prefix, decide_eq_true_eq] at hbelow
      obtain ⟨⟨rest, rfl⟩, hlength⟩ := hbelow
      obtain rfl : rest = names := by simpa using h
      refine ⟨?_, rfl⟩
      rintro rfl
      simp at hlength
    · cases h
  · rintro ⟨hne, rfl⟩
    have hlength := List.length_pos_iff.mpr hne
    simp [hlength]

theorem entriesBelow_eq (store : FileStore) (loc : Location) : store.entriesBelow loc =
    store.entries.filterMap fun e => (namesFrom? loc e.1).map fun names => (names, e.2) := by
  refine List.filterMap_congr fun e _ => ?_
  unfold namesFrom?
  split <;> rfl

theorem Sound.mem_entriesBelow (h : store.Sound) : (names, e) ∈ store.entriesBelow loc ↔
    names ≠ [] ∧ store.entry? (loc ++ names) = some e := by
  have happend : names ≠ [] → loc ++ names ≠ [] := fun hne hnil => hne (List.append_eq_nil_iff.mp hnil).2
  simp only [entriesBelow_eq, List.mem_filterMap, Option.map_eq_some_iff, namesFrom?_eq_some_iff]
  constructor
  · rintro ⟨⟨l, e'⟩, hmem, names', ⟨hne, rfl⟩, heq⟩
    obtain ⟨rfl, rfl⟩ := Prod.mk.inj heq
    exact ⟨hne, (h.entry?_eq_some_iff (happend hne)).mpr hmem⟩
  · rintro ⟨hne, hfound⟩
    exact ⟨_, (h.entry?_eq_some_iff (happend hne)).mp hfound, names, ⟨hne, rfl⟩, rfl⟩

theorem Sound.nodup_entriesBelow (h : store.Sound) (loc : Location) :
    ((store.entriesBelow loc).map Prod.fst).Nodup := by
  have hlocations : (store.entriesBelow loc).map Prod.fst =
      (store.entries.map Prod.fst).filterMap (namesFrom? loc) := by
    rw [entriesBelow_eq, List.map_filterMap, List.filterMap_map]
    refine List.filterMap_congr fun e _ => ?_
    show ((namesFrom? loc e.1).map _).map _ = namesFrom? loc e.1
    cases namesFrom? loc e.1 <;> rfl
  rw [hlocations]
  refine h.once.filterMap fun l l' names hl hl' => ?_
  rw [(namesFrom?_eq_some_iff.mp hl).2, (namesFrom?_eq_some_iff.mp hl').2]

end Conformance.FileStore
