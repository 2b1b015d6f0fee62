import Conformance.Proofs.Files.Walk
import Mathlib.Data.List.Induction

/-!
# Changing files

What stands at a location after a change, and what a change leaves alone.

* `FileStore.entry?_put_self`, `FileStore.entry?_put_of_ne`, `FileStore.entry?_eraseTree` : the entry
  at a location after a change;
* `FileStore.Rooted` : every entry stands in a directory; what keeps it so;
* `FileStore.Within` : nothing is changed but at a location and below it; `FileStore.Within.keeps` :
  a change where a store has nothing keeps what it has.
-/

namespace Conformance.FileStore

variable {store before after last : FileStore} {loc l : Location} {name : String} {e : Entry}

/-! ## Entries -/

@[simp]
theorem entry?_nil (store : FileStore) : store.entry? [] = some (.directory true) := rfl

theorem entry?_of_ne_nil (h : l ≠ []) :
    store.entry? l = (store.entries.find? fun e => e.1 = l).map (·.2) := by
  unfold entry?
  rw [if_neg (by simpa using h)]

theorem entry?_put_self (hloc : loc ≠ []) : entry? (store.put loc e) loc = some e := by
  rw [entry?_of_ne_nil hloc, put, List.find?_cons_of_pos (by simp)]
  rfl

theorem entry?_put_of_ne (h : l ≠ loc) : entry? (store.put loc e) l = store.entry? l := by
  by_cases hl : l = []
  · rw [hl, entry?_nil, entry?_nil]
  rw [entry?_of_ne_nil hl, entry?_of_ne_nil hl, put, List.find?_cons_of_neg (by simpa using h.symm),
    erase, List.find?_filter]
  congr 2
  funext other
  by_cases hother : other.1 = l
  · simp [hother, h]
  · simp [hother]

theorem entry?_eraseTree_below (hl : l ≠ []) (h : loc <+: l) : entry? (store.eraseTree loc) l = none := by
  rw [entry?_of_ne_nil hl, eraseTree, List.find?_filter, Option.map_eq_none_iff, List.find?_eq_none]
  rintro other - hother
  obtain ⟨hkeep, rfl⟩ : loc.isPrefixOf other.1 = false ∧ other.1 = l := by simpa using hother
  rw [List.isPrefixOf_iff_prefix.mpr h] at hkeep
  cases hkeep

theorem entry?_eraseTree_of_not_below (h : ¬ loc <+: l) :
    entry? (store.eraseTree loc) l = store.entry? l := by
  by_cases hl : l = []
  · rw [hl, entry?_nil, entry?_nil]
  rw [entry?_of_ne_nil hl, entry?_of_ne_nil hl, eraseTree, List.find?_filter]
  congr 2
  funext other
  by_cases hother : other.1 = l
  · have hkeep : loc.isPrefixOf l = false := by
      rw [← Bool.not_eq_true, List.isPrefixOf_iff_prefix]
      exact h
    simp [hother, hkeep]
  · simp [hother]

theorem isDirectoryAt_congr (h : after.entry? loc = before.entry? loc) :
    after.isDirectoryAt loc = before.isDirectoryAt loc := by
  unfold isDirectoryAt
  rw [h]

theorem isDirectoryAt_of_entry? {readable : Bool} (h : store.entry? loc = some (.directory readable)) :
    store.isDirectoryAt loc = true := isDirectoryAt_iff.mpr ⟨readable, h⟩

/-! ## Every entry in a directory -/

/-- Every entry stands in a directory. -/
def Rooted (store : FileStore) : Prop :=
  ∀ loc name, store.entry? (loc ++ [name]) ≠ none → store.isDirectoryAt loc = true

/-- It is enough to look at each entry. -/
theorem rooted_of_forall (h : ∀ e ∈ store.entries, store.isDirectoryAt e.1.dropLast = true) :
    store.Rooted := by
  intro loc name hfound
  rw [entry?_of_ne_nil (by simp), Ne, Option.map_eq_none_iff] at hfound
  obtain ⟨e, he⟩ := Option.ne_none_iff_exists'.mp hfound
  have hloc : e.1 = loc ++ [name] := by simpa using List.find?_some he
  have hdir := h e (List.mem_of_find?_eq_some he)
  rwa [hloc, List.dropLast_concat] at hdir

/-- What is no directory has nothing below it. -/
theorem Rooted.entry?_append (h : store.Rooted) (hloc : store.isDirectoryAt loc = false)
    {rel : Location} (hrel : rel ≠ []) : store.entry? (loc ++ rel) = none := by
  induction rel using List.reverseRecOn with
  | nil => exact absurd rfl hrel
  | append_singleton rel name ih =>
    refine Classical.byContradiction fun hfound => ?_
    rw [← List.append_assoc] at hfound
    have hdir := h _ _ hfound
    by_cases hnil : rel = []
    · rw [hnil, List.append_nil, hloc] at hdir
      cases hdir
    · rw [isDirectoryAt, ih hnil] at hdir
      cases hdir

/-- Where nothing stands, nothing stands below. -/
theorem Rooted.entry?_below (h : store.Rooted) (hloc : store.entry? loc = none) (rel : Location) :
    store.entry? (loc ++ rel) = none := by
  by_cases hrel : rel = []
  · rw [hrel, List.append_nil, hloc]
  · exact h.entry?_append (by rw [isDirectoryAt, hloc]) hrel

/-- A store stays rooted if an entry is put into a directory in place of anything but a directory. -/
theorem Rooted.put (h : store.Rooted) (hdir : store.isDirectoryAt loc = true)
    (hno : store.isDirectoryAt (loc ++ [name]) = false) : (store.put (loc ++ [name]) e).Rooted := by
  intro there n hfound
  -- nothing stands below the entry, for it was no directory before
  have hne : there ≠ loc ++ [name] := by
    rintro rfl
    rw [entry?_put_of_ne (by simp), h.entry?_append hno (by simp)] at hfound
    exact hfound rfl
  rw [isDirectoryAt_congr (entry?_put_of_ne hne)]
  by_cases hthere : there ++ [n] = loc ++ [name]
  · obtain ⟨rfl, -⟩ := List.append_inj' hthere rfl
    exact hdir
  · rw [entry?_put_of_ne hthere] at hfound
    exact h there n hfound

theorem Rooted.eraseTree (h : store.Rooted) : (store.eraseTree loc).Rooted := by
  intro there n hfound
  have hbelow : ¬ loc <+: there ++ [n] := by
    intro habove
    rw [entry?_eraseTree_below (by simp) habove] at hfound
    exact hfound rfl
  rw [entry?_eraseTree_of_not_below hbelow] at hfound
  have hthere : ¬ loc <+: there := fun habove => hbelow (habove.trans (List.prefix_append _ _))
  rw [isDirectoryAt_congr (entry?_eraseTree_of_not_below hthere)]
  exact h there n hfound

/-! ## Changes below a location -/

/-- Nothing is changed but at a location and below it. -/
def Within (loc : Location) (before after : FileStore) : Prop :=
  ∀ l, ¬ loc <+: l → after.entry? l = before.entry? l

theorem Within.refl (loc : Location) (store : FileStore) : Within loc store store := fun _ _ => rfl

theorem Within.trans (h : Within loc before after) (h' : Within loc after last) :
    Within loc before last := fun l hl => (h' l hl).trans (h l hl)

/-- A change below a location is one below any location above it. -/
theorem Within.mono (h : Within l before after) (hloc : loc <+: l) : Within loc before after :=
  fun there hthere => h there fun habove => hthere (hloc.trans habove)

theorem within_put (store : FileStore) (loc : Location) (e : Entry) :
    Within loc store (store.put loc e) := by
  intro l hl
  refine entry?_put_of_ne ?_
  rintro rfl
  exact hl (List.prefix_refl l)

theorem within_eraseTree (store : FileStore) (loc : Location) :
    Within loc store (store.eraseTree loc) := fun _ hl => entry?_eraseTree_of_not_below hl

/-- **A change where a store has nothing keeps what the store has.** -/
theorem Within.keeps (h : Within loc before after) (hkeeps : Keeps store before) (hroot : store.Rooted)
    (hnone : store.entry? loc = none) : Keeps store after := by
  intro l e hl
  rw [h l]
  · exact hkeeps l e hl
  · rintro ⟨rel, rfl⟩
    rw [hroot.entry?_below hnone] at hl
    cases hl

/-- Of two locations neither of which is above the other, a change below one leaves the other alone. -/
theorem Within.entry?_append {other rel : Location} (h : Within loc before after)
    (hlength : loc.length = other.length) (hne : loc ≠ other) :
    after.entry? (other ++ rel) = before.entry? (other ++ rel) := by
  refine h _ fun habove => hne ?_
  exact List.IsPrefix.eq_of_length
    (List.prefix_of_prefix_length_le habove (List.prefix_append other rel) (Nat.le_of_eq hlength)) hlength

end Conformance.FileStore
