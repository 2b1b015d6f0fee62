import Conformance.Proofs.Path.Join

/-!
# Following paths

Where the steps of a path lead in a store of files, and when they still lead there in another store.

* `FileStore.Reaches` : steps lead from one location to another, and so many links may be followed
  before and after;
* `FileStore.Reaches.walk_append`, `FileStore.exists_reaches` : what a walk does;
* `FileStore.descends`, `FileStore.reaches_of_descends` : names that lead from directory to directory;
* `FileStore.Keeps` : a store still has all entries of another; `FileStore.Reaches.keeps` : then all
  steps lead where they led.
-/

namespace Conformance.FileStore

variable {store later : FileStore} {budget budget' budget'' : Nat} {here there elsewhere : Location}
  {todo more : List String}

/-! ## Reaching a location -/

/-- The steps lead from the location `here` to the location `there` if all links are followed. Of the
links that may be followed so many are left. -/
inductive Reaches (store : FileStore) :
    Nat → Location → List String → Nat → Location → Prop where
  | done {budget : Nat} {here : Location} : Reaches store budget here [] budget here
  | current {budget budget' : Nat} {here there : Location} {todo : List String}
    (inside : store.isDirectoryAt here = true) (rest : Reaches store budget here todo budget' there) :
    Reaches store budget here ("." :: todo) budget' there
  | parent {budget budget' : Nat} {here there : Location} {todo : List String}
    (inside : store.isDirectoryAt here = true)
    (rest : Reaches store budget here.dropLast todo budget' there) :
    Reaches store budget here (".." :: todo) budget' there
  | link {budget budget' : Nat} {here there : Location} {step : String} {todo : List String}
    {target : Path} (inside : store.isDirectoryAt here = true) (named : step ≠ "." ∧ step ≠ "..")
    (short : step.utf8ByteSize ≤ nameLimit)
    (found : store.entry? (here ++ [step]) = some (.link target))
    (rest : Reaches store budget (if target.isAbsolute then [] else here) (steps target ++ todo)
      budget' there) :
    Reaches store (budget + 1) here (step :: todo) budget' there
  | entry {budget budget' : Nat} {here there : Location} {step : String} {todo : List String}
    {e : Entry} (inside : store.isDirectoryAt here = true) (named : step ≠ "." ∧ step ≠ "..")
    (short : step.utf8ByteSize ≤ nameLimit) (found : store.entry? (here ++ [step]) = some e)
    (no_link : ∀ target, e ≠ .link target)
    (rest : Reaches store budget (here ++ [step]) todo budget' there) :
    Reaches store budget here (step :: todo) budget' there

/-- A walk goes on from where its first steps lead. -/
theorem Reaches.walk_append (h : Reaches store budget here todo budget' there) {follow : Bool}
    (hmore : more ≠ [] ∨ follow = true) :
    store.walk follow budget here (todo ++ more) = store.walk follow budget' there more := by
  induction h with
  | done => rw [List.nil_append]
  | current inside _ ih =>
    rw [List.cons_append, walk]
    simp [inside, ih]
  | parent inside _ ih =>
    rw [List.cons_append, walk]
    simp [inside, ih]
  | @link _ _ _ _ _ todo _ inside named short found _ ih =>
    have hfollow : ((todo ++ more).isEmpty && !follow) = false := by
      rcases hmore with hmore | rfl
      · simp [hmore]
      · simp
    rw [List.cons_append, walk]
    simp only [inside, named.1, named.2, found, hfollow, Nat.not_lt_of_le short, Bool.not_true,
      Bool.false_eq_true, if_false]
    rw [← List.append_assoc, ih]
  | @entry _ _ _ _ _ _ e inside named short found no_link _ ih =>
    rw [List.cons_append, walk]
    simp only [inside, named.1, named.2, found, Nat.not_lt_of_le short, Bool.not_true,
      Bool.false_eq_true, if_false]
    cases e with
    | link target => exact absurd rfl (no_link target)
    | file => exact ih
    | directory => exact ih
    | device => exact ih

theorem Reaches.walk (h : Reaches store budget here todo budget' there) :
    store.walk true budget here todo = .ok there := by
  have hwalk : store.walk true budget here (todo ++ []) = store.walk true budget' there [] :=
    h.walk_append (.inr rfl)
  rw [List.append_nil] at hwalk
  rw [hwalk, FileStore.walk]

/-- Where a walk ends, its steps lead. -/
theorem exists_reaches (h : store.walk true budget here todo = .ok there) :
    ∃ budget', Reaches store budget here todo budget' there := by
  fun_induction FileStore.walk store true budget here todo with
  | case1 budget here =>
    cases h
    exact ⟨budget, .done⟩
  | case2 => cases h
  | case3 budget here rest inside ih =>
    obtain ⟨budget', hrest⟩ := ih h
    exact ⟨budget', .current (by simpa using inside) hrest⟩
  | case4 budget here rest inside _ ih =>
    obtain ⟨budget', hrest⟩ := ih h
    exact ⟨budget', .parent (by simpa using inside) hrest⟩
  | case5 => cases h
  | case6 => cases h
  | case7 _ _ _ _ _ _ _ _ _ _ _ hend => simp at hend
  | case8 => cases h
  | case9 here step rest inside hcurrent hparent hshort there target found _ budget start ih =>
    obtain ⟨budget', hrest⟩ := ih h
    exact ⟨budget', .link (by simpa using inside) ⟨hcurrent, hparent⟩ (Nat.le_of_not_lt hshort) found
      hrest⟩
  | case10 budget here step rest inside hcurrent hparent hshort there e hnolink found ih =>
    obtain ⟨budget', hrest⟩ := ih h
    exact ⟨budget', .entry (by simpa using inside) ⟨hcurrent, hparent⟩ (Nat.le_of_not_lt hshort) found
      (fun target heq => hnolink target heq) hrest⟩

/-- Steps lead to one location only. -/
theorem Reaches.append (h : Reaches store budget here todo budget' there)
    (h' : Reaches store budget' there more budget'' elsewhere) :
    Reaches store budget here (todo ++ more) budget'' elsewhere := by
  induction h with
  | done => exact h'
  | current inside _ ih => exact .current inside (ih h')
  | parent inside _ ih => exact .parent inside (ih h')
  | link inside named short found _ ih =>
    rw [List.append_assoc] at ih
    exact .link inside named short found (ih h')
  | entry inside named short found no_link _ ih =>
    exact .entry inside named short found no_link (ih h')

/-- Steps lead somewhere only through where their first part leads. -/
theorem Reaches.exists_middle (h : Reaches store budget here (todo ++ more) budget'' elsewhere) :
    ∃ budget' there, Reaches store budget here todo budget' there ∧
      Reaches store budget' there more budget'' elsewhere := by
  generalize hall : todo ++ more = all at h
  induction h generalizing todo with
  | done =>
    obtain ⟨rfl, rfl⟩ := List.append_eq_nil_iff.mp hall
    exact ⟨_, _, .done, .done⟩
  | current inside rest ih =>
    cases todo with
    | nil =>
      obtain rfl : more = _ := hall
      exact ⟨_, _, .done, .current inside rest⟩
    | cons step todo =>
      rw [List.cons_append, List.cons.injEq] at hall
      obtain ⟨rfl, hall⟩ := hall
      obtain ⟨_, _, hfirst, hlast⟩ := ih hall
      exact ⟨_, _, .current inside hfirst, hlast⟩
  | parent inside rest ih =>
    cases todo with
    | nil =>
      obtain rfl : more = _ := hall
      exact ⟨_, _, .done, .parent inside rest⟩
    | cons step todo =>
      rw [List.cons_append, List.cons.injEq] at hall
      obtain ⟨rfl, hall⟩ := hall
      obtain ⟨_, _, hfirst, hlast⟩ := ih hall
      exact ⟨_, _, .parent inside hfirst, hlast⟩
  | link inside named short found rest ih =>
    cases todo with
    | nil =>
      obtain rfl : more = _ := hall
      exact ⟨_, _, .done, .link inside named short found rest⟩
    | cons step todo =>
      rw [List.cons_append, List.cons.injEq] at hall
      obtain ⟨rfl, hall⟩ := hall
      -- the steps of the target come before what is left of the first part
      rw [← hall, ← List.append_assoc] at ih
      obtain ⟨_, _, hfirst, hlast⟩ := ih rfl
      exact ⟨_, _, .link inside named short found hfirst, hlast⟩
  | entry inside named short found no_link rest ih =>
    cases todo with
    | nil =>
      obtain rfl : more = _ := hall
      exact ⟨_, _, .done, .entry inside named short found no_link rest⟩
    | cons step todo =>
      rw [List.cons_append, List.cons.injEq] at hall
      obtain ⟨rfl, hall⟩ := hall
      obtain ⟨_, _, hfirst, hlast⟩ := ih hall
      exact ⟨_, _, .entry inside named short found no_link hfirst, hlast⟩

/-- Whether names lead down from a location, one entry after another and none of them a link. -/
def descends (store : FileStore) : Location → List String → Bool
  | _, [] => true
  | here, name :: rest =>
    store.isDirectoryAt here && name != "." && name != ".." && decide (name.utf8ByteSize ≤ nameLimit) &&
      (match store.entry? (here ++ [name]) with
        | none => false
        | some (.link _) => false
        | some _ => true) &&
      store.descends (here ++ [name]) rest

/-- Names that lead down lead to the location that they name. -/
theorem reaches_of_descends {names : List String} (h : store.descends here names = true) :
    Reaches store budget here names budget (here ++ names) := by
  induction names generalizing here with
  | nil =>
    rw [List.append_nil]
    exact .done
  | cons name rest ih =>
    simp only [descends, Bool.and_eq_true, bne_iff_ne, decide_eq_true_eq] at h
    obtain ⟨⟨⟨⟨⟨inside, hcurrent⟩, hparent⟩, hshort⟩, hentry⟩, hrest⟩ := h
    have hreaches := ih hrest
    rw [List.append_assoc, List.singleton_append] at hreaches
    cases hfound : store.entry? (here ++ [name]) with
    | none => simp [hfound] at hentry
    | some e =>
      refine .entry inside ⟨hcurrent, hparent⟩ hshort hfound ?_ hreaches
      rintro target rfl
      simp [hfound] at hentry

/-! ## Stores that keep what another has -/

/-- The later store has all entries that the store has. -/
def Keeps (store later : FileStore) : Prop :=
  ∀ loc e, store.entry? loc = some e → later.entry? loc = some e

theorem Keeps.refl (store : FileStore) : Keeps store store := fun _ _ h => h

theorem Keeps.trans {last : FileStore} (h : Keeps store later) (h' : Keeps later last) :
    Keeps store last := fun loc e hfound => h' loc e (h loc e hfound)

theorem isDirectoryAt_iff {loc : Location} :
    store.isDirectoryAt loc = true ↔ ∃ readable, store.entry? loc = some (.directory readable) := by
  unfold isDirectoryAt
  constructor
  · intro h
    split at h
    · exact ⟨_, ‹_›⟩
    · cases h
  · rintro ⟨readable, h⟩
    rw [h]

theorem Keeps.isDirectoryAt {loc : Location} (h : Keeps store later)
    (hdir : store.isDirectoryAt loc = true) : later.isDirectoryAt loc = true := by
  obtain ⟨readable, hentry⟩ := isDirectoryAt_iff.mp hdir
  exact isDirectoryAt_iff.mpr ⟨readable, h loc _ hentry⟩

/-- **Where all entries are kept, all steps lead where they led.** -/
theorem Reaches.keeps (h : Reaches store budget here todo budget' there) (hkeeps : Keeps store later) :
    Reaches later budget here todo budget' there := by
  induction h with
  | done => exact .done
  | current inside _ ih => exact .current (hkeeps.isDirectoryAt inside) ih
  | parent inside _ ih => exact .parent (hkeeps.isDirectoryAt inside) ih
  | link inside named short found _ ih =>
    exact .link (hkeeps.isDirectoryAt inside) named short (hkeeps _ _ found) ih
  | entry inside named short found no_link _ ih =>
    exact .entry (hkeeps.isDirectoryAt inside) named short (hkeeps _ _ found) no_link ih

end Conformance.FileStore
