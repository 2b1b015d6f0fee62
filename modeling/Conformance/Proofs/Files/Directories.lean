import Conformance.Proofs.Files.Reached

/-!
# Making directories

What making a directory and its parents does, and where the path of a made directory leads.

* `FileStore.makeDirectories_changes` : nothing is lost, and the directory is there;
* `FileStore.makeDirectories_of_isDirectory` : nothing is done for a directory that is there;
* `Setting.absolute` : the absolute path that a path stands for; `Setting.Stands` : the working
  directory is there; `Setting.Stands.exists_reached` : then a directory is reached on its absolute
  path as well.
-/

namespace Conformance

namespace FileStore

variable {store later : FileStore} {cwd dir loc : Location} {p : Path} {name : String} {budget : Nat}

/-! ## One directory -/

theorem makeDirectory_eq_ok (h : store.makeDirectory cwd p = .ok later) :
    ∃ dir name, store.resolveParent cwd p = .ok (dir, name) ∧ store.entry? (dir ++ [name]) = none ∧
      later = store.put (dir ++ [name]) (.directory true) := by
  unfold makeDirectory at h
  cases hparent : store.resolveParent cwd p with
  | error e =>
    rw [hparent] at h
    cases h
  | ok found =>
    obtain ⟨dir, name⟩ := found
    rw [hparent] at h
    simp only [bind, Except.bind] at h
    cases hentry : store.entry? (dir ++ [name]) with
    | some e =>
      rw [hentry] at h
      cases h
    | none =>
      rw [hentry] at h
      exact ⟨dir, name, rfl, hentry, (Except.ok.inj h).symm⟩

/-- A directory can be made under a new name. -/
theorem Reached.makeDirectory_name_eq {base : Path} (h : Reached store base budget dir)
    (hname : IsName name) (hshort : name.utf8ByteSize ≤ nameLimit)
    (hacc : (base.join ⟨name⟩).Accepted) (hnone : store.entry? (dir ++ [name]) = none) :
    store.makeDirectory cwd (base.join ⟨name⟩) = .ok (store.put (dir ++ [name]) (.directory true)) := by
  rw [makeDirectory, h.resolveParent_name hname hacc, if_neg (Nat.not_lt_of_le hshort)]
  simp only [bind, Except.bind, hnone]

/-- What is put where nothing stood leaves all entries as they were. -/
theorem keeps_put {e : Entry} (h : store.entry? loc = none) : Keeps store (store.put loc e) := by
  intro l found hl
  rw [entry?_put_of_ne, hl]
  rintro rfl
  rw [h] at hl
  cases hl

theorem Keeps.isDirectory (hkeeps : Keeps store later) (h : store.isDirectory cwd p = true) :
    later.isDirectory cwd p = true := by
  unfold FileStore.isDirectory at *
  cases hfound : store.find cwd p with
  | error e => simp [hfound] at h
  | ok e =>
    rw [find_keeps hfound hkeeps]
    rw [hfound] at h
    exact h

theorem isDirectory_of_reaches (hacc : p.Accepted)
    (hreaches : Reaches store linkLimit (if p.isAbsolute then [] else cwd) (steps p) budget loc)
    (hdir : store.isDirectoryAt loc = true) : store.isDirectory cwd p = true := by
  obtain ⟨readable, hentry⟩ := isDirectoryAt_iff.mp hdir
  rw [isDirectory, find_eq_ok_iff.mpr ⟨loc, resolve_of_reaches hacc hreaches, hentry⟩]

/-- The place of a directory that is there. -/
theorem exists_reaches_of_isDirectory (h : store.isDirectory cwd p = true) :
    p.Accepted ∧ ∃ budget loc,
      Reaches store linkLimit (if p.isAbsolute then [] else cwd) (steps p) budget loc ∧
        store.isDirectoryAt loc = true := by
  unfold isDirectory at h
  cases hfound : store.find cwd p with
  | error e => simp [hfound] at h
  | ok e =>
    obtain ⟨loc, hresolve, hentry⟩ := find_eq_ok_iff.mp hfound
    obtain ⟨budget, hreaches⟩ := exists_reaches_of_resolve hresolve
    refine ⟨accepted_of_resolve hresolve, budget, loc, hreaches, ?_⟩
    rw [hfound] at h
    cases e with
    | directory readable => exact isDirectoryAt_of_entry? hentry
    | _ => cases h

/-- A step by name leads through an entry of that name. -/
theorem Reaches.entry?_ne_none {todo : List String} {budget' : Nat} {there : Location}
    (h : Reaches store budget loc (name :: todo) budget' there) (hnamed : name ≠ "." ∧ name ≠ "..") :
    store.entry? (loc ++ [name]) ≠ none := by
  cases h with
  | current => exact absurd rfl hnamed.1
  | parent => exact absurd rfl hnamed.2
  | link _ _ _ found => simp [found]
  | entry _ _ _ found => simp [found]

/-- The first step is taken from a directory. -/
theorem Reaches.inside {here there : Location} {step : String} {todo : List String} {budget' : Nat}
    (h : Reaches store budget here (step :: todo) budget' there) : store.isDirectoryAt here = true := by
  generalize hall : step :: todo = all at h
  cases h with
  | done => cases hall
  | current inside => exact inside
  | parent inside => exact inside
  | link inside => exact inside
  | entry inside => exact inside

/-- A directory that was made is there. -/
theorem isDirectory_of_makeDirectory (h : store.makeDirectory cwd p = .ok later) :
    later.isDirectory cwd p = true := by
  obtain ⟨dir, name, hparent, hnone, rfl⟩ := makeDirectory_eq_ok h
  obtain ⟨hacc, hnamed, hshort, hdir, before, budget, hnames, hreaches⟩ :=
    resolveParent_eq_ok hparent
  have hkeeps : Keeps store (store.put (dir ++ [name]) (.directory true)) := keeps_put hnone
  have hentry : entry? (store.put (dir ++ [name]) (.directory true)) (dir ++ [name]) =
      some (.directory true) := entry?_put_self (by simp)
  have hto : Reaches (store.put (dir ++ [name]) (.directory true)) linkLimit
      (if p.isAbsolute then [] else cwd) p.names budget (dir ++ [name]) := by
    rw [hnames]
    exact (hreaches.keeps hkeeps).append
      (.entry (hkeeps.isDirectoryAt hdir) hnamed hshort hentry (fun _ heq => by cases heq) .done)
  have hthere := isDirectoryAt_of_entry? hentry
  have hsteps : Reaches (store.put (dir ++ [name]) (.directory true)) linkLimit
      (if p.isAbsolute then [] else cwd) (steps p) budget (dir ++ [name]) := by
    rw [steps_eq]
    by_cases hlast : p.segments.getLast? = some ""
    · rw [if_pos hlast]
      exact hto.append (.current hthere .done)
    · rw [if_neg hlast, List.append_nil]
      exact hto
  exact isDirectory_of_reaches hacc hsteps hthere

/-- No directory is made where one is. -/
theorem makeDirectory_ne_ok (h : store.isDirectory cwd p = true) :
    store.makeDirectory cwd p ≠ .ok later := by
  intro hmade
  obtain ⟨dir, name, hparent, hnone, -⟩ := makeDirectory_eq_ok hmade
  obtain ⟨-, hnamed, -, -, before, budget, hnames, hreaches⟩ := resolveParent_eq_ok hparent
  obtain ⟨-, budget', loc, hto, -⟩ := exists_reaches_of_isDirectory h
  rw [steps_eq, hnames, List.append_assoc] at hto
  obtain ⟨budget₂, there, hfirst, hrest⟩ := hto.exists_middle
  obtain rfl : there = dir := Except.ok.inj (hfirst.walk.symm.trans hreaches.walk)
  exact hrest.entry?_ne_none hnamed hnone

/-! ## A directory and its parents -/

/-- What making directories does: nothing is lost, entries still stand in directories, and the
directory is there. -/
structure Furnished (cwd : Location) (p : Path) (store later : FileStore) : Prop where
  /-- All entries are kept. -/
  keeps : Keeps store later
  /-- Entries still stand in directories. -/
  rooted : store.Rooted → later.Rooted
  /-- The directory is there. -/
  there : p.text.isEmpty = true ∨ later.isDirectory cwd p = true

theorem Furnished.of_makeDirectory (h : store.makeDirectory cwd p = .ok later) :
    Furnished cwd p store later := by
  refine ⟨?_, fun hrooted => ?_, .inr (isDirectory_of_makeDirectory h)⟩
  all_goals obtain ⟨dir, name, hparent, hnone, rfl⟩ := makeDirectory_eq_ok h
  · exact keeps_put hnone
  · obtain ⟨-, -, -, hdir, -⟩ := resolveParent_eq_ok hparent
    exact hrooted.put hdir (by rw [isDirectoryAt, hnone])

theorem Furnished.of_isDirectory (h : store.isDirectory cwd p = true) : Furnished cwd p store store :=
  ⟨.refl store, id, .inr h⟩

theorem makeUpTo_changes {depth : Nat} (h : store.makeUpTo cwd depth p = .ok later) :
    Furnished cwd p store later := by
  induction depth generalizing p later with
  | zero =>
    rw [makeUpTo] at h
    split at h
    · rename_i hempty
      cases h
      exact ⟨.refl store, id, .inl hempty⟩
    · split at h
      · rename_i hmade
        cases h
        exact .of_makeDirectory hmade
      · split at h
        · rename_i hdir
          cases h
          exact .of_isDirectory hdir
        · split at h <;> cases h
  | succ depth ih =>
    rw [makeUpTo] at h
    split at h
    · rename_i hempty
      cases h
      exact ⟨.refl store, id, .inl hempty⟩
    split at h
    · rename_i hmade
      cases h
      exact .of_makeDirectory hmade
    split at h
    · rename_i hdir
      cases h
      exact .of_isDirectory hdir
    split at h
    · cases h
    split at h
    · rename_i heq hparent
      cases heq
      split at h
      · cases h
      · rename_i between hbetween
        have hbefore := ih hbetween
        split at h
        · rename_i hmade
          cases h
          have hafter := Furnished.of_makeDirectory hmade
          exact ⟨hbefore.keeps.trans hafter.keeps, fun hrooted => hafter.rooted (hbefore.rooted hrooted),
            hafter.there⟩
        · split at h
          · rename_i hdir
            cases h
            exact ⟨hbefore.keeps, hbefore.rooted, .inr hdir⟩
          · cases h
    · cases h

/-- **Making a directory with its parents loses nothing, and then it is there.** -/
theorem makeDirectories_changes (h : store.makeDirectories cwd p = .ok later) :
    Furnished cwd p store later := makeUpTo_changes h

/-- Nothing is done for a directory that is there. -/
theorem makeDirectories_of_isDirectory (h : p.text.isEmpty = true ∨ store.isDirectory cwd p = true) :
    store.makeDirectories cwd p = .ok store := by
  rw [makeDirectories, makeUpTo.eq_def]
  dsimp only
  rcases h with hempty | hdir
  · rw [if_pos hempty]
  · split
    · rfl
    · cases hmade : store.makeDirectory cwd p with
      | ok later => exact absurd hmade (makeDirectory_ne_ok hdir)
      | error e => rfl

end FileStore

/-! ## From the working directory -/

/-- The absolute path that a path stands for in a setting. -/
def Setting.absolute (setting : Setting) (p : Path) : Path := setting.directory.toPath.join p

/-- The working directory of a setting is there, and so are the directories above it. -/
structure Setting.Stands (setting : Setting) (files : FileStore) : Prop where
  /-- Its names can stand in directories. -/
  proper : setting.directory.Proper
  /-- Its names are not too long. -/
  short : ∀ name ∈ setting.directory, name.utf8ByteSize ≤ FileStore.nameLimit
  /-- It is there, and so are the directories above it. -/
  directories : ∀ above, above <+: setting.directory → files.isDirectoryAt above = true

namespace Setting

open FileStore

variable {setting : Setting} {files later : FileStore} {p : Path}

theorem Stands.keeps (h : setting.Stands files) (hkeeps : Keeps files later) : setting.Stands later :=
  ⟨h.proper, h.short, fun above habove => hkeeps.isDirectoryAt (h.directories above habove)⟩

/-- From above the working directory, the names below lead to it. -/
theorem Stands.reaches_of_append (h : setting.Stands files) {budget : Nat} {above rest : Location}
    (heq : above ++ rest = setting.directory) :
    Reaches files budget above rest budget setting.directory := by
  induction rest generalizing above with
  | nil =>
    rw [List.append_nil] at heq
    rw [heq]
    exact .done
  | cons name rest ih =>
    have hmem : name ∈ setting.directory := by
      rw [← heq]
      simp
    have hnext : above ++ [name] ++ rest = setting.directory := by rw [← heq]; simp
    have hname := h.proper name hmem
    obtain ⟨readable, hentry⟩ :=
      isDirectoryAt_iff.mp (h.directories (above ++ [name]) ⟨rest, hnext⟩)
    exact .entry (h.directories above ⟨name :: rest, heq⟩) ⟨hname.ne_current, hname.ne_parent⟩
      (h.short name hmem) hentry (fun _ heq => by cases heq) (ih hnext)

theorem isAbsolute_absolute (setting : Setting) (p : Path) :
    (setting.absolute p).isAbsolute = true := by
  unfold absolute
  by_cases hp : p.isAbsolute = true
  · rw [Path.join, if_pos hp, hp]
  · exact Path.isAbsolute_join (Location.isAbsolute_toPath _) (by simpa using hp)

/-- **On the absolute path of a directory, the directory is reached.** -/
theorem Stands.exists_reached (h : setting.Stands files)
    (hp : p.text.isEmpty = true ∨ files.isDirectory setting.directory p = true) :
    ∃ budget root, Reached files (setting.absolute p) budget root := by
  have hcwd : Reaches files linkLimit [] setting.directory linkLimit setting.directory :=
    h.reaches_of_append (List.nil_append _)
  have hslash : setting.directory.toPath.text ≠ "" := by
    intro hempty
    have habs := Location.isAbsolute_toPath setting.directory
    simp [Path.isAbsolute, hempty] at habs
  -- the names of the path lead to a directory from where the path starts
  have hto : ∃ budget root, Reaches files linkLimit (if p.isAbsolute then [] else setting.directory)
      p.names budget root ∧ files.isDirectoryAt root = true := by
    rcases hp with hempty | hdir
    · have htext : p.text = "" := by simpa using hempty
      have hnames : p.names = [] := by simp [Path.names, Path.segments, htext, splitOnChar]
      have hrel : p.isAbsolute = false := by simp [Path.isAbsolute, htext]
      rw [hnames, hrel]
      exact ⟨_, _, .done, h.directories _ (List.prefix_refl _)⟩
    · obtain ⟨-, budget, root, hreaches, hroot⟩ := exists_reaches_of_isDirectory hdir
      rw [steps_eq] at hreaches
      obtain ⟨budget', there, hfirst, hlast⟩ := hreaches.exists_middle
      refine ⟨budget', there, hfirst, ?_⟩
      split at hlast
      · exact hlast.inside
      · cases hlast
        exact hroot
  obtain ⟨budget, root, hreaches, hroot⟩ := hto
  refine ⟨budget, root, setting.isAbsolute_absolute p, ?_, hroot⟩
  by_cases hp' : p.isAbsolute = true
  · rw [if_pos hp'] at hreaches
    rw [absolute, Path.join, if_pos hp']
    exact hreaches
  · rw [if_neg hp'] at hreaches
    rw [absolute, Path.names_join hslash (by simpa using hp'), Location.names_toPath h.proper]
    exact hcwd.append hreaches

end Setting

end Conformance
