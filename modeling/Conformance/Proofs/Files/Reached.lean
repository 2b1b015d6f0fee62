import Conformance.Proofs.Files.Change

/-!
# Paths in a directory

Where a path leads that names something in a directory, and what is done there.

* `Path.Accepted` : paths that the operating system takes;
* `FileStore.Leads`, `FileStore.find_eq_ok_iff_leads` : what a path leads to, links followed, is what is
  found at it;
* `FileStore.Reached` : an absolute path leads to a directory; `FileStore.Reached.join` : so does the
  path of a directory in it;
* `FileStore.Reached.resolveParent_name`, `FileStore.Reached.resolve_name` : what a name in the
  directory comes down to; `FileStore.reached_of_resolveParent` : the directory of a name;
* `FileStore.Reached.find_join` : looking for a path from the directory;
* `FileStore.Reached.copy_name` : copying to a name in the directory;
* `FileStore.find_keeps` : what is found is still found where all entries are kept.
-/

namespace Conformance

/-- A path that the operating system takes. -/
structure Path.Accepted (p : Path) : Prop where
  no_nul : p.text.toList.contains '\x00' = false
  ne_empty : p.text.isEmpty = false
  /-- It is not too long. -/
  short : p.text.utf8ByteSize ≤ FileStore.pathLimit

namespace FileStore

variable {store later : FileStore} {cwd dir loc : Location} {base p : Path} {name : String}
  {budget : Nat} {follow : Bool}

/-! ## Resolving -/

theorem resolve_eq_of_accepted (h : p.Accepted) : store.resolve cwd follow p =
    (store.walk follow linkLimit (if p.isAbsolute then [] else cwd) (steps p)).mapError .os := by
  simp only [resolve, h.no_nul, h.ne_empty, Nat.not_lt_of_le h.short, Bool.false_eq_true, if_false]

/-- A path that is not accepted is refused, whatever it is wanted for. -/
theorem exists_refusal (store : FileStore) (cwd : Location) (follow : Bool) (h : ¬ p.Accepted) :
    ∃ e : Cause, store.resolve cwd follow p = .error e ∧ store.resolveParent cwd p = .error e := by
  unfold resolve resolveParent
  by_cases hnul : p.text.toList.contains '\x00' = true
  · exact ⟨_, by rw [if_pos hnul], by rw [if_pos hnul]⟩
  by_cases hempty : p.text.isEmpty = true
  · exact ⟨_, by rw [if_neg hnul, if_pos hempty], by rw [if_neg hnul, if_pos hempty]⟩
  by_cases hlong : p.text.utf8ByteSize > pathLimit
  · exact ⟨_, by rw [if_neg hnul, if_neg hempty, if_pos hlong],
      by rw [if_neg hnul, if_neg hempty, if_pos hlong]⟩
  · exact absurd ⟨by simpa using hnul, by simpa using hempty, Nat.le_of_not_lt hlong⟩ h

theorem accepted_of_resolve (h : store.resolve cwd follow p = .ok loc) : p.Accepted := by
  refine Classical.byContradiction fun hno => ?_
  obtain ⟨e, hresolve, -⟩ := exists_refusal store cwd follow hno
  rw [h] at hresolve
  cases hresolve

/-- Where a path is resolved to, its steps lead. -/
theorem exists_reaches_of_resolve (h : store.resolve cwd true p = .ok loc) :
    ∃ budget, Reaches store linkLimit (if p.isAbsolute then [] else cwd) (steps p) budget loc := by
  rw [resolve_eq_of_accepted (accepted_of_resolve h)] at h
  cases hwalk : store.walk true linkLimit (if p.isAbsolute then [] else cwd) (steps p) with
  | error e =>
    rw [hwalk] at h
    cases h
  | ok there =>
    rw [hwalk] at h
    cases h
    exact exists_reaches hwalk

theorem resolve_of_reaches (hacc : p.Accepted)
    (h : Reaches store linkLimit (if p.isAbsolute then [] else cwd) (steps p) budget loc) :
    store.resolve cwd true p = .ok loc := by
  rw [resolve_eq_of_accepted hacc, h.walk]
  rfl

/-- The directory of a path is where the names before the last one lead. -/
theorem resolveParent_eq_ok (h : store.resolveParent cwd p = .ok (dir, name)) :
    p.Accepted ∧ (name ≠ "." ∧ name ≠ "..") ∧ name.utf8ByteSize ≤ nameLimit ∧
      store.isDirectoryAt dir = true ∧ ∃ before budget, p.names = before ++ [name] ∧
        Reaches store linkLimit (if p.isAbsolute then [] else cwd) before budget dir := by
  have hacc : p.Accepted := by
    refine Classical.byContradiction fun hno => ?_
    obtain ⟨e, -, hparent⟩ := exists_refusal store cwd true hno
    rw [h] at hparent
    cases hparent
  have hnames : p.segments.filter (fun s => decide (s ≠ "")) = p.names := rfl
  simp only [resolveParent, hacc.no_nul, hacc.ne_empty, Nat.not_lt_of_le hacc.short,
    Bool.false_eq_true, if_false, hnames] at h
  cases hlast : p.names.getLast? with
  | none => simp [hlast] at h
  | some last =>
    obtain ⟨before, hbefore⟩ := List.getLast?_eq_some_iff.mp hlast
    simp only [hlast] at h
    rw [hbefore, List.dropLast_concat] at h
    cases hwalk : store.walk true linkLimit (if p.isAbsolute then [] else cwd) before with
    | error e => simp [hwalk] at h
    | ok there =>
      simp only [hwalk] at h
      split at h
      · cases h
      rename_i hdir
      split at h
      · cases h
      rename_i hnamed
      split at h
      · cases h
      rename_i hshort
      cases h
      obtain ⟨budget, hreaches⟩ := exists_reaches hwalk
      exact ⟨hacc, not_or.mp hnamed, Nat.le_of_not_lt hshort, by simpa using hdir,
        before, budget, hbefore, hreaches⟩

theorem find_eq_ok_iff {e : Entry} : store.find cwd p = .ok e ↔
    ∃ loc, store.resolve cwd true p = .ok loc ∧ store.entry? loc = some e := by
  unfold find
  cases store.resolve cwd true p with
  | error e => simp [bind, Except.bind]
  | ok loc =>
    simp only [bind, Except.bind, Except.ok.injEq, exists_eq_left']
    cases store.entry? loc <;> simp

/-- From a directory a path leads to an entry, all links followed. -/
structure Leads (store : FileStore) (cwd : Location) (p : Path) (e : Entry) : Prop where
  accepted : p.Accepted
  reaches : ∃ budget loc, store.entry? loc = some e ∧
    Reaches store linkLimit (if p.isAbsolute then [] else cwd) (steps p) budget loc

/-- What is found at a path is what it leads to. -/
theorem find_eq_ok_iff_leads {e : Entry} : store.find cwd p = .ok e ↔ store.Leads cwd p e := by
  rw [find_eq_ok_iff]
  constructor
  · rintro ⟨loc, hresolve, hentry⟩
    obtain ⟨budget, hreaches⟩ := exists_reaches_of_resolve hresolve
    exact ⟨accepted_of_resolve hresolve, budget, loc, hentry, hreaches⟩
  · rintro ⟨hacc, budget, loc, hentry, hreaches⟩
    exact ⟨loc, resolve_of_reaches hacc hreaches, hentry⟩

/-- **What is found is still found where all entries are kept.** -/
theorem find_keeps {e : Entry} (h : store.find cwd p = .ok e) (hkeeps : Keeps store later) :
    later.find cwd p = .ok e := by
  obtain ⟨loc, hresolve, hentry⟩ := find_eq_ok_iff.mp h
  obtain ⟨budget, hreaches⟩ := exists_reaches_of_resolve hresolve
  exact find_eq_ok_iff.mpr ⟨loc,
    resolve_of_reaches (accepted_of_resolve hresolve) (hreaches.keeps hkeeps), hkeeps _ _ hentry⟩

/-! ## Names in a directory -/

/-- An absolute path leads to a directory, after which so many more links may be followed. -/
structure Reached (store : FileStore) (p : Path) (budget : Nat) (loc : Location) : Prop where
  absolute : p.isAbsolute = true
  /-- Its names lead to the location. -/
  reaches : Reaches store linkLimit [] p.names budget loc
  /-- A directory stands there. -/
  directory : store.isDirectoryAt loc = true

theorem Reached.ne_empty (h : Reached store base budget dir) : base.text ≠ "" := by
  intro hempty
  have habs := h.absolute
  simp [Path.isAbsolute, hempty] at habs

theorem Reached.isAbsolute_join_name (h : Reached store base budget dir) (hname : IsName name) :
    (base.join ⟨name⟩).isAbsolute = true :=
  Path.isAbsolute_join h.absolute (Path.isAbsolute_of_isName hname)

theorem Reached.keeps (h : Reached store base budget dir) (hkeeps : Keeps store later) :
    Reached later base budget dir :=
  ⟨h.absolute, h.reaches.keeps hkeeps, hkeeps.isDirectoryAt h.directory⟩

/-- A path leads to one directory only. -/
theorem Reached.unique {budget' : Nat} {dir' : Location} (h : Reached store base budget dir)
    (h' : Reached store base budget' dir') : dir = dir' :=
  Except.ok.inj (h.reaches.walk.symm.trans h'.reaches.walk)

/-- A directory in a directory is reached through it. -/
theorem Reached.join (h : Reached store base budget dir) (hname : IsName name)
    (hshort : name.utf8ByteSize ≤ nameLimit) (hdir : store.isDirectoryAt (dir ++ [name]) = true) :
    Reached store (base.join ⟨name⟩) budget (dir ++ [name]) := by
  obtain ⟨readable, hentry⟩ := isDirectoryAt_iff.mp hdir
  refine ⟨h.isAbsolute_join_name hname, ?_, hdir⟩
  rw [Path.names_join_name h.ne_empty hname]
  exact h.reaches.append (.entry h.directory ⟨hname.ne_current, hname.ne_parent⟩ hshort hentry
    (fun _ heq => by cases heq) .done)

/-- From a directory a walk goes on with the steps of the other path. -/
theorem Reached.resolve_join (h : Reached store base budget dir) (hp : p.isAbsolute = false)
    (hacc : (base.join p).Accepted) (hsteps : steps p ≠ [] ∨ follow = true) :
    store.resolve cwd follow (base.join p) =
      (store.walk follow budget dir (steps p)).mapError .os := by
  rw [resolve_eq_of_accepted hacc, if_pos (Path.isAbsolute_join h.absolute hp),
    steps_join h.ne_empty hp, h.reaches.walk_append hsteps]

theorem walk_name (hdir : store.isDirectoryAt dir = true) (hname : IsName name) :
    store.walk follow budget dir [name] =
      if name.utf8ByteSize > nameLimit then .error .nameTooLong
      else
        match store.entry? (dir ++ [name]) with
        | none => .error .notFound
        | some (.link target) =>
          if !follow then .ok (dir ++ [name])
          else
            match budget with
            | 0 => .error .tooManyLinks
            | budget + 1 =>
              store.walk follow budget (if target.isAbsolute then [] else dir) (steps target)
        | some _ => .ok (dir ++ [name]) := by
  rw [walk]
  simp only [hdir, hname.ne_current, hname.ne_parent, Bool.not_true, Bool.false_eq_true, if_false,
    List.isEmpty_nil, Bool.true_and, List.append_nil]
  split
  · rfl
  · cases store.entry? (dir ++ [name]) with
    | none => rfl
    | some e =>
      cases e with
      | link target => rfl
      | file => simp [walk]
      | directory => simp [walk]
      | device => simp [walk]

theorem walk_name_missing (hdir : store.isDirectoryAt dir = true) (hname : IsName name)
    (hshort : name.utf8ByteSize ≤ nameLimit) (hnone : store.entry? (dir ++ [name]) = none) :
    store.walk follow budget dir [name] = .error .notFound := by
  rw [walk_name hdir hname, if_neg (Nat.not_lt_of_le hshort), hnone]

theorem steps_name (hname : IsName name) : steps ⟨name⟩ = [name] := by
  rw [steps_eq, Path.names_of_isName hname, Path.segments_of_not_mem hname.no_separator]
  simp [hname.ne_empty]

/-- What a name in a directory is resolved to. -/
theorem Reached.resolve_name (h : Reached store base budget dir) (hname : IsName name)
    (hacc : (base.join ⟨name⟩).Accepted) : store.resolve cwd follow (base.join ⟨name⟩) =
      (store.walk follow budget dir [name]).mapError .os := by
  rw [h.resolve_join (Path.isAbsolute_of_isName hname) hacc
    (.inl (by rw [steps_name hname]; simp)), steps_name hname]

/-- The directory of a name in a directory. -/
theorem Reached.resolveParent_name (h : Reached store base budget dir) (hname : IsName name)
    (hacc : (base.join ⟨name⟩).Accepted) : store.resolveParent cwd (base.join ⟨name⟩) =
      if name.utf8ByteSize > nameLimit then .error (.os .nameTooLong) else .ok (dir, name) := by
  have hnames : (base.join ⟨name⟩).segments.filter (· ≠ "") = base.names ++ [name] :=
    Path.names_join_name h.ne_empty hname
  simp only [resolveParent, hacc.no_nul, hacc.ne_empty, Nat.not_lt_of_le hacc.short,
    Bool.false_eq_true, if_false, hnames, List.getLast?_concat, List.dropLast_concat,
    h.isAbsolute_join_name hname, if_true, h.reaches.walk, h.directory, Bool.not_true,
    hname.ne_current, hname.ne_parent, or_self]

/-- The directory of a name is where the path before it leads. -/
theorem reached_of_resolveParent {found : String} (habs : base.isAbsolute = true)
    (hname : IsName name) (h : store.resolveParent cwd (base.join ⟨name⟩) = .ok (dir, found)) :
    found = name ∧ name.utf8ByteSize ≤ nameLimit ∧ (base.join ⟨name⟩).Accepted ∧
      ∃ budget, Reached store base budget dir := by
  have hbase : base.text ≠ "" := by
    intro hempty
    simp [Path.isAbsolute, hempty] at habs
  obtain ⟨hacc, -, hshort, hdir, before, budget, hnames, hreaches⟩ := resolveParent_eq_ok h
  rw [Path.names_join_name hbase hname] at hnames
  obtain ⟨rfl, heq⟩ := List.append_inj' hnames rfl
  obtain rfl : name = found := List.singleton_inj.mp heq
  rw [Path.isAbsolute_join habs (Path.isAbsolute_of_isName hname), if_pos rfl] at hreaches
  exact ⟨rfl, hshort, hacc, budget, habs, hreaches, hdir⟩

/-! ## Looking and copying -/

/-- What is found at a path from a directory. -/
theorem Reached.find_join (h : Reached store base budget dir) (hp : p.isAbsolute = false)
    (hacc : (base.join p).Accepted) : store.find cwd (base.join p) =
      ((store.walk true budget dir (steps p)).bind fun loc =>
        match store.entry? loc with
        | some e => .ok e
        | none => .error .notFound).mapError .os := by
  rw [find, h.resolve_join hp hacc (.inr rfl)]
  cases store.walk true budget dir (steps p) with
  | error e => rfl
  | ok loc =>
    simp only [Except.mapError, bind, Except.bind]
    cases store.entry? loc <;> rfl

/-- Writing to a name in a directory where no more than a regular file stands. -/
theorem Reached.write_name_eq (h : Reached store base budget dir) (hname : IsName name)
    (hshort : name.utf8ByteSize ≤ nameLimit) (hacc : (base.join ⟨name⟩).Accepted)
    (hfree : ∀ e, store.entry? (dir ++ [name]) = some e → ∃ c x, e = .file c x) (content : Bytes)
    (executable : Bool) : store.write cwd (base.join ⟨name⟩) content executable =
      .ok (store.put (dir ++ [name]) (.file content executable)) := by
  have hslash : (base.join ⟨name⟩).text.toList.getLast? ≠ some '/' :=
    Path.getLast?_join_name h.ne_empty hname
  rw [write, show linkLimit = 39 + 1 from rfl, putFile, h.resolve_name hname hacc,
    walk_name h.directory hname, h.resolveParent_name hname hacc, if_neg (Nat.not_lt_of_le hshort),
    if_neg (Nat.not_lt_of_le hshort)]
  cases hentry : store.entry? (dir ++ [name]) with
  | some e =>
    obtain ⟨c, x, rfl⟩ := hfree e hentry
    simp only [Except.mapError, hentry]
  | none =>
    simp only [Except.mapError, bind, Except.bind, hentry]
    rw [if_neg (by simpa using hslash)]

/-- Whatever is written to a name in a directory gets there. -/
theorem Reached.write_name {content : Bytes} {executable : Bool}
    (h : Reached store base budget dir) (hname : IsName name)
    (hfree : ∀ e, store.entry? (dir ++ [name]) = some e → ∃ c x, e = .file c x)
    (hwrite : store.write cwd (base.join ⟨name⟩) content executable = .ok later) :
    later = store.put (dir ++ [name]) (.file content executable) := by
  by_cases hacc : (base.join ⟨name⟩).Accepted
  · by_cases hshort : name.utf8ByteSize ≤ nameLimit
    · rw [h.write_name_eq hname hshort hacc hfree] at hwrite
      exact (Except.ok.inj hwrite).symm
    · rw [write, show linkLimit = 39 + 1 from rfl, putFile, h.resolve_name hname hacc,
        walk_name h.directory hname, if_pos (Nat.lt_of_not_le hshort)] at hwrite
      cases hwrite
  · obtain ⟨e, hresolve, hparent⟩ := exists_refusal store cwd true hacc
    rw [write, show linkLimit = 39 + 1 from rfl, putFile, hresolve, hparent] at hwrite
    cases e with
    | os e => cases e <;> cases hwrite
    | _ => cases hwrite

/-- A regular file can be copied to a name in a directory. -/
theorem Reached.copy_name_eq {source : Path} {content : Bytes} {executable : Bool}
    (h : Reached store base budget dir) (hname : IsName name)
    (hshort : name.utf8ByteSize ≤ nameLimit) (hacc : (base.join ⟨name⟩).Accepted)
    (hfree : ∀ e, store.entry? (dir ++ [name]) = some e → ∃ c x, e = .file c x)
    (hsource : store.find cwd source = .ok (.file content executable)) :
    store.copy cwd source (base.join ⟨name⟩) =
      .ok (store.put (dir ++ [name]) (.file content executable)) := by
  unfold copy
  rw [hsource]
  exact h.write_name_eq hname hshort hacc hfree content executable

/-- **Copying to a name in a directory puts the content there.** -/
theorem Reached.copy_name {source : Path} (h : Reached store base budget dir) (hname : IsName name)
    (hfree : ∀ e, store.entry? (dir ++ [name]) = some e → ∃ c x, e = .file c x)
    (hcopy : store.copy cwd source (base.join ⟨name⟩) = .ok later) :
    ∃ content executable, store.find cwd source = .ok (.file content executable) ∧
      later = store.put (dir ++ [name]) (.file content executable) := by
  unfold copy at hcopy
  cases hfound : store.find cwd source with
  | error e =>
    rw [hfound] at hcopy
    cases hcopy
  | ok e =>
    rw [hfound] at hcopy
    cases e with
    | file content executable =>
      exact ⟨content, executable, rfl, h.write_name hname hfree hcopy⟩
    | _ => cases hcopy

end FileStore

end Conformance
