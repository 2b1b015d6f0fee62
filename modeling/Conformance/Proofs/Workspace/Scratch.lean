import Conformance.Proofs.Files.Directories
import Conformance.Proofs.Suite.Course

/-!
# Scratch directories

Who makes directories with fresh names, and removes them, is left open. All that is known is that a
made directory is new and that a removal takes away a whole tree or fails.

* `IsEnding` : what makes a name fresh; `isName_nameStart` : no name of a case leads out of a directory;
* `Scratch` : making and removing, and what is known of them;
* `Scratch.environment` : the environment of a host where directories are made so;
* `IsWorkspace` : a name that was new in a directory; `Scratch.exists_workspace` : a made directory has
  one;
* `Host.scratch` : what a host in memory does.
-/

namespace Conformance

/-! ## Names of workspaces -/

/-- What a name ends with so that it is fresh: six letters or digits. -/
structure IsEnding (ending : String) : Prop where
  /-- It has six characters. -/
  length : ending.toList.length = 6
  /-- They are letters or digits. -/
  alphanum : ∀ c ∈ ending.toList, c.isAlphanum = true

theorem isPortable_of_mem_portableName {name : String} {c : Char} (h : c ∈ (portableName name).toList) :
    isPortable c = true := by
  unfold portableName at h
  split at h
  · have hall : "case".toList.all isPortable = true := by decide
    exact List.all_eq_true.mp hall c h
  · rw [String.toList_ofList, List.mem_map] at h
    obtain ⟨d, -, rfl⟩ := h
    by_cases hd : isPortable d = true
    · rw [if_pos hd, hd]
    · rw [if_neg hd]
      decide

theorem not_isPortable_slash : isPortable '/' = false := by decide

/-- **Whatever the characters of a name, it leads to no other directory.** -/
theorem isName_nameStart (name : String) {ending : String} (h : IsEnding ending) :
    IsName (Workspace.nameStart name ++ ending) := by
  have hchars : ∀ c ∈ (Workspace.nameStart name ++ ending).toList, isPortable c = true := by
    intro c hc
    rw [Workspace.nameStart, String.toList_append, String.toList_append, List.append_assoc,
      List.mem_append, List.mem_append] at hc
    rcases hc with hc | hc | hc
    · exact isPortable_of_mem_portableName hc
    · have hall : "_".toList.all isPortable = true := by decide
      exact List.all_eq_true.mp hall c hc
    · rw [isPortable, h.alphanum c hc]
      rfl
  have hunderline : '_' ∈ (Workspace.nameStart name ++ ending).toList := by
    rw [Workspace.nameStart, String.toList_append, String.toList_append]
    simp
  refine ⟨?_, ?_, ?_, ?_⟩
  · intro hempty
    rw [hempty] at hunderline
    cases hunderline
  · intro hslash
    have hportable := hchars _ hslash
    rw [not_isPortable_slash] at hportable
    cases hportable
  · intro hcurrent
    rw [hcurrent] at hunderline
    revert hunderline
    decide
  · intro hparent
    rw [hparent] at hunderline
    revert hunderline
    decide

theorem utf8Size_of_isAlphanum {c : Char} (h : c.isAlphanum = true) : c.utf8Size = 1 := by
  -- a letter or digit is a capital, a small letter or a digit: three ranges of values
  change (decide (c.val ≥ 'A'.val ∧ c.val ≤ 'Z'.val) ||
    (decide (c.val ≥ 'a'.val) && decide (c.val ≤ 'z'.val)) ||
    (decide (c.val ≥ '0'.val) && decide (c.val ≤ '9'.val))) = true at h
  simp only [Bool.or_eq_true, Bool.and_eq_true, decide_eq_true_eq] at h
  have hval : c.val ≤ 127 := by
    rcases h with (h | h) | h <;> exact UInt32.le_trans h.2 (by decide)
  unfold Char.utf8Size
  exact if_pos hval

theorem utf8ByteSize_ofList_of_alphanum {cs : List Char} (h : ∀ c ∈ cs, c.isAlphanum = true) :
    (String.ofList cs).utf8ByteSize = cs.length := by
  induction cs with
  | nil => rfl
  | cons c cs ih =>
    have hsplit : String.ofList (c :: cs) = String.singleton c ++ String.ofList cs := by simp
    have hone : (String.singleton c).utf8ByteSize = 1 := by
      rw [String.utf8ByteSize_singleton, utf8Size_of_isAlphanum (h c List.mem_cons_self)]
    rw [hsplit, String.utf8ByteSize_append, ih fun d hd => h d (List.mem_cons_of_mem _ hd), hone,
      List.length_cons, Nat.add_comm]

/-- All fresh endings are of one size. -/
theorem utf8ByteSize_of_isEnding {ending : String} (h : IsEnding ending) : ending.utf8ByteSize = 6 := by
  rw [← String.ofList_toList (s := ending), utf8ByteSize_ofList_of_alphanum h.alphanum, h.length]

/-! ## Making and removing -/

namespace Host

/-- A change of files either is made or changes nothing at all. -/
theorem change_answers {f : FileStore → Except Cause FileStore} {before after : Host}
    {answer : Except Cause Unit} (h : (change f).Answers before answer after) :
    (answer = .ok () ∧ f before.files = .ok after.files) ∨
      ∃ e, answer = .error e ∧ f before.files = .error e ∧ after.files = before.files := by
  change change f before = _ at h
  cases hf : f before.files with
  | ok files =>
    rw [change, hf] at h
    cases h
    exact .inl ⟨rfl, rfl⟩
  | error e =>
    rw [change, hf] at h
    cases h
    exact .inr ⟨e, rfl, rfl, rfl⟩

end Host

/-- Directories that are made with fresh names in a setting, and removed. -/
structure Scratch (setting : Setting) where
  /-- Makes a directory in another one, with a name that starts as given. -/
  make : Path → String → Action Host Path
  /-- Removes a directory and all below it. -/
  remove : Path → Action Host Unit
  /-- A made directory is new, and its name has a fresh ending. -/
  make_ok : ∀ {parent path : Path} {start : String} {before after : Host},
    (make parent start).Answers before (.ok path) after → ∃ ending, IsEnding ending ∧
      path = (setting.absolute parent).join ⟨start ++ ending⟩ ∧
      before.files.makeDirectory setting.directory path = .ok after.files
  /-- Where no directory is made, the files stay as they are. -/
  make_error : ∀ {parent : Path} {start : String} {before after : Host} {e : Cause},
    (make parent start).Answers before (.error e) after → after.files = before.files
  /-- A removal changes nothing but the tree, and takes all of it away or fails. -/
  remove_within : ∀ {base : Path} {name : String} {budget : Nat} {root : Location}
    {before after : Host} {answer : Except Cause Unit},
    before.files.Reached base budget root → IsName name →
    (remove (base.join ⟨name⟩)).Answers before answer after →
      FileStore.Within (root ++ [name]) before.files after.files ∧
        (before.files.Rooted → after.files.Rooted) ∧
        (answer = .ok () → after.files.entry? (root ++ [name]) = none)

variable {setting : Setting}

/-- The environment of a host where directories with fresh names are made and removed so. -/
def Scratch.environment (scratch : Scratch setting) (subject : Subject) : Environment Host :=
  { Host.environment setting subject with makeFresh := scratch.make, removeTree := scratch.remove }

/-! ## Workspaces -/

/-- A file is copied as the store copies it, or the files stay as they are. -/
theorem Scratch.copyFile_answers {scratch : Scratch setting} {subject : Subject} {source target : Path}
    {before after : Host} {answer : Except Cause Unit}
    (h : ((scratch.environment subject).copyFile source target).Answers before answer after) :
    (answer = .ok () ∧ before.files.copy setting.directory source target = .ok after.files) ∨
      ∃ e, answer = .error e ∧
        before.files.copy setting.directory source target = .error e ∧ after.files = before.files :=
  @Host.change_answers (fun files => files.copy setting.directory source target) _ _ _ h

/-- Directories are made as the store makes them, or the files stay as they are. -/
theorem Scratch.makeDirectories_answers {scratch : Scratch setting} {subject : Subject} {p : Path}
    {before after : Host} {answer : Except Cause Unit}
    (h : ((scratch.environment subject).makeDirectories p).Answers before answer after) :
    (answer = .ok () ∧ before.files.makeDirectories setting.directory p = .ok after.files) ∨
      ∃ e, answer = .error e ∧
        before.files.makeDirectories setting.directory p = .error e ∧ after.files = before.files :=
  @Host.change_answers (fun files => files.makeDirectories setting.directory p) _ _ _ h

/-- The name of a workspace in a directory where the files it is compared with have no such name. -/
structure IsWorkspace (base : FileStore) (parent : Path) (root : Location) (name : String) : Prop where
  /-- It can stand in a directory. -/
  isName : IsName name
  /-- It is not too long. -/
  short : name.utf8ByteSize ≤ FileStore.nameLimit
  /-- The path of the workspace may be used. -/
  accepted : (parent.join ⟨name⟩).Accepted
  /-- The name is new. -/
  fresh : base.entry? (root ++ [name]) = none

variable {base files later : FileStore} {parent : Path} {budget : Nat} {root : Location} {name : String}

/-- While its directory is there, a workspace is reached. -/
theorem IsWorkspace.reached (h : IsWorkspace base parent root name)
    (hroot : base.Reached parent budget root) (hkeeps : base.Keeps files)
    (hthere : files.isDirectoryAt (root ++ [name]) = true) :
    files.Reached (parent.join ⟨name⟩) budget (root ++ [name]) :=
  (hroot.keeps hkeeps).join h.isName h.short hthere

/-- While its directory is there, the path of a workspace leads to it. -/
theorem IsWorkspace.resolve (h : IsWorkspace base parent root name)
    (hroot : base.Reached parent budget root) (hkeeps : base.Keeps files)
    (hthere : files.isDirectoryAt (root ++ [name]) = true) (cwd : Location) :
    files.resolve cwd true (parent.join ⟨name⟩) = .ok (root ++ [name]) := by
  have hreached := h.reached hroot hkeeps hthere
  have hsteps : FileStore.steps (parent.join ⟨name⟩) = (parent.join ⟨name⟩).names := by
    rw [Path.steps_join_name hroot.ne_empty h.isName, Path.names_join_name hroot.ne_empty h.isName]
  have hreaches := hreached.reaches
  rw [← hsteps] at hreaches
  exact FileStore.resolve_of_reaches h.accepted (by rwa [if_pos hreached.absolute])

/-- Changes in a workspace lose nothing. -/
theorem IsWorkspace.keeps (h : IsWorkspace base parent root name) (hrooted : base.Rooted)
    (hkeeps : base.Keeps files) (hwithin : FileStore.Within (root ++ [name]) files later) :
    base.Keeps later := hwithin.keeps hkeeps hrooted h.fresh

/-- A directory is made where its path before the fresh name leads. -/
theorem Scratch.exists_reached (scratch : Scratch setting) {workRoot ws : Path} {caseName : String}
    {before after : Host}
    (h : (scratch.make workRoot (Workspace.nameStart caseName)).Answers before (.ok ws) after) :
    ∃ budget root, before.files.Reached (setting.absolute workRoot) budget root := by
  obtain ⟨ending, hending, rfl, hmade⟩ := scratch.make_ok h
  obtain ⟨root, last, hparent, -, -⟩ := FileStore.makeDirectory_eq_ok hmade
  obtain ⟨-, -, -, budget, hroot⟩ := FileStore.reached_of_resolveParent
    (setting.isAbsolute_absolute workRoot) (isName_nameStart caseName hending) hparent
  exact ⟨budget, root, hroot⟩

/-- **A made directory is new, and stands directly in the directory it was wanted in.** -/
theorem Scratch.exists_workspace (scratch : Scratch setting) {workRoot ws : Path} {caseName : String}
    {before after : Host} (hroot : base.Reached (setting.absolute workRoot) budget root)
    (hkeeps : base.Keeps before.files)
    (h : (scratch.make workRoot (Workspace.nameStart caseName)).Answers before (.ok ws) after) :
    ∃ ending, IsEnding ending ∧
      ws = (setting.absolute workRoot).join ⟨Workspace.nameStart caseName ++ ending⟩ ∧
      IsWorkspace base (setting.absolute workRoot) root (Workspace.nameStart caseName ++ ending) ∧
      before.files.entry? (root ++ [Workspace.nameStart caseName ++ ending]) = none ∧
      after.files =
        before.files.put (root ++ [Workspace.nameStart caseName ++ ending]) (.directory true) := by
  obtain ⟨ending, hending, rfl, hmade⟩ := scratch.make_ok h
  have hname := isName_nameStart caseName hending
  obtain ⟨there, last, hparent, hnone, hafter⟩ := FileStore.makeDirectory_eq_ok hmade
  obtain ⟨rfl, hshort, hacc, budget', hthere⟩ := FileStore.reached_of_resolveParent
    (setting.isAbsolute_absolute workRoot) hname hparent
  obtain rfl : there = root := hthere.unique (hroot.keeps hkeeps)
  refine ⟨ending, hending, rfl, ⟨hname, hshort, hacc, ?_⟩, hnone, hafter⟩
  cases hbase : base.entry? (there ++ [Workspace.nameStart caseName ++ ending]) with
  | none => rfl
  | some e =>
    rw [hkeeps _ _ hbase] at hnone
    cases hnone

/-! ## In memory -/

namespace Host

theorem freshDigits_length (length n : Nat) : (freshDigits length n).length = length := by
  induction length generalizing n with
  | zero => rfl
  | succ length ih => rw [freshDigits, List.length_append, ih, List.length_singleton]

theorem isAlphanum_of_mem_freshDigits {length n : Nat} {c : Char} (h : c ∈ freshDigits length n) :
    c.isAlphanum = true := by
  have hall : freshChars.all Char.isAlphanum = true := by decide
  have hdefault : 'A'.isAlphanum = true := by decide
  induction length generalizing n with
  | zero => cases h
  | succ length ih =>
    rw [freshDigits, List.mem_append, List.mem_singleton] at h
    rcases h with h | rfl
    · exact ih h
    · rw [List.getD_eq_getElem?_getD]
      cases hchar : freshChars[n % freshChars.length]? with
      | none => exact hdefault
      | some c => exact List.all_eq_true.mp hall c (List.mem_of_getElem? hchar)

theorem isEnding_freshEnding (n : Nat) : IsEnding (freshEnding n) := by
  constructor
  · rw [freshEnding, String.toList_ofList, freshDigits_length]
    rfl
  · intro c hc
    rw [freshEnding, String.toList_ofList] at hc
    exact isAlphanum_of_mem_freshDigits hc

/-- An ending is tried, and if its name is taken, the next ones are. -/
theorem makeFreshFrom_succ (cwd : Location) (base : Path) (start : String) (tries : Nat)
    (files : FileStore) (fresh : Nat) :
    makeFreshFrom cwd base start (tries + 1) ⟨files, fresh⟩ =
      match files.makeDirectory cwd (base.join ⟨start ++ freshEnding fresh⟩) with
      | .ok files => (.ok (base.join ⟨start ++ freshEnding fresh⟩), ⟨files, fresh + 1⟩)
      | .error (.os .alreadyExists) => makeFreshFrom cwd base start tries ⟨files, fresh + 1⟩
      | .error e => (.error (e.at (base.join ⟨start ++ freshEnding fresh⟩)), ⟨files, fresh + 1⟩) :=
  (rfl)

/-- Trying one ending after another comes to a new directory, or leaves the files alone. -/
theorem makeFreshFrom_answers {cwd : Location} {base : Path} {start : String} {tries : Nat}
    {before after : Host} {answer : Except Cause Path}
    (h : (makeFreshFrom cwd base start tries).Answers before answer after) :
    (∃ ending path, IsEnding ending ∧ path = base.join ⟨start ++ ending⟩ ∧ answer = .ok path ∧
        before.files.makeDirectory cwd path = .ok after.files) ∨
      ∃ e, answer = .error e ∧ after.files = before.files := by
  induction tries generalizing before with
  | zero =>
    cases h
    exact .inr ⟨_, rfl, rfl⟩
  | succ tries ih =>
    obtain ⟨files, fresh⟩ := before
    change makeFreshFrom cwd base start (tries + 1) ⟨files, fresh⟩ = (answer, after) at h
    rw [makeFreshFrom_succ] at h
    split at h
    · rename_i files hmade
      cases h
      exact .inl ⟨_, _, isEnding_freshEnding _, rfl, rfl, hmade⟩
    · exact @ih ⟨files, fresh + 1⟩ h
    · cases h
      exact .inr ⟨_, rfl, rfl⟩

/-- Removing a name from a directory takes away all below it, unless it is refused. -/
theorem removeTree_eq_ok {cwd : Location} {base : Path} {name : String} {budget : Nat}
    {root : Location} {before after : FileStore} (hbase : before.Reached base budget root)
    (hname : IsName name) (h : before.removeTree cwd (base.join ⟨name⟩) = .ok after) :
    after = before.eraseTree (root ++ [name]) := by
  unfold FileStore.removeTree at h
  cases hresolve : before.resolve cwd false (base.join ⟨name⟩) with
  | error e =>
    rw [hresolve] at h
    cases h
  | ok loc =>
    have hloc : root ++ [name] = loc := by
      have hacc := FileStore.accepted_of_resolve hresolve
      rw [hbase.resolve_name hname hacc, FileStore.walk_name hbase.directory hname] at hresolve
      split at hresolve
      · cases hresolve
      · cases hentry : before.entry? (root ++ [name]) with
        | none =>
          rw [hentry] at hresolve
          cases hresolve
        | some e =>
          rw [hentry] at hresolve
          cases e <;> exact Except.ok.inj hresolve
    rw [hresolve] at h
    simp only [bind, Except.bind] at h
    split at h
    · cases h
    · cases h
    · rw [hloc]
      exact (Except.ok.inj h).symm

/-- What a host in memory does. -/
def scratch (setting : Setting) : Scratch setting where
  make := makeFresh setting
  remove := fun p => change fun files =>
    (files.removeTree setting.directory p).mapError fun e => e.at p
  make_ok := by
    intro parent path start before after h
    rcases makeFreshFrom_answers h with ⟨ending, _, hending, hpath, heq, hmade⟩ | ⟨_, heq, -⟩
    · cases heq
      exact ⟨ending, hending, hpath, hmade⟩
    · cases heq
  make_error := by
    intro parent start before after e h
    rcases makeFreshFrom_answers h with ⟨_, _, -, -, heq, -⟩ | ⟨_, -, hfiles⟩
    · cases heq
    · exact hfiles
  remove_within := by
    intro base name budget root before after answer hbase hname h
    rcases change_answers h with ⟨rfl, hfiles⟩ | ⟨e, rfl, -, hfiles⟩
    · cases hremoved : before.files.removeTree setting.directory (base.join ⟨name⟩) with
      | error e =>
        rw [hremoved] at hfiles
        cases hfiles
      | ok erased =>
        rw [hremoved] at hfiles
        obtain rfl : erased = after.files := Except.ok.inj hfiles
        rw [removeTree_eq_ok hbase hname hremoved]
        exact ⟨FileStore.within_eraseTree _ _, FileStore.Rooted.eraseTree,
          fun _ => FileStore.entry?_eraseTree_below (by simp) (List.prefix_refl _)⟩
    · rw [hfiles]
      exact ⟨.refl _ _, id, fun heq => by cases heq⟩

/-- A directory is made under the first fresh name, if that is new. -/
theorem scratch_makeFresh {setting : Setting} {subject : Subject} {parent : Path} {start name : String}
    {files : FileStore} {fresh budget : Nat} {root : Location}
    (hstart : start ++ freshEnding fresh = name)
    (hroot : files.Reached (setting.absolute parent) budget root)
    (hws : IsWorkspace files (setting.absolute parent) root name) :
    (((scratch setting).environment subject).makeFresh parent start).Answers ⟨files, fresh⟩
      (.ok ((setting.absolute parent).join ⟨name⟩))
      ⟨files.put (root ++ [name]) (.directory true), fresh + 1⟩ := by
  have hmade : files.makeDirectory setting.directory ((setting.absolute parent).join ⟨name⟩) =
      .ok (files.put (root ++ [name]) (.directory true)) :=
    hroot.makeDirectory_name_eq hws.isName hws.short hws.accepted hws.fresh
  change makeFreshFrom setting.directory (setting.absolute parent) start
    (files.entries.length + 1) ⟨files, fresh⟩ = _
  rw [makeFreshFrom_succ, hstart, hmade]

/-- Nothing is done for a directory that is there. -/
theorem scratch_makeDirectories {setting : Setting} {subject : Subject} {p : Path} {host : Host}
    (h : host.files.isDirectory setting.directory p = true) :
    (((scratch setting).environment subject).makeDirectories p).Answers host (.ok ()) host := by
  change (change fun files => files.makeDirectories setting.directory p) host = _
  rw [change, FileStore.makeDirectories_of_isDirectory (.inr h)]

/-- What can be copied is copied. -/
theorem scratch_copyFile {setting : Setting} {subject : Subject} {source target : Path}
    {files later : FileStore} {fresh : Nat}
    (h : files.copy setting.directory source target = .ok later) :
    (((scratch setting).environment subject).copyFile source target).Answers ⟨files, fresh⟩ (.ok ())
      ⟨later, fresh⟩ := by
  change (change fun files => files.copy setting.directory source target) ⟨files, fresh⟩ = _
  rw [change, h]

/-- A workspace that is there is removed. -/
theorem scratch_removeTree {setting : Setting} {subject : Subject} {base files : FileStore}
    {parent : Path} {name : String} {fresh budget : Nat} {root : Location}
    (hroot : base.Reached parent budget root) (hws : IsWorkspace base parent root name)
    (hkeeps : base.Keeps files) (hthere : files.isDirectoryAt (root ++ [name]) = true) :
    (((scratch setting).environment subject).removeTree (parent.join ⟨name⟩)).Answers ⟨files, fresh⟩
      (.ok ()) ⟨files.eraseTree (root ++ [name]), fresh⟩ := by
  obtain ⟨readable, hentry⟩ := FileStore.isDirectoryAt_iff.mp hthere
  have hresolve : files.resolve setting.directory false (parent.join ⟨name⟩) = .ok (root ++ [name]) := by
    have hreached := hroot.keeps hkeeps
    rw [hreached.resolve_name hws.isName hws.accepted, FileStore.walk_name hreached.directory hws.isName,
      if_neg (Nat.not_lt_of_le hws.short), hentry]
    rfl
  have hremove : files.removeTree setting.directory (parent.join ⟨name⟩) =
      .ok (files.eraseTree (root ++ [name])) := by
    rw [FileStore.removeTree, hresolve]
    simp only [bind, Except.bind, hentry]
  change (change fun files => (files.removeTree setting.directory (parent.join ⟨name⟩)).mapError fun e =>
    e.at (parent.join ⟨name⟩)) ⟨files, fresh⟩ = _
  rw [change, hremove]
  rfl

end Host

end Conformance
