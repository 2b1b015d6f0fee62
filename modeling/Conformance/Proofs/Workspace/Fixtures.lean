import Conformance.Proofs.Workspace.Scratch
import Conformance.Suite.Preflight

/-!
# Fixtures in a workspace

Fixtures are copied one after another into a new directory, each under its file name. What was copied
under a name before is lost.

* `FileStore.Holds` : what stands below a location, name by name;
* `stock` : what the last of some fixtures leaves under a name;
* `Stocked` : a workspace into which fixtures were copied; `Stocked.copy`, `Copying.stocked` : what one
  fixture does to it, and what all of them do;
* `Suite.allCopied_iff_namesAgree` : all fixtures are in the workspace exactly if those of one name are
  alike.
-/

namespace Conformance

/-! ## What stands in a directory -/

namespace FileStore

variable {store : FileStore} {loc : Location} {held : String → Option Entry} {name : String} {e : Entry}

/-- Below a location stands under each name what is told of the name, and nothing else. -/
def Holds (store : FileStore) (loc : Location) (held : String → Option Entry) : Prop :=
  ∀ name rel, store.entry? (loc ++ name :: rel) = if rel = [] then held name else none

theorem Holds.entry?_name (h : store.Holds loc held) (name : String) :
    store.entry? (loc ++ [name]) = held name := by
  rw [h, if_pos rfl]

/-- Nothing stands below a new directory. -/
theorem holds_put_directory (h : store.Rooted) (hnone : store.entry? loc = none) :
    (store.put loc e).Holds loc fun _ => none := by
  intro name rel
  rw [entry?_put_of_ne (by simp), h.entry?_below hnone, ite_self]

/-- What is put under a name stands there in place of what did before. -/
theorem Holds.put (h : store.Holds loc held) :
    (store.put (loc ++ [name]) e).Holds loc fun n => if n = name then some e else held n := by
  intro n rel
  by_cases hrel : rel = []
  · subst hrel
    rw [if_pos rfl]
    by_cases hn : n = name
    · simp only [if_pos hn]
      rw [hn, entry?_put_self (by simp)]
    · simp only [if_neg hn]
      rw [entry?_put_of_ne (by simpa using hn), h.entry?_name]
  · rw [if_neg hrel, entry?_put_of_ne (by simp [hrel]), h, if_neg hrel]

/-- What is found at a path, if anything is. -/
def found (store : FileStore) (cwd : Location) (p : Path) : Option Entry := (store.find cwd p).toOption

/-- A path leads to a regular file. -/
def Regular (store : FileStore) (cwd : Location) (p : Path) : Prop :=
  ∃ content executable, store.find cwd p = .ok (.file content executable)

theorem regular_of_isFile {cwd : Location} {p : Path} (h : (store.view cwd).isFile p = true) :
    store.Regular cwd p := by
  unfold FileView.isFile at h
  split at h
  · exact ⟨_, _, ‹_›⟩
  · cases h

end FileStore

/-- What the last of the fixtures of a name leaves under the name. -/
def stock (found : Path → Option Entry) (fixtures : List Path) (name : String) : Option Entry :=
  (fixtures.reverse.find? fun f => f.fileName? = some name).bind found

theorem stock_nil (found : Path → Option Entry) : stock found [] = fun _ => none := rfl

theorem stock_concat {found : Path → Option Entry} {fixtures : List Path} {fixture : Path}
    {name : String} (hname : fixture.fileName? = some name) :
    stock found (fixtures ++ [fixture]) =
      fun n => if n = name then found fixture else stock found fixtures n := by
  funext n
  rw [stock, List.reverse_append, List.reverse_singleton, List.singleton_append]
  by_cases hn : n = name
  · rw [if_pos hn, List.find?_cons_of_pos (by simp [hname, hn])]
    rfl
  · rw [if_neg hn, List.find?_cons_of_neg (by simp [hname, Ne.symm hn])]
    rfl

theorem stock_congr {found found' : Path → Option Entry} {fixtures : List Path}
    (h : ∀ f ∈ fixtures, found f = found' f) : stock found fixtures = stock found' fixtures := by
  funext name
  unfold stock
  cases hlast : fixtures.reverse.find? fun f => f.fileName? = some name with
  | none => rfl
  | some last => exact h last (List.mem_reverse.mp (List.mem_of_find?_eq_some hlast))

/-- The last fixture of a name is one of them. -/
theorem exists_last {fixtures : List Path} {fixture : Path} {name : String}
    (hmem : fixture ∈ fixtures) (hname : fixture.fileName? = some name)
    (found : Path → Option Entry) :
    ∃ last ∈ fixtures, last.fileName? = some name ∧ stock found fixtures name = found last := by
  cases hlast : fixtures.reverse.find? fun f => f.fileName? = some name with
  | none =>
    have hno := List.find?_eq_none.mp hlast fixture (List.mem_reverse.mpr hmem)
    simp [hname] at hno
  | some last =>
    refine ⟨last, List.mem_reverse.mp (List.mem_of_find?_eq_some hlast), ?_, ?_⟩
    · simpa using List.find?_some hlast
    · rw [stock, hlast, Option.bind_some]

/-! ## Copying into a workspace -/

variable {setting : Setting} {base files later : FileStore} {parent : Path} {budget : Nat}
  {root cwd : Location} {name : String}

/-- A workspace into which fixtures were copied, and nothing else. -/
structure Stocked (base files : FileStore) (cwd root : Location) (name : String)
    (copied : List Path) : Prop where
  /-- Nothing is lost. -/
  keeps : base.Keeps files
  /-- Entries still stand in directories. -/
  rooted : files.Rooted
  /-- The workspace is there. -/
  there : files.isDirectoryAt (root ++ [name]) = true
  /-- The fixtures are regular files. -/
  regular : ∀ f ∈ copied, base.Regular cwd f
  /-- They are all that is in the workspace. -/
  holds : files.Holds (root ++ [name]) (stock (base.found cwd) copied)

/-- Nothing was copied into a new directory yet. -/
theorem stocked_put (hroot : base.Reached parent budget root) (hkeeps : base.Keeps files)
    (hrooted : files.Rooted) (hnone : files.entry? (root ++ [name]) = none) :
    Stocked base (files.put (root ++ [name]) (.directory true)) cwd root name [] where
  keeps := hkeeps.trans (FileStore.keeps_put hnone)
  rooted := hrooted.put (hroot.keeps hkeeps).directory (by rw [FileStore.isDirectoryAt, hnone])
  there := FileStore.isDirectoryAt_of_entry? (FileStore.entry?_put_self (by simp))
  regular := fun _ hf => by cases hf
  holds := FileStore.holds_put_directory hrooted hnone

variable {fixture : Path} {copied : List Path} {n : String}

/-- Only regular files are in a workspace before anything runs in it. -/
theorem Stocked.flat (h : Stocked base files cwd root name copied) {e : Entry}
    (hentry : files.entry? (root ++ [name] ++ [n]) = some e) : ∃ c x, e = .file c x := by
  rw [h.holds.entry?_name, stock, Option.bind_eq_some_iff] at hentry
  obtain ⟨f, hf, hfound⟩ := hentry
  obtain ⟨c, x, hregular⟩ := h.regular f (List.mem_reverse.mp (List.mem_of_find?_eq_some hf))
  rw [FileStore.found, hregular] at hfound
  exact ⟨c, x, (Option.some.inj hfound).symm⟩

/-- A copied fixture takes the place of those of its name. -/
theorem Stocked.copy (h : Stocked base files cwd root name copied)
    (hws : IsWorkspace base parent root name) (hroot : base.Reached parent budget root)
    (hrooted : base.Rooted) (hname : fixture.fileName? = some n) (hregular : base.Regular cwd fixture)
    (hcopy : files.copy cwd fixture ((parent.join ⟨name⟩).join ⟨n⟩) = .ok later) :
    Stocked base later cwd root name (copied ++ [fixture]) := by
  have hreached := hws.reached hroot h.keeps h.there
  obtain ⟨content, executable, hfile⟩ := hregular
  obtain ⟨content', executable', hfile', rfl⟩ :=
    hreached.copy_name (Path.isName_of_fileName? hname) (fun e he => h.flat he) hcopy
  rw [FileStore.find_keeps hfile h.keeps] at hfile'
  obtain ⟨rfl, rfl⟩ := Entry.file.inj (Except.ok.inj hfile')
  have hwithin := FileStore.within_put files (root ++ [name] ++ [n]) (.file content executable)
  constructor
  case keeps => exact hws.keeps hrooted h.keeps (hwithin.mono (List.prefix_append _ _))
  case rooted =>
    refine h.rooted.put h.there ?_
    rw [Bool.eq_false_iff]
    intro hdir
    obtain ⟨readable, hentry⟩ := FileStore.isDirectoryAt_iff.mp hdir
    obtain ⟨c, x, heq⟩ := h.flat hentry
    cases heq
  case there =>
    rw [FileStore.isDirectoryAt_congr (FileStore.entry?_put_of_ne (by simp))]
    exact h.there
  case regular =>
    intro f hf
    rw [List.mem_append, List.mem_singleton] at hf
    rcases hf with hf | rfl
    · exact h.regular f hf
    · exact ⟨content, executable, hfile⟩
  case holds =>
    rw [stock_concat hname, FileStore.found, hfile]
    exact h.holds.put

/-- Copying all fixtures leaves the last of each name. -/
theorem Copying.stocked {scratch : Scratch setting} {subject : Subject} {left : List Path}
    {before after : Host}
    (h : Copying (scratch.environment subject) (parent.join ⟨name⟩) left before (.ok ()) after)
    (hws : IsWorkspace base parent root name) (hroot : base.Reached parent budget root)
    (hrooted : base.Rooted) (hregular : ∀ f ∈ left, base.Regular setting.directory f)
    (hstocked : Stocked base before.files setting.directory root name copied) :
    Stocked base after.files setting.directory root name (copied ++ left) := by
  generalize hanswer : Except.ok () = answer at h
  induction h generalizing copied with
  | nil =>
    rw [List.append_nil]
    exact hstocked
  | unnamed => cases hanswer
  | refused => cases hanswer
  | @copied fixture left n st st₁ st' answer hname hcopied _ ih =>
    have hcopy : st.files.copy setting.directory fixture ((parent.join ⟨name⟩).join ⟨n⟩) =
        .ok st₁.files := by
      rcases Scratch.copyFile_answers hcopied with ⟨-, hfiles⟩ | ⟨e, heq, -⟩
      · exact hfiles
      · cases heq
    have hnext := hstocked.copy hws hroot hrooted hname (hregular fixture List.mem_cons_self) hcopy
    have hrest := ih (fun f hf => hregular f (List.mem_cons_of_mem _ hf)) hnext hanswer
    rwa [List.append_assoc, List.singleton_append] at hrest

/-- Only fixtures that have a file name are copied. -/
theorem Copying.named {σ : Type} {env : Environment σ} {ws : Path} {left : List Path} {st st' : σ}
    (h : Copying env ws left st (.ok ()) st') : ∀ f ∈ left, ∃ name, f.fileName? = some name := by
  generalize hanswer : Except.ok () = answer at h
  induction h with
  | nil => exact fun _ hf => by cases hf
  | unnamed => cases hanswer
  | refused => cases hanswer
  | copied hname _ _ ih =>
    intro f hf
    rcases List.mem_cons.mp hf with rfl | hf
    · exact ⟨_, hname⟩
    · exact ih hanswer f hf

/-! ## When the compiler is started -/

/-- A created workspace was made. -/
theorem Workspace.making_of_create {σ : Type} {env : Environment σ} {parent : Path} {name : String}
    {st st' : σ} {ws : Workspace} (h : (create env parent name).run.run st = (.ok ws, st')) :
    Making env parent (nameStart name) st (.ok ws.path) st' := by
  obtain ⟨answer, st₁, hmaking⟩ := exists_making env parent (nameStart name) st
  rw [hmaking.run_create] at h
  obtain ⟨hanswer, rfl⟩ := Prod.mk.inj h
  cases answer with
  | error e => cases hanswer
  | ok path =>
    obtain rfl : Workspace.mk path = ws := Except.ok.inj hanswer
    exact hmaking

/-- A directory is made once its parents are there. -/
theorem Making.exists_fresh {σ : Type} {env : Environment σ} {parent path : Path} {start : String}
    {st st' : σ} (h : Making env parent start st (.ok path) st') :
    ∃ st₁, (env.makeDirectories parent).Answers st (.ok ()) st₁ ∧
      (env.makeFresh parent start).Answers st₁ (.ok path) st' := by
  cases h with
  | fresh parents answered => exact ⟨_, parents, answered⟩

/-- Fixtures that got into a workspace were copied. -/
theorem Workspace.copying_of_copyFixtures {σ : Type} {env : Environment σ} {fixtures : List Path}
    {st st' : σ} {ws : Workspace}
    (h : (ws.copyFixtures env fixtures).run.run st = (.ok (), st')) :
    Copying env ws.path fixtures st (.ok ()) st' := by
  obtain ⟨answer, st₁, hcopying⟩ := exists_copying env ws.path fixtures st
  rw [hcopying.run_copyFixtures] at h
  obtain ⟨hanswer, rfl⟩ := Prod.mk.inj h
  cases answer with
  | error e => cases hanswer
  | ok => exact hcopying

/-- All fixtures passed the checks before a suite runs. -/
theorem Suite.regular_of_preflight {s : Suite} {store : FileStore} {cwd : Location}
    {searchPath : Option String} {executable : Path}
    (h : s.preflight (store.view cwd) searchPath executable = .ok ()) :
    ∀ f ∈ s.fixtures, store.Regular cwd f := by
  intro f hf
  unfold preflight at h
  split at h
  · cases h
  split at h
  · cases h
  · rename_i hall
    have hfile := List.find?_eq_none.mp hall f hf
    exact FileStore.regular_of_isFile (by simpa using hfile)

/-- Each of the fixtures is in the workspace at a location, under its file name and with its bytes. -/
def AllCopied (before after : FileStore) (cwd loc : Location) (fixtures : List Path) : Prop :=
  ∀ f ∈ fixtures, ∃ name content executable executable', f.fileName? = some name ∧
    before.find cwd f = .ok (.file content executable) ∧
    after.entry? (loc ++ [name]) = some (.file content executable')

/-- Fixtures of one file name have the same bytes. -/
def NamesAgree (files : FileStore) (cwd : Location) (fixtures : List Path) : Prop :=
  ∀ f ∈ fixtures, ∀ g ∈ fixtures, f.fileName? = g.fileName? → files.read cwd f = files.read cwd g

theorem read_of_find {files : FileStore} {cwd : Location} {p : Path} {content : Bytes}
    {executable : Bool} (h : files.find cwd p = .ok (.file content executable)) :
    files.read cwd p = .ok content := by
  unfold FileStore.read
  rw [h]
  rfl

/-- Whether all are copied, and whether those of one name are alike, is known from what is found at
their paths. -/
theorem allCopied_congr {before before' after : FileStore} {cwd loc : Location} {fixtures : List Path}
    (h : ∀ f ∈ fixtures, before.find cwd f = before'.find cwd f) :
    (AllCopied before after cwd loc fixtures ↔ AllCopied before' after cwd loc fixtures) ∧
      (NamesAgree before cwd fixtures ↔ NamesAgree before' cwd fixtures) := by
  have hread : ∀ f ∈ fixtures, before.read cwd f = before'.read cwd f := by
    intro f hf
    unfold FileStore.read
    rw [h f hf]
  constructor
  · refine forall₂_congr fun f hf => ?_
    rw [h f hf]
  · refine forall₂_congr fun f hf => forall₂_congr fun g hg => ?_
    rw [hread f hf, hread g hg]

/-- All fixtures are in a workspace if those of one name are alike. -/
theorem Stocked.allCopied_iff {base files : FileStore} {cwd root : Location} {name : String}
    {fixtures : List Path} (h : Stocked base files cwd root name fixtures)
    (hnamed : ∀ f ∈ fixtures, ∃ n, f.fileName? = some n) :
    AllCopied base files cwd (root ++ [name]) fixtures ↔ NamesAgree base cwd fixtures := by
  constructor
  · intro hall f hf g hg hsame
    obtain ⟨n, content, _, _, hn, hfind, hentry⟩ := hall f hf
    obtain ⟨m, content', _, _, hm, hfind', hentry'⟩ := hall g hg
    obtain rfl : n = m := Option.some.inj (hn.symm.trans (hsame.trans hm))
    rw [hentry] at hentry'
    obtain ⟨rfl, -⟩ := Entry.file.inj (Option.some.inj hentry')
    rw [read_of_find hfind, read_of_find hfind']
  · intro hagree f hf
    obtain ⟨n, hn⟩ := hnamed f hf
    obtain ⟨content, executable, hfind⟩ := h.regular f hf
    obtain ⟨last, hlast, hlastn, hstock⟩ := exists_last hf hn (base.found cwd)
    obtain ⟨content', executable', hfind'⟩ := h.regular last hlast
    have hread := hagree f hf last hlast (hn.trans hlastn.symm)
    rw [read_of_find hfind, read_of_find hfind'] at hread
    obtain rfl : content = content' := Except.ok.inj hread
    refine ⟨n, content, executable, executable', hn, hfind, ?_⟩
    rw [h.holds.entry?_name, hstock, FileStore.found, hfind']
    rfl

/-- **What is in a workspace when the compiler is started.** After the fixtures of a suite that passed
its checks were copied, the workspace of a case holds, under each file name, the last fixture of that
name, and nothing else. The fixtures are as they were. So all of them are in the workspace exactly if
those of one name have the same bytes. -/
theorem Suite.allCopied_iff_namesAgree {setting : Setting} (scratch : Scratch setting)
    (subject : Subject) (s : Suite) (c : TestCase) (workRoot : Path) {searchPath : Option String}
    {executable : Path} {before made started : Host} {ws : Workspace} (rooted : before.files.Rooted)
    (ready : s.preflight (before.files.view setting.directory) searchPath executable = .ok ())
    (created : (Workspace.create (scratch.environment subject) workRoot
      s!"{s.name}_{c.name}").run.run before = (.ok ws, made))
    (copied : (ws.copyFixtures (scratch.environment subject) s.fixtures).run.run made =
      (.ok (), started)) :
    ∃ loc, started.files.resolve setting.directory true ws.path = .ok loc ∧
      started.files.Holds loc (stock (before.files.found setting.directory) s.fixtures) ∧
      (∀ f ∈ s.fixtures, before.files.Regular setting.directory f ∧
        started.files.find setting.directory f = before.files.find setting.directory f) ∧
      (AllCopied before.files started.files setting.directory loc s.fixtures ↔
        NamesAgree before.files setting.directory s.fixtures) := by
  have hregular := regular_of_preflight ready
  have hcopying := Workspace.copying_of_copyFixtures copied
  obtain ⟨path⟩ := ws
  obtain ⟨stood, parents, answered⟩ := (Workspace.making_of_create created).exists_fresh
  -- the files are compared with those that stood before the directory was made
  obtain ⟨hkeeps, hrooted⟩ : before.files.Keeps stood.files ∧ stood.files.Rooted := by
    rcases Scratch.makeDirectories_answers parents with ⟨-, hmade⟩ | ⟨_, heq, -⟩
    · have hchanges := FileStore.makeDirectories_changes hmade
      exact ⟨hchanges.keeps, hchanges.rooted rooted⟩
    · cases heq
  have hfind : ∀ f ∈ s.fixtures, ∀ later : FileStore, before.files.Keeps later →
      later.find setting.directory f = before.files.find setting.directory f := by
    intro f hf later hlater
    obtain ⟨content, executable, hfound⟩ := hregular f hf
    rw [hfound, FileStore.find_keeps hfound hlater]
  have hstood : ∀ f ∈ s.fixtures, stood.files.Regular setting.directory f := by
    intro f hf
    obtain ⟨content, executable, hfound⟩ := hregular f hf
    exact ⟨content, executable, FileStore.find_keeps hfound hkeeps⟩
  obtain ⟨budget, root, hroot⟩ := scratch.exists_reached answered
  obtain ⟨ending, -, hpath, hws, hnone, hfiles⟩ :=
    scratch.exists_workspace hroot (.refl _) answered
  subst hpath
  have hempty : Stocked stood.files made.files setting.directory root
      (Workspace.nameStart s!"{s.name}_{c.name}" ++ ending) [] := by
    rw [hfiles]
    exact stocked_put hroot (.refl _) hrooted hnone
  have hstocked := hcopying.stocked hws hroot hrooted hstood hempty
  rw [List.nil_append] at hstocked
  refine ⟨root ++ [Workspace.nameStart s!"{s.name}_{c.name}" ++ ending],
    hws.resolve hroot hstocked.keeps hstocked.there _, ?_, ?_, ?_⟩
  · have hfound : ∀ f ∈ s.fixtures, before.files.found setting.directory f =
        stood.files.found setting.directory f := by
      intro f hf
      rw [FileStore.found, FileStore.found, hfind f hf _ hkeeps]
    rw [stock_congr hfound]
    exact hstocked.holds
  · exact fun f hf => ⟨hregular f hf, hfind f hf _ (hkeeps.trans hstocked.keeps)⟩
  · obtain ⟨hcopied, hagree⟩ := allCopied_congr fun f hf => (hfind f hf _ hkeeps).symm
    rw [hcopied, hagree]
    exact hstocked.allCopied_iff hcopying.named

/-! ## Two fixtures of one name -/

/-- A case that calls a compiler without arguments. -/
def helloCase : TestCase := { name := "c", plan := default }

/-- A suite with two fixtures that have the same file name. -/
def hellos : Suite :=
  { name := "s", cases := [helloCase], fixtures := [⟨"/one/hello.c"⟩, ⟨"/two/hello.c"⟩] }

/-- A process at the root. -/
def atRoot : Setting := ⟨[], []⟩

/-- No command can be started. -/
def noSubject : Subject := fun _ _ => throw (.os .notFound)

/-- The runner for `hellos`. -/
def hellosConfig : RunnerConfig := { executable := ⟨"/cc"⟩, platform := .host }

/-- The files for `hellos`. -/
def hellosFiles : FileStore :=
  ⟨[(["work"], .directory true), (["cc"], .file [] true),
    (["one"], .directory true), (["one", "hello.c"], .file (Bytes.ofText "one") false),
    (["two"], .directory true), (["two", "hello.c"], .file (Bytes.ofText "two") false)]⟩

/-- The place of the workspace. -/
def hellosPlace : Location := ["work", "s_c_AAAAAA"]

/-- The host after the workspace was made. -/
def hellosMade : Host := ⟨hellosFiles.put hellosPlace (.directory true), 1⟩

/-- The host after the fixtures were copied. -/
def hellosStarted : Host :=
  ⟨(hellosMade.files.put (hellosPlace ++ ["hello.c"]) (.file (Bytes.ofText "one") false)).put
    (hellosPlace ++ ["hello.c"]) (.file (Bytes.ofText "two") false), 1⟩

theorem stands_atRoot (files : FileStore) : atRoot.Stands files where
  proper := nofun
  short := nofun
  directories := by
    intro above habove
    rw [List.prefix_nil.mp habove]
    rfl

/-- A file whose names lead down from the root is found. -/
theorem find_of_descends {files : FileStore} {cwd : Location} {p : Path} {e : Entry} (hacc : p.Accepted)
    (habs : p.isAbsolute = true) (hdown : files.descends [] (FileStore.steps p) = true)
    (hentry : files.entry? (FileStore.steps p) = some e) : files.find cwd p = .ok e := by
  refine FileStore.find_eq_ok_iff.mpr ⟨FileStore.steps p, ?_, hentry⟩
  have hreaches : FileStore.Reaches files FileStore.linkLimit [] (FileStore.steps p)
      FileStore.linkLimit ([] ++ FileStore.steps p) := FileStore.reaches_of_descends hdown
  rw [List.nil_append] at hreaches
  exact FileStore.resolve_of_reaches hacc (by rwa [if_pos habs])

theorem hellosFiles_rooted : hellosFiles.Rooted := FileStore.rooted_of_forall (by decide)

theorem find_one (files : FileStore) (h : hellosFiles.Keeps files) :
    files.find [] ⟨"/one/hello.c"⟩ = .ok (.file (Bytes.ofText "one") false) :=
  FileStore.find_keeps (find_of_descends ⟨by decide, by decide, by decide⟩
    (by decide) (by decide) (by decide)) h

theorem find_two (files : FileStore) (h : hellosFiles.Keeps files) :
    files.find [] ⟨"/two/hello.c"⟩ = .ok (.file (Bytes.ofText "two") false) :=
  FileStore.find_keeps (find_of_descends ⟨by decide, by decide, by decide⟩
    (by decide) (by decide) (by decide)) h

theorem preflight_hellos :
    hellos.preflight (hellosFiles.view []) none ⟨"/cc"⟩ = .ok () := by
  have hcc : hellosFiles.find [] ⟨"/cc"⟩ = .ok (.file [] true) :=
    find_of_descends ⟨by decide, by decide, by decide⟩ (by decide)
      (by decide) (by decide)
  have havailable : executableAvailable (hellosFiles.view []) none ⟨"/cc"⟩ = true := by
    have habs : (Path.mk "/cc").isAbsolute = true := by decide
    simp only [executableAvailable, habs, Bool.or_true, if_true, FileView.isFile, FileStore.view, hcc]
  have hone := find_one hellosFiles (.refl _)
  have htwo := find_two hellosFiles (.refl _)
  rw [Suite.preflight, havailable]
  simp [hellos, FileView.isFile, FileStore.view, hone, htwo]

theorem reached_work : hellosFiles.Reached (atRoot.absolute ⟨"/work"⟩) FileStore.linkLimit ["work"] :=
  ⟨by decide, FileStore.reaches_of_descends (by decide), by decide⟩

theorem hellos_workspace :
    IsWorkspace hellosFiles (atRoot.absolute ⟨"/work"⟩) ["work"] "s_c_AAAAAA" where
  isName := ⟨by decide, by decide, by decide, by decide⟩
  short := by decide
  accepted := ⟨by decide, by decide, by decide⟩
  fresh := by decide

theorem hellos_path : (atRoot.absolute ⟨"/work"⟩).join ⟨"s_c_AAAAAA"⟩ = ⟨"/work/s_c_AAAAAA"⟩ := by
  decide

theorem isDirectory_work : hellosFiles.isDirectory [] ⟨"/work"⟩ = true := by
  have hfound : hellosFiles.find [] ⟨"/work"⟩ = .ok (.directory true) :=
    find_of_descends ⟨by decide, by decide, by decide⟩ (by decide)
      (by decide) (by decide)
  rw [FileStore.isDirectory, hfound]

theorem create_hellos :
    (Workspace.create ((Host.scratch atRoot).environment noSubject) ⟨"/work"⟩ "s_c").run.run
      ⟨hellosFiles, 0⟩ = (.ok ⟨⟨"/work/s_c_AAAAAA"⟩⟩, hellosMade) := by
  have hfresh : (((Host.scratch atRoot).environment noSubject).makeFresh ⟨"/work"⟩
      (Workspace.nameStart "s_c")).Answers ⟨hellosFiles, 0⟩
      (.ok ((atRoot.absolute ⟨"/work"⟩).join ⟨"s_c_AAAAAA"⟩)) hellosMade :=
    Host.scratch_makeFresh (by decide) reached_work hellos_workspace
  rw [hellos_path] at hfresh
  exact (Making.fresh (Host.scratch_makeDirectories isDirectory_work) hfresh).run_create

/-- One of the fixtures is copied over whatever regular file has its name. -/
theorem copy_hello (subject : Subject) {files : FileStore} {source : Path} {content : Bytes} (fresh : Nat)
    (hkeeps : hellosFiles.Keeps files) (hthere : files.isDirectoryAt hellosPlace = true)
    (hfree : ∀ e, files.entry? (hellosPlace ++ ["hello.c"]) = some e → ∃ c x, e = .file c x)
    (hsource : files.find [] source = .ok (.file content false)) :
    (((Host.scratch atRoot).environment subject).copyFile source
      ((Path.mk "/work/s_c_AAAAAA").join ⟨"hello.c"⟩)).Answers ⟨files, fresh⟩ (.ok ())
      ⟨files.put (hellosPlace ++ ["hello.c"]) (.file content false), fresh⟩ := by
  have hreached := hellos_workspace.reached reached_work hkeeps hthere
  rw [hellos_path] at hreached
  have hname : IsName "hello.c" :=
    ⟨by decide, by decide, by decide, by decide⟩
  exact Host.scratch_copyFile (hreached.copy_name_eq hname (by decide)
    ⟨by decide, by decide, by decide⟩ hfree hsource)

theorem copy_hellos :
    ((Workspace.mk ⟨"/work/s_c_AAAAAA"⟩).copyFixtures ((Host.scratch atRoot).environment noSubject)
      hellos.fixtures).run.run hellosMade = (.ok (), hellosStarted) := by
  have hmade : hellosFiles.Keeps hellosMade.files := FileStore.keeps_put (by decide)
  have hcopied : hellosFiles.Keeps (hellosMade.files.put (hellosPlace ++ ["hello.c"])
      (.file (Bytes.ofText "one") false)) := hmade.trans (FileStore.keeps_put (by decide))
  have hfirst := copy_hello noSubject 1 hmade (by decide)
    (fun e he => by
      rw [show hellosMade.files.entry? (hellosPlace ++ ["hello.c"]) = none by decide] at he
      cases he)
    (find_one _ hmade)
  have hsecond := copy_hello noSubject 1 hcopied (by decide)
    (fun e he => by
      rw [FileStore.entry?_put_self (by decide)] at he
      exact ⟨_, _, (Option.some.inj he).symm⟩)
    (find_two _ hcopied)
  have hcopying : Copying ((Host.scratch atRoot).environment noSubject) ⟨"/work/s_c_AAAAAA"⟩
      hellos.fixtures hellosMade (.ok ()) hellosStarted :=
    .copied (by decide) hfirst (.copied (by decide) hsecond .nil)
  exact hcopying.run_copyFixtures

/-- Of two fixtures of one name the second is in the workspace. -/
theorem allCopied_iff_hellos : hellosFiles.Rooted ∧
    hellos.preflight (hellosFiles.view []) none ⟨"/cc"⟩ = .ok () ∧
    (Workspace.create ((Host.scratch atRoot).environment noSubject) ⟨"/work"⟩ "s_c").run.run
      ⟨hellosFiles, 0⟩ = (.ok ⟨⟨"/work/s_c_AAAAAA"⟩⟩, hellosMade) ∧
    ((Workspace.mk ⟨"/work/s_c_AAAAAA"⟩).copyFixtures ((Host.scratch atRoot).environment noSubject)
      hellos.fixtures).run.run hellosMade = (.ok (), hellosStarted) ∧
    ∃ loc, hellosStarted.files.resolve [] true ⟨"/work/s_c_AAAAAA"⟩ = .ok loc ∧
      hellosStarted.files.entry? (loc ++ ["hello.c"]) = some (.file (Bytes.ofText "two") false) := by
  have hname : s!"{hellos.name}_{helloCase.name}" = "s_c" := by decide
  have hcreated := create_hellos
  rw [← hname] at hcreated
  have hrooted : (Host.mk hellosFiles 0).files.Rooted := hellosFiles_rooted
  obtain ⟨loc, hresolve, hholds, -, -⟩ := Suite.allCopied_iff_namesAgree (Host.scratch atRoot) noSubject
    hellos helloCase ⟨"/work"⟩ hrooted preflight_hellos hcreated copy_hellos
  have hlast : (hellos.fixtures.reverse.find? fun f => f.fileName? = some "hello.c") =
      some ⟨"/two/hello.c"⟩ := by decide
  refine ⟨hellosFiles_rooted, preflight_hellos, create_hellos, copy_hellos, loc, hresolve, ?_⟩
  rw [hholds.entry?_name, stock, hlast, Option.bind_some, FileStore.found]
  exact congrArg Except.toOption (find_two hellosFiles (.refl _))

/-- All was as it should be, and yet one of the fixtures is not in the workspace. -/
theorem not_allCopied_hellos : hellosFiles.Rooted ∧
    hellos.preflight (hellosFiles.view []) none ⟨"/cc"⟩ = .ok () ∧
    (Workspace.create ((Host.scratch atRoot).environment noSubject) ⟨"/work"⟩ "s_c").run.run
      ⟨hellosFiles, 0⟩ = (.ok ⟨⟨"/work/s_c_AAAAAA"⟩⟩, hellosMade) ∧
    ((Workspace.mk ⟨"/work/s_c_AAAAAA"⟩).copyFixtures ((Host.scratch atRoot).environment noSubject)
      hellos.fixtures).run.run hellosMade = (.ok (), hellosStarted) ∧
    hellosStarted.files.resolve [] true ⟨"/work/s_c_AAAAAA"⟩ = .ok hellosPlace ∧
    ¬ AllCopied hellosFiles hellosStarted.files [] hellosPlace hellos.fixtures := by
  have hkeeps : hellosFiles.Keeps hellosStarted.files :=
    hellos_workspace.keeps hellosFiles_rooted (FileStore.keeps_put (by decide))
      (((FileStore.within_put hellosMade.files _ _).trans (FileStore.within_put _ _ _)).mono
        (List.prefix_append hellosPlace ["hello.c"]))
  have hresolve := hellos_workspace.resolve reached_work hkeeps (by decide) []
  rw [hellos_path] at hresolve
  refine ⟨hellosFiles_rooted, preflight_hellos, create_hellos, copy_hellos, hresolve, fun hall => ?_⟩
  obtain ⟨name, content, _, _, hname, hfind, hentry⟩ :=
    hall ⟨"/one/hello.c"⟩ (List.mem_cons_self)
  obtain rfl : "hello.c" = name := Option.some.inj (by rw [← hname]; decide)
  rw [find_one hellosFiles (.refl _)] at hfind
  obtain ⟨rfl, -⟩ := Entry.file.inj (Except.ok.inj hfind)
  rw [hellosStarted, FileStore.entry?_put_self (by decide)] at hentry
  exact absurd (Entry.file.inj (Option.some.inj hentry)).1 (by decide)

end Conformance
