import Conformance.Proofs.Host.Search
import Conformance.Proofs.Path.Single
import Conformance.Proofs.Suite.Stage

/-!
# Whether the compiler that was found is the one that is started

The check before a suite looks for the compiler from the directory of the harness, and the system looks
for it from the workspace once more.

* `FileStore.Regular.exists_name` : the path of a regular file ends in a name;
* `name_or_path_of_available` : a compiler that the check finds is a bare name or the path of a file;
* `Anchored` : the compiler is found from the workspace as well;
* `exists_candidate_iff_anchored` : that it is, is what the search of the system comes down to;
* `execute_available` : what the check says about a run.
-/

namespace Conformance

open FileStore

variable {files : FileStore} {cwd there : Location} {p exe dir : Path} {name : String}
  {setting : Setting} {searchPath : Option String}

/-! ## Paths of regular files -/

namespace FileStore

theorem Reaches.isDirectoryAt_of_dots (rooted : files.Rooted) {budget budget' : Nat} {step : String}
    (hstep : step = "." ∨ step = "..") (h : Reaches files budget cwd [step] budget' there) :
    files.isDirectoryAt there = true := by
  cases h with
  | current inside rest =>
    cases rest
    exact inside
  | parent inside rest =>
    cases rest
    rcases List.eq_nil_or_concat cwd with rfl | ⟨above, last, rfl⟩
    · exact inside
    · rw [List.concat_eq_append] at inside ⊢
      rw [List.dropLast_concat]
      refine rooted above last fun hnone => ?_
      rw [isDirectoryAt, hnone] at inside
      cases inside
  | link _ named => exact absurd hstep (by simp [named])
  | entry _ named => exact absurd hstep (by simp [named])

/-- **The path of a regular file ends in a name.** -/
theorem Regular.exists_name (rooted : files.Rooted) (h : files.Regular cwd p) :
    ∃ front last, p.segments = front ++ [last] ∧ IsName last := by
  obtain ⟨content, executable, hfind⟩ := h
  obtain ⟨loc, hresolve, hentry⟩ := find_eq_ok_iff.mp hfind
  obtain ⟨budget, hreaches⟩ := exists_reaches_of_resolve hresolve
  obtain ⟨front, last, hsegs⟩ := p.exists_segments
  rw [steps_of_segments hsegs] at hreaches
  obtain ⟨_, _, -, hlast⟩ := hreaches.exists_middle
  -- the last step is none of those that lead to a directory
  have hdots : ¬ ((if last = "" then "." else last) = "." ∨
      (if last = "" then "." else last) = "..") := by
    intro hdots
    have hdir := hlast.isDirectoryAt_of_dots rooted hdots
    rw [isDirectoryAt, hentry] at hdir
    cases hdir
  have hempty : last ≠ "" := fun heq => hdots (.inl (if_pos heq))
  rw [if_neg hempty, not_or] at hdots
  exact ⟨front, last, hsegs, hempty, Path.not_mem_of_mem_segments (by rw [hsegs]; simp), hdots.1,
    hdots.2⟩

theorem not_regular_of_missing (name : String) (rest : List String) (habs : p.isAbsolute = true)
    (hsteps : steps p = name :: rest) (hnamed : name ≠ "." ∧ name ≠ "..")
    (hnone : files.entry? [name] = none) : ¬ files.Regular cwd p := by
  rintro ⟨content, executable, hfind⟩
  obtain ⟨loc, hresolve, -⟩ := find_eq_ok_iff.mp hfind
  obtain ⟨budget, hreaches⟩ := exists_reaches_of_resolve hresolve
  rw [if_pos habs, hsteps] at hreaches
  cases hreaches with
  | current => exact hnamed.1 rfl
  | parent => exact hnamed.2 rfl
  | link _ _ _ found =>
    rw [List.nil_append, hnone] at found
    cases found
  | entry _ _ _ found =>
    rw [List.nil_append, hnone] at found
    cases found

theorem find_congr_absolute {q : Path} (hp : p.Accepted) (hq : q.Accepted) (hpabs : p.isAbsolute = true)
    (hqabs : q.isAbsolute = true) (hsteps : steps p = steps q) :
    files.find cwd p = files.find there q := by
  rw [find, find, resolve_eq_of_accepted hp, resolve_eq_of_accepted hq, if_pos hpabs, if_pos hqabs,
    hsteps]

end FileStore

/-! ## What the check finds -/

theorem launchPath_of_isName (h : IsName exe.text) (directory : Path) :
    launchPath directory exe = exe := by
  have hlength : exe.components.length = 1 := by
    rw [show exe = ⟨exe.text⟩ from rfl, Path.components_of_isName h]
    rfl
  simp [launchPath, hlength]

theorem launchPath_of_components (h : exe.components.length > 1 ∨ exe.isAbsolute = true)
    (directory : Path) : launchPath directory exe = directory.join exe := by
  unfold launchPath
  by_cases habs : exe.isAbsolute = true
  · simp [habs, Path.join]
  · have hlength := h.resolve_right habs
    simp [habs, Nat.ne_of_gt hlength]

/-- **A compiler that the check finds is a bare name or the path of a regular file.** -/
theorem name_or_path_of_available (rooted : files.Rooted)
    (h : executableAvailable (files.view cwd) searchPath exe = true) :
    IsName exe.text ∨
      ('/' ∈ exe.text.toList ∧ (exe.components.length > 1 ∨ exe.isAbsolute = true) ∧
        files.Regular cwd exe) := by
  unfold executableAvailable at h
  by_cases hcond : exe.components.length > 1 ∨ exe.isAbsolute = true
  · rw [if_pos (by simpa using hcond)] at h
    refine .inr ⟨?_, hcond, regular_of_isFile h⟩
    rcases hcond with hlength | habs
    · exact Classical.byContradiction fun hno =>
        absurd (Path.components_of_not_mem hno) (Nat.not_le.mpr hlength)
    · exact List.mem_of_mem_head? (by simpa [Path.isAbsolute] using habs)
  · refine .inl ?_
    rw [if_neg (by simpa using hcond)] at h
    rw [not_or, Nat.not_lt, Bool.not_eq_true] at hcond
    obtain ⟨hlength, hrel⟩ := hcond
    cases searchPath with
    | none =>
      obtain ⟨front, last, hsegs, hname⟩ := (regular_of_isFile h).exists_name rooted
      exact Path.isName_of_components hrel hlength hsegs hname
    | some dirs =>
      obtain ⟨dir, -, hfile⟩ := List.any_eq_true.mp h
      obtain ⟨front, last, hsegs, hname⟩ := (regular_of_isFile hfile).exists_name rooted
      obtain ⟨before, hjoin⟩ := Path.exists_segments_join dir hrel
      obtain ⟨front', last', hsegs'⟩ := exe.exists_segments
      rw [hjoin, hsegs', ← List.append_assoc] at hsegs
      obtain rfl := List.singleton_inj.mp (List.append_inj' hsegs rfl).2
      exact Path.isName_of_components hrel hlength hsegs' hname

/-! ## What the system finds -/

/-- From the directory of the harness and on its absolute path the same file is found. -/
theorem Setting.Stands.regular_absolute_iff (stands : setting.Stands files)
    (there : Location) (h : files.Regular setting.directory exe) :
    files.Regular there (setting.absolute exe) ↔ (setting.absolute exe).Accepted := by
  constructor
  · rintro ⟨_, _, hfind⟩
    obtain ⟨_, hresolve, -⟩ := find_eq_ok_iff.mp hfind
    exact accepted_of_resolve hresolve
  · intro hacc
    obtain ⟨content, executable, hfind⟩ := h
    obtain ⟨loc, hresolve, hentry⟩ := find_eq_ok_iff.mp hfind
    obtain ⟨budget, hreaches⟩ := exists_reaches_of_resolve hresolve
    refine ⟨content, executable, find_eq_ok_iff.mpr ⟨loc, ?_, hentry⟩⟩
    suffices h : Reaches files linkLimit [] (steps (setting.absolute exe)) budget loc from
      resolve_of_reaches hacc (by rwa [if_pos (setting.isAbsolute_absolute exe)])
    by_cases habs : exe.isAbsolute = true
    · rw [if_pos habs] at hreaches
      rwa [Setting.absolute, Path.join, if_pos habs]
    · rw [if_neg habs] at hreaches
      have hslash := Path.ne_empty_of_isAbsolute (Location.isAbsolute_toPath setting.directory)
      rw [Setting.absolute, steps_join hslash (by simpa using habs),
        Location.names_toPath stands.proper]
      exact (stands.reaches_of_append (List.nil_append _)).append hreaches

section Directory

variable (habs : dir.isAbsolute = true)
include habs

theorem place_of_absolute (name : String) : Host.place dir.text name = dir.text ++ "/" ++ name := by
  simp [Host.place, Path.ne_empty_of_isAbsolute habs]

theorem steps_place (hname : IsName name) :
    steps ⟨Host.place dir.text name⟩ = dir.names ++ [name] := by
  have htext : (⟨Host.place dir.text name⟩ : Path) =
      ⟨String.ofList (dir.text.toList ++ '/' :: name.toList)⟩ := by
    rw [place_of_absolute habs name]
    simp [← String.toList_inj]
  have hsegs : (⟨Host.place dir.text name⟩ : Path).segments = dir.segments ++ [name] := by
    rw [htext, Path.segments_append_slash, String.ofList_toList, String.ofList_toList,
      Path.segments_of_not_mem hname.no_separator]
  rw [steps_of_segments hsegs, if_neg hname.ne_empty]
  rfl

theorem isAbsolute_place (name : String) : (⟨Host.place dir.text name⟩ : Path).isAbsolute = true := by
  rw [place_of_absolute habs name]
  unfold Path.isAbsolute at *
  cases hdir : dir.text.toList with
  | nil => simp [hdir] at habs
  | cons c cs => simpa [hdir] using habs

/-- The check joins a name to a directory with no more characters than the system does. -/
theorem accepted_join_of_place (hname : IsName name)
    (h : (⟨Host.place dir.text name⟩ : Path).Accepted) : (dir.join ⟨name⟩).Accepted := by
  rw [place_of_absolute habs name] at h
  have hdir := Path.ne_empty_of_isAbsolute habs
  by_cases hlast : dir.text.toList.getLast? = some '/'
  · have hjoin : dir.join ⟨name⟩ = ⟨dir.text ++ name⟩ := by
      simp [Path.join, Path.isAbsolute_of_isName hname, hdir, hlast]
    have hnul := h.no_nul
    have hshort := h.short
    rw [hjoin]
    constructor
    case no_nul => simpa using hnul
    case ne_empty => simp [hname.ne_empty]
    case short =>
      simp only [String.utf8ByteSize_append] at hshort ⊢
      omega
  · have htext := Path.text_join hdir hlast (Path.isAbsolute_of_isName hname)
    rw [← htext] at h
    exact h

/-- **In an absolute directory the system finds what the check finds.** -/
theorem regular_place_iff (cwd : Location) (hname : IsName name) :
    files.Regular there ⟨Host.place dir.text name⟩ ↔
      files.Regular cwd (dir.join ⟨name⟩) ∧ (⟨Host.place dir.text name⟩ : Path).Accepted := by
  have hdir := Path.ne_empty_of_isAbsolute habs
  have hsame : (⟨Host.place dir.text name⟩ : Path).Accepted →
      files.find there ⟨Host.place dir.text name⟩ = files.find cwd (dir.join ⟨name⟩) := fun hacc =>
    find_congr_absolute hacc (accepted_join_of_place habs hname hacc) (isAbsolute_place habs name)
      (Path.isAbsolute_join habs (Path.isAbsolute_of_isName hname))
      (by rw [steps_place habs hname, Path.steps_join_name hdir hname])
  constructor
  · rintro ⟨content, executable, hfind⟩
    obtain ⟨_, hresolve, -⟩ := find_eq_ok_iff.mp hfind
    have hacc := accepted_of_resolve hresolve
    exact ⟨⟨content, executable, (hsame hacc).symm.trans hfind⟩, hacc⟩
  · rintro ⟨⟨content, executable, hfind⟩, hacc⟩
    exact ⟨content, executable, (hsame hacc).trans hfind⟩

end Directory

/-! ## What both find -/

/-- The compiler that the check finds is found from the workspace at `there` as well. -/
inductive Anchored (setting : Setting) (files : FileStore) (there : Location) (exe : Path) : Prop where
  /-- It is given by a path, and the system takes the absolute form of the path. -/
  | path (slash : '/' ∈ exe.text.toList) (accepted : (setting.absolute exe).Accepted)
  /-- It is in an absolute directory of the search path, in which the check looks for it as well. -/
  | absolute (bare : '/' ∉ exe.text.toList) (dir : Path)
    (listed : dir ∈ searchDirectories ((setting.bindings.lookup "PATH").getD Host.standardSearchPath))
    (absolute : dir.isAbsolute = true) (found : files.Regular setting.directory (dir.join exe))
    (accepted : (⟨Host.place dir.text exe.text⟩ : Path).Accepted)
  /-- It is in another directory of the search path, which is one of the workspace. -/
  | within (bare : '/' ∉ exe.text.toList) (dir : Path)
    (listed : dir ∈ searchDirectories ((setting.bindings.lookup "PATH").getD Host.standardSearchPath))
    (relative : dir.isAbsolute = false) (found : files.Regular there ⟨Host.place dir.text exe.text⟩)

/-- Where the search path names absolute directories only, a bare name that the check finds is anchored,
unless its path is too long. -/
theorem anchored_of_absolute {dirs : String} (hname : IsName exe.text)
    (hpath : setting.bindings.lookup "PATH" = some dirs)
    (hall : ∀ dir ∈ searchDirectories dirs, dir.isAbsolute = true ∧
      (⟨Host.place dir.text exe.text⟩ : Path).Accepted)
    (havailable : executableAvailable (files.view setting.directory)
      (setting.bindings.lookup "PATH") exe = true) : Anchored setting files there exe := by
  have hrel : exe.isAbsolute = false := Path.isAbsolute_of_isName hname
  have hlength := Path.components_of_not_mem hname.no_separator
  rw [hpath, executableAvailable, if_neg (by simp [hrel, hlength])] at havailable
  obtain ⟨dir, hdir, hfile⟩ := List.any_eq_true.mp havailable
  obtain ⟨habs, hacc⟩ := hall dir hdir
  exact .absolute hname.no_separator dir (by rwa [hpath]) habs (regular_of_isFile hfile) hacc

theorem exists_candidate_iff_of_isName (hname : IsName exe.text) :
    (∃ q ∈ Host.candidates (setting.bindings.lookup "PATH") exe, files.Regular there q) ↔
      Anchored setting files there exe := by
  rw [Host.candidates, if_neg hname.no_separator]
  constructor
  · rintro ⟨q, hq, hfound⟩
    obtain ⟨dir, hdir, rfl⟩ := List.mem_map.mp hq
    cases habs : dir.isAbsolute with
    | true =>
      obtain ⟨hjoin, hacc⟩ := (regular_place_iff habs setting.directory hname).mp hfound
      exact .absolute hname.no_separator dir hdir habs hjoin hacc
    | false => exact .within hname.no_separator dir hdir habs hfound
  · rintro (⟨slash, -⟩ | ⟨-, dir, listed, absolute, found, accepted⟩ | ⟨-, dir, listed, -, found⟩)
    · exact absurd slash hname.no_separator
    · exact ⟨_, List.mem_map_of_mem listed,
        (regular_place_iff absolute _ hname).mpr ⟨found, accepted⟩⟩
    · exact ⟨_, List.mem_map_of_mem listed, found⟩

theorem exists_candidate_iff_of_slash (stands : setting.Stands files)
    (hslash : '/' ∈ exe.text.toList) (hregular : files.Regular setting.directory exe) :
    (∃ q ∈ Host.candidates searchPath (setting.absolute exe), files.Regular there q) ↔
      Anchored setting files there exe := by
  have hiff := stands.regular_absolute_iff there hregular
  have hplace : Host.candidates searchPath (setting.absolute exe) = [setting.absolute exe] :=
    if_pos (List.mem_of_mem_head? (by simpa [Path.isAbsolute] using setting.isAbsolute_absolute exe))
  rw [hplace]
  constructor
  · rintro ⟨q, hq, hfound⟩
    rw [List.mem_singleton.mp hq] at hfound
    exact .path hslash (hiff.mp hfound)
  · rintro (⟨-, accepted⟩ | ⟨bare, -⟩ | ⟨bare, -⟩)
    · exact ⟨_, List.mem_singleton_self _, hiff.mpr accepted⟩
    · exact absurd hslash bare
    · exact absurd hslash bare

/-- **The compiler that the check finds is at one of the places where the system looks exactly if it is
found from the workspace as well.** -/
theorem exists_candidate_iff_anchored (there : Location) (stands : setting.Stands files)
    (rooted : files.Rooted) (havailable : executableAvailable (files.view setting.directory)
      (setting.bindings.lookup "PATH") exe = true) :
    (∃ q ∈ Host.candidates (setting.bindings.lookup "PATH")
        (launchPath setting.directory.toPath exe), files.Regular there q) ↔
      Anchored setting files there exe := by
  rcases name_or_path_of_available rooted havailable with hname | ⟨hslash, hcond, hregular⟩
  · rw [launchPath_of_isName hname]
    exact exists_candidate_iff_of_isName hname
  · rw [launchPath_of_components hcond]
    exact exists_candidate_iff_of_slash stands hslash hregular

/-! ## Starting the compiler -/

variable {config : RunnerConfig} {plan : Plan} {workspace : Path} {limit : Option Duration}

theorem termination_of_refused {σ : Type} {env : Environment σ} {st st' : σ} {e : Cause}
    (h : (env.spawn (commandFor env config plan workspace)).Answers st (.error e) st') :
    ((execute env config plan workspace limit).run st).1.termination = .launchFailed := by
  have hperform : ((env.spawn (commandFor env config plan workspace)).perform limit).run st =
      (.error e, st') := by
    unfold Action.perform
    rw [run_bind_eq h]
    rfl
  rw [run_execute hperform]
  rfl

/-- **What the check before a suite says about a run.** The compiler that the check found is at one of
the places where the system looks for it exactly if it is anchored. If it is not, the run ends without a
start; if it is, the system says that there is nothing only of a script without its interpreter. -/
theorem execute_available (host : Host) (config : RunnerConfig) (plan : Plan)
    (limit : Option Duration) (stands : setting.Stands host.files) (rooted : host.files.Rooted)
    (own : ∀ v ∈ config.bindings, v.1 ≠ "PATH")
    (henter : Host.enter host.files setting.directory workspace = .ok there)
    (havailable : executableAvailable (host.files.view setting.directory)
      (setting.bindings.lookup "PATH") config.executable = true) :
    let places := Host.candidates (setting.bindings.lookup "PATH")
      (launchPath setting.directory.toPath config.executable)
    let env := Host.environment setting Host.launch
    ((∃ q ∈ places, host.files.Regular there q) ↔
      Anchored setting host.files there config.executable) ∧
    (¬ Anchored setting host.files there config.executable →
      ((execute env config plan workspace limit).run host).1.termination = .launchFailed) ∧
    (Anchored setting host.files there config.executable → ∀ after,
      (env.spawn (commandFor env config plan workspace)).Answers host (.error (.os .notFound)) after →
        ∃ q ∈ places, Host.IsScript host.files there q) := by
  dsimp only
  have hiff := exists_candidate_iff_anchored there stands rooted havailable
  refine ⟨hiff, fun hno => ?_, fun hanchored after hrefused => ?_⟩
  · obtain ⟨e, hanswer⟩ := Host.launch_refused host setting (commandFor
      (Host.environment setting Host.launch) config plan workspace) henter own (mt hiff.mp hno)
    exact termination_of_refused hanswer
  · obtain ⟨q, hq, hregular⟩ := hiff.mpr hanchored
    have hscript := Host.isScript_of_launch host setting (commandFor
      (Host.environment setting Host.launch) config plan workspace) henter own hrefused hq hregular
    exact ⟨q, hq, hscript⟩

/-! ## A compiler in the directory of the harness -/

/-- A compiler and a workspace. -/
def toolsFiles : FileStore :=
  ⟨[(["tools"], .directory true), (["tools", "probe-cc"], .file [] true), (["work"], .directory true)]⟩

/-- The compiler as a bare name. -/
def probeConfig : RunnerConfig := { executable := ⟨"probe-cc"⟩, platform := .host }

/-- A setting in the directory of the compiler. -/
def inTools (bindings : List (String × String)) : Setting := ⟨["tools"], bindings⟩

theorem stands_inTools (bindings : List (String × String)) : (inTools bindings).Stands toolsFiles where
  proper := by
    intro name hname
    obtain rfl := List.mem_singleton.mp hname
    exact ⟨by decide, by decide, by decide, by decide⟩
  short := by
    intro name hname
    obtain rfl := List.mem_singleton.mp hname
    decide
  directories := by
    intro above habove
    rcases List.prefix_cons_iff.mp habove with rfl | ⟨rest, rfl, hrest⟩
    · rfl
    · rw [List.prefix_nil.mp hrest]
      rfl

theorem toolsFiles_rooted : toolsFiles.Rooted := rooted_of_forall (by decide)

theorem enter_work (bindings : List (String × String)) :
    Host.enter toolsFiles (inTools bindings).directory ⟨"/work"⟩ = .ok ["work"] := by
  have hreaches : Reaches toolsFiles linkLimit [] (steps ⟨"/work"⟩) linkLimit ["work"] :=
    reaches_of_descends (by decide)
  have hresolve : toolsFiles.resolve (inTools bindings).directory true ⟨"/work"⟩ = .ok ["work"] :=
    resolve_of_reaches ⟨by decide, by decide, by decide⟩ hreaches
  unfold Host.enter
  rw [hresolve]
  rfl

theorem find_probe : toolsFiles.find ["tools"] ⟨"/tools/probe-cc"⟩ = .ok (.file [] true) :=
  find_of_descends ⟨by decide, by decide, by decide⟩ (by decide) (by decide) (by decide)

theorem find_probe_bare : toolsFiles.find ["tools"] ⟨"probe-cc"⟩ = .ok (.file [] true) := by
  have hreaches : Reaches toolsFiles linkLimit ["tools"] (steps ⟨"probe-cc"⟩) linkLimit
      ["tools", "probe-cc"] := reaches_of_descends (by decide)
  have hresolve : toolsFiles.resolve ["tools"] true ⟨"probe-cc"⟩ = .ok ["tools", "probe-cc"] :=
    resolve_of_reaches ⟨by decide, by decide, by decide⟩ hreaches
  exact find_eq_ok_iff.mpr ⟨_, hresolve, by decide⟩

theorem executableAvailable_bare (searchPath : Option String) :
    executableAvailable (toolsFiles.view ["tools"]) searchPath probeConfig.executable =
      match searchPath with
      | none => (toolsFiles.view ["tools"]).isFile ⟨"probe-cc"⟩
      | some dirs => (searchDirectories dirs).any fun dir =>
          (toolsFiles.view ["tools"]).isFile (dir.join ⟨"probe-cc"⟩) :=
  if_neg (by decide)

/-- Found in an absolute directory of the search path, the compiler is one that the system finds. -/
theorem execute_available_probe :
    (inTools [("PATH", "/tools")]).Stands toolsFiles ∧ toolsFiles.Rooted ∧
      (∀ v ∈ probeConfig.bindings, v.1 ≠ "PATH") ∧
      Host.enter toolsFiles ["tools"] ⟨"/work"⟩ = .ok ["work"] ∧
      executableAvailable (toolsFiles.view ["tools"]) (some "/tools") probeConfig.executable = true ∧
      ∃ q ∈ Host.candidates (some "/tools") ⟨"probe-cc"⟩, toolsFiles.Regular ["work"] q := by
  have hjoin : (Path.mk "/tools").join ⟨"probe-cc"⟩ = ⟨"/tools/probe-cc"⟩ := by decide
  have hplace : Host.place "/tools" "probe-cc" = "/tools/probe-cc" := by decide
  have hdirs : searchDirectories "/tools" = [⟨"/tools"⟩] := by decide
  have havailable : executableAvailable (toolsFiles.view ["tools"]) (some "/tools")
      probeConfig.executable = true := by
    rw [executableAvailable_bare]
    simp [hdirs, hjoin, FileView.isFile, FileStore.view, find_probe]
  have hanchored : Anchored (inTools [("PATH", "/tools")]) toolsFiles ["work"] ⟨"probe-cc"⟩ := by
    refine anchored_of_absolute ⟨by decide, by decide, by decide, by decide⟩ rfl ?_ havailable
    rw [hdirs, List.forall_mem_singleton, hplace]
    exact ⟨by decide, by decide, by decide, by decide⟩
  have hfound := (execute_available ⟨toolsFiles, 0⟩ probeConfig default none
    (stands_inTools [("PATH", "/tools")]) toolsFiles_rooted (by decide) (enter_work _)
    havailable).1.mpr hanchored
  rw [show launchPath (inTools [("PATH", "/tools")]).directory.toPath probeConfig.executable =
    ⟨"probe-cc"⟩ by decide] at hfound
  exact ⟨stands_inTools _, toolsFiles_rooted, by decide, enter_work [("PATH", "/tools")], havailable,
    hfound⟩

/-- Without a search path the check finds a bare name in its own directory, where the system does not
look for it. -/
theorem launchFailed_unset_path :
    (inTools []).Stands toolsFiles ∧ toolsFiles.Rooted ∧
      (∀ v ∈ probeConfig.bindings, v.1 ≠ "PATH") ∧
      Host.enter toolsFiles ["tools"] ⟨"/work"⟩ = .ok ["work"] ∧
      executableAvailable (toolsFiles.view ["tools"]) none probeConfig.executable = true ∧
      (¬ ∃ q ∈ Host.candidates none ⟨"probe-cc"⟩, toolsFiles.Regular ["work"] q) ∧
      ((execute (Host.environment (inTools []) Host.launch) probeConfig default ⟨"/work"⟩ none).run
        ⟨toolsFiles, 0⟩).1.termination = .launchFailed := by
  have havailable : executableAvailable (toolsFiles.view ["tools"]) none
      probeConfig.executable = true := by
    rw [executableAvailable_bare]
    simp [FileView.isFile, FileStore.view, find_probe_bare]
  have hmissing : ¬ ∃ q ∈ Host.candidates none ⟨"probe-cc"⟩, toolsFiles.Regular ["work"] q := by
    have hplaces : Host.candidates none ⟨"probe-cc"⟩ = [⟨"/bin/probe-cc"⟩, ⟨"/usr/bin/probe-cc"⟩] := by
      decide
    rw [hplaces]
    rintro ⟨q, hq, hregular⟩
    rcases List.mem_cons.mp hq with rfl | hq
    · exact not_regular_of_missing "bin" ["probe-cc"] (by decide) (by decide)
        (by decide) (by decide) hregular
    · obtain rfl := List.mem_singleton.mp hq
      exact not_regular_of_missing "usr" ["bin", "probe-cc"] (by decide) (by decide) (by decide)
        (by decide) hregular
  refine ⟨stands_inTools _, toolsFiles_rooted, by decide, enter_work [], havailable, hmissing, ?_⟩
  obtain ⟨e, hanswer⟩ := Host.launch_refused ⟨toolsFiles, 0⟩ (inTools [])
    (commandFor (Host.environment (inTools []) Host.launch) probeConfig default ⟨"/work"⟩)
    (enter_work []) (by decide) hmissing
  exact termination_of_refused hanswer

end Conformance
