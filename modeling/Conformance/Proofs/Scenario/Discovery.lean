import Conformance.Proofs.Scenario.Visit

/-!
# Finding scenario files in a directory tree

* `FileStore.ScenarioAt` : a scenario file below a location;
* `FileStore.mem_pathsWhere`, `FileStore.pairwise_pathsWhere` : the paths of entries with a property;
* `searched` : a search over what a visit answers; `searched_answers` : how it ends;
* `FileStore.Visits.searched` : discovery does what a search on a visit does;
* `discover_tree` : what is found in a directory tree.
-/

namespace Conformance

variable {store : FileStore} {cwd loc : Location} {root p : Path} {names : List String} {name : String}
  {stops : List (Path × Entry)}

/-! ## Scenario files -/

/-- From a location, names lead to a regular file whose name is a stem with the extension of a scenario
file. -/
def FileStore.ScenarioAt (store : FileStore) (loc : Location) (names : List String) : Prop :=
  ∃ front stem ext, names = front ++ [stem ++ "." ++ ext] ∧ stem ≠ "" ∧ (ext = "yaml" ∨ ext = "yml") ∧
    ∃ content executable, store.entry? (loc ++ names) = some (.file content executable)

theorem Path.splitName_eq_some_iff {ext : String} : (splitName name).2 = some ext ↔
    ∃ stem, name = stem ++ "." ++ ext ∧ stem ≠ "" ∧ '.' ∉ ext.toList := by
  constructor
  · intro h
    by_cases hdot : '.' ∈ name.toList.tail
    · obtain ⟨before, after, hname, hbefore, hafter⟩ := exists_append_of_mem_tail hdot
      obtain rfl : name = String.ofList (before ++ '.' :: after) := by rw [← hname, String.ofList_toList]
      rw [splitName_append hbefore hafter] at h
      obtain rfl : String.ofList after = ext := Option.some.inj h
      refine ⟨String.ofList before, ?_, by simpa using hbefore, by simpa using hafter⟩
      simp [← String.toList_inj]
    · rw [splitName_of_not_mem_tail hdot] at h
      cases h
  · rintro ⟨stem, rfl, hstem, hext⟩
    have hname : stem ++ "." ++ ext = String.ofList (stem.toList ++ '.' :: ext.toList) := by
      simp [← String.toList_inj]
    rw [hname, splitName_append (by simpa using hstem) hext, String.ofList_toList, String.ofList_toList]

theorem isScenarioPath_iff {front : List Component} (h : p.components = front ++ [.normal name]) :
    isScenarioPath p = true ↔
      ∃ stem ext, name = stem ++ "." ++ ext ∧ stem ≠ "" ∧ (ext = "yaml" ∨ ext = "yml") := by
  have hext : p.extension? = (Path.splitName name).2 := by
    rw [Path.extension?, Path.fileName?, h, List.getLast?_concat]
    rfl
  unfold isScenarioPath
  rw [hext]
  constructor
  · intro hscenario
    cases hsplit : (Path.splitName name).2 with
    | none => simp [hsplit] at hscenario
    | some ext =>
      obtain ⟨stem, hname, hstem, -⟩ := Path.splitName_eq_some_iff.mp hsplit
      exact ⟨stem, ext, hname, hstem, by simpa [hsplit, scenarioExtensions] using hscenario⟩
  · rintro ⟨stem, ext, hname, hstem, hscenario⟩
    have hdot : '.' ∉ ext.toList := by
      rcases hscenario with rfl | rfl <;> decide
    rw [Path.splitName_eq_some_iff.mpr ⟨stem, hname, hstem, hdot⟩]
    simpa [scenarioExtensions] using hscenario

namespace FileStore

theorem scenarioAt_iff (sound : store.Sound) (hroot : root.text ≠ "") (hdir : store.isDirectoryAt loc = true) :
    store.ScenarioAt loc names ↔
      ∃ e, store.entry? (loc ++ names) = some e ∧ isScenarioEntry (root.place names) e = true := by
  have hlast : ∀ {front last e}, names = front ++ [last] → store.entry? (loc ++ names) = some e →
      (root.place names).components = root.components ++ front.map .normal ++ [.normal last] := by
    rintro front last e rfl hentry
    rw [Path.components_place hroot (sound.proper_names hentry), List.map_append, List.append_assoc]
    rfl
  constructor
  · rintro ⟨front, stem, ext, hnames, hstem, hext, content, executable, hentry⟩
    exact ⟨_, hentry, (isScenarioPath_iff (hlast hnames hentry)).mpr ⟨stem, ext, rfl, hstem, hext⟩⟩
  · rintro ⟨e, hentry, hscenario⟩
    cases e with
    | file content executable =>
      obtain rfl | ⟨front, last, hnames⟩ := List.eq_nil_or_concat' names
      · obtain ⟨readable, hreadable⟩ := isDirectoryAt_iff.mp hdir
        rw [List.append_nil, hreadable] at hentry
        cases hentry
      · obtain ⟨stem, ext, rfl, hstem, hext⟩ := (isScenarioPath_iff (hlast hnames hentry)).mp hscenario
        exact ⟨front, stem, ext, hnames, hstem, hext, content, executable, hentry⟩
    | _ => cases hscenario

/-! ## The paths of entries -/

/-- The entries at or below a location. -/
def entriesFrom (store : FileStore) (loc : Location) : List (List String × Entry) :=
  (store.entry? loc).toList.map (fun e => ([], e)) ++ store.entriesBelow loc

theorem mem_entriesFrom (sound : store.Sound) {e : Entry} :
    (names, e) ∈ store.entriesFrom loc ↔ store.entry? (loc ++ names) = some e := by
  rw [entriesFrom, List.mem_append, sound.mem_entriesBelow, List.mem_map]
  constructor
  · rintro (⟨e', he', heq⟩ | ⟨-, hentry⟩)
    · cases heq
      rw [List.append_nil]
      simpa using he'
    · exact hentry
  · intro hentry
    by_cases hnil : names = []
    · rw [hnil, List.append_nil] at hentry
      exact .inl ⟨e, by simpa using hentry, by rw [hnil]⟩
    · exact .inr ⟨hnil, hentry⟩

theorem nodup_entriesFrom (sound : store.Sound) : ((store.entriesFrom loc).map Prod.fst).Nodup := by
  rw [entriesFrom, List.map_append, List.nodup_append]
  refine ⟨?_, sound.nodup_entriesBelow loc, ?_⟩
  · cases store.entry? loc <;> simp
  · intro here hhere below hbelow
    obtain ⟨s, hs, rfl⟩ := List.mem_map.mp hhere
    obtain ⟨e, -, rfl⟩ := List.mem_map.mp hs
    obtain ⟨s, hs, rfl⟩ := List.mem_map.mp hbelow
    exact (sound.mem_entriesBelow.mp hs).1.symm

theorem pathsWhere_eq (sound : store.Sound) (cond : Path → Entry → Bool) :
    store.pathsWhere root loc cond = ((((store.entriesFrom loc).map fun s => (root.place s.1, s.2)).filter
      fun s => cond s.1 s.2).map Prod.fst).mergeSort Path.le := by
  unfold pathsWhere entriesFrom
  have hhere : ((store.entry? loc).toList.map fun e => (root, e)) =
      ((store.entry? loc).toList.map fun e => (([] : List String), e)).map fun s => (root.place s.1, s.2) := by
    rw [List.map_map]
    rfl
  have hbelow : ((store.entriesBelow loc).map fun e => (root.below e.1, e.2)) =
      (store.entriesBelow loc).map fun s => (root.place s.1, s.2) := by
    refine List.map_congr_left fun s hs => ?_
    rw [Path.place, if_neg (sound.mem_entriesBelow.mp hs).1]
  rw [List.map_append, ← hhere, ← hbelow]

theorem mem_pathsWhere (sound : store.Sound) {cond : Path → Entry → Bool} :
    p ∈ store.pathsWhere root loc cond ↔ ∃ names, p = root.place names ∧
      ∃ e, store.entry? (loc ++ names) = some e ∧ cond (root.place names) e = true := by
  rw [pathsWhere_eq sound, List.mem_mergeSort]
  constructor
  · intro hp
    obtain ⟨s, hs, rfl⟩ := List.mem_map.mp hp
    obtain ⟨hs, hcond⟩ := List.mem_filter.mp hs
    obtain ⟨⟨names, e⟩, hmem, rfl⟩ := List.mem_map.mp hs
    exact ⟨names, rfl, e, (mem_entriesFrom sound).mp hmem, hcond⟩
  · rintro ⟨names, rfl, e, hentry, hcond⟩
    have hmem := List.mem_map_of_mem (f := fun s => (root.place s.1, s.2)) ((mem_entriesFrom sound).mpr hentry)
    exact List.mem_map_of_mem (f := Prod.fst) (List.mem_filter.mpr ⟨hmem, hcond⟩)

theorem pairwise_pathsWhere (sound : store.Sound) (hroot : root.text ≠ "") (cond : Path → Entry → Bool) :
    (store.pathsWhere root loc cond).Pairwise Path.Before := by
  rw [pathsWhere_eq sound]
  -- different entries have different keys, so their order is strict
  have hplaces : ((store.entriesFrom loc).map fun s => (root.place s.1, s.2)).Pairwise
      fun s t => s.1.key ≠ t.1.key := by
    rw [List.pairwise_map]
    refine (List.pairwise_map.mp (nodup_entriesFrom sound)).imp_of_mem fun {s t} hs ht hne heq => hne ?_
    exact Path.place_inj hroot (sound.proper_names ((mem_entriesFrom sound).mp hs))
      (sound.proper_names ((mem_entriesFrom sound).mp ht)) heq
  have hkeys := hplaces.filter fun s => cond s.1 s.2
  refine List.Pairwise.imp₂ (fun p q hle hne => Path.before_of_le hle hne)
    (List.pairwise_mergeSort Path.le_trans Path.le_total _) ?_
  exact ((List.mergeSort_perm _ _).pairwise_iff Ne.symm).mpr (List.pairwise_map.mpr hkeys)

end FileStore

/-! ## A search -/

/-- What is answered at a stop of a visit: the entry, and an error if it is a directory whose names cannot be
read. -/
def answers (s : Path × Entry) : List (Except Cause (Path × Entry)) :=
  .ok s :: if isClosedEntry s.1 s.2 then [.error (closedCause s.1)] else []

/-- Collects scenario files from what is answered, up to the first error. -/
def searched (root : Path) : List Path → List (Except Cause (Path × Entry)) → Except HarnessError (List Path)
  | found, [] => if found.isEmpty then .error (.noScenarios root) else .ok (found.mergeSort Path.le)
  | _, .error cause :: _ => .error (.discovery root cause)
  | found, .ok s :: rest =>
    searched root (if isScenarioEntry s.1 s.2 then found ++ [s.1] else found) rest

/-- How a search ends that came across directories that cannot be read and scenario files. -/
def concluded (root : Path) (closed found : List Path) : Except HarnessError (List Path) :=
  match closed with
  | first :: _ => .error (.discovery root (closedCause first))
  | [] =>
    match found with
    | [] => .error (.noScenarios root)
    | found => .ok found

/-- **A search ends at the first directory that cannot be read**, and otherwise with the scenario files. -/
theorem searched_answers (root : Path) (found : List Path) (stops : List (Path × Entry)) :
    searched root found (stops.flatMap answers) =
      concluded root ((stops.filter fun s => isClosedEntry s.1 s.2).map Prod.fst)
        ((found ++ (stops.filter fun s => isScenarioEntry s.1 s.2).map Prod.fst).mergeSort Path.le) := by
  induction stops generalizing found with
  | nil =>
    simp only [List.flatMap_nil, searched, List.filter_nil, List.map_nil, List.append_nil, concluded]
    cases found with
    | nil => simp
    | cons first found =>
      have hne : (first :: found).mergeSort Path.le ≠ [] := by
        rw [Ne, ← List.length_eq_zero_iff, List.length_mergeSort]
        exact Nat.succ_ne_zero _
      obtain ⟨least, rest, heq⟩ := List.exists_cons_of_ne_nil hne
      rw [heq]
      rfl
  | cons s stops ih =>
    rw [List.flatMap_cons, answers]
    by_cases hclosed : isClosedEntry s.1 s.2 = true
    · rw [if_pos hclosed, List.filter_cons, if_pos hclosed]
      rfl
    · rw [if_neg hclosed, List.filter_cons, if_neg hclosed]
      show searched root _ (stops.flatMap answers) = _
      rw [ih]
      by_cases hscenario : isScenarioEntry s.1 s.2 = true
      · rw [if_pos hscenario, List.filter_cons, if_pos hscenario, List.map_cons, List.append_assoc,
          List.singleton_append]
      · rw [if_neg hscenario, List.filter_cons, if_neg hscenario]

namespace FileStore

/-- A directory that cannot be read stands in one that has no other such directory above it. -/
theorem ClosedAt.exists_topmost (h : store.ClosedAt root loc names) :
    ∃ upper lower, names = upper ++ lower ∧ store.ClosedAt root loc upper ∧
      ∀ above rest, upper = above ++ rest → rest ≠ [] → ¬ store.ClosedAt root loc above := by
  induction hlength : names.length using Nat.strong_induction_on generalizing names with
  | h length ih =>
    by_cases htop : ∃ above rest, names = above ++ rest ∧ rest ≠ [] ∧ store.ClosedAt root loc above
    · obtain ⟨above, rest, rfl, hrest, habove⟩ := htop
      have hpos := List.length_pos_iff.mpr hrest
      rw [List.length_append] at hlength
      obtain ⟨upper, lower, rfl, hupper⟩ := ih above.length (by omega) habove rfl
      exact ⟨upper, lower ++ rest, List.append_assoc .., hupper⟩
    · exact ⟨names, [], (List.append_nil _).symm, h, fun above rest heq hrest habove =>
        htop ⟨above, rest, heq, hrest, habove⟩⟩

theorem Visited.mem_of_topmost (h : store.Visited root loc [[]] stops) {e : Entry}
    (htop : ∀ above rest, names = above ++ rest → rest ≠ [] → ¬ store.ClosedAt root loc above)
    (hentry : store.entry? (loc ++ names) = some e) : (root.place names, e) ∈ stops :=
  h.complete [] List.mem_cons_self names e hentry htop

theorem Visited.exists_names (h : store.Visited root loc [[]] stops) {s : Path × Entry} (hs : s ∈ stops) :
    ∃ names, s.1 = root.place names ∧ store.entry? (loc ++ names) = some s.2 := by
  obtain ⟨start, hstart, more, hpath, hentry⟩ := h.found s hs
  obtain rfl : start = [] := List.mem_singleton.mp hstart
  exact ⟨more, hpath, hentry⟩

theorem Visited.mem_pathsWhere_of_mem (sound : store.Sound) (h : store.Visited root loc [[]] stops)
    {cond : Path → Entry → Bool} (hp : p ∈ (stops.filter fun s => cond s.1 s.2).map Prod.fst) :
    p ∈ store.pathsWhere root loc cond := by
  obtain ⟨s, hs, rfl⟩ := List.mem_map.mp hp
  obtain ⟨hs, hcond⟩ := List.mem_filter.mp hs
  obtain ⟨names, hpath, hentry⟩ := h.exists_names hs
  rw [hpath] at hcond ⊢
  exact (mem_pathsWhere sound).mpr ⟨names, rfl, s.2, hentry, hcond⟩

theorem Visited.pairwise_filter (h : store.Visited root loc [[]] stops) (cond : Path → Entry → Bool) :
    ((stops.filter fun s => cond s.1 s.2).map Prod.fst).Pairwise Path.Before :=
  h.ordered.sublist (List.filter_sublist.map _)

/-- On a visit, the first directory that cannot be read is that of the whole tree. -/
theorem Visited.head?_closed (sound : store.Sound) (hroot : root.text ≠ "")
    (h : store.Visited root loc [[]] stops) :
    ((stops.filter fun s => isClosedEntry s.1 s.2).map Prod.fst).head? =
      (store.pathsWhere root loc isClosedEntry).head? := by
  refine Path.head?_eq_of_before (h.pairwise_filter _) (pairwise_pathsWhere sound hroot _)
    (fun p hp => h.mem_pathsWhere_of_mem sound hp) fun q hq => ?_
  obtain ⟨names, rfl, hclosed⟩ := (mem_pathsWhere sound).mp hq
  obtain ⟨upper, lower, rfl, hupper, htop⟩ := (closedAt_iff.mpr hclosed).exists_topmost
  obtain ⟨e, hentry, hclosed'⟩ := closedAt_iff.mp hupper
  have hstop : (root.place upper, e) ∈ stops.filter fun s => isClosedEntry s.1 s.2 :=
    List.mem_filter.mpr ⟨h.mem_of_topmost htop hentry, hclosed'⟩
  refine ⟨root.place upper, List.mem_map_of_mem hstop, ?_⟩
  by_cases hlower : lower = []
  · rw [hlower, List.append_nil]
    exact .inl rfl
  · obtain ⟨e', hentry', -⟩ := hclosed
    exact .inr (Path.place_before_append hroot (sound.proper_names hentry') hlower)

/-- On a visit of a tree that can be read, the scenario files are those of the whole tree. -/
theorem Visited.scenarios (sound : store.Sound) (hroot : root.text ≠ "")
    (h : store.Visited root loc [[]] stops) (hopen : ∀ names, ¬ store.ClosedAt root loc names) :
    (stops.filter fun s => isScenarioEntry s.1 s.2).map Prod.fst =
      store.pathsWhere root loc isScenarioEntry := by
  refine Path.eq_of_before (h.pairwise_filter _) (pairwise_pathsWhere sound hroot _)
    fun p => ⟨h.mem_pathsWhere_of_mem sound, fun hp => ?_⟩
  obtain ⟨names, rfl, e, hentry, hscenario⟩ := (mem_pathsWhere sound).mp hp
  have hstop := h.mem_of_topmost (fun above _ _ _ => hopen above) hentry
  exact List.mem_map_of_mem (f := Prod.fst) (List.mem_filter.mpr ⟨hstop, hscenario⟩)

end FileStore

/-! ## What is found -/

theorem concluded_eq_ok_iff {closed ps found : List Path} :
    concluded root closed ps = .ok found ↔ closed = [] ∧ found ≠ [] ∧ ps = found := by
  unfold concluded
  cases closed with
  | cons first closed => simp
  | nil =>
    cases ps with
    | nil => simp
    | cons p ps =>
      constructor
      · intro h
        cases h
        exact ⟨rfl, List.cons_ne_nil _ _, rfl⟩
      · rintro ⟨-, -, rfl⟩
        rfl

theorem exists_concluded_iff {closed ps : List Path} :
    (∃ cause, concluded root closed ps = .error (.discovery root cause)) ↔ closed ≠ [] := by
  unfold concluded
  cases closed with
  | cons first closed => simp
  | nil => cases ps <;> simp

theorem concluded_eq_noScenarios_iff {closed ps : List Path} :
    concluded root closed ps = .error (.noScenarios root) ↔ closed = [] ∧ ps = [] := by
  unfold concluded
  cases closed with
  | cons first closed => simp
  | nil => cases ps <;> simp

theorem discover_of_directory (hresolve : store.resolve cwd true root = .ok loc)
    (hdir : store.isDirectoryAt loc = true) : discover store cwd root =
      concluded root (store.pathsWhere root loc isClosedEntry) (store.pathsWhere root loc isScenarioEntry) := by
  obtain ⟨readable, hentry⟩ := FileStore.isDirectoryAt_iff.mp hdir
  have hfind : (store.view cwd).find root = .ok (.directory readable) :=
    FileStore.find_eq_ok_iff.mpr ⟨loc, hresolve, hentry⟩
  unfold discover FileView.isFile
  rw [hfind, hresolve]
  rfl

/-- Nothing is found where nothing stands. -/
theorem discover_of_missing (sound : store.Sound) {e : Cause} (h : store.find cwd root = .error e) :
    discover store cwd root = .error (.discovery root (.walk e root)) := by
  have hresolve : store.resolve cwd true root = .error e := by
    cases hresolve : store.resolve cwd true root with
    | error e' =>
      simp only [FileStore.find, hresolve, bind, Except.bind] at h
      cases h
      rfl
    | ok loc =>
      obtain ⟨entry, hentry⟩ := sound.exists_of_resolve hresolve
      rw [FileStore.find_eq_ok_iff.mpr ⟨loc, hresolve, hentry⟩] at h
      cases h
  have hfind : (store.view cwd).find root = .error e := h
  unfold discover FileView.isFile
  rw [hfind, hresolve]
  rfl

namespace FileStore

variable (sound : store.Sound)

include sound

theorem pathsWhere_closed_eq_nil_iff : store.pathsWhere root loc isClosedEntry = [] ↔
    ∀ names, ¬ store.ClosedAt root loc names := by
  rw [List.eq_nil_iff_forall_not_mem]
  constructor
  · intro hnone names hclosed
    exact hnone _ ((mem_pathsWhere sound).mpr ⟨names, rfl, closedAt_iff.mp hclosed⟩)
  · rintro hnone p hp
    obtain ⟨names, rfl, hclosed⟩ := (mem_pathsWhere sound).mp hp
    exact hnone names (closedAt_iff.mpr hclosed)

theorem mem_pathsWhere_scenario_iff (hroot : root.text ≠ "") (hdir : store.isDirectoryAt loc = true) :
    p ∈ store.pathsWhere root loc isScenarioEntry ↔
      ∃ names, store.ScenarioAt loc names ∧ p = root.place names := by
  rw [mem_pathsWhere sound]
  constructor
  · rintro ⟨names, rfl, hscenario⟩
    exact ⟨names, (scenarioAt_iff sound hroot hdir).mpr hscenario, rfl⟩
  · rintro ⟨names, hscenario, rfl⟩
    exact ⟨names, rfl, (scenarioAt_iff sound hroot hdir).mp hscenario⟩

/-- On every visit of a directory tree a search ends as discovery does. -/
theorem Visits.searched (hresolve : store.resolve cwd true root = .ok loc)
    (hdir : store.isDirectoryAt loc = true) (h : store.Visits [(root, loc)] stops) :
    searched root [] (stops.flatMap answers) = discover store cwd root := by
  have hroot : root.text ≠ "" := by simpa using (accepted_of_resolve hresolve).ne_empty
  have hstarts : [(root, loc)] = [[]].map (spot root loc) := by simp [spot, Path.place]
  have hvisited := h.visited sound hroot hstarts (List.pairwise_singleton _ _)
  have hhead := hvisited.head?_closed sound hroot
  rw [searched_answers, discover_of_directory hresolve hdir, List.nil_append]
  cases hclosed : store.pathsWhere root loc isClosedEntry with
  | cons first closed =>
    rw [hclosed, List.head?_cons, List.head?_eq_some_iff] at hhead
    obtain ⟨closed', hclosed'⟩ := hhead
    rw [hclosed']
    rfl
  | nil =>
    rw [hclosed, List.head?_nil, List.head?_eq_none_iff] at hhead
    have hscenarios := hvisited.scenarios sound hroot ((pathsWhere_closed_eq_nil_iff sound).mp hclosed)
    have hsorted : (store.pathsWhere root loc isScenarioEntry).Pairwise Path.Before :=
      pairwise_pathsWhere sound hroot _
    rw [hhead, hscenarios, List.mergeSort_of_pairwise (hsorted.imp And.left)]

end FileStore

/-- **Discovery in a directory tree.** Where nothing stands at the path, it is an error of discovery. Below a
path that leads to a directory:

* files are found if and only if every directory can be read and there is a scenario file; what is found are
  the scenario files and nothing else, in strict order;
* it is an error of discovery if and only if a directory cannot be read;
* if all can be read and there is no scenario file, the error says so;
* the tree can be visited, and on every visit, in whatever order directories are listed, a search has the
  same result. -/
theorem discover_tree (store : FileStore) (cwd : Location) (root : Path) (sound : store.Sound) :
    (∀ e, store.find cwd root = .error e →
      discover store cwd root = .error (.discovery root (.walk e root))) ∧
    ∀ loc, store.resolve cwd true root = .ok loc → store.isDirectoryAt loc = true →
      ((∃ found, discover store cwd root = .ok found) ↔
        (∀ names, ¬ store.ClosedAt root loc names) ∧ ∃ names, store.ScenarioAt loc names) ∧
      (∀ found, discover store cwd root = .ok found →
        found.Pairwise Path.Before ∧
          ∀ p, p ∈ found ↔ ∃ names, store.ScenarioAt loc names ∧ p = root.place names) ∧
      ((∃ cause, discover store cwd root = .error (.discovery root cause)) ↔
        ∃ names, store.ClosedAt root loc names) ∧
      (discover store cwd root = .error (.noScenarios root) ↔
        (∀ names, ¬ store.ClosedAt root loc names) ∧ ∀ names, ¬ store.ScenarioAt loc names) ∧
      (∃ stops, store.Visits [(root, loc)] stops) ∧
      ∀ stops, store.Visits [(root, loc)] stops →
        searched root [] (stops.flatMap answers) = discover store cwd root := by
  refine ⟨fun e he => discover_of_missing sound he, fun loc hresolve hdir => ?_⟩
  have hroot : root.text ≠ "" := by simpa using (FileStore.accepted_of_resolve hresolve).ne_empty
  obtain ⟨readable, hentry⟩ := FileStore.isDirectoryAt_iff.mp hdir
  have hclosed : store.pathsWhere root loc isClosedEntry = [] ↔ ∀ names, ¬ store.ClosedAt root loc names :=
    FileStore.pathsWhere_closed_eq_nil_iff sound
  have hmem : ∀ p, p ∈ store.pathsWhere root loc isScenarioEntry ↔
      ∃ names, store.ScenarioAt loc names ∧ p = root.place names :=
    fun p => FileStore.mem_pathsWhere_scenario_iff sound hroot hdir
  have hsome : store.pathsWhere root loc isScenarioEntry ≠ [] ↔ ∃ names, store.ScenarioAt loc names := by
    constructor
    · intro hne
      obtain ⟨p, hp⟩ := List.exists_mem_of_ne_nil _ hne
      obtain ⟨names, hscenario, -⟩ := (hmem p).mp hp
      exact ⟨names, hscenario⟩
    · rintro ⟨names, hscenario⟩
      exact List.ne_nil_of_mem ((hmem _).mpr ⟨names, hscenario, rfl⟩)
  have hnone : store.pathsWhere root loc isScenarioEntry = [] ↔ ∀ names, ¬ store.ScenarioAt loc names := by
    rw [← not_exists, ← hsome, not_ne_iff]
  refine ⟨?_, ?_, ?_, ?_, ?_, fun stops h => h.searched sound hresolve hdir⟩
  · rw [discover_of_directory hresolve hdir, ← hclosed, ← hsome]
    constructor
    · rintro ⟨found, hfound⟩
      obtain ⟨hopen, hne, rfl⟩ := concluded_eq_ok_iff.mp hfound
      exact ⟨hopen, hne⟩
    · rintro ⟨hopen, hne⟩
      exact ⟨_, concluded_eq_ok_iff.mpr ⟨hopen, hne, rfl⟩⟩
  · intro found hfound
    rw [discover_of_directory hresolve hdir] at hfound
    obtain ⟨-, -, rfl⟩ := concluded_eq_ok_iff.mp hfound
    exact ⟨FileStore.pairwise_pathsWhere sound hroot _, hmem⟩
  · rw [discover_of_directory hresolve hdir, exists_concluded_iff, Ne, hclosed, not_forall_not]
  · rw [discover_of_directory hresolve hdir, concluded_eq_noScenarios_iff, hclosed, hnone]
  · exact FileStore.exists_visits_of_entry root (by rw [hentry]; exact Option.some_ne_none _)

/-- Two scenario files, and a link, a hidden file and a directory with an extension. -/
def twoScenarios : FileStore where
  entries := [(["t"], .directory true), (["t", "z.yaml"], .file [] false), (["t", "n"], .directory true),
    (["t", "n", "a.yml"], .file [] false), (["t", "l.yaml"], .link ⟨"z.yaml"⟩),
    (["t", ".yaml"], .file [] false), (["t", "d.yml"], .directory true)]

theorem twoScenarios_sound : twoScenarios.Sound where
  rooted := FileStore.rooted_of_forall (by decide)
  once := by decide
  proper := by decide

theorem resolve_twoScenarios : twoScenarios.resolve [] true ⟨"/t"⟩ = .ok ["t"] := by
  have hreaches : FileStore.Reaches twoScenarios FileStore.linkLimit [] (FileStore.steps ⟨"/t"⟩)
      FileStore.linkLimit ([] ++ FileStore.steps ⟨"/t"⟩) := FileStore.reaches_of_descends (by decide)
  exact FileStore.resolve_of_reaches ⟨by decide, by decide, by decide⟩ hreaches

theorem not_closedAt_twoScenarios (names : List String) : ¬ twoScenarios.ClosedAt ⟨"/t"⟩ ["t"] names := by
  rintro ⟨readable, hentry, hclosed⟩
  have hmem := FileStore.mem_entries_of_eq (by simp) hentry
  simp only [twoScenarios, List.cons_append, List.nil_append, List.mem_cons, Prod.mk.injEq, List.cons.injEq,
    true_and, Entry.directory.injEq, reduceCtorEq, and_false, List.not_mem_nil, or_false, false_or] at hmem
  rcases hmem with ⟨rfl, rfl⟩ | ⟨rfl, rfl⟩ | ⟨rfl, rfl⟩ <;> exact absurd hclosed (by decide)

theorem scenarioAt_twoScenarios :
    twoScenarios.ScenarioAt ["t"] names ↔ names = ["z.yaml"] ∨ names = ["n", "a.yml"] := by
  have hroot : (Path.mk "/t").text ≠ "" := by decide
  rw [FileStore.scenarioAt_iff twoScenarios_sound hroot (by decide)]
  constructor
  · rintro ⟨e, hentry, hscenario⟩
    have hmem := FileStore.mem_entries_of_eq (by simp) hentry
    simp only [twoScenarios, List.cons_append, List.nil_append, List.mem_cons, Prod.mk.injEq,
      List.cons.injEq, true_and, List.not_mem_nil, or_false] at hmem
    rcases hmem with ⟨rfl, rfl⟩ | ⟨rfl, rfl⟩ | ⟨rfl, rfl⟩ | ⟨rfl, rfl⟩ | ⟨rfl, rfl⟩ | ⟨rfl, rfl⟩ | ⟨rfl, rfl⟩ <;>
      revert hscenario <;> decide
  · rintro (rfl | rfl) <;> exact ⟨.file [] false, by decide, by decide⟩

theorem discover_twoScenarios : twoScenarios.Sound ∧
    discover twoScenarios [] ⟨"/t"⟩ = .ok [⟨"/t/n/a.yml"⟩, ⟨"/t/z.yaml"⟩] := by
  have hdir : twoScenarios.isDirectoryAt ["t"] = true := by decide
  have htree := (discover_tree twoScenarios [] ⟨"/t"⟩ twoScenarios_sound).2 ["t"] resolve_twoScenarios hdir
  obtain ⟨found, hfound⟩ :=
    htree.1.mpr ⟨not_closedAt_twoScenarios, ["z.yaml"], scenarioAt_twoScenarios.mpr (.inl rfl)⟩
  obtain ⟨hsorted, hmem⟩ := htree.2.1 found hfound
  have heq : found = [⟨"/t/n/a.yml"⟩, ⟨"/t/z.yaml"⟩] := by
    refine Path.eq_of_before hsorted (by decide) fun p => ?_
    rw [hmem]
    simp only [scenarioAt_twoScenarios, or_and_right, exists_or, exists_eq_left, List.mem_cons,
      List.not_mem_nil, or_false]
    exact Or.comm
  rw [hfound, heq]
  exact ⟨twoScenarios_sound, rfl⟩

end Conformance
