import Conformance.Host.Launch
import Conformance.Suite.Preflight
import Conformance.Proofs.Text.Utf8
import Conformance.Proofs.Workspace.Fixtures

/-!
# How a program is found

* `Host.pathOf_encoded` : a path survives being passed on as octets;
* `Host.candidates` : the paths at which a program is looked for;
* `Host.exists_regular_of_find` : a program that is found is a regular file at one of them;
* `Host.isScript_of_find` : if nothing is found although a regular file is at one of them, then the file
  is a script, and it is an interpreter that is missing;
* `Host.launch_refused`, `Host.isScript_of_launch` : what that means for a command.
-/

namespace Conformance.Host

variable {files : FileStore} {cwd : Location} {s t : String}

/-! ## Octets -/

theorem toNat_ofNat_octet (b : UInt8) : (Char.ofNat b.toNat).toNat = b.toNat := by
  have hvalid : b.toNat.isValidChar := .inl (Nat.lt_trans b.toNat_lt (by decide))
  rw [Char.ofNat, dif_pos hvalid]
  rfl

theorem octets_ofOctets (bs : Bytes) : octets (ofOctets bs) = bs := by
  rw [octets, ofOctets, String.toList_ofList, List.map_map]
  refine (List.map_congr_left fun b _ => ?_).trans (List.map_id bs)
  rw [Function.comp_apply, toNat_ofNat_octet, UInt8.ofNat_toNat, id_eq]

/-- **A path that is passed on as octets is the same path at the other end.** -/
theorem pathOf_encoded (s : String) : pathOf (encoded s) = ⟨s⟩ := by
  rw [pathOf, encoded, octets_ofOctets, Bytes.toText_ofText]

theorem encoded_inj (h : encoded s = encoded t) : s = t := by
  have hpath := congrArg pathOf h
  rw [pathOf_encoded, pathOf_encoded] at hpath
  exact congrArg Path.text hpath

theorem encoded_append (s t : String) : encoded (s ++ t) = encoded s ++ encoded t := by
  simp [encoded, ofOctets, Bytes.ofText, Utf8.encode]

theorem encoded_eq_empty_iff : encoded s = "" ↔ s = "" :=
  ⟨fun h => encoded_inj (h.trans (by decide)), fun h => by rw [h]; decide⟩

/-- No other character has the octet of the separator. -/
theorem slash_mem_encoded : '/' ∈ (encoded s).toList ↔ '/' ∈ s.toList := by
  have hmem : '/' ∈ (encoded s).toList ↔
      ∃ b, (∃ ch ∈ s.toList, b ∈ String.utf8EncodeChar ch) ∧ Char.ofNat b.toNat = '/' := by
    simp [encoded, ofOctets, Bytes.ofText, Utf8.encode]
  rw [hmem]
  constructor
  · rintro ⟨b, ⟨ch, hch, hb⟩, hslash⟩
    have hvalue : b.toNat = '/'.toNat := by rw [← hslash, toNat_ofNat_octet]
    rcases Utf8.toNat_of_mem_encodeChar hb with hsame | hhigh
    · have hchar : ch = '/' := by
        rw [← Char.ofNat_toNat ch, ← hsame, hvalue, Char.ofNat_toNat]
      rwa [← hchar]
    · rw [hvalue] at hhigh
      exact absurd hhigh (by decide)
  · intro h
    exact ⟨0x2F, ⟨'/', h, by decide⟩, by decide⟩

/-! ## Starting a file -/

variable {lenient : Bool} {depth : Nat} {path title : String} {args : List String} {p : Program}
  {content : Bytes} {e : OsError}

theorem find_of_startable (h : startable files cwd path = .ok content) :
    files.find cwd (pathOf path) = .ok (.file content true) := by
  unfold startable at h
  split at h
  · cases h
    assumption
  all_goals cases h

theorem regular_of_load (h : load files cwd lenient depth path args = .ok p) :
    files.Regular cwd (pathOf path) := by
  cases depth with
  | zero => cases h
  | succ depth =>
    rw [load] at h
    cases hstart : startable files cwd path with
    | error e =>
      rw [hstart] at h
      cases h
    | ok content => exact ⟨content, true, find_of_startable hstart⟩

/-- A file that may be started and names its interpreter. -/
def IsScript (files : FileStore) (cwd : Location) (p : Path) : Prop :=
  ∃ content interpreter, files.find cwd p = .ok (.file content true) ∧
    interpreter? content = some interpreter

theorem isScript_of_load (hregular : files.Regular cwd (pathOf path))
    (h : load files cwd lenient (depth + 1) path args = .error e)
    (he : e = .notFound ∨ e = .notDirectory) : IsScript files cwd (pathOf path) := by
  obtain ⟨content, executable, hfind⟩ := hregular
  rw [load] at h
  cases executable with
  | false =>
    have hstart : startable files cwd path = .error .permissionDenied := by
      rw [startable, hfind]
    rw [hstart] at h
    cases h
    simp at he
  | true =>
    have hstart : startable files cwd path = .ok content := by
      rw [startable, hfind]
    simp only [hstart, bind, Except.bind] at h
    split at h
    · cases h
    · rename_i interpreter hscript
      exact ⟨content, _, hfind, hscript⟩
    · split at h
      · cases h
      · cases h
        simp at he

theorem regular_of_loadAs (h : loadAs title files cwd lenient path args = .ok p) :
    files.Regular cwd (pathOf path) := by
  unfold loadAs at h
  cases hload : load files cwd lenient interpreterDepth path args with
  | error e =>
    rw [hload] at h
    cases h
  | ok q => exact regular_of_load hload

theorem isScript_of_loadAs (hregular : files.Regular cwd (pathOf path))
    (h : loadAs title files cwd lenient path args = .error e)
    (he : e = .notFound ∨ e = .notDirectory) : IsScript files cwd (pathOf path) := by
  unfold loadAs at h
  cases hload : load files cwd lenient interpreterDepth path args with
  | error e' =>
    rw [hload] at h
    cases h
    exact isScript_of_load hregular hload he
  | ok q =>
    rw [hload] at h
    cases h

/-! ## Searching -/

variable {load : String → Except OsError Program} {name : String} {missed : OsError}
  {dirs : List String}

/-- Where a name in a directory is looked for. -/
def place (dir name : String) : String := if dir.isEmpty then name else dir ++ "/" ++ name

theorem exists_of_search (h : search load name missed dirs = .ok p) :
    ∃ dir ∈ dirs, load (place dir name) = .ok p := by
  induction dirs generalizing missed with
  | nil => cases h
  | cons dir dirs ih =>
    rw [search] at h
    split at h
    case h_4 => exact ⟨dir, List.mem_cons_self, h⟩
    all_goals
      obtain ⟨found, hmem, hload⟩ := ih h
      exact ⟨found, List.mem_cons_of_mem _ hmem, hload⟩

/-- A search remembers nothing better than a refusal. -/
theorem refused_of_search (h : search load name missed dirs = .error .notFound) :
    missed = .notFound ∧
      ∀ dir ∈ dirs, ∃ e, load (place dir name) = .error e ∧ (e = .notFound ∨ e = .notDirectory) := by
  -- once a program was refused, that is what is remembered, whatever the other directories say
  induction dirs generalizing missed with
  | nil =>
    cases h
    exact ⟨rfl, fun _ hdir => by cases hdir⟩
  | cons dir dirs ih =>
    rw [search] at h
    split at h
    case h_1 =>
      obtain ⟨heq, -⟩ := ih h
      cases heq
    case h_2 hload =>
      obtain ⟨hmissed, hall⟩ := ih h
      exact ⟨hmissed, List.forall_mem_cons.mpr ⟨⟨_, hload, .inl rfl⟩, hall⟩⟩
    case h_3 hload =>
      obtain ⟨hmissed, hall⟩ := ih h
      exact ⟨hmissed, List.forall_mem_cons.mpr ⟨⟨_, hload, .inr rfl⟩, hall⟩⟩
    case h_4 hother _ => exact absurd h hother

/-! ## Finding a program -/

/-- The paths at which a program is looked for: the path itself, or a bare name in the directories of
the search path. -/
def candidates (searchPath : Option String) (program : Path) : List Path :=
  if '/' ∈ program.text.toList then [program]
  else
    (searchDirectories (searchPath.getD standardSearchPath)).map fun dir =>
      ⟨place dir.text program.text⟩

theorem pathOf_place (dir name : String) :
    pathOf (place (encoded dir) (encoded name)) = ⟨place dir name⟩ := by
  have hplace : place (encoded dir) (encoded name) = encoded (place dir name) := by
    by_cases hdir : dir = ""
    · simp [place, hdir, encoded_eq_empty_iff.mpr rfl]
    · have henc : encoded dir ≠ "" := fun h => hdir (encoded_eq_empty_iff.mp h)
      have hslash : encoded "/" = "/" := by decide
      simp [place, hdir, henc, encoded_append, hslash]
  rw [hplace, pathOf_encoded]

variable {bindings : List (String × String)} {command : Command}

/-- How a command is found: at its path, or in the directories of the search path. -/
theorem find_cases (files : FileStore) (cwd : Location) (bindings : List (String × String))
    (command : Command) :
    ('/' ∈ command.program.text.toList ∧ find files cwd bindings command =
      loadAs (encoded command.program.text) files cwd false (encoded command.program.text)
        (command.args.map encoded)) ∨
    ('/' ∉ command.program.text.toList ∧
      (find files cwd bindings command = .error .nameTooLong ∨
        find files cwd bindings command =
          search (fun path => loadAs (encoded command.program.text) files cwd
              (command.bindings.any fun v => v.1 = "PATH") path (command.args.map encoded))
            (encoded command.program.text) .notFound
            ((searchDirectories ((bindings.lookup "PATH").getD standardSearchPath)).map
              fun dir => encoded dir.text))) := by
  have hdirs : (searchDirectories ((bindings.lookup "PATH").getD standardSearchPath)).map
      (fun dir => encoded dir.text) =
      (splitOnChar ':' ((bindings.lookup "PATH").getD standardSearchPath).toList).map
        fun cs => encoded (String.ofList cs) := by
    rw [searchDirectories, List.map_map]
    rfl
  have hcontains : (encoded command.program.text).contains '/' =
      decide ('/' ∈ command.program.text.toList) := by
    rw [String.contains_char_eq, decide_eq_decide, slash_mem_encoded]
  unfold find
  simp only [hcontains, decide_eq_true_eq, hdirs]
  by_cases hslash : '/' ∈ command.program.text.toList
  · exact .inl ⟨hslash, if_pos hslash⟩
  · refine .inr ⟨hslash, ?_⟩
    rw [if_neg hslash]
    split
    · exact .inl rfl
    · exact .inr rfl

/-- **A program that is found is a regular file at one of its candidates.** -/
theorem exists_regular_of_find (h : find files cwd bindings command = .ok p) :
    ∃ q ∈ candidates (bindings.lookup "PATH") command.program, files.Regular cwd q := by
  unfold candidates
  rcases find_cases files cwd bindings command with ⟨hslash, heq⟩ | ⟨hslash, heq | heq⟩
  · rw [heq] at h
    have hregular := regular_of_loadAs h
    rw [pathOf_encoded] at hregular
    rw [if_pos hslash]
    exact ⟨command.program, List.mem_singleton_self _, hregular⟩
  · rw [heq] at h
    cases h
  · rw [heq] at h
    obtain ⟨_, hmem, hload⟩ := exists_of_search h
    obtain ⟨dir, hdir, rfl⟩ := List.mem_map.mp hmem
    have hregular := regular_of_loadAs hload
    rw [pathOf_place] at hregular
    rw [if_neg hslash]
    exact ⟨_, List.mem_map_of_mem hdir, hregular⟩

/-- **If nothing is found, a regular file at a candidate is a script whose interpreter is missing.** -/
theorem isScript_of_find (h : find files cwd bindings command = .error .notFound) {q : Path}
    (hq : q ∈ candidates (bindings.lookup "PATH") command.program) (hregular : files.Regular cwd q) :
    IsScript files cwd q := by
  unfold candidates at hq
  rcases find_cases files cwd bindings command with ⟨hslash, heq⟩ | ⟨hslash, heq | heq⟩
  · rw [if_pos hslash, List.mem_singleton] at hq
    subst hq
    rw [heq] at h
    have hpath : pathOf (encoded command.program.text) = command.program := pathOf_encoded _
    rw [← hpath] at hregular ⊢
    exact isScript_of_loadAs hregular h (.inl rfl)
  · rw [heq] at h
    cases h
  · rw [if_neg hslash] at hq
    obtain ⟨dir, hdir, rfl⟩ := List.mem_map.mp hq
    rw [heq] at h
    obtain ⟨-, hall⟩ := refused_of_search h
    obtain ⟨e, hload, he⟩ := hall _ (List.mem_map_of_mem hdir)
    rw [← pathOf_place] at hregular ⊢
    exact isScript_of_loadAs hregular hload he

/-! ## Starting a command -/

variable {there : Location} {setting : Setting} {host after : Host}

theorem answers_mk {σ α : Type} {answer answer' : Except Cause α} (h : answer = answer') (st : σ) :
    Action.Answers (ExceptT.mk (pure answer)) st answer' st := by
  rw [h]
  rfl

theorem lookup_filter_ne {key other : String} (h : key ≠ other) (bindings : List (String × String)) :
    (bindings.filter fun v => v.1 ≠ other).lookup key = bindings.lookup key := by
  induction bindings with
  | nil => rfl
  | cons v bindings ih =>
    rw [List.lookup_cons]
    by_cases hv : v.1 = other
    · have hkey : (key == v.1) = false := beq_false_of_ne fun heq => h (heq.trans hv)
      rw [List.filter_cons_of_neg (by simpa using hv), ih, hkey]
    · rw [List.filter_cons_of_pos (by simpa using hv), List.lookup_cons, ih]

theorem lookup_inherited {own : List (String × String)} {key : String} (setting : Setting)
    (h : ∀ v ∈ own, v.1 ≠ key) : (inherited setting own).lookup key = setting.bindings.lookup key := by
  unfold inherited
  generalize setting.bindings = bindings
  induction own generalizing bindings with
  | nil => rfl
  | cons v own ih =>
    have hv : key ≠ v.1 := Ne.symm (h v List.mem_cons_self)
    rw [List.foldl_cons, ih fun w hw => h w (List.mem_cons_of_mem _ hw), List.lookup_cons,
      beq_false_of_ne hv, lookup_filter_ne hv]

theorem launch_answers_of_hasNul (hnul : hasNul command = true) :
    (launch setting command).Answers host (.error .nulInArgument) host := by
  unfold launch
  rw [hnul]
  have hget : (getThe Host : Action Host Host).Answers host (.ok host) host := rfl
  exact hget.bind rfl

theorem launch_answers (henter : enter host.files setting.directory command.directory = .ok there)
    (hnul : hasNul command = false) : (launch setting command).Answers host
      (((find host.files there (inherited setting command.bindings) command).mapError Cause.os).map
        fun program => program.process (initial host.files there (inherited setting command.bindings)))
      host := by
  have hget : (getThe Host : Action Host Host).Answers host (.ok host) host := rfl
  unfold launch
  rw [hnul]
  refine hget.bind (.bind (answers_mk henter host) ?_)
  unfold Action.Answers
  dsimp only
  cases find host.files there (inherited setting command.bindings) command <;> rfl

theorem launch_refused (host : Host) (setting : Setting) (command : Command)
    (henter : enter host.files setting.directory command.directory = .ok there)
    (own : ∀ v ∈ command.bindings, v.1 ≠ "PATH")
    (hmissing : ¬ ∃ q ∈ candidates (setting.bindings.lookup "PATH") command.program,
      host.files.Regular there q) :
    ∃ e, (launch setting command).Answers host (.error e) host := by
  cases hnul : hasNul command with
  | true => exact ⟨_, launch_answers_of_hasNul hnul⟩
  | false =>
    have hanswer := launch_answers henter hnul
    cases hfind : find host.files there (inherited setting command.bindings) command with
    | error e =>
      rw [hfind] at hanswer
      exact ⟨_, hanswer⟩
    | ok program =>
      have hfound := exists_regular_of_find hfind
      rw [lookup_inherited setting own] at hfound
      exact absurd hfound hmissing

theorem isScript_of_launch (host : Host) (setting : Setting) (command : Command)
    (henter : enter host.files setting.directory command.directory = .ok there)
    (own : ∀ v ∈ command.bindings, v.1 ≠ "PATH")
    (h : (launch setting command).Answers host (.error (.os .notFound)) after) {q : Path}
    (hq : q ∈ candidates (setting.bindings.lookup "PATH") command.program)
    (hregular : host.files.Regular there q) : IsScript host.files there q := by
  unfold Action.Answers at h
  cases hnul : hasNul command with
  | true =>
    rw [launch_answers_of_hasNul hnul] at h
    cases h
  | false =>
    rw [launch_answers henter hnul] at h
    rw [← lookup_inherited setting own] at hq
    cases hfind : find host.files there (inherited setting command.bindings) command with
    | error e =>
      rw [hfind] at h
      cases h
      exact isScript_of_find hfind hq hregular
    | ok program =>
      rw [hfind] at h
      cases h

end Conformance.Host
