import Conformance.Host
import Conformance.Proofs.Path.Name

/-!
# Joined paths

What a path asks for when it is read from a directory that is a path itself.

* `Path.names` : the segments of a path that are not empty;
* `Path.names_join`, `Path.steps_join` : the segments and the steps of a joined path;
* `Path.join_name_inj` : different names in one directory have different paths;
* `Location.Proper`, `Location.names_toPath` : the path of a location asks for its names.
-/

namespace Conformance

/-! ## Segments -/

theorem splitOnChar_ne_nil (sep : Char) (cs : List Char) : splitOnChar sep cs ≠ [] := by
  cases cs with
  | nil => exact List.cons_ne_nil _ _
  | cons c cs =>
    rw [splitOnChar]
    split
    · exact List.cons_ne_nil _ _
    · split <;> exact List.cons_ne_nil _ _

theorem splitOnChar_append_sep (sep : Char) (xs ys : List Char) :
    splitOnChar sep (xs ++ sep :: ys) = splitOnChar sep xs ++ splitOnChar sep ys := by
  induction xs with
  | nil =>
    rw [List.nil_append, splitOnChar.eq_2, if_pos rfl]
    rfl
  | cons c xs ih =>
    rw [List.cons_append, splitOnChar, splitOnChar]
    by_cases hc : c = sep
    · rw [if_pos hc, if_pos hc, ih, List.cons_append]
    · rw [if_neg hc, if_neg hc, ih]
      cases hparts : splitOnChar sep xs with
      | nil => exact absurd hparts (splitOnChar_ne_nil sep xs)
      | cons part parts => rfl

namespace Path

/-- The segments that are not empty. -/
def names (p : Path) : List String := p.segments.filter (· ≠ "")

theorem segments_append_slash (xs ys : List Char) :
    (Path.mk (String.ofList (xs ++ '/' :: ys))).segments =
      (Path.mk (String.ofList xs)).segments ++ (Path.mk (String.ofList ys)).segments := by
  simp only [segments, String.toList_ofList, splitOnChar_append_sep, List.map_append]

/-- A joined path, cut at the separator between its parts. -/
theorem exists_join_eq {base p : Path} (hbase : base.text ≠ "") (hp : p.isAbsolute = false) :
    ∃ xs, base.join p = ⟨String.ofList (xs ++ '/' :: p.text.toList)⟩ ∧
      (Path.mk (String.ofList xs)).names = base.names ∧
      (base.isAbsolute = true → xs = [] ∨ xs.head? = some '/') := by
  have hempty : base.text.isEmpty = false := by simpa using hbase
  unfold join
  rw [hp, hempty]
  by_cases hlast : base.text.toList.getLast? = some '/'
  · obtain ⟨xs, hxs⟩ := List.getLast?_eq_some_iff.mp hlast
    have htext : base.text = String.ofList (xs ++ ['/']) := by rw [← hxs, String.ofList_toList]
    refine ⟨xs, ?_, ?_, ?_⟩
    · simp [htext, ← String.toList_inj]
    · obtain ⟨text⟩ := base
      obtain rfl : text = String.ofList (xs ++ ['/']) := htext
      rw [names, names, segments_append_slash]
      simp [segments, splitOnChar]
    · intro habs
      cases xs with
      | nil => exact .inl rfl
      | cons c xs =>
        refine .inr ?_
        simpa [isAbsolute, hxs] using habs
  · refine ⟨base.text.toList, ?_, ?_, ?_⟩
    · simp [hlast, ← String.toList_inj]
    · rw [String.ofList_toList]
    · intro habs
      exact .inr (by simpa [isAbsolute] using habs)

/-- **A joined path has the names of both its parts.** -/
theorem names_join {base p : Path} (hbase : base.text ≠ "") (hp : p.isAbsolute = false) :
    (base.join p).names = base.names ++ p.names := by
  obtain ⟨xs, hjoin, hnames, -⟩ := exists_join_eq hbase hp
  rw [hjoin, ← hnames, names, names, names, segments_append_slash, List.filter_append,
    String.ofList_toList]

/-- The text of a path joined to one that does not end in a separator. -/
theorem text_join {base p : Path} (hbase : base.text ≠ "") (hlast : base.text.toList.getLast? ≠ some '/')
    (hp : p.isAbsolute = false) : (base.join p).text = base.text ++ "/" ++ p.text := by
  have hempty : base.text.isEmpty = false := by simpa using hbase
  unfold join
  rw [hp, hempty]
  simp [hlast]

theorem isAbsolute_join {base p : Path} (hbase : base.isAbsolute = true)
    (hp : p.isAbsolute = false) : (base.join p).isAbsolute = true := by
  have htext : base.text ≠ "" := by
    intro h
    simp [isAbsolute, h] at hbase
  obtain ⟨xs, hjoin, -, habs⟩ := exists_join_eq htext hp
  rw [hjoin]
  rcases habs hbase with rfl | hhead
  · simp [isAbsolute]
  · cases xs with
    | nil => cases hhead
    | cons c xs => simpa [isAbsolute] using hhead

end Path

theorem FileStore.steps_eq (p : Path) :
    steps p = p.names ++ if p.segments.getLast? = some "" then ["."] else [] := rfl

/-- A joined path asks for the names of the directory, and from there for what its other part asks. -/
theorem FileStore.steps_join {base p : Path} (hbase : base.text ≠ "") (hp : p.isAbsolute = false) :
    steps (base.join p) = base.names ++ steps p := by
  have hnames := Path.names_join hbase hp
  obtain ⟨xs, hjoin, -, -⟩ := Path.exists_join_eq hbase hp
  have hlast : (base.join p).segments.getLast? = p.segments.getLast? := by
    have hne : p.segments ≠ [] := by
      simpa [Path.segments] using splitOnChar_ne_nil '/' p.text.toList
    rw [hjoin, Path.segments_append_slash, String.ofList_toList, List.getLast?_append,
      List.getLast?_eq_some_getLast hne, Option.some_or]
  rw [steps_eq, steps_eq, hnames, hlast, List.append_assoc]

/-! ## Single names -/

/-- A name that can stand in a directory. -/
structure IsName (name : String) : Prop where
  ne_empty : name ≠ ""
  no_separator : '/' ∉ name.toList
  /-- It is not the step that stays. -/
  ne_current : name ≠ "."
  /-- It is not the step to the parent. -/
  ne_parent : name ≠ ".."

instance (name : String) : Decidable (IsName name) :=
  decidable_of_iff (name ≠ "" ∧ '/' ∉ name.toList ∧ name ≠ "." ∧ name ≠ "..")
    ⟨fun h => ⟨h.1, h.2.1, h.2.2.1, h.2.2.2⟩, fun h => ⟨h.1, h.2, h.3, h.4⟩⟩

namespace Path

theorem isName_of_fileName? {p : Path} {name : String} (h : p.fileName? = some name) :
    IsName name := by
  obtain ⟨hslash, hempty, hcurrent, hparent⟩ := fileName?_eq_some h
  exact ⟨hempty, hslash, hcurrent, hparent⟩

variable {base : Path} {name : String}

theorem isAbsolute_of_isName (h : IsName name) : (Path.mk name).isAbsolute = false := by
  unfold isAbsolute
  cases hname : name.toList with
  | nil => rfl
  | cons c cs =>
    have hslash := h.no_separator
    rw [hname, List.mem_cons, not_or] at hslash
    simpa using Ne.symm hslash.1

theorem names_of_isName (h : IsName name) : (Path.mk name).names = [name] := by
  rw [names, segments_of_not_mem h.no_separator]
  simp [h.ne_empty]

theorem names_join_name (hbase : base.text ≠ "") (h : IsName name) :
    (base.join ⟨name⟩).names = base.names ++ [name] := by
  rw [names_join hbase (isAbsolute_of_isName h), names_of_isName h]

theorem steps_join_name (hbase : base.text ≠ "") (h : IsName name) :
    FileStore.steps (base.join ⟨name⟩) = base.names ++ [name] := by
  rw [FileStore.steps_join hbase (isAbsolute_of_isName h), FileStore.steps_eq, names_of_isName h,
    segments_of_not_mem h.no_separator]
  simp [h.ne_empty]

/-- A path that ends with a name does not end in a separator. -/
theorem getLast?_join_name (hbase : base.text ≠ "") (h : IsName name) :
    (base.join ⟨name⟩).text.toList.getLast? ≠ some '/' := by
  obtain ⟨xs, hjoin, -, -⟩ := exists_join_eq hbase (isAbsolute_of_isName h)
  rw [hjoin, String.toList_ofList, List.getLast?_append, List.getLast?_cons]
  intro hlast
  cases hlist : name.toList.getLast? with
  | none => exact h.ne_empty (by simpa using hlist)
  | some c =>
    obtain rfl : c = '/' := by simpa [hlist] using hlast
    exact h.no_separator (List.mem_of_getLast? hlist)

/-- **Different names in one directory have different paths.** -/
theorem join_name_inj {other : String} (hbase : base.text ≠ "") (h : IsName name)
    (hother : IsName other) (heq : base.join ⟨name⟩ = base.join ⟨other⟩) : name = other := by
  have hnames := congrArg names heq
  rw [names_join_name hbase h, names_join_name hbase hother] at hnames
  simpa using hnames

/-- How long a joined path is, apart from its last name. -/
theorem utf8ByteSize_join_name (h : IsName name) :
    (base.join ⟨name⟩).text.utf8ByteSize =
      (base.join ⟨"x"⟩).text.utf8ByteSize + name.utf8ByteSize - 1 := by
  have hx : IsName "x" := ⟨by decide, by decide, by decide, by decide⟩
  unfold join
  rw [isAbsolute_of_isName h, isAbsolute_of_isName hx]
  have hone : "x".utf8ByteSize = 1 := by decide
  have hslash : "/".utf8ByteSize = 1 := by decide
  by_cases hempty : base.text.isEmpty = true
  · simp [hempty, hone]
  · by_cases hlast : base.text.toList.getLast? = some '/'
    · simp [hempty, hlast, hone, String.utf8ByteSize_append]
    · simp [hempty, hlast, hone, hslash, String.utf8ByteSize_append]

end Path

/-! ## Locations -/

/-- A location all of whose names can stand in a directory. -/
def Location.Proper (loc : Location) : Prop := ∀ name ∈ loc, IsName name

instance (loc : Location) : Decidable (Location.Proper loc) :=
  inferInstanceAs (Decidable (∀ name ∈ loc, IsName name))

theorem splitOnChar_intercalate {sep : Char} {parts : List (List Char)} (hne : parts ≠ [])
    (h : ∀ part ∈ parts, sep ∉ part) : splitOnChar sep ([sep].intercalate parts) = parts := by
  induction parts with
  | nil => exact absurd rfl hne
  | cons part parts ih =>
    cases parts with
    | nil =>
      rw [List.intercalate_singleton]
      exact splitOnChar_of_not_mem (h part List.mem_cons_self)
    | cons next parts =>
      rw [List.intercalate_cons_cons, List.append_assoc, List.singleton_append,
        splitOnChar_append_sep, splitOnChar_of_not_mem (h part List.mem_cons_self),
        ih (List.cons_ne_nil _ _) fun q hq => h q (List.mem_cons_of_mem _ hq), List.singleton_append]

/-- **The path of a location asks for its names.** -/
theorem Location.names_toPath {loc : Location} (h : loc.Proper) : loc.toPath.names = loc := by
  have htext : loc.toPath =
      ⟨String.ofList ([] ++ '/' :: ['/'].intercalate (loc.map String.toList))⟩ := by
    simp [Location.toPath, ← String.toList_inj, String.toList_intercalate]
  have hslash : ∀ part ∈ loc.map String.toList, '/' ∉ part := by
    intro part hpart
    obtain ⟨name, hname, rfl⟩ := List.mem_map.mp hpart
    exact (h name hname).no_separator
  rw [htext, Path.names, Path.segments_append_slash, List.filter_append]
  cases loc with
  | nil => rfl
  | cons name loc =>
    have hsplit : splitOnChar '/' (['/'].intercalate ((name :: loc).map String.toList)) =
        (name :: loc).map String.toList := splitOnChar_intercalate (List.cons_ne_nil _ _) hslash
    have hkeep : (name :: loc).filter (fun n => decide (n ≠ "")) = name :: loc :=
      List.filter_eq_self.mpr fun n hn => decide_eq_true (h n hn).ne_empty
    have hsegs : (Path.mk (String.ofList (['/'].intercalate
        ((name :: loc).map String.toList)))).segments = name :: loc := by
      rw [Path.segments, String.toList_ofList, hsplit, List.map_map]
      simp
    rw [hsegs, hkeep]
    rfl

theorem Location.isAbsolute_toPath (loc : Location) : loc.toPath.isAbsolute = true := by
  simp [Location.toPath, Path.isAbsolute]

end Conformance
