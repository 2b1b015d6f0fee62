import Conformance.Proofs.Files.Reached

/-!
# The tree below a directory

Looking for a path from a directory does not depend on where the directory is, as long as no step on the
way leads out of it.

* `FileTree` : what stands below a directory; `FileStore.tree` : the tree of a location;
* `FileTree.walk`, `FileStore.walk_of_tree` : a walk that is given up where it leads out of a tree, and
  what it tells of a walk in a store;
* `FileTree.Stays` : a path never leads out;
* `FileTree.lookup`, `FileStore.Reached.find_of_stays` : what is found at such a path.
-/

namespace Conformance

open FileStore (nameLimit pathLimit steps)

/-- What stands below a directory, by the names that lead there; with no names, the directory. -/
abbrev FileTree := Location → Option Entry

namespace FileTree

variable {t : FileTree} {budget : Nat} {here : Location} {todo : List String} {p : Path}

/-- Whether a directory stands at a location. -/
def isDirectoryAt (t : FileTree) (loc : Location) : Bool :=
  match t loc with
  | some (.directory _) => true
  | _ => false

/-- Takes steps in a tree. It is given up where they lead out of the tree, be it by `..` or by a link to
an absolute path. -/
def walk (t : FileTree) (budget : Nat) (here : Location) (todo : List String) :
    Option (Except OsError Location) :=
  match todo with
  | [] => some (.ok here)
  | step :: rest =>
    if !t.isDirectoryAt here then
      some (.error (if (t here).isSome then .notDirectory else .notFound))
    else if step = "." then t.walk budget here rest
    else if step = ".." then
      if here = [] then none else t.walk budget here.dropLast rest
    else if step.utf8ByteSize > nameLimit then some (.error .nameTooLong)
    else
      match t (here ++ [step]) with
      | none => some (.error .notFound)
      | some (.link target) =>
        match budget with
        | 0 => some (.error .tooManyLinks)
        | budget + 1 =>
          if target.isAbsolute then none else t.walk budget here (steps target ++ rest)
      | some _ => t.walk budget (here ++ [step]) rest
  termination_by (budget, todo.length)

/-- The path never leads out of the tree, however many links may be followed. -/
structure Stays (t : FileTree) (p : Path) : Prop where
  /-- The path is relative. -/
  relative : p.isAbsolute = false
  /-- There is a directory that it is read from. -/
  there : t.isDirectoryAt [] = true
  /-- No step leads out. -/
  inside : ∀ budget, t.walk budget [] (steps p) ≠ none

/-- What is found at a path that stays in a tree, if so many links may be followed and the path of the
tree has the given size. -/
def lookup (t : FileTree) (budget size : Nat) (p : Path) : Except Cause Entry :=
  if p.text.toList.contains '\x00' then .error .nulInPath
  else if size + 1 + p.text.utf8ByteSize > pathLimit then .error (.os .nameTooLong)
  else
    match t.walk budget [] (steps p) with
    | some (.ok loc) => (t loc).elim (.error (.os .notFound)) .ok
    | some (.error e) => .error (.os e)
    | none => .error (.os .notFound)

/-- A name in a directory does not lead out of it, unless it is that of a link. -/
theorem stays_name {name : String} (hthere : t.isDirectoryAt [] = true) (hname : IsName name)
    (hnolink : ∀ target, t [name] ≠ some (.link target)) : t.Stays ⟨name⟩ := by
  refine ⟨Path.isAbsolute_of_isName hname, hthere, fun budget => ?_⟩
  rw [FileStore.steps_name hname, walk]
  simp only [hthere, hname.ne_current, hname.ne_parent, List.nil_append, Bool.not_true,
    Bool.false_eq_true, if_false]
  split
  · exact nofun
  · cases hentry : t [name] with
    | none => exact nofun
    | some e =>
      cases e with
      | link target => exact absurd hentry (hnolink target)
      | _ => simp [walk]

end FileTree

namespace FileStore

variable {store : FileStore} {loc dir cwd : Location} {budget : Nat} {p base : Path} {name : String}

/-- The tree of a location. -/
def tree (store : FileStore) (loc : Location) : FileTree := fun rel => store.entry? (loc ++ rel)

@[simp]
theorem isDirectoryAt_tree (store : FileStore) (loc rel : Location) :
    (store.tree loc).isDirectoryAt rel = store.isDirectoryAt (loc ++ rel) := rfl

theorem entry?_name_of_tree {here : Location} {found : Option Entry}
    (h : store.tree loc (here ++ [name]) = found) : store.entry? (loc ++ here ++ [name]) = found := by
  rw [List.append_assoc]
  exact h

/-- **Where a walk stays in a tree, the walk in the store goes the same way.** -/
theorem walk_of_tree {here : Location} {todo : List String} {answer : Except OsError Location}
    (h : (store.tree loc).walk budget here todo = some answer) :
    store.walk true budget (loc ++ here) todo = answer.map (loc ++ ·) := by
  -- by the steps of the walk in the tree; the walk in the store takes the same ones, as it looks at the
  -- same entries
  fun_induction FileTree.walk (store.tree loc) budget here todo with
  | case1 budget here =>
    obtain rfl := Option.some.inj h
    rw [walk]
    rfl
  | case2 budget here step rest houtside =>
    obtain rfl := Option.some.inj h
    have hdir : store.isDirectoryAt (loc ++ here) = false := by simpa using houtside
    rw [walk]
    simp only [hdir, Bool.not_false, if_true]
    rfl
  | case3 budget here rest hinside ih =>
    have hdir : store.isDirectoryAt (loc ++ here) = true := by simpa using hinside
    rw [walk]
    simp only [hdir, Bool.not_true, Bool.false_eq_true, if_false, if_true]
    exact ih h
  | case4 => cases h
  | case5 budget here rest hinside hhere hcurrent ih =>
    -- above `here` the two agree only because the step stays below `loc`
    have hdir : store.isDirectoryAt (loc ++ here) = true := by simpa using hinside
    rw [walk]
    simp only [hdir, hcurrent, Bool.not_true, Bool.false_eq_true, if_false, if_true]
    rw [List.dropLast_append_of_ne_nil hhere]
    exact ih h
  | case6 budget here step rest hinside hcurrent hparent hlong =>
    obtain rfl := Option.some.inj h
    have hdir : store.isDirectoryAt (loc ++ here) = true := by simpa using hinside
    rw [walk]
    simp only [hdir, hcurrent, hparent, hlong, Bool.not_true, Bool.false_eq_true, if_false, if_true]
    rfl
  | case7 budget here step rest hinside hcurrent hparent hshort hnone =>
    obtain rfl := Option.some.inj h
    have hentry := entry?_name_of_tree hnone
    have hdir : store.isDirectoryAt (loc ++ here) = true := by simpa using hinside
    rw [walk]
    simp only [hdir, hcurrent, hparent, hshort, hentry, Bool.not_true, Bool.false_eq_true, if_false]
    rfl
  | case8 here step rest hinside hcurrent hparent hshort target hlink =>
    obtain rfl := Option.some.inj h
    have hentry := entry?_name_of_tree hlink
    have hdir : store.isDirectoryAt (loc ++ here) = true := by simpa using hinside
    rw [walk]
    simp only [hdir, hcurrent, hparent, hshort, hentry, Bool.not_true, Bool.and_false,
      Bool.false_eq_true, if_false]
    rfl
  | case9 => cases h
  | case10 here step rest hinside hcurrent hparent hshort target hlink budget hrelative ih =>
    have hentry := entry?_name_of_tree hlink
    have hdir : store.isDirectoryAt (loc ++ here) = true := by simpa using hinside
    rw [walk]
    simp only [hdir, hcurrent, hparent, hshort, hentry, hrelative, Bool.not_true, Bool.and_false,
      Bool.false_eq_true, if_false]
    exact ih h
  | case11 budget here step rest hinside hcurrent hparent hshort e hnolink hfound ih =>
    have hentry := entry?_name_of_tree hfound
    have hdir : store.isDirectoryAt (loc ++ here) = true := by simpa using hinside
    rw [walk]
    simp only [hdir, hcurrent, hparent, hshort, hentry, Bool.not_true, Bool.false_eq_true, if_false]
    rw [← List.append_assoc] at ih
    cases e with
    | link target => exact absurd rfl (hnolink target)
    | file => exact ih h
    | directory => exact ih h
    | device => exact ih h

/-! ## Looking from a directory -/

/-- **What is found at a path that stays in a directory is told by the tree of the directory.** -/
theorem Reached.find_of_stays (h : Reached store base budget dir) (hacc : base.Accepted)
    (hlast : base.text.toList.getLast? ≠ some '/') (hstays : (store.tree dir).Stays p) :
    store.find cwd (base.join p) = (store.tree dir).lookup budget base.text.utf8ByteSize p := by
  have htext := Path.text_join h.ne_empty hlast hstays.relative
  have hnul : (base.join p).text.toList.contains '\x00' = p.text.toList.contains '\x00' := by
    rw [htext, String.toList_append, String.toList_append]
    have hbase := hacc.no_nul
    simp only [List.contains_eq_mem, decide_eq_false_iff_not] at hbase
    simp [hbase]
  have hempty : (base.join p).text.isEmpty = false := by
    rw [htext]
    simp
  have hsize : (base.join p).text.utf8ByteSize = base.text.utf8ByteSize + 1 + p.text.utf8ByteSize := by
    rw [htext, String.utf8ByteSize_append, String.utf8ByteSize_append]
    rfl
  unfold FileTree.lookup
  -- both refuse the same paths, since the path of the directory is accepted
  by_cases hbad : p.text.toList.contains '\x00' = true
  · rw [if_pos hbad, find, resolve, hnul, if_pos hbad]
    rfl
  by_cases hlong : base.text.utf8ByteSize + 1 + p.text.utf8ByteSize > pathLimit
  · rw [if_neg hbad, if_pos hlong, find, resolve, hnul, if_neg hbad, hempty, hsize, if_pos hlong]
    rfl
  have haccepted : (base.join p).Accepted := by
    refine ⟨?_, hempty, ?_⟩
    · rw [hnul]
      simpa using hbad
    · rw [hsize]
      exact Nat.le_of_not_lt hlong
  rw [if_neg hbad, if_neg hlong, h.find_join hstays.relative haccepted]
  cases hwalk : (store.tree dir).walk budget [] (steps p) with
  | none => exact absurd hwalk (hstays.inside budget)
  | some answer =>
    have hstore := walk_of_tree hwalk
    rw [List.append_nil] at hstore
    rw [hstore]
    cases answer with
    | error e => rfl
    | ok rel =>
      simp only [Except.map, Except.bind, tree]
      cases store.entry? (dir ++ rel) <;> rfl

end FileStore

end Conformance
