import Conformance.Proofs.Path.Single
import Conformance.Scenario.Discovery
import Mathlib.Data.List.Induction
import Mathlib.Data.List.Lex
import Mathlib.Data.Prod.Lex
import Mathlib.Data.String.Basic

/-!
# The order of paths

* `Path.key` : paths are compared by their keys; `Path.Before`, `Path.before_iff` : the strict order;
* `Path.place` : the path of names below a path; `Path.components_place`, `Path.place_concat`,
  `Path.place_inj`;
* `Path.place_before_append`, `Path.place_before_of_lt` : a directory comes before what it holds, and
  names decide between what directories hold;
* `Path.eq_of_before`, `Path.head?_eq_of_before` : a list of paths in order is told by its members, and its
  first path by those that come first.
-/

namespace Conformance

/-! ## Keys -/

/-- What components are compared by. -/
def Component.key (c : Component) : Nat ×ₗ String :=
  toLex (c.rank, match c with | .normal name => name | _ => "")

theorem Component.key_injective : Function.Injective Component.key := by
  intro a b h
  have hkey := toLex.injective h
  cases a <;> cases b <;> simp [rank] at hkey ⊢
  exact hkey

theorem Component.lt_iff (a b : Component) : a.lt b = true ↔ a.key < b.key := by
  unfold key
  rw [Prod.Lex.toLex_lt_toLex]
  cases a <;> cases b <;> simp [lt, rank]

namespace Path

/-- What paths are compared by. -/
def key (p : Path) : List (Nat ×ₗ String) := p.components.map Component.key

theorem componentsLe_iff (as bs : List Component) :
    componentsLe as bs = true ↔ ¬ bs.map Component.key < as.map Component.key := by
  induction as generalizing bs with
  | nil => simp [componentsLe]
  | cons a as ih =>
    cases bs with
    | nil => simp [componentsLe]
    | cons b bs =>
      rw [componentsLe, List.map_cons, List.map_cons, List.cons_lt_cons_iff]
      by_cases hab : a = b
      · subst hab
        rw [if_pos rfl, ih]
        simp
      · have hkey : a.key ≠ b.key := fun h => hab (Component.key_injective h)
        rw [if_neg hab, Component.lt_iff, not_or, not_lt]
        constructor
        · intro hlt
          exact ⟨hlt.le, fun h => hkey h.1.symm⟩
        · intro hle
          exact lt_of_le_of_ne hle.1 hkey

theorem le_iff (p q : Path) : p.le q = true ↔ ¬ q.key < p.key := componentsLe_iff _ _

theorem le_trans (p q r : Path) (h : p.le q = true) (h' : q.le r = true) : p.le r = true := by
  rw [le_iff, not_lt] at h h' ⊢
  exact h.trans h'

theorem le_total (p q : Path) : (p.le q || q.le p) = true := by
  rw [Bool.or_eq_true, le_iff, le_iff, not_lt, not_lt]
  exact LinearOrder.le_total p.key q.key

/-- A path comes strictly before another one. -/
def Before (p q : Path) : Prop := p.le q = true ∧ q.le p = false

instance (p q : Path) : Decidable (p.Before q) :=
  inferInstanceAs (Decidable (p.le q = true ∧ q.le p = false))

theorem before_iff {p q : Path} : p.Before q ↔ p.key < q.key := by
  unfold Before
  rw [le_iff, ← Bool.not_eq_true, le_iff, not_not]
  exact ⟨fun h => h.2, fun h => ⟨h.le.not_gt, h⟩⟩

theorem Before.trans {p q r : Path} (h : p.Before q) (h' : q.Before r) : p.Before r := by
  rw [before_iff] at *
  exact lt_trans h h'

theorem Before.ne {p q : Path} (h : p.Before q) : p ≠ q := by
  rintro rfl
  exact lt_irrefl _ (before_iff.mp h)

theorem before_of_le {p q : Path} (h : p.le q = true) (hne : p.key ≠ q.key) : p.Before q := by
  rw [le_iff, not_lt] at h
  exact before_iff.mpr (lt_of_le_of_ne h hne)

/-- Lists of paths in order are told by their members. -/
theorem eq_of_before {ps qs : List Path} (hps : ps.Pairwise Before) (hqs : qs.Pairwise Before)
    (hmem : ∀ p, p ∈ ps ↔ p ∈ qs) : ps = qs := by
  have hperm : ps.Perm qs :=
    (List.perm_ext_iff_of_nodup (hps.imp Before.ne) (hqs.imp Before.ne)).mpr hmem
  refine hperm.eq_of_pairwise (fun p q _ _ h h' => ?_) hps hqs
  exact absurd rfl (h.trans h').ne

/-- Lists of paths in order start with the same path if each path of one is in the other or comes behind one
that is. -/
theorem head?_eq_of_before {ps qs : List Path} (hps : ps.Pairwise Before) (hqs : qs.Pairwise Before)
    (hsub : ∀ p ∈ ps, p ∈ qs) (hfirst : ∀ q ∈ qs, ∃ p ∈ ps, p = q ∨ p.Before q) : ps.head? = qs.head? := by
  cases qs with
  | nil =>
    cases ps with
    | nil => rfl
    | cons p ps => exact absurd (hsub p List.mem_cons_self) List.not_mem_nil
  | cons q qs =>
    obtain ⟨p, hp, hle⟩ := hfirst q List.mem_cons_self
    have hq := List.pairwise_cons.mp hqs
    obtain rfl : p = q := by
      rcases hle with heq | hbefore
      · exact heq
      · rcases List.mem_cons.mp (hsub p hp) with heq | hmem
        · exact heq
        · exact absurd rfl (hbefore.trans (hq.1 p hmem)).ne
    cases ps with
    | nil => cases hp
    | cons first ps =>
      rcases List.mem_cons.mp hp with rfl | hmem
      · rfl
      · -- the first path stands before the least one, so it is the least one
        have hbefore := (List.pairwise_cons.mp hps).1 p hmem
        rcases List.mem_cons.mp (hsub first List.mem_cons_self) with heq | hmem'
        · exact congrArg some heq
        · exact absurd rfl (hbefore.trans (hq.1 first hmem')).ne

/-! ## Paths below a path -/

/-- The path of names below a path; with no names, the path. -/
def place (root : Path) (names : List String) : Path :=
  if names = [] then root else root.below names

variable {root : Path} {names more : List String} {name : String}

/-- A joined path, cut at the separator between its parts, which the first part can end in. -/
theorem exists_join_cut (hroot : root.text ≠ "") {p : Path} (hp : p.isAbsolute = false) :
    ∃ xs, root.join p = ⟨String.ofList (xs ++ '/' :: p.text.toList)⟩ ∧
      (root = ⟨String.ofList xs⟩ ∧ xs ≠ [] ∨ root = ⟨String.ofList (xs ++ ['/'])⟩) := by
  obtain ⟨text⟩ := root
  have hempty : text.isEmpty = false := by simpa using hroot
  unfold join
  rw [hp, hempty]
  by_cases hlast : text.toList.getLast? = some '/'
  · obtain ⟨xs, hxs⟩ := List.getLast?_eq_some_iff.mp hlast
    obtain rfl : text = String.ofList (xs ++ ['/']) := by rw [← hxs, String.ofList_toList]
    exact ⟨xs, by simp [← String.toList_inj], .inr rfl⟩
  · refine ⟨text.toList, ?_, .inl ⟨by rw [String.ofList_toList], by simpa using hroot⟩⟩
    simp [hlast, ← String.toList_inj]

/-- The first segment of a path that others are joined to stays the first; an empty one at its end gives
way. -/
theorem exists_segments_eq (hroot : root.text ≠ "") {p : Path} (hp : p.isAbsolute = false) :
    ∃ first rest, (root.join p).segments = first :: (rest ++ p.segments) ∧
      (root.segments = first :: rest ∨ root.segments = first :: (rest ++ [""])) ∧
      (root.join p).isAbsolute = root.isAbsolute := by
  obtain ⟨xs, hjoin, hroot'⟩ := exists_join_cut hroot hp
  obtain ⟨first, rest, hsegs⟩ : ∃ first rest, (Path.mk (String.ofList xs)).segments = first :: rest := by
    refine List.exists_cons_of_ne_nil ?_
    simpa [segments] using splitOnChar_ne_nil '/' xs
  refine ⟨first, rest, ?_, ?_, ?_⟩
  · rw [hjoin, segments_append_slash, hsegs, String.ofList_toList, List.cons_append]
  · rcases hroot' with ⟨rfl, -⟩ | rfl
    · exact .inl hsegs
    · rw [segments_append_slash, hsegs]
      exact .inr rfl
  · rw [hjoin]
    rcases hroot' with ⟨rfl, hxs⟩ | rfl
    · obtain ⟨c, cs, rfl⟩ := List.exists_cons_of_ne_nil hxs
      simp [isAbsolute]
    · cases xs <;> simp [isAbsolute]

/-- **A joined path has the components of both its parts**, but for a `.` at the start of the second. -/
theorem components_join (hroot : root.text ≠ "") {p : Path} (hp : p.isAbsolute = false) :
    (root.join p).components = root.components ++ p.segments.filterMap componentOf? := by
  obtain ⟨first, rest, hsegs, hroot', habs⟩ := exists_segments_eq hroot hp
  have hempty : [""].filterMap componentOf? = [] := by simp [componentOf?]
  unfold components
  rw [hsegs, habs]
  rcases hroot' with hroot' | hroot'
  · rw [hroot']
    dsimp only
    split
    · simp
    · split <;> simp
  · rw [hroot']
    dsimp only
    rw [List.filterMap_append, List.filterMap_append, hempty, List.append_nil]
    split
    · simp
    · split <;> simp

theorem filterMap_componentOf? (h : Location.Proper names) :
    names.filterMap componentOf? = names.map .normal := by
  induction names with
  | nil => rfl
  | cons name names ih =>
    have hname := h name List.mem_cons_self
    have hcomponent : componentOf? name = some (.normal name) := by
      simp [componentOf?, hname.ne_empty, hname.ne_current, hname.ne_parent]
    rw [List.filterMap_cons_some hcomponent, ih fun n hn => h n (List.mem_cons_of_mem _ hn), List.map_cons]

/-- Names put together are a relative path of these names. -/
theorem segments_intercalate (h : Location.Proper names) (hne : names ≠ []) :
    (Path.mk (String.intercalate "/" names)).segments = names := by
  have hslash : ∀ part ∈ names.map String.toList, '/' ∉ part := by
    intro part hpart
    obtain ⟨name, hname, rfl⟩ := List.mem_map.mp hpart
    exact (h name hname).no_separator
  have hparts : names.map String.toList ≠ [] := by simpa using hne
  have htext : (String.intercalate "/" names).toList = ['/'].intercalate (names.map String.toList) := by
    simp [String.toList_intercalate]
  rw [segments, htext, splitOnChar_intercalate hparts hslash, List.map_map]
  simp

theorem isAbsolute_intercalate (h : Location.Proper names) :
    (Path.mk (String.intercalate "/" names)).isAbsolute = false := by
  cases names with
  | nil => rfl
  | cons name names =>
    -- an absolute path has an empty first segment
    have hsegs := segments_intercalate h (List.cons_ne_nil _ _)
    refine Bool.eq_false_iff.mpr fun habs => (h name List.mem_cons_self).ne_empty ?_
    unfold isAbsolute at habs
    unfold segments at hsegs
    cases htext : (String.intercalate "/" (name :: names)).toList with
    | nil => simp [htext] at habs
    | cons c cs =>
      obtain rfl : c = '/' := by simpa [htext] using habs
      rw [htext, splitOnChar, if_pos rfl, List.map_cons, List.cons.injEq] at hsegs
      exact hsegs.1.symm

theorem components_place (hroot : root.text ≠ "") (h : Location.Proper names) :
    (root.place names).components = root.components ++ names.map .normal := by
  unfold place
  by_cases hne : names = []
  · simp [hne]
  · rw [if_neg hne, below, components_join hroot (isAbsolute_intercalate h), segments_intercalate h hne,
      filterMap_componentOf? h]

/-- What stands before a path that is joined to another one. -/
theorem exists_text_join (root : Path) :
    ∃ before, ∀ p : Path, p.isAbsolute = false → (root.join p).text = before ++ p.text := by
  by_cases hempty : root.text.isEmpty = true
  · exact ⟨"", fun p hp => by simp [join, hp, hempty]⟩
  · by_cases hlast : root.text.toList.getLast? = some '/'
    · exact ⟨root.text, fun p hp => by simp [join, hp, hempty, hlast]⟩
    · exact ⟨root.text ++ "/", fun p hp => by simp [join, hp, hempty, hlast]⟩

theorem place_ne_empty (hroot : root.text ≠ "") (h : Location.Proper names) :
    (root.place names).text ≠ "" := by
  unfold place
  split
  · exact hroot
  · obtain ⟨xs, hjoin, -⟩ := exists_join_cut hroot (isAbsolute_intercalate h)
    rw [below, hjoin]
    simp

/-- The path of an entry is that of its directory with a name joined to it. -/
theorem place_concat (hroot : root.text ≠ "") (h : Location.Proper (names ++ [name])) :
    (root.place names).join ⟨name⟩ = root.place (names ++ [name]) := by
  induction names using List.reverseRecOn generalizing name with
  | nil => rw [place, if_pos rfl, List.nil_append, place, if_neg (by simp), below,
      String.intercalate_singleton]
  | append_singleton front last ih =>
    have hnames : Location.Proper (front ++ [last]) := fun n hn => h n (List.mem_append_left _ hn)
    have hfront : Location.Proper front := fun n hn => hnames n (List.mem_append_left _ hn)
    have hlast : IsName last := hnames last (by simp)
    have hrel : (Path.mk name).isAbsolute = false := isAbsolute_of_isName (h name (by simp))
    -- the path of the directory ends in a name, so a separator is put behind it
    have htext : ((root.place (front ++ [last])).join ⟨name⟩).text =
        (root.place (front ++ [last])).text ++ "/" ++ name := by
      refine text_join (place_ne_empty hroot hnames) ?_ hrel
      rw [← ih hnames]
      exact getLast?_join_name (place_ne_empty hroot hfront) hlast
    obtain ⟨before, hbefore⟩ := exists_text_join root
    have hbelow : ∀ ns, Location.Proper ns → ns ≠ [] →
        (root.place ns).text = before ++ String.intercalate "/" ns := by
      intro ns hns hne
      rw [place, if_neg hne, below, hbefore _ (isAbsolute_intercalate hns)]
    have hnext : String.intercalate "/" (front ++ [last] ++ [name]) =
        String.intercalate "/" (front ++ [last]) ++ "/" ++ name := by
      have happend := String.intercalate_append_of_ne_nil (s := "/") (l := front ++ [last]) (m := [name])
        (by simp) (by simp)
      rwa [String.intercalate_singleton] at happend
    have hsame : ((root.place (front ++ [last])).join ⟨name⟩).text =
        (root.place (front ++ [last] ++ [name])).text := by
      rw [htext, hbelow _ h (by simp), hbelow _ hnames (by simp), hnext]
      simp only [String.append_assoc]
    exact congrArg Path.mk hsame

/-! ## The order below a path -/

theorem key_place (hroot : root.text ≠ "") (h : Location.Proper names) :
    (root.place names).key = root.key ++ names.map fun name => (Component.normal name).key := by
  rw [key, components_place hroot h, List.map_append, List.map_map]
  rfl

/-- Different names below a path have different keys. -/
theorem place_inj (hroot : root.text ≠ "") (h : Location.Proper names) (h' : Location.Proper more)
    (heq : (root.place names).key = (root.place more).key) : names = more := by
  rw [key_place hroot h, key_place hroot h', List.append_cancel_left_eq] at heq
  have hinj : Function.Injective fun name => (Component.normal name).key :=
    Component.key_injective.comp fun _ _ => Component.normal.inj
  exact List.map_injective_iff.mpr hinj heq

/-- A directory comes before what it holds. -/
theorem place_before_append (hroot : root.text ≠ "") (h : Location.Proper (names ++ more))
    (hmore : more ≠ []) : (root.place names).Before (root.place (names ++ more)) := by
  have hnames : Location.Proper names := fun n hn => h n (List.mem_append_left _ hn)
  obtain ⟨name, rest, rfl⟩ := List.exists_cons_of_ne_nil hmore
  rw [before_iff, key_place hroot h, key_place hroot hnames, List.map_append, ← List.append_assoc]
  calc (root.key ++ names.map fun name => (Component.normal name).key)
    _ = (root.key ++ names.map fun name => (Component.normal name).key) ++ [] := (List.append_nil _).symm
    _ < _ := List.append_left_lt (List.nil_lt_cons _ _)

/-- Of two names in a directory, the lesser one and all below it come before the other one and all below
that. -/
theorem place_before_of_lt {first second : String} {rest rest' : List String} (hroot : root.text ≠ "")
    (h : Location.Proper (names ++ first :: rest)) (h' : Location.Proper (names ++ second :: rest'))
    (hlt : first < second) :
    (root.place (names ++ first :: rest)).Before (root.place (names ++ second :: rest')) := by
  have hkey : (Component.normal first).key < (Component.normal second).key := by
    rw [← Component.lt_iff]
    exact decide_eq_true hlt
  rw [before_iff, key_place hroot h, key_place hroot h', List.map_append, List.map_append,
    ← List.append_assoc, ← List.append_assoc]
  exact List.append_left_lt (List.cons_lt_cons_iff.mpr (.inl hkey))

end Path

end Conformance
