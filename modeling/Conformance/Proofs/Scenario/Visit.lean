import Conformance.Proofs.Files.Sound
import Conformance.Proofs.Path.Order
import Mathlib.Algebra.Order.BigOperators.Group.List
import Mathlib.Data.List.Sort

/-!
# Visiting what stands below a path

A search for files visits a directory before what it holds, and what it holds in the order of names,
however the operating system lists it.

* `FileStore.ClosedAt` : a directory below a path that cannot be read;
* `FileStore.Visits` : what is visited, stop by stop;
* `FileStore.Visited` : the stops are entries below the path, in the order of paths, and none is missed but
  in a directory that cannot be read; `FileStore.Visits.visited` : so it is on every visit;
* `FileStore.exists_visits_of_entry` : a visit comes to an end.
-/

namespace Conformance

/-- Whether an entry is a directory whose names can be read at a path. -/
def isOpenEntry (p : Path) : Entry → Bool
  | .directory readable => !isClosedEntry p (.directory readable)
  | _ => false

namespace FileStore

variable {store : FileStore} {root : Path} {loc l : Location} {name : String}
  {names more others listing : List String} {starts : List (List String)} {stops : List (Path × Entry)} {e : Entry}

/-- From a path, names lead to a directory that cannot be read: it does not permit this, or the operating
system does not take its path. -/
def ClosedAt (store : FileStore) (root : Path) (loc : Location) (names : List String) : Prop :=
  ∃ readable, store.entry? (loc ++ names) = some (.directory readable) ∧
    (readable = false ∨ pathLimit < (root.place names).text.utf8ByteSize)

theorem closedAt_iff : store.ClosedAt root loc names ↔
    ∃ e, store.entry? (loc ++ names) = some e ∧ isClosedEntry (root.place names) e = true := by
  constructor
  · rintro ⟨readable, hfound, hclosed⟩
    exact ⟨_, hfound, by simpa [isClosedEntry] using hclosed⟩
  · rintro ⟨e, hfound, hclosed⟩
    cases e with
    | directory readable => exact ⟨readable, hfound, by simpa [isClosedEntry] using hclosed⟩
    | _ => cases hclosed

/-- The names listed for a directory, in order, with their paths and locations. -/
def within (p : Path) (l : Location) (listing : List String) : List (Path × Location) :=
  (listing.mergeSort fun a b => decide (a ≤ b)).map fun name => (p.join ⟨name⟩, l ++ [name])

/-- From places still to visit, the stops of a visit, which leaves links as they are. The operating system
may list a directory in any order. -/
inductive Visits (store : FileStore) : List (Path × Location) → List (Path × Entry) → Prop
  | done : Visits store [] []
  | pass {p l e todo stops} (found : store.entry? l = some e) (shut : isOpenEntry p e = false)
      (rest : Visits store todo stops) : Visits store ((p, l) :: todo) ((p, e) :: stops)
  | enter {p l e todo stops listing} (found : store.entry? l = some e) (opened : isOpenEntry p e = true)
      (listed : listing.Perm (store.namesBelow l)) (rest : Visits store (within p l listing ++ todo) stops) :
      Visits store ((p, l) :: todo) ((p, e) :: stops)

/-! ## The order of a visit -/

/-- Two lists of names come apart at two names in order. -/
def Apart (names others : List String) : Prop :=
  ∃ front first second rest rest', names = front ++ first :: rest ∧ others = front ++ second :: rest' ∧
    first < second

theorem Apart.append (h : Apart names others) (more more' : List String) :
    Apart (names ++ more) (others ++ more') := by
  obtain ⟨front, first, second, rest, rest', rfl, rfl, hlt⟩ := h
  exact ⟨front, first, second, rest ++ more, rest' ++ more', by simp, by simp, hlt⟩

theorem Apart.before (hroot : root.text ≠ "") (h : Apart names others)
    (hnames : Location.Proper names) (hothers : Location.Proper others) :
    (root.place names).Before (root.place others) := by
  obtain ⟨front, first, second, rest, rest', rfl, rfl, hlt⟩ := h
  exact Path.place_before_of_lt hroot hnames hothers hlt

/-- What a directory holds, in order. -/
theorem pairwise_lt_listing (sound : store.Sound) (h : listing.Perm (store.namesBelow l)) :
    (listing.mergeSort fun a b => decide (a ≤ b)).Pairwise (· < ·) := by
  have hsorted : (listing.mergeSort fun a b => decide (a ≤ b)).Pairwise (· ≤ ·) :=
    List.pairwise_mergeSort' (· ≤ ·) listing
  have hnodup : (listing.mergeSort fun a b => decide (a ≤ b)).Nodup :=
    ((List.mergeSort_perm _ _).trans h).nodup_iff.mpr (sound.nodup_namesBelow l)
  exact hsorted.imp₂ (fun a b hle hne => lt_of_le_of_ne hle hne) hnodup

/-! ## What a visit comes across -/

/-- What is visited from starts, given by the names that lead there from a root. -/
structure Visited (store : FileStore) (root : Path) (loc : Location) (starts : List (List String))
    (stops : List (Path × Entry)) : Prop where
  /-- Every stop is an entry at a start or below one. -/
  found : ∀ s ∈ stops, ∃ names ∈ starts, ∃ more, s.1 = root.place (names ++ more) ∧
    store.entry? (loc ++ (names ++ more)) = some s.2
  ordered : (stops.map Prod.fst).Pairwise Path.Before
  /-- An entry is missed only if it stands in a directory that cannot be read. -/
  complete : ∀ names ∈ starts, ∀ more e, store.entry? (loc ++ (names ++ more)) = some e →
    (∀ upper lower, more = upper ++ lower → lower ≠ [] → ¬ store.ClosedAt root loc (names ++ upper)) →
    (root.place (names ++ more), e) ∈ stops

theorem Sound.proper_names (sound : store.Sound) (h : store.entry? (loc ++ names) = some e) :
    Location.Proper names :=
  fun n hn => sound.proper_of_ne_none (by rw [h]; exact Option.some_ne_none _) n (List.mem_append_right _ hn)

theorem Sound.before_of_apart (sound : store.Sound) (hroot : root.text ≠ "") {e' : Entry} {start : List String}
    (hfound : store.entry? (loc ++ names) = some e) (hentry : store.entry? (loc ++ (start ++ more)) = some e')
    (h : Apart names start) : (root.place names).Before (root.place (start ++ more)) := by
  have hapart := h.append [] more
  rw [List.append_nil] at hapart
  exact hapart.before hroot (sound.proper_names hfound) (sound.proper_names hentry)

/-- What holds something and is not open cannot be read. -/
theorem Sound.closedAt_of_shut (sound : store.Sound) (hfound : store.entry? (loc ++ names) = some e)
    (hshut : isOpenEntry (root.place names) e = false) (hname : store.entry? (loc ++ names ++ [name]) ≠ none) :
    store.ClosedAt root loc names := by
  obtain ⟨readable, hentry⟩ := isDirectoryAt_iff.mp (sound.rooted _ _ hname)
  cases hfound.symm.trans hentry
  exact closedAt_iff.mpr ⟨_, hfound, by simpa [isOpenEntry] using hshut⟩

/-- What is visited from names in a directory and from other starts. -/
theorem Visited.below_or_beyond
    (h : store.Visited root loc (listing.map (fun name => names ++ [name]) ++ starts) stops)
    {s : Path × Entry} (hs : s ∈ stops) :
    (∃ more ≠ [], s.1 = root.place (names ++ more) ∧ store.entry? (loc ++ (names ++ more)) = some s.2) ∨
      ∃ start ∈ starts, ∃ more, s.1 = root.place (start ++ more) ∧
        store.entry? (loc ++ (start ++ more)) = some s.2 := by
  obtain ⟨start, hstart, more, hpath, hentry⟩ := h.found s hs
  rcases List.mem_append.mp hstart with hstart | hstart
  · obtain ⟨name, -, rfl⟩ := List.mem_map.mp hstart
    rw [List.append_assoc] at hpath hentry
    exact .inl ⟨[name] ++ more, List.cons_ne_nil _ _, hpath, hentry⟩
  · exact .inr ⟨start, hstart, more, hpath, hentry⟩

/-- What stands in a directory of which the names are read is not missed. -/
theorem Visited.mem_below (sound : store.Sound)
    (hread : ∀ name, store.entry? (loc ++ names ++ [name]) ≠ none →
      store.ClosedAt root loc names ∨ name ∈ listing)
    (h : store.Visited root loc (listing.map (fun name => names ++ [name]) ++ starts) stops)
    (hentry : store.entry? (loc ++ (names ++ [name] ++ more)) = some e)
    (hopen : ∀ upper lower, name :: more = upper ++ lower → lower ≠ [] →
      ¬ store.ClosedAt root loc (names ++ upper)) :
    (root.place (names ++ [name] ++ more), e) ∈ stops := by
  have hname : name ∈ listing := by
    refine (hread name fun hnone => ?_).resolve_left fun hclosed => ?_
    · have hbelow := sound.rooted.entry?_below hnone more
      rw [List.append_assoc, List.append_assoc, ← List.append_assoc names, hentry] at hbelow
      cases hbelow
    · refine hopen [] (name :: more) rfl (List.cons_ne_nil _ _) ?_
      rwa [List.append_nil]
  have hstart : names ++ [name] ∈ listing.map (fun name => names ++ [name]) ++ starts :=
    List.mem_append_left _ (List.mem_map_of_mem hname)
  refine h.complete _ hstart more e hentry fun upper lower heq hlower => ?_
  rw [List.append_assoc]
  exact hopen ([name] ++ upper) lower (by rw [heq]; rfl) hlower

/-- A stop before what stands in it, as far as its names are read, and before what comes apart from it. -/
theorem Visited.cons (sound : store.Sound) (hroot : root.text ≠ "")
    (hfound : store.entry? (loc ++ names) = some e)
    (hread : ∀ name, store.entry? (loc ++ names ++ [name]) ≠ none →
      store.ClosedAt root loc names ∨ name ∈ listing)
    (hapart : ∀ others ∈ starts, Apart names others)
    (h : store.Visited root loc (listing.map (fun name => names ++ [name]) ++ starts) stops) :
    store.Visited root loc (names :: starts) ((root.place names, e) :: stops) := by
  constructor
  · intro s hs
    rcases List.mem_cons.mp hs with rfl | hs
    · exact ⟨names, List.mem_cons_self, [], by rw [List.append_nil], by rwa [List.append_nil]⟩
    · rcases h.below_or_beyond hs with ⟨more, -, hbelow⟩ | ⟨start, hstart, hbeyond⟩
      · exact ⟨names, List.mem_cons_self, more, hbelow⟩
      · exact ⟨start, List.mem_cons_of_mem _ hstart, hbeyond⟩
  · refine List.pairwise_cons.mpr ⟨fun p hp => ?_, h.ordered⟩
    obtain ⟨s, hs, rfl⟩ := List.mem_map.mp hp
    rcases h.below_or_beyond hs with ⟨more, hmore, hpath, hentry⟩ | ⟨start, hstart, more, hpath, hentry⟩
    · rw [hpath]
      exact Path.place_before_append hroot (sound.proper_names hentry) hmore
    · rw [hpath]
      exact sound.before_of_apart hroot hfound hentry (hapart start hstart)
  · intro start hstart more e' hentry hopen
    rcases List.mem_cons.mp hstart with heq | hstart
    · rw [heq] at hentry hopen ⊢
      cases more with
      | nil =>
        rw [List.append_nil] at hentry ⊢
        cases hfound.symm.trans hentry
        exact List.mem_cons_self
      | cons name more =>
        rw [List.append_cons] at hentry ⊢
        exact List.mem_cons_of_mem _ (h.mem_below sound hread hentry hopen)
    · exact List.mem_cons_of_mem _ (h.complete start (List.mem_append_right _ hstart) more e' hentry hopen)

/-- The path and the location that names lead to. -/
def spot (root : Path) (loc : Location) (names : List String) : Path × Location :=
  (root.place names, loc ++ names)

/-- The names in a directory lead to what is to be visited in it. -/
theorem within_eq (hroot : root.text ≠ "")
    (hproper : ∀ name ∈ listing, Location.Proper (names ++ [name])) :
    within (root.place names) (loc ++ names) listing =
      ((listing.mergeSort fun a b => decide (a ≤ b)).map fun name => names ++ [name]).map (spot root loc) := by
  rw [within, List.map_map]
  refine List.map_congr_left fun name hname => ?_
  rw [List.mem_mergeSort] at hname
  show _ = spot root loc (names ++ [name])
  rw [spot, Path.place_concat hroot (hproper name hname), List.append_assoc]

/-- What stands in a directory comes apart, and from all that the directory comes apart from. -/
theorem pairwise_apart (sound : store.Sound) (hlisting : listing.Perm (store.namesBelow l))
    (hapart : (names :: starts).Pairwise Apart) :
    (((listing.mergeSort fun a b => decide (a ≤ b)).map fun name => names ++ [name]) ++ starts).Pairwise
      Apart := by
  have hstarts := List.pairwise_cons.mp hapart
  refine List.pairwise_append.mpr ⟨?_, hstarts.2, fun child hchild others hothers => ?_⟩
  · rw [List.pairwise_map]
    exact (pairwise_lt_listing sound hlisting).imp fun hlt => ⟨names, _, _, [], [], rfl, rfl, hlt⟩
  · obtain ⟨name, -, rfl⟩ := List.mem_map.mp hchild
    have happend := (hstarts.1 others hothers).append [name] []
    rwa [List.append_nil] at happend

/-- **A visit misses nothing but what stands in directories that cannot be read.** -/
theorem Visits.visited (sound : store.Sound) (hroot : root.text ≠ "") {todo : List (Path × Location)}
    (h : store.Visits todo stops) (hstarts : todo = starts.map (spot root loc))
    (hapart : starts.Pairwise Apart) : store.Visited root loc starts stops := by
  induction h generalizing starts with
  | done =>
    obtain rfl : starts = [] := List.map_eq_nil_iff.mp hstarts.symm
    constructor
    · intro s hs
      cases hs
    · exact .nil
    · intro names hnames
      cases hnames
  | pass found shut _ ih =>
    cases starts with
    | nil => cases hstarts
    | cons names starts =>
      cases hstarts
      have hrest := List.pairwise_cons.mp hapart
      have hread : ∀ name, store.entry? (loc ++ names ++ [name]) ≠ none →
          store.ClosedAt root loc names ∨ name ∈ [] :=
        fun name hname => .inl (sound.closedAt_of_shut found shut hname)
      exact Visited.cons sound hroot found hread hrest.1 (ih rfl hrest.2)
  | @enter p l e todo stops listing found opened listed _ ih =>
    cases starts with
    | nil => cases hstarts
    | cons names starts =>
      cases hstarts
      have hmem : ∀ name, name ∈ listing ↔ store.entry? (loc ++ names ++ [name]) ≠ none := by
        intro name
        rw [listed.mem_iff, mem_namesBelow]
      have hproper : ∀ name ∈ listing, Location.Proper (names ++ [name]) := by
        intro name hname
        obtain ⟨e', hentry⟩ := Option.ne_none_iff_exists'.mp ((hmem name).mp hname)
        rw [List.append_assoc] at hentry
        exact sound.proper_names hentry
      refine Visited.cons sound hroot found (fun name hname => .inr ?_) (List.pairwise_cons.mp hapart).1
        (ih ?_ (pairwise_apart sound listed hapart))
      · exact List.mem_mergeSort.mpr ((hmem name).mpr hname)
      · rw [within_eq hroot hproper, List.map_append]

/-! ## Visits come to an end -/

theorem Visits.append {todo more : List (Path × Location)} {stops' : List (Path × Entry)}
    (h : store.Visits todo stops) (h' : store.Visits more stops') :
    store.Visits (todo ++ more) (stops ++ stops') := by
  induction h with
  | done => exact h'
  | pass found shut _ ih => exact .pass found shut ih
  | enter found opened listed _ ih => exact .enter found opened listed (by rwa [List.append_assoc] at ih)

theorem exists_visits_of_forall {todo : List (Path × Location)}
    (h : ∀ start ∈ todo, ∃ stops, store.Visits [start] stops) : ∃ stops, store.Visits todo stops := by
  induction todo with
  | nil => exact ⟨[], .done⟩
  | cons start todo ih =>
    obtain ⟨stops, hstart⟩ := h start List.mem_cons_self
    obtain ⟨stops', hrest⟩ := ih fun s hs => h s (List.mem_cons_of_mem _ hs)
    exact ⟨stops ++ stops', hstart.append hrest⟩

theorem exists_visits_of_names (p : Path) (hl : store.entry? l ≠ none)
    (h : ∀ name, store.entry? (l ++ [name]) ≠ none →
      ∃ stops, store.Visits [(p.join ⟨name⟩, l ++ [name])] stops) :
    ∃ stops, store.Visits [(p, l)] stops := by
  obtain ⟨e, hentry⟩ := Option.ne_none_iff_exists'.mp hl
  cases hopen : isOpenEntry p e with
  | false => exact ⟨[(p, e)], .pass hentry hopen .done⟩
  | true =>
    obtain ⟨stops, hstops⟩ : ∃ stops, store.Visits (within p l (store.namesBelow l)) stops := by
      refine exists_visits_of_forall fun start hstart => ?_
      obtain ⟨name, hname, rfl⟩ := List.mem_map.mp hstart
      rw [List.mem_mergeSort, mem_namesBelow] at hname
      exact h name hname
    refine ⟨(p, e) :: stops, .enter hentry hopen (List.Perm.refl _) ?_⟩
    rwa [List.append_nil]

/-- A visit goes no deeper than the entries of the store. -/
theorem exists_visits (depth : Nat) (p : Path) (hl : store.entry? l ≠ none)
    (hdepth : ∀ s ∈ store.entries, s.1.length ≤ l.length + depth) :
    ∃ stops, store.Visits [(p, l)] stops := by
  induction depth generalizing p l with
  | zero =>
    refine exists_visits_of_names p hl fun name hname => ?_
    obtain ⟨e, hentry⟩ := Option.ne_none_iff_exists'.mp hname
    have hlength := hdepth _ (mem_entries_of_eq (by simp) hentry)
    simp at hlength
  | succ depth ih =>
    refine exists_visits_of_names p hl fun name hname => ih _ hname fun s hs => ?_
    have hlength := hdepth s hs
    rw [List.length_append, List.length_singleton]
    omega

/-- **A visit comes to an end.** -/
theorem exists_visits_of_entry (p : Path) (hl : store.entry? l ≠ none) :
    ∃ stops, store.Visits [(p, l)] stops := by
  refine exists_visits (store.entries.map fun s => s.1.length).sum p hl fun s hs => ?_
  have hle := List.le_sum_of_mem (List.mem_map_of_mem (f := fun s : Location × Entry => s.1.length) hs)
  omega

end FileStore

end Conformance
