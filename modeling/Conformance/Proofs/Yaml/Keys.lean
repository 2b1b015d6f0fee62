import Conformance.Proofs.Yaml.Keyless

/-!
# Keys in YAML trees

Which keys stand where in a tree that can be read.

* `Tree.Items`, `Tree.Entries` : a sequence by its items, and a mapping by its entries;
* `Tree.items_of_listOf?`, `Tree.entries_of_fields?` : a list is read item by item, and a record field
  by field, its keys being known;
* `Tree.mapItems`, `Tree.mapField` : a change of the items of a sequence, and of the value of a field;
* `Tree.Record` : a record that has further keys only in the items of one of its fields.
-/

namespace Conformance.Yaml.Tree

variable {α : Type} {t value : Tree} {P : Tree → Prop} {R R' : Tree → Tree → Prop}
  {read : Tree → Option α} {f : Tree → Tree} {known : List String} {given : List (String × Tree)}
  {name : String}

/-- The items of a sequence; a tree of another form has no keys. -/
def Items (P : Tree → Prop) : Tree → Prop
  | .sequence _ items => ∀ item ∈ items, P item
  | t => t.Keyless

/-- The keys of a mapping and the values under them; a tree of another form has no keys. -/
def Entries (R : Tree → Tree → Prop) : Tree → Prop
  | .mapping _ entries => ∀ entry ∈ entries, R entry.1 entry.2
  | t => t.Keyless

theorem Entries.mono (h : t.Entries R) (hmono : ∀ key value, R key value → R' key value) :
    t.Entries R' := by
  cases t with
  | mapping tag entries =>
    exact fun entry hmem => hmono entry.1 entry.2 (h entry hmem)
  | void => exact h
  | scalar tag value style => exact h
  | sequence tag items => exact h

/-! ## Sequences -/

theorem items_of_listOf? {as : List α} (h : t.listOf? read = some as) :
    t.Items fun item => ∃ a, read item = some a := by
  have hblank : (if t.isBlank then some ([] : List α) else none) = some as → t.Keyless := by
    intro h
    split at h
    · rename_i hblank
      exact keyless_of_isBlank hblank
    · cases h
  cases t with
  | sequence tag items =>
    intro item hmem
    obtain ⟨a, ha, -⟩ := exists_of_mem_mapM h item hmem
    exact ⟨a, ha⟩
  | void => exact hblank h
  | scalar tag value style => exact hblank h
  | mapping tag entries => exact hblank h

theorem keyless_of_listOf? {as : List α} (hread : ∀ item a, read item = some a → item.Keyless)
    (h : t.listOf? read = some as) : t.Keyless := by
  have hitems := items_of_listOf? h
  cases t with
  | sequence tag items =>
    refine .sequence tag fun item hmem => ?_
    obtain ⟨a, ha⟩ := hitems item hmem
    exact hread item a ha
  | void => exact hitems
  | scalar tag value style => exact hitems
  | mapping tag entries => exact hitems

/-- A sequence with each of its items changed. -/
def mapItems (f : Tree → Tree) : Tree → Tree
  | .sequence tag items => .sequence tag (items.map f)
  | t => t

theorem Items.mapItems {Q : Tree → Prop} (h : t.Items P) (hf : ∀ item, P item → Q (f item)) :
    (t.mapItems f).Items Q := by
  cases t with
  | sequence tag items =>
    intro item hmem
    obtain ⟨item', hmem', rfl⟩ := List.mem_map.mp hmem
    exact hf item' (h item' hmem')
  | void => exact h
  | scalar tag value style => exact h
  | mapping tag entries => exact h

theorem mapItems_eq_self (h : t.Items P) (hf : ∀ item, P item → f item = item) :
    t.mapItems f = t := by
  cases t with
  | sequence tag items =>
    have hmap : items.map f = items :=
      (List.map_congr_left fun item hmem => hf item (h item hmem)).trans (List.map_id items)
    rw [Tree.mapItems, hmap]
  | void => rfl
  | scalar tag value style => rfl
  | mapping tag entries => rfl

theorem listOf?_mapItems (hf : ∀ item, read (f item) = read item) :
    (t.mapItems f).listOf? read = t.listOf? read := by
  cases t with
  | sequence tag items =>
    have hread : read ∘ f = read := funext hf
    rw [Tree.mapItems, listOf?, listOf?, List.mapM_map, hread]
  | void => rfl
  | scalar tag value style => rfl
  | mapping tag entries => rfl

/-! ## Records -/

theorem addField?_eq_some {entry : Tree × Tree} {later : List (String × Tree)}
    (h : addField? known entry later = some given) :
    ∃ name ∈ known, entry.1.text? = some name ∧ (∀ e ∈ later, e.1 ≠ name) ∧
      given = (name, entry.2) :: later := by
  unfold addField? at h
  obtain ⟨name, hname, h⟩ := Option.bind_eq_some_iff.mp h
  split at h
  · rename_i hfresh
    simp only [Bool.and_eq_true, List.contains_iff_mem, Bool.not_eq_true', List.any_eq_false,
      decide_eq_true_eq] at hfresh
    exact ⟨name, hfresh.1, hname, hfresh.2, (Option.some.inj h).symm⟩
  · cases h

theorem lookup_of_foldrM {entries : List (Tree × Tree)}
    (h : entries.foldrM (addField? known) [] = some given) : ∀ entry ∈ entries,
      ∃ name ∈ known, entry.1.text? = some name ∧ given.lookup name = some entry.2 := by
  induction entries generalizing given with
  | nil => simp
  | cons first entries ih =>
    rw [List.foldrM_cons] at h
    obtain ⟨later, hlater, hfirst⟩ := Option.bind_eq_some_iff.mp h
    obtain ⟨name, hknown, hname, hfresh, rfl⟩ := addField?_eq_some hfirst
    intro entry hmem
    rcases List.mem_cons.mp hmem with rfl | hmem
    · exact ⟨name, hknown, hname, List.lookup_cons_self⟩
    · obtain ⟨other, hother, htext, hlookup⟩ := ih hlater entry hmem
      -- the first entry hides none of the later ones, as its name is none of theirs
      have hne : (other == name) = false := by
        refine beq_false_of_ne fun heq => ?_
        have hnone : later.lookup name = none :=
          List.lookup_eq_none_iff.mpr fun e he => bne_iff_ne.mpr (hfresh e he).symm
        rw [heq, hnone] at hlookup
        cases hlookup
      exact ⟨other, hother, htext, by rw [List.lookup_cons, hne]; exact hlookup⟩

/-- A record has known keys only, and under each the value that is read. -/
theorem entries_of_fields? (h : t.fields? known = some given) :
    t.Entries fun key value =>
      ∃ name ∈ known, key.text? = some name ∧ given.lookup name = some value := by
  obtain ⟨entries, hentries, hfold⟩ := Option.bind_eq_some_iff.mp h
  have hblank : (if t.isBlank then some ([] : List (Tree × Tree)) else none) = some entries →
      t.Keyless := by
    intro h
    split at h
    · rename_i hblank
      exact keyless_of_isBlank hblank
    · cases h
  cases t with
  | mapping tag written =>
    cases hentries
    exact lookup_of_foldrM hfold
  | void => exact hblank hentries
  | scalar tag value style => exact hblank hentries
  | sequence tag items => exact hblank hentries

/-- A mapping with the value under a name changed. -/
def mapField (name : String) (f : Tree → Tree) : Tree → Tree
  | .mapping tag entries =>
    .mapping tag (entries.map fun e => if e.1.text? = some name then (e.1, f e.2) else e)
  | t => t

/-- The fields of a record with the value under a name changed. -/
def mapGiven (name : String) (f : Tree → Tree) (given : List (String × Tree)) :
    List (String × Tree) :=
  given.map fun e => if e.1 = name then (e.1, f e.2) else e

theorem mapGiven_cons_self :
    mapGiven name f ((name, value) :: given) = (name, f value) :: mapGiven name f given := by
  simp [mapGiven]

theorem mapGiven_cons_of_ne {other : String} (h : other ≠ name) :
    mapGiven name f ((other, value) :: given) = (other, value) :: mapGiven name f given := by
  simp [mapGiven, h]

theorem any_mapGiven (name : String) (f : Tree → Tree) (given : List (String × Tree)) (s : String) :
    (mapGiven name f given).any (fun e => e.1 = s) = given.any fun e => e.1 = s := by
  unfold mapGiven
  rw [List.any_map]
  congr 1
  funext e
  by_cases h : e.1 = name <;> simp [h]

theorem addField?_mapGiven (entry : Tree × Tree) (later : List (String × Tree)) :
    addField? known (if entry.1.text? = some name then (entry.1, f entry.2) else entry)
      (mapGiven name f later) = (addField? known entry later).map (mapGiven name f) := by
  obtain ⟨key, value⟩ := entry
  unfold addField?
  cases htext : key.text? with
  | none => simp [htext]
  | some s =>
    have hany := any_mapGiven name f later s
    by_cases hs : s = name
    · subst hs
      simp only [htext, if_true, Option.bind_eq_bind, Option.bind_some, hany]
      split
      · rw [Option.map_some, mapGiven_cons_self]
      · rfl
    · simp only [htext, Option.some.injEq, hs, if_false, Option.bind_eq_bind, Option.bind_some, hany]
      split
      · rw [Option.map_some, mapGiven_cons_of_ne hs]
      · rfl

theorem fields?_mapField :
    (t.mapField name f).fields? known = (t.fields? known).map (mapGiven name f) := by
  have hblank : (if t.isBlank then some ([] : List (Tree × Tree)) else none).bind
        (fun entries => entries.foldrM (addField? known) []) =
      ((if t.isBlank then some ([] : List (Tree × Tree)) else none).bind
        fun entries => entries.foldrM (addField? known) []).map (mapGiven name f) := by
    split <;> rfl
  cases t with
  | mapping tag entries =>
    show (entries.map _).foldrM (addField? known) [] =
      (entries.foldrM (addField? known) []).map (mapGiven name f)
    clear hblank
    induction entries with
    | nil => rfl
    | cons entry entries ih =>
      rw [List.map_cons, List.foldrM_cons, ih, List.foldrM_cons]
      cases entries.foldrM (addField? known) [] with
      | none => rfl
      | some later => exact addField?_mapGiven entry later
  | void => exact hblank
  | scalar tag value style => exact hblank
  | sequence tag items => exact hblank

theorem lookup_mapGiven_self : (mapGiven name f given).lookup name = (given.lookup name).map f := by
  induction given with
  | nil => rfl
  | cons e given ih =>
    obtain ⟨key, value⟩ := e
    by_cases h : key = name
    · subst h
      rw [mapGiven_cons_self, List.lookup_cons_self, List.lookup_cons_self]
      rfl
    · have hne : (name == key) = false := beq_false_of_ne (Ne.symm h)
      rw [mapGiven_cons_of_ne h, List.lookup_cons, List.lookup_cons, hne]
      exact ih

theorem lookup_mapGiven_of_ne {other : String} (hne : other ≠ name) :
    (mapGiven name f given).lookup other = given.lookup other := by
  induction given with
  | nil => rfl
  | cons e given ih =>
    obtain ⟨key, value⟩ := e
    by_cases h : key = name
    · subst h
      rw [mapGiven_cons_self, List.lookup_cons, List.lookup_cons, beq_false_of_ne hne]
      exact ih
    · rw [mapGiven_cons_of_ne h, List.lookup_cons, List.lookup_cons, ih]

theorem fieldOr?_mapGiven_of_ne {other : String} {default : α} (hne : other ≠ name) :
    fieldOr? (mapGiven name f given) other default read = fieldOr? given other default read := by
  unfold fieldOr?
  rw [lookup_mapGiven_of_ne hne]

theorem fieldOr?_mapGiven_self {default : α} (hread : ∀ t, read (f t) = read t) :
    fieldOr? (mapGiven name f given) name default read = fieldOr? given name default read := by
  unfold fieldOr?
  rw [lookup_mapGiven_self]
  cases given.lookup name with
  | none => rfl
  | some value => exact hread value

theorem Entries.mapField (h : t.Entries R)
    (hself : ∀ key value, key.text? = some name → R key value → R' key (f value))
    (hother : ∀ key value, key.text? ≠ some name → R key value → R' key value) :
    (t.mapField name f).Entries R' := by
  cases t with
  | mapping tag entries =>
    intro entry hmem
    obtain ⟨entry', hmem', rfl⟩ := List.mem_map.mp hmem
    split
    · rename_i htext
      exact hself entry'.1 entry'.2 htext (h entry' hmem')
    · rename_i htext
      exact hother entry'.1 entry'.2 htext (h entry' hmem')
  | void => exact h
  | scalar tag value style => exact h
  | sequence tag items => exact h

theorem mapField_eq_self (h : t.Entries R)
    (hf : ∀ key value, key.text? = some name → R key value → f value = value) :
    t.mapField name f = t := by
  cases t with
  | mapping tag entries =>
    have hmap : (entries.map fun e => if e.1.text? = some name then (e.1, f e.2) else e) = entries := by
      refine (List.map_congr_left fun entry hmem => ?_).trans (List.map_id entries)
      split
      · rename_i htext
        rw [hf entry.1 entry.2 htext (h entry hmem)]
        rfl
      · rfl
    rw [Tree.mapField, hmap]
  | void => rfl
  | scalar tag value style => rfl
  | sequence tag items => rfl

/-! ## Records with a list of records -/

/-- A record with known keys, which has other keys only in the items of one of its fields. -/
def Record (known : List String) (inner : String) (P : Tree → Prop) : Tree → Prop :=
  Entries fun key value => ∃ field ∈ known, key.text? = some field ∧
    if field = inner then value.Items P else value.Keyless

theorem record_of_fields? (h : t.fields? known = some given)
    (hinner : ∀ value, given.lookup name = some value → value.Items P)
    (hother : ∀ field ∈ known, field ≠ name → ∀ value, given.lookup field = some value →
      value.Keyless) : t.Record known name P := by
  refine Entries.mono (entries_of_fields? h) ?_
  rintro key value ⟨field, hknown, htext, hvalue⟩
  refine ⟨field, hknown, htext, ?_⟩
  split
  · rename_i heq
    exact hinner value (heq ▸ hvalue)
  · rename_i hne
    exact hother field hknown hne value hvalue

theorem Record.mapField {Q : Tree → Prop} (h : t.Record known name P)
    (hf : ∀ item, P item → Q (f item)) : (t.mapField name (mapItems f)).Record known name Q := by
  refine Entries.mapField h ?_ ?_
  · rintro key value hname ⟨field, hknown, htext, hvalue⟩
    refine ⟨field, hknown, htext, ?_⟩
    rw [if_pos (Option.some.inj (htext.symm.trans hname))] at hvalue ⊢
    exact hvalue.mapItems hf
  · rintro key value hname ⟨field, hknown, htext, hvalue⟩
    refine ⟨field, hknown, htext, ?_⟩
    have hne : field ≠ name := fun heq => hname (heq ▸ htext)
    rwa [if_neg hne] at hvalue ⊢

theorem Record.mapField_eq_self (h : t.Record known name P) (hf : ∀ item, P item → f item = item) :
    t.mapField name (mapItems f) = t := by
  refine Tree.mapField_eq_self h ?_
  rintro key value hname ⟨field, -, htext, hvalue⟩
  rw [if_pos (Option.some.inj (htext.symm.trans hname))] at hvalue
  exact mapItems_eq_self hvalue hf

theorem read_of_lookup {default a : α} (hvalue : given.lookup name = some value)
    (h : fieldOr? given name default read = some a) : read value = some a := by
  unfold fieldOr? at h
  rwa [hvalue] at h

end Conformance.Yaml.Tree
