import Conformance.Yaml.Value

/-!
# Trees without keys

A value of a simple type leaves no room for a mapping in the tree that it is read from.

* `Tree.Keyless`, `Data.Keyless` : no mapping in a tree, or in a document tree, has a key;
* `Tree.keyless_of_text?`, `Data.keyless_of_text?` and so on : a tree that is read as a value of a
  simple type has none;
* `keyless_of_toData?` : nor has a tree that stands for data without keys.
-/

namespace Conformance

theorem exists_of_mem_mapM {α β : Type} {g : β → Option α} {bs : List β} {as : List α}
    (h : bs.mapM g = some as) : ∀ b ∈ bs, ∃ a, g b = some a ∧ a ∈ as := by
  induction bs generalizing as with
  | nil => simp
  | cons b bs ih =>
    rw [List.mapM_cons] at h
    obtain ⟨a, ha, h⟩ := Option.bind_eq_some_iff.mp h
    obtain ⟨as', has, h⟩ := Option.bind_eq_some_iff.mp h
    cases h
    intro b' hb'
    rcases List.mem_cons.mp hb' with rfl | hb'
    · exact ⟨a, ha, List.mem_cons_self⟩
    · obtain ⟨a', ha', hmem⟩ := ih has b' hb'
      exact ⟨a', ha', List.mem_cons_of_mem _ hmem⟩

/-! ## Values in trees -/

namespace Yaml.Tree

variable {α : Type} {t : Tree} {read : Tree → Option α}

/-- No mapping in a tree has a key. -/
inductive Keyless : Tree → Prop where
  | void : Keyless .void
  | scalar (tag : Option String) (value : String) (style : ScalarStyle) :
    Keyless (.scalar tag value style)
  | sequence (tag : Option String) {items : List Tree} :
    (∀ item ∈ items, Keyless item) → Keyless (.sequence tag items)
  | mapping (tag : Option String) : Keyless (.mapping tag [])

theorem keyless_of_text? {s : String} (h : t.text? = some s) : t.Keyless := by
  cases t with
  | scalar tag value style => exact .scalar tag value style
  | void => cases h
  | sequence tag items => cases h
  | mapping tag entries => cases h

theorem keyless_of_isBlank (h : t.isBlank = true) : t.Keyless := by
  cases t with
  | void => exact .void
  | scalar tag value style => exact .scalar tag value style
  | sequence tag items => cases h
  | mapping tag entries => cases h

theorem keyless_of_isAbsent? (h : t.isAbsent? = some true) : t.Keyless := by
  cases t with
  | void => exact .void
  | scalar tag value style => exact .scalar tag value style
  | sequence tag items => cases h
  | mapping tag entries => cases h

theorem keyless_of_word64? {n : Nat} (h : t.word64? = some n) : t.Keyless := by
  cases t with
  | scalar tag value style => exact .scalar tag value style
  | void => cases h
  | sequence tag items => cases h
  | mapping tag entries => cases h

theorem keyless_of_member? {all : List α} {nameOf : α → String} {a : α}
    (h : t.member? all nameOf = some a) : t.Keyless := by
  cases t with
  | scalar tag value style => exact .scalar tag value style
  | void => cases h
  | sequence tag items => cases h
  | mapping tag entries => cases h

theorem keyless_of_optional? {a : Option α} (hread : ∀ a, read t = some a → t.Keyless)
    (h : t.optional? read = some a) : t.Keyless := by
  unfold optional? at h
  obtain ⟨absent, habsent, h⟩ := Option.bind_eq_some_iff.mp h
  cases absent with
  | true => exact keyless_of_isAbsent? habsent
  | false =>
    obtain ⟨value, hvalue, -⟩ := Option.map_eq_some_iff.mp h
    exact hread value hvalue

end Yaml.Tree

/-! ## Values in data -/

namespace Data

variable {α : Type} {d : Data}

/-- No mapping in a document tree has a key. -/
inductive Keyless : Data → Prop where
  /-- Neither a sequence nor a mapping. -/
  | leaf {d : Data} : (∀ items, d ≠ .list items) → (∀ entries, d ≠ .map entries) → Keyless d
  | list {items : List Data} : (∀ d ∈ items, Keyless d) → Keyless (.list items)
  | map : Keyless (.map [])

theorem keyless_null : Keyless .null := .leaf (fun _ => nofun) fun _ => nofun

theorem keyless_text (s : String) : Keyless (.text s) := .leaf (fun _ => nofun) fun _ => nofun

theorem keyless_int (i : Int) : Keyless (.int i) := .leaf (fun _ => nofun) fun _ => nofun

theorem keyless_of_text? {s : String} (h : d.text? = some s) : d.Keyless := by
  cases d with
  | text s => exact keyless_text s
  | _ => cases h

theorem keyless_of_intIn? {lo hi i : Int} (h : d.intIn? lo hi = some i) : d.Keyless := by
  cases d with
  | int i => exact keyless_int i
  | _ => cases h

theorem keyless_of_word64? {n : Nat} (h : d.word64? = some n) : d.Keyless := by
  obtain ⟨i, hi, -⟩ := Option.map_eq_some_iff.mp h
  exact keyless_of_intIn? hi

theorem keyless_of_optional? {read : Data → Option α} {a : Option α}
    (hread : ∀ a, read d = some a → d.Keyless) (h : d.optional? read = some a) : d.Keyless := by
  cases d with
  | null => exact keyless_null
  | _ =>
    obtain ⟨value, hvalue, -⟩ := Option.map_eq_some_iff.mp h
    exact hread value hvalue

theorem keyless_of_listOf? {read : Data → Option α} {as : List α}
    (hread : ∀ d a, read d = some a → d.Keyless) (h : d.listOf? read = some as) : d.Keyless := by
  cases d with
  | list items =>
    refine .list fun item hmem => ?_
    obtain ⟨a, ha, -⟩ := exists_of_mem_mapM h item hmem
    exact hread item a ha
  | _ => cases h

theorem keyless_of_isEmptyMap (h : d.isEmptyMap = true) : d.Keyless := by
  unfold isEmptyMap at h
  split at h
  · exact .map
  · cases h

end Data

/-! ## From trees to data -/

namespace Yaml

variable {t : Tree} {d : Data} {tag : Option String}

/-- A tree as a key of a document. -/
def Tree.key? (t : Tree) : Option Key := t.toData?.map (keyOf t)

theorem exists_of_toData?_sequence {items : List Tree}
    (h : (Tree.sequence tag items).toData? = some d) :
    ∃ ds, itemsData? items = some ds ∧ d = .list ds := by
  rw [Tree.toData?] at h
  split at h
  · cases h
  · obtain ⟨ds, hds, h⟩ := Option.bind_eq_some_iff.mp h
    exact ⟨ds, hds, (Option.some.inj h).symm⟩

theorem exists_of_toData?_mapping {entries : List (Tree × Tree)}
    (h : (Tree.mapping tag entries).toData? = some d) :
    ∃ es, entriesData? entries = some es ∧ d = .map es := by
  rw [Tree.toData?] at h
  split at h
  · cases h
  · obtain ⟨es, hes, h⟩ := Option.bind_eq_some_iff.mp h
    exact ⟨es, hes, (Option.some.inj h).symm⟩

theorem itemsData?_eq (items : List Tree) : itemsData? items = items.mapM Tree.toData? := by
  induction items with
  | nil => rfl
  | cons item items ih => rw [itemsData?, List.mapM_cons, ih]

theorem eq_of_entriesData?_nil {entries : List (Tree × Tree)} (h : entriesData? entries = some []) :
    entries = [] := by
  cases entries with
  | nil => rfl
  | cons entry entries =>
    obtain ⟨key, value⟩ := entry
    rw [entriesData?] at h
    obtain ⟨name, -, h⟩ := Option.bind_eq_some_iff.mp h
    obtain ⟨d, -, h⟩ := Option.bind_eq_some_iff.mp h
    obtain ⟨es, -, h⟩ := Option.bind_eq_some_iff.mp h
    cases h

theorem eq_of_entriesData?_singleton {entries : List (Tree × Tree)} {key : Key}
    (h : entriesData? entries = some [(key, d)]) :
    ∃ written value, entries = [(written, value)] ∧ written.key? = some key ∧
      value.toData? = some d := by
  cases entries with
  | nil => cases h
  | cons entry entries =>
    obtain ⟨written, value⟩ := entry
    rw [entriesData?] at h
    obtain ⟨name, hname, h⟩ := Option.bind_eq_some_iff.mp h
    obtain ⟨d', hd, h⟩ := Option.bind_eq_some_iff.mp h
    obtain ⟨es, hes, h⟩ := Option.bind_eq_some_iff.mp h
    cases h
    cases eq_of_entriesData?_nil hes
    exact ⟨written, value, rfl, by rw [Tree.key?, hname]; rfl, hd⟩

/-- A tree has no keys if it stands for data without keys. -/
theorem keyless_of_toData? (hd : d.Keyless) (h : t.toData? = some d) : t.Keyless := by
  induction hd generalizing t with
  | leaf hlist hmap =>
    cases t with
    | void => exact .void
    | scalar tag value style => exact .scalar tag value style
    | sequence tag items =>
      obtain ⟨ds, -, hds⟩ := exists_of_toData?_sequence h
      exact absurd hds (hlist ds)
    | mapping tag entries =>
      obtain ⟨es, -, hes⟩ := exists_of_toData?_mapping h
      exact absurd hes (hmap es)
  | list _ ih =>
    cases t with
    | void => exact .void
    | scalar tag value style => exact .scalar tag value style
    | sequence tag items =>
      obtain ⟨ds, hds, heq⟩ := exists_of_toData?_sequence h
      cases heq
      rw [itemsData?_eq] at hds
      refine .sequence tag fun item hmem => ?_
      obtain ⟨d, hd, hmem'⟩ := exists_of_mem_mapM hds item hmem
      exact ih d hmem' hd
    | mapping tag entries =>
      obtain ⟨es, -, hes⟩ := exists_of_toData?_mapping h
      cases hes
  | map =>
    cases t with
    | void => exact .void
    | scalar tag value style => exact .scalar tag value style
    | sequence tag items =>
      obtain ⟨ds, -, hds⟩ := exists_of_toData?_sequence h
      cases hds
    | mapping tag entries =>
      obtain ⟨es, hes, heq⟩ := exists_of_toData?_mapping h
      cases heq
      rw [eq_of_entriesData?_nil hes]
      exact .mapping tag

end Yaml

end Conformance
