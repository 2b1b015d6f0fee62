import Conformance.Proofs.Data.Values
import Conformance.Proofs.Yaml.Keys
import Conformance.Proofs.Yaml.Numeral
import Mathlib.Data.List.Nodup

/-!
# Trees that write values

Which trees stand for a value, and how they are read.

* `Writing` : scalars by their types, lists, and values that may be absent;
* `Writing.Items.listOf?`, `Writing.Optional.optional?` and so on : a reader finds what was written;
* `Writing.exists_text`, `Writing.exists_items` and so on : every value is written by some tree;
* `WrittenField`, `WritesFields`, `WritesRecord` : a mapping with the fields of a record in any order,
  where a field with its default value is there or not;
* `WritesRecord.exists_fields` : every field of such a mapping is found, whatever the order.
-/

namespace Conformance.Yaml

open scoped List

variable {α : Type} {t : Tree} {tag : Option String} {value s : String} {style : ScalarStyle}
  {i : Int} {n : Nat} {d : Data}

/-- Which trees write a value. -/
abbrev Writing (α : Type) := α → Tree → Prop

variable {w : Writing α} {read : Tree → Option α}

namespace Writing

/-- A scalar of the type of texts. -/
inductive Text : Writing String
  | scalar {s : String} {tag : Option String} {style : ScalarStyle}
    (type : scalarData? tag s style = some (.text s)) : Text s (.scalar tag s style)

/-- A scalar of the type of integers. -/
inductive Integer : Writing Int
  | scalar {i : Int} {tag : Option String} {value : String} {style : ScalarStyle}
    (type : scalarData? tag value style = some (.int i)) : Integer i (.scalar tag value style)

/-- A scalar without quotes that is an integer, written without a minus sign. -/
inductive Word : Writing Nat
  | scalar {n : Nat} {tag : Option String} {value : String}
    (type : scalarData? tag value .plain = some (.int n)) (unsigned : unsigned? value = some n) :
    Word n (.scalar tag value .plain)

/-- A scalar without quotes that is the absent value. -/
inductive Absent : Tree → Prop
  | scalar {tag : Option String} {value : String}
    (type : scalarData? tag value .plain = some .null) : Absent (.scalar tag value .plain)

/-- A value that may be absent. -/
def Optional (w : Writing α) : Writing (Option α)
  | some a, t => w a t
  | none, t => Absent t

/-- A sequence of values. Its tag, if any, has a meaning for every reader. -/
inductive Items (w : Writing α) : Writing (List α)
  | sequence {as : List α} {tag : Option String} {items : List Tree} (known : isLocalTag tag = false)
    (writes : List.Forall₂ w as items) : Items w as (.sequence tag items)

/-- A value that is known by its name. -/
abbrev Named (name : α → String) : Writing α := fun a => Text (name a)

/-! ## Scalars -/

theorem isAbsent?_of_ne_null (h : scalarData? tag value style = some d) (hd : d ≠ .null) :
    (Tree.scalar tag value style).isAbsent? = some false := by
  unfold Tree.isAbsent?
  by_cases hplain : style = .plain
  · subst hplain
    cases tag with
    | none =>
      have hword : (value.isEmpty || isNullWord value) = false := by
        by_contra hword
        rw [Bool.not_eq_false] at hword
        rw [scalarData?, if_pos rfl, plainData?, if_pos hword] at h
        exact hd (Option.some.inj h).symm
      simp [hword]
    | some tag =>
      have hne : tag ≠ coreTag "null" := by
        rintro rfl
        have hdata : scalarData? (some (coreTag "null")) value .plain =
            if isNullWord value then some .null else none := rfl
        rw [hdata] at h
        split at h
        · exact hd (Option.some.inj h).symm
        · cases h
      simp [hne]
  · simp [hplain]

theorem eq_int_of_intData? {otherwise : Option Data} (h : intData? i otherwise = some d) :
    d = .int i ∨ otherwise = some d := by
  unfold intData? at h
  split at h
  · exact .inl (Option.some.inj h).symm
  · split at h
    · cases h
    · exact .inr h

/-- Only words for the absent value have no other type. -/
theorem isWord_of_plainData? (h : plainData? value = some .null) :
    (value.isEmpty || isNullWord value) = true := by
  by_contra hword
  rw [plainData?, if_neg hword] at h
  have hother : (if !isPaddedNumber value && isFloat value then Data.float value else .text value) ≠
      .null := by
    intro heq
    split at heq <;> cases heq
  split at h
  · cases h
  · rcases eq_int_of_intData? h with h | h
    · cases h
    · exact hother (Option.some.inj h)
  · exact hother (Option.some.inj h)

theorem isAbsent?_of_null (h : scalarData? tag value .plain = some .null) :
    (Tree.scalar tag value .plain).isAbsent? = some true := by
  cases tag with
  | none =>
    have hword := isWord_of_plainData? h
    simp [Tree.isAbsent?, hword]
  | some tag =>
    simp only [scalarData?] at h
    split at h
    · cases h
    split at h
    · obtain ⟨b, -, hb⟩ := Option.map_eq_some_iff.mp h
      cases hb
    split at h
    · obtain ⟨i, -, hi⟩ := Option.bind_eq_some_iff.mp h
      rcases eq_int_of_intData? hi with hi | hi <;> cases hi
    split at h
    · split at h <;> cases h
    split at h
    · rename_i hnull
      split at h
      · rename_i hword
        simp [Tree.isAbsent?, hnull, hword]
      · cases h
    · cases h

theorem Text.text? (h : Text s t) : t.text? = some s := by
  cases h
  rfl

theorem Text.toData? (h : Text s t) : t.toData? = some (.text s) := by
  cases h with
  | scalar type => exact type

theorem Text.key? (h : Text s t) : t.key? = some (.name s) := by
  rw [Tree.key?, h.toData?]
  rfl

theorem Text.isAbsent? (h : Text s t) : t.isAbsent? = some false := by
  cases h with
  | scalar type => exact isAbsent?_of_ne_null type nofun

theorem Text.member? {all : List α} {name : α → String} {a : α} (h : Text (name a) t)
    (find : all.find? (fun b => name b = name a) = some a) : t.member? all name = some a := by
  cases h with
  | @scalar _ tag style type =>
    cases tag with
    | none => exact find
    | some tag =>
      have hshared : isLocalTag (some tag) = false := by
        by_contra hlocal
        rw [Bool.not_eq_false] at hlocal
        rw [scalarData?, if_pos hlocal] at type
        cases type
      simp only [Tree.member?]
      split
      · rename_i named htag
        simp [isLocalTag, htag] at hshared
      · exact find

theorem Integer.toData? (h : Integer i t) : t.toData? = some (.int i) := by
  cases h with
  | scalar type => exact type

theorem Word.toData? (h : Word n t) : t.toData? = some (.int n) := by
  cases h with
  | scalar type _ => exact type

theorem Word.isAbsent? (h : Word n t) : t.isAbsent? = some false := by
  cases h with
  | scalar type _ => exact isAbsent?_of_ne_null type nofun

theorem Word.word64? (h : Word n t) (hsize : n < UInt64.size) : t.word64? = some n := by
  cases h with
  | scalar _ unsigned => simp [Tree.word64?, unsigned, hsize]

theorem Absent.toData? (h : Absent t) : t.toData? = some .null := by
  cases h with
  | scalar type => exact type

/-! ## Lists and values that may be absent -/

theorem Items.listOf? {as : List α} (h : Items w as t)
    (hread : ∀ a ∈ as, ∀ t, w a t → read t = some a) : t.listOf? read = some as := by
  cases h with
  | sequence _ writes =>
    refine mapM_eq_some_iff.mpr ?_
    induction writes with
    | nil => exact .nil
    | cons hfirst _ ih =>
      exact .cons (hread _ List.mem_cons_self _ hfirst)
        (ih fun a hmem => hread a (List.mem_cons_of_mem _ hmem))

theorem Items.isAbsent? {as : List α} (h : Items w as t) : t.isAbsent? = some false := by
  cases h
  rfl

theorem Items.toData? {as : List α} {data : α → Data} (h : Items w as t)
    (hdata : ∀ a t, w a t → t.toData? = some (data a)) : t.toData? = some (.list (as.map data)) := by
  cases h with
  | @sequence _ tag items known writes =>
    have hitems : itemsData? items = some (as.map data) := by
      rw [itemsData?_eq, mapM_eq_some_iff]
      induction writes with
      | nil => exact .nil
      | cons hfirst _ ih => exact .cons (hdata _ _ hfirst) ih
    rw [Tree.toData?, known, hitems]
    rfl

theorem Optional.optional? {a : Option α} (h : Optional w a t)
    (hread : ∀ b, a = some b → ∀ t, w b t → t.isAbsent? = some false ∧ read t = some b) :
    t.optional? read = some a := by
  unfold Tree.optional?
  cases a with
  | none =>
    cases h with
    | scalar type =>
      rw [isAbsent?_of_null type]
      rfl
  | some b =>
    obtain ⟨hpresent, hb⟩ := hread b rfl t h
    rw [hpresent, hb]
    rfl

/-! ## Every value is written -/

theorem exists_text (s : String) : ∃ t, Text s t := ⟨.scalar none s .double, .scalar rfl⟩

theorem exists_integer (h : fits 64 i = true) : ∃ t, Integer i t :=
  ⟨.scalar none (toString i) .plain, .scalar (plainData?_of_integer? (integer?_toString i) h)⟩

theorem exists_word (h : n < UInt64.size) : ∃ t, Word n t := by
  have hfits : fits 64 n = true := by
    simp only [fits, decide_eq_true_eq, UInt64.size] at h ⊢
    norm_num
    omega
  exact ⟨.scalar none (toString (n : Int)) .plain,
    .scalar (plainData?_of_integer? (integer?_toString n) hfits) (unsigned?_toString n)⟩

theorem exists_optional {a : Option α} (h : ∀ b, a = some b → ∃ t, w b t) : ∃ t, Optional w a t := by
  cases a with
  | none => exact ⟨.scalar none "null" .plain, .scalar rfl⟩
  | some b => exact h b rfl

theorem exists_items {as : List α} (h : ∀ a ∈ as, ∃ t, w a t) : ∃ t, Items w as t := by
  obtain ⟨items, hitems⟩ := exists_forall₂ h
  exact ⟨.sequence none items, .sequence rfl hitems⟩

end Writing

/-! ## Records -/

/-- A field of a record: its name, the trees that write its value, and whether it may be left out. -/
structure WrittenField where
  name : String
  writes : Tree → Prop
  mayOmit : Prop

namespace WrittenField

/-- A field that is always written. -/
def required (name : String) (w : Writing α) (a : α) : WrittenField := ⟨name, w a, False⟩

/-- A field that may be left out if it has its default value. -/
def defaulted (name : String) (w : Writing α) (a default : α) : WrittenField := ⟨name, w a, a = default⟩

/-- What may be found of a field. -/
def Found (f : WrittenField) : Option Tree → Prop
  | some t => f.writes t
  | none => f.mayOmit

end WrittenField

/-- Entries that write fields in order. -/
inductive WritesFields : List WrittenField → List (Tree × Tree) → Prop
  | nil : WritesFields [] []
  | omitted {f : WrittenField} {fields : List WrittenField} {entries : List (Tree × Tree)}
    (left : f.mayOmit) (rest : WritesFields fields entries) : WritesFields (f :: fields) entries
  | written {f : WrittenField} {fields : List WrittenField} {entries : List (Tree × Tree)}
    {key value : Tree} (named : Writing.Text f.name key) (writes : f.writes value)
    (rest : WritesFields fields entries) : WritesFields (f :: fields) ((key, value) :: entries)

/-- A mapping that writes fields in any order. Its tag, if any, has a meaning for every reader. -/
inductive WritesRecord (fields : List WrittenField) : Tree → Prop
  | mapping {tag : Option String} {written entries : List (Tree × Tree)}
    (known : isLocalTag tag = false) (writes : WritesFields fields written) (order : entries ~ written) :
    WritesRecord fields (.mapping tag entries)

variable {fields : List WrittenField} {entries : List (Tree × Tree)}
  {given : List (String × Tree)} {name : String}

/-- The name that the key of an entry gives. -/
abbrev nameOf? (e : Tree × Tree) : Option String := e.1.text?

theorem WritesFields.names_sublist (h : WritesFields fields entries) :
    (entries.map nameOf?).Sublist (fields.map fun f => some f.name) := by
  induction h with
  | nil => exact .slnil
  | omitted _ _ ih => exact .cons _ ih
  | written named _ _ ih =>
    rw [List.map_cons, List.map_cons, nameOf?, named.text?]
    exact .cons_cons _ ih

theorem WritesFields.name_mem (h : WritesFields fields entries) {e : Tree × Tree} (hmem : e ∈ entries) :
    ∃ name ∈ fields.map WrittenField.name, nameOf? e = some name := by
  obtain ⟨f, hf, hname⟩ :=
    List.mem_map.mp (h.names_sublist.subset (List.mem_map_of_mem (f := nameOf?) hmem))
  exact ⟨f.name, List.mem_map_of_mem hf, hname.symm⟩

/-- Each field is written by one of the entries, or may be left out and is. -/
theorem WritesFields.written_or_omitted (h : WritesFields fields entries)
    (hnodup : (fields.map WrittenField.name).Nodup) : ∀ f ∈ fields,
      (∃ e ∈ entries, nameOf? e = some f.name ∧ f.writes e.2) ∨
        f.mayOmit ∧ ∀ e ∈ entries, nameOf? e ≠ some f.name := by
  induction h with
  | nil => simp
  | @omitted f fields entries left rest ih =>
    obtain ⟨hnew, hnodup⟩ := List.nodup_cons.mp hnodup
    intro f' hf'
    rcases List.mem_cons.mp hf' with rfl | hf'
    · refine .inr ⟨left, fun e hmem heq => hnew ?_⟩
      obtain ⟨name, hname, htext⟩ := rest.name_mem hmem
      rwa [Option.some.inj (heq.symm.trans htext)]
    · exact ih hnodup f' hf'
  | @written f fields entries key value named writes rest ih =>
    obtain ⟨hnew, hnodup⟩ := List.nodup_cons.mp hnodup
    intro f' hf'
    rcases List.mem_cons.mp hf' with rfl | hf'
    · exact .inl ⟨(key, value), List.mem_cons_self, named.text?, writes⟩
    · rcases ih hnodup f' hf' with ⟨e, hmem, hname, hvalue⟩ | ⟨homit, hnone⟩
      · exact .inl ⟨e, List.mem_cons_of_mem _ hmem, hname, hvalue⟩
      · refine .inr ⟨homit, fun e hmem => ?_⟩
        rcases List.mem_cons.mp hmem with rfl | hmem
        · intro heq
          have hname : f.name = f'.name := Option.some.inj (named.text?.symm.trans heq)
          exact hnew (hname ▸ List.mem_map_of_mem hf')
        · exact hnone e hmem

/-- Entries with different names, all known, are the fields of a record. -/
theorem exists_foldrM (known : List String) (hknown : ∀ e ∈ entries, ∃ name ∈ known, nameOf? e = some name)
    (hnodup : (entries.map nameOf?).Nodup) :
    ∃ given, entries.foldrM (Tree.addField? known) [] = some given ∧
      given.map (fun e => some e.1) = entries.map nameOf? := by
  induction entries with
  | nil => exact ⟨[], rfl, rfl⟩
  | cons e entries ih =>
    obtain ⟨hnew, hnodup⟩ := List.nodup_cons.mp hnodup
    obtain ⟨given, hgiven, hnames⟩ :=
      ih (fun e' hmem => hknown e' (List.mem_cons_of_mem _ hmem)) hnodup
    obtain ⟨name, hname, htext⟩ := hknown e List.mem_cons_self
    have hfresh : given.any (fun e' => e'.1 = name) = false := by
      refine List.any_eq_false.mpr fun e' hmem heq => hnew ?_
      rw [htext, ← hnames, ← of_decide_eq_true heq]
      exact List.mem_map_of_mem (f := fun e : String × Tree => some e.1) hmem
    refine ⟨(name, e.2) :: given, ?_, ?_⟩
    · rw [List.foldrM_cons, hgiven]
      simp [Tree.addField?, htext, hname, hfresh]
    · rw [List.map_cons, List.map_cons, hnames, htext]

/-- **Every field of a record is found, whatever the order of its entries.** -/
theorem WritesRecord.exists_fields (h : WritesRecord fields t)
    (hnodup : (fields.map WrittenField.name).Nodup) :
    ∃ given, t.fields? (fields.map WrittenField.name) = some given ∧
      ∀ f ∈ fields, f.Found (given.lookup f.name) := by
  cases h with
  | @mapping tag written entries _ writes order =>
    -- what is found does not depend on the order, since no name is there twice
    have hnodup' : (entries.map nameOf?).Nodup := by
      refine (order.map nameOf?).nodup_iff.mpr (writes.names_sublist.nodup ?_)
      have hsome := List.Nodup.map (Option.some_injective String) hnodup
      rwa [List.map_map] at hsome
    obtain ⟨given, hgiven, hnames⟩ := exists_foldrM (fields.map WrittenField.name)
      (fun e hmem => writes.name_mem (order.mem_iff.mp hmem)) hnodup'
    refine ⟨given, hgiven, fun f hf => ?_⟩
    rcases writes.written_or_omitted hnodup f hf with ⟨e, hmem, hname, hvalue⟩ | ⟨homit, hnone⟩
    · obtain ⟨name, -, htext, hlookup⟩ :=
        Tree.lookup_of_foldrM hgiven e (order.mem_iff.mpr hmem)
      rw [← Option.some.inj (htext.symm.trans hname), hlookup]
      exact hvalue
    · have hlookup : given.lookup f.name = none := by
        refine List.lookup_eq_none_iff.mpr fun e hmem => bne_iff_ne.mpr fun heq => ?_
        have hmem' : some e.1 ∈ entries.map nameOf? := by
          rw [← hnames]
          exact List.mem_map_of_mem (f := fun e : String × Tree => some e.1) hmem
        obtain ⟨e', he', hname⟩ := List.mem_map.mp hmem'
        exact hnone e' (order.mem_iff.mp he') (heq ▸ hname)
      rw [hlookup]
      exact homit

/-- A record is written if each of its fields is. -/
theorem WritesRecord.exists_of_fields (h : ∀ f ∈ fields, ∃ t, f.writes t) :
    ∃ t, WritesRecord fields t := by
  have hentries : ∃ entries, WritesFields fields entries := by
    induction fields with
    | nil => exact ⟨[], .nil⟩
    | cons f fields ih =>
      obtain ⟨key, hkey⟩ := Writing.exists_text f.name
      obtain ⟨value, hvalue⟩ := h f List.mem_cons_self
      obtain ⟨entries, hentries⟩ := ih fun f' hmem => h f' (List.mem_cons_of_mem _ hmem)
      exact ⟨(key, value) :: entries, .written hkey hvalue hentries⟩
  obtain ⟨entries, hentries⟩ := hentries
  exact ⟨.mapping none entries, .mapping rfl hentries (List.Perm.refl _)⟩

namespace WrittenField

variable {a default : α} {found : Option Tree}

theorem Found.bind_eq_some (h : (required name w a).Found found)
    (hread : ∀ t, w a t → read t = some a) : found.bind read = some a := by
  cases found with
  | none => cases h
  | some t => exact hread t h

theorem Found.fieldOr?_eq_some (h : (defaulted name w a default).Found (given.lookup name))
    (hread : ∀ t, w a t → read t = some a) : Tree.fieldOr? given name default read = some a := by
  unfold Tree.fieldOr?
  cases hlookup : given.lookup name with
  | none =>
    rw [hlookup] at h
    exact congrArg some (Eq.symm h)
  | some t =>
    rw [hlookup] at h
    exact hread t h

end WrittenField

end Conformance.Yaml
