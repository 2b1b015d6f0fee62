import Conformance.Proofs.Yaml.Keys
import Conformance.Scenario.Reader
import Mathlib.Data.List.Forall2

/-!
# Keys of checks

A check takes its kind and its fields from a mapping and passes over entries under other names.

* `FieldData`, `FieldValue` : values that have keys at most as a field allows it;
* `namedKind?`, `ofEntries?`, `ofData?_map` : a check is read from the kind that is named and from
  the values of its fields;
* `declaredForm` : a check without what is passed over;
* `ofTree?_declaredForm` : it is read as before;
* `declared_of_ofTree?`, `Declared.declaredForm_eq` : it has declared keys only if it is read, and it
  is the check itself if this has declared keys only.
-/

namespace Conformance

open Yaml

variable {t key value : Tree} {entry : Tree × Tree} {entries : List (Tree × Tree)}
  {kvs : List (Key × Data)} {d : Data} {field : String}

namespace Check

variable {kind : Kind} {c : Check}

/-! ## The fields of a check -/

/-- Data that has keys at most as a field of a check allows it: the format of an artifact may be
written as a mapping from it to nothing. -/
def FieldData (field : String) (d : Data) : Prop :=
  d.Keyless ∨ field = "artifact" ∧ ∃ key payload format, d = .map [(key, payload)] ∧
    Data.memberOf? ArtifactKind.all ArtifactKind.name key = some format ∧ payload.Keyless

/-- The same for a tree. -/
def FieldValue (field : String) (value : Tree) : Prop :=
  value.Keyless ∨ field = "artifact" ∧ value.Entries fun key payload => payload.Keyless ∧
    ∃ format, key.key?.bind (Data.memberOf? ArtifactKind.all ArtifactKind.name) = some format

theorem fieldValue_of_toData? (hd : FieldData field d) (h : value.toData? = some d) :
    FieldValue field value := by
  rcases hd with hd | ⟨hfield, key, payload, format, rfl, hformat, hpayload⟩
  · exact .inl (keyless_of_toData? hd h)
  · refine .inr ⟨hfield, ?_⟩
    cases value with
    | mapping tag entries =>
      obtain ⟨es, hes, heq⟩ := exists_of_toData?_mapping h
      cases heq
      obtain ⟨written, value, rfl, hkey, hvalue⟩ := eq_of_entriesData?_singleton hes
      intro entry hmem
      rw [List.mem_singleton.mp hmem]
      exact ⟨keyless_of_toData? hpayload hvalue, format, by rw [hkey]; exact hformat⟩
    | void => exact .void
    | scalar tag value style => exact .scalar tag value style
    | sequence tag items =>
      obtain ⟨ds, -, hds⟩ := exists_of_toData?_sequence h
      cases hds

theorem fieldData_of_unit? {format : ArtifactKind}
    (h : d.unit? ArtifactKind.all ArtifactKind.name Data.isEmptyMap = some format) :
    FieldData "artifact" d := by
  unfold Data.unit? at h
  split at h
  · exact .inl (Data.keyless_text _)
  · exact .inr ⟨rfl, _, _, format, rfl, h, Data.keyless_null⟩
  · split at h
    · rename_i hnothing
      exact .inr ⟨rfl, _, _, format, rfl, h, Data.keyless_of_isEmptyMap hnothing⟩
    · cases h
  · cases h

theorem fieldData_of_path? {path : Option Data} {p : Option Path}
    (h : (path.map (Data.optional? Plan.path?)).getD (some none) = some p) :
    ∀ d, path = some d → FieldData field d := by
  rintro d rfl
  refine .inl (Data.keyless_of_optional? (fun a ha => ?_) h)
  obtain ⟨s, hs, -⟩ := Option.map_eq_some_iff.mp ha
  exact Data.keyless_of_text? hs

/-- The values of fields fit them. -/
def FitsAll (fields : List String) (values : List (Option Data)) : Prop :=
  List.Forall₂ (fun field value => ∀ d, value = some d → FieldData field d) fields values

theorem fitsAll_of_bind {written : Option Data} {next : Data → Option Check}
    (h : written.bind next = some c) (hnext : ∀ d, next d = some c → FieldData field d) :
    FitsAll [field] [written] := by
  refine .cons ?_ .nil
  rintro d rfl
  exact hnext d h

theorem fitsAll_of_ofValues? {values : List (Option Data)} (h : ofValues? kind values = some c) :
    FitsAll kind.fields values := by
  have htext : ∀ {field} {s : String} {d : Data}, d.text? = some s → FieldData field d :=
    fun h => .inl (Data.keyless_of_text? h)
  unfold ofValues? at h
  -- the kinds in the order in which they are read; those with nothing but a path come last
  split at h
  case h_1 =>
    refine fitsAll_of_bind h fun d hd => ?_
    obtain ⟨code, hcode, -⟩ := Option.bind_eq_some_iff.mp hd
    exact .inl (Data.keyless_of_intIn? hcode)
  case h_2 =>
    refine fitsAll_of_bind h fun d hd => ?_
    obtain ⟨tokens, htokens, -⟩ := Option.bind_eq_some_iff.mp hd
    exact .inl (Data.keyless_of_listOf? (fun _ _ => Data.keyless_of_text?) htokens)
  case h_3 =>
    refine fitsAll_of_bind h fun d hd => ?_
    obtain ⟨text, hread, -⟩ := Option.bind_eq_some_iff.mp hd
    exact htext hread
  case h_4 =>
    refine fitsAll_of_bind h fun d hd => ?_
    obtain ⟨text, hread, -⟩ := Option.bind_eq_some_iff.mp hd
    exact htext hread
  case h_7 =>
    refine fitsAll_of_bind h fun d hd => ?_
    obtain ⟨name, hname, -⟩ := Option.bind_eq_some_iff.mp hd
    obtain ⟨text, hread, -⟩ := Option.map_eq_some_iff.mp hname
    exact htext hread
  case h_9 =>
    obtain ⟨written, hwritten, h⟩ := Option.bind_eq_some_iff.mp h
    obtain ⟨format, hformat, h⟩ := Option.bind_eq_some_iff.mp h
    obtain ⟨path, hpath, -⟩ := Option.bind_eq_some_iff.mp h
    refine .cons (fun d hd => ?_) (.cons (fieldData_of_path? hpath) .nil)
    rw [hwritten] at hd
    cases hd
    exact fieldData_of_unit? hformat
  case h_11 =>
    refine fitsAll_of_bind h fun d hd => ?_
    obtain ⟨millis, hmillis, -⟩ := Option.bind_eq_some_iff.mp hd
    exact .inl (Data.keyless_of_word64? hmillis)
  case h_12 => cases h
  all_goals
    obtain ⟨path, hpath, -⟩ := Option.map_eq_some_iff.mp h
    exact .cons (fieldData_of_path? hpath) .nil

/-! ## The entries of a check -/

theorem check_not_mem_fields (kind : Kind) : "check" ∉ kind.fields := by
  cases kind <;> decide

/-- The value of an entry under `check`. -/
def tag? (e : Key × Data) : Option Data := if e.1 = .name "check" then some e.2 else none

/-- The value of an entry under a key that stands for a field. -/
def under? (fields : List String) (field : String) (e : Key × Data) : Option Data :=
  if fieldOf? fields e.1 = some field then some e.2 else none

/-- The value that is given at most once. -/
def sole? : List Data → Option (Option Data)
  | [] => some none
  | [d] => some (some d)
  | _ => none

theorem filterMap_ite {α β : Type} (p : α → Prop) [DecidablePred p] (f : α → β) (as : List α) :
    (as.filterMap fun a => if p a then some (f a) else none) = (as.filter fun a => p a).map f := by
  induction as with
  | nil => rfl
  | cons a as ih => by_cases h : p a <;> simp [h, ih]

theorem valueOf?_eq (kvs : List (Key × Data)) :
    valueOf? kind.fields (kvs.filter fun e => !decide (e.1 = .name "check")) field =
      sole? (kvs.filterMap (under? kind.fields field)) := by
  have hfilter : ((kvs.filter fun e => !decide (e.1 = .name "check")).filter fun e =>
      fieldOf? kind.fields e.1 = some field) =
        kvs.filter fun e => fieldOf? kind.fields e.1 = some field := by
    rw [List.filter_filter]
    refine List.filter_congr fun e _ => ?_
    by_cases h : e.1 = .name "check"
    · simp [h, fieldOf?, check_not_mem_fields]
    · simp [h]
  unfold valueOf? under?
  rw [hfilter, filterMap_ite (fun e : Key × Data => fieldOf? kind.fields e.1 = some field)]
  generalize (kvs.filter fun e => decide (fieldOf? kind.fields e.1 = some field)) = given
  rcases given with _ | ⟨e, _ | ⟨e', given⟩⟩ <;> rfl

/-- The check of a kind with given entries. A key that is no name and no position is refused. -/
def ofEntries? (kvs : List (Key × Data)) (kind : Kind) : Option Check :=
  if kvs.any fun e => e.1 = .other then none
  else (kind.fields.mapM fun field => sole? (kvs.filterMap (under? kind.fields field))).bind
    (ofValues? kind)

/-- The kind that the only entry under `check` names. -/
def namedKind? (kvs : List (Key × Data)) : Option Kind :=
  match kvs.filterMap tag? with
  | [tag] => tag.text?.bind Kind.ofName?
  | _ => none

/-- A check is read from the kind under `check` and from the values of its fields. -/
theorem ofData?_map (kvs : List (Key × Data)) :
    ofData? (.map kvs) = (namedKind? kvs).bind (ofEntries? kvs) := by
  have htag : kvs.filterMap tag? = (kvs.filter fun e => decide (e.1 = .name "check")).map (·.2) :=
    filterMap_ite (fun e : Key × Data => e.1 = .name "check") (·.2) kvs
  have hother : ((kvs.filter fun e => !decide (e.1 = .name "check")).any fun e => e.1 = .other) =
      kvs.any fun e => e.1 = .other := by
    rw [List.any_filter]
    congr 1
    funext e
    by_cases h : e.1 = .name "check" <;> simp [h]
  have hvalues : ∀ kind : Kind,
      kind.fields.mapM (valueOf? kind.fields (kvs.filter fun e => !decide (e.1 = .name "check"))) =
        kind.fields.mapM fun field => sole? (kvs.filterMap (under? kind.fields field)) :=
    fun kind => congrArg (kind.fields.mapM ·) (funext fun field => valueOf?_eq kvs)
  have hpartition : kvs.partition (fun e => decide (e.1 = .name "check")) =
      (kvs.filter fun e => decide (e.1 = .name "check"),
        kvs.filter fun e => !decide (e.1 = .name "check")) := List.partition_eq_filter_filter
  simp only [ofData?, hpartition, namedKind?]
  rw [htag]
  -- only with one entry under the name of the kind is anything read at all
  generalize (kvs.filter fun e => decide (e.1 = .name "check")) = tags
  rcases tags with _ | ⟨⟨key, tag⟩, _ | ⟨e', tags⟩⟩
  · rfl
  · show _ = (tag.text?.bind Kind.ofName?).bind (ofEntries? kvs)
    rw [Option.bind_assoc]
    refine Option.bind_congr fun name _ => Option.bind_congr fun kind _ => ?_
    rw [hother, hvalues, ofEntries?]
    split <;> rfl
  · rfl

theorem mem_fields_of_fieldOf? {fields : List String} {key : Key}
    (h : fieldOf? fields key = some field) : field ∈ fields := by
  cases key with
  | name s =>
    simp only [fieldOf?, List.contains_iff_mem, Option.ite_none_right_eq_some,
      Option.some.injEq] at h
    exact h.2 ▸ h.1
  | position n => exact List.mem_of_getElem? h
  | other => cases h

theorem eq_of_sole? {ds : List Data} {written : Option Data} (h : sole? ds = some written)
    (hmem : d ∈ ds) : written = some d := by
  unfold sole? at h
  split at h
  · cases hmem
  · rw [List.mem_singleton.mp hmem, ← Option.some.inj h]
  · cases h

theorem exists_of_mapM_forall₂ {α β : Type} {g : α → Option β} {R : α → β → Prop} {as : List α}
    {bs : List β} (h : as.mapM g = some bs) (hR : List.Forall₂ R as bs) :
    ∀ a ∈ as, ∃ b, g a = some b ∧ R a b := by
  induction hR with
  | nil => simp
  | cons hab _ ih =>
    rw [List.mapM_cons] at h
    obtain ⟨b, hb, h⟩ := Option.bind_eq_some_iff.mp h
    obtain ⟨bs, hbs, h⟩ := Option.bind_eq_some_iff.mp h
    cases h
    intro a' ha'
    rcases List.mem_cons.mp ha' with rfl | ha'
    · exact ⟨_, hb, hab⟩
    · exact ih hbs a' ha'

theorem fieldData_of_ofEntries? {key : Key} (h : ofEntries? kvs kind = some c) (hmem : (key, d) ∈ kvs)
    (hfield : fieldOf? kind.fields key = some field) : FieldData field d := by
  unfold ofEntries? at h
  split at h
  · cases h
  · obtain ⟨values, hvalues, hcheck⟩ := Option.bind_eq_some_iff.mp h
    obtain ⟨written, hsole, hdata⟩ :=
      exists_of_mapM_forall₂ hvalues (fitsAll_of_ofValues? hcheck) field
        (mem_fields_of_fieldOf? hfield)
    refine hdata d (eq_of_sole? hsole (List.mem_filterMap.mpr ⟨(key, d), hmem, ?_⟩))
    rw [under?, if_pos hfield]

theorem ne_other_of_ofEntries? {key : Key} (h : ofEntries? kvs kind = some c)
    (hmem : (key, d) ∈ kvs) : key ≠ .other := by
  rintro rfl
  unfold ofEntries? at h
  rw [if_pos (List.any_eq_true.mpr ⟨_, hmem, decide_eq_true rfl⟩)] at h
  cases h

/-! ## What is passed over -/

/-- An entry as a check of a kind takes it: a field may be given by its position, and names and
positions of nothing are passed over. -/
def declaredData? (kind : Kind) : Key × Data → Option (Key × Data)
  | (.name s, d) => if s = "check" ∨ s ∈ kind.fields then some (.name s, d) else none
  | (.position n, d) => kind.fields[n]?.map fun field => (.name field, d)
  | (.other, d) => some (.other, d)

theorem declaredData?_bind_tag? (kind : Kind) (e : Key × Data) :
    (declaredData? kind e).bind tag? = tag? e := by
  obtain ⟨key, d⟩ := e
  cases key with
  | name s =>
    by_cases hs : s = "check" ∨ s ∈ kind.fields
    · simp [declaredData?, hs]
    · obtain ⟨hcheck, -⟩ := not_or.mp hs
      simp [declaredData?, tag?, hcheck]
  | position n =>
    cases hfield : kind.fields[n]? with
    | none => simp [declaredData?, hfield, tag?]
    | some field =>
      have hne : field ≠ "check" :=
        fun heq => check_not_mem_fields kind (heq ▸ List.mem_of_getElem? hfield)
      simp [declaredData?, hfield, tag?, hne]
  | other => rfl

theorem declaredData?_bind_under? (kind : Kind) (field : String) (e : Key × Data) :
    (declaredData? kind e).bind (under? kind.fields field) = under? kind.fields field e := by
  obtain ⟨key, d⟩ := e
  cases key with
  | name s =>
    by_cases hs : s = "check" ∨ s ∈ kind.fields
    · simp [declaredData?, hs]
    · obtain ⟨-, hunknown⟩ := not_or.mp hs
      simp [declaredData?, under?, fieldOf?, hunknown]
  | position n =>
    cases hfield : kind.fields[n]? with
    | none => simp [declaredData?, hfield, under?, fieldOf?]
    | some other =>
      simp [declaredData?, hfield, under?, fieldOf?, List.mem_of_getElem? hfield]
  | other => rfl

theorem any_declaredData? (kind : Kind) (e : Key × Data) :
    (declaredData? kind e).any (fun e => e.1 = .other) = decide (e.1 = .other) := by
  obtain ⟨key, d⟩ := e
  cases key with
  | name s => by_cases hs : s = "check" ∨ s ∈ kind.fields <;> simp [declaredData?, hs]
  | position n => cases hfield : kind.fields[n]? <;> simp [declaredData?, hfield]
  | other => rfl

theorem namedKind?_declared (kind : Kind) (kvs : List (Key × Data)) :
    namedKind? (kvs.filterMap (declaredData? kind)) = namedKind? kvs := by
  unfold namedKind?
  rw [List.filterMap_filterMap, funext (declaredData?_bind_tag? kind)]

theorem ofEntries?_declared (kind : Kind) (kvs : List (Key × Data)) :
    ofEntries? (kvs.filterMap (declaredData? kind)) kind = ofEntries? kvs kind := by
  have hother : (kvs.filterMap (declaredData? kind)).any (fun e => e.1 = .other) =
      kvs.any fun e => e.1 = .other := by
    rw [List.any_filterMap]
    congr 1
    funext e
    rw [← any_declaredData? kind e]
    cases declaredData? kind e <;> rfl
  unfold ofEntries?
  simp only [hother, List.filterMap_filterMap, funext (declaredData?_bind_under? kind _)]

/-! ## Checks with declared keys -/

/-- The entry of a check in a tree, as `declaredData?` takes it in data. An entry that cannot be read
stays. -/
def declared? (kind : Kind) (entry : Tree × Tree) : Option (Tree × Tree) :=
  match entry? entry with
  | some (.name s, _) => if s = "check" ∨ s ∈ kind.fields then some entry else none
  | some (.position n, _) =>
    kind.fields[n]?.map fun field => (.scalar none field .plain, entry.2)
  | some (.other, _) => some entry
  | none => some entry

/-- A check without what is passed over, its fields given by name. -/
def declaredForm : Tree → Tree
  | .mapping tag entries =>
    match namedKind? (entries.filterMap entry?) with
    | some kind => .mapping tag (entries.filterMap (declared? kind))
    | none => .mapping tag entries
  | t => t

/-- The keys of an entry are declared: `check`, or the name of a field of the kind. -/
def DeclaredEntry (kind : Option Kind) (key value : Tree) : Prop :=
  key.key? = some (.name "check") ∧ value.Keyless ∨
    ∃ k field, kind = some k ∧ field ∈ k.fields ∧ key.key? = some (.name field) ∧
      FieldValue field value

/-- The keys of a check are declared. As a sequence, it has values only. -/
def Declared : Tree → Prop
  | .mapping _ entries =>
    ∀ entry ∈ entries, DeclaredEntry (namedKind? (entries.filterMap entry?)) entry.1 entry.2
  | .sequence _ (first :: rest) =>
    first.Keyless ∧ ∃ kind : Kind, first.text? = some kind.name ∧
      List.Forall₂ FieldValue kind.fields rest
  | t => t.Keyless

theorem key?_field : ∀ kind : Kind, ∀ field ∈ kind.fields,
    (Tree.scalar none field .plain).key? = some (.name field) := by
  intro kind
  cases kind <;> decide +kernel

theorem entry?_eq (key value : Tree) : entry? (key, value) = key.key?.bind fun k =>
    (if k = .name "check" then value.text?.map .text else value.toData?).map fun d => (k, d) := by
  unfold entry? Tree.key?
  cases key.toData? with
  | none => rfl
  | some d =>
    show (if keyOf key d = .name "check" then _ else _) = _
    rw [Option.map_some, Option.bind_some]
    split
    · cases value.text? <;> rfl
    · cases value.toData? <;> rfl

theorem toData?_of_read {key : Key} (h : entry? entry = some (key, d)) (hne : key ≠ .name "check") :
    entry.1.key? = some key ∧ entry.2.toData? = some d := by
  rw [entry?_eq] at h
  obtain ⟨k, hk, h⟩ := Option.bind_eq_some_iff.mp h
  obtain ⟨d', hd, heq⟩ := Option.map_eq_some_iff.mp h
  cases heq
  rw [if_neg hne] at hd
  exact ⟨hk, hd⟩

theorem text?_of_read (h : entry? entry = some (.name "check", d)) :
    entry.1.key? = some (.name "check") ∧ ∃ s, entry.2.text? = some s := by
  rw [entry?_eq] at h
  obtain ⟨k, hk, h⟩ := Option.bind_eq_some_iff.mp h
  obtain ⟨d', hd, heq⟩ := Option.map_eq_some_iff.mp h
  cases heq
  rw [if_pos rfl] at hd
  obtain ⟨s, hs, -⟩ := Option.map_eq_some_iff.mp hd
  exact ⟨hk, s, hs⟩

/-- An entry that can be read is passed over, or is read as its data are taken. -/
theorem declared?_of_read {e : Key × Data} (kind : Kind) (h : entry? entry = some e) :
    (declared? kind entry = none ∧ declaredData? kind e = none) ∨
      ∃ entry' e', declared? kind entry = some entry' ∧ declaredData? kind e = some e' ∧
        entry? entry' = some e' := by
  obtain ⟨key, d⟩ := e
  unfold declared?
  rw [h]
  cases key with
  | name s =>
    by_cases hs : s = "check" ∨ s ∈ kind.fields
    · exact .inr ⟨entry, (.name s, d), if_pos hs, if_pos hs, h⟩
    · exact .inl ⟨if_neg hs, if_neg hs⟩
  | position n =>
    obtain ⟨-, hvalue⟩ := toData?_of_read h nofun
    simp only [declaredData?]
    cases hfield : kind.fields[n]? with
    | none => exact .inl ⟨rfl, rfl⟩
    | some field =>
      have hmem : field ∈ kind.fields := List.mem_of_getElem? hfield
      have hne : Key.name field ≠ .name "check" :=
        fun heq => check_not_mem_fields kind (Key.name.inj heq ▸ hmem)
      refine .inr ⟨_, (.name field, d), rfl, rfl, ?_⟩
      rw [entry?_eq, key?_field kind field hmem, Option.bind_some, if_neg hne, hvalue, Option.map_some]
  | other => exact .inr ⟨entry, (.other, d), rfl, rfl, h⟩

theorem mapM_entry?_declared (kind : Kind) (entries : List (Tree × Tree)) :
    (entries.filterMap (declared? kind)).mapM entry? =
      (entries.mapM entry?).map (List.filterMap (declaredData? kind)) := by
  induction entries with
  | nil => rfl
  | cons entry entries ih =>
    cases hentry : entry? entry with
    | none =>
      have hstays : declared? kind entry = some entry := by
        unfold declared?
        rw [hentry]
      rw [List.filterMap_cons_some hstays, List.mapM_cons, List.mapM_cons, hentry]
      rfl
    | some e =>
      rw [List.mapM_cons, hentry]
      rcases declared?_of_read kind hentry with ⟨hentry', he'⟩ | ⟨entry', e', hentry', he', hread⟩
      · rw [List.filterMap_cons_none hentry', ih]
        cases entries.mapM entry? with
        | none => rfl
        | some kvs => exact congrArg some (List.filterMap_cons_none he').symm
      · rw [List.filterMap_cons_some hentry', List.mapM_cons, hread, ih]
        cases entries.mapM entry? with
        | none => rfl
        | some kvs => exact congrArg some (List.filterMap_cons_some he').symm

theorem filterMap_of_mapM {α β : Type} {g : α → Option β} {as : List α} {bs : List β}
    (h : as.mapM g = some bs) : as.filterMap g = bs := by
  induction as generalizing bs with
  | nil =>
    cases h
    rfl
  | cons a as ih =>
    rw [List.mapM_cons] at h
    obtain ⟨b, hb, h⟩ := Option.bind_eq_some_iff.mp h
    obtain ⟨bs, hbs, h⟩ := Option.bind_eq_some_iff.mp h
    cases h
    rw [List.filterMap_cons_some hb, ih hbs]

theorem ofTree?_mapping (tag : Option String) (entries : List (Tree × Tree)) :
    ofTree? (.mapping tag entries) = if isLocalTag tag then none else
      (entries.mapM entry?).bind fun kvs => (namedKind? kvs).bind (ofEntries? kvs) := by
  rw [ofTree?]
  split
  · rfl
  · exact congrArg (Option.bind _) (funext ofData?_map)

/-- **What is passed over makes no difference.** -/
theorem ofTree?_declaredForm (t : Tree) : ofTree? (declaredForm t) = ofTree? t := by
  cases t with
  | mapping tag entries =>
    cases hkind : namedKind? (entries.filterMap entry?) with
    | none => simp only [declaredForm, hkind]
    | some kind =>
      simp only [declaredForm, hkind]
      rw [ofTree?_mapping, ofTree?_mapping, mapM_entry?_declared, Option.bind_map]
      refine ite_congr rfl (fun _ => rfl) fun _ => Option.bind_congr fun kvs hkvs => ?_
      rw [filterMap_of_mapM hkvs] at hkind
      show (namedKind? (kvs.filterMap (declaredData? kind))).bind _ = _
      rw [namedKind?_declared, hkind]
      exact ofEntries?_declared kind kvs
  | void => rfl
  | scalar tag value style => rfl
  | sequence tag items => rfl

theorem Kind.name_of_ofName? {s : String} (h : Kind.ofName? s = some kind) : kind.name = s := by
  have := List.find?_some h
  simpa using this

theorem forall₂_fieldValue {fields : List String} {items : List Tree} {ds : List Data}
    (hds : items.mapM Tree.toData? = some ds) (h : FitsAll fields (ds.map some)) :
    List.Forall₂ FieldValue fields items := by
  induction items generalizing fields ds with
  | nil =>
    cases hds
    cases h
    exact .nil
  | cons item items ih =>
    rw [List.mapM_cons] at hds
    obtain ⟨d, hd, hds⟩ := Option.bind_eq_some_iff.mp hds
    obtain ⟨ds', hds', heq⟩ := Option.bind_eq_some_iff.mp hds
    cases heq
    cases h with
    | cons hdata htail => exact .cons (fieldValue_of_toData? (hdata d rfl) hd) (ih hds' htail)

/-- What is not passed over of a check that is read is declared. -/
theorem declaredEntry_of_declared? {entry' : Tree × Tree} {key : Key}
    (hcheck : ofEntries? kvs kind = some c) (hmem : (key, d) ∈ kvs)
    (hentry : entry? entry = some (key, d)) (hentry' : declared? kind entry = some entry') :
    DeclaredEntry (some kind) entry'.1 entry'.2 := by
  have hvalue : ∀ field, fieldOf? kind.fields key = some field → key ≠ .name "check" →
      FieldValue field entry.2 := fun field hfield hne =>
    fieldValue_of_toData? (fieldData_of_ofEntries? hcheck hmem hfield) (toData?_of_read hentry hne).2
  unfold declared? at hentry'
  rw [hentry] at hentry'
  cases key with
  | name s =>
    obtain ⟨hs, heq⟩ := Option.ite_none_right_eq_some.mp hentry'
    cases heq
    by_cases hname : s = "check"
    · subst hname
      obtain ⟨hkey, text, htext⟩ := text?_of_read hentry
      exact .inl ⟨hkey, Tree.keyless_of_text? htext⟩
    · have hfield : s ∈ kind.fields := hs.resolve_left hname
      have hne : Key.name s ≠ .name "check" := fun heq => hname (Key.name.inj heq)
      refine .inr ⟨kind, s, rfl, hfield, (toData?_of_read hentry hne).1, hvalue s ?_ hne⟩
      rw [fieldOf?, if_pos (List.contains_iff_mem.mpr hfield)]
  | position n =>
    obtain ⟨field, hfield, heq⟩ := Option.map_eq_some_iff.mp hentry'
    cases heq
    have hmemf : field ∈ kind.fields := List.mem_of_getElem? hfield
    exact .inr ⟨kind, field, rfl, hmemf, key?_field kind field hmemf, hvalue field hfield nofun⟩
  | other => exact absurd rfl (ne_other_of_ofEntries? hcheck hmem)

theorem declared?_of_declaredEntry (h : DeclaredEntry (some kind) entry.1 entry.2) :
    declared? kind entry = some entry := by
  unfold declared?
  cases hread : entry? entry with
  | none => rfl
  | some e =>
    obtain ⟨key, d⟩ := e
    cases key with
    | name s =>
      refine if_pos ?_
      by_cases hs : s = "check"
      · exact .inl hs
      · have hkey := (toData?_of_read hread fun heq => hs (Key.name.inj heq)).1
        rcases h with ⟨hcheck, -⟩ | ⟨k, field, hk, hmem, hfield, -⟩
        · rw [hkey] at hcheck
          cases hcheck
          exact .inl rfl
        · rw [hkey] at hfield
          cases hfield
          cases hk
          exact .inr hmem
    | position n =>
      -- a position is the key of no declared entry
      have hkey := (toData?_of_read hread nofun).1
      rcases h with ⟨hcheck, -⟩ | ⟨k, field, hk, hmem, hfield, -⟩
      · rw [hkey] at hcheck
        cases hcheck
      · rw [hkey] at hfield
        cases hfield
    | other => rfl

/-- A check that is read has declared keys, but for what is passed over. -/
theorem declared_of_ofTree? (h : ofTree? t = some c) : Declared (declaredForm t) := by
  cases t with
  | mapping tag entries =>
    rw [ofTree?_mapping] at h
    split at h
    · cases h
    obtain ⟨kvs, hkvs, h⟩ := Option.bind_eq_some_iff.mp h
    obtain ⟨kind, hkind, hcheck⟩ := Option.bind_eq_some_iff.mp h
    have hread := filterMap_of_mapM hkvs
    have hform : declaredForm (.mapping tag entries) =
        .mapping tag (entries.filterMap (declared? kind)) := by
      simp only [declaredForm, hread, hkind]
    have hnamed : namedKind? ((entries.filterMap (declared? kind)).filterMap entry?) = some kind := by
      have hmapM := mapM_entry?_declared kind entries
      rw [hkvs] at hmapM
      rw [filterMap_of_mapM hmapM, namedKind?_declared, hkind]
    rw [hform]
    intro entry' hmem'
    rw [hnamed]
    obtain ⟨entry, hmem, hentry'⟩ := List.mem_filterMap.mp hmem'
    obtain ⟨⟨key, d⟩, hentry, hmemd⟩ := exists_of_mem_mapM hkvs entry hmem
    exact declaredEntry_of_declared? hcheck hmemd hentry hentry'
  | void => cases h
  | scalar tag value style => cases h
  | sequence tag items =>
    cases items with
    | nil => cases h
    | cons first rest =>
      rw [ofTree?] at h
      split at h
      · cases h
      obtain ⟨text, htext, h⟩ := Option.bind_eq_some_iff.mp h
      obtain ⟨ds, hds, h⟩ := Option.bind_eq_some_iff.mp h
      obtain ⟨kind, hkind, h⟩ := Option.bind_eq_some_iff.mp h
      refine ⟨Tree.keyless_of_text? htext, kind, by rw [htext, Kind.name_of_ofName? hkind], ?_⟩
      rw [itemsData?_eq] at hds
      exact forall₂_fieldValue hds (fitsAll_of_ofValues? h)

/-- Nothing is passed over where all keys are declared. -/
theorem Declared.declaredForm_eq (h : Declared t) : declaredForm t = t := by
  cases t with
  | mapping tag entries =>
    cases hkind : namedKind? (entries.filterMap entry?) with
    | none => simp only [declaredForm, hkind]
    | some kind =>
      have hstays : ∀ entry ∈ entries, declared? kind entry = some entry := by
        intro entry hmem
        have hentry := h entry hmem
        rw [hkind] at hentry
        exact declared?_of_declaredEntry hentry
      simp only [declaredForm, hkind]
      rw [List.filterMap_congr hstays, List.filterMap_some]
  | void => rfl
  | scalar tag value style => rfl
  | sequence tag items => rfl

end Check

end Conformance
