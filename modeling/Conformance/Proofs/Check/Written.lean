import Conformance.Proofs.Check.Keys
import Conformance.Proofs.Yaml.Written
import Mathlib.Data.List.Perm.Basic

/-!
# Trees that write checks

* `Check.written`, `Check.Writes` : the fields of a check, and the mappings that write it;
* `ofTree?_perm` : a check is read the same in any order of its entries;
* `Gives`, `ofData?_of_gives` : a check is read from its values, where a null may be left out;
* `ofTree?_of_writes` : a check is read from every tree that writes it.
-/

namespace Conformance

open Yaml

open scoped List

namespace Check

variable {t : Tree} {c : Check} {kind : Kind} {kvs kvs' given : List (Key × Data)}
  {entries entries' : List (Tree × Tree)} {fields : List WrittenField} {ds : List (String × Data)}
  {field : String} {d : Data}

/-- An optional path. -/
abbrev writtenPath (path : Option Path) : WrittenField :=
  .defaulted "path" (Writing.Optional (Writing.Named Path.text)) path none

/-- The fields of a check as they are written, without its kind. -/
def written : Check → List WrittenField
  | .exitCode code => [.required "code" Writing.Integer code]
  | .argvContains tokens => [.required "tokens" (Writing.Items Writing.Text) tokens]
  | .stdoutContains text => [.required "text" Writing.Text text]
  | .stderrContains text => [.required "text" Writing.Text text]
  | .outputExists path => [writtenPath path]
  | .outputAbsent path => [writtenPath path]
  | .outputName name => [.required "name" (Writing.Named Path.text) name]
  | .outputNonempty path => [writtenPath path]
  | .outputKind artifact path =>
    [.required "artifact" (Writing.Named ArtifactKind.name) artifact, writtenPath path]
  | .nativeBinary path => [writtenPath path]
  | .succeededWithin millis => [.required "millis" Writing.Word millis]

/-- The mappings that write a check: its kind under `check` and its fields, in any order. -/
def Writes (c : Check) : Tree → Prop :=
  WritesRecord (.required "check" (Writing.Named Kind.name) c.kind :: c.written)

/-- The numbers of a check have the sizes of their types. -/
def Sized : Check → Prop
  | .exitCode code => Data.int32Min ≤ code ∧ code ≤ Data.int32Max
  | .succeededWithin millis => millis < UInt64.size
  | _ => True

/-! ## Order -/

theorem sole?_perm {ds ds' : List Data} (h : ds ~ ds') : sole? ds = sole? ds' := by
  rcases ds with _ | ⟨d, _ | ⟨d', ds⟩⟩
  · rw [List.nil_perm.mp h]
  · rw [List.singleton_perm.mp h]
  · have hlength := h.length_eq
    rcases ds' with _ | ⟨e, _ | ⟨e', ds'⟩⟩
    · cases hlength
    · cases hlength
    · rfl

theorem namedKind?_perm (h : kvs ~ kvs') : namedKind? kvs = namedKind? kvs' := by
  have hsole : ∀ kvs : List (Key × Data), namedKind? kvs =
      ((sole? (kvs.filterMap tag?)).bind id).bind fun tag => tag.text?.bind Kind.ofName? := by
    intro kvs
    unfold namedKind?
    rcases kvs.filterMap tag? with _ | ⟨d, _ | ⟨d', ds⟩⟩ <;> rfl
  rw [hsole, hsole, sole?_perm (h.filterMap tag?)]

theorem ofEntries?_perm (h : kvs ~ kvs') : ofEntries? kvs kind = ofEntries? kvs' kind := by
  have hvalues : (fun field => sole? (kvs.filterMap (under? kind.fields field))) =
      fun field => sole? (kvs'.filterMap (under? kind.fields field)) :=
    funext fun field => sole?_perm (h.filterMap _)
  rw [ofEntries?, ofEntries?, h.any_eq, hvalues]

theorem ofData?_perm (h : kvs ~ kvs') : ofData? (.map kvs) = ofData? (.map kvs') := by
  rw [ofData?_map, ofData?_map, namedKind?_perm h]
  exact Option.bind_congr fun kind _ => ofEntries?_perm h

/-- A check does not depend on the order of its entries. -/
theorem ofTree?_perm {tag : Option String} (h : entries ~ entries')
    (hread : ofTree? (.mapping tag entries') = some c) : ofTree? (.mapping tag entries) = some c := by
  rw [ofTree?] at hread ⊢
  split at hread
  · cases hread
  · rename_i hshared
    obtain ⟨kvs', hkvs', hcheck⟩ := Option.bind_eq_some_iff.mp hread
    obtain ⟨kvs, hkvs, hperm⟩ := List.perm_comp_forall₂ h (mapM_eq_some_iff.mp hkvs')
    rw [if_neg hshared, mapM_eq_some_iff.mpr hkvs]
    exact (ofData?_perm hperm).trans hcheck

/-! ## Values -/

/-- Entries that give values to fields in order, where a null may be left out. -/
inductive Gives : List (String × Data) → List (Key × Data) → Prop
  | nil : Gives [] []
  | omitted {field : String} {ds : List (String × Data)} {given : List (Key × Data)}
    (rest : Gives ds given) : Gives ((field, .null) :: ds) given
  | given {field : String} {d : Data} {ds : List (String × Data)} {given : List (Key × Data)}
    (rest : Gives ds given) : Gives ((field, d) :: ds) ((.name field, d) :: given)

/-- What is given of a value. -/
def GivenValue (d : Data) (given : Option Data) : Prop := given = some d ∨ d = .null ∧ given = none

theorem Gives.name_mem (h : Gives ds given) {e : Key × Data} (hmem : e ∈ given) :
    ∃ field ∈ ds.map Prod.fst, e.1 = .name field := by
  induction h with
  | nil => cases hmem
  | omitted _ ih =>
    obtain ⟨field, hfield, hkey⟩ := ih hmem
    exact ⟨field, List.mem_cons_of_mem _ hfield, hkey⟩
  | given _ ih =>
    rcases List.mem_cons.mp hmem with rfl | hmem
    · exact ⟨_, List.mem_cons_self, rfl⟩
    · obtain ⟨field, hfield, hkey⟩ := ih hmem
      exact ⟨field, List.mem_cons_of_mem _ hfield, hkey⟩

/-- Nothing is given of a field that is not among the given ones. -/
theorem Gives.filterMap_under?_eq_nil (h : Gives ds given) (hnew : field ∉ ds.map Prod.fst)
    (known : List String) : given.filterMap (under? known field) = [] := by
  refine List.filterMap_eq_nil_iff.mpr fun e hmem => if_neg fun heq => hnew ?_
  obtain ⟨name, hname, hkey⟩ := h.name_mem hmem
  rw [hkey, fieldOf?] at heq
  split at heq
  · exact Option.some.inj heq ▸ hname
  · cases heq

/-- Of each field its value is given, or nothing if this is null. -/
theorem Gives.sole?_eq_some (h : Gives ds given) (hnodup : (ds.map Prod.fst).Nodup)
    {known : List String} (hknown : ∀ field ∈ ds.map Prod.fst, field ∈ known) : ∀ e ∈ ds,
      ∃ value, sole? (given.filterMap (under? known e.1)) = some value ∧ GivenValue e.2 value := by
  induction h with
  | nil => simp
  | @omitted field ds given rest ih =>
    obtain ⟨hnew, hnodup⟩ := List.nodup_cons.mp hnodup
    intro e hmem
    rcases List.mem_cons.mp hmem with rfl | hmem
    · exact ⟨none, by rw [rest.filterMap_under?_eq_nil hnew]; rfl, .inr ⟨rfl, rfl⟩⟩
    · exact ih hnodup (fun f hf => hknown f (List.mem_cons_of_mem _ hf)) e hmem
  | @given field d ds given rest ih =>
    obtain ⟨hnew, hnodup⟩ := List.nodup_cons.mp hnodup
    have hfield : fieldOf? known (.name field) = some field :=
      if_pos (List.contains_iff_mem.mpr (hknown field List.mem_cons_self))
    intro e hmem
    rcases List.mem_cons.mp hmem with rfl | hmem
    · have hown : under? known field (.name field, d) = some d := if_pos hfield
      refine ⟨some d, ?_, .inl rfl⟩
      rw [List.filterMap_cons_some hown, rest.filterMap_under?_eq_nil hnew]
      rfl
    · have hne : field ≠ e.1 := by
        intro heq
        have hname := List.mem_map_of_mem (f := Prod.fst) hmem
        rw [← heq] at hname
        exact hnew hname
      have hother : under? known e.1 (.name field, d) = none := by
        rw [under?, hfield, if_neg fun heq => hne (Option.some.inj heq)]
      rw [List.filterMap_cons_none hother]
      exact ih hnodup (fun f hf => hknown f (List.mem_cons_of_mem _ hf)) e hmem

theorem GivenValue.eq_some {value : Option Data} (h : GivenValue d value) (hd : d ≠ .null) :
    value = some d :=
  h.resolve_right fun hnull => hd hnull.1

theorem GivenValue.path {path : Option Path} {value : Option Data}
    (h : GivenValue (pathData path) value) :
    (value.map (Data.optional? Plan.path?)).getD (some none) = some path := by
  cases path with
  | none => rcases h with rfl | ⟨-, rfl⟩ <;> rfl
  | some p =>
    rw [h.eq_some nofun]
    rfl

theorem ofValues?_given (hsized : c.Sized) {values : List (Option Data)}
    (h : List.Forall₂ (fun e value => GivenValue e.2 value) (c.kind.fields.zip c.values) values) :
    ofValues? c.kind values = some c := by
  -- the kinds with one value that is no path, in the order of the constructors; then the others
  cases c with
  | exitCode code =>
    obtain _ | ⟨hcode, _ | _⟩ := h
    rw [hcode.eq_some nofun]
    show ((Data.int code).int32?.bind _) = _
    rw [Data.int32?_int hsized]
    rfl
  | argvContains tokens =>
    obtain _ | ⟨htokens, _ | _⟩ := h
    rw [htokens.eq_some nofun]
    show ((Data.texts tokens).listOf? Data.text?).bind _ = _
    rw [Data.listOf?_texts]
    rfl
  | stdoutContains text =>
    obtain _ | ⟨htext, _ | _⟩ := h
    rw [htext.eq_some nofun]
    rfl
  | stderrContains text =>
    obtain _ | ⟨htext, _ | _⟩ := h
    rw [htext.eq_some nofun]
    rfl
  | outputName name =>
    obtain _ | ⟨hname, _ | _⟩ := h
    rw [hname.eq_some nofun]
    rfl
  | succeededWithin millis =>
    obtain _ | ⟨hmillis, _ | _⟩ := h
    rw [hmillis.eq_some nofun]
    show ((Data.int millis).word64?.bind _) = _
    rw [Data.word64?_int hsized]
    rfl
  | outputKind artifact path =>
    obtain _ | ⟨hartifact, _ | ⟨hpath, _ | _⟩⟩ := h
    rw [hartifact.eq_some nofun]
    show (ArtifactKind.ofName? artifact.name).bind _ = _
    rw [ArtifactKind.ofName?_name, Option.bind_some]
    exact Option.bind_eq_some_iff.mpr ⟨path, hpath.path, rfl⟩
  | outputExists path =>
    obtain _ | ⟨hpath, _ | _⟩ := h
    exact congrArg (Option.map _) hpath.path
  | outputAbsent path =>
    obtain _ | ⟨hpath, _ | _⟩ := h
    exact congrArg (Option.map _) hpath.path
  | outputNonempty path =>
    obtain _ | ⟨hpath, _ | _⟩ := h
    exact congrArg (Option.map _) hpath.path
  | nativeBinary path =>
    obtain _ | ⟨hpath, _ | _⟩ := h
    exact congrArg (Option.map _) hpath.path

theorem nodup_fields (kind : Kind) : kind.fields.Nodup := by
  cases kind <;> decide

theorem map_fst_zip (c : Check) : (c.kind.fields.zip c.values).map Prod.fst = c.kind.fields := by
  cases c <;> rfl

theorem Kind.ofName?_name (kind : Kind) : Kind.ofName? kind.name = some kind := by
  cases kind <;> decide +kernel

theorem check_not_mem_zip (c : Check) : "check" ∉ (c.kind.fields.zip c.values).map Prod.fst := by
  rw [map_fst_zip]
  exact check_not_mem_fields c.kind

theorem Gives.ne_check_and_ne_other (h : Gives ds given) (hcheck : "check" ∉ ds.map Prod.fst) :
    ∀ e ∈ given, e.1 ≠ .name "check" ∧ e.1 ≠ .other := by
  intro e hmem
  obtain ⟨field, hfield, hkey⟩ := h.name_mem hmem
  rw [hkey]
  exact ⟨fun heq => hcheck (Key.name.inj heq ▸ hfield), nofun⟩

/-- The kind is the one under `check`, whatever is given of the fields. -/
theorem Gives.namedKind?_cons (h : Gives ds given) (hcheck : "check" ∉ ds.map Prod.fst) :
    namedKind? ((.name "check", .text kind.name) :: given) = some kind := by
  have htags : given.filterMap tag? = [] :=
    List.filterMap_eq_nil_iff.mpr fun e hmem => if_neg (h.ne_check_and_ne_other hcheck e hmem).1
  have htag : tag? (.name "check", .text kind.name) = some (.text kind.name) := if_pos rfl
  rw [namedKind?, List.filterMap_cons_some htag, htags]
  exact Kind.ofName?_name kind

/-- A check is read from its kind and its values. -/
theorem ofData?_of_gives (hsized : c.Sized) (h : Gives (c.kind.fields.zip c.values) given) :
    ofData? (.map ((.name "check", .text c.kind.name) :: given)) = some c := by
  have hnodup := nodup_fields c.kind
  have hknown : ∀ field ∈ c.kind.fields, field ∈ c.kind.fields := fun _ => id
  rw [← map_fst_zip] at hnodup
  have hnone := h.ne_check_and_ne_other (check_not_mem_zip c)
  have hkind : namedKind? ((.name "check", .text c.kind.name) :: given) = some c.kind :=
    h.namedKind?_cons (check_not_mem_zip c)
  have hother : ((Key.name "check", Data.text c.kind.name) :: given).any (fun e => e.1 = .other) =
      false := by
    refine List.any_eq_false.mpr fun e hmem => ?_
    rcases List.mem_cons.mp hmem with rfl | hmem
    · exact of_decide_eq_false rfl
    · simpa using (hnone e hmem).2
  have hnotField : ∀ field, under? c.kind.fields field (.name "check", .text c.kind.name) = none := by
    intro field
    refine if_neg fun heq => check_not_mem_fields c.kind ?_
    rw [fieldOf?] at heq
    split at heq
    · rename_i hmem
      exact List.contains_iff_mem.mp hmem
    · cases heq
  obtain ⟨values, hvalues⟩ := exists_forall₂
    (h.sole?_eq_some hnodup fun field hmem => by rwa [map_fst_zip] at hmem)
  have hgiven : ((c.kind.fields.zip c.values).map Prod.fst).mapM (fun field =>
      sole? (List.filterMap (under? c.kind.fields field)
        ((.name "check", .text c.kind.name) :: given))) = some values := by
    rw [List.mapM_map, mapM_eq_some_iff]
    refine hvalues.imp fun e value hvalue => ?_
    rw [Function.comp_apply, List.filterMap_cons_none (hnotField e.1)]
    exact hvalue.1
  rw [map_fst_zip] at hgiven
  rw [ofData?_map, hkind, Option.bind_some, ofEntries?, hother, hgiven]
  exact ofValues?_given hsized (hvalues.imp fun _ _ h => h.2)

/-! ## Trees -/

/-- The trees that write a field stand for data, which are null if the field may be left out. -/
structure StandsFor (f : WrittenField) (e : String × Data) : Prop where
  name : f.name = e.1
  data : ∀ t, f.writes t → t.toData? = some e.2
  null : f.mayOmit → e.2 = .null

theorem standsFor_required {α : Type} {w : Writing α} {a : α} (h : ∀ t, w a t → t.toData? = some d) :
    StandsFor (.required field w a) (field, d) := ⟨rfl, h, False.elim⟩

theorem standsFor_writtenPath (path : Option Path) :
    StandsFor (writtenPath path) ("path", pathData path) := by
  refine ⟨rfl, fun t ht => ?_, fun heq => by rw [show path = none from heq]; rfl⟩
  cases path with
  | none => exact Writing.Absent.toData? ht
  | some p => exact Writing.Text.toData? ht

theorem written_standsFor (c : Check) :
    List.Forall₂ StandsFor c.written (c.kind.fields.zip c.values) := by
  cases c with
  | exitCode code => exact .cons (standsFor_required fun _ => Writing.Integer.toData?) .nil
  | argvContains tokens =>
    exact .cons (standsFor_required fun t ht =>
      Writing.Items.toData? ht fun _ _ => Writing.Text.toData?) .nil
  | stdoutContains text => exact .cons (standsFor_required fun _ => Writing.Text.toData?) .nil
  | stderrContains text => exact .cons (standsFor_required fun _ => Writing.Text.toData?) .nil
  | outputExists path => exact .cons (standsFor_writtenPath path) .nil
  | outputAbsent path => exact .cons (standsFor_writtenPath path) .nil
  | outputName name => exact .cons (standsFor_required fun _ => Writing.Text.toData?) .nil
  | outputNonempty path => exact .cons (standsFor_writtenPath path) .nil
  | outputKind artifact path =>
    exact .cons (standsFor_required fun _ => Writing.Text.toData?)
      (.cons (standsFor_writtenPath path) .nil)
  | nativeBinary path => exact .cons (standsFor_writtenPath path) .nil
  | succeededWithin millis => exact .cons (standsFor_required fun _ => Writing.Word.toData?) .nil

/-- Entries that write fields give their values. -/
theorem exists_gives (h : WritesFields fields entries) (hfields : List.Forall₂ StandsFor fields ds)
    (hcheck : "check" ∉ ds.map Prod.fst) :
    ∃ given, entries.mapM entry? = some given ∧ Gives ds given := by
  -- an entry that is left out has the value null, by which the check reads it
  induction h generalizing ds with
  | nil =>
    cases hfields
    exact ⟨[], rfl, .nil⟩
  | omitted left _ ih =>
    obtain _ | @⟨_, ⟨field, d⟩, _, ds, hfield, hfields⟩ := hfields
    obtain ⟨given, hgiven, hgives⟩ := ih hfields fun hmem => hcheck (List.mem_cons_of_mem _ hmem)
    obtain rfl : d = .null := hfield.null left
    exact ⟨given, hgiven, .omitted hgives⟩
  | @written f _ _ key value named writes _ ih =>
    obtain _ | @⟨_, ⟨field, d⟩, _, ds, hfield, hfields⟩ := hfields
    obtain ⟨given, hgiven, hgives⟩ := ih hfields fun hmem => hcheck (List.mem_cons_of_mem _ hmem)
    obtain rfl : f.name = field := hfield.name
    have hne : Key.name f.name ≠ .name "check" := fun heq =>
      hcheck (Key.name.inj heq ▸ List.mem_cons_self)
    have hentry : entry? (key, value) = some (.name f.name, d) := by
      rw [entry?_eq, named.key?, Option.bind_some, if_neg hne, hfield.data value writes]
      rfl
    exact ⟨(.name f.name, d) :: given, by rw [List.mapM_cons, hentry, hgiven]; rfl, .given hgives⟩

/-- **A check is read from every tree that writes it.** -/
theorem ofTree?_of_writes (hsized : c.Sized) (h : c.Writes t) : ofTree? t = some c := by
  obtain @⟨tag, written, entries, hshared, hwrites, horder⟩ := h
  refine ofTree?_perm horder ?_
  cases hwrites with
  | omitted left => exact left.elim
  | @written _ _ rest key value named writes hwrites =>
    obtain ⟨given, hgiven, hgives⟩ := exists_gives hwrites (written_standsFor c) (check_not_mem_zip c)
    have hentry : entry? (key, value) = some (.name "check", .text c.kind.name) := by
      rw [entry?_eq, named.key?, Option.bind_some]
      show (value.text?.map Data.text).map _ = _
      rw [Writing.Text.text? writes]
      rfl
    rw [ofTree?, hshared, List.mapM_cons, hentry, hgiven]
    exact ofData?_of_gives hsized hgives

theorem fits_of_int32 {code : Int} (h : Data.int32Min ≤ code ∧ code ≤ Data.int32Max) :
    fits 64 code = true := by
  simp only [fits, Data.int32Min, Data.int32Max, decide_eq_true_eq] at h ⊢
  norm_num
  omega

theorem exists_of_mem_written (hsized : c.Sized) : ∀ f ∈ c.written, ∃ t, f.writes t := by
  have hpath : ∀ path, ∃ t, (writtenPath path).writes t :=
    fun path => Writing.exists_optional fun p _ => Writing.exists_text p.text
  cases c with
  | exitCode code =>
    exact List.forall_mem_singleton.mpr (Writing.exists_integer (fits_of_int32 hsized))
  | argvContains tokens =>
    exact List.forall_mem_singleton.mpr (Writing.exists_items fun token _ => Writing.exists_text token)
  | stdoutContains text => exact List.forall_mem_singleton.mpr (Writing.exists_text text)
  | stderrContains text => exact List.forall_mem_singleton.mpr (Writing.exists_text text)
  | outputExists path => exact List.forall_mem_singleton.mpr (hpath path)
  | outputAbsent path => exact List.forall_mem_singleton.mpr (hpath path)
  | outputName name => exact List.forall_mem_singleton.mpr (Writing.exists_text name.text)
  | outputNonempty path => exact List.forall_mem_singleton.mpr (hpath path)
  | outputKind artifact path =>
    exact List.forall_mem_cons.mpr
      ⟨Writing.exists_text artifact.name, List.forall_mem_singleton.mpr (hpath path)⟩
  | nativeBinary path => exact List.forall_mem_singleton.mpr (hpath path)
  | succeededWithin millis => exact List.forall_mem_singleton.mpr (Writing.exists_word hsized)

theorem exists_writes (hsized : c.Sized) : ∃ t, c.Writes t :=
  WritesRecord.exists_of_fields
    (List.forall_mem_cons.mpr ⟨Writing.exists_text c.kind.name, exists_of_mem_written hsized⟩)

end Check

end Conformance
