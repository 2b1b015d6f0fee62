import Conformance.Proofs.Check.Written
import Conformance.Proofs.Data.Restated
import Conformance.Proofs.Report.RoundTrip

/-!
# Forms that are read back

Plans, naming rules, checks, outcomes and platforms are read back from their document forms, and from
whatever says the same.

* `Found.getD_listOf?`, `Found.givenValue` : what a field is read as where it may be left out;
* `Plan.ofData?_of_restates`, `Check.ofData?_of_restates` and those of the other types;
* `forms_recovered` : all of them, with their texts.
-/

namespace Conformance

open Json

open scoped List

variable {α : Type} {defaulted : List String} {d : Data} {name : String} {value : Option Data}
  {depth : Nat}

/-! ## Fields that may be left out -/

theorem Found.getD_listOf? {read : Data → Option α} {form : α → Data} {as : List α}
    (h : Found defaulted (name, .list (as.map form)) value) (hread : ∀ a ∈ as, read (form a) = some a) :
    (value.map (Data.listOf? read)).getD (some []) = some as := by
  rcases h with rfl | ⟨hempty | ⟨-, hempty⟩, rfl⟩
  · exact Data.listOf?_map hread
  · cases hempty
  · obtain rfl : as = [] := List.map_eq_nil_iff.mp (Data.list.inj hempty)
    rfl

theorem Found.givenValue {e : String × Data} (h : Found defaulted e value) (hlist : e.2 ≠ .list []) :
    Check.GivenValue e.2 value := by
  rcases h with hvalue | ⟨hempty | ⟨-, hempty⟩, hvalue⟩
  · exact .inl hvalue
  · exact .inr ⟨hempty, hvalue⟩
  · exact absurd hempty hlist

theorem Found.path {path : Option Path} (h : Found defaulted (name, Check.pathData path) value) :
    (value.map (Data.optional? Plan.path?)).getD (some none) = some path := by
  have hlist : Check.pathData path ≠ .list [] := by cases path <;> nofun
  exact (h.givenValue hlist).path

theorem kept_pathData (path : Option Path) : Kept depth (Check.pathData path) := by
  cases path with
  | none => exact .null
  | some p => exact .text p.text

/-! ## Records of fields -/

theorem Platform.ofData?_of_restates {p : Platform} (h : Restates [] p.toData d) :
    ofData? d = some p := by
  obtain ⟨entries, rfl, hfound⟩ := h.lookup (by decide : ["os", "arch"].Nodup)
  simp only [List.forall_mem_cons] at hfound
  obtain ⟨hos, harch, -⟩ := hfound
  show ((Data.field? entries "os").bind fun os =>
    (Data.field? entries "arch").bind fun arch => ofParts? os arch) = some p
  rw [hos.eq_some nofun nofun, harch.eq_some nofun nofun]
  show (Os.ofName? p.os.name).bind (fun os => (Arch.ofName? p.arch.name).bind fun arch =>
    some (Platform.mk os arch)) = some p
  rw [Os.ofName?_name, Arch.ofName?_name]
  rfl

theorem Outcome.ofData?_of_restates {o : Outcome} (h : Restates [] o.toData d) :
    ofData? d = some o := by
  obtain ⟨entries, rfl, hfound⟩ := h.lookup (by decide : ["passed", "message"].Nodup)
  simp only [List.forall_mem_cons] at hfound
  obtain ⟨hpassed, hmessage, -⟩ := hfound
  show ((Data.field? entries "passed").bind fun passed => passed.bool?.bind fun passed =>
    (Data.field? entries "message").bind fun message => message.text?.bind fun message =>
      some (Outcome.mk passed message)) = some o
  rw [hpassed.eq_some nofun nofun, hmessage.eq_some nofun nofun]
  rfl

theorem NamingRules.ofData?_of_restates {rules : NamingRules} (h : Restates [] rules.toData d) :
    ofData? d = some rules := by
  obtain ⟨entries, rfl, hfound⟩ := h.lookup
    (by decide : ["default_executable", "object_ext", "assembly_ext", "ir_text_ext", "bitcode_ext"].Nodup)
  simp only [List.forall_mem_cons] at hfound
  obtain ⟨hexecutable, hobject, hassembly, hirText, hbitcode, -⟩ := hfound
  simp only [ofData?, hexecutable.eq_some nofun nofun, hobject.eq_some nofun nofun,
    hassembly.eq_some nofun nofun, hirText.eq_some nofun nofun, hbitcode.eq_some nofun nofun]
  rfl

/-- The fields of a plan whose default is the empty list. -/
def Plan.listFields : List String := ["sources", "args"]

theorem Plan.ofData?_of_restates {p : Plan} (h : Restates listFields p.toData d) :
    ofData? d = some p := by
  obtain ⟨entries, rfl, hfound⟩ := h.lookup (by decide : ["name", "sources", "out", "args"].Nodup)
  simp only [List.forall_mem_cons] at hfound
  obtain ⟨hname, hsources, hout, hargs, -⟩ := hfound
  have hpaths : ((Data.field? entries "sources").map (Data.listOf? path?)).getD (some []) =
      some p.sources := by
    rw [Data.texts, List.map_map] at hsources
    exact hsources.getD_listOf? fun _ _ => rfl
  have htexts : ((Data.field? entries "args").map (Data.listOf? Data.text?)).getD (some []) =
      some p.extraArgs := hargs.getD_listOf? fun _ _ => rfl
  show ofFields? (Data.field? entries "name") (Data.field? entries "sources")
    (Data.field? entries "out") (Data.field? entries "args") = some p
  simp only [ofFields?, hname.eq_some nofun nofun, hpaths, hout.path, htexts]
  rfl

/-! ## Checks -/

namespace Check

variable {c : Check} {kind : Kind} {ds given : List (String × Data)} {kvs others : List (Key × Data)}

theorem nodup_names (c : Check) :
    ((("check", Data.text c.kind.name) :: c.kind.fields.zip c.values).map Prod.fst).Nodup := by
  rw [List.map_cons, List.nodup_cons, map_fst_zip]
  exact ⟨check_not_mem_fields c.kind, nodup_fields c.kind⟩

theorem not_mem_of_nodup_names {e : String × Data} (h : ((e :: ds).map Prod.fst).Nodup) : e ∉ ds :=
  fun hmem => (List.nodup_cons.mp h).1 (List.mem_map_of_mem hmem)

/-- Below an entry that is kept, what is not kept still says nothing. -/
theorem left_out_tail {e : String × Data} (hnodup : ((e :: ds).map Prod.fst).Nodup)
    (hleft : ∀ e' ∈ e :: ds, e' ∈ e :: given ∨ Omissible [] e') :
    ∀ e' ∈ ds, e' ∈ given ∨ Omissible [] e' := by
  intro e' hmem
  rcases hleft e' (List.mem_cons_of_mem e hmem) with hin | hempty
  · have hne : e' ≠ e := by
      rintro rfl
      exact not_mem_of_nodup_names hnodup hmem
    exact .inl ((List.mem_cons.mp hin).resolve_left hne)
  · exact .inr hempty

/-- A sublist of the fields gives them if nothing but nulls is missing. -/
theorem gives_of_sublist (h : given <+ ds) (hnodup : (ds.map Prod.fst).Nodup)
    (hleft : ∀ e ∈ ds, e ∈ given ∨ Omissible [] e) :
    Gives ds (given.map fun e => (.name e.1, e.2)) := by
  induction h with
  | slnil => exact .nil
  | @cons given ds e h ih =>
    have hmissing : e ∉ given := fun hmem => not_mem_of_nodup_names hnodup (h.subset hmem)
    have hempty := (hleft e List.mem_cons_self).resolve_left hmissing
    have hgives := ih (List.nodup_cons.mp hnodup).2
      fun e' hmem => hleft e' (List.mem_cons_of_mem e hmem)
    obtain ⟨field, d⟩ := e
    obtain rfl : d = .null := hempty.resolve_right nofun
    exact .omitted hgives
  | cons_cons e h ih =>
    exact .given (ih (List.nodup_cons.mp hnodup).2 (left_out_tail hnodup hleft))

/-- Entries that the kind of a check passes over change nothing. -/
theorem ofData?_append (hkind : namedKind? kvs = some kind)
    (hothers : ∀ e ∈ others, declaredData? kind e = none) :
    ofData? (.map (kvs ++ others)) = ofData? (.map kvs) := by
  have hdeclared : (kvs ++ others).filterMap (declaredData? kind) =
      kvs.filterMap (declaredData? kind) := by
    rw [List.filterMap_append, List.filterMap_eq_nil_iff.mpr hothers, List.append_nil]
  have hsame : namedKind? (kvs ++ others) = some kind := by
    rw [← namedKind?_declared kind, hdeclared, namedKind?_declared, hkind]
  rw [ofData?_map, ofData?_map, hsame, hkind, Option.bind_some, Option.bind_some,
    ← ofEntries?_declared, hdeclared, ofEntries?_declared]

theorem ofData?_of_restates (hsized : c.Sized) (h : Restates [] c.toData d) : ofData? d = some c := by
  obtain ⟨kept, others, entries, rfl, hkept, hleft, hunknown, horder⟩ := h.exists_eq_record
  have hnodup := nodup_names c
  have hcheck := check_not_mem_zip c
  -- the kind is neither null nor a list, so it is kept
  have htag : ("check", Data.text c.kind.name) ∈ kept := by
    refine (hleft _ List.mem_cons_self).resolve_right ?_
    rintro (hempty | ⟨-, hempty⟩) <;> cases hempty
  obtain ⟨given, rfl, hgiven⟩ : ∃ given, kept = ("check", .text c.kind.name) :: given ∧
      given <+ c.kind.fields.zip c.values := by
    rcases List.sublist_cons_iff.mp hkept with hsub | hcons
    · exact absurd (List.mem_map_of_mem (hsub.subset htag)) hcheck
    · exact hcons
  have hgives : Gives (c.kind.fields.zip c.values) (given.map fun e => (.name e.1, e.2)) :=
    gives_of_sublist hgiven (List.nodup_cons.mp hnodup).2 (left_out_tail hnodup hleft)
  have hpassedOver : ∀ e ∈ others.map fun e => (Key.name e.1, e.2), declaredData? c.kind e = none := by
    intro e hmem
    obtain ⟨e, hother, rfl⟩ := List.mem_map.mp hmem
    have hnew := hunknown e hother
    rw [List.map_cons, map_fst_zip, List.mem_cons] at hnew
    exact if_neg hnew
  have hkeys := horder.map fun e => (Key.name e.1, e.2)
  rw [List.map_append, List.map_cons] at hkeys
  rw [Data.record, ofData?_perm hkeys, ofData?_append (hgives.namedKind?_cons hcheck) hpassedOver]
  exact ofData?_of_gives hsized hgives

theorem kept_of_mem_values (hsized : c.Sized) : ∀ d ∈ c.values, Kept (depth + 1) d := by
  cases c with
  | exitCode code => exact List.forall_mem_singleton.mpr (kept_int32 hsized)
  | argvContains tokens => exact List.forall_mem_singleton.mpr (kept_list fun s _ => .text s)
  | stdoutContains text => exact List.forall_mem_singleton.mpr (.text text)
  | stderrContains text => exact List.forall_mem_singleton.mpr (.text text)
  | outputExists path => exact List.forall_mem_singleton.mpr (kept_pathData path)
  | outputAbsent path => exact List.forall_mem_singleton.mpr (kept_pathData path)
  | outputName name => exact List.forall_mem_singleton.mpr (.text name.text)
  | outputNonempty path => exact List.forall_mem_singleton.mpr (kept_pathData path)
  | outputKind artifact path =>
    exact List.forall_mem_cons.mpr
      ⟨.text artifact.name, List.forall_mem_singleton.mpr (kept_pathData path)⟩
  | nativeBinary path => exact List.forall_mem_singleton.mpr (kept_pathData path)
  | succeededWithin millis => exact List.forall_mem_singleton.mpr (kept_word64 hsized)

theorem kept_toData (hsized : c.Sized) : Kept (depth + 2) c.toData := by
  refine kept_record _ (nodup_names c) rfl (List.forall_mem_cons.mpr ⟨.text _, fun e hmem => ?_⟩)
  exact kept_of_mem_values hsized e.2 (List.of_mem_zip hmem).2

end Check

/-! ## All forms -/

theorem Platform.kept_toData (p : Platform) : Kept (depth + 1) p.toData :=
  kept_record ["os", "arch"] (by decide) rfl
    (List.forall_mem_cons.mpr ⟨.text _, List.forall_mem_singleton.mpr (.text _)⟩)

theorem NamingRules.kept_toData (rules : NamingRules) : Kept (depth + 1) rules.toData := by
  refine kept_record ["default_executable", "object_ext", "assembly_ext", "ir_text_ext", "bitcode_ext"]
    (by decide) rfl ?_
  simp only [List.forall_mem_cons]
  exact ⟨.text _, .text _, .text _, .text _, .text _, fun _ => nofun⟩

theorem Plan.kept_toData (p : Plan) : Kept (depth + 2) p.toData := by
  refine kept_record ["name", "sources", "out", "args"] (by decide) rfl ?_
  simp only [List.forall_mem_cons]
  exact ⟨.text _, kept_list fun s _ => .text s, kept_pathData p.out, kept_list fun s _ => .text s,
    fun _ => nofun⟩

/-- **Documents are read back**, in any order of their entries, with entries under further names, and
without entries that are null or an empty list by default. The numbers of a check have the sizes of
their types. -/
theorem forms_recovered :
    (∀ p : Plan, Recovered Plan.listFields p.toData Plan.ofData? p) ∧
    (∀ rules : NamingRules, Recovered [] rules.toData NamingRules.ofData? rules) ∧
    (∀ c : Check, c.Sized → Recovered [] c.toData Check.ofData? c) ∧
    (∀ o : Outcome, Recovered [] o.toData Outcome.ofData? o) ∧
    (∀ p : Platform, Recovered [] p.toData Platform.ofData? p) := by
  refine ⟨fun p => ?_, fun rules => ?_, fun c hsized => ?_, fun o => ?_, fun p => ?_⟩
  · exact recovered_of_restated p.kept_toData fun d => Plan.ofData?_of_restates
  · exact recovered_of_restated rules.kept_toData fun d => NamingRules.ofData?_of_restates
  · exact recovered_of_restated (Check.kept_toData hsized) fun d => Check.ofData?_of_restates hsized
  · exact recovered_of_restated o.kept_toData fun d => Outcome.ofData?_of_restates
  · exact recovered_of_restated p.kept_toData fun d => Platform.ofData?_of_restates

/-! ## Two documents -/

/-- A plan whose empty lists and output are left out, with a name that is not known and the fields
from the last to the first. -/
def shortPlan : Data :=
  .record [("args", .texts ["-c", "a.c"]), ("extra_args", .list []), ("name", .text "compile")]

/-- A check without its path, and with a note before its fields. -/
def notedCheck : Data :=
  .record [("note", .text "linux only"), ("artifact", .text "elf"), ("check", .text "output_kind")]

theorem restates_shortPlan :
    Restates Plan.listFields (Plan.toData ⟨"compile", [], none, ["-c", "a.c"]⟩) shortPlan := by
  have hkept : [("name", Data.text "compile"), ("args", .texts ["-c", "a.c"])] <+
      [("name", .text "compile"), ("sources", .list []), ("out", .null),
        ("args", .texts ["-c", "a.c"])] :=
    .cons_cons _ (.cons _ (.cons _ (.cons_cons _ .slnil)))
  have hunknown : ∀ e ∈ [("extra_args", Data.list [])], e.1 ∉ ["name", "sources", "out", "args"] :=
    List.forall_mem_singleton.mpr (by decide)
  refine .record hkept ?_ hunknown ?_
  · simp only [List.forall_mem_cons]
    exact ⟨.inl (.head _), .inr (.inr ⟨.head _, rfl⟩), .inr (.inl rfl), .inl (.tail _ (.head _)),
      fun _ => nofun⟩
  · show [("args", Data.texts ["-c", "a.c"]), ("extra_args", .list [])] ++
      [("name", .text "compile")] ~ _
    exact List.perm_append_comm

theorem restates_notedCheck :
    Restates [] (Check.outputKind .elf none).toData notedCheck := by
  have hkept : [("check", Data.text "output_kind"), ("artifact", .text "elf")] <+
      [("check", .text "output_kind"), ("artifact", .text "elf"), ("path", .null)] :=
    .cons_cons _ (.cons_cons _ (.cons _ .slnil))
  have hunknown : ∀ e ∈ [("note", Data.text "linux only")], e.1 ∉ ["check", "artifact", "path"] :=
    List.forall_mem_singleton.mpr (by decide)
  have hleft : ∀ e ∈ [("check", Data.text "output_kind"), ("artifact", .text "elf"), ("path", .null)],
      e ∈ [("check", Data.text "output_kind"), ("artifact", .text "elf")] ∨ Omissible [] e := by
    simp only [List.forall_mem_cons]
    exact ⟨.inl (.head _), .inl (.tail _ (.head _)), .inr (.inl rfl), fun _ => nofun⟩
  exact .record hkept hleft hunknown (List.reverse_perm _).symm

theorem ofData?_shortPlan_notedCheck :
    (Check.outputKind .elf none).Sized ∧ (Check.succeededWithin 18446744073709551615).Sized ∧
    Plan.ofData? shortPlan = some ⟨"compile", [], none, ["-c", "a.c"]⟩ ∧
    Check.ofData? notedCheck = some (.outputKind .elf none) ∧
    (Data.ofJson? ((Check.succeededWithin 18446744073709551615).toData.pretty ++ "\n")).bind
      Check.ofData? = some (.succeededWithin 18446744073709551615) := by
  have hsized : (Check.succeededWithin 18446744073709551615).Sized :=
    (by decide : 18446744073709551615 < UInt64.size)
  obtain ⟨hplans, -, hchecks, -⟩ := forms_recovered
  exact ⟨trivial, hsized, (hplans _).restated _ restates_shortPlan,
    (hchecks (.outputKind .elf none) trivial).restated _ restates_notedCheck, (hchecks _ hsized).text⟩

end Conformance
