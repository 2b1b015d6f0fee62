import Mathlib
import Conformance.Proofs.Check.Keys

/-!
# Keys of scenario files

Every key of a scenario file that is accepted is declared at its place, but for what its checks pass
over.

* `CaseSpec.Declared`, `ScenarioFile.Declared` : the keys of a case, and of a file, are declared;
* `CaseSpec.declaredForm`, `ScenarioFile.declaredForm` : a case, and a file, without what its checks
  pass over;
* `Scenario.parse_declared` : the file without it is read as before, and any other key that is not
  declared is refused.
-/

namespace Conformance

open Yaml

variable {t : Tree}

theorem Yaml.Tree.keyless_of_path? {p : Path} (h : t.path? = some p) : t.Keyless := by
  obtain ⟨s, hs, -⟩ := Option.map_eq_some_iff.mp h
  exact Tree.keyless_of_text? hs

/-! ## Cases -/

namespace CaseSpec

/-- The keys of a case and of its checks are declared. -/
def Declared : Tree → Prop := Tree.Record fields "expect" Check.Declared

/-- A case without what its checks pass over. -/
def declaredForm : Tree → Tree := Tree.mapField "expect" (Tree.mapItems Check.declaredForm)

theorem ofTree?_declaredForm (t : Tree) : ofTree? (declaredForm t) = ofTree? t := by
  have hexpect : ∀ t, Tree.listOf? Check.ofTree? (Tree.mapItems Check.declaredForm t) =
      Tree.listOf? Check.ofTree? t := fun t => Tree.listOf?_mapItems Check.ofTree?_declaredForm
  unfold ofTree? declaredForm
  rw [Tree.fields?_mapField]
  cases t.fields? fields with
  | none => rfl
  | some given =>
    simp only [Option.map_some, Option.bind_eq_bind, Option.bind_some,
      Tree.fieldOr?_mapGiven_self hexpect]
    rw [Tree.lookup_mapGiven_of_ne (by decide), Tree.fieldOr?_mapGiven_of_ne (by decide),
      Tree.fieldOr?_mapGiven_of_ne (by decide), Tree.fieldOr?_mapGiven_of_ne (by decide),
      Tree.fieldOr?_mapGiven_of_ne (by decide), Tree.fieldOr?_mapGiven_of_ne (by decide)]

theorem declared_of_ofTree? {c : CaseSpec} (h : ofTree? t = some c) : Declared (declaredForm t) := by
  obtain ⟨given, hgiven, h⟩ := Option.bind_eq_some_iff.mp h
  obtain ⟨named, hnamed, h⟩ := Option.bind_eq_some_iff.mp h
  obtain ⟨name, hname, h⟩ := Option.bind_eq_some_iff.mp h
  obtain ⟨sources, hsources, h⟩ := Option.bind_eq_some_iff.mp h
  obtain ⟨out, hout, h⟩ := Option.bind_eq_some_iff.mp h
  obtain ⟨args, hargs, h⟩ := Option.bind_eq_some_iff.mp h
  obtain ⟨platforms, hplatforms, h⟩ := Option.bind_eq_some_iff.mp h
  obtain ⟨timeout, htimeout, h⟩ := Option.bind_eq_some_iff.mp h
  obtain ⟨expect, hexpect, -⟩ := Option.bind_eq_some_iff.mp h
  have hrecord : t.Record fields "expect" fun item => ∃ c, Check.ofTree? item = some c := by
    refine Tree.record_of_fields? hgiven
      (fun value hvalue => Tree.items_of_listOf? (Tree.read_of_lookup hvalue hexpect)) ?_
    intro field hfield hne value hvalue
    simp only [fields, List.mem_cons, List.not_mem_nil, or_false] at hfield
    rcases hfield with rfl | rfl | rfl | rfl | rfl | rfl | rfl
    · rw [hnamed] at hvalue
      cases hvalue
      exact Tree.keyless_of_text? hname
    · exact Tree.keyless_of_listOf? (fun _ _ => Tree.keyless_of_path?)
        (Tree.read_of_lookup hvalue hsources)
    · exact Tree.keyless_of_optional? (fun _ => Tree.keyless_of_path?) (Tree.read_of_lookup hvalue hout)
    · exact Tree.keyless_of_listOf? (fun _ _ => Tree.keyless_of_text?)
        (Tree.read_of_lookup hvalue hargs)
    · exact Tree.keyless_of_optional?
        (fun _ => Tree.keyless_of_listOf? fun _ _ => Tree.keyless_of_member?)
        (Tree.read_of_lookup hvalue hplatforms)
    · exact Tree.keyless_of_optional? (fun _ => Tree.keyless_of_word64?)
        (Tree.read_of_lookup hvalue htimeout)
    · exact absurd rfl hne
  exact hrecord.mapField fun item ⟨c, hc⟩ => Check.declared_of_ofTree? hc

theorem Declared.declaredForm_eq (h : Declared t) : declaredForm t = t :=
  Tree.Record.mapField_eq_self h fun _ => Check.Declared.declaredForm_eq

end CaseSpec

/-! ## Files -/

namespace ScenarioFile

/-- The keys of a file, of its cases and of their checks are declared. -/
def Declared : Tree → Prop := Tree.Record fields "cases" CaseSpec.Declared

/-- A file without what its checks pass over. -/
def declaredForm : Tree → Tree := Tree.mapField "cases" (Tree.mapItems CaseSpec.declaredForm)

theorem ofTree?_declaredForm (t : Tree) : ofTree? (declaredForm t) = ofTree? t := by
  have hcases : ∀ t, Tree.listOf? CaseSpec.ofTree? (Tree.mapItems CaseSpec.declaredForm t) =
      Tree.listOf? CaseSpec.ofTree? t := fun t => Tree.listOf?_mapItems CaseSpec.ofTree?_declaredForm
  unfold ofTree? declaredForm
  rw [Tree.fields?_mapField]
  cases t.fields? fields with
  | none => rfl
  | some given =>
    simp only [Option.map_some, Option.bind_eq_bind, Option.bind_some,
      Tree.fieldOr?_mapGiven_self hcases]
    rw [Tree.fieldOr?_mapGiven_of_ne (by decide), Tree.fieldOr?_mapGiven_of_ne (by decide),
      Tree.fieldOr?_mapGiven_of_ne (by decide)]

theorem declared_of_ofTree? {file : ScenarioFile} (h : ofTree? t = some file) :
    Declared (declaredForm t) := by
  obtain ⟨given, hgiven, h⟩ := Option.bind_eq_some_iff.mp h
  obtain ⟨suite, hsuite, h⟩ := Option.bind_eq_some_iff.mp h
  obtain ⟨fixturesDir, hfixturesDir, h⟩ := Option.bind_eq_some_iff.mp h
  obtain ⟨fixtures, hfixtures, h⟩ := Option.bind_eq_some_iff.mp h
  obtain ⟨cases, hcases, -⟩ := Option.bind_eq_some_iff.mp h
  have hrecord : t.Record fields "cases" fun item => ∃ c, CaseSpec.ofTree? item = some c := by
    refine Tree.record_of_fields? hgiven
      (fun value hvalue => Tree.items_of_listOf? (Tree.read_of_lookup hvalue hcases)) ?_
    intro field hfield hne value hvalue
    simp only [fields, List.mem_cons, List.not_mem_nil, or_false] at hfield
    rcases hfield with rfl | rfl | rfl | rfl
    · exact Tree.keyless_of_optional? (fun _ => Tree.keyless_of_text?)
        (Tree.read_of_lookup hvalue hsuite)
    · exact Tree.keyless_of_optional? (fun _ => Tree.keyless_of_path?)
        (Tree.read_of_lookup hvalue hfixturesDir)
    · exact Tree.keyless_of_listOf? (fun _ _ => Tree.keyless_of_path?)
        (Tree.read_of_lookup hvalue hfixtures)
    · exact absurd rfl hne
  exact hrecord.mapField fun item ⟨c, hc⟩ => CaseSpec.declared_of_ofTree? hc

theorem Declared.declaredForm_eq (h : Declared t) : declaredForm t = t :=
  Tree.Record.mapField_eq_self h fun _ => CaseSpec.Declared.declaredForm_eq

end ScenarioFile

/-! ## Texts -/

namespace Scenario

theorem parse_eq {text : String} (path : Path) (h : Tree.parse? text = some t) :
    parse path text = (ScenarioFile.ofTree? t).elim (.error (.scenarioParse path))
      fun file => .ok ⟨path, file⟩ := by
  unfold parse
  rw [h, Option.bind_some]
  cases ScenarioFile.ofTree? t <;> rfl

/-- **Every key of a scenario is declared, but for what a check passes over.** Without this, the
scenario reads as before; any other key that is not declared makes it invalid. The keys of a valid
scenario are all declared exactly if its checks pass over nothing. -/
theorem parse_declared (path : Path) (text : String) :
    match Tree.parse? text with
    | none => parse path text = .error (.scenarioParse path)
    | some t =>
      parse path text = (ScenarioFile.ofTree? (ScenarioFile.declaredForm t)).elim
        (.error (.scenarioParse path)) (fun file => .ok ⟨path, file⟩) ∧
      (¬ ScenarioFile.Declared (ScenarioFile.declaredForm t) →
        parse path text = .error (.scenarioParse path)) ∧
      ((∃ s, parse path text = .ok s) →
        (ScenarioFile.Declared t ↔ ScenarioFile.declaredForm t = t)) := by
  cases hparse : Tree.parse? text with
  | none =>
    show parse path text = _
    unfold parse
    rw [hparse]
    rfl
  | some t =>
    have heq := parse_eq path hparse
    show _ ∧ _ ∧ _
    refine ⟨by rw [heq, ScenarioFile.ofTree?_declaredForm], fun hne => ?_, ?_⟩
    · rw [heq]
      cases hread : ScenarioFile.ofTree? t with
      | none => rfl
      | some file => exact absurd (ScenarioFile.declared_of_ofTree? hread) hne
    · rintro ⟨s, hs⟩
      rw [heq] at hs
      cases hread : ScenarioFile.ofTree? t with
      | none =>
        rw [hread] at hs
        cases hs
      | some file =>
        have hdeclared := ScenarioFile.declared_of_ofTree? hread
        exact ⟨ScenarioFile.Declared.declaredForm_eq, fun hself => by rwa [hself] at hdeclared⟩

/-! ## A misspelt key -/

/-- A scenario with a misspelt `path` in a check. -/
def misspelt : String := "cases:\n- name: a\n  expect:\n  - check: output_exists\n    pth: x\n"

/-- A scalar as it stands in a text without quotes. -/
def bare (s : String) : Tree := .scalar none s .plain

/-- The check with the misspelt key. -/
def misspeltCheck : Tree :=
  .mapping none [(bare "check", bare "output_exists"), (bare "pth", bare "x")]

/-- The tree of the scenario. -/
def misspeltTree : Tree :=
  .mapping none [(bare "cases", .sequence none [.mapping none
    [(bare "name", bare "a"), (bare "expect", .sequence none [misspeltCheck])]])]

theorem parse?_misspelt : Tree.parse? misspelt = some misspeltTree := by cbv

theorem not_declared_misspeltCheck : ¬ Check.Declared misspeltCheck := by
  intro h
  have hkey : (bare "pth").key? = some (.name "pth") := by decide +kernel
  have hunknown : ∀ kind : Check.Kind, "pth" ∉ kind.fields := by
    intro kind
    cases kind <;> decide
  rcases h (bare "pth", bare "x") (.tail _ (.head _)) with
    ⟨hcheck, -⟩ | ⟨kind, field, -, hmem, hfield, -⟩
  · rw [hkey] at hcheck
    revert hcheck
    decide
  · rw [hkey] at hfield
    rw [← Key.name.inj (Option.some.inj hfield)] at hmem
    exact hunknown kind hmem

/-- The misspelt key is passed over, and the check asks for another file. -/
theorem parse_misspelt : Tree.parse? misspelt = some misspeltTree ∧
    ¬ ScenarioFile.Declared misspeltTree ∧
    parse ⟨"smoke.yaml"⟩ misspelt =
      .ok ⟨⟨"smoke.yaml"⟩, { cases := [{ name := "a", expect := [.outputExists none] }] }⟩ := by
  refine ⟨parse?_misspelt, fun hfile => ?_, ?_⟩
  · obtain ⟨field, -, hfield, hcases⟩ := hfile _ (.head _)
    cases hfield
    obtain ⟨field, -, hfield, hexpect⟩ := hcases _ (.head _) _ (.tail _ (.head _))
    cases hfield
    exact not_declared_misspeltCheck (hexpect _ (.head _))
  · have hread : ScenarioFile.ofTree? misspeltTree =
        some { cases := [{ name := "a", expect := [.outputExists none] }] } := by decide +kernel
    rw [parse_eq _ parse?_misspelt, hread]
    rfl

end Scenario

end Conformance
