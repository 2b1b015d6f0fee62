import Conformance.Proofs.Check.Written
import Conformance.Proofs.Scenario.Keys

/-!
# Trees that write scenario files

* `CaseSpec.Writes`, `ScenarioFile.Writes` : the mappings that write a case, and a file;
* `CaseSpec.ofTree?_of_writes`, `ScenarioFile.ofTree?_of_writes` : each is read from them;
* `Scenario.parse_written` : so is the scenario of a text with such a tree.
-/

namespace Conformance

open Yaml

variable {t : Tree}

theorem Yaml.Writing.Text.path? {p : Path} (h : Writing.Text p.text t) : t.path? = some p := by
  rw [Tree.path?, h.text?]
  rfl

/-! ## Cases -/

namespace CaseSpec

variable {c : CaseSpec}

/-- The fields of a case as they are written. -/
def written (c : CaseSpec) : List WrittenField :=
  [.required "name" Writing.Text c.name,
    .defaulted "sources" (Writing.Items (Writing.Named Path.text)) c.sources [],
    .defaulted "out" (Writing.Optional (Writing.Named Path.text)) c.out none,
    .defaulted "args" (Writing.Items Writing.Text) c.args [],
    .defaulted "platforms" (Writing.Optional (Writing.Items (Writing.Named Os.name))) c.platforms none,
    .defaulted "timeout_secs" (Writing.Optional Writing.Word) c.timeoutSecs none,
    .defaulted "expect" (Writing.Items Check.Writes) c.expect []]

/-- The mappings that write a case. -/
def Writes (c : CaseSpec) : Tree → Prop := WritesRecord c.written

/-- The numbers of a case have the sizes of their types. -/
structure Sized (c : CaseSpec) : Prop where
  timeout : ∀ secs, c.timeoutSecs = some secs → secs < UInt64.size
  checks : ∀ check ∈ c.expect, check.Sized

/-- A case is read from every tree that writes it. -/
theorem ofTree?_of_writes (hsized : c.Sized) (h : c.Writes t) : ofTree? t = some c := by
  have hnames : c.written.map WrittenField.name = fields := rfl
  obtain ⟨given, hgiven, hfound⟩ := h.exists_fields (by rw [hnames]; decide)
  rw [hnames] at hgiven
  simp only [written, List.forall_mem_cons] at hfound
  obtain ⟨hname, hsources, hout, hargs, hplatforms, htimeout, hexpect, -⟩ := hfound
  obtain ⟨named, (hnamed : given.lookup "name" = some named), hname⟩ := Option.bind_eq_some_iff.mp
    (hname.bind_eq_some fun _ => Writing.Text.text?)
  have hsources := hsources.fieldOr?_eq_some fun _ hitems =>
    hitems.listOf? fun _ _ _ => Writing.Text.path?
  have hout := hout.fieldOr?_eq_some fun _ hoptional =>
    hoptional.optional? fun _ _ _ hpath => ⟨Writing.Text.isAbsent? hpath, Writing.Text.path? hpath⟩
  have hargs := hargs.fieldOr?_eq_some fun _ hitems =>
    hitems.listOf? fun _ _ _ => Writing.Text.text?
  have hplatforms := hplatforms.fieldOr?_eq_some fun _ hoptional =>
    hoptional.optional? fun _ _ _ hsystems => ⟨hsystems.isAbsent?,
      hsystems.listOf? fun os _ _ hos => Writing.Text.member? hos (Os.ofName?_name os)⟩
  have htimeout := htimeout.fieldOr?_eq_some fun _ hoptional =>
    hoptional.optional? fun secs hsecs _ hword =>
      ⟨hword.isAbsent?, hword.word64? (hsized.timeout secs hsecs)⟩
  have hexpect := hexpect.fieldOr?_eq_some fun _ hitems =>
    hitems.listOf? fun check hmem _ => Check.ofTree?_of_writes (hsized.checks check hmem)
  simp only [ofTree?, hgiven, hnamed, hname, hsources, hout, hargs, hplatforms, htimeout, hexpect,
    Option.bind_eq_bind, Option.bind_some]
  rfl

theorem exists_writes (hsized : c.Sized) : ∃ t, c.Writes t := by
  refine WritesRecord.exists_of_fields ?_
  simp only [written, List.forall_mem_cons]
  refine ⟨Writing.exists_text _, Writing.exists_items fun _ _ => Writing.exists_text _,
    Writing.exists_optional fun _ _ => Writing.exists_text _,
    Writing.exists_items fun _ _ => Writing.exists_text _,
    Writing.exists_optional fun _ _ => Writing.exists_items fun _ _ => Writing.exists_text _,
    Writing.exists_optional fun secs hsecs => Writing.exists_word (hsized.timeout secs hsecs),
    Writing.exists_items fun check hmem => Check.exists_writes (hsized.checks check hmem), ?_⟩
  exact fun _ => nofun

end CaseSpec

/-! ## Files -/

namespace ScenarioFile

variable {file : ScenarioFile}

/-- The fields of a file as they are written. -/
def written (file : ScenarioFile) : List WrittenField :=
  [.defaulted "suite" (Writing.Optional Writing.Text) file.suite none,
    .defaulted "fixtures_dir" (Writing.Optional (Writing.Named Path.text)) file.fixturesDir none,
    .defaulted "fixtures" (Writing.Items (Writing.Named Path.text)) file.fixtures [],
    .defaulted "cases" (Writing.Items CaseSpec.Writes) file.cases []]

/-- The mappings that write a file. -/
def Writes (file : ScenarioFile) : Tree → Prop := WritesRecord file.written

/-- The numbers of a file have the sizes of their types. -/
def Sized (file : ScenarioFile) : Prop := ∀ c ∈ file.cases, c.Sized

/-- A file is read from every tree that writes it. -/
theorem ofTree?_of_writes (hsized : file.Sized) (h : file.Writes t) : ofTree? t = some file := by
  have hnames : file.written.map WrittenField.name = fields := rfl
  obtain ⟨given, hgiven, hfound⟩ := h.exists_fields (by rw [hnames]; decide)
  rw [hnames] at hgiven
  simp only [written, List.forall_mem_cons] at hfound
  obtain ⟨hsuite, hdir, hfixtures, hcases, -⟩ := hfound
  have hsuite := hsuite.fieldOr?_eq_some fun _ hoptional =>
    hoptional.optional? fun _ _ _ htext => ⟨htext.isAbsent?, htext.text?⟩
  have hdir := hdir.fieldOr?_eq_some fun _ hoptional =>
    hoptional.optional? fun _ _ _ hpath => ⟨Writing.Text.isAbsent? hpath, Writing.Text.path? hpath⟩
  have hfixtures := hfixtures.fieldOr?_eq_some fun _ hitems =>
    hitems.listOf? fun _ _ _ => Writing.Text.path?
  have hcases := hcases.fieldOr?_eq_some fun _ hitems =>
    hitems.listOf? fun c hmem _ => CaseSpec.ofTree?_of_writes (hsized c hmem)
  simp only [ofTree?, hgiven, hsuite, hdir, hfixtures, hcases, Option.bind_eq_bind, Option.bind_some]
  rfl

theorem exists_writes (hsized : file.Sized) : ∃ t, file.Writes t := by
  refine WritesRecord.exists_of_fields ?_
  simp only [written, List.forall_mem_cons]
  refine ⟨Writing.exists_optional fun _ _ => Writing.exists_text _,
    Writing.exists_optional fun _ _ => Writing.exists_text _,
    Writing.exists_items fun _ _ => Writing.exists_text _,
    Writing.exists_items fun c hmem => CaseSpec.exists_writes (hsized c hmem), ?_⟩
  exact fun _ => nofun

end ScenarioFile

namespace Scenario

/-- **A scenario is what its mappings say.** Every file is written by some tree, and it is read from
every tree that writes it: the keys of a mapping may stand in any order, and a field with its default
value may be left out. -/
theorem parse_written (file : ScenarioFile) (hsized : file.Sized) :
    (∃ t, file.Writes t) ∧ (∀ t, file.Writes t → ScenarioFile.ofTree? t = some file) ∧
      ∀ (path : Path) (text : String) (t : Tree), Tree.parse? text = some t → file.Writes t →
        parse path text = .ok ⟨path, file⟩ := by
  refine ⟨ScenarioFile.exists_writes hsized, fun t => ScenarioFile.ofTree?_of_writes hsized, ?_⟩
  intro path text t hparse hwrites
  rw [parse_eq path hparse, ScenarioFile.ofTree?_of_writes hsized hwrites]
  rfl

/-! ## A scenario in another order

What it says is `backwardFile`; what is read of its text is `backwardTree`. -/

/-- A scenario with every key behind those that it follows as a rule, and with two fields that could
be left out. -/
def backward : String :=
  "cases:\n- expect:\n  - path: x\n    artifact: elf\n    check: output_kind\n  args: []\n" ++
    "  out: ~\n  name: a\n"

def backwardCheck : Tree :=
  .mapping none [(bare "path", bare "x"), (bare "artifact", bare "elf"),
    (bare "check", bare "output_kind")]

def backwardCase : Tree :=
  .mapping none [(bare "expect", .sequence none [backwardCheck]), (bare "args", .sequence none []),
    (bare "out", bare "~"), (bare "name", bare "a")]

def backwardTree : Tree := .mapping none [(bare "cases", .sequence none [backwardCase])]

theorem parse?_backward : Tree.parse? backward = some backwardTree := by cbv

def nativeObject : Check := .outputKind .elf (some ⟨"x"⟩)

def backwardFile : ScenarioFile := { cases := [{ name := "a", expect := [nativeObject] }] }

theorem writes_backwardCheck : nativeObject.Writes backwardCheck := by
  refine .mapping rfl ?_ (List.reverse_perm [(bare "check", bare "output_kind"),
    (bare "artifact", bare "elf"), (bare "path", bare "x")])
  exact .written (.scalar rfl) (.scalar rfl) (.written (.scalar rfl) (.scalar rfl)
    (.written (.scalar rfl) (.scalar rfl) .nil))

theorem writes_backwardCase :
    CaseSpec.Writes { name := "a", expect := [nativeObject] } backwardCase := by
  refine .mapping rfl ?_ (List.reverse_perm [(bare "name", bare "a"), (bare "out", bare "~"),
    (bare "args", .sequence none []), (bare "expect", .sequence none [backwardCheck])])
  refine .written (.scalar rfl) (.scalar rfl) ?_
  refine .omitted rfl (.written (.scalar rfl) (.scalar rfl) ?_)
  refine .written (.scalar rfl) (.sequence rfl .nil) (.omitted rfl (.omitted rfl ?_))
  exact .written (.scalar rfl) (.sequence rfl (.cons writes_backwardCheck .nil)) .nil

theorem writes_backwardTree : backwardFile.Writes backwardTree := by
  refine .mapping rfl (.omitted rfl (.omitted rfl (.omitted rfl ?_))) (List.Perm.refl _)
  exact .written (.scalar rfl) (.sequence rfl (.cons writes_backwardCase .nil)) .nil

theorem sized_backwardFile : backwardFile.Sized := by
  intro c hmem
  obtain rfl := List.mem_singleton.mp hmem
  refine ⟨fun secs => nofun, fun check hcheck => ?_⟩
  obtain rfl := List.mem_singleton.mp hcheck
  trivial

theorem parse_backward : backwardFile.Sized ∧ Tree.parse? backward = some backwardTree ∧
    backwardFile.Writes backwardTree ∧
    parse ⟨"smoke.yaml"⟩ backward = .ok ⟨⟨"smoke.yaml"⟩, backwardFile⟩ :=
  ⟨sized_backwardFile, parse?_backward, writes_backwardTree,
    (parse_written backwardFile sized_backwardFile).2.2 _ _ _ parse?_backward writes_backwardTree⟩

end Scenario

end Conformance
