import Conformance.HarnessError
import Conformance.Scenario
import Conformance.Yaml.Value

/-!
# Reading scenarios

* `CaseSpec.ofTree?`, `ScenarioFile.ofTree?` : what a tree says;
* `Scenario.parse` : the scenario of a text.
-/

namespace Conformance

open Yaml

/-- A path. -/
def Yaml.Tree.path? (t : Tree) : Option Path := t.text?.map Path.mk

/-- The document tree of an entry of a check. The kind is taken as it is written. -/
def Check.entry? (entry : Tree × Tree) : Option (Key × Data) := do
  let key := keyOf entry.1 (← entry.1.toData?)
  if key = .name "check" then return (key, .text (← entry.2.text?))
  else return (key, ← entry.2.toData?)

/-- A check: a mapping with the kind under `check`, or a sequence with the kind in front. -/
def Check.ofTree? : Tree → Option Check
  | .mapping tag entries => do
    if isLocalTag tag then none
    ofData? (.map (← entries.mapM entry?))
  | .sequence tag (first :: rest) => do
    if isLocalTag tag then none
    ofData? (.list (.text (← first.text?) :: (← itemsData? rest)))
  | _ => none

/-- The fields of a case. -/
def CaseSpec.fields : List String :=
  ["name", "sources", "out", "args", "platforms", "timeout_secs", "expect"]

/-- A case: all but its name may be left out. -/
def CaseSpec.ofTree? (t : Tree) : Option CaseSpec := do
  let given ← t.fields? fields
  let name ← (← given.lookup "name").text?
  let sources ← Tree.fieldOr? given "sources" [] (Tree.listOf? Tree.path?)
  let out ← Tree.fieldOr? given "out" none (Tree.optional? Tree.path?)
  let args ← Tree.fieldOr? given "args" [] (Tree.listOf? Tree.text?)
  let platforms ← Tree.fieldOr? given "platforms" none
    (Tree.optional? (Tree.listOf? (Tree.member? Os.all Os.name)))
  let timeoutSecs ← Tree.fieldOr? given "timeout_secs" none (Tree.optional? Tree.word64?)
  let expect ← Tree.fieldOr? given "expect" [] (Tree.listOf? Check.ofTree?)
  return { name, sources, out, args, platforms, timeoutSecs, expect }

/-- The fields of a scenario file. -/
def ScenarioFile.fields : List String := ["suite", "fixtures_dir", "fixtures", "cases"]

/-- A scenario file: everything may be left out. -/
def ScenarioFile.ofTree? (t : Tree) : Option ScenarioFile := do
  let given ← t.fields? fields
  let suite ← Tree.fieldOr? given "suite" none (Tree.optional? Tree.text?)
  let fixturesDir ← Tree.fieldOr? given "fixtures_dir" none (Tree.optional? Tree.path?)
  let fixtures ← Tree.fieldOr? given "fixtures" [] (Tree.listOf? Tree.path?)
  let cases ← Tree.fieldOr? given "cases" [] (Tree.listOf? CaseSpec.ofTree?)
  return { suite, fixturesDir, fixtures, cases }

/-- The scenario of a text. -/
def Scenario.parse (path : Path) (text : String) : Except HarnessError Scenario :=
  match (Tree.parse? text).bind ScenarioFile.ofTree? with
  | some file => .ok ⟨path, file⟩
  | none => .error (.scenarioParse path)

end Conformance
