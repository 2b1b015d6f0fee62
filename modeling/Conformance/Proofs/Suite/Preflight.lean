import Conformance.Suite.Preflight

/-!
# What the checks before a suite say

* `Suite.preflight_eq_ok_iff` : they pass if the compiler and all fixtures are there;
* `Suite.exists_of_preflight_error` : otherwise they name one that is not.
-/

namespace Conformance.Suite

variable {s : Suite} {view : FileView} {searchPath : Option String} {executable : Path}

theorem preflight_eq_ok_iff : s.preflight view searchPath executable = .ok () ↔
    executableAvailable view searchPath executable = true ∧ ∀ f ∈ s.fixtures, view.isFile f = true := by
  unfold preflight
  cases executableAvailable view searchPath executable with
  | false => simp
  | true =>
    cases hfind : s.fixtures.find? fun f => !view.isFile f with
    | none => simpa using hfind
    | some f =>
      have hmem : f ∈ s.fixtures := List.mem_of_find?_eq_some hfind
      have hfile : view.isFile f = false := by simpa using List.find?_some hfind
      constructor
      · rintro ⟨⟩
      · rintro ⟨-, hall⟩
        rw [hall f hmem] at hfile
        cases hfile

theorem exists_of_preflight_error {e : HarnessError}
    (h : s.preflight view searchPath executable = .error e) :
    (executableAvailable view searchPath executable = false ∧ e = .missingExecutable executable) ∨
      ∃ f ∈ s.fixtures, view.isFile f = false ∧ e = .missingFixture f := by
  unfold preflight at h
  split at h
  · rename_i hmissing
    cases h
    exact .inl ⟨by simpa using hmissing, rfl⟩
  · split at h
    · rename_i f hfind
      cases h
      exact .inr ⟨f, List.mem_of_find?_eq_some hfind, by simpa using List.find?_some hfind, rfl⟩
    · cases h

end Conformance.Suite
