import Conformance.Proofs.Suite.Reports
import Conformance.Proofs.Text.Lowercase
import Conformance.Proofs.Workspace.Fixtures

/-!
# The name filter

A run with a filter skips the cases whose names do not contain it, both in lower case.

* `Suite.exists_report_iff` : the report of a case in a run with a filter tells whether it was skipped;
* `Suite.keeps_matches_iff_settled` : no case whose name contains the filter as it is written is skipped,
  if and only if the filter decides on the forms of its sigmas by itself.
-/

namespace Conformance

variable {σ : Type} {c : TestCase} {part : String}

/-- A case that is for the system is skipped if its name does not contain the filter. -/
theorem Suite.exists_report_iff (s : Suite) (env : Environment σ) (config : RunnerConfig)
    (options : SuiteOptions) (turns : Nat → Nat) (st : σ) {i : Nat} (hc : s.cases[i]? = some c)
    (happlies : c.appliesTo config.platform = true) (hfilter : options.filter = some part) :
    ∃ r, ((s.run env config options turns).run st).1.reports[i]? = some r ∧
      (r.isSkipped = true ↔ Text.containsIgnoringCase c.name part = false) := by
  obtain ⟨reports, done, st', hrun, hserved, -⟩ := s.run_served_reported env config options turns st
  obtain ⟨r, before, after, hr, c', hc', hcase⟩ :=
    hserved.exists_result (List.getElem?_eq_some_iff.mp hc).1
  obtain rfl := Option.some.inj (hc.symm.trans hc')
  have hsystems : ¬ ∃ systems, c.platforms = some systems ∧ config.platform.os ∉ systems := by
    rintro ⟨systems, hplatforms, hnot⟩
    simp [TestCase.appliesTo, hplatforms, hnot] at happlies
  refine ⟨r, by rw [hrun]; exact hr, ?_⟩
  rw [hcase.skipped_iff, or_iff_right hsystems, hfilter]
  simp

/-- **Cases whose names contain the filter as it is written are not skipped, whatever the suite, exactly
if the filter is settled.** -/
theorem Suite.keeps_matches_iff_settled (env : Environment σ) (config : RunnerConfig)
    (options : SuiteOptions) (turns : Nat → Nat) (st : σ) (part : String) :
    (∀ (s : Suite) (i : Nat) (c : TestCase), s.cases[i]? = some c →
      c.appliesTo config.platform = true → part.toList <:+: c.name.toList →
      ∃ r, ((s.run env config { options with filter := some part } turns).run st).1.reports[i]? = some r ∧
        r.isSkipped = false) ↔ Text.Settled part := by
  constructor
  · intro hkept
    refine Classical.byContradiction fun hunsettled => ?_
    obtain ⟨name, hname, hlost⟩ := Text.exists_lost hunsettled
    let c : TestCase := { name, plan := { name } }
    let s : Suite := { name, cases := [c] }
    obtain ⟨r, hr, hnot⟩ := hkept s 0 c rfl rfl hname
    obtain ⟨r', hr', hskipped⟩ := s.exists_report_iff env config { options with filter := some part }
      turns st (i := 0) (c := c) rfl rfl rfl
    obtain rfl : r = r' := Option.some.inj (hr.symm.trans hr')
    rw [hskipped.mpr hlost] at hnot
    cases hnot
  · intro hsettled s i c hc happlies hname
    obtain ⟨r, hr, hskipped⟩ := s.exists_report_iff env config { options with filter := some part }
      turns st hc happlies rfl
    refine ⟨r, hr, Bool.eq_false_iff.mpr fun hyes => ?_⟩
    rw [hskipped, Text.containsIgnoringCase_of_settled hsettled hname] at hyes
    cases hyes

/-- A case with a sigma inside a word. In the filter that its name starts with, the sigma ends the word. -/
def sigmaCase : TestCase := { name := "ΑΣΑ", plan := { name := "p" } }

/-- A case can be skipped although its name contains the filter as it is written. -/
theorem Suite.run_skips_match : "ΑΣ".toList <:+: sigmaCase.name.toList ∧
    sigmaCase.appliesTo .host = true ∧
    ((Suite.run { name := "s", cases := [sigmaCase] } ((Host.scratch atRoot).environment noSubject)
      ⟨⟨"true"⟩, none, [], .host⟩ ⟨⟨"work"⟩, some "ΑΣ", 1⟩ id).run ⟨.empty, 0⟩).1 =
        ⟨"s", [.skip "ΑΣΑ" "filtered out by substring: ΑΣ"]⟩ := by
  have hlost : Text.containsIgnoringCase sigmaCase.name "ΑΣ" = false := by decide +kernel
  have hreason : Suite.skipReason sigmaCase .host (some "ΑΣ") =
      some "filtered out by substring: ΑΣ" := by
    unfold Suite.skipReason
    rw [if_neg (by decide)]
    simp only [hlost, Bool.false_eq_true, if_false]
    rfl
  refine ⟨⟨[], ['Α'], by decide⟩, by decide, ?_⟩
  unfold Suite.run
  rw [if_pos (by decide), List.mapM_cons, List.mapM_nil]
  simp only [Suite.runCase, hreason]
  rfl

end Conformance
