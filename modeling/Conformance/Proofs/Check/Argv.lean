import Conformance.Proofs.Suite.Recorded

/-!
# Checks of the arguments

* `mem_windows` : the windows of a list are all its parts of their length;
* `hasContiguous_iff` : tokens are found where they stand together, in order;
* `Plan.Hands` : the parts of a plan that its arguments hold together; `Plan.Hands.infix_argv`;
* `argvContains_verdicts` : a check of the arguments passes for what stands together in them, so on a run
  of a plan for each part that the plan hands on.
-/

namespace Conformance

/-! ## Windows -/

/-- The windows of a list are all its parts of their length. -/
theorem mem_windows {α : Type} {n : Nat} (some_elements : 0 < n) (xs w : List α) :
    w ∈ windows n some_elements xs ↔ w.length = n ∧ w <:+: xs := by
  induction xs with
  | nil =>
    rw [windows, List.infix_nil]
    refine iff_of_false List.not_mem_nil ?_
    rintro ⟨hlength, rfl⟩
    exact absurd hlength (Nat.ne_of_lt some_elements)
  | cons x xs ih =>
    rw [windows]
    by_cases hlong : n ≤ (x :: xs).length
    · -- a window starts here, or it is one of the windows further on
      have hfirst : w = (x :: xs).take n ↔ w.length = n ∧ w <+: x :: xs := by
        rw [List.prefix_iff_eq_take]
        constructor
        · rintro rfl
          have hlength : ((x :: xs).take n).length = n := List.length_take_of_le hlong
          exact ⟨hlength, by rw [hlength]⟩
        · rintro ⟨rfl, htake⟩
          exact htake
      rw [if_pos hlong, List.mem_cons, ih, hfirst, List.infix_cons_iff, and_or_left]
    · rw [if_neg hlong]
      refine iff_of_false List.not_mem_nil ?_
      rintro ⟨rfl, hinfix⟩
      exact hlong hinfix.length_le

/-- Tokens are found exactly where they stand together. -/
theorem hasContiguous_iff (tokens argv : List String) :
    hasContiguous tokens argv = true ↔ tokens <:+: argv := by
  unfold hasContiguous
  split
  · rename_i hnone
    rw [hnone]
    exact iff_of_true rfl List.nil_infix
  · simp only [List.any_eq_true, beq_iff_eq, exists_eq_right, mem_windows, true_and]

/-! ## Parts of a plan -/

/-- The tokens stand together among the sources or the extra arguments of a plan, or they name its
output. -/
inductive Plan.Hands (p : Plan) : List String → Prop where
  | sources {before tokens after : List Path} (here : p.sources = before ++ tokens ++ after) :
    Hands p (tokens.map Path.text)
  | extraArgs {before tokens after : List String} (here : p.extraArgs = before ++ tokens ++ after) :
    Hands p tokens
  | output {out : Path} (named : p.out = some out) : Hands p ["-o", out.text]

theorem Plan.Hands.infix_argv {p : Plan} {tokens : List String} (h : p.Hands tokens) :
    tokens <:+: p.argv := by
  unfold argv
  cases h with
  | @sources before tokens after here =>
    have hsources : tokens.map Path.text <:+: p.sources.map Path.text :=
      ⟨before.map Path.text, after.map Path.text, by simp [here]⟩
    rw [List.append_assoc]
    exact hsources.trans (List.prefix_append _ _).isInfix
  | @extraArgs before tokens after here =>
    have hargs : tokens <:+: p.extraArgs := ⟨before, after, here.symm⟩
    exact hargs.trans (List.infix_append _ _ _)
  | output named =>
    rw [named]
    exact (List.suffix_append _ _).isInfix

/-! ## Verdicts -/

variable {σ : Type}

theorem argv_execute (env : Environment σ) (config : RunnerConfig) (plan : Plan) (place : Path)
    (limit : Option Duration) (st : σ) :
    ((execute env config plan place limit).run st).1.argv = config.executable.text :: plan.argv := by
  rw [execute_eq]
  exact argv_performedResult _ _ _

/-- **A check of the arguments passes for the tokens that stand together in them, and for no others.**
It reaches a verdict for any tokens, be they none or more than there are arguments. On a run of a plan,
however it ends, it passes for each part that the plan hands on. -/
theorem argvContains_verdicts :
    (∀ (tokens : List String) (view : FileView) (result : RunResult) (place : Path),
      ∃ o, (Check.argvContains tokens).toAssertion.judge view result place = .ok o ∧
        (o.passed = true ↔ ∃ before after, result.argv = before ++ tokens ++ after)) ∧
    ∀ {σ : Type} (env : Environment σ) (config : RunnerConfig) (plan : Plan) (place : Path)
      (limit : Option Duration) (st : σ) (tokens : List String) (view : FileView), plan.Hands tokens →
      ((Check.argvContains tokens).evaluate view
        ((execute env config plan place limit).run st).1 place).passed = true := by
  refine ⟨fun tokens view result place => ⟨_, rfl, ?_⟩, ?_⟩
  · show hasContiguous tokens result.argv = true ↔ _
    rw [hasContiguous_iff]
    simp only [List.IsInfix, eq_comm]
  · intro σ env config plan place limit st tokens view hands
    show hasContiguous tokens _ = true
    have hplan := hands.infix_argv
    rw [hasContiguous_iff, argv_execute]
    exact hplan.trans (List.suffix_cons _ _).isInfix

end Conformance
