import Conformance.Proofs.Plan.FlagValue
import Mathlib.Logic.Relation

/-!
# Flags that are passed through

Most flags of a driver say nothing about where it writes. They can be put in among the options at will,
as long as none is put where it would be the value of the flag before it.

* `PassThrough`, `Inserted` : such a flag, and arguments with one more of them;
* `boundary_of_free`, `settled_of_free` : where a flag is put in, neither the search for the source
  nor the reading of the output waits for a value;
* `SameReading.of_inserted` : one more flag changes nothing;
* `sameReading_of_inserted` : nor does any number of them.
-/

namespace Conformance.Plan

variable {p q r : Plan} {pre post args args' : List String} {flag : String}

/-- A flag without a value that says nothing about the output. -/
structure PassThrough (flag : String) : Prop where
  dash : flag.toList.head? = some '-'
  separator : flag ≠ "--"
  unvalued : flag ∉ flagsWithValue
  compact : ¬ "-o=".toList <+: flag.toList
  mode : flag ∉ ["-c", "-S", "-emit-llvm", "--in-mem", "--in-memory"]

instance (flag : String) : Decidable (PassThrough flag) :=
  decidable_of_iff (flag.toList.head? = some '-' ∧ flag ≠ "--" ∧ flag ∉ flagsWithValue ∧
      ¬ "-o=".toList <+: flag.toList ∧
      flag ∉ ["-c", "-S", "-emit-llvm", "--in-mem", "--in-memory"])
    ⟨fun ⟨dash, separator, unvalued, compact, mode⟩ => ⟨dash, separator, unvalued, compact, mode⟩,
      fun h => ⟨h.dash, h.separator, h.unvalued, h.compact, h.mode⟩⟩

/-- No argument, or a last one that does not take a value. -/
def Free (pre : List String) : Prop := ∀ last ∈ pre.getLast?, last ∉ flagsWithValue

/-- One flag that is passed through is put in before the separator, and not right behind a flag that
takes a value. -/
inductive Inserted : List String → List String → Prop
  | flag (pre post : List String) (flag : String) (passed : PassThrough flag) (inside : "--" ∉ pre)
    (free : Free pre) : Inserted (pre ++ post) (pre ++ flag :: post)

/-! ## The place -/

theorem Free.of_cons {arg : String} (h : Free (arg :: args)) : Free args := by
  intro last hlast
  apply h last
  rw [List.getLast?_cons, Option.mem_def.mp hlast]
  rfl

/-- The search for a source has passed over every value. -/
theorem boundary_of_free (hopen : "--" ∉ pre) (hfree : Free pre) : Boundary pre := by
  -- two arguments are taken at once where the first one is a flag with a value
  induction hn : pre.length using Nat.strong_induction_on generalizing pre with
  | h n ih =>
    cases pre with
    | nil => exact .nil
    | cons arg rest =>
      rw [List.mem_cons, not_or] at hopen
      rw [List.length_cons] at hn
      by_cases hvalued : arg ∈ flagsWithValue
      · cases rest with
        | nil => exact absurd hvalued (hfree arg rfl)
        | cons value rest =>
          rw [List.length_cons] at hn
          have hrest : "--" ∉ rest := fun hmem => hopen.2 (List.mem_cons_of_mem _ hmem)
          exact .valued hvalued (ih rest.length (by omega) hrest hfree.of_cons.of_cons rfl)
      · exact .plain hvalued (Ne.symm hopen.1) (ih rest.length (by omega) hopen.2 hfree.of_cons rfl)

theorem getLast?_of_outputPending (h : outputPending pre = true) : pre.getLast? = some "-o" := by
  fun_induction outputPending pre with
  | case1 => cases h
  | case2 arg =>
    have harg : arg = "-o" := by simpa using h
    rw [harg]
    rfl
  | case3 value rest ih =>
    rw [List.getLast?_cons, List.getLast?_cons, ih h]
    rfl
  | case4 arg value rest hne ih =>
    rw [List.getLast?_cons, ih h]
    rfl

/-- No `-o` is left for which the next argument would be taken. -/
theorem settled_of_free (hfree : Free pre) : outputPending pre = false := by
  rw [Bool.eq_false_iff]
  intro hpending
  exact hfree "-o" (getLast?_of_outputPending hpending) (by decide)

/-! ## The flag -/

theorem PassThrough.silent (h : PassThrough flag) : Silent flag where
  mode := by
    have hlisted : ∀ flag ∈ modeFlags,
      flag ∈ ["-c", "-S", "-emit-llvm", "--in-mem", "--in-memory"] := by decide
    exact fun hmem => h.mode (hlisted flag hmem)
  separator := h.separator
  output := by
    rintro rfl
    exact h.unvalued (by decide)
  compact := if_neg fun hprefix => h.compact (List.isPrefixOf_iff_prefix.mp hprefix)

theorem PassThrough.firstSource?_eq (h : PassThrough flag) (post : List String) :
    firstSource? false (flag :: post) = firstSource? false post := by
  rw [firstSource?_plain h.unvalued h.separator, h.dash]
  rfl

/-! ## The reading -/

theorem SameReading.trans (h : SameReading p q) (h' : SameReading q r) : SameReading p r where
  mode := h.mode.trans h'.mode
  explicitOutput? := h.explicitOutput?.trans h'.explicitOutput?
  primarySource? := h.primarySource?.trans h'.primarySource?
  expectedOutput? rules := (h.expectedOutput? rules).trans (h'.expectedOutput? rules)

/-- One more flag that is passed through changes nothing. -/
theorem SameReading.of_inserted (h : Inserted args args') :
    SameReading (p.withArgs args') (p.withArgs args) := by
  obtain ⟨pre, post, flag, passed, inside, free⟩ := h
  have hins : ∀ arg ∈ [flag], Silent arg := by
    intro arg hmem
    rw [List.mem_singleton.mp hmem]
    exact passed.silent
  have hsource := firstSource?_append_congr (boundary_of_free inside free) (passed.firstSource?_eq post)
  exact sameReading_insert_of_silent_options inside (settled_of_free free) hins
    (primarySource?_congr hsource)

/-- **Flags that are passed through say nothing about the output**, however many there are and
whatever stands around them. -/
theorem sameReading_of_inserted (p : Plan) (args : List String)
    (h : Relation.ReflTransGen Inserted p.extraArgs args) : SameReading (p.withArgs args) p := by
  induction h with
  | refl => exact .of_eq rfl rfl rfl
  | tail _ step ih => exact (SameReading.of_inserted step).trans ih

/-- Flags go in behind a value that looks like a source, between an output and its neighbours, and
right before the separator. -/
theorem sameReading_linking_instrumented :
    Relation.ReflTransGen Inserted ["-I", "inc.c", "-o", "app", "--", "-S"]
        ["-I", "inc.c", "-g", "-o", "app", "-Wall", "-o2", "--", "-S"] ∧
      SameReading (linking ["-I", "inc.c", "-g", "-o", "app", "-Wall", "-o2", "--", "-S"])
        (linking ["-I", "inc.c", "-o", "app", "--", "-S"]) := by
  have hfree : ∀ {pre : List String} {last : String}, pre.getLast? = some last →
      last ∉ flagsWithValue → Free pre := by
    intro pre last hlast hunvalued last' hlast'
    rw [hlast] at hlast'
    cases hlast'
    exact hunvalued
  have hsource : Inserted ["-I", "inc.c", "-o", "app", "--", "-S"]
      ["-I", "inc.c", "-g", "-o", "app", "--", "-S"] :=
    .flag ["-I", "inc.c"] _ "-g" (by decide) (by decide) (hfree rfl (by decide))
  have hseparator : Inserted ["-I", "inc.c", "-g", "-o", "app", "--", "-S"]
      ["-I", "inc.c", "-g", "-o", "app", "-o2", "--", "-S"] :=
    .flag ["-I", "inc.c", "-g", "-o", "app"] _ "-o2" (by decide) (by decide) (hfree rfl (by decide))
  have houtput : Inserted ["-I", "inc.c", "-g", "-o", "app", "-o2", "--", "-S"]
      ["-I", "inc.c", "-g", "-o", "app", "-Wall", "-o2", "--", "-S"] :=
    .flag ["-I", "inc.c", "-g", "-o", "app"] _ "-Wall" (by decide) (by decide) (hfree rfl (by decide))
  have hsteps := ((Relation.ReflTransGen.single hsource).tail hseparator).tail houtput
  exact ⟨hsteps, sameReading_of_inserted (linking _) _ hsteps⟩

end Conformance.Plan
