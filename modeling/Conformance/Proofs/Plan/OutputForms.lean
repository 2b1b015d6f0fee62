import Conformance.Proofs.Plan.FlagValue

/-!
# Naming the output apart and among the arguments

An output that is named apart is written behind the extra arguments as `-o` and its name. A plan may
also name it there by itself, in these two arguments or in one.

* `folded` : a plan with further arguments in the place of its output;
* `Unnamed`, `Separated` : arguments that name no output, and arguments with a separator;
* `NamesOutput` : a plan that names an output, which is then expected;
* `folded_namesOutput` : the forms agree unless the arguments have a separator, behind which nothing
  is an option.
-/

namespace Conformance.Plan

variable {p : Plan} {out : Path} {args tokens : List String}

/-- A plan with further arguments in the place of its output. -/
def folded (p : Plan) (tokens : List String) : Plan :=
  { p with out := none, extraArgs := p.extraArgs ++ tokens }

/-- Arguments none of which names an output. -/
def Unnamed (args : List String) : Prop :=
  ∀ arg ∈ args, arg ≠ "-o" ∧ ¬ "-o=".toList <+: arg.toList

/-- Arguments with a separator: a `--` that is not the value of a flag. -/
def Separated (args : List String) : Prop := ∃ pre post, Boundary pre ∧ args = pre ++ "--" :: post

/-- A plan that names an output. -/
structure NamesOutput (p : Plan) (out : Path) : Prop where
  explicitOutput? : p.explicitOutput? = some out
  expectedOutput? : ∀ rules, p.expectedOutput? rules = some out

theorem NamesOutput.of_explicitOutput? (h : p.explicitOutput? = some out) : p.NamesOutput out := by
  refine ⟨h, fun rules => ?_⟩
  unfold Plan.expectedOutput?
  rw [h]

theorem argv_folded (hout : p.out = some out) : (p.folded ["-o", out.text]).argv = p.argv := by
  unfold argv
  rw [hout]
  simp only [folded, List.append_assoc, List.append_nil]

/-! ## Without a separator -/

theorem Unnamed.namedOutput? (h : Unnamed args) (found : Option Path) (post : List String) :
    namedOutput? found (args ++ post) = Plan.namedOutput? found post := by
  apply namedOutput?_append_of_unnamed
  intro arg hmem
  obtain ⟨houtput, hcompact⟩ := h arg hmem
  exact ⟨houtput, if_neg fun hprefix => hcompact (List.isPrefixOf_iff_prefix.mp hprefix)⟩

/-- What is read of arguments that take the place of an output. -/
theorem explicitOutput?_folded (hargs : Unnamed p.extraArgs) (hopen : "--" ∉ p.extraArgs)
    (htokens : "--" ∉ tokens) :
    (p.folded tokens).explicitOutput? = Plan.namedOutput? none tokens := by
  have hpass : ∀ arg ∈ p.extraArgs ++ tokens, (arg != "--") = true := by
    intro arg hmem
    rw [bne_iff_ne]
    rintro rfl
    exact (List.mem_append.mp hmem).elim hopen htokens
  have hoptions : (p.folded tokens).options = p.extraArgs ++ tokens :=
    List.takeWhile_eq_self_iff.mpr hpass
  change Plan.namedOutput? none (p.folded tokens).options = _
  rw [hoptions, hargs.namedOutput?]

theorem afterStart?_append (start s : String) : afterStart? start (start ++ s) = some s := by
  have hprefix : start.toList.isPrefixOf (start ++ s).toList = true := by
    rw [List.isPrefixOf_iff_prefix, String.toList_append]
    exact List.prefix_append _ _
  rw [afterStart?, if_pos hprefix, String.toList_append, ← String.length_toList, List.drop_left,
    String.ofList_toList]

theorem namedOutput?_compact (name : String) :
    Plan.namedOutput? none ["-o=" ++ name] = some ⟨name⟩ := by
  rw [Plan.namedOutput?, afterStart?_append]

theorem compact_ne_separator (name : String) : "-o=" ++ name ≠ "--" := by
  intro heq
  have hchars := congrArg String.toList heq
  rw [String.toList_append] at hchars
  exact absurd (List.cons.inj (List.cons.inj hchars).2).1 (by decide)

/-! ## Behind a separator -/

/-- Behind a separator nothing names an output. -/
theorem explicitOutput?_folded_of_separated (hargs : Unnamed p.extraArgs)
    (h : Separated p.extraArgs) (tokens : List String) :
    (p.folded tokens).explicitOutput? = none := by
  obtain ⟨pre, post, -, hsplit⟩ := h
  have hmem : "--" ∈ p.extraArgs := by
    rw [hsplit]
    exact List.mem_append_right _ List.mem_cons_self
  have hoptions : (p.folded tokens).options = p.extraArgs.takeWhile (· != "--") :=
    options_withArgs_append_of_mem (p := p) hmem
  have hunnamed : Unnamed (p.extraArgs.takeWhile (· != "--")) :=
    fun arg harg => hargs arg ((List.takeWhile_prefix _).subset harg)
  have hnone := hunnamed.namedOutput? none []
  rw [List.append_nil] at hnone
  change Plan.namedOutput? none (p.folded tokens).options = none
  rw [hoptions, hnone]
  rfl

/-! ## All forms -/

/-- **Two ways of naming the output.** The arguments are the same, whatever they are. Without a
separator the same output is named and expected; behind a separator the output would have to be named
by an option, and there are none. -/
theorem folded_namesOutput (p : Plan) (out : Path) (hout : p.out = some out)
    (hargs : Unnamed p.extraArgs) :
    p.NamesOutput out ∧
    (p.folded ["-o", out.text]).argv = p.argv ∧
    ("--" ∉ p.extraArgs →
      (out.text ≠ "--" → (p.folded ["-o", out.text]).NamesOutput out) ∧
        (p.folded ["-o=" ++ out.text]).NamesOutput out) ∧
    (Separated p.extraArgs →
      (p.folded ["-o", out.text]).explicitOutput? = none ∧
        (p.folded ["-o=" ++ out.text]).explicitOutput? = none) := by
  refine ⟨?_, argv_folded hout, fun hopen => ⟨fun hname => ?_, ?_⟩, fun hseparated => ⟨?_, ?_⟩⟩
  · apply NamesOutput.of_explicitOutput?
    unfold Plan.explicitOutput?
    rw [hout]
  · have htokens : "--" ∉ ["-o", out.text] := by
      simp [Ne.symm hname]
    apply NamesOutput.of_explicitOutput?
    rw [explicitOutput?_folded hargs hopen htokens]
    rfl
  · have htokens : "--" ∉ ["-o=" ++ out.text] := by
      rw [List.mem_singleton]
      exact Ne.symm (compact_ne_separator out.text)
    apply NamesOutput.of_explicitOutput?
    rw [explicitOutput?_folded hargs hopen htokens, namedOutput?_compact]
  · exact explicitOutput?_folded_of_separated hargs hseparated _
  · exact explicitOutput?_folded_of_separated hargs hseparated _

/-- A plan with its output named apart. -/
def naming (args : List String) : Plan :=
  { name := "naming", out := some ⟨"app"⟩, extraArgs := args }

/-- A flag at the end of the arguments does not take the `-o` behind it for its value. -/
theorem folded_pending_flag :
    (naming ["-c", "main.c", "-Xlinker"]).out = some ⟨"app"⟩ ∧
      Unnamed (naming ["-c", "main.c", "-Xlinker"]).extraArgs ∧
      "--" ∉ (naming ["-c", "main.c", "-Xlinker"]).extraArgs ∧
      ((naming ["-c", "main.c", "-Xlinker"]).folded ["-o", "app"]).NamesOutput ⟨"app"⟩ ∧
      ((naming ["-c", "main.c", "-Xlinker"]).folded ["-o=app"]).NamesOutput ⟨"app"⟩ := by
  have hargs : Unnamed (naming ["-c", "main.c", "-Xlinker"]).extraArgs := by
    unfold Unnamed
    decide
  have hopen : "--" ∉ (naming ["-c", "main.c", "-Xlinker"]).extraArgs := by decide
  obtain ⟨-, -, hplain, -⟩ := folded_namesOutput _ ⟨"app"⟩ rfl hargs
  obtain ⟨htwo, hone⟩ := hplain hopen
  exact ⟨rfl, hargs, hopen, htwo (by decide), hone⟩

/-- Behind a separator the two arguments name no output any more: the driver is expected to write
elsewhere, although it is called with the same arguments. -/
theorem folded_behind_separator :
    (naming ["-c", "--", "-weird.c"]).out = some ⟨"app"⟩ ∧
      Unnamed (naming ["-c", "--", "-weird.c"]).extraArgs ∧
      Separated (naming ["-c", "--", "-weird.c"]).extraArgs ∧
      ((naming ["-c", "--", "-weird.c"]).folded ["-o", "app"]).argv =
        (naming ["-c", "--", "-weird.c"]).argv ∧
      ((naming ["-c", "--", "-weird.c"]).folded ["-o", "app"]).explicitOutput? ≠
        (naming ["-c", "--", "-weird.c"]).explicitOutput? ∧
      ((naming ["-c", "--", "-weird.c"]).folded ["-o=app"]).explicitOutput? ≠
        (naming ["-c", "--", "-weird.c"]).explicitOutput? ∧
      (naming ["-c", "--", "-weird.c"]).expectedOutput? .standard = some ⟨"app"⟩ ∧
      ((naming ["-c", "--", "-weird.c"]).folded ["-o", "app"]).expectedOutput? .standard =
        some ⟨"-weird.o"⟩ := by
  have hargs : Unnamed (naming ["-c", "--", "-weird.c"]).extraArgs := by
    unfold Unnamed
    decide
  have hboundary : Boundary ["-c"] := .plain (by decide) (by decide) .nil
  exact ⟨rfl, hargs, ⟨["-c"], ["-weird.c"], hboundary, rfl⟩, by decide, by decide, by decide,
    by decide, by decide⟩

end Conformance.Plan
