import Conformance.Plan
import Mathlib.Data.List.TakeWhile

/-!
# Values of flags

Some flags take the next argument as their value. The search for the first source passes over such
values. The readings of the output and of the mode do not, so a value can be taken for an option.

* `Boundary` : arguments after which no flag waits for its value;
* `outputPending` : whether a `-o` is left for which the next argument will be taken;
* `Silent` : a value that says nothing even if it is taken for an option;
* `Plan.SameReading` : plans from which the same mode, output and source are read;
* `Plan.sameReading_insert_iff` : where a flag and its value can be put in without any change.
-/

namespace Conformance

/-! ## Boundaries -/

/-- Arguments read from the left, each flag with its value, up to a place before the separator where
no flag waits for its value. -/
inductive Boundary : List String → Prop where
  | nil : Boundary []
  | plain {arg : String} {rest : List String} (unvalued : arg ∉ flagsWithValue)
    (inside : arg ≠ "--") (boundary : Boundary rest) : Boundary (arg :: rest)
  | valued {flag : String} {value : String} {rest : List String} (valued : flag ∈ flagsWithValue)
    (boundary : Boundary rest) : Boundary (flag :: value :: rest)

/-- A flag with a value is neither the separator nor a compact output. -/
theorem of_mem_flagsWithValue {f : String} (h : f ∈ flagsWithValue) :
    f ≠ "--" ∧ afterStart? "-o=" f = none := by
  revert f
  decide

namespace Plan

/-- A flag with a value is passed over. -/
theorem firstSource?_valued {f v : String} (h : f ∈ flagsWithValue) (rest : List String) :
    firstSource? false (f :: v :: rest) = firstSource? false rest := by
  have hcontains : flagsWithValue.contains f = true := List.contains_iff_mem.mpr h
  rw [firstSource?]
  simp only [Bool.false_eq_true, if_false, if_neg (of_mem_flagsWithValue h).1, hcontains, if_true]

/-- An argument that is neither a flag with a value nor the separator. -/
theorem firstSource?_plain {arg : String} (unvalued : arg ∉ flagsWithValue) (inside : arg ≠ "--")
    (rest : List String) :
    firstSource? false (arg :: rest) =
      if arg.toList.head? == some '-' then firstSource? false rest
      else if looksLikeSource arg then some ⟨arg⟩ else firstSource? false rest := by
  have hcontains : flagsWithValue.contains arg = false := by
    rw [Bool.eq_false_iff, Ne, List.contains_iff_mem]
    exact unvalued
  rw [firstSource?.eq_def]
  simp only [Bool.false_eq_true, if_false, if_neg inside, hcontains]

/-- Behind a boundary the search starts anew. -/
theorem firstSource?_append_congr {pre args args' : List String} (h : Boundary pre)
    (heq : firstSource? false args = firstSource? false args') :
    firstSource? false (pre ++ args) = firstSource? false (pre ++ args') := by
  induction h with
  | nil => exact heq
  | plain unvalued inside _ ih =>
    rw [List.cons_append, List.cons_append, firstSource?_plain unvalued inside,
      firstSource?_plain unvalued inside, ih]
  | valued valued _ ih =>
    rw [List.cons_append, List.cons_append, List.cons_append, List.cons_append,
      firstSource?_valued valued, firstSource?_valued valued, ih]

/-- **The search for a source does not look at the values of flags.** -/
theorem firstSource?_insert {pre : List String} (h : Boundary pre) {f : String}
    (hf : f ∈ flagsWithValue) (v : String) (post : List String) :
    firstSource? false (pre ++ f :: v :: post) = firstSource? false (pre ++ post) :=
  firstSource?_append_congr h (firstSource?_valued hf post)

/-! ## Outputs among options -/

/-- Whether options end in a `-o` that the next one will be the value of. -/
def outputPending : List String → Bool
  | [] => false
  | [arg] => arg = "-o"
  | arg :: value :: rest => if arg = "-o" then outputPending rest else outputPending (value :: rest)

theorem namedOutput?_cons {arg : String} (h : arg ≠ "-o") (found : Option Path)
    (rest : List String) :
    namedOutput? found (arg :: rest) =
      namedOutput? (((afterStart? "-o=" arg).map Path.mk).or found) rest := by
  cases rest with
  | nil =>
    rw [namedOutput?, namedOutput?]
    cases afterStart? "-o=" arg <;> rfl
  | cons value rest =>
    rw [namedOutput?, if_neg h]
    cases afterStart? "-o=" arg <;> rfl

/-- Options that name no output are passed over. -/
theorem namedOutput?_append_of_unnamed {pre : List String}
    (h : ∀ arg ∈ pre, arg ≠ "-o" ∧ afterStart? "-o=" arg = none) (found : Option Path)
    (post : List String) : namedOutput? found (pre ++ post) = namedOutput? found post := by
  induction pre with
  | nil => rfl
  | cons arg pre ih =>
    obtain ⟨houtput, hcompact⟩ := h arg List.mem_cons_self
    rw [List.cons_append, namedOutput?_cons houtput, hcompact]
    exact ih fun arg' hmem => h arg' (List.mem_cons_of_mem _ hmem)

/-- Options that leave no `-o` behind are read on their own. -/
theorem namedOutput?_append {pre : List String} (h : outputPending pre = false)
    (found : Option Path) (post : List String) :
    namedOutput? found (pre ++ post) = namedOutput? (namedOutput? found pre) post := by
  fun_induction outputPending pre generalizing found with
  | case1 => rw [List.nil_append, namedOutput?]
  | case2 arg =>
    have hne : arg ≠ "-o" := by simpa using h
    rw [List.singleton_append, namedOutput?_cons hne, namedOutput?_cons hne, namedOutput?]
  | case3 value rest ih =>
    rw [List.cons_append, List.cons_append, namedOutput?, namedOutput?, if_pos rfl, if_pos rfl, ih h]
  | case4 arg value rest hne ih =>
    rw [List.cons_append, namedOutput?_cons hne, namedOutput?_cons hne, ih h]

/-- A `-o` that is left behind takes what comes next. -/
theorem namedOutput?_append_of_pending {pre : List String} (h : outputPending pre = true)
    (found : Option Path) (value : String) (post : List String) :
    namedOutput? found (pre ++ value :: post) = namedOutput? (some ⟨value⟩) post := by
  fun_induction outputPending pre generalizing found with
  | case1 => cases h
  | case2 arg =>
    obtain rfl : arg = "-o" := by simpa using h
    rw [List.singleton_append, namedOutput?, if_pos rfl]
  | case3 value' rest ih =>
    rw [List.cons_append, List.cons_append, namedOutput?, if_pos rfl, ih h]
  | case4 arg value' rest hne ih => rw [List.cons_append, namedOutput?_cons hne, ih h]

/-! ## Plans with other arguments -/

/-- A plan with other extra arguments. -/
def withArgs (p : Plan) (args : List String) : Plan := { p with extraArgs := args }

/-- Two plans from which the same is read. -/
structure SameReading (p q : Plan) : Prop where
  /-- The driver produces the same. -/
  mode : p.mode = q.mode
  /-- The same output is named, or none. -/
  explicitOutput? : p.explicitOutput? = q.explicitOutput?
  /-- The same source comes first. -/
  primarySource? : p.primarySource? = q.primarySource?
  /-- The output is expected at the same place, whatever the names of outputs are. -/
  expectedOutput? : ∀ rules, p.expectedOutput? rules = q.expectedOutput? rules

variable {p q : Plan} {pre post : List String} {f v : String}

/-- The expected output is a matter of the other three. -/
theorem SameReading.of_eq (hmode : p.mode = q.mode)
    (houtput : p.explicitOutput? = q.explicitOutput?)
    (hsource : p.primarySource? = q.primarySource?) : SameReading p q :=
  ⟨hmode, houtput, hsource, fun rules => by
    unfold Plan.expectedOutput?
    rw [hmode, houtput, hsource]⟩

theorem primarySource?_congr {args args' : List String}
    (h : firstSource? false args = firstSource? false args') :
    (p.withArgs args).primarySource? = (p.withArgs args').primarySource? := by
  obtain ⟨name, sources, out, extra⟩ := p
  cases sources with
  | nil => exact h
  | cons first rest => rfl

theorem primarySource?_insert (h : Boundary pre) (hf : f ∈ flagsWithValue) :
    (p.withArgs (pre ++ f :: v :: post)).primarySource? =
      (p.withArgs (pre ++ post)).primarySource? :=
  primarySource?_congr (firstSource?_insert h hf v post)

/-- Options that choose what the driver produces. -/
def modeFlags : List String := ["-S", "-c", "-emit-llvm"] ++ inMemoryFlags

/-- The mode is a matter of which of these options are given. -/
theorem mode_congr (h : ∀ flag ∈ modeFlags, flag ∈ p.options ↔ flag ∈ q.options) :
    p.mode = q.mode := by
  have hgiven : ∀ flag ∈ modeFlags, p.options.contains flag = q.options.contains flag := by
    intro flag hflag
    rw [Bool.eq_iff_iff, List.contains_iff_mem, List.contains_iff_mem]
    exact h flag hflag
  have hmemory : inMemoryFlags.any (fun flag => p.options.contains flag) =
      inMemoryFlags.any fun flag => q.options.contains flag := by
    simp only [inMemoryFlags, List.any_cons, List.any_nil, hgiven "--in-mem" (by decide),
      hgiven "--in-memory" (by decide)]
  unfold Plan.mode
  simp only [hmemory, hgiven "-S" (by decide), hgiven "-c" (by decide),
    hgiven "-emit-llvm" (by decide)]

theorem options_withArgs_append (h : "--" ∉ pre) :
    (p.withArgs (pre ++ post)).options = pre ++ post.takeWhile (· != "--") := by
  have hpass : ∀ arg ∈ pre, (arg != "--") = true := by
    intro arg harg
    rw [bne_iff_ne]
    rintro rfl
    exact h harg
  exact List.takeWhile_append_of_pos hpass

/-- Nothing behind a `--` is an option. -/
theorem options_withArgs_append_of_mem (h : "--" ∈ pre) :
    (p.withArgs (pre ++ post)).options = pre.takeWhile (· != "--") := by
  have hlength : (pre.takeWhile (· != "--")).length ≠ pre.length := by
    intro heq
    have hall : pre.takeWhile (· != "--") = pre :=
      (List.takeWhile_prefix (· != "--")).eq_of_length heq
    have hpass := List.mem_takeWhile_imp (hall.symm ▸ h)
    simp at hpass
  change (pre ++ post).takeWhile (· != "--") = _
  rw [List.takeWhile_append, if_neg hlength]

/-! ## Values that say nothing -/

/-- A value that says nothing, even if it is taken for an option. -/
structure Silent (v : String) : Prop where
  /-- It does not choose what the driver produces. -/
  mode : v ∉ modeFlags
  /-- It does not end the options. -/
  separator : v ≠ "--"
  /-- It does not announce an output. -/
  output : v ≠ "-o"
  /-- It does not name an output. -/
  compact : afterStart? "-o=" v = none

instance (v : String) : Decidable (Silent v) :=
  decidable_of_iff (v ∉ modeFlags ∧ v ≠ "--" ∧ v ≠ "-o" ∧ afterStart? "-o=" v = none)
    ⟨fun ⟨mode, separator, output, compact⟩ => ⟨mode, separator, output, compact⟩,
      fun h => ⟨h.mode, h.separator, h.output, h.compact⟩⟩

theorem not_mem_modeFlags_of_mem_flagsWithValue (h : f ∈ flagsWithValue) : f ∉ modeFlags := by
  revert f
  decide

theorem silent_of_mem_flagsWithValue (hf : f ∈ flagsWithValue) (ho : f ≠ "-o") : Silent f where
  mode := not_mem_modeFlags_of_mem_flagsWithValue hf
  separator := (of_mem_flagsWithValue hf).1
  output := ho
  compact := (of_mem_flagsWithValue hf).2

/-- Where no `-o` is left behind, silent options change nothing but, at most, the first source. -/
theorem sameReading_insert_of_silent_options {ins : List String} (hopen : "--" ∉ pre)
    (hsettled : outputPending pre = false) (hins : ∀ arg ∈ ins, Silent arg)
    (hsource : (p.withArgs (pre ++ (ins ++ post))).primarySource? =
      (p.withArgs (pre ++ post)).primarySource?) :
    SameReading (p.withArgs (pre ++ (ins ++ post))) (p.withArgs (pre ++ post)) := by
  have hpass : ∀ arg ∈ ins, (arg != "--") = true := by
    intro arg hmem
    rw [bne_iff_ne]
    exact (hins arg hmem).separator
  have hoptions : (p.withArgs (pre ++ (ins ++ post))).options =
      pre ++ (ins ++ post.takeWhile (· != "--")) := by
    rw [options_withArgs_append hopen, List.takeWhile_append_of_pos hpass]
  have hunnamed : ∀ arg ∈ ins, arg ≠ "-o" ∧ afterStart? "-o=" arg = none :=
    fun arg hmem => ⟨(hins arg hmem).output, (hins arg hmem).compact⟩
  refine .of_eq (mode_congr fun flag hflag => ?_) ?_ hsource
  · have hnew : flag ∉ ins := fun hmem => (hins flag hmem).mode hflag
    rw [hoptions, options_withArgs_append hopen]
    simp only [List.mem_append, hnew, false_or]
  · cases hout : p.out with
    | some out => simp only [Plan.explicitOutput?, withArgs, hout]
    | none =>
      simp only [Plan.explicitOutput?, hoptions, options_withArgs_append hopen]
      simp only [withArgs, hout]
      rw [namedOutput?_append hsettled, namedOutput?_append hsettled,
        namedOutput?_append_of_unnamed hunnamed]

/-- Where no `-o` is left behind, a silent value does not change what is read. -/
theorem sameReading_insert_of_silent (hpre : Boundary pre) (hf : f ∈ flagsWithValue) (ho : f ≠ "-o")
    (hopen : "--" ∉ pre) (hsettled : outputPending pre = false) (hv : Silent v) :
    SameReading (p.withArgs (pre ++ f :: v :: post)) (p.withArgs (pre ++ post)) := by
  have hins : ∀ arg ∈ [f, v], Silent arg := by
    simp only [List.forall_mem_cons]
    exact ⟨silent_of_mem_flagsWithValue hf ho, hv, nofun⟩
  exact sameReading_insert_of_silent_options hopen hsettled hins (primarySource?_insert hpre hf)

/-- Behind a `--` that is a value, the options have ended already. -/
theorem sameReading_insert_of_mem (hpre : Boundary pre) (hf : f ∈ flagsWithValue)
    (hclosed : "--" ∈ pre) :
    SameReading (p.withArgs (pre ++ f :: v :: post)) (p.withArgs (pre ++ post)) := by
  have hoptions : (p.withArgs (pre ++ f :: v :: post)).options = (p.withArgs (pre ++ post)).options :=
    by rw [options_withArgs_append_of_mem hclosed, options_withArgs_append_of_mem hclosed]
  refine .of_eq (mode_congr fun flag _ => by rw [hoptions]) ?_ (primarySource?_insert hpre hf)
  simp only [Plan.explicitOutput?, hoptions]
  rfl

/-! ## Values that are taken for options -/

/-- Values that are taken for options of their own, each with arguments before which that changes what
the driver produces. -/
def optionLike : List (String × List String) :=
  [("--", ["-S"]), ("-S", []), ("-c", []), ("-emit-llvm", ["-c"]), ("--in-mem", []),
    ("--in-memory", [])]

theorem mem_optionLike_of_mem_modeFlags (h : v ∈ modeFlags) : ∃ post, (v, post) ∈ optionLike := by
  have hall : ∀ v ∈ modeFlags, v ∈ optionLike.map Prod.fst := by decide
  obtain ⟨e, he, rfl⟩ := List.mem_map.mp (hall v h)
  exact ⟨e.2, he⟩

/-- A value that says something changes the reading of some plan that it stands in front of. -/
theorem exists_not_sameReading (hf : f ∈ flagsWithValue) (ho : f ≠ "-o") (hv : ¬ Silent v) :
    ∃ (p : Plan) (post : List String),
      ¬ SameReading (p.withArgs (f :: v :: post)) (p.withArgs post) := by
  have hmodes : ∀ f ∈ flagsWithValue, ∀ e ∈ optionLike,
      ((default : Plan).withArgs (f :: e.1 :: e.2)).mode ≠ ((default : Plan).withArgs e.2).mode := by
    decide
  have houtput : ∀ f ∈ flagsWithValue, f ≠ "-o" →
      ((default : Plan).withArgs [f, "-o", "x"]).explicitOutput? ≠
        ((default : Plan).withArgs ["x"]).explicitOutput? := by decide
  by_cases hmode : ∃ post, (v, post) ∈ optionLike
  · obtain ⟨post, he⟩ := hmode
    exact ⟨default, post, fun same => hmodes f hf _ he same.mode⟩
  by_cases hout : v = "-o"
  · subst hout
    exact ⟨default, ["x"], fun same => houtput f hf ho same.explicitOutput?⟩
  -- what is left is a compact output
  have hsep : v ≠ "--" := by
    rintro rfl
    exact hmode ⟨_, List.mem_cons_self⟩
  have hnot : v ∉ modeFlags := fun hmem => hmode (mem_optionLike_of_mem_modeFlags hmem)
  obtain ⟨named, hnamed⟩ : ∃ named, afterStart? "-o=" v = some named :=
    Option.ne_none_iff_exists'.mp fun hcompact => hv ⟨hnot, hsep, hout, hcompact⟩
  obtain ⟨hfsep, hfcompact⟩ := of_mem_flagsWithValue hf
  have hoptions : ((default : Plan).withArgs [f, v]).options = [f, v] := by
    change [f, v].takeWhile (· != "--") = [f, v]
    simp [hfsep, hsep]
  refine ⟨default, [], fun same => ?_⟩
  have hread := same.explicitOutput?
  have hfound : ((default : Plan).withArgs [f, v]).explicitOutput? = some ⟨named⟩ := by
    change namedOutput? none ((default : Plan).withArgs [f, v]).options = some ⟨named⟩
    rw [hoptions, namedOutput?_cons ho, namedOutput?_cons hout, hfcompact, hnamed]
    rfl
  rw [hfound] at hread
  cases hread

/-- Behind a `-o` that is itself a value, the flag is taken for the output. -/
theorem explicitOutput?_insert_ne (hf : f ∈ flagsWithValue) (hopen : "--" ∉ pre)
    (hpending : outputPending pre = true) (hv : Silent v) :
    ((default : Plan).withArgs (pre ++ f :: v :: ["x"])).explicitOutput? ≠
      ((default : Plan).withArgs (pre ++ ["x"])).explicitOutput? := by
  have hfsep := (of_mem_flagsWithValue hf).1
  have hx : f ≠ "x" := by
    rintro rfl
    revert hf
    decide
  have hafter : ((default : Plan).withArgs (pre ++ f :: v :: ["x"])).explicitOutput? = some ⟨f⟩ := by
    change namedOutput? none ((default : Plan).withArgs (pre ++ f :: v :: ["x"])).options = _
    rw [options_withArgs_append hopen]
    have htake : (f :: v :: ["x"]).takeWhile (· != "--") = f :: v :: ["x"] := by
      simp [hfsep, hv.separator]
    rw [htake, namedOutput?_append_of_pending hpending, namedOutput?_cons hv.output, hv.compact]
    rfl
  have hbefore : ((default : Plan).withArgs (pre ++ ["x"])).explicitOutput? = some ⟨"x"⟩ := by
    change namedOutput? none ((default : Plan).withArgs (pre ++ ["x"])).options = _
    rw [options_withArgs_append hopen]
    exact namedOutput?_append_of_pending hpending none "x" []
  rw [hafter, hbefore, Ne, Option.some.injEq, Path.mk.injEq]
  exact hx

/-- **Where a flag and its value can be put in.** The source is read as before in any case. Everything
is read as before exactly for silent values, where no `-o` is left behind; and silent values change
nothing exactly at places where no `-o` is left behind, or where the options have ended already. -/
theorem sameReading_insert_iff (f : String) (hf : f ∈ flagsWithValue) (ho : f ≠ "-o") :
    (∀ (p : Plan) (pre : List String) (v : String) (post : List String), Boundary pre →
      (p.withArgs (pre ++ f :: v :: post)).primarySource? =
        (p.withArgs (pre ++ post)).primarySource?) ∧
    (∀ v : String, Silent v ↔
      ∀ (p : Plan) (pre post : List String), Boundary pre → outputPending pre = false →
        SameReading (p.withArgs (pre ++ f :: v :: post)) (p.withArgs (pre ++ post))) ∧
    (∀ pre : List String, Boundary pre → ("--" ∈ pre ∨ outputPending pre = false ↔
      ∀ (p : Plan) (v : String) (post : List String), Silent v →
        SameReading (p.withArgs (pre ++ f :: v :: post)) (p.withArgs (pre ++ post)))) ∧
    ∀ (p : Plan) (pre : List String) (v : String) (post : List String), Boundary pre →
      "--" ∈ pre → SameReading (p.withArgs (pre ++ f :: v :: post)) (p.withArgs (pre ++ post)) := by
  have hinert : ∀ (p : Plan) (pre : List String) (v : String) (post : List String), Boundary pre →
      "--" ∈ pre ∨ outputPending pre = false → Silent v →
      SameReading (p.withArgs (pre ++ f :: v :: post)) (p.withArgs (pre ++ post)) := by
    intro p pre v post hpre hplace hv
    by_cases hclosed : "--" ∈ pre
    · exact sameReading_insert_of_mem hpre hf hclosed
    · exact sameReading_insert_of_silent hpre hf ho hclosed (hplace.resolve_left hclosed) hv
  refine ⟨fun p pre v post hpre => primarySource?_insert hpre hf, fun v => ⟨?_, ?_⟩,
    fun pre hpre => ⟨?_, ?_⟩, fun p pre v post hpre hclosed => sameReading_insert_of_mem hpre hf hclosed⟩
  · intro hv p pre post hpre hsettled
    exact hinert p pre v post hpre (.inr hsettled) hv
  · intro hall
    refine Classical.byContradiction fun hv => ?_
    obtain ⟨p, post, hne⟩ := exists_not_sameReading hf ho hv
    exact hne (hall p [] post .nil rfl)
  · intro hplace p v post hv
    exact hinert p pre v post hpre hplace hv
  · intro hall
    refine Classical.byContradiction fun hplace => ?_
    rw [not_or, Bool.not_eq_false] at hplace
    have hx : Silent "x" := by decide
    exact explicitOutput?_insert_ne hf hplace.1 hplace.2 hx (hall default "x" ["x"] hx).explicitOutput?

/-- A plan that links one source. -/
def linking (args : List String) : Plan := { name := "linking", sources := [⟨"main.c"⟩], extraArgs := args }

/-- A value for the linker that looks like no option goes unnoticed among values that look like a
source and like an output. -/
theorem sameReading_linking_gc :
    "-Xlinker" ∈ flagsWithValue ∧ "-Xlinker" ≠ "-o" ∧ Boundary ["-D", "-o=x", "-I", "a.c"] ∧
      outputPending ["-D", "-o=x", "-I", "a.c"] = false ∧ Silent "--gc-sections" ∧
      SameReading (linking ["-D", "-o=x", "-I", "a.c", "-Xlinker", "--gc-sections", "-c"])
        (linking ["-D", "-o=x", "-I", "a.c", "-c"]) := by
  have hf : "-Xlinker" ∈ flagsWithValue := by decide
  have ho : "-Xlinker" ≠ "-o" := by decide
  have hpre : Boundary ["-D", "-o=x", "-I", "a.c"] :=
    .valued (by decide) (.valued (by decide) .nil)
  have hsettled : outputPending ["-D", "-o=x", "-I", "a.c"] = false := by decide
  have hv : Silent "--gc-sections" := by decide
  obtain ⟨-, hsilent, -, -⟩ := sameReading_insert_iff "-Xlinker" hf ho
  exact ⟨hf, ho, hpre, hsettled, hv,
    (hsilent "--gc-sections").mp hv (linking []) _ ["-c"] hpre hsettled⟩

/-- A value for the linker that looks like an option is taken for one: the plan is no longer expected
to link. -/
theorem mode_linking_strip :
    Boundary [] ∧ "-Xlinker" ∈ flagsWithValue ∧ (linking []).mode = .link ∧
      (linking ["-Xlinker", "-S"]).mode = .assembly ∧
      (linking []).expectedOutput? .standard = some ⟨"a.out"⟩ ∧
      (linking ["-Xlinker", "-S"]).expectedOutput? .standard = some ⟨"main.s"⟩ :=
  ⟨.nil, by decide, by decide, by decide, by decide,
    by decide⟩

end Plan

end Conformance
