import Conformance.Plan
import Conformance.Proofs.Path.Name

/-!
# Predicted output names

A plan that names no output and stops before linking writes a file named after its first source.

* `Plan.NamedAfter` : a plan whose output is named after a source;
* `NamingRules.extensionFor?_forPlatform` : the extensions of every platform are non-empty and hold
  neither dot nor separator;
* `Plan.expectedOutput?_eq_stem_iff` : the predicted name is the stem with the extension exactly for
  plain stems, and plain stems are told apart by it.
-/

namespace Conformance

namespace NamingRules

/-- The extension of a mode that stops before linking. -/
theorem extensionFor?_forPlatform (platform : Platform) {mode : OutputMode}
    (h : mode = .object ∨ mode = .assembly ∨ mode = .irText ∨ mode = .bitcode) :
    ∃ ext, (forPlatform platform).extensionFor? mode = some ext ∧ ext ≠ "" ∧ '.' ∉ ext.toList ∧
      '/' ∉ ext.toList := by
  have hplain : ∀ ext ∈ ["o", "obj", "s", "ll", "bc"],
      ext ≠ "" ∧ '.' ∉ ext.toList ∧ '/' ∉ ext.toList := by decide +kernel
  obtain ⟨os, arch⟩ := platform
  obtain ⟨ext, he, hmem⟩ : ∃ ext, (forPlatform ⟨os, arch⟩).extensionFor? mode = some ext ∧
      ext ∈ ["o", "obj", "s", "ll", "bc"] := by
    rcases h with rfl | rfl | rfl | rfl <;> cases os <;>
      exact ⟨_, rfl, by simp [forPlatform, standard]⟩
  exact ⟨ext, he, hplain ext hmem⟩

end NamingRules

namespace Plan

/-- A plan whose output is named after a source of the given last name. -/
structure NamedAfter (p : Plan) (source : Path) (name : String) : Prop where
  /-- No output is named. -/
  implicit : p.explicitOutput? = none
  /-- The driver stops before linking, and writes a file. -/
  compiles : p.mode = .object ∨ p.mode = .assembly ∨ p.mode = .irText ∨ p.mode = .bitcode
  /-- The source is the first one. -/
  source_eq : p.primarySource? = some source
  /-- The source has a last name. -/
  name_eq : source.fileName? = some name

variable {p q : Plan} {source : Path} {name : String}

/-- The prediction replaces the extension of the stem, as if the stem were a path. -/
theorem NamedAfter.expectedOutput? (h : p.NamedAfter source name) {rules : NamingRules}
    {stem ext : String} (hs : source.stem? = some stem)
    (he : rules.extensionFor? p.mode = some ext) :
    p.expectedOutput? rules = some ((Path.mk stem).withExtension ext) := by
  unfold Plan.expectedOutput?
  rw [h.implicit]
  rcases h.compiles with hm | hm | hm | hm <;> rw [hm] at he ⊢ <;> simp [h.source_eq, hs, he]

/-- A stem is read back from the name with an extension. -/
theorem eq_of_append_ext {s t e f : String} (hs : s ≠ "") (ht : t ≠ "") (he : '.' ∉ e.toList)
    (hf : '.' ∉ f.toList) (h : s ++ "." ++ e = t ++ "." ++ f) : s = t := by
  have hsplit : ∀ {u g : String}, u ≠ "" → '.' ∉ g.toList →
      Path.splitName (u ++ "." ++ g) = (u, some g) := by
    intro u g hu hg
    have hname : u ++ "." ++ g = String.ofList (u.toList ++ '.' :: g.toList) := by
      rw [← String.toList_inj]
      simp
    rw [hname, Path.splitName_append (by simpa using hu) hg, String.ofList_toList,
      String.ofList_toList]
  have hpair := (hsplit hs he).symm.trans ((congrArg Path.splitName h).trans (hsplit ht hf))
  exact congrArg Prod.fst hpair

/-- **The predicted name of a compiled source.** It is one segment, and it is the stem with the
extension of the mode exactly if the stem has no inner dot and is no lone dot. Two such stems never
have one predicted name, whatever modes and platforms they are compiled for. -/
theorem expectedOutput?_eq_stem_iff (p : Plan) (platform : Platform) (source : Path)
    (name : String) (h : p.NamedAfter source name) :
    ∃ stem ext out, source.stem? = some stem ∧
      (name = stem ∧ '.' ∉ stem.toList.tail ∨ ∃ old, '.' ∉ old.toList ∧ name = stem ++ "." ++ old) ∧
      (NamingRules.forPlatform platform).extensionFor? p.mode = some ext ∧
      p.expectedOutput? (.forPlatform platform) = some out ∧ '/' ∉ out.text.toList ∧
      (out.text = stem ++ "." ++ ext ↔ Path.PlainStem stem) ∧
      ∀ (q : Plan) (elsewhere : Platform) (other : Path) (otherName otherStem : String),
        q.NamedAfter other otherName → other.stem? = some otherStem → Path.PlainStem stem →
        Path.PlainStem otherStem → q.expectedOutput? (.forPlatform elsewhere) = some out →
        otherStem = stem := by
  obtain ⟨stem, hs, hne, hslash, hname⟩ := Path.stem?_of_fileName? h.name_eq
  obtain ⟨ext, he, hext, hdot, hsep⟩ := NamingRules.extensionFor?_forPlatform platform h.compiles
  refine ⟨stem, ext, _, hs, hname, he, h.expectedOutput? hs he,
    Path.not_mem_withExtension hne hslash hext hsep, ⟨fun heq => ?_, fun hp => ?_⟩, ?_⟩
  · refine Classical.byContradiction fun hp => ?_
    have hlt := Path.length_withExtension_lt hp hslash hext
    rw [heq] at hlt
    exact absurd hlt (Nat.lt_irrefl _)
  · rw [Path.withExtension_of_plainStem hp hne hslash hext]
  · intro q elsewhere other otherName otherStem hq hos hp hop hout
    obtain ⟨stem', hs', hne', hslash', -⟩ := Path.stem?_of_fileName? hq.name_eq
    obtain rfl : stem' = otherStem := Option.some.inj (hs'.symm.trans hos)
    obtain ⟨ext', he', hext', hdot', -⟩ :=
      NamingRules.extensionFor?_forPlatform elsewhere hq.compiles
    rw [hq.expectedOutput? hs' he', Path.withExtension_of_plainStem hop hne' hslash' hext',
      Path.withExtension_of_plainStem hp hne hslash hext] at hout
    exact eq_of_append_ext hne' hne hdot' hdot (congrArg Path.text (Option.some.inj hout))

/-- A plan that compiles one source. -/
def compiling (source : String) : Plan :=
  { name := "compiling", sources := [⟨source⟩], extraArgs := ["-c"] }

theorem compiling_namedAfter {source name : String} (h : (Path.mk source).fileName? = some name) :
    (compiling source).NamedAfter ⟨source⟩ name := by
  have hoptions : (compiling source).options = ["-c"] := by
    change ["-c"].takeWhile (· != "--") = ["-c"]
    decide +kernel
  have hmode : (compiling source).mode = .object := by
    unfold Plan.mode
    rw [hoptions]
    decide +kernel
  have hout : (compiling source).explicitOutput? = none := by
    change namedOutput? none (compiling source).options = none
    rw [hoptions]
    decide +kernel
  exact ⟨hout, Or.inl hmode, rfl, h⟩

theorem expectedOutput?_compiling_nested :
    (compiling "src.d/unit.cc").NamedAfter ⟨"src.d/unit.cc"⟩ "unit.cc" ∧
      (compiling "src.d/unit.cc").expectedOutput? (.forPlatform ⟨.windows, .x86_64⟩) =
        some ⟨"unit.obj"⟩ := by
  have h : (compiling "src.d/unit.cc").NamedAfter ⟨"src.d/unit.cc"⟩ "unit.cc" :=
    compiling_namedAfter (by decide +kernel)
  obtain ⟨stem, ext, out, hs, -, he, hout, -, hiff, -⟩ :=
    expectedOutput?_eq_stem_iff _ ⟨.windows, .x86_64⟩ _ _ h
  obtain rfl : "unit" = stem := Option.some.inj ((by decide +kernel : _ = _).symm.trans hs)
  obtain rfl : "obj" = ext := Option.some.inj ((by decide +kernel : _ = _).symm.trans he)
  refine ⟨h, hout.trans (congrArg some ?_)⟩
  rw [Path.mk.injEq]
  exact (hiff.mpr (by decide +kernel)).trans (by decide +kernel)

/-- A stem with an inner dot loses what stands behind it, so that two sources get one name. -/
theorem expectedOutput?_compiling_inner_dot :
    (compiling "foo.tar.c").NamedAfter ⟨"foo.tar.c"⟩ "foo.tar.c" ∧
      (Path.mk "foo.tar.c").stem? = some "foo.tar" ∧
      (compiling "foo.tar.c").expectedOutput? (.forPlatform ⟨.linux, .x86_64⟩) = some ⟨"foo.o"⟩ ∧
      (Path.mk "foo.zip.c").stem? = some "foo.zip" ∧
      (compiling "foo.zip.c").expectedOutput? (.forPlatform ⟨.linux, .x86_64⟩) =
        some ⟨"foo.o"⟩ :=
  ⟨compiling_namedAfter (by decide +kernel), by decide +kernel, by decide +kernel,
    by decide +kernel, by decide +kernel⟩

end Plan

end Conformance
