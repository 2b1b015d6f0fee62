import Conformance.Proofs.Artifact.Magic
import Conformance.Proofs.Text.Cut
import Mathlib.Data.List.TakeWhile

/-!
# Textual modules

Bytes without the marks of a binary format are a textual module if their window is a text, possibly
cut, with a header line.

* `HasHeader` : a text in which a line starts with blanks and one of the header texts;
* `hasHeaderLine_iff` : the search over the lines finds it;
* `ofBytes_kind_eq_llvmIrText_iff` : which bytes are a textual module.
-/

namespace Conformance.Classification

variable {bs : Bytes} {line text : List Char}

/-! ## Header lines -/

/-- How the header lines of a textual module start. -/
def headerStarts : List String :=
  ["; ModuleID = ", "source_filename = ", "target datalayout = ", "target triple = "]

/-- A line that starts with blanks and one of the header texts. -/
def IsHeader (line : List Char) : Prop :=
  ∃ (blanks after : List Char) (start : String), line = blanks ++ (start.toList ++ after) ∧
    (∀ c ∈ blanks, c = ' ' ∨ c = '\t') ∧ start ∈ headerStarts

/-- A text with such a line, at its beginning or right behind a line feed. -/
def HasHeader (text : List Char) : Prop :=
  ∃ before line, text = before ++ line ∧ (before = [] ∨ before.getLast? = some '\n') ∧ IsHeader line

theorem isHeaderLine_iff : isHeaderLine line = true ↔ IsHeader line := by
  have hmarks : headerMarks = headerStarts.map String.toList := rfl
  have hfirst : ∀ start ∈ headerStarts, ∃ c cs, start.toList = c :: cs ∧ c ≠ ' ' ∧ c ≠ '\t' := by
    intro start hstart
    simp only [headerStarts, List.mem_cons, List.not_mem_nil, or_false] at hstart
    rcases hstart with rfl | rfl | rfl | rfl <;> exact ⟨_, _, rfl, by decide, by decide⟩
  simp only [isHeaderLine, hmarks, List.any_map, List.any_eq_true, Function.comp_apply,
    List.isPrefixOf_iff_prefix]
  constructor
  · rintro ⟨start, hstart, after, hafter⟩
    refine ⟨line.takeWhile fun c => c = ' ' || c = '\t', after, start, ?_, ?_, hstart⟩
    · rw [hafter, List.takeWhile_append_dropWhile]
    · intro c hc
      simpa using List.mem_takeWhile_imp hc
  · rintro ⟨blanks, after, start, rfl, hblanks, hstart⟩
    obtain ⟨c, cs, hchars, hspace, htab⟩ := hfirst start hstart
    have hskip : ∀ c ∈ blanks, (decide (c = ' ') || decide (c = '\t')) = true := by
      intro c hc
      simpa using hblanks c hc
    refine ⟨start, hstart, after, ?_⟩
    rw [List.dropWhile_append_of_pos hskip, hchars, List.cons_append,
      List.dropWhile_cons_of_neg (by simp [hspace, htab])]

theorem laterHeader_iff : hasHeaderLine.laterHeader text = true ↔
    ∃ before line, text = before ++ '\n' :: line ∧ IsHeader line := by
  induction text with
  | nil => simp [hasHeaderLine.laterHeader]
  | cons c cs ih =>
    rw [hasHeaderLine.laterHeader, Bool.or_eq_true, Bool.and_eq_true, decide_eq_true_eq,
      isHeaderLine_iff, ih]
    constructor
    · rintro (⟨rfl, hline⟩ | ⟨before, line, rfl, hline⟩)
      · exact ⟨[], cs, rfl, hline⟩
      · exact ⟨c :: before, line, rfl, hline⟩
    · rintro ⟨before, line, htext, hline⟩
      cases before with
      | nil =>
        obtain ⟨rfl, rfl⟩ := List.cons.inj htext
        exact .inl ⟨rfl, hline⟩
      | cons c' before =>
        obtain ⟨rfl, rfl⟩ := List.cons.inj htext
        exact .inr ⟨before, line, rfl, hline⟩

theorem hasHeaderLine_iff : hasHeaderLine text = true ↔ HasHeader text := by
  have heither : hasHeaderLine text = (isHeaderLine text || hasHeaderLine.laterHeader text) := by
    cases text with
    | nil => simp [hasHeaderLine, hasHeaderLine.laterHeader]
    | cons c cs => rfl
  rw [heither, Bool.or_eq_true, isHeaderLine_iff, laterHeader_iff]
  constructor
  · rintro (hline | ⟨before, line, rfl, hline⟩)
    · exact ⟨[], text, rfl, .inl rfl, hline⟩
    · refine ⟨before ++ ['\n'], line, ?_, .inr ?_, hline⟩
      · rw [List.append_assoc, List.singleton_append]
      · exact List.getLast?_concat
  · rintro ⟨before, line, rfl, rfl | hbefore, hline⟩
    · exact .inl hline
    · obtain ⟨front, rfl⟩ := List.getLast?_eq_some_iff.mp hbefore
      refine .inr ⟨front, line, ?_, hline⟩
      rw [List.append_assoc, List.singleton_append]

/-! ## The window -/

theorem sniffIrText?_eq_some_iff : sniffIrText? bs = some .llvmIrText ↔
    0 ∉ bs.take sniffLength ∧
      ∃ text, Utf8.decodeCut? (bs.take sniffLength) = some text ∧ HasHeader text := by
  unfold sniffIrText?
  dsimp only
  by_cases hzero : (bs.take sniffLength).contains 0 = true
  · have hmem : 0 ∈ bs.take sniffLength := List.contains_iff_mem.mp hzero
    simp [hmem]
  · have hmem : 0 ∉ bs.take sniffLength := fun hmem => hzero (List.contains_iff_mem.mpr hmem)
    rw [if_neg hzero]
    cases hdecoded : Utf8.decodeCut? (bs.take sniffLength) with
    | none => simp
    | some text => simp [hmem, hasHeaderLine_iff]

/-- **Which bytes are a textual module**: those without the marks of a binary format whose first 4096
bytes hold no zero, are the start of a text, and have a header line among their complete characters.
Bytes behind these have no influence, and a text may be cut anywhere. -/
theorem ofBytes_kind_eq_llvmIrText_iff (bs : Bytes) (h : ∀ kind, ¬ Shows bs kind) :
    ((ofBytes bs).kind = .llvmIrText ↔
      0 ∉ bs.take 4096 ∧ (∃ cs, bs.take 4096 <+: Utf8.encode cs) ∧
        ∃ text, Utf8.Complete (bs.take 4096) text ∧ HasHeader text) ∧
    (∀ other : Bytes, other.take 4096 = bs.take 4096 → (∀ kind, ¬ Shows other kind) →
      ofBytes other = ofBytes bs) ∧
    ∀ (cs : List Char) (n : Nat), ∃ text,
      Utf8.decodeCut? ((Utf8.encode cs).take n) = some text ∧
        Utf8.Complete ((Utf8.encode cs).take n) text ∧ text <+: cs := by
  have hwindow : sniffLength = 4096 := rfl
  refine ⟨?_, fun other hother hshows => ?_, Utf8.exists_decodeCut?_take⟩
  · have hkind : (ofBytes bs).kind = .llvmIrText ↔ sniffIrText? bs = some .llvmIrText := by
      rw [ofBytes_eq_of_not_shows h]
      cases htext : sniffIrText? bs with
      | none => simp
      | some kind => simp
    rw [hkind, sniffIrText?_eq_some_iff, hwindow]
    refine and_congr_right fun _ => ?_
    constructor
    · rintro ⟨text, hdecoded, hheader⟩
      obtain ⟨hstart, hcomplete⟩ := Utf8.decodeCut?_eq_some_iff.mp hdecoded
      exact ⟨hstart, text, hcomplete, hheader⟩
    · rintro ⟨hstart, text, hcomplete, hheader⟩
      exact ⟨text, Utf8.decodeCut?_eq_some_iff.mpr ⟨hstart, hcomplete⟩, hheader⟩
  · have hempty : other.isEmpty = bs.isEmpty := by
      cases other <;> cases bs <;> simp_all
    rw [ofBytes_eq_of_not_shows hshows, ofBytes_eq_of_not_shows h, ← sniffIrText?_take other,
      ← sniffIrText?_take bs, hwindow, hother, hempty]

/-- A module whose header line is indented and whose bytes end inside a character. -/
def cutModule : Bytes := Bytes.ofText "int x;\n \t; ModuleID = 'caf" ++ [0xC3]

/-- It is a textual module nevertheless. -/
theorem ofBytes_cutModule :
    (∀ kind, ¬ Shows cutModule kind) ∧ (ofBytes cutModule).kind = .llvmIrText := by
  have hshows : ∀ kind, ¬ Shows cutModule kind := by
    intro kind hkind
    have hfound := shows_iff.mp hkind
    revert hfound
    cases kind <;> decide +kernel
  have hstart : cutModule.take 4096 <+: Utf8.encode "int x;\n \t; ModuleID = 'café".toList := by
    decide +kernel
  have hdecoded : Utf8.decodeCut? (cutModule.take 4096) =
      some "int x;\n \t; ModuleID = 'caf".toList := by decide +kernel
  have hcomplete := (Utf8.decodeCut?_eq_some_iff.mp hdecoded).2
  have hheader : HasHeader "int x;\n \t; ModuleID = 'caf".toList :=
    hasHeaderLine_iff.mp (by decide +kernel)
  obtain ⟨hiff, -, -⟩ := ofBytes_kind_eq_llvmIrText_iff cutModule hshows
  exact ⟨hshows, hiff.mpr ⟨by decide +kernel, ⟨_, hstart⟩, _, hcomplete, hheader⟩⟩

end Conformance.Classification
