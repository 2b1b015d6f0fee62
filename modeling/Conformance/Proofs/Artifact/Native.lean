import Conformance.Inspection
import Conformance.Proofs.Check.Output

/-!
# Native artifacts

Whether a file has the native format of a platform is told by sniffing, by an inspection of the file, and
by a check of a run. An inspection counts and digests the file for itself.

* `Tally.onward_append`, `ArtifactSummary.ofContent_eq` : what is counted and digested is the content,
  however reads cut it into pieces;
* `Classification.ofFile_isEmpty`, `FileView.classify_isEmpty_eq_unknown` : what counts as empty;
* `nativeness_agrees` : the three say the same of every regular file.
-/

namespace Conformance

variable {view : FileView} {p : Path} {content : Bytes}

/-! ## Reading -/

/-- All pieces are counted and kept up to the first read that returns nothing. -/
theorem Tally.onward_append (t : Tally) (pieces rest : List Bytes) (hpieces : ∀ piece ∈ pieces, piece ≠ []) :
    t.onward (pieces ++ [] :: rest) =
      ⟨t.size + pieces.flatten.length, pieces.reverse ++ t.pieces⟩ := by
  induction pieces generalizing t with
  | nil => rfl
  | cons piece pieces ih =>
    have hpiece : piece.isEmpty = false := by
      simpa using hpieces piece List.mem_cons_self
    rw [List.cons_append, onward, hpiece, if_neg (by decide),
      ih _ fun q hq => hpieces q (List.mem_cons_of_mem _ hq)]
    simp [Nat.add_assoc]

/-- Reads cut a content into pieces, and then return nothing. -/
theorem exists_reads (content : Bytes) :
    ∃ pieces, reads content = pieces ++ [[]] ∧ (∀ piece ∈ pieces, piece ≠ []) ∧
      pieces.flatten = content := by
  fun_induction reads content with
  | case1 content hempty => exact ⟨[], rfl, nofun, (List.isEmpty_iff.mp hempty).symm⟩
  | case2 content hsome ih =>
    obtain ⟨pieces, hreads, hpieces, hflatten⟩ := ih
    have hsome : content ≠ [] := fun h => hsome (List.isEmpty_iff.mpr h)
    have hfirst : content.take readLength ≠ [] := by
      simp [List.take_eq_nil_iff, hsome, readLength]
    refine ⟨content.take readLength :: pieces, by rw [hreads]; rfl, ?_, ?_⟩
    · intro piece hpiece
      rcases List.mem_cons.mp hpiece with rfl | hpiece
      · exact hfirst
      · exact hpieces piece hpiece
    · rw [List.flatten_cons, hflatten, List.take_append_drop]

/-- A summary has the size and the digest of the whole content. -/
theorem ArtifactSummary.ofContent_eq (content : Bytes) : ofContent content =
    ⟨(Classification.ofFile content).kind, (Classification.ofFile content).isEmpty, content.length,
      Digest.sha256Hex content⟩ := by
  obtain ⟨pieces, hreads, hpieces, hflatten⟩ := exists_reads content
  unfold ofContent
  rw [hreads, Tally.onward_append {} pieces [] hpieces, hflatten]
  simp [Tally.message, hflatten]

/-! ## What counts as empty -/

namespace Classification

theorem ofBytes_isEmpty (bs : Bytes) : (ofBytes bs).isEmpty = bs.isEmpty := by
  unfold ofBytes
  cases bs <;> rfl

/-- A file counts as empty if it has no content, whatever is looked at of it. -/
theorem ofFile_isEmpty (content : Bytes) : (ofFile content).isEmpty = content.isEmpty := by
  have hwindow : (ofBytes (content.take sniffLength)).isEmpty = content.isEmpty := by
    rw [ofBytes_isEmpty]
    cases content <;> rfl
  simp only [ofFile]
  split
  · exact hwindow
  · rename_i hsniffed
    have hsome : content.isEmpty = false := by
      rw [← hwindow]
      simpa using fun h => hsniffed (.inr h)
    split
    · split
      · exact hsome.symm
      · exact hwindow
    · exact hwindow

end Classification

namespace FileView

theorem classify_of_file {executable : Bool} (h : view.find p = .ok (.file content executable)) :
    view.classify p = .ofFile content := by
  unfold classify read
  rw [h]

theorem classify_isEmpty_eq_unknown (h : (view.classify p).isEmpty = true) :
    (view.classify p).kind = .unknown := by
  unfold classify at h ⊢
  cases hread : view.read p with
  | error e => rfl
  | ok content =>
    rw [hread] at h
    obtain rfl := List.isEmpty_iff.mp ((Classification.ofFile_isEmpty content).symm.trans h)
    rfl

theorem summarize_of_file {executable : Bool} (h : view.find p = .ok (.file content executable)) :
    view.summarize p = .ok ⟨(view.classify p).kind, (view.classify p).isEmpty, content.length,
      Digest.sha256Hex content⟩ := by
  rw [classify_of_file h, ← ArtifactSummary.ofContent_eq]
  unfold summarize read
  rw [h]
  rfl

/-- An inspection, which looks at emptiness as well, says what sniffing says. -/
theorem native_inspection {s : ArtifactSummary} (platform : Platform)
    (hkind : s.kind = (view.classify p).kind) (hempty : s.isEmpty = (view.classify p).isEmpty) :
    (Inspection.ofSummary p s platform).native = view.isNativeFor p platform := by
  unfold Inspection.ofSummary isNativeFor Classification.isNativeFor
  dsimp only
  rw [hkind, hempty]
  cases h : (view.classify p).isEmpty with
  | false => rfl
  | true =>
    -- what is empty has the unknown format, which is native nowhere
    rw [classify_isEmpty_eq_unknown h]
    exact (beq_eq_false_iff_ne.mpr platform.nativeKind?_ne_unknown).symm

end FileView

/-! ## Agreement -/

/-- What a summary tells of a content, and of what sniffing says of it. -/
structure ArtifactSummary.Tells (s : ArtifactSummary) (content : Bytes) (c : Classification) : Prop where
  kind : s.kind = c.kind
  isEmpty : s.isEmpty = c.isEmpty
  size : s.size = content.length
  sha256 : s.sha256 = Digest.sha256Hex content
  isEmpty_iff : s.isEmpty = true ↔ s.size = 0
  /-- What is empty has no known format. -/
  unknown_of_isEmpty : c.isEmpty = true → c.kind = .unknown

/-- **An inspection of a file, sniffing and a check of a run agree on what is native**, where both the
inspected path and the checked one lead to the file. -/
theorem nativeness_agrees (store : FileStore) (cwd : Location) (p : Path) (content : Bytes)
    (executable : Bool) (platform : Platform) (leads : store.Leads cwd p (.file content executable)) :
    ∃ s, (store.view cwd).summarize p = .ok s ∧ s.Tells content ((store.view cwd).classify p) ∧
      (Inspection.ofSummary p s platform).native = (store.view cwd).isNativeFor p platform ∧
      ∀ (result : RunResult) (ws relative : Path) (path : Option Path), result.platform = platform →
        (Check.nativeBinary path).looksAt? result.plan result.platform = some relative →
        store.Leads cwd (ws.join relative) (.file content executable) →
        ((Check.nativeBinary path).evaluate (store.view cwd) result ws).passed =
          (Inspection.ofSummary p s platform).native := by
  have hfind : (store.view cwd).find p = .ok (.file content executable) :=
    FileStore.find_eq_ok_iff_leads.mpr leads
  have hempty : ((store.view cwd).classify p).isEmpty = content.isEmpty := by
    rw [FileView.classify_of_file hfind, Classification.ofFile_isEmpty]
  have hnative : ∀ s : ArtifactSummary, s.kind = ((store.view cwd).classify p).kind →
      s.isEmpty = ((store.view cwd).classify p).isEmpty →
      (Inspection.ofSummary p s platform).native = (store.view cwd).isNativeFor p platform :=
    fun s => FileView.native_inspection platform
  refine ⟨_, FileView.summarize_of_file hfind,
    ⟨rfl, rfl, rfl, rfl, ?_, FileView.classify_isEmpty_eq_unknown⟩, hnative _ rfl rfl, ?_⟩
  · rw [hempty, List.isEmpty_iff, List.length_eq_zero_iff]
  · rintro result ws relative path rfl hlooks hleads
    have hchecked : (path.orElse fun _ => result.expectedOutput?) = some relative := hlooks
    have hsame : (store.view cwd).classify (ws.join relative) = (store.view cwd).classify p := by
      have hfound := FileStore.find_eq_ok_iff_leads.mpr hleads
      rw [FileView.classify_of_file hfind, FileView.classify_of_file hfound]
    rw [hnative _ rfl rfl, FileView.isNativeFor, ← hsame]
    simp only [Check.evaluate, Check.onOutput, hchecked]
    exact nativeVerdict_passed relative

/-- What the objects of Linux start with. -/
def objectStart : Bytes := [0x7F, 0x45, 0x4C, 0x46, 2, 1]

/-- The workspace of `danglingFiles`, with an object where the link leads. -/
def linkedFiles : FileStore :=
  danglingFiles.put ["w", "gone"] (.file objectStart true)

theorem leads_linked : linkedFiles.Leads [] ⟨"/w/a.out"⟩ (.file objectStart true) where
  accepted := ⟨by decide, by decide, by decide⟩
  reaches := by
    refine ⟨FileStore.linkLimit - 1, ["w", "gone"], by decide, ?_⟩
    have hsteps : FileStore.steps ⟨"/w/a.out"⟩ = ["w", "a.out"] := by decide
    have hgone : FileStore.steps ⟨"gone"⟩ = ["gone"] := by decide
    have hdirectory : linkedFiles.isDirectoryAt ["w"] = true := by decide
    rw [hsteps]
    refine .entry (by decide) (by decide) (by decide)
      (show linkedFiles.entry? ["w"] = some (.directory true) by decide) nofun ?_
    refine .link hdirectory (by decide) (by decide)
      (show linkedFiles.entry? ["w", "a.out"] = some (.link ⟨"gone"⟩) by decide) ?_
    rw [hgone]
    exact .entry hdirectory (by decide) (by decide)
      (show linkedFiles.entry? ["w", "gone"] = some (.file objectStart true) by decide)
      nofun .done

/-- An object behind a link is native by all three. -/
theorem nativeness_agrees_linked :
    linkedFiles.Leads [] ⟨"/w/a.out"⟩ (.file objectStart true) ∧
      (linkedFiles.view []).isNativeFor ⟨"/w/a.out"⟩ .host = true ∧
      (Check.nativeBinary none).Passes (linkedFiles.view []) danglingRun ⟨"/w"⟩ ∧
      ∃ s, (linkedFiles.view []).summarize ⟨"/w/a.out"⟩ = .ok s ∧ s.size = objectStart.length ∧
        (Inspection.ofSummary ⟨"/w/a.out"⟩ s .host).native = true := by
  obtain ⟨s, hs, htells, hinspected, hchecked⟩ :=
    nativeness_agrees linkedFiles [] ⟨"/w/a.out"⟩ _ _ .host leads_linked
  have hnative : (linkedFiles.view []).isNativeFor ⟨"/w/a.out"⟩ .host = true := by
    rw [FileView.isNativeFor, FileView.classify_of_file (FileStore.find_eq_ok_iff_leads.mpr leads_linked)]
    decide
  have hpasses := hchecked danglingRun ⟨"/w"⟩ ⟨"a.out"⟩ none rfl (by decide)
    (show linkedFiles.Leads [] ((Path.mk "/w").join ⟨"a.out"⟩) _ from
      (show (Path.mk "/w").join ⟨"a.out"⟩ = ⟨"/w/a.out"⟩ by decide) ▸ leads_linked)
  exact ⟨leads_linked, hnative, hpasses.trans (hinspected.trans hnative), s, hs, htells.size,
    hinspected.trans hnative⟩

end Conformance
