import Conformance.Proofs.Text.Numeral
import Conformance.Report.Styled

/-!
# Sheets

What the console says about suites, apart from its layout.

* `Sheet.Entry`, `Sheet` : a case with its verdict, and a suite with its figures;
* `Sheet.layout` : the pieces that are written;
* `layout_injective` : sheets can be read off their pieces.
-/

namespace Conformance

open Styled

namespace Sheet

/-- What is said about a case. -/
inductive Verdict where
  | skip
  | pass
  | fail
  deriving DecidableEq, Repr

def Verdict.word : Verdict → String
  | .skip => "SKIP"
  | .pass => "PASS"
  | .fail => "FAIL"

def Verdict.color : Verdict → Color
  | .skip => .yellow
  | .pass => .green
  | .fail => .red

/-- A line of text behind a mark. -/
def line (mark s : String) : Piece := .text (mark ++ s ++ "\n")

/-- A case: its verdict, what stands behind it, and the lines below. -/
structure Entry where
  verdict : Verdict
  headline : String
  messages : List String
  command : Option String
  deriving DecidableEq, Repr

/-- The lines below the headline. -/
def Entry.details (e : Entry) : List Piece :=
  e.messages.map (line "  - ") ++ e.command.toList.map (line "    argv: ")

/-- The pieces of a case. -/
def Entry.pieces (e : Entry) : List Piece :=
  styled e.verdict.color true e.verdict.word ++ line ": " e.headline :: e.details

end Sheet

/-- What the console says about a suite: its name and cases, its figures, and the names of failed
cases. -/
structure Sheet where
  suite : String
  entries : List Sheet.Entry
  total : Nat
  passed : Nat
  failed : Nat
  skipped : Nat
  footer : Option (List String)
  deriving DecidableEq, Repr

namespace Sheet

variable {e e' : Entry} {es es' : List Entry} {rest rest' : List Piece} {mark s s' : String}
  {xs xs' : List String} {sheet sheet' : Sheet} {sheets sheets' : List Sheet}

/-- The figures of a suite. -/
def figures (sheet : Sheet) : String :=
  s!"\nSuite {sheet.suite}: total {sheet.total}, passed {sheet.passed}, " ++
    s!"failed {sheet.failed}, skipped {sheet.skipped}\n"

/-- The lines of a footer. -/
def footerPieces : Option (List String) → List Piece
  | some names => .text "Failed cases:\n" :: names.map (line "  - ")
  | none => []

/-- The pieces of a suite. -/
def pieces (sheet : Sheet) : List Piece :=
  sheet.entries.flatMap Entry.pieces ++ .text sheet.figures :: footerPieces sheet.footer

/-- The pieces of suites, with an empty line between them. -/
def layout : List Sheet → List Piece
  | [] => []
  | sheet :: rest => sheet.pieces ++ rest.flatMap fun other => .text "\n" :: other.pieces

/-! ## Lines -/

theorem line_injective (mark : String) : Function.Injective (line mark) := by
  intro s s' h
  have htext := congrArg String.toList (Piece.text.inj h)
  simp only [String.toList_append, List.append_assoc, List.append_cancel_left_eq,
    List.append_cancel_right_eq] at htext
  exact String.toList_inj.mp htext

theorem toList_text (h : Piece.text s = .text s') : s.toList = s'.toList :=
  congrArg String.toList (Piece.text.inj h)

/-- No line behind the mark comes next. -/
def Ends (mark : String) (rest : List Piece) : Prop := ∀ s ps, rest ≠ line mark s :: ps

theorem lines_inj (hrest : Ends mark rest) (hrest' : Ends mark rest')
    (h : xs.map (line mark) ++ rest = xs'.map (line mark) ++ rest') : xs = xs' ∧ rest = rest' := by
  induction xs generalizing xs' with
  | nil =>
    cases xs' with
    | nil => exact ⟨rfl, h⟩
    | cons x' xs' => exact absurd h (hrest x' _)
  | cons x xs ih =>
    cases xs' with
    | nil => exact absurd h.symm (hrest' x _)
    | cons x' xs' =>
      obtain ⟨hline, htail⟩ := List.cons.inj h
      obtain ⟨rfl, rfl⟩ := ih htail
      exact ⟨by rw [line_injective mark hline], rfl⟩

theorem ends_nil (mark : String) : Ends mark [] := fun _ _ => nofun

theorem ends_start (mark : String) (color : Color) (bold : Bool) :
    Ends mark (.start color bold :: rest) := fun _ _ => nofun

/-- A text with another start than the mark is no line behind it. -/
theorem ends_text (k : Nat) (hk : k ≤ mark.toList.length)
    (hne : s.toList.take k ≠ mark.toList.take k) : Ends mark (.text s :: rest) := by
  intro s' ps h
  have htext := toList_text (List.cons.inj h).1
  rw [htext, String.toList_append, String.toList_append, List.append_assoc,
    List.take_append_of_le_length hk] at hne
  exact hne rfl

/-! ## Cases -/

/-- No line below a case comes next. -/
def Fresh (rest : List Piece) : Prop := Ends "  - " rest ∧ Ends "    argv: " rest

theorem fresh_start (color : Color) (bold : Bool) : Fresh (.start color bold :: rest) :=
  ⟨ends_start _ _ _, ends_start _ _ _⟩

theorem Verdict.color_injective : Function.Injective Verdict.color := by
  intro v v' h
  cases v <;> cases v' <;> first | rfl | cases h

theorem commands_inj {c c' : Option String} (hrest : Ends "    argv: " rest)
    (hrest' : Ends "    argv: " rest')
    (h : c.toList.map (line "    argv: ") ++ rest = c'.toList.map (line "    argv: ") ++ rest') :
    c = c' ∧ rest = rest' := by
  obtain ⟨hlist, hrest⟩ := lines_inj hrest hrest' h
  refine ⟨?_, hrest⟩
  cases c <;> cases c' <;> simp_all

theorem ends_commands (c : Option String) (hrest : Fresh rest) :
    Ends "  - " (c.toList.map (line "    argv: ") ++ rest) := by
  cases c with
  | none => exact hrest.1
  | some c =>
    refine ends_text 3 (by decide) ?_
    rw [String.toList_append, String.toList_append, List.append_assoc,
      List.take_append_of_le_length (by decide)]
    decide

theorem entry_inj (hrest : Fresh rest) (hrest' : Fresh rest')
    (h : e.pieces ++ rest = e'.pieces ++ rest') : e = e' ∧ rest = rest' := by
  obtain ⟨verdict, headline, messages, command⟩ := e
  obtain ⟨verdict', headline', messages', command'⟩ := e'
  simp only [Entry.pieces, Entry.details, styled, List.cons_append, List.nil_append,
    List.append_assoc, List.cons.injEq, Piece.start.injEq, true_and] at h
  obtain ⟨⟨hcolor, -⟩, -, hheadline, hdetails⟩ := h
  obtain ⟨rfl, hcommand⟩ :=
    lines_inj (ends_commands command hrest) (ends_commands command' hrest') hdetails
  obtain ⟨rfl, hrest⟩ := commands_inj hrest.2 hrest'.2 hcommand
  rw [Verdict.color_injective hcolor, line_injective _ hheadline]
  exact ⟨rfl, hrest⟩

theorem fresh_entries (es : List Entry) (hrest : Fresh rest) :
    Fresh (es.flatMap Entry.pieces ++ rest) := by
  cases es with
  | nil => exact hrest
  | cons e es => exact fresh_start _ _

theorem entries_inj (hrest : Fresh (.text s :: rest)) (hrest' : Fresh (.text s' :: rest'))
    (h : es.flatMap Entry.pieces ++ .text s :: rest = es'.flatMap Entry.pieces ++ .text s' :: rest') :
    es = es' ∧ s = s' ∧ rest = rest' := by
  induction es generalizing es' with
  | nil =>
    cases es' with
    | nil =>
      obtain ⟨htext, hrest⟩ := List.cons.inj h
      exact ⟨rfl, Piece.text.inj htext, hrest⟩
    | cons e' es' => cases (List.cons.inj h).1
  | cons e es ih =>
    cases es' with
    | nil => cases (List.cons.inj h).1
    | cons e' es' =>
      rw [List.flatMap_cons, List.flatMap_cons, List.append_assoc, List.append_assoc] at h
      obtain ⟨rfl, htail⟩ := entry_inj (fresh_entries es hrest) (fresh_entries es' hrest') h
      obtain ⟨rfl, hrest⟩ := ih htail
      exact ⟨rfl, hrest⟩

/-! ## Figures -/

/-- A text with a number behind a mark. -/
def numbered (before : List Char) (mark : String) (n : Nat) : List Char :=
  before ++ mark.toList ++ Nat.toDigits 10 n

theorem digits_inj {ds ds' before before' : List Char} {c c' : Char}
    (hds : ∀ d ∈ ds, d.isDigit = true) (hds' : ∀ d ∈ ds', d.isDigit = true)
    (hc : c.isDigit = false) (hc' : c'.isDigit = false)
    (h : ds ++ c :: before = ds' ++ c' :: before') : ds = ds' ∧ c :: before = c' :: before' := by
  have hfront : ∀ {ds before : List Char} {c : Char}, (∀ d ∈ ds, d.isDigit = true) →
      c.isDigit = false → (ds ++ c :: before).takeWhile Char.isDigit = ds := by
    intro ds before c hds hc
    rw [List.takeWhile_append_of_pos hds, List.takeWhile_cons_of_neg (by simp [hc]), List.append_nil]
  have hsame : ds = ds' := by
    rw [← hfront hds hc, h, hfront hds' hc']
  subst hsame
  exact ⟨rfl, List.append_cancel_left h⟩

theorem numbered_inj {before before' : List Char} {n n' : Nat} {c : Char} (front : List Char)
    (hmark : mark.toList = front ++ [c]) (hc : c.isDigit = false)
    (h : numbered before mark n = numbered before' mark n') : before = before' ∧ n = n' := by
  have hreverse := congrArg List.reverse h
  simp only [numbered, hmark, List.reverse_append, List.reverse_cons, List.nil_append,
    List.append_assoc, List.cons_append] at hreverse
  have hdigits : ∀ n, ∀ d ∈ (Nat.toDigits 10 n).reverse, d.isDigit = true :=
    fun n d hmem => Numeral.isDigit_of_mem (List.mem_reverse.mp hmem)
  obtain ⟨hds, hbefore⟩ := digits_inj (hdigits n) (hdigits n') hc hc hreverse
  have hn := congrArg Decimal.ofDigits (List.reverse_inj.mp hds)
  rw [Decimal.ofDigits_toDigits, Decimal.ofDigits_toDigits] at hn
  simp only [List.cons.injEq, true_and, List.append_cancel_left_eq] at hbefore
  exact ⟨List.reverse_inj.mp hbefore, hn⟩

theorem toList_figures (sheet : Sheet) : sheet.figures.toList =
    numbered (numbered (numbered (numbered ("\nSuite ".toList ++ sheet.suite.toList) ": total "
      sheet.total) ", passed " sheet.passed) ", failed " sheet.failed) ", skipped " sheet.skipped ++
      ['\n'] := by
  have hnumber : ∀ n : Nat, (toString n).toList = Nat.toDigits 10 n := fun n => Nat.toList_repr
  have htext : ∀ s : String, toString s = s := fun _ => rfl
  simp only [figures, numbered, htext, hnumber, String.toList_append, List.append_assoc]
  rfl

theorem figures_inj (h : sheet.figures = sheet'.figures) :
    sheet.suite = sheet'.suite ∧ sheet.total = sheet'.total ∧ sheet.passed = sheet'.passed ∧
      sheet.failed = sheet'.failed ∧ sheet.skipped = sheet'.skipped := by
  have htext := congrArg String.toList h
  rw [toList_figures, toList_figures] at htext
  -- from the end of the line, since the name of the suite may hold figures as well
  obtain ⟨htext, hskipped⟩ :=
    numbered_inj ", skipped".toList rfl rfl (List.append_cancel_right htext)
  obtain ⟨htext, hfailed⟩ := numbered_inj ", failed".toList rfl rfl htext
  obtain ⟨htext, hpassed⟩ := numbered_inj ", passed".toList rfl rfl htext
  obtain ⟨htext, htotal⟩ := numbered_inj ": total".toList rfl rfl htext
  exact ⟨String.toList_inj.mp (List.append_cancel_left htext), htotal, hpassed, hfailed, hskipped⟩

theorem fresh_figures (sheet : Sheet) : Fresh (.text sheet.figures :: rest) := by
  have hstart : sheet.figures.toList.take 1 = ['\n'] := by
    rw [toList_figures]
    rfl
  exact ⟨ends_text 1 (by decide) (by rw [hstart]; decide),
    ends_text 1 (by decide) (by rw [hstart]; decide)⟩

/-! ## Suites -/

/-- Nothing comes next, or the pieces of another suite. -/
def Closed (rest : List Piece) : Prop := rest = [] ∨ ∃ ps, rest = .text "\n" :: ps

theorem Closed.ends (h : Closed rest) : Ends "  - " rest := by
  rcases h with rfl | ⟨ps, rfl⟩
  · exact ends_nil _
  · exact ends_text 1 (by decide) (by decide)

theorem Closed.ne_footer (h : Closed rest) (ps : List Piece) : rest ≠ .text "Failed cases:\n" :: ps := by
  rintro rfl
  rcases h with h | ⟨ps', h⟩
  · cases h
  · have htext := toList_text (List.cons.inj h).1
    revert htext
    decide

theorem footer_inj {footer footer' : Option (List String)} (hrest : Closed rest)
    (hrest' : Closed rest') (h : footerPieces footer ++ rest = footerPieces footer' ++ rest') :
    footer = footer' ∧ rest = rest' := by
  cases footer with
  | none =>
    cases footer' with
    | none => exact ⟨rfl, h⟩
    | some names' => exact absurd h (hrest.ne_footer _)
  | some names =>
    cases footer' with
    | none => exact absurd h.symm (hrest'.ne_footer _)
    | some names' =>
      obtain ⟨rfl, hrest⟩ := lines_inj hrest.ends hrest'.ends (List.cons.inj h).2
      exact ⟨rfl, hrest⟩

theorem pieces_inj (hrest : Closed rest) (hrest' : Closed rest')
    (h : sheet.pieces ++ rest = sheet'.pieces ++ rest') : sheet = sheet' ∧ rest = rest' := by
  simp only [pieces, List.append_assoc, List.cons_append] at h
  obtain ⟨hentries, hfigures, hfooter⟩ :=
    entries_inj (fresh_figures sheet) (fresh_figures sheet') h
  obtain ⟨hsuite, htotal, hpassed, hfailed, hskipped⟩ := figures_inj hfigures
  obtain ⟨hfooter, hrest⟩ := footer_inj hrest hrest' hfooter
  obtain ⟨suite, entries, total, passed, failed, skipped, footer⟩ := sheet
  obtain ⟨suite', entries', total', passed', failed', skipped', footer'⟩ := sheet'
  subst hentries hsuite htotal hpassed hfailed hskipped hfooter
  exact ⟨rfl, hrest⟩

theorem closed_others (sheets : List Sheet) :
    Closed (sheets.flatMap fun other => .text "\n" :: other.pieces) := by
  cases sheets with
  | nil => exact .inl rfl
  | cons sheet sheets => exact .inr ⟨_, rfl⟩

theorem others_inj (h : (sheets.flatMap fun other => .text "\n" :: other.pieces) =
    sheets'.flatMap fun other => .text "\n" :: other.pieces) : sheets = sheets' := by
  induction sheets generalizing sheets' with
  | nil =>
    cases sheets' with
    | nil => rfl
    | cons sheet' sheets' => cases h
  | cons sheet sheets ih =>
    cases sheets' with
    | nil => cases h
    | cons sheet' sheets' =>
      rw [List.flatMap_cons, List.flatMap_cons, List.cons_append, List.cons_append] at h
      obtain ⟨rfl, hrest⟩ :=
        pieces_inj (closed_others sheets) (closed_others sheets') (List.cons.inj h).2
      rw [ih hrest]

theorem pieces_ne_nil (sheet : Sheet) : sheet.pieces ≠ [] := by
  simp [pieces]

/-- **Sheets can be read off their pieces in one way only.** -/
theorem layout_injective : Function.Injective layout := by
  intro sheets sheets' h
  cases sheets with
  | nil =>
    cases sheets' with
    | nil => rfl
    | cons sheet' sheets' =>
      exact absurd (List.append_eq_nil_iff.mp h.symm).1 (pieces_ne_nil sheet')
  | cons sheet sheets =>
    cases sheets' with
    | nil => exact absurd (List.append_eq_nil_iff.mp h).1 (pieces_ne_nil sheet)
    | cons sheet' sheets' =>
      obtain ⟨rfl, hrest⟩ := pieces_inj (closed_others sheets) (closed_others sheets') h
      rw [others_inj hrest]

end Sheet

end Conformance
