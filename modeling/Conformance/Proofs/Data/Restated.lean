import Conformance.Proofs.Data.RoundTrip
import Mathlib.Data.List.Nodup
import Mathlib.Data.List.Perm.Basic

/-!
# Rearranged records

A record says the same in another order, with entries under names it does not know, and without
entries that say nothing.

* `Omissible`, `Restates` : what may be left out, and the records that say the same as another one;
* `Restates.lookup` : what stands under the names of the other one;
* `Recovered`, `recovered_of_restated` : a value that is read from all of them and from their texts.
-/

namespace Conformance

open scoped List

variable {α : Type} {defaulted : List String} {own entries : List (String × Data)}
  {e : String × Data} {d form : Data} {name : String} {a : α} {read : Data → Option α}

theorem Data.field?_record (entries : List (String × Data)) (name : String) :
    Data.field? (entries.map fun e => (Key.name e.1, e.2)) name =
      (entries.find? fun e => e.1 = name).map Prod.snd := by
  have hkey : (fun e : Key × Data => decide (e.1 = .name name)) ∘ (fun e : String × Data =>
      (Key.name e.1, e.2)) = fun e => decide (e.1 = name) := by
    funext e
    simp
  rw [Data.field?, List.find?_map, hkey, Option.map_map]
  rfl

theorem Data.record_injective : Function.Injective Data.record := by
  intro entries entries' h
  have hkeys : Function.Injective fun e : String × Data => (Key.name e.1, e.2) := by
    rintro ⟨s, d⟩ ⟨s', d'⟩ heq
    obtain ⟨hname, hdata⟩ := Prod.mk.inj heq
    exact Prod.ext (Key.name.inj hname) hdata
  exact List.map_injective_iff.mpr hkeys (Data.map.inj h)

/-! ## Records that say the same -/

/-- An entry that says nothing: its value is null, or it is the empty list where that is the
default. -/
def Omissible (defaulted : List String) (e : String × Data) : Prop :=
  e.2 = .null ∨ e.1 ∈ defaulted ∧ e.2 = .list []

/-- A record with some of the entries that say nothing left out, with entries added under other
names, and in any order. -/
inductive Restates (defaulted : List String) : Data → Data → Prop
  | record {own kept others entries : List (String × Data)} (kept_own : kept <+ own)
    (left_out : ∀ e ∈ own, e ∈ kept ∨ Omissible defaulted e)
    (unknown : ∀ e ∈ others, e.1 ∉ own.map Prod.fst) (order : entries ~ kept ++ others) :
    Restates defaulted (.record own) (.record entries)

theorem Restates.refl (own : List (String × Data)) : Restates defaulted (.record own) (.record own) := by
  have hnone : ∀ e ∈ ([] : List (String × Data)), e.1 ∉ own.map Prod.fst := nofun
  refine .record (List.Sublist.refl own) (fun e hmem => .inl hmem) hnone ?_
  rw [List.append_nil]

theorem Restates.exists_eq_record (h : Restates defaulted (.record own) d) :
    ∃ kept others entries, d = .record entries ∧ kept <+ own ∧
      (∀ e ∈ own, e ∈ kept ∨ Omissible defaulted e) ∧ (∀ e ∈ others, e.1 ∉ own.map Prod.fst) ∧
        entries ~ kept ++ others := by
  generalize hform : Data.record own = form at h
  obtain @⟨own', kept, others, entries, hkept, hleft, hunknown, horder⟩ := h
  obtain rfl := Data.record_injective hform
  exact ⟨kept, others, entries, rfl, hkept, hleft, hunknown, horder⟩

/-- What is found under the name of an entry that may be left out. -/
def Found (defaulted : List String) (e : String × Data) (value : Option Data) : Prop :=
  value = some e.2 ∨ Omissible defaulted e ∧ value = none

/-- **Under the name of an entry its value is found**, or nothing if it may be left out. -/
theorem Restates.lookup (h : Restates defaulted (.record own) d) (hnodup : (own.map Prod.fst).Nodup) :
    ∃ entries, d = .map entries ∧ ∀ e ∈ own, Found defaulted e (Data.field? entries e.1) := by
  obtain ⟨kept, others, entries, rfl, hkept, hleft, hunknown, horder⟩ := h.exists_eq_record
  refine ⟨_, rfl, fun e hmem => ?_⟩
  -- an entry under this name is no other than the one of the record
  have hown : ∀ e' ∈ entries, e'.1 = e.1 → e' = e := by
    intro e' hmem' hname
    rcases List.mem_append.mp (horder.mem_iff.mp hmem') with hin | hin
    · exact List.inj_on_of_nodup_map hnodup (hkept.subset hin) hmem hname
    · exact absurd (List.mem_map.mpr ⟨e, hmem, hname.symm⟩) (hunknown e' hin)
  rw [Data.field?_record]
  cases hfind : entries.find? fun e' => e'.1 = e.1 with
  | some e' =>
    have hname : e'.1 = e.1 := by simpa using List.find?_some hfind
    rw [hown e' (List.mem_of_find?_eq_some hfind) hname]
    exact .inl rfl
  | none =>
    have hmissing : e ∉ entries := by
      intro hin
      simpa using List.find?_eq_none.mp hfind e hin
    have homitted : e ∉ kept :=
      fun hin => hmissing (horder.mem_iff.mpr (List.mem_append_left others hin))
    exact .inr ⟨(hleft e hmem).resolve_left homitted, rfl⟩

theorem Found.eq_some {value : Option Data} (h : Found defaulted e value) (hnull : e.2 ≠ .null)
    (hlist : e.2 ≠ .list []) : value = some e.2 := by
  rcases h with hvalue | ⟨hempty | ⟨-, hempty⟩, -⟩
  · exact hvalue
  · exact absurd hempty hnull
  · exact absurd hempty hlist

/-! ## Values that are read back -/

/-- A value is read from its form, from every record that says the same, and from the texts of
these. -/
structure Recovered (defaulted : List String) (form : Data) (read : Data → Option α) (a : α) : Prop where
  own : read form = some a
  restated : ∀ d, Restates defaulted form d → read d = some a
  text : (Data.ofJson? (form.pretty ++ "\n")).bind read = some a
  restatedText : ∀ d, Restates defaulted form d → Json.Kept Json.depthLimit d →
    (Data.ofJson? (d.pretty ++ "\n")).bind read = some a

theorem recovered_of_restated (hkept : Json.Kept Json.depthLimit (.record own))
    (h : ∀ d, Restates defaulted (.record own) d → read d = some a) :
    Recovered defaulted (.record own) read a := by
  have htext : ∀ d, Restates defaulted (.record own) d → Json.Kept Json.depthLimit d →
      (Data.ofJson? (d.pretty ++ "\n")).bind read = some a := by
    intro d hd hkept
    rw [Data.ofJson?_pretty hkept]
    exact h d hd
  exact
    { own := h _ (Restates.refl own)
      restated := h
      text := htext _ (Restates.refl own) hkept
      restatedText := htext }

end Conformance
