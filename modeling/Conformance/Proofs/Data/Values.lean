import Conformance.Data
import Mathlib.Data.List.Forall2

/-!
# Values in documents

* `mapM_eq_some_iff`, `exists_forall₂` : lists that are read item by item;
* `Data.listOf?_map` : a list is read from the forms of its items;
* `Data.int32?_int`, `Data.word64?_int` : so is a number of the size of its type.
-/

namespace Conformance

variable {α β : Type} {as : List α}

theorem mapM_eq_some_iff {g : α → Option β} {bs : List β} :
    as.mapM g = some bs ↔ List.Forall₂ (fun a b => g a = some b) as bs := by
  constructor
  · intro h
    induction as generalizing bs with
    | nil =>
      cases h
      exact .nil
    | cons a as ih =>
      rw [List.mapM_cons] at h
      obtain ⟨b, hb, h⟩ := Option.bind_eq_some_iff.mp h
      obtain ⟨bs', hbs, h⟩ := Option.bind_eq_some_iff.mp h
      cases h
      exact .cons hb (ih hbs)
  · intro h
    induction h with
    | nil => rfl
    | cons hb _ ih =>
      rw [List.mapM_cons, hb, ih]
      rfl

theorem exists_forall₂ {R : α → β → Prop} (h : ∀ a ∈ as, ∃ b, R a b) : ∃ bs, List.Forall₂ R as bs := by
  induction as with
  | nil => exact ⟨[], .nil⟩
  | cons a as ih =>
    obtain ⟨b, hb⟩ := h a List.mem_cons_self
    obtain ⟨bs, hbs⟩ := ih fun a' hmem => h a' (List.mem_cons_of_mem _ hmem)
    exact ⟨b :: bs, .cons hb hbs⟩

namespace Data

theorem listOf?_map {read : Data → Option α} {form : α → Data}
    (h : ∀ a ∈ as, read (form a) = some a) : (Data.list (as.map form)).listOf? read = some as := by
  show (as.map form).mapM read = some as
  rw [List.mapM_map, mapM_eq_some_iff]
  induction as with
  | nil => exact .nil
  | cons a as ih =>
    exact .cons (h a List.mem_cons_self) (ih fun a' hmem => h a' (List.mem_cons_of_mem _ hmem))

theorem listOf?_texts (xs : List String) : (texts xs).listOf? text? = some xs :=
  listOf?_map fun _ _ => rfl

theorem int32?_int {i : Int} (h : int32Min ≤ i ∧ i ≤ int32Max) : (Data.int i).int32? = some i :=
  if_pos h

theorem word64?_int {n : Nat} (h : n < UInt64.size) : (Data.int n).word64? = some n := by
  have hbound : (0 : Int) ≤ n ∧ (n : Int) ≤ word64Max := by
    simp only [UInt64.size, word64Max] at h ⊢
    omega
  rw [word64?, intIn?, if_pos hbound]
  rfl

end Data

end Conformance
