import Conformance.Text.Lowercase

/-!
# Parts of a text in lower case

A text is lower-cased as a whole: a capital sigma becomes the final form of the letter at the end of a
word, so a part of a text can look otherwise in it than alone.

* `lowerWithin`, `lowerFrom_append` : the lower-case form of a part between its neighbours;
* `Settled` : a part decides by itself on the form of each of its sigmas; one without any has nothing to
  decide on (`settled_of_not_mem`);
* `containsIgnoringCase_of_settled` : such a part is found in every text that it occurs in;
* `exists_lost` : any other part is lost in some text.
-/

namespace Conformance.Text

variable {before after u v a b : List Char} {c x : Char} {part name : String}

/-! ## Occurrences -/

theorem occursIn_iff (needle hay : List Char) : occursIn needle hay = true ↔ needle <:+: hay := by
  induction hay with
  | nil => rw [occursIn, List.isEmpty_iff, List.infix_nil]
  | cons c rest ih =>
    rw [occursIn, Bool.or_eq_true, List.isPrefixOf_iff_prefix, ih, List.infix_cons_iff]

theorem containsIgnoringCase_iff : containsIgnoringCase name part = true ↔
    lowerFrom [] part.toList <:+: lowerFrom [] name.toList := by
  unfold containsIgnoringCase contains lowercase
  rw [occursIn_iff, String.toList_ofList, String.toList_ofList]

/-! ## Neighbours -/

/-- The end of a word is not decided by these characters, as they are all passed over. -/
def undecided (cs : List Char) : Bool := cs.all fun c => inRanges caseIgnorableRanges c.toNat

theorem startsCased_append_of_undecided (h : undecided u = true) :
    startsCased (u ++ v) = startsCased v := by
  induction u with
  | nil => rfl
  | cons c u ih =>
    rw [undecided, List.all_cons, Bool.and_eq_true] at h
    unfold startsCased at ih ⊢
    rw [List.cons_append, List.dropWhile_cons, if_pos h.1]
    exact ih h.2

theorem startsCased_append_of_decided (h : undecided u = false) :
    startsCased (u ++ v) = startsCased u := by
  induction u with
  | nil => cases h
  | cons c u ih =>
    unfold startsCased at ih ⊢
    rw [List.cons_append, List.dropWhile_cons, List.dropWhile_cons]
    cases hc : inRanges caseIgnorableRanges c.toNat with
    | true =>
      rw [undecided, List.all_cons, hc, Bool.true_and] at h
      rw [if_pos rfl, if_pos rfl]
      exact ih h
    | false => rfl

theorem startsCased_of_undecided (h : undecided u = true) : startsCased u = false := by
  rw [← List.append_nil u, startsCased_append_of_undecided h]
  rfl

/-- A letter among the nearest characters stays there when others are added behind. -/
theorem startsCased_append (h : startsCased u = true) (v : List Char) : startsCased (u ++ v) = true := by
  cases hu : undecided u with
  | true =>
    rw [startsCased_of_undecided hu] at h
    cases h
  | false => rw [startsCased_append_of_decided hu, h]

/-! ## Parts -/

/-- A word ends between these characters, of which those before are given in reverse. -/
def endsWord (before after : List Char) : Bool := startsCased before && !startsCased after

/-- The lower-case form of a character between its neighbours, of which those before it are given in
reverse. -/
def lowerAt (before : List Char) (c : Char) (after : List Char) : List Char :=
  if c = 'Σ' then if endsWord before after then ['ς'] else ['σ'] else lowerChar c

/-- The lower-case form of a part of a text between its neighbours. -/
def lowerWithin (before after : List Char) : List Char → List Char
  | [] => []
  | c :: rest => lowerAt before c (rest ++ after) ++ lowerWithin (c :: before) after rest

theorem lowerFrom_append (before cs after : List Char) : lowerFrom before (cs ++ after) =
    lowerWithin before after cs ++ lowerFrom (cs.reverse ++ before) after := by
  induction cs generalizing before with
  | nil => rfl
  | cons c rest ih =>
    rw [lowerWithin, List.reverse_cons, List.append_assoc, List.append_assoc, List.singleton_append,
      ← ih]
    rfl

theorem lowerFrom_eq_lowerWithin (before cs : List Char) :
    lowerFrom before cs = lowerWithin before [] cs := by
  have h := lowerFrom_append before cs []
  rwa [List.append_nil, lowerFrom, List.append_nil] at h

theorem lowerWithin_append (before after u v : List Char) : lowerWithin before after (u ++ v) =
    lowerWithin before (v ++ after) u ++ lowerWithin (u.reverse ++ before) after v := by
  induction u generalizing before with
  | nil => rfl
  | cons c u ih =>
    rw [List.cons_append, lowerWithin, lowerWithin, ih, List.append_assoc, List.append_assoc,
      List.reverse_cons, List.append_assoc, List.singleton_append]

/-! ## Settled parts -/

/-- The form of a sigma is decided by these neighbours, whatever stands beyond them: a letter follows, or
no letter precedes, or a letter precedes and none follows. -/
def settlesSigma (before after : List Char) : Bool :=
  startsCased after || (!undecided before && !startsCased before) ||
    (startsCased before && !undecided after)

/-- Each sigma of a part is settled by the part, of which the characters `before` were passed. -/
def settledFrom (before : List Char) : List Char → Bool
  | [] => true
  | c :: rest => (c != 'Σ' || settlesSigma before rest) && settledFrom (c :: before) rest

/-- A text decides by itself on the form of each capital sigma in it. -/
def Settled (part : String) : Prop := settledFrom [] part.toList = true

instance (part : String) : Decidable (Settled part) := inferInstanceAs (Decidable (_ = true))

theorem settledFrom_of_not_mem {cs : List Char} (h : 'Σ' ∉ cs) (before : List Char) :
    settledFrom before cs = true := by
  induction cs generalizing before with
  | nil => rfl
  | cons c rest ih =>
    rw [List.mem_cons, not_or] at h
    rw [settledFrom, ih h.2, bne_iff_ne.mpr (Ne.symm h.1)]
    rfl

/-- A text without a capital sigma has nothing to decide on. -/
theorem settled_of_not_mem (h : 'Σ' ∉ part.toList) : Settled part := settledFrom_of_not_mem h []

theorem endsWord_of_settles (h : settlesSigma before after = true) (a b : List Char) :
    endsWord (before ++ a) (after ++ b) = endsWord before after := by
  unfold settlesSigma at h
  unfold endsWord
  cases hafter : startsCased after with
  | true => rw [startsCased_append hafter, Bool.not_true, Bool.and_false, Bool.and_false]
  | false =>
    rw [hafter, Bool.false_or, Bool.or_eq_true, Bool.and_eq_true, Bool.and_eq_true,
      Bool.not_eq_true', Bool.not_eq_true', Bool.not_eq_true'] at h
    rcases h with ⟨hdecided, hbefore⟩ | ⟨hbefore, hdecided⟩
    · rw [startsCased_append_of_decided hdecided, hbefore, Bool.false_and, Bool.false_and]
    · rw [startsCased_append hbefore, hbefore, startsCased_append_of_decided hdecided, hafter]

theorem lowerAt_of_settles (h : c = 'Σ' → settlesSigma before after = true) (a b : List Char) :
    lowerAt (before ++ a) c (after ++ b) = lowerAt before c after := by
  unfold lowerAt
  by_cases hc : c = 'Σ'
  · rw [if_pos hc, if_pos hc, endsWord_of_settles (h hc)]
  · rw [if_neg hc, if_neg hc]

/-- What is settled looks the same between any neighbours. -/
theorem lowerWithin_of_settled (a b : List Char) {cs : List Char} (h : settledFrom before cs = true) :
    lowerWithin (before ++ a) b cs = lowerWithin before [] cs := by
  induction cs generalizing before with
  | nil => rfl
  | cons c rest ih =>
    rw [settledFrom, Bool.and_eq_true, Bool.or_eq_true, bne_iff_ne] at h
    have hsettles : c = 'Σ' → settlesSigma before rest = true := fun hc => h.1.resolve_left (absurd hc)
    rw [lowerWithin, lowerWithin, List.append_nil, lowerAt_of_settles hsettles, ← List.cons_append,
      ih h.2]

/-- **A settled part is found wherever it occurs.** -/
theorem containsIgnoringCase_of_settled (hsettled : Settled part) (h : part.toList <:+: name.toList) :
    containsIgnoringCase name part = true := by
  obtain ⟨a, b, hname⟩ := h
  have hpart : lowerWithin a.reverse b part.toList = lowerWithin [] [] part.toList :=
    lowerWithin_of_settled a.reverse b hsettled
  rw [containsIgnoringCase_iff, ← hname, List.append_assoc, lowerFrom_append, lowerFrom_append,
    List.append_nil, hpart, ← lowerFrom_eq_lowerWithin]
  exact ⟨_, _, List.append_assoc _ _ _⟩

/-! ## Other parts -/

theorem exists_unsettled {cs : List Char} (h : settledFrom before cs = false) :
    ∃ u v, cs = u ++ 'Σ' :: v ∧ settlesSigma (u.reverse ++ before) v = false := by
  induction cs generalizing before with
  | nil => cases h
  | cons c rest ih =>
    cases hrest : settledFrom (c :: before) rest with
    | false =>
      obtain ⟨u, v, rfl, hunsettled⟩ := ih hrest
      refine ⟨c :: u, v, rfl, ?_⟩
      rwa [List.reverse_cons, List.append_assoc, List.singleton_append]
    | true =>
      rw [settledFrom, hrest, Bool.and_true, Bool.or_eq_false_iff, bne_eq_false_iff_eq] at h
      obtain ⟨rfl, hunsettled⟩ := h
      exact ⟨[], rest, rfl, hunsettled⟩

/-- If more neighbours take away occurrences of a letter from each place, they do so from a part. -/
theorem count_lowerWithin_le (h : ∀ before c after, (lowerAt (before ++ a) c (after ++ b)).count x ≤
      (lowerAt before c after).count x) (before after cs : List Char) :
    (lowerWithin (before ++ a) (after ++ b) cs).count x ≤ (lowerWithin before after cs).count x := by
  induction cs generalizing before with
  | nil => exact Nat.le_refl _
  | cons c rest ih =>
    rw [lowerWithin, lowerWithin, List.count_append, List.count_append, ← List.append_assoc,
      ← List.cons_append]
    exact Nat.add_le_add (h before c (rest ++ after)) (ih (c :: before))

/-- They take away one more where a sigma has another form without them. -/
theorem count_lowerWithin_lt (h : ∀ before c after, (lowerAt (before ++ a) c (after ++ b)).count x ≤
      (lowerAt before c after).count x)
    (hlt : (lowerAt (u.reverse ++ a) 'Σ' (v ++ b)).count x < (lowerAt u.reverse 'Σ' v).count x) :
    (lowerWithin a b (u ++ 'Σ' :: v)).count x < (lowerWithin [] [] (u ++ 'Σ' :: v)).count x := by
  have hu := count_lowerWithin_le h [] ('Σ' :: v) u
  have hv := count_lowerWithin_le h ('Σ' :: u.reverse) [] v
  simp only [lowerWithin_append, lowerWithin, List.count_append, List.append_nil, List.nil_append,
    List.cons_append] at hu hv ⊢
  omega

/-- A word that ends before more characters ends before fewer of them. -/
theorem endsWord_of_append (h : endsWord before (after ++ b) = true) : endsWord before after = true := by
  unfold endsWord at h ⊢
  rw [Bool.and_eq_true, Bool.not_eq_true'] at h ⊢
  refine ⟨h.1, Bool.eq_false_iff.mpr fun hafter => ?_⟩
  rw [startsCased_append hafter] at h
  cases h.2

/-- A word that ends behind few characters ends behind more of them. -/
theorem endsWord_append (h : endsWord before after = true) (a : List Char) :
    endsWord (before ++ a) after = true := by
  unfold endsWord at h ⊢
  rw [Bool.and_eq_true] at h ⊢
  exact ⟨startsCased_append h.1 a, h.2⟩

theorem count_final_lowerAt_le (b before : List Char) (c : Char) (after : List Char) :
    (lowerAt (before ++ []) c (after ++ b)).count 'ς' ≤ (lowerAt before c after).count 'ς' := by
  rw [List.append_nil]
  unfold lowerAt
  by_cases hc : c = 'Σ'
  · rw [if_pos hc, if_pos hc]
    cases hend : endsWord before (after ++ b) with
    | true => exact Nat.le_of_eq (by rw [endsWord_of_append hend])
    | false => exact Nat.zero_le _
  · exact Nat.le_of_eq (by rw [if_neg hc, if_neg hc])

theorem count_small_lowerAt_le (a before : List Char) (c : Char) (after : List Char) :
    (lowerAt (before ++ a) c (after ++ [])).count 'σ' ≤ (lowerAt before c after).count 'σ' := by
  rw [List.append_nil]
  unfold lowerAt
  by_cases hc : c = 'Σ'
  · rw [if_pos hc, if_pos hc]
    cases hend : endsWord before after with
    | true => exact Nat.le_of_eq (by rw [endsWord_append hend])
    | false =>
      cases endsWord (before ++ a) after
      · exact Nat.le_refl _
      · exact Nat.zero_le _
  · exact Nat.le_of_eq (by rw [if_neg hc, if_neg hc])

/-- A text with fewer of a letter does not contain the part. -/
theorem not_containsIgnoringCase_of_count
    (h : (lowerFrom [] name.toList).count x < (lowerFrom [] part.toList).count x) :
    containsIgnoringCase name part = false := by
  rw [Bool.eq_false_iff, ne_eq, containsIgnoringCase_iff]
  exact fun hpart => absurd (hpart.sublist.count_le x) (Nat.not_le_of_lt h)

theorem startsCased_letter : startsCased ['a'] = true := by decide +kernel

theorem lowerFrom_letter (before rest : List Char) :
    lowerFrom before ('a' :: rest) = 'a' :: lowerFrom ('a' :: before) rest := by
  have hletter : lowerChar 'a' = ['a'] := by decide +kernel
  rw [lowerFrom, if_neg (by decide), hletter]
  rfl

/-- A part with a final sigma that is not settled is lost before a letter. -/
theorem lost_before_letter (hpart : part.toList = u ++ 'Σ' :: v) (hu : startsCased u.reverse = true)
    (hv : undecided v = true) : containsIgnoringCase (part ++ "a") part = false := by
  -- the sigma is final alone and is not before the letter, and no other sigma becomes final there
  have hfinal : endsWord u.reverse v = true := by
    rw [endsWord, hu, startsCased_of_undecided hv]
    rfl
  have hmiddle : endsWord (u.reverse ++ []) (v ++ ['a']) = false := by
    rw [endsWord, startsCased_append_of_undecided hv, startsCased_letter, Bool.not_true, Bool.and_false]
  have hlt := count_lowerWithin_lt (x := 'ς') (count_final_lowerAt_le ['a']) (u := u) (v := v)
    (by rw [lowerAt, lowerAt, hfinal, hmiddle]; decide)
  refine not_containsIgnoringCase_of_count (x := 'ς') ?_
  rw [String.toList_append, show "a".toList = ['a'] from rfl, lowerFrom_append, lowerFrom_letter,
    lowerFrom_eq_lowerWithin [] part.toList, hpart, List.count_append]
  exact hlt

/-- A part with another sigma that is not settled is lost behind a letter. -/
theorem lost_behind_letter (hpart : part.toList = u ++ 'Σ' :: v) (hu : undecided u.reverse = true)
    (hv : startsCased v = false) : containsIgnoringCase ("a" ++ part) part = false := by
  -- the sigma is final behind the letter and is not alone, and no other sigma stops being final there
  have hmiddle : endsWord u.reverse v = false := by
    rw [endsWord, startsCased_of_undecided hu]
    rfl
  have hfinal : endsWord (u.reverse ++ ['a']) (v ++ []) = true := by
    rw [endsWord, startsCased_append_of_undecided hu, startsCased_letter, List.append_nil, hv]
    rfl
  have hlt := count_lowerWithin_lt (x := 'σ') (count_small_lowerAt_le ['a']) (u := u) (v := v)
    (by rw [lowerAt, lowerAt, hfinal, hmiddle]; decide)
  refine not_containsIgnoringCase_of_count (x := 'σ') ?_
  rw [String.toList_append, show "a".toList = ['a'] from rfl, List.singleton_append, lowerFrom_letter,
    lowerFrom_eq_lowerWithin, lowerFrom_eq_lowerWithin, hpart]
  exact hlt

/-- **A part that is not settled is lost in some text that it occurs in.** -/
theorem exists_lost (h : ¬ Settled part) :
    ∃ name : String, part.toList <:+: name.toList ∧ containsIgnoringCase name part = false := by
  obtain ⟨u, v, hpart, hunsettled⟩ := exists_unsettled (Bool.eq_false_iff.mpr h)
  rw [List.append_nil, settlesSigma, Bool.or_eq_false_iff, Bool.or_eq_false_iff] at hunsettled
  obtain ⟨⟨hv, hdecided⟩, hnone⟩ := hunsettled
  cases hu : startsCased u.reverse with
  | true =>
    have hpassed : undecided v = true := by simpa [hu] using hnone
    refine ⟨part ++ "a", ?_, lost_before_letter hpart hu hpassed⟩
    rw [String.toList_append]
    exact List.infix_append' [] _ _
  | false =>
    have hpassed : undecided u.reverse = true := by simpa [hu] using hdecided
    refine ⟨"a" ++ part, ?_, lost_behind_letter hpart hpassed hv⟩
    rw [String.toList_append]
    exact (List.suffix_append _ _).isInfix

end Conformance.Text
