import Conformance.Proofs.Host.Shell.Effect

/-!
# What commands without control do

* `Utility.Works` : a command that changes files, output and its input only;
* `works_utilities` : all commands without control are of that kind.
-/

namespace Conformance.Shell

open Machine

/-- A command changes files, output and its input, and nothing else. -/
def Utility.Works (u : Utility) : Prop := ∀ args m, Machine.Works m (u args m).2

/-! ## Commands on files -/

theorem works_touch : Utility.Works touch := by
  refine fun args m => Works.foldl Prod.snd (fun ⟨status, m⟩ f => ?_) args (.refl m)
  dsimp only
  split
  · exact .refl m
  · split
    · rename_i hopen
      exact (Works.refl m).openFile hopen
    · exact (Works.refl m).complain _

theorem works_rm : Utility.Works rm := by
  intro args m
  unfold rm
  dsimp only
  split
  · exact (Works.refl m).complain _
  · refine Works.foldl Prod.snd (fun ⟨status, m⟩ f => ?_) _ (.refl m)
    dsimp only
    split
    · split
      · exact .refl m
      · exact (Works.refl m).complain _
    · exact (Works.refl m).complain _
    · split
      · exact (Works.refl m).complain _
      · exact (Works.refl m).withFiles _

theorem works_mkdir : Utility.Works mkdir := by
  refine fun args m => Works.foldl Prod.snd (fun ⟨status, m⟩ d => ?_) _ (.refl m)
  dsimp only
  split
  · rename_i hchange
    exact (Works.refl m).changeFiles hchange
  · rename_i hchange
    exact (Works.refl m).changeFiles hchange

theorem works_rmdir : Utility.Works rmdir := by
  refine fun args m => Works.foldl Prod.snd (fun ⟨status, m⟩ d => ?_) args (.refl m)
  dsimp only
  split
  · exact (Works.refl m).complain _
  · split
    · exact (Works.refl m).complain _
    · split
      · exact (Works.refl m).complain _
      · exact (Works.refl m).withFiles _

theorem works_ls : Utility.Works ls := fun _ m =>
  (Works.foldl id (fun m _ => (Works.refl m).complain _) _ (.refl m)).say _

theorem works_basename : Utility.Works basename := by
  intro args m
  cases args with
  | nil => exact (Works.refl m).complain _
  | cons p rest => exact (Works.refl m).say _

theorem works_dirname : Utility.Works dirname := by
  intro args m
  cases args with
  | nil => exact (Works.refl m).complain _
  | cons p rest => exact (Works.refl m).say _

theorem works_transferOne (m : Machine) (name : String) (move deep : Bool) (source target : String) :
    m.Works (m.transferOne name move deep source target).2 := by
  unfold transferOne
  dsimp only
  split
  · exact (Works.refl m).complain _
  · split
    · exact (Works.refl m).complain _
    · split
      · split
        · split
          · exact (Works.refl m).complain _
          · dsimp only
            split <;> split <;> exact (Works.refl m).withFiles _
        · exact (Works.refl m).complain _
      · split
        · exact (Works.refl m).withFiles _
        · exact (Works.refl m).complain _

theorem works_transfer (name : String) (move : Bool) : Utility.Works (transfer name move) := by
  intro args m
  unfold transfer
  dsimp only
  split
  · exact Works.foldl Prod.snd (fun ⟨_, m⟩ _ => works_transferOne m ..) _ (.refl m)
  · exact (Works.refl m).complain _
  · exact (Works.refl m).complain _

theorem works_ln : Utility.Works ln := by
  intro args m
  unfold ln
  dsimp only
  split
  · generalize hchange : m.changeFiles _ _ = changed
    exact (Works.refl m).changeFiles hchange
  · exact (Works.refl m).complain _

theorem works_readlink : Utility.Works readlink := by
  refine fun args m => Works.foldl Prod.snd (fun ⟨status, m⟩ p => ?_) _ (.refl m)
  dsimp only
  split
  · exact (Works.refl m).say _
  · exact .refl m

theorem works_uname : Utility.Works uname := fun _ m => (Works.refl m).say _

theorem works_chmod : Utility.Works chmod := by
  intro args m
  cases args with
  | nil => exact (Works.refl m).complain _
  | cons mode files =>
    refine Works.foldl Prod.snd (fun ⟨status, m⟩ f => ?_) _ (.refl m)
    dsimp only
    split
    · split
      · exact (Works.refl m).withFiles _
      · exact .refl m
    · exact (Works.refl m).complain _

/-! ## Commands on text -/

theorem works_cat : Utility.Works cat := by
  intro args m
  have hin := (Works.refl m).inputs "cat" none (options args).2
  unfold cat
  dsimp only
  split
  · exact hin.say _
  · exact Works.foldl id (fun m _ => (Works.refl m).say _) _ hin

theorem works_excerpt (name : String) (need : Amount → Nat → Option Nat)
    (part : {α : Type} → Amount → Nat → List α → List α) : Utility.Works (excerpt name need part) := by
  intro args m
  unfold excerpt
  dsimp only
  split
  · exact (Works.refl m).complain _
  · split
    · have hin := (Works.refl m).inputs name none []
      exact Works.foldl id (fun m _ => (Works.refl m).say _) _ hin
    · refine Works.foldl (fun acc : Nat × Bool × Machine => acc.2.2) (fun ⟨status, first, m⟩ f => ?_) _
        (.refl m)
      dsimp only
      split
      · exact (Works.refl m).complain _
      · exact (Works.refl m).say _

theorem works_tr : Utility.Works tr := by
  intro args m
  have hin := (Works.refl m).withInput ""
  unfold tr
  dsimp only
  split
  · split
    · exact hin.say _
    · split
      · exact hin.say _
      · exact hin.complain _
  · exact hin.say _
  · exact hin.complain _

theorem works_wc : Utility.Works wc := by
  intro args m
  have hlines := fun files lines =>
    Works.foldl id (fun m s => (Works.refl m).say s) lines ((Works.refl m).inputs "wc" none files)
  unfold wc
  dsimp only
  split
  · exact (hlines _ _).say _
  · exact hlines _ _

theorem works_tee : Utility.Works tee := by
  intro args m
  refine Works.foldl Prod.snd (fun ⟨status, m⟩ f => ?_) _ (((Works.refl m).withInput "").say _)
  dsimp only
  split
  · rename_i hopen
    exact ((Works.refl m).openFile hopen).append _ _
  · rename_i hopen
    exact (Works.refl m).openFile hopen
  · exact (Works.refl m).complain _

theorem works_od : Utility.Works od := fun _ m => ((Works.refl m).inputs ..).say _

theorem works_cmp : Utility.Works cmp := by
  intro args m
  unfold cmp
  dsimp only
  repeat' split
  all_goals first | exact .refl m | exact (Works.refl m).complain _ | exact (Works.refl m).say _

theorem works_yes : Utility.Works yes := fun _ m => (Works.refl m).say _

/-! ## Commands on lines -/

theorem works_sort : Utility.Works sort := fun _ m => ((Works.refl m).inputs ..).sayLines _

theorem works_uniq : Utility.Works uniq := fun _ m => ((Works.refl m).inputs ..).sayLines _

theorem works_cut : Utility.Works cut := by
  intro args m
  unfold cut
  dsimp only
  split
  · exact (Works.refl m).complain _
  · exact ((Works.refl m).inputs ..).sayLines _

theorem works_grep : Utility.Works grep := by
  intro args m
  unfold grep
  dsimp only
  split
  · exact (Works.refl m).complain _
  · exact Works.foldl (fun acc : Nat × Bool × Machine => acc.2.2)
      (fun ⟨_, _, m⟩ _ => ((Works.refl m).inputs ..).sayLines _) _ (.refl m)

theorem works_sed : Utility.Works sed := by
  intro args m
  unfold sed
  rcases sed.sedArguments args with ⟨letters, scripts, rest⟩
  dsimp -zeta only
  generalize (if scripts.isEmpty = true then (rest.take 1, rest.drop 1) else (scripts, rest)) = given
  obtain ⟨scripts, files⟩ := given
  dsimp -zeta only
  extract_lets extended read
  have hread : ∀ acc f, Machine.Works acc.2.2 (read acc f).2.2 := by
    intro acc f
    dsimp only [read]
    split
    · exact .refl _
    · exact (Works.refl _).complain _
  let start : List (String × String) × Nat × Machine := ([], 0, m)
  have hstart : m.Works start.2.2 := .refl m
  have hall :=
    Works.foldl (fun acc : List (String × String) × Nat × Machine => acc.2.2) hread files hstart
  split
  · exact (Works.refl m).complain _
  · extract_lets edits edited
    split
    · exact (Works.refl m).complain _
    · split
      · exact ((Works.refl m).inputs "sed" none []).say _
      · split
        · refine Works.foldl id (fun m t => ?_) _ hall
          dsimp only [id]
          split
          · rename_i hopen
            exact ((Works.refl m).openFile hopen).append _ _
          · exact .refl m
        · exact hall.say _

theorem works_dd : Utility.Works dd := by
  intro args m
  unfold dd
  extract_lets given number block limit input file frame m₁
  have hread : m.Works m₁ := by
    dsimp only [m₁]
    split
    · exact (Works.refl m).withInput _
    · exact .refl m
  clear_value input m₁
  cases input with
  | error e => exact (Works.refl m).complain _
  | ok s =>
    dsimp -zeta only
    extract_lets behind text written records report
    have hwritten : m.Works written := by
      dsimp only [written]
      split
      · exact hread.say _
      · split
        · rename_i hopen
          exact (hread.openFile hopen).append _ _
        · exact hread
    split
    · exact hwritten
    · exact hwritten.complain _

/-! ## Commands that write -/

theorem works_runTest (name : String) : Utility.Works (runTest name) := by
  intro args m
  unfold runTest
  split
  · exact .refl m
  · exact (Works.refl m).complain _

theorem works_echo : Utility.Works echo := fun _ m => (Works.refl m).say _

theorem works_writeFormat (format : String) (args : List String) (m : Machine) :
    m.Works (writeFormat format args m).2 :=
  (Works.foldl id (fun m _ => (Works.refl m).complainHere _) _ (.refl m)).say _

theorem works_printf : Utility.Works printf := by
  intro args m
  unfold printf
  split
  · exact (Works.refl m).complainHere _
  · exact works_writeFormat ..
  · exact works_writeFormat ..

theorem works_expr : Utility.Works expr := by
  intro args m
  unfold expr
  split
  · exact (Works.refl m).complain _
  · split
    · exact (Works.refl m).say _
    · exact (Works.refl m).complain _
    · exact (Works.refl m).complain _

theorem works_seq : Utility.Works seq := by
  intro args m
  have hcount : ∀ none text, m.Works (if none = true then m else m.say text) := by
    intro none text
    split
    · exact .refl m
    · exact (Works.refl m).say _
  unfold seq
  dsimp only
  split
  · exact hcount _ _
  · exact hcount _ _
  · exact hcount _ _
  · exact (Works.refl m).complain _
  · exact (Works.refl m).complain _

theorem works_pwd : Utility.Works pwd := fun _ m => (Works.refl m).say _

theorem works_printVariables : Utility.Works printVariables := fun _ m => (Works.refl m).say _

theorem works_printSome : Utility.Works printSome := by
  intro args m
  unfold printSome
  split
  · exact works_printVariables [] m
  · refine Works.foldl Prod.snd (fun ⟨status, m⟩ name => ?_) args (.refl m)
    dsimp only
    split
    · exact (Works.refl m).say _
    · exact .refl m

/-! ## All of them -/

/-- What holds of all in a table holds of what is looked up there. -/
theorem of_lookup {α : Type} {P : α → Prop} {table : List (String × α)} {name : String} {x : α}
    (htable : ∀ e ∈ table, P e.2) (h : table.lookup name = some x) : P x := by
  obtain ⟨pre, post, heq, -⟩ := List.lookup_eq_some_iff.mp h
  exact htable (name, x) (heq ▸ List.mem_append_right _ List.mem_cons_self)

theorem works_builtins : ∀ e ∈ builtins, Utility.Works e.2 := by
  simp only [builtins, List.forall_mem_cons]
  exact ⟨fun _ m => .refl m, fun _ m => .refl m, fun _ m => .refl m, works_echo, works_printf,
    works_runTest _, works_pwd, by simp⟩

theorem works_programs : ∀ e ∈ programs, Utility.Works e.2 := by
  simp only [programs, List.forall_mem_cons]
  exact ⟨works_cat, works_excerpt _ _ _, works_excerpt _ _ _, works_tr, works_wc, works_touch, works_rm,
    works_mkdir, works_rmdir, works_ls, works_basename, works_dirname, works_transfer _ _,
    works_transfer _ _, works_ln, works_chmod, works_seq, works_printSome, works_tee, works_sort, works_grep,
    works_uniq, works_cut, works_sed, works_yes, works_expr, works_od, works_cmp, works_dd, works_readlink,
    works_uname, by simp⟩

/-- **A command without control works on files, on its input and on its output: it starts nothing, takes no
time, takes back nothing of what was written, and leaves the rest of the shell as it was.** -/
theorem works_utilities : ∀ e ∈ builtins ++ programs, Utility.Works e.2 :=
  List.forall_mem_append.mpr ⟨works_builtins, works_programs⟩

end Conformance.Shell
