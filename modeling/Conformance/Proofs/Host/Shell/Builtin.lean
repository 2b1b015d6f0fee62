import Conformance.Host.Shell.Builtin
import Conformance.Proofs.Host.Shell.Utility

/-!
# What commands of the shell do

* `Builtin.Acts` : a command that changes files, output and the shell itself;
* `acts_controls` : all commands of the shell that start nothing are of that kind.
-/

namespace Conformance.Shell

open Machine

variable {m m₁ : Machine}

/-- A command changes files, output and the shell, and nothing else. -/
def Builtin.Acts (b : Builtin) : Prop := ∀ args m, Machine.Acts m (b args m).2

namespace Machine.Acts

/-! ## Ends of commands -/

theorem complain (h : Acts m m₁) (s : String) : Acts m (m₁.complain s) :=
  h.trans ((Works.refl m₁).complain s).toActs

theorem say (h : Acts m m₁) (s : String) : Acts m (m₁.say s) := h.trans ((Works.refl m₁).say s).toActs

theorem setStatus (h : Acts m m₁) (status : Nat) : Acts m (m₁.setStatus status) := h.withFrame _

theorem done (h : Acts m m₁) (status : Nat) : Acts m (m₁.done status).2 := h.setStatus _

theorem fault (h : Acts m m₁) (why : String) : Acts m (m₁.fault why).2 := (h.complain _).done _

theorem fatal (h : Acts m m₁) (why : String) : Acts m (m₁.fatal why).2 := (h.complain _).setStatus _

theorem afterSignal (h : Acts m m₁) (signal : Nat) : Acts m (m₁.afterSignal signal) := by
  unfold Machine.afterSignal
  dsimp only
  split
  · exact (h.setStatus _).complain _
  · exact h.setStatus _

theorem trace (h : Acts m m₁) (streams : List (Nat × Target)) (words : List String) :
    Acts m (m₁.trace streams words) := by
  unfold Machine.trace
  split
  · exact ((h.withFrame _).complain _).withFrame _
  · exact h

theorem withNumber {name : String} {default : Nat} {args : List String} {go : Nat → Flow × Machine}
    (h : Acts m m₁) (hgo : ∀ n, Acts m (go n).2) : Acts m (withNumber name default args m₁ go).2 := by
  unfold Shell.withNumber
  split
  · exact hgo _
  · split
    · exact hgo _
    · exact h.fatal _

/-! ## Variables -/

theorem assign (h : Acts m m₁) (name value : String) : Acts m (m₁.assign name value) := h.withFrame _

theorem unassign (h : Acts m m₁) (name : String) : Acts m (m₁.unassign name) := h.withFrame _

theorem takeBack (h : Acts m m₁) (name : String) (old : Option Variable) : Acts m (m₁.takeBack name old) :=
  h.withFrame _

theorem giveOut (h : Acts m m₁) (name : String) : Acts m (m₁.giveOut name) := by
  unfold Machine.giveOut
  dsimp only
  split
  · exact h.withFrame _
  · exact (h.assign name "").withFrame _

theorem set {m₂ : Machine} {name value : String} (h : Acts m m₁) (hset : m₁.set name value = .ok m₂) :
    Acts m m₂ := by
  unfold Machine.set at hset
  split at hset
  · cases hset
  · split at hset
    · cases hset
    · cases hset
      exact h.assign _ _

theorem own (h : Acts m m₁) (name : String) : Acts m (m₁.own name) := by
  unfold Machine.own
  split
  · split
    · exact h
    · exact h.withFrame _
  · exact h

/-- Steps over a list, up to the first that fails. -/
theorem foldlM {α ε : Type} {f : Machine → α → Except ε Machine}
    (hf : ∀ {m₁ x m₂}, f m₁ x = .ok m₂ → Acts m₁ m₂) {xs : List α} {m₂ : Machine} (h : Acts m m₁)
    (hfold : xs.foldlM f m₁ = .ok m₂) : Acts m m₂ := by
  induction xs generalizing m₁ with
  | nil =>
    cases hfold
    exact h
  | cons x xs ih =>
    rw [List.foldlM_cons] at hfold
    cases hstep : f m₁ x with
    | error e =>
      rw [hstep] at hfold
      cases hfold
    | ok m' =>
      rw [hstep] at hfold
      exact ih (h.trans (hf hstep)) hfold

end Machine.Acts

/-! ## The commands -/

theorem acts_exit : Builtin.Acts exit := fun _ m =>
  (Acts.refl m).withNumber fun _ => (Acts.refl m).setStatus _

theorem acts_leaveLoops (name : String) (make : Nat → Flow) : Builtin.Acts (leaveLoops name make) := by
  refine fun args m => (Acts.refl m).withNumber fun n => ?_
  split
  · exact (Acts.refl m).fatal _
  · split
    · exact (Acts.refl m).done _
    · exact (Acts.refl m).setStatus _

theorem acts_return : Builtin.Acts return_ := fun _ m =>
  (Acts.refl m).withNumber fun _ => (Acts.refl m).setStatus _

theorem acts_bracket : Builtin.Acts bracket := by
  intro args m
  unfold bracket
  split
  · exact (works_runTest _ _ m).toActs.done _
  · exact (Acts.refl m).fault _

theorem acts_cd : Builtin.Acts cd := by
  intro args m
  unfold cd
  extract_lets args target before failed
  split
  · rename_i loc hresolve
    split
    · let there := { m with frame := { m.frame with directory := loc } }
      have hthere : m.Acts there := (Acts.refl m).withFrame _
      have hgo := ((hthere.assign "OLDPWD" before).giveOut "OLDPWD").assign "PWD" there.currentPath
      dsimp only
      split
      · exact (hgo.say _).done _
      · exact hgo.done _
    · exact (Acts.refl m).fault _
  · exact (Acts.refl m).fault _

theorem acts_shift : Builtin.Acts shift := by
  refine fun args m => (Acts.refl m).withNumber fun n => ?_
  split
  · exact (Acts.refl m).fatal _
  · exact ((Acts.refl m).withFrame _).done _

theorem acts_setOptions : Builtin.Acts setOptions := by
  intro args m
  unfold setOptions
  split
  · exact (Acts.refl m).fatal _
  · exact ((Acts.refl m).withFrame _).done _

theorem acts_unset : Builtin.Acts unset := by
  intro args m
  unfold unset
  split
  · exact ((Acts.refl m).withFrame _).done _
  · dsimp only
    split
    · exact (Acts.refl m).fatal _
    · exact (Acts.foldl (fun m _ => (Acts.refl m).unassign _) _ (.refl m)).done _

theorem acts_declare {mark : Machine → String → Machine} (hmark : ∀ m name, Machine.Acts m (mark m name))
    (name : String) : Builtin.Acts (declare name mark) := by
  intro args m
  unfold declare
  dsimp only
  split
  · rename_i hfold
    refine (Acts.foldlM (fun {m₁ a m₂} hone => ?_) (.refl m) hfold).done _
    split at hone
    · cases hone
    · split at hone
      · cases hset : m₁.set _ _ with
        | error why =>
          rw [hset] at hone
          cases hone
        | ok m' =>
          rw [hset] at hone
          cases hone
          exact ((Acts.refl m₁).set hset).trans (hmark _ _)
      · cases hone
        exact hmark _ _
  · exact (Acts.refl m).fatal _

theorem acts_local : Builtin.Acts local_ := by
  intro args m
  unfold local_
  split
  · exact (Acts.refl m).fatal _
  · exact (Acts.foldl (fun m _ => (Acts.refl m).own _) _ (.refl m)).trans
      (acts_declare (fun m _ => .refl m) _ _ _)

theorem acts_trap : Builtin.Acts trap := by
  intro args m
  unfold trap
  extract_lets own frame set line
  have hset : ∀ signals action, Machine.Acts m (set signals action).2 := by
    intro signals action
    dsimp only [set]
    split
    · exact ((Acts.refl m).complain _).done _
    · exact ((Acts.refl m).withFrame _).done _
  clear_value set
  split
  · exact ((Acts.refl m).say _).done _
  · exact hset _ _
  · exact hset _ _
  · exact hset _ _
  · exact hset _ _

theorem acts_umask : Builtin.Acts umask := by
  intro args m
  unfold umask
  split
  · exact ((Acts.refl m).say _).done _
  · exact ((Acts.refl m).say _).done _
  · split
    · exact ((Acts.refl m).withFrame _).done _
    · split
      · exact (Acts.refl m).done _
      · exact (Acts.refl m).fatal _

theorem acts_readLineInto : Builtin.Acts readLineInto := by
  intro args m
  have hset : ∀ {m₁ m₂ : Machine} {e : String × List Char}, m₁.set e.1 (String.ofList e.2) = .ok m₂ →
      m₁.Acts m₂ := fun h => (Acts.refl _).set h
  unfold readLineInto
  extract_lets raw names
  rcases takeLine raw m.frame.input.toList with ⟨line, rest, ended⟩
  dsimp only
  split
  · exact ((Acts.refl m).withFrame _).fault _
  · split
    · rename_i hfold
      exact (((Acts.refl m).withFrame _).foldlM hset hfold).done _
    · exact ((Acts.refl m).withFrame _).fault _

theorem acts_getopts : Builtin.Acts getopts := by
  intro args m
  unfold getopts
  split
  · extract_lets words index cs open_ word next finish silent
    have hfinish : ∀ {m₁}, m.Acts m₁ → ∀ status index letter rest,
        m.Acts (finish m₁ status index letter rest).2 := fun h _ _ _ _ =>
      (((h.assign _ _).assign _ _).withFrame _).done _
    clear_value finish next
    split
    · extract_lets behind failed
      have hfailed : ∀ why mark, m.Acts (failed why mark).2 := by
        intro why mark
        dsimp only [failed]
        split
        · exact hfinish ((Acts.refl m).assign _ _) ..
        · exact hfinish (((Acts.refl m).complain _).unassign _) ..
      clear_value failed
      split
      · exact hfailed _ _
      · split
        · split
          · exact hfinish ((Acts.refl m).assign _ _) ..
          · split
            · exact hfinish ((Acts.refl m).assign _ _) ..
            · exact hfailed _ _
        · exact hfinish ((Acts.refl m).assign _ _) ..
    · exact hfinish (.refl m) ..
  · exact (Acts.refl m).fatal _

theorem acts_describeAll (inWords : Bool) : Builtin.Acts (describeAll inWords) := by
  refine fun names m => (Works.foldl Prod.snd (fun ⟨status, m⟩ name => ?_) names (.refl m)).toActs.done _
  dsimp only
  split
  · exact (Works.refl m).say _
  · split
    · exact (Works.refl m).say _
    · exact .refl m

theorem acts_done (status : Nat) : Builtin.Acts fun _ m => m.done status := fun _ m =>
  (Acts.refl m).done status

/-- **A command of the shell that starts nothing changes the shell, files and output: it takes no time, and
takes back nothing of what was written.** -/
theorem acts_controls : ∀ e ∈ controls, Builtin.Acts e.2 := by
  simp only [controls, List.forall_mem_cons]
  exact ⟨acts_exit, acts_leaveLoops _ _, acts_leaveLoops _ _, acts_return, acts_bracket, acts_cd,
    acts_shift, acts_setOptions, acts_unset, acts_declare (fun m _ => (Acts.refl m).giveOut _) _,
    acts_declare (fun m _ => (Acts.refl m).withFrame _) _, acts_local, acts_trap, acts_umask, acts_done _,
    acts_done _, acts_done _, acts_done _, acts_done _, acts_done _, acts_readLineInto, acts_getopts,
    by simp⟩

end Conformance.Shell
