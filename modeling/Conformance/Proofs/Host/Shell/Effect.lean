import Conformance.Host.Shell.Commands

/-!
# What commands do to the state of a shell

* `Written` : buffers to which more was written, and from which nothing was taken;
* `Machine.Acts` : nothing was started and no time has passed;
* `Machine.Works` : besides, of the shell itself only the input has changed;
* `Machine.Works.emit`, `Machine.Works.openFile`, `Machine.Works.inputs`, ... : what output, files and
  inputs do.
-/

namespace Conformance.Shell

/-! ## Buffers -/

/-- What was written to buffers is there still; more may stand behind it. -/
def Written (before after : Array String) : Prop :=
  ∀ n, ∃ more, after.getD n "" = before.getD n "" ++ more

section Buffers

variable {bs bs₁ bs₂ : Array String}

theorem Written.refl (bs : Array String) : Written bs bs := fun _ => ⟨"", by simp⟩

theorem Written.trans (h : Written bs bs₁) (h' : Written bs₁ bs₂) : Written bs bs₂ := by
  intro n
  obtain ⟨more, hmore⟩ := h n
  obtain ⟨rest, hrest⟩ := h' n
  exact ⟨more ++ rest, by rw [hrest, hmore, String.append_assoc]⟩

theorem written_modify (bs : Array String) (i : Nat) (s : String) : Written bs (bs.modify i (· ++ s)) := by
  intro n
  by_cases hn : n < bs.size
  · by_cases hi : i = n
    · exact ⟨s, by simp [Array.getD, hn, hi, Array.getElem_modify]⟩
    · exact ⟨"", by simp [Array.getD, hn, hi, Array.getElem_modify]⟩
  · exact ⟨"", by simp [Array.getD, hn]⟩

theorem written_push (bs : Array String) : Written bs (bs.push "") := by
  intro n
  refine ⟨"", ?_⟩
  rcases Nat.lt_trichotomy n bs.size with h | h | h
  · simp [Array.getD, h, Array.getElem_push, Nat.lt_succ_of_lt h]
  · simp [Array.getD, h]
  · simp [Array.getD, Nat.not_lt.mpr (Nat.le_of_lt h), Nat.not_lt.mpr h]

end Buffers

namespace Machine

variable {m m₁ m₂ : Machine}

/-! ## Commands of the shell -/

/-- The state after a command that changes the shell, but neither starts anything nor takes time. -/
structure Acts (m m' : Machine) : Prop where
  written : Written m.buffers m'.buffers
  rest : { m' with files := m.files, buffers := m.buffers, frame := m.frame } = m

namespace Acts

theorem refl (m : Machine) : Acts m m := ⟨.refl _, rfl⟩

theorem trans (h : Acts m m₁) (h' : Acts m₁ m₂) : Acts m m₂ where
  written := h.written.trans h'.written
  rest := (congrArg (fun m' : Machine =>
    { m' with files := m.files, buffers := m.buffers, frame := m.frame }) h'.rest).trans h.rest

/-- The frame is the shell's own. -/
theorem withFrame (h : Acts m m₁) (frame : Frame) : Acts m { m₁ with frame } :=
  h.trans ⟨.refl _, rfl⟩

theorem foldl {α : Type} {f : Machine → α → Machine} (hf : ∀ m x, Acts m (f m x)) (xs : List α)
    (h : Acts m m₁) : Acts m (xs.foldl f m₁) := by
  induction xs generalizing m₁ with
  | nil => exact h
  | cons x xs ih => exact ih (h.trans (hf m₁ x))

end Acts

/-! ## Commands without control -/

/-- The state after a command without control: it works on files, on its input and on its output. -/
structure Works (m m' : Machine) : Prop extends Acts m m' where
  frame : { m'.frame with input := m.frame.input } = m.frame

namespace Works

theorem refl (m : Machine) : Works m m := ⟨.refl m, rfl⟩

theorem trans (h : Works m m₁) (h' : Works m₁ m₂) : Works m m₂ where
  toActs := h.toActs.trans h'.toActs
  frame := (congrArg (fun f : Frame => { f with input := m.frame.input }) h'.frame).trans h.frame

theorem withFiles (h : Works m m₁) (files : FileStore) : Works m { m₁ with files } :=
  h.trans ⟨⟨.refl _, rfl⟩, rfl⟩

theorem withInput (h : Works m m₁) (input : String) :
    Works m { m₁ with frame := { m₁.frame with input } } :=
  h.trans ⟨⟨.refl _, rfl⟩, rfl⟩

/-- Steps over a list, each with some record of its own besides the state. -/
theorem foldl {α β : Type} (state : β → Machine) {f : β → α → β}
    (hf : ∀ acc x, Works (state acc) (state (f acc x))) (xs : List α) {acc : β}
    (h : Works m (state acc)) : Works m (state (xs.foldl f acc)) := by
  induction xs generalizing acc with
  | nil => exact h
  | cons x xs ih => exact ih (h.trans (hf acc x))

theorem append (h : Works m m₁) (loc : Location) (s : String) : Works m (m₁.append loc s) := by
  unfold Machine.append
  split
  · exact h.withFiles _
  · exact h

theorem emit (h : Works m m₁) (stream : Nat) (s : String) : Works m (m₁.emit stream s) := by
  unfold Machine.emit
  split
  · exact h.trans ⟨⟨written_modify _ _ _, rfl⟩, rfl⟩
  · exact h.append _ _
  · exact h

theorem say (h : Works m m₁) (s : String) : Works m (m₁.say s) := h.emit _ _

theorem complain (h : Works m m₁) (s : String) : Works m (m₁.complain s) := h.emit _ _

theorem complainHere (h : Works m m₁) (s : String) : Works m (m₁.complainHere s) := h.complain _

theorem sayLines (h : Works m m₁) (lines : List String) : Works m (m₁.sayLines lines) := h.say _

theorem openFile {p : Path} {keep : Bool} {target : Target} (h : Works m m₁)
    (hopen : m₁.openFile p keep = .ok (m₂, target)) : Works m m₂ := by
  unfold Machine.openFile at hopen
  simp only [bind, Except.bind, pure, Except.pure] at hopen
  split at hopen
  · cases hopen
    exact h
  · split at hopen
    · cases hopen
    · split at hopen
      · cases hopen
      · cases hopen
        exact h.withFiles _

theorem changeFiles {what : String} {f : FileStore → Except Cause FileStore} {changed : Bool}
    (h : Works m m₁) (hchange : m₁.changeFiles what f = (changed, m₂)) : Works m m₂ := by
  unfold Machine.changeFiles at hchange
  split at hchange
  · cases hchange
    exact h.withFiles _
  · cases hchange
    exact h.complain _
  · cases hchange
    exact h.complain _

theorem inputs (h : Works m m₁) (command : String) (limit : Option Nat) (files : List String) :
    Works m (inputs command limit files m₁).2.2 := by
  unfold Shell.inputs
  split
  · exact h.withInput _
  · refine foldl (fun acc : List String × Nat × Machine => acc.2.2) ?_ _ h
    rintro ⟨texts, status, m⟩ f
    dsimp only
    split
    · exact (refl m).withInput _
    · split
      · exact refl m
      · exact (refl m).complain _

end Works

end Machine

end Conformance.Shell
