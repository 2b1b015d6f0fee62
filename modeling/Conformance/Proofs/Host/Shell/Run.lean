import Conformance.Host.Shell.Run
import Conformance.Proofs.Host.Shell.Time

/-!
# What scripts do

* `AllGo` : with so many steps, whatever is run goes from one state to a later one;
* `goes_run`, `goes_expand`, `goes_runCommand`, `goes_runJobs`, ... : then so it does with one step more;
* `allGo` : so it does with any number of steps.
-/

namespace Conformance.Shell

open Machine

/-- With as many steps as given, whatever is run goes from one state to a later one. -/
structure AllGo (fuel : Nat) : Prop where
  run {script m flow m'} : run fuel script m = (flow, m') → m.Goes m'
  runLoop {untilSuccess test body status m flow m'} :
    runLoop fuel untilSuccess test body status m = (flow, m') → m.Goes m'
  runEach {name items body m flow m'} : runEach fuel name items body m = (flow, m') → m.Goes m'
  runSelect {s branches m flow m'} : runSelect fuel s branches m = (flow, m') → m.Goes m'
  matchesAny {s words m flow found m'} : matchesAny fuel s words m = (flow, found, m') → m.Goes m'
  expandAll {words m flow texts m'} : expandAll fuel words m = (flow, texts, m') → m.Goes m'
  expand {word f m flow f' m'} : expand fuel word f m = (flow, f', m') → m.Goes m'
  expandValue {name change quoted f m flow f' m'} :
    expandValue fuel name change quoted f m = (flow, f', m') → m.Goes m'
  redirect {redirections m flow worked m'} :
    redirect fuel redirections m = (flow, worked, m') → m.Goes m'
  runSimple {assignments words redirections m flow m'} :
    runSimple fuel assignments words redirections m = (flow, m') → m.Goes m'
  runAssignments {assignments m flow m'} : runAssignments fuel assignments m = (flow, m') → m.Goes m'
  runCommand {command args m flow m'} : runCommand fuel command args m = (flow, m') → m.Goes m'
  runFunction {body args m flow m'} : runFunction fuel body args m = (flow, m') → m.Goes m'
  runStarter {command args m flow m'} : runStarter fuel command args m = (flow, m') → m.Goes m'
  runText {front text m flow m'} : runText fuel front text m = (flow, m') → m.Goes m'
  runFile {front command args m flow m'} : runFile fuel front command args m = (flow, m') → m.Goes m'
  runNative {p m flow m'} : runNative fuel p m = (flow, m') → m.Goes m'
  runShell {shell args m flow m'} : runShell fuel shell args m = (flow, m') → m.Goes m'
  runFarewell {m flow m'} : runFarewell fuel m = (flow, m') → m.Goes m'
  runKill {args m flow m'} : runKill fuel args m = (flow, m') → m.Goes m'
  runJobs {limit m flow m'} : runJobs fuel limit m = (flow, m') → m.Goes m'

variable {fuel : Nat}

/-! ## Scripts and loops -/

theorem goes_run (ih : AllGo fuel) (script : Script) (m : Machine) : m.Goes (run (fuel + 1) script m).2 := by
  rw [run.eq_def]
  dsimp only
  split
  · exact .refl m
  cases script with
  | nothing => exact (Goes.refl m).withFrame _
  | simple line assignments words redirections =>
    dsimp only
    split
    · rename_i hsimple
      exact (ih.runSimple hsimple).ofFrame.withFrame _
    · exact (ih.runSimple rfl).ofFrame
  | pipe left right =>
    have hleft : m.Goes (run fuel left m.capture.1).2 := (Goes.capture m).trans (ih.run rfl)
    have hright : ∀ frame : Frame,
        m.Goes (run fuel right { (run fuel left m.capture.1).2 with frame }).2 :=
      fun _ => hleft.trans (ih.run rfl).ofFrame
    dsimp only
    split
    · split
      · exact (hright _).withFrame _
      · exact (hright _).withFrame _
    · exact hleft.withFrame _
  | negate body =>
    dsimp only
    split
    · rename_i hbody
      exact (ih.run hbody).ofFrame.withFrame _
    · exact (ih.run rfl).ofFrame
  | both left right =>
    dsimp only
    split
    · rename_i hleft
      have hafter := (ih.run hleft).ofFrame
      split
      · exact hafter.trans (ih.run rfl).ofFrame
      · exact hafter.withFrame _
    · exact (ih.run rfl).ofFrame
  | either left right =>
    dsimp only
    split
    · rename_i hleft
      have hafter := (ih.run hleft).ofFrame
      split
      · exact hafter.withFrame _
      · exact hafter.trans (ih.run rfl).ofFrame
    · exact (ih.run rfl).ofFrame
  | sequence first rest =>
    split <;> rename_i heq <;> cases heq
    · exact ih.run rfl
    · split
      · rename_i hfirst
        exact (ih.run hfirst).trans (ih.run rfl)
      · exact ih.run rfl
  | background body =>
    refine ⟨.refl _, Nat.le_succ _, rfl, fun limit hm => ⟨hm.deadline, hm.clock, fun job hjob => ?_⟩⟩
    rcases List.mem_append.mp hjob with hold | hnew
    · exact hm.jobs job hold
    · rw [List.mem_singleton.mp hnew]
      exact hm.clock
  | choice test yes no =>
    dsimp only
    split
    · rename_i htest
      have hafter := (ih.run htest).ofFrame
      split
      · exact hafter.trans (ih.run rfl).ofFrame
      · exact hafter.trans (ih.run rfl).ofFrame
    · exact (ih.run rfl).ofFrame
  | loop untilSuccess test body =>
    exact (ih.runLoop rfl).ofFrame.withFrame _
  | each name words body =>
    have heach : ∀ items {m₁}, m.Goes m₁ →
        m.Goes (runEach fuel name items body (m₁.setStatus 0).inLoop).2 :=
      fun _ _ h => h.trans (ih.runEach rfl).ofFrame
    cases words with
    | none => exact (heach _ (.refl m)).withFrame _
    | some words =>
      have hwords : m.Goes (expandAll fuel words m).2.2 := ih.expandAll rfl
      dsimp only
      split
      · exact (heach _ hwords).withFrame _
      · exact hwords
  | select subject branches =>
    dsimp only
    split
    · rename_i hexpand
      exact (ih.expand hexpand).trans (ih.runSelect rfl).ofFrame
    · rename_i hexpand
      exact ih.expand hexpand
  | subshell body =>
    have hbody : m.Goes (run fuel body m).2 := ih.run rfl
    dsimp only
    split
    · exact hbody.withFrame _
    · exact hbody.withFrame _
  | define name body => exact (Goes.refl m).withFrame _
  | malformed line why => exact ((Goes.refl m).withFrame _).acts ((Acts.refl _).fatal _)
  | redirected line body redirections =>
    dsimp only
    split
    · rename_i hredirect
      exact ((ih.redirect hredirect).ofFrame.trans (ih.run rfl)).withFrame _
    · rename_i hredirect
      exact (ih.redirect hredirect).ofFrame

theorem goes_runLoop (ih : AllGo fuel) (untilSuccess : Bool) (test body : Script) (status : Nat)
    (m : Machine) : m.Goes (runLoop (fuel + 1) untilSuccess test body status m).2 := by
  rw [runLoop]
  split
  · rename_i m₁ hpass
    have hstart := (Goes.refl m).pass hpass
    split
    · rename_i htest
      have htested := hstart.trans (ih.run htest).ofFrame
      dsimp only
      split
      · split
        · rename_i hbody
          exact (htested.trans (ih.run hbody).ofFrame).trans (ih.runLoop rfl)
        · rename_i hbody
          exact (htested.trans (ih.run hbody).ofFrame).withFrame _
        · rename_i hbody
          exact htested.trans (ih.run hbody).ofFrame
        · rename_i hbody
          exact (htested.trans (ih.run hbody).ofFrame).trans (ih.runLoop rfl)
        · rename_i hbody
          exact htested.trans (ih.run hbody).ofFrame
        · exact htested.trans (ih.run rfl).ofFrame
      · exact htested.withFrame _
    · exact hstart.trans (ih.run rfl).ofFrame
  · exact (Goes.refl m).pass rfl

theorem goes_runEach (ih : AllGo fuel) (name : String) (items : List String) (body : Script) (m : Machine) :
    m.Goes (runEach (fuel + 1) name items body m).2 := by
  cases items with
  | nil =>
    rw [runEach]
    exact .refl m
  | cons item items =>
    rw [runEach]
    split
    · exact (Goes.refl m).acts ((Acts.refl m).fatal _)
    · rename_i m₁ hset
      have hstart := (Goes.refl m).acts ((Acts.refl m).set hset)
      split
      · rename_i hbody
        exact (hstart.trans (ih.run hbody)).trans (ih.runEach rfl)
      · rename_i hbody
        exact (hstart.trans (ih.run hbody)).withFrame _
      · rename_i hbody
        exact hstart.trans (ih.run hbody)
      · rename_i hbody
        exact (hstart.trans (ih.run hbody)).trans (ih.runEach rfl)
      · rename_i hbody
        exact hstart.trans (ih.run hbody)
      · exact hstart.trans (ih.run rfl)

theorem goes_runSelect (ih : AllGo fuel) (s : String) (branches : List (List Word × Script)) (m : Machine) :
    m.Goes (runSelect (fuel + 1) s branches m).2 := by
  cases branches with
  | nil =>
    rw [runSelect]
    exact .refl m
  | cons branch branches =>
    rw [runSelect.eq_def]
    dsimp only
    split
    · rename_i hmatches
      exact (ih.matchesAny hmatches).trans (ih.run rfl)
    · rename_i hmatches
      exact (ih.matchesAny hmatches).trans (ih.runSelect rfl)
    · rename_i hmatches
      exact ih.matchesAny hmatches

/-! ## Words -/

theorem goes_matchesAny (ih : AllGo fuel) (s : String) (words : List Word) (m : Machine) :
    m.Goes (matchesAny (fuel + 1) s words m).2.2 := by
  cases words with
  | nil =>
    rw [matchesAny]
    exact .refl m
  | cons w ws =>
    rw [matchesAny]
    split
    · rename_i hexpand
      split
      · exact ih.expand hexpand
      · exact (ih.expand hexpand).trans (ih.matchesAny rfl)
    · rename_i hexpand
      exact ih.expand hexpand

theorem goes_expandAll (ih : AllGo fuel) (words : List Word) (m : Machine) :
    m.Goes (expandAll (fuel + 1) words m).2.2 := by
  cases words with
  | nil =>
    rw [expandAll]
    exact .refl m
  | cons w ws =>
    rw [expandAll]
    split
    · rename_i hexpand
      exact (ih.expand hexpand).trans (ih.expandAll rfl)
    · rename_i hexpand
      exact ih.expand hexpand

theorem goes_expand (ih : AllGo fuel) (word : Word) (f : Fields) (m : Machine) :
    m.Goes (expand (fuel + 1) word f m).2.2 := by
  cases word with
  | nil =>
    rw [expand]
    exact .refl m
  | cons part rest =>
    rw [expand.eq_def]
    dsimp only
    cases part with
    | text s quoted => exact ih.expand rfl
    | spread s => exact ih.expand rfl
    | arithmetic expr quoted =>
      dsimp only
      split
      · rename_i inner m₁ hexpr
        have hset : ∀ set : List (String × Int),
            m₁.Acts (set.foldr (fun e m => m.assign e.1 (toString e.2)) m₁) := by
          intro set
          rw [List.foldr_eq_foldl_reverse]
          exact Acts.foldl (fun m _ => (Acts.refl m).assign _ _) _ (.refl m₁)
        split
        · exact ((ih.expand hexpr).acts (hset _)).trans (ih.expand rfl)
        · exact ((ih.expand hexpr).acts ((Acts.refl _).complain _)).withFrame _
      · rename_i hexpr
        exact ih.expand hexpr
    | output script quoted =>
      have hscript : m.Goes (run fuel script m.capture.1).2 := (Goes.capture m).trans (ih.run rfl)
      dsimp only
      split
      · exact (hscript.withFrame _).trans (ih.expand rfl)
      · exact hscript.withFrame _
    | value name change quoted =>
      dsimp only
      split
      · rename_i hvalue
        exact (ih.expandValue hvalue).trans (ih.expand rfl)
      · exact ih.expandValue rfl

theorem goes_expandValue (ih : AllGo fuel) (name : String) (change : Change) (quoted : Bool) (f : Fields)
    (m : Machine) : m.Goes (expandValue (fuel + 1) name change quoted f m).2.2 := by
  rw [expandValue.eq_def]
  dsimp -zeta only
  extract_lets value missing plain pattern
  have hpattern : ∀ w make, m.Goes (pattern w make).2.2 := by
    intro w make
    dsimp only [pattern]
    split
    · rename_i hexpand
      exact ih.expand hexpand
    · rename_i hexpand
      exact ih.expand hexpand
  clear_value missing plain pattern
  cases change with
  | keep =>
    dsimp only
    split
    · exact ((Goes.refl m).acts ((Acts.refl m).complain _)).withFrame _
    · exact .refl m
  | length => exact .refl m
  | orElse orEmpty w =>
    dsimp only
    split
    · exact ih.expand rfl
    · exact .refl m
  | orAssign orEmpty w =>
    dsimp only
    split
    · split
      · rename_i hexpand
        exact (ih.expand hexpand).acts ((Acts.refl _).assign _ _)
      · rename_i hexpand
        exact ih.expand hexpand
    · exact .refl m
  | instead orEmpty w =>
    dsimp only
    split
    · exact .refl m
    · exact ih.expand rfl
  | require orEmpty w =>
    dsimp only
    split
    · split
      · rename_i hexpand
        exact ((ih.expand hexpand).acts ((Acts.refl _).complain _)).withFrame _
      · rename_i hexpand
        exact ih.expand hexpand
    · exact .refl m
  | refused => exact ((Goes.refl m).acts ((Acts.refl m).complain _)).withFrame _
  | dropStart longest w => exact hpattern _ _
  | dropEnd longest w => exact hpattern _ _

/-! ## Commands -/

theorem goes_redirect (ih : AllGo fuel) (redirections : List Redirection) (m : Machine) :
    m.Goes (redirect (fuel + 1) redirections m).2.2 := by
  cases redirections with
  | nil =>
    rw [redirect]
    exact .refl m
  | cons redirection rest =>
    obtain ⟨stream, direction, target⟩ := redirection
    rw [redirect.eq_def]
    dsimp only
    split
    · rename_i m₁ hexpand
      have hstart := ih.expand hexpand
      have hfailed : ∀ s, m.Goes ((m₁.complainHere s).setStatus 2) := fun s =>
        (hstart.acts ((Acts.refl m₁).complain _)).withFrame _
      have hrest : ∀ {m₂}, m.Goes m₂ → m.Goes (redirect fuel rest m₂).2.2 := fun h =>
        h.trans (ih.redirect rfl)
      split
      · exact hrest (hstart.withFrame _)
      · split
        · exact hrest (hstart.withFrame _)
        · exact hfailed _
      · split
        · exact hrest (hstart.withFrame _)
        · split
          · exact hrest (hstart.withFrame _)
          · split
            · exact hrest hstart
            · exact hfailed _
      · split
        · rename_i hopen
          exact hrest ((hstart.acts ((Works.refl m₁).openFile hopen).toActs).withFrame _)
        · exact hfailed _
    · rename_i hexpand
      exact ih.expand hexpand

theorem goes_runAssignments (ih : AllGo fuel) (assignments : List (String × Word)) (m : Machine) :
    m.Goes (runAssignments (fuel + 1) assignments m).2 := by
  cases assignments with
  | nil =>
    rw [runAssignments]
    exact .refl m
  | cons assignment rest =>
    rw [runAssignments.eq_def]
    dsimp only
    split
    · rename_i hexpand
      split
      · rename_i hset
        exact ((ih.expand hexpand).acts ((Acts.refl _).set hset)).trans (ih.runAssignments rfl)
      · exact (ih.expand hexpand).acts ((Acts.refl _).fatal _)
    · rename_i hexpand
      exact ih.expand hexpand

theorem goes_runSimple (ih : AllGo fuel) (assignments : List (String × Word)) (words : List Word)
    (redirections : List Redirection) (m : Machine) :
    m.Goes (runSimple (fuel + 1) assignments words redirections m).2 := by
  rw [runSimple.eq_def]
  dsimp only
  split
  · rename_i argv m₁ hexpand
    have hexpanded := (ih.expandAll hexpand).ofFrame
    split
    · rename_i m₂ hredirect
      have hredirected := hexpanded.trans (ih.redirect hredirect)
      split
      · rename_i m₃ hassign
        have htraced : ∀ streams shown, m.Goes (m₃.trace streams shown) := fun _ _ =>
          (hredirected.trans (ih.runAssignments hassign)).acts ((Acts.refl m₃).trace _ _)
        split
        · exact ((htraced _ _).withFrame _).withFrame _
        · split
          · rename_i command args _ m₄ hpass
            have hgiven := Acts.foldl (fun m name => (Acts.refl m).giveOut name) (assignments.map Prod.fst)
              (.refl m₄)
            have hcommand : m.Goes (runCommand fuel command args
                ((assignments.map Prod.fst).foldl Machine.giveOut m₄)).2 :=
              (((htraced _ _).pass hpass).acts hgiven).trans (ih.runCommand rfl)
            split
            · exact hcommand.withFrame _
            · exact (hcommand.withFrame _).acts
                (Acts.foldl (fun m _ => (Acts.refl m).takeBack _ _) _ (.refl _))
          · exact (htraced _ _).pass rfl
      · exact hredirected.trans (ih.runAssignments rfl)
    · rename_i hredirect
      exact (hexpanded.trans (ih.redirect hredirect)).withFrame _
  · rename_i hexpand
    exact (ih.expandAll hexpand).ofFrame

theorem goes_runCommand (ih : AllGo fuel) (command : String) (args : List String) (m : Machine) :
    m.Goes (runCommand (fuel + 1) command args m).2 := by
  rw [runCommand.eq_def]
  dsimp only
  split
  · exact ih.runFunction rfl
  · split
    · rename_i hcontrol
      exact (Goes.refl m).acts (of_lookup acts_controls hcontrol _ _)
    · rename_i hbuiltin
      exact ((Goes.refl m).acts (of_lookup works_builtins hbuiltin _ _).toActs).withFrame _
    · split
      · exact ih.runStarter rfl
      · have hfile : m.Goes (runFile fuel "" command args
            { m with started := m.started + 1, frame := { m.frame with number := m.nextNumber } }).2 :=
          (Goes.start m _).trans (ih.runFile rfl)
        split
        · split
          · exact (hfile.withFrame _).acts ((Acts.refl _).afterSignal _)
          · exact hfile.withFrame _
        · exact hfile.withFrame _

theorem goes_runFunction (ih : AllGo fuel) (body : Script) (args : List String) (m : Machine) :
    m.Goes (runFunction (fuel + 1) body args m).2 := by
  rw [runFunction.eq_def]
  dsimp only
  split
  · rename_i hbody
    exact (ih.run hbody).ofFrame
  · rename_i after _ hbody
    have hown : ∀ own : List (String × Option Variable),
        after.Acts (own.foldl (fun m e => m.takeBack e.1 e.2) after) := fun own =>
      Acts.foldl (fun m _ => (Acts.refl m).takeBack _ _) own (.refl after)
    exact ((ih.run hbody).ofFrame.acts (hown _)).withFrame _

theorem goes_runStarter (ih : AllGo fuel) (command : String) (args : List String) (m : Machine) :
    m.Goes (runStarter (fuel + 1) command args m).2 := by
  rw [runStarter.eq_def]
  dsimp only
  split
  · split
    · exact (Goes.refl m).acts ((Acts.refl m).fatal _)
    · split
      · rename_i htext
        exact ih.runText htext
      · exact ih.runText rfl
  · exact ih.runKill rfl
  · split
    · rename_i m₁ hjobs
      have hstruck := Acts.foldl (fun m (s : Nat × Nat) => (Acts.refl m).afterSignal s.2) m₁.struck (.refl m₁)
      have hended : m.Goes { m₁.struck.foldl (fun m s => m.afterSignal s.2) m₁ with struck := [] } :=
        ((ih.runJobs hjobs).acts hstruck).withJobs (fun _ hjob => hjob) _ _
      split
      · exact hended.withFrame _
      · split
        · exact hended.withFrame _
        · exact hended.acts ((Acts.refl _).fault _)
    · exact ih.runJobs rfl
  · split
    · exact (Goes.refl m).withFrame _
    · split
      · rename_i hfile
        exact ih.runFile hfile
      · exact ih.runFile rfl
  · exact ih.runText rfl
  · split
    · exact (Goes.refl m).withFrame _
    · exact (Goes.refl m).acts (acts_describeAll _ _ m)
    · exact (Goes.refl m).acts (acts_describeAll _ _ m)
    · exact ih.runCommand rfl
    · exact ih.runCommand rfl
  · exact (Goes.refl m).acts (acts_describeAll _ _ m)

/-! ## Programs -/

theorem goes_runText (ih : AllGo fuel) (front text : String) (m : Machine) :
    m.Goes (runText (fuel + 1) front text m).2 := by
  rw [runText]
  exact ih.run rfl

theorem goes_runFile (ih : AllGo fuel) (front command : String) (args : List String) (m : Machine) :
    m.Goes (runFile (fuel + 1) front command args m).2 := by
  rw [runFile.eq_def]
  dsimp only
  split
  · exact ih.runNative rfl
  · exact ((Goes.refl m).acts ((Acts.refl m).complain _)).withFrame _
  · exact ((Goes.refl m).acts ((Acts.refl m).complain _)).withFrame _

theorem goes_runNative (ih : AllGo fuel) (p : Host.Program) (m : Machine) :
    m.Goes (runNative (fuel + 1) p m).2 := by
  obtain ⟨name, title, args⟩ := p
  rw [runNative.eq_def]
  dsimp only
  split
  · exact ih.runShell rfl
  · split
    · rename_i m₁ hpass
      have hstart := (Goes.refl m).pass hpass
      split
      · split
        · exact (hstart.acts ((Acts.refl m₁).complain _)).withFrame _
        · split
          · rename_i hjobs
            exact ((hstart.trans (ih.runJobs hjobs)).pass rfl).withFrame _
          · exact hstart.trans (ih.runJobs rfl)
        · exact (hstart.acts ((Acts.refl m₁).complain _)).withFrame _
      · have hdeclared : ∀ frame given,
            m.Goes (declare "env" Machine.giveOut given { m₁ with frame }).2 := fun _ _ =>
          (hstart.withFrame _).acts (acts_declare (fun m _ => (Acts.refl m).giveOut _) _ _ _)
        split
        · exact ((hdeclared _ _).acts (works_printVariables _ _).toActs).withFrame _
        · split
          · exact (hdeclared _ _).trans (ih.runFile rfl)
          · exact ((hdeclared _ _).acts ((Acts.refl _).complain _)).withFrame _
      · split
        · exact hstart.trans (ih.runFile rfl)
        · split
          · rename_i hutility
            exact (hstart.acts (of_lookup works_utilities hutility _ _).toActs).withFrame _
          · exact hstart.trans (ih.runCommand rfl)
    · exact (Goes.refl m).pass rfl

theorem goes_runShell (ih : AllGo fuel) (shell : String) (args : List String) (m : Machine) :
    m.Goes (runShell (fuel + 1) shell args m).2 := by
  rw [runShell.eq_def]
  dsimp -zeta only
  extract_lets options letters' letters bindings inner isText
  have hinner : ∀ name text arguments, m.Goes (inner name text arguments).2 := by
    intro name text arguments
    dsimp -zeta only [inner]
    extract_lets frame started own
    have hstarted : m.Acts started :=
      Acts.foldl (fun m _ => (Acts.refl m).assign _ _) _ ((Acts.refl m).withFrame frame)
    have hown : m.Goes own := (Goes.refl m).acts ((hstarted.assign _ _).giveOut _)
    clear_value own
    split
    · rename_i hpass
      exact ((hown.pass hpass).acts ((Acts.refl _).complain _)).withFrame _
    · rename_i changes _ own' _ hpass
      have htext : m.Goes (runText fuel "" text (own'.withOptions changes)).2 :=
        ((hown.pass hpass).withFrame _).trans (ih.runText rfl)
      split
      · exact htext.trans (ih.runFarewell rfl)
      · exact htext
    · exact hown.pass rfl
  clear_value inner
  split
  · exact ((Goes.refl m).acts ((Acts.refl m).complain _)).withFrame _
  · exact hinner _ _ _
  · exact hinner _ _ _
  · split
    · exact hinner _ _ _
    · exact ((Goes.refl m).acts ((Acts.refl m).complain _)).withFrame _
  · exact hinner _ _ _

theorem goes_runFarewell (ih : AllGo fuel) (m : Machine) : m.Goes (runFarewell (fuel + 1) m).2 := by
  rw [runFarewell]
  split
  · exact .refl m
  · dsimp only
    split
    · rename_i htext
      exact (ih.runText htext).ofFrame
    · rename_i htext
      exact (ih.runText htext).ofFrame.withFrame _

/-! ## Jobs -/

theorem goes_runKill (ih : AllGo fuel) (args : List String) (m : Machine) :
    m.Goes (runKill (fuel + 1) args m).2 := by
  rw [runKill]
  split
  · exact (Goes.refl m).acts ((Acts.refl m).fault _)
  · dsimp only
    split
    · split
      · split
        · exact .refl m
        · exact ih.runText rfl
      · split
        · exact (Goes.refl m).withFrame _
        · split
          · exact .refl m
          · exact .refl m
    · split
      · split
        · split
          · exact (Goes.refl m).withFrame _
          · exact .refl m
        · exact ((Goes.refl m).acts ((Acts.refl m).complain _)).withFrame _
      · rename_i hit jobs hne hpartition
        rw [List.partition_eq_filter_filter] at hpartition
        have hjobs : ∀ job ∈ jobs, job ∈ m.jobs := by
          intro job hjob
          rw [← (Prod.mk.inj hpartition).2] at hjob
          exact (List.mem_filter.mp hjob).1
        split
        · exact (Goes.refl m).withFrame _
        · exact ((Goes.refl m).withJobs hjobs _ _).withFrame _

theorem goes_runJobs (ih : AllGo fuel) (limit : Option Nat) (m : Machine) :
    m.Goes (runJobs (fuel + 1) limit m).2 := by
  rw [runJobs.eq_def]
  dsimp -zeta only
  split
  · exact (Goes.refl m).withFrame _
  · rename_i job rest hjobs
    have hjob : job ∈ m.jobs := hjobs ▸ List.mem_cons_self
    have hrest : ∀ j ∈ rest, j ∈ m.jobs := fun j hj => hjobs ▸ List.mem_cons_of_mem _ hj
    extract_lets deadline own others
    -- the job has at most the time that the shell has
    have hdeadline : ∀ d, m.deadline = some d → ∃ d', deadline = some d' ∧ d' ≤ d := by
      intro d hd
      dsimp only [deadline]
      rw [hd]
      cases limit with
      | none => exact ⟨d, rfl, Nat.le_refl d⟩
      | some a => exact ⟨min a d, rfl, Nat.min_le_right a d⟩
    have hown : ∀ top, m.InTime top → own.InTime top := by
      intro top hm
      obtain ⟨d, hd, hle⟩ := hm.deadline
      obtain ⟨d', hd', hle'⟩ := hdeadline d hd
      exact ⟨⟨d', hd', Nat.le_trans hle' hle⟩, hm.jobs job hjob, fun _ h => absurd h List.not_mem_nil⟩
    split
    · rename_i hrun
      have hgoes := ih.run hrun
      exact ⟨hgoes.written, hgoes.started, rfl, fun top hm =>
        ⟨hm.deadline, (hgoes.inTime top (hown top hm)).clock, (hgoes.inTime top (hown top hm)).jobs⟩⟩
    · rename_i after _ hrun
      have hgoes := ih.run hrun
      extract_lets done clock
      have hdone : ∀ c, c = m.clock ∨ c = max m.clock after.clock → m.Goes { done with clock := c } := by
        refine fun c hc => ⟨hgoes.written, hgoes.started, rfl, fun top hm => ⟨hm.deadline, ?_, ?_⟩⟩
        · have hafter := (hgoes.inTime top (hown top hm)).clock
          rcases hc with rfl | rfl
          · exact hm.clock
          · exact Nat.max_le.mpr ⟨hm.clock, hafter⟩
        · exact fun j hj => hm.jobs j (hrest j hj)
      split
      · have hlater : m.Goes (runJobs fuel limit others).2 :=
          ((Goes.refl m).withJobs hrest _ _).trans (ih.runJobs rfl)
        refine ⟨hlater.written, hlater.started, hlater.deadline, fun top hm => ?_⟩
        have htop := hlater.inTime top hm
        exact ⟨htop.deadline, htop.clock, List.forall_mem_cons.mpr ⟨hm.jobs job hjob, htop.jobs⟩⟩
      · split
        · exact hdone _ (.inr rfl)
        · refine (hdone clock ?_).trans (ih.runJobs rfl)
          dsimp only [clock]
          split
          · exact .inl rfl
          · exact .inr rfl

/-! ## All of it -/

/-- Nothing happens without steps. -/
theorem allGo_zero : AllGo 0 where
  run h := (Goes.refl _).result h
  runLoop h := (Goes.refl _).result h
  runEach h := (Goes.refl _).result h
  runSelect h := (Goes.refl _).result h
  matchesAny h := (Goes.refl _).result₂ h
  expandAll h := (Goes.refl _).result₂ h
  expand h := (Goes.refl _).result₂ h
  expandValue h := (Goes.refl _).result₂ h
  redirect h := (Goes.refl _).result₂ h
  runSimple h := (Goes.refl _).result h
  runAssignments h := (Goes.refl _).result h
  runCommand h := (Goes.refl _).result h
  runFunction h := (Goes.refl _).result h
  runStarter h := (Goes.refl _).result h
  runText h := (Goes.refl _).result h
  runFile h := (Goes.refl _).result h
  runNative h := (Goes.refl _).result h
  runShell h := (Goes.refl _).result h
  runFarewell h := (Goes.refl _).result h
  runKill h := (Goes.refl _).result h
  runJobs h := (Goes.refl _).result h

/-- **Whatever a shell runs, for however many steps, goes from one state to a later one.** -/
theorem allGo (fuel : Nat) : AllGo fuel := by
  induction fuel with
  | zero => exact allGo_zero
  | succ fuel ih =>
    exact {
      run := (goes_run ih _ _).result
      runLoop := (goes_runLoop ih _ _ _ _ _).result
      runEach := (goes_runEach ih _ _ _ _).result
      runSelect := (goes_runSelect ih _ _ _).result
      matchesAny := (goes_matchesAny ih _ _ _).result₂
      expandAll := (goes_expandAll ih _ _).result₂
      expand := (goes_expand ih _ _ _).result₂
      expandValue := (goes_expandValue ih _ _ _ _ _).result₂
      redirect := (goes_redirect ih _ _).result₂
      runSimple := (goes_runSimple ih _ _ _ _).result
      runAssignments := (goes_runAssignments ih _ _).result
      runCommand := (goes_runCommand ih _ _ _).result
      runFunction := (goes_runFunction ih _ _ _).result
      runStarter := (goes_runStarter ih _ _ _).result
      runText := (goes_runText ih _ _ _).result
      runFile := (goes_runFile ih _ _ _ _).result
      runNative := (goes_runNative ih _ _).result
      runShell := (goes_runShell ih _ _ _).result
      runFarewell := (goes_runFarewell ih _).result
      runKill := (goes_runKill ih _ _).result
      runJobs := (goes_runJobs ih _ _).result }

theorem runNative_goes (fuel : Nat) (p : Host.Program) (m : Machine) : m.Goes (runNative fuel p m).2 :=
  (allGo fuel).runNative rfl

theorem runJobs_goes (fuel : Nat) (limit : Option Nat) (m : Machine) : m.Goes (runJobs fuel limit m).2 :=
  (allGo fuel).runJobs rfl

end Conformance.Shell
