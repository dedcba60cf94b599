/-
This file models the two publishers of the Paper plugin, one statement that the
other can see at a time: the timer captures a snapshot, sets the flag and hands the
snapshot to an asynchronous task, and `onDisable` captures and publishes the
terminal snapshot on the main thread. Each publication writes a temporary file,
moves it over the snapshot file and cleans up; each step can fail. `onDisable` does
not look at the flag.
-/

import GuardedAgentRunner.Acknowledgments

namespace GuardedAgentRunner

namespace Guard

/-! ### The publishers -/

/-- Where a call of `publish` stands: before the temporary file is written, before the move, and
in the statements after it, which are also run after a failure. -/
inductive Stage where
  | started
  | written
  | closing
deriving DecidableEq, Repr

/-- A call of `publish`. -/
structure Publication where
  snapshot : RuntimeSnapshot
  stage : Stage

/-- What the main thread does: nothing of the plugin, a tick of the timer that has captured its
snapshot, or `onDisable` with the snapshot it captured. -/
inductive MainThread where
  | idle
  | ticking (snapshot : RuntimeSnapshot)
  | disabling (publication : Publication)
  | disabled (snapshot : RuntimeSnapshot)

/-- The snapshot file, the flag, the asynchronous tasks and the main thread. -/
structure Publishers where
  file : Option RuntimeSnapshot
  writeInProgress : Bool
  tasks : List Publication
  main : MainThread

/-- The statements of the two publishers. A statement that can throw has its outcome, a capture
what it reads. -/
inductive Statement where
  | tick (stateFile : Admission.StateFile) (readings : Readings)
  | compareAndSet
  | task (index : Nat) (succeeds : Bool)
  | disable (stateFile : Admission.StateFile) (readings : Readings)
  | publish (succeeds : Bool)

namespace Publishers

/-- The plugin is enabled. -/
def initial (file : Option RuntimeSnapshot) : Publishers where
  file := file
  writeInProgress := false
  tasks := []
  main := .idle

variable (libraries : Libraries) (plugin : Plugin) (publishers : Publishers)

/-- The next statement of an asynchronous task. -/
def runTask (index : Nat) (succeeds : Bool) : Publishers :=
  match publishers.tasks[index]? with
  | none => publishers
  | some { snapshot, stage := .started } =>
    { publishers with
      tasks := publishers.tasks.set index
        { snapshot, stage := if succeeds then .written else .closing } }
  | some { snapshot, stage := .written } =>
    { publishers with
      tasks := publishers.tasks.set index { snapshot, stage := .closing }
      file := if succeeds then some snapshot else publishers.file }
  | some { stage := .closing, .. } =>
    { publishers with tasks := publishers.tasks.eraseIdx index, writeInProgress := false }

/-- The next statement of the publication in `onDisable`. -/
def runDisable (succeeds : Bool) : Publishers :=
  match publishers.main with
  | .disabling { snapshot, stage := .started } =>
    { publishers with
      main := .disabling { snapshot, stage := if succeeds then .written else .closing } }
  | .disabling { snapshot, stage := .written } =>
    { publishers with
      main := .disabling { snapshot, stage := .closing }
      file := if succeeds then some snapshot else publishers.file }
  | .disabling { snapshot, stage := .closing } => { publishers with main := .disabled snapshot }
  | _ => publishers

/-- One statement. The main thread does one thing at a time, and no tick starts after
`onDisable`. -/
def step : Statement → Publishers
  | .tick stateFile readings =>
    match publishers.main with
    | .idle =>
      { publishers with main := .ticking (plugin.capture libraries stateFile readings true) }
    | _ => publishers
  | .compareAndSet =>
    match publishers.main with
    | .ticking snapshot =>
      if publishers.writeInProgress then { publishers with main := .idle }
      else { publishers with
        main := .idle
        writeInProgress := true
        tasks := publishers.tasks ++ [{ snapshot, stage := .started }] }
    | _ => publishers
  | .task index succeeds => publishers.runTask index succeeds
  | .disable stateFile readings =>
    match publishers.main with
    | .idle =>
      { publishers with
        main := .disabling
          { snapshot := plugin.capture libraries stateFile readings false, stage := .started } }
    | _ => publishers
  | .publish succeeds => publishers.runDisable succeeds

/-- The terminal snapshot once `onDisable` is past its move, made or not. -/
def terminal : Option RuntimeSnapshot :=
  match publishers.main with
  | .disabling { snapshot, stage := .closing } => some snapshot
  | .disabled snapshot => some snapshot
  | _ => none

/-- Once `onDisable` is past its move, the file holds the terminal snapshot whatever comes. -/
def Lasting : Prop :=
  ∀ terminal, publishers.terminal = some terminal → ∀ later,
    (Runs.run (step libraries plugin) publishers later).file = some terminal

/-- The condition: the publication of `onDisable` does not fail, and when it moves no task has
its move before it. -/
def Settled : Statement → Prop
  | .publish succeeds =>
    match publishers.main with
    | .disabling { stage := .started, .. } => succeeds = true
    | .disabling { stage := .written, .. } =>
      succeeds = true ∧ ∀ task ∈ publishers.tasks, task.stage = .closing
    | _ => True
  | _ => True

/-! ### Snapshots of the two publishers -/

/-- The snapshot is not a terminal one of this start of the plugin. -/
def Foreign (snapshot : RuntimeSnapshot) : Prop :=
  snapshot.ready = true ∨ snapshot.bootId ≠ plugin.bootId

/-- The tasks publish what ticks captured, `onDisable` publishes a terminal snapshot, and until
then the file holds none. -/
structure Attributed (plugin : Plugin) (publishers : Publishers) : Prop where
  tasks : ∀ task ∈ publishers.tasks, task.snapshot.ready = true
  ticking : ∀ snapshot, publishers.main = .ticking snapshot → snapshot.ready = true
  disabling : ∀ publication, publishers.main = .disabling publication →
    ¬ Foreign plugin publication.snapshot
  file : publishers.terminal = none → ∀ snapshot ∈ publishers.file, Foreign plugin snapshot

variable {libraries plugin publishers} {snapshot : RuntimeSnapshot}

theorem not_foreign_capture (stateFile : Admission.StateFile) (readings : Readings) :
    ¬ Foreign plugin (plugin.capture libraries stateFile readings false) := by
  rintro (ready | other)
  · exact nomatch ready
  · exact other rfl

/-- What a statement of a task does: the main thread is as it was, the tasks are those there were,
and the file is as it was or holds the snapshot of a task that had its move before it. -/
theorem runTask_cases (publishers : Publishers) (index : Nat) (succeeds : Bool) :
    (publishers.runTask index succeeds).main = publishers.main ∧
    (∀ task ∈ (publishers.runTask index succeeds).tasks, ∃ earlier ∈ publishers.tasks,
      task.snapshot = earlier.snapshot ∧ (earlier.stage = .closing → task.stage = .closing)) ∧
    ((publishers.runTask index succeeds).file = publishers.file ∨
      ∃ task ∈ publishers.tasks, task.stage = .written ∧
        (publishers.runTask index succeeds).file = some task.snapshot) := by
  have replaced : ∀ {current next : Publication}, publishers.tasks[index]? = some current →
      next.snapshot = current.snapshot → current.stage ≠ .closing →
      ∀ task ∈ publishers.tasks.set index next, ∃ earlier ∈ publishers.tasks,
        task.snapshot = earlier.snapshot ∧
          (earlier.stage = .closing → task.stage = .closing) := by
    intro current next found same moving task member
    rcases List.mem_or_eq_of_mem_set member with member | rfl
    · exact ⟨task, member, rfl, id⟩
    · exact ⟨current, List.mem_of_getElem? found, same, fun closing => absurd closing moving⟩
  unfold runTask
  cases found : publishers.tasks[index]? with
  | none => exact ⟨rfl, fun task member => ⟨task, member, rfl, id⟩, Or.inl rfl⟩
  | some current =>
    obtain ⟨snapshot, stage⟩ := current
    cases stage with
    | started => exact ⟨rfl, replaced found rfl nofun, Or.inl rfl⟩
    | written =>
      refine ⟨rfl, replaced found rfl nofun, ?_⟩
      cases succeeds with
      | false => exact Or.inl rfl
      | true => exact Or.inr ⟨_, List.mem_of_getElem? found, rfl, rfl⟩
    | closing =>
      exact ⟨rfl, fun task member => ⟨task, List.mem_of_mem_eraseIdx member, rfl, id⟩,
        Or.inl rfl⟩

theorem terminal_of_main {first second : Publishers} (same : first.main = second.main) :
    first.terminal = second.terminal := by
  unfold terminal
  rw [same]

theorem attributed_step (attributed : Attributed plugin publishers) (statement : Statement) :
    Attributed plugin (publishers.step libraries plugin statement) := by
  cases statement with
  | tick stateFile readings =>
    show Attributed plugin (match publishers.main with | .idle => _ | _ => _)
    cases main : publishers.main with
    | idle =>
      have running : publishers.terminal = none := by rw [terminal, main]
      refine ⟨attributed.tasks, ?_, (fun _ other => nomatch other), fun _ => attributed.file running⟩
      rintro _ ⟨⟩
      rfl
    | _ => exact attributed
  | compareAndSet =>
    show Attributed plugin (match publishers.main with | .ticking _ => _ | _ => _)
    cases main : publishers.main with
    | ticking snapshot =>
      have running : publishers.terminal = none := by rw [terminal, main]
      dsimp only
      split
      · exact ⟨attributed.tasks, (fun _ other => nomatch other), (fun _ other => nomatch other),
          fun _ => attributed.file running⟩
      · refine ⟨fun task member => ?_, (fun _ other => nomatch other), (fun _ other => nomatch other),
          fun _ => attributed.file running⟩
        rcases List.mem_append.mp member with member | member
        · exact attributed.tasks task member
        · rw [List.mem_singleton.mp member]
          exact attributed.ticking snapshot main
    | _ => exact attributed
  | task index succeeds =>
    show Attributed plugin (publishers.runTask index succeeds)
    obtain ⟨sameMain, tasks, file⟩ := publishers.runTask_cases index succeeds
    refine ⟨fun task member => ?_, fun snapshot isTicking => ?_, fun publication isPublication => ?_,
      fun running snapshot isFile => ?_⟩
    · obtain ⟨earlier, isEarlier, same, -⟩ := tasks task member
      rw [same]
      exact attributed.tasks earlier isEarlier
    · exact attributed.ticking snapshot (sameMain.symm.trans isTicking)
    · exact attributed.disabling publication (sameMain.symm.trans isPublication)
    · rcases file with same | ⟨task, member, -, isSnapshot⟩
      · exact attributed.file ((terminal_of_main sameMain).symm.trans running) snapshot
          (same.symm.trans isFile)
      · obtain rfl := Option.mem_unique isSnapshot isFile
        exact Or.inl (attributed.tasks task member)
  | disable stateFile readings =>
    show Attributed plugin (match publishers.main with | .idle => _ | _ => _)
    cases main : publishers.main with
    | idle =>
      have running : publishers.terminal = none := by rw [terminal, main]
      refine ⟨attributed.tasks, (fun _ other => nomatch other), ?_, fun _ => attributed.file running⟩
      rintro _ ⟨⟩
      exact not_foreign_capture stateFile readings
    | _ => exact attributed
  | publish succeeds =>
    show Attributed plugin (publishers.runDisable succeeds)
    unfold runDisable
    cases main : publishers.main with
    | disabling publication =>
      have own := attributed.disabling publication main
      obtain ⟨snapshot, stage⟩ := publication
      cases stage with
      | started =>
        have running : publishers.terminal = none := by rw [terminal, main]
        refine ⟨attributed.tasks, (fun _ other => nomatch other), ?_, fun _ => attributed.file running⟩
        rintro _ ⟨⟩
        exact own
      | written =>
        refine ⟨attributed.tasks, (fun _ other => nomatch other), ?_, (fun running => nomatch running)⟩
        rintro _ ⟨⟩
        exact own
      | closing =>
        exact ⟨attributed.tasks, (fun _ other => nomatch other), (fun _ other => nomatch other),
          (fun running => nomatch running)⟩
    | _ => exact attributed

/-! ### When the terminal snapshot stays -/

/-- With all tasks past their moves, the terminal snapshot stays. -/
theorem lasting_of_closing {terminal : RuntimeSnapshot}
    (isTerminal : publishers.terminal = some terminal) (isFile : publishers.file = some terminal)
    (closing : ∀ task ∈ publishers.tasks, task.stage = .closing) (later : List Statement) :
    (Runs.run (step libraries plugin) publishers later).file = some terminal := by
  let invariant (state : Publishers) : Prop := state.terminal = some terminal ∧
    state.file = some terminal ∧ ∀ task ∈ state.tasks, task.stage = .closing
  refine (Runs.invariant_run invariant ?_ ⟨isTerminal, isFile, closing⟩ later).2.1
  rintro state statement ⟨isTerminal, isFile, closing⟩
  have ended : state.main = .disabling ⟨terminal, .closing⟩ ∨ state.main = .disabled terminal := by
    unfold Publishers.terminal at isTerminal
    split at isTerminal
    · rename_i main
      obtain rfl := Option.some.inj isTerminal
      exact Or.inl main
    · rename_i main
      obtain rfl := Option.some.inj isTerminal
      exact Or.inr main
    · exact nomatch isTerminal
  cases statement with
  | tick stateFile readings =>
    show invariant (match state.main with | .idle => _ | _ => _)
    rcases ended with main | main <;> rw [main] <;> exact ⟨isTerminal, isFile, closing⟩
  | compareAndSet =>
    show invariant (match state.main with | .ticking _ => _ | _ => _)
    rcases ended with main | main <;> rw [main] <;> exact ⟨isTerminal, isFile, closing⟩
  | disable stateFile readings =>
    show invariant (match state.main with | .idle => _ | _ => _)
    rcases ended with main | main <;> rw [main] <;> exact ⟨isTerminal, isFile, closing⟩
  | task index succeeds =>
    obtain ⟨sameMain, tasks, file⟩ := state.runTask_cases index succeeds
    refine ⟨(terminal_of_main sameMain).trans isTerminal, ?_, fun task member => ?_⟩
    · rcases file with same | ⟨task, member, isWritten, -⟩
      · exact same.trans isFile
      · exact nomatch isWritten.symm.trans (closing task member)
    · obtain ⟨earlier, isEarlier, -, stays⟩ := tasks task member
      exact stays (closing earlier isEarlier)
  | publish succeeds =>
    show invariant (state.runDisable succeeds)
    unfold runDisable
    rcases ended with main | main
    · rw [main]
      exact ⟨rfl, isFile, closing⟩
    · rw [main]
      exact ⟨isTerminal, isFile, closing⟩

theorem exists_replaced (libraries : Libraries) (plugin : Plugin) {task : Publication}
    (member : task ∈ publishers.tasks) (waiting : task.stage ≠ .closing) :
    ∃ later, (Runs.run (step libraries plugin) publishers later).file = some task.snapshot := by
  obtain ⟨index, bound, found⟩ := List.getElem_of_mem member
  have isTask : publishers.tasks[index]? = some task := by
    rw [List.getElem?_eq_getElem bound, found]
  obtain ⟨snapshot, stage⟩ := task
  cases stage with
  | started =>
    refine ⟨[.task index true, .task index true], ?_⟩
    have written : publishers.step libraries plugin (.task index true) =
        { publishers with tasks := publishers.tasks.set index ⟨snapshot, .written⟩ } := by
      show publishers.runTask index true = _
      rw [runTask, isTask]
      rfl
    rw [Runs.run_cons, written, Runs.run_cons, Runs.run_nil]
    show (runTask _ index true).file = _
    rw [runTask, List.getElem?_set_self bound]
    rfl
  | written =>
    refine ⟨[.task index true], ?_⟩
    rw [Runs.run_cons, Runs.run_nil]
    show (publishers.runTask index true).file = _
    rw [runTask, isTask]
    rfl
  | closing => exact absurd rfl waiting

theorem lasting_step_of_terminal (lasting : Lasting libraries plugin publishers)
    (statement : Statement)
    (same : (publishers.step libraries plugin statement).terminal = publishers.terminal) :
    Lasting libraries plugin (publishers.step libraries plugin statement) := by
  intro terminal isTerminal later
  rw [← Runs.run_cons]
  exact lasting terminal (same.symm.trans isTerminal) (statement :: later)

theorem not_lasting_of_failure {next : Publishers} (isTerminal : next.terminal = some snapshot)
    (own : ¬ Foreign plugin snapshot) (file : ∀ snapshot ∈ next.file, Foreign plugin snapshot) :
    ¬ Lasting libraries plugin next :=
  fun lasting => own (file snapshot (lasting snapshot isTerminal []))

theorem lasting_moved_iff (libraries : Libraries) (publishers : Publishers)
    (own : ¬ Foreign plugin snapshot)
    (tasks : ∀ task ∈ publishers.tasks, task.snapshot.ready = true)
    (isTerminal : publishers.terminal = some snapshot) (isFile : publishers.file = some snapshot) :
    Lasting libraries plugin publishers ↔ ∀ task ∈ publishers.tasks, task.stage = .closing := by
  constructor
  · intro lasting task member
    by_contra waiting
    obtain ⟨later, replaced⟩ := exists_replaced libraries plugin member waiting
    have same := Option.mem_unique replaced (lasting snapshot isTerminal later)
    exact own (Or.inl (same ▸ tasks task member))
  · intro closing terminal isOther later
    obtain rfl := Option.mem_unique isTerminal isOther
    exact lasting_of_closing isTerminal isFile closing later

/-- Whether the terminal snapshot stays after a statement is decided by the condition on it, if it
stays before. -/
theorem settled_iff_lasting_step (attributed : Attributed plugin publishers)
    (lasting : Lasting libraries plugin publishers) (statement : Statement) :
    publishers.Settled statement ↔
      Lasting libraries plugin (publishers.step libraries plugin statement) := by
  cases statement with
  | tick stateFile readings =>
    refine iff_of_true trivial (lasting_step_of_terminal lasting _ ?_)
    show terminal (match publishers.main with | .idle => _ | _ => _) = _
    cases main : publishers.main with
    | idle => rw [terminal, terminal, main]
    | _ => rfl
  | compareAndSet =>
    refine iff_of_true trivial (lasting_step_of_terminal lasting _ ?_)
    show terminal (match publishers.main with | .ticking _ => _ | _ => _) = _
    cases main : publishers.main with
    | ticking snapshot =>
      dsimp only
      split <;> rw [terminal, terminal, main]
    | _ => rfl
  | task index succeeds =>
    exact iff_of_true trivial (lasting_step_of_terminal lasting _
      (terminal_of_main (publishers.runTask_cases index succeeds).1))
  | disable stateFile readings =>
    refine iff_of_true trivial (lasting_step_of_terminal lasting _ ?_)
    show terminal (match publishers.main with | .idle => _ | _ => _) = _
    cases main : publishers.main with
    | idle => rw [terminal, terminal, main]
    | _ => rfl
  | publish succeeds =>
    have stays := lasting_step_of_terminal lasting (.publish succeeds)
    show (match publishers.main with
      | .disabling { stage := .started, .. } => succeeds = true
      | .disabling { stage := .written, .. } =>
        succeeds = true ∧ ∀ task ∈ publishers.tasks, task.stage = .closing
      | _ => True) ↔ Lasting libraries plugin (publishers.runDisable succeeds)
    have next : publishers.step libraries plugin (.publish succeeds) =
      publishers.runDisable succeeds := rfl
    rw [next] at stays
    unfold runDisable at stays ⊢
    cases main : publishers.main with
    | disabling publication =>
      have own := attributed.disabling publication main
      obtain ⟨snapshot, stage⟩ := publication
      rw [main] at stays
      cases stage with
      | started =>
        have running : publishers.terminal = none := by rw [terminal, main]
        cases succeeds with
        | true => exact iff_of_true rfl (stays running.symm)
        | false =>
          exact iff_of_false nofun (not_lasting_of_failure rfl own (attributed.file running))
      | written =>
        have running : publishers.terminal = none := by rw [terminal, main]
        cases succeeds with
        | true =>
          exact (and_iff_right rfl).trans (lasting_moved_iff libraries
            { publishers with main := .disabling ⟨snapshot, .closing⟩, file := some snapshot }
            own attributed.tasks rfl rfl).symm
        | false =>
          exact iff_of_false (fun settled => nomatch settled.1)
            (not_lasting_of_failure rfl own (attributed.file running))
      | closing => exact iff_of_true trivial (stays (by rw [terminal, terminal, main]))
    | _ => exact iff_of_true trivial lasting

end Publishers

/-- In every run of the two publishers the terminal snapshot of `onDisable`, once published, is the
content of the snapshot file from then on, exactly if the publication of `onDisable` does not fail
and no task has its move before it when `onDisable` makes its own. -/
theorem terminal_snapshot_lasts_iff (libraries : Libraries) (plugin : Plugin)
    (file : Option RuntimeSnapshot) (fresh : ∀ snapshot ∈ file, snapshot.bootId ≠ plugin.bootId)
    (statements : List Statement) :
    Runs.Along (Publishers.step libraries plugin) Publishers.Settled (.initial file) statements ↔
      ∀ earlier, earlier <+: statements → (Runs.run (Publishers.step libraries plugin)
        (.initial file) earlier).Lasting libraries plugin := by
  have attributed : (Publishers.initial file).Attributed plugin :=
    ⟨List.forall_mem_nil _, (fun _ other => nomatch other), (fun _ other => nomatch other),
      fun _ snapshot member => Or.inr (fresh snapshot member)⟩
  have initially : (Publishers.initial file).Lasting libraries plugin := by
    intro terminal isTerminal
    exact nomatch isTerminal
  refine Runs.along_iff (fun publishers statement attributed => ?_)
    (fun publishers statement attributed lasting => ?_) attributed initially statements
  · exact Publishers.attributed_step attributed statement
  · exact Publishers.settled_iff_lasting_step attributed lasting statement

/-- A tick whose task is done when the plugin is disabled. -/
def promptShutdown : List Statement :=
  [.tick .missing (readingsAt newYear), .compareAndSet, .task 0 true, .task 0 true, .task 0 true,
    .disable .missing (readingsAt (newYear + Duration.second)),
    .publish true, .publish true, .publish true]

theorem promptShutdown_lasts :
    let publishers := Runs.run (Publishers.step plainLibraries pairedPlugin) (.initial none)
      promptShutdown
    publishers.Lasting plainLibraries pairedPlugin ∧
      publishers.terminal.map (·.ready) = some false := by
  refine ⟨(terminal_snapshot_lasts_iff plainLibraries pairedPlugin none
    (fun _ member => nomatch member) promptShutdown).mp ?_ _ (List.prefix_refl _),
    by decide +kernel⟩
  exact ⟨trivial, trivial, trivial, trivial, trivial, trivial, rfl,
    ⟨rfl, List.forall_mem_nil _⟩, trivial, trivial⟩

/-- A tick whose task is scheduled when the plugin is disabled. -/
def scheduledTick : List Statement :=
  [.tick .missing (readingsAt newYear), .compareAndSet,
    .disable .missing (readingsAt (newYear + Duration.second))]

/-- The task of the last tick publishes after `onDisable`: in the end both are done, and the file
holds a snapshot with `ready`. -/
theorem scheduledTick_replaces_terminal :
    let publishers := Runs.run (Publishers.step plainLibraries pairedPlugin) (.initial none)
      (scheduledTick ++ [.publish true, .publish true, .publish true,
        .task 0 true, .task 0 true, .task 0 true])
    publishers.terminal.map (·.ready) = some false ∧ publishers.tasks.length = 0 ∧
      publishers.file.map (·.ready) = some true := by
  decide +kernel

end Guard

end GuardedAgentRunner
