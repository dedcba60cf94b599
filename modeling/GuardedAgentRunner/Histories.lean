/-
This file is about whole histories. Along every log the ledger moves by the steps of
the abstract model only, and in every interleaving of the system a started operation
is moved by its own runs only.
-/

import GuardedAgentRunner.Confinement

namespace GuardedAgentRunner

variable {codec : Codec} {earlier later : List Event} {event : Event}

/-- Whatever the log, the ledger moves by steps of the abstract model only. -/
theorem replay_simulated (codec : Codec) (log continuation : List Transaction) :
    Relation.ReflTransGen (fun before after => ∃ call, Ledger.Step codec before call after)
      (replay codec log).ledger (replay codec (log ++ continuation)).ledger := by
  rw [replay_append]
  exact replay_relation (Relation.ReflTransGen _) (fun _ => .refl) .trans
    (fun _ step => .single ⟨_, step⟩) (replay_coherent log) continuation

/-! ### Isolation -/

/-- Whoever changes an operation that has started is one of its runs. -/
def System.Isolates (system : System) : Prop :=
  ∀ event ∈ system.history, ∀ operationID operation,
    event.before.operation operationID = some operation → operation.attempts ≠ [] →
    event.after.operation operationID ≠ some operation →
      ∃ pid foundation, event.actor = some pid ∧
        system.owner pid = some (foundation, operationID)

theorem System.KeepsTo.split {system : System}
    (keeps : system.KeepsTo codec (later ++ event :: earlier)) :
    system.KeepsTo codec (event :: earlier) := by
  induction later with
  | nil => exact keeps
  | cons latest later hypothesis => exact hypothesis keeps.2

/-- In every interleaving an operation that has started is moved by its own runs only: no
operator, no agent and no run of another operation changes it. -/
theorem reach_isolates (codec : Codec) (schedule : List Choice) :
    (System.reach codec schedule).Isolates := by
  have confines : (System.reach codec schedule).Confines codec :=
    System.reach_invariant (System.Confines codec) ⟨trivial, fun _ _ present => nomatch present⟩
      (fun _ _ lawful confines transition => confines.transition lawful transition) schedule
  intro event member operationID operation found started changed
  have lawful : (System.reach codec schedule).Lawful codec := System.reach_lawful schedule
  obtain ⟨later, earlier, split⟩ := List.append_of_mem member
  have chained := lawful.chained
  have permitted := lawful.permitted
  have keeps := confines.keeps
  rw [split] at chained permitted keeps
  by_contra apart
  refine changed ((permitted.split.bystands chained.split.1 keeps.split ?_).started _ found started)
  exact fun pid foundation own owned => apart ⟨pid, foundation, own, owned⟩

end GuardedAgentRunner
