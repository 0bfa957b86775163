import PxHost.Agent.LifecycleInvariant

/-!
A suspension is kept in the memory of the agent: it holds until it is lifted, or until the server is
registered anew after a restart or after a creation that has failed.
-/

namespace PxHost.Lifecycle

open Interleaving Machine

def Call.starts : Call → Bool
  | startContainer _ => true
  | _ => false

section Invariant

/-- A suspension under way has set the flag once it has written it, unless it was lifted since. -/
def Stage.Flagged (s : State) : Stage → Prop
  | suspending ticket written =>
    ticket ≤ s.lifts ∧ (written → s.lifts = ticket → s.handle.isSuspended)
  | _ => True

/-- The flag is set while a suspension is in force. -/
structure Flagged (s : State) (modes : Nat → Mode) : Prop where
  inForce : s.suspension → s.handle.isSuspended
  underWay : ∀ thread, (modes thread).stage.Flagged s

variable {s s' : State} {thread : Nat} {call : Call} {choice : Choice} {answer : call.Answer}
  {modes : Nat → Mode} {mode : Mode} {stage : Stage}

theorem Stage.Flagged.frame (flagged : stage.Flagged s)
    (flag : s'.handle.isSuspended = s.handle.isSuspended) (lifts : s'.lifts = s.lifts) :
    stage.Flagged s' := by
  cases stage with
  | suspending ticket written =>
    obtain ⟨issued, set⟩ := flagged
    refine ⟨lifts ▸ issued, ?_⟩
    rw [lifts, flag]
    exact set
  | _ => trivial

/-- Once it is lifted, no suspension that began earlier can come into force. -/
theorem Stage.Flagged.lift {handle : Handle} (flagged : stage.Flagged s) :
    stage.Flagged (s.lifted.setHandle handle) := by
  -- Its ticket is smaller than the number of lifts from now on.
  cases stage with
  | suspending ticket written =>
    have issued : ticket ≤ s.lifts := flagged.1
    refine ⟨Nat.le_succ_of_le issued, ?_⟩
    intro _ current
    have later : s.lifts + 1 = ticket := current
    omega
  | _ => trivial

theorem Stage.wroteSuspended_false : stage.wroteSuspended false = stage := by
  cases stage <;> simp [Stage.wroteSuspended]

theorem Stage.Flagged.next (flagged : mode.stage.Flagged s) (known : call ≠ .beginSuspension)
    (flagless : ∀ flag, call ≠ .setSuspended flag) :
    (mode.next call answer).stage.Flagged s := by
  cases call with
  | beginSuspension => contradiction
  | setSuspended flag => exact absurd rfl (flagless flag)
  | unlock =>
    have released : ∀ stage still, Stage.Flagged s stage → (stage.released still).Flagged s := by
      intro stage still before
      cases stage <;> cases still <;> exact before
    exact released _ _ flagged
  | begin | finish | arrive | leave | removeInstaller | beginArchive | endArchive
  | endSuspension => trivial
  | createInstaller =>
    cases answer with
    | none => exact flagged
    | some installer => trivial
  | _ =>
    rw [next_stage rfl]
    exact flagged

theorem Flagged.update {after : Mode} (flagged : Flagged s modes)
    (inForce : s'.suspension → s'.handle.isSuspended)
    (own : after.stage.Flagged s') (others : ∀ stage, Stage.Flagged s stage → stage.Flagged s') :
    Flagged s' (Function.update modes thread after) where
  inForce := inForce
  underWay := (Function.forall_update_iff modes fun _ mode => mode.stage.Flagged s').mpr
    ⟨own, fun other _ => others _ (flagged.underWay other)⟩

/-- No call clears the flag while a suspension is in force. -/
theorem Flagged.answered (flagged : Flagged s modes) (permitted : (modes thread).permits call)
    (answers : answer? thread call choice s = some (answer, s')) :
    Flagged s' (Function.update modes thread ((modes thread).next call answer)) := by
  have frame := answer_frame answers
  have mine := flagged.underWay thread
  cases call with
  -- The other fields are written around the flag.
  | setState | setContainerId =>
    cases answers
    exact flagged.update flagged.inForce ((mine.next (by simp) (by simp)).frame rfl rfl)
      fun _ before => before.frame rfl rfl
  | setSuspended flag =>
    cases answers
    cases flag with
    | true =>
      -- The flag is set for everybody, so only the tickets are left to compare.
      have set : ∀ stage, Stage.Flagged s stage →
          stage.Flagged (s.setHandle { s.handle with isSuspended := true }) := by
        intro stage before
        cases stage with
        | suspending => exact ⟨before.1, fun _ _ => rfl⟩
        | _ => trivial
      obtain ⟨ticket, written, stage⟩ := permitted.2 rfl
      rw [stage] at mine
      refine flagged.update (fun _ => rfl) ?_ set
      rw [Mode.next, stage]
      exact ⟨mine.1, fun _ _ => rfl⟩
    | false =>
      refine flagged.update (by simp [State.lifted, State.setHandle]) ?_ fun _ before => before.lift
      rw [Mode.next, Stage.wroteSuspended_false]
      exact mine.lift
  | lift =>
    cases answers
    exact flagged.update (by simp [State.lifted]) mine.lift fun _ before => before.lift
  | beginSuspension =>
    cases answers
    refine flagged.update flagged.inForce ?_ fun _ before => before
    exact ⟨Nat.le_refl _, by simp⟩
  -- A ticket that is still current finds the flag it has written.
  | endSuspension ticket successful =>
    have mode : modes thread = ⟨.suspending ticket true, none⟩ := permitted
    rw [mode] at mine
    cases answers
    refine flagged.update ?_ trivial ?_
    · split
      · rename_i succeeded
        simp only [Bool.and_eq_true, beq_iff_eq] at succeeded
        exact fun _ => mine.2 rfl succeeded.2
      · exact flagged.inForce
    · intro stage before
      split <;> exact before.frame rfl rfl
  | _ =>
    have unchanged := frame.handle (by simp [Call.part]) (by simp [Call.part])
    obtain ⟨lifts, suspension⟩ := frame.suspension (by simp [Call.part])
    refine flagged.update ?_ ?_ ?_
    · rw [suspension, unchanged]
      exact flagged.inForce
    · exact (mine.next (by simp) (by simp)).frame (by rw [unchanged]) lifts
    · intro stage before
      exact before.frame (by rw [unchanged]) lifts

end Invariant

section Samples

end Samples

end PxHost.Lifecycle
