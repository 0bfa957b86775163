import PxHost.Auth.Service
import PxHost.Lib.OneTime

/-! The tokens of password resets, and how often a password is changed with one. -/

namespace PxHost.Auth

open Store Interleaving OneTime Function

/-- Whoever deletes the key of a token finds that nobody has deleted it before. -/
def deletedOnce (s : State) (_ : Task) (call : Call) (_ : Choice) : Bool :=
  match call with
  | .delReset token => (s.resets token).isSome
  | _ => true

namespace Resets

/-- The secret that is in the hands of a thread: one it has drawn, or one it has taken to redeem. -/
abbrev Mode := Option String

def Mode.permits (mode : Mode) : Call → Prop
  | .setReset token _ | .updateUser _ (.passwordReset token _) => mode = some token
  | _ => True

def Mode.next (mode : Mode) : (call : Call) → call.Answer → Mode
  | .random, .ok secret => some secret
  | .delReset token, .ok _ => some token
  | .setReset .., _ | .updateUser _ (.passwordReset ..), _ | .respond, _ => none
  | _, _ => mode

abbrev discipline : Discipline Task Mode Call.Answer := .decided Mode.permits Mode.next

def ResetsSingle (s : State) (modes : Nat → Mode) : Prop :=
  Single (fun token => (s.resets token).isSome) modes s.redeemed s.drawn

section Laws

variable {s : State} {modes : Nat → Mode} {thread : Nat} {task : Task} {call : Call}
  {choice : Choice}

/-- What a thread does not hear of is not in its hands, but it may keep what it had. -/
theorem ResetsSingle.perform (linked : ResetsSingle s modes) (ok : deletedOnce s task call choice)
    (permitted : Mode.permits (modes thread) call) (accepted : s.accepts choice call)
    {answer : call.Answer}
    (heard : answer = (perform s choice call).1 ∨ ∃ failure, answer = .error failure) :
    ResetsSingle (Auth.perform s choice call).2
      (update modes thread ((modes thread).next call answer)) := by
  cases call with
  | now | findUserByEmail | findUser | findSession | revokeFamily | listSessions | denylistJti
  | denylistSession | isDenylisted | getReset => exact linked.unheard thread
  | useSession | revokeSession | revokeAll | verifyAccessToken =>
    simp only [Auth.perform]
    split <;> exact linked.unheard thread
  | createSession | authorise =>
    simp only [Auth.perform]
    split
    · exact linked.unheard thread
    · split <;> exact linked.unheard thread
  | signAccessToken userId sessionId ttl =>
    -- The identifier of an access token is drawn, but nobody offers it.
    exact (linked.draw choice.secret).unheard thread
  | random =>
    have fresh : choice.secret ∉ s.drawn := by simpa [State.accepts] using accepted
    rcases heard with rfl | ⟨failure, rfl⟩
    · exact linked.drawFresh fresh
    · exact (linked.draw choice.secret).unheard thread
  | updateUser id change =>
    cases change with
    | passwordReset token hash =>
      simp only [Auth.perform]
      split
      · exact linked.drop
      · exact linked.redeem permitted
    | _ =>
      simp only [Auth.perform]
      split <;> exact linked.unheard thread
  | setReset token user => exact linked.put permitted _
  | delReset token =>
    rcases heard with rfl | ⟨failure, rfl⟩
    · exact linked.delete ok
    · exact (linked.lose token).unheard thread
  | respond => exact linked.drop

theorem Mode.next_error (mode : Mode) (call : Call) (failure : Failure) :
    mode.next call (.error failure) = mode ∨ mode.next call (.error failure) = none := by
  cases call with
  | updateUser id change =>
    cases change with
    | passwordReset => exact .inr rfl
    | _ => exact .inl rfl
  | setReset | respond => exact .inr rfl
  | _ => exact .inl rfl

theorem resetsSingle_sustained : Sustained answer? deletedOnce discipline ResetsSingle := by
  intro s modes thread task call choice answer s' linked ok permitted answers
  refine ⟨_, rfl, ?_⟩
  have waited : ResetsSingle { s with clock := choice.now } modes := linked
  obtain ⟨⟨-, accepted⟩, ⟨rfl, failure, rfl⟩ | ⟨rfl, heard⟩⟩ := Fault.answer_cases answers
  · rcases Mode.next_error (modes thread) call failure with same | none
    · rw [same]
      exact waited.unheard thread
    · rw [none]
      exact waited.drop
  · have ok' : deletedOnce { s with clock := choice.now } task call choice := ok
    exact waited.perform ok' permitted accepted heard

end Laws

section Code

variable {config : Config} {task : Task}

attribute [local simp] Mode.permits Mode.next forall_except Option.forall Bool.forall_bool

/-- What is offered is the token just drawn, and whoever has taken one changes the password. -/
theorem follows_code (task : Task) :
    Follows discipline task none (code config task) fun _ after => after = none := by
  cases task <;> simp [code, handled, login, loginWithGoogle, refresh, logout, requestPasswordReset,
    resetPassword, canActivate, issueSession, registerFailedLogin, handleRefreshReuse,
    revokeAllForUser]

end Code

theorem redeemed_nodup {config : Config} {users : Table UserId User} {clock : Time}
    {moves : List (Move Task Choice)}
    (ok : Machine.Guarded (step config) (fun panel move => panel.allows deletedOnce move)
      (Panel.opened users clock) moves) :
    (Machine.run (step config) (Panel.opened users clock) moves).shared.redeemed.Nodup := by
  have opened : ResetsSingle (Panel.opened users clock).shared fun _ => none :=
    Single.start _ (by simp [Panel.opened]) _
  have moded : (Panel.opened users clock).Moded discipline none ResetsSingle := .of_idle opened
  obtain ⟨_, linked, -⟩ := moded.run follows_code resetsSingle_sustained ok
  exact linked.once

end Resets

end PxHost.Auth
