import PxHost.Auth.Service

/-! Which access tokens the guard still lets through after all sessions of an account are revoked. -/

namespace PxHost.Auth

open Store Interleaving

/-- A revocation is written in a second that is not before the one of the account's last cut-off. -/
def advancing (s : State) (_ : Task) (call : Call) (_ : Choice) : Bool :=
  match call with
  | .updateUser id (.tokensValidAfter date) | .revokeAll id date _ =>
    (s.users.get? id).all fun user => seconds user.tokensValidAfter ≤ seconds date
  | _ => true

/-- The cut-off of an account is not before any of its revocations, and was not for any request. -/
structure Cut (s : State) : Prop where
  stored : ∀ id date user, (id, date) ∈ s.cutoffs → s.users.get? id = some user →
    seconds date ≤ seconds user.tokensValidAfter
  dated : ∀ token time, (token, time) ∈ s.issued → token.iat = seconds time
  admitted : ∀ admission ∈ s.admitted, ∀ date, (admission.token.sub, date) ∈ admission.cutoffs →
    seconds date ≤ admission.token.iat

section Laws

variable {s s' : State} {thread : Nat} {task : Task} {call : Call} {choice : Choice}

theorem Cut.of_same (cut : Cut s) (users : s'.users = s.users) (cutoffs : s'.cutoffs = s.cutoffs)
    (issued : s'.issued = s.issued) (admitted : s'.admitted = s.admitted) : Cut s' :=
  ⟨by rw [users, cutoffs]; exact cut.stored, by rw [issued]; exact cut.dated,
    by rw [admitted]; exact cut.admitted⟩

theorem Cut.change (cut : Cut s) {id : UserId} {change : UserChange}
    (kept : ∀ user : User, (change.apply user).tokensValidAfter = user.tokensValidAfter)
    (same : s'.users = s.users.modify id (UserChange.apply · change))
    (cutoffs : s'.cutoffs = s.cutoffs) (issued : s'.issued = s.issued)
    (admitted : s'.admitted = s.admitted) : Cut s' where
  stored := by
    intro other date user revoked found
    rw [cutoffs] at revoked
    rw [same, Table.get?_modify] at found
    split at found
    · obtain ⟨old, before, rfl⟩ := Option.map_eq_some_iff.mp found
      rw [kept]
      exact cut.stored other date old revoked before
    · exact cut.stored other date user revoked found
  dated := by rw [issued]; exact cut.dated
  admitted := by rw [admitted]; exact cut.admitted

/-- A revocation moves the cut-off of its account to a second that is not before the last one. -/
theorem Cut.revoke (cut : Cut s) {id : UserId} {date : Time}
    (later : ∀ user, s.users.get? id = some user → seconds user.tokensValidAfter ≤ seconds date)
    (users : s'.users = s.users.modify id (UserChange.apply · (.tokensValidAfter date)))
    (cutoffs : s'.cutoffs = (id, date) :: s.cutoffs) (issued : s'.issued = s.issued)
    (admitted : s'.admitted = s.admitted) : Cut s' where
  stored := by
    intro other date' user revoked found
    rw [cutoffs] at revoked
    rw [users, Table.get?_modify] at found
    rcases List.mem_cons.mp revoked with new | old
    · -- The new cut-off is the date of the revocation itself.
      obtain ⟨rfl, rfl⟩ := Prod.mk.inj new
      rw [if_pos rfl] at found
      obtain ⟨old, -, rfl⟩ := Option.map_eq_some_iff.mp found
      exact Int.le_refl _
    · split at found
      · next same =>
        subst same
        obtain ⟨row, before, rfl⟩ := Option.map_eq_some_iff.mp found
        exact Int.le_trans (cut.stored other date' row old before) (later row before)
      · exact cut.stored other date' user old found
  dated := by rw [issued]; exact cut.dated
  admitted := by rw [admitted]; exact cut.admitted

theorem Cut.authorise (cut : Cut s) (token : AccessToken) :
    Cut (perform s choice (.authorise token)).2 := by
  simp only [perform]
  split
  · exact cut
  · next user found =>
    split
    · next admits =>
      refine ⟨cut.stored, cut.dated, fun admission member => ?_⟩
      rcases List.mem_cons.mp member with rfl | earlier
      · intro date revoked
        have late : ¬ token.iat < seconds user.tokensValidAfter := by
          simp only [User.admits, Bool.and_eq_true, Bool.not_eq_true', decide_eq_false_iff_not]
            at admits
          exact admits.2
        exact Int.le_trans (cut.stored token.sub date user revoked found) (Int.not_lt.mp late)
      · exact cut.admitted admission earlier
    · exact cut

/-- A cut-off only moves forward, so that no token from before it is admitted. -/
theorem Cut.perform (cut : Cut s) (ok : advancing s task call choice) :
    Cut (perform s choice call).2 := by
  cases call with
  | now | random | findUserByEmail | findUser | findSession | revokeFamily | listSessions | denylistJti
  | denylistSession | isDenylisted | setReset | getReset | delReset | respond =>
    exact cut.of_same rfl rfl rfl rfl
  | authorise token => exact cut.authorise token
  | updateUser id change =>
    simp only [Auth.perform]
    split
    · exact cut
    · cases change with
      | loggedIn | failedLogin | passwordReset => exact cut.change (fun _ => rfl) rfl rfl rfl rfl
      | tokensValidAfter date =>
        refine cut.revoke (fun user found => ?_) rfl rfl rfl rfl
        simpa [advancing, found] using ok
  | revokeAll id date sessions =>
    simp only [Auth.perform]
    split
    · exact cut
    · refine cut.revoke (fun user found => ?_) rfl rfl rfl rfl
      simpa [advancing, found] using ok
  | useSession | revokeSession =>
    simp only [Auth.perform]
    split <;> exact cut.of_same rfl rfl rfl rfl
  | createSession =>
    simp only [Auth.perform]
    split
    · exact cut
    · split <;> exact cut.of_same rfl rfl rfl rfl
  | signAccessToken userId sessionId ttl =>
    refine ⟨cut.stored, fun token time member => ?_, cut.admitted⟩
    rcases List.mem_cons.mp member with new | old
    · obtain ⟨rfl, rfl⟩ := Prod.mk.inj new
      rfl
    · exact cut.dated token time old
  | verifyAccessToken token =>
    simp only [Auth.perform]
    split <;> exact cut

theorem Cut.answered {answer : call.Answer} (cut : Cut s) (ok : advancing s task call choice)
    (answers : answer? thread call choice s = some (answer, s')) : Cut s' := by
  have waited : Cut { s with clock := choice.now } := cut.of_same rfl rfl rfl rfl
  have ok' : advancing { s with clock := choice.now } task call choice := ok
  obtain ⟨-, ⟨rfl, -⟩ | ⟨rfl, -⟩⟩ := Fault.answer_cases answers
  · exact waited
  · exact waited.perform ok'

end Laws

/--
Over any interleaving of sign-ins, rotations, revocations and requests, a token that was issued in a
second before that of a completed revocation of its account is not let through, as long as no
revocation moves the cut-off of an account to an earlier second.
-/
theorem revoked_tokens_are_rejected (config : Config) (users : Table UserId User) (clock : Time)
    (moves : List (Move Task Choice))
    (ok : Machine.Guarded (step config) (fun panel move => panel.allows advancing move)
      (Panel.opened users clock) moves) :
    let s := (Machine.run (step config) (Panel.opened users clock) moves).shared
    ∀ admission ∈ s.admitted, ∀ time, (admission.token, time) ∈ s.issued →
      ∀ date, (admission.token.sub, date) ∈ admission.cutoffs → ¬ seconds time < seconds date := by
  have opened : Cut (Panel.opened users clock).shared := by
    constructor <;> simp [Panel.opened]
  have cut : Cut (Machine.run (step config) (Panel.opened users clock) moves).shared := by
    refine Pool.shared_run Cut ?_ opened ok
    intro s thread task call choice answer s' cut ok answers
    exact cut.answered ok answers
  intro s admission member time issued date revoked
  rw [← cut.dated admission.token time issued]
  exact Int.not_lt.mpr (cut.admitted admission member date revoked)

def sampleAccess (second : Int) : AccessToken :=
  { sub := 1, sid := 11, jti := "access-1", iat := second, exp := second + 900 }

def sampleRevoke (thread : Nat) (now : Time) : List (Move Task Choice) :=
  .start (.revokeAllForUser 1) :: sampleCalls thread now 0 ["", "", "", ""]

def sampleRequest (thread : Nat) (now : Time) (second : Int) : List (Move Task Choice) :=
  .start (.request (sampleAccess second)) :: sampleCalls thread now 0 ["", "", "", ""]

/-- The tokens let through in a run, each with the revocations that were completed before it. -/
def sampleAdmitted (moves : List (Move Task Choice)) : List (AccessToken × List (UserId × Time)) :=
  (Machine.run (step sampleConfig) (Panel.opened sampleUsers 0) moves).shared.admitted.map
    fun admission => (admission.token, admission.cutoffs)

/-- A token that is used before and after the sessions of its account are revoked. -/
def sampleRevoked : List (Move Task Choice) :=
  sampleLogin 1000 ++ sampleRequest 1 1500 1 ++ sampleRevoke 2 5200 ++ sampleRequest 3 5300 1

theorem sample_revoked_tokens_are_rejected :
    sampleAdmitted sampleRevoked = [(sampleAccess 1, [])] ∧
      ∀ admission ∈ (Machine.run (step sampleConfig) (Panel.opened sampleUsers 0)
          sampleRevoked).shared.admitted, ∀ time, (admission.token, time) ∈
        (Machine.run (step sampleConfig) (Panel.opened sampleUsers 0) sampleRevoked).shared.issued →
      ∀ date, (admission.token.sub, date) ∈ admission.cutoffs → ¬ seconds time < seconds date :=
  ⟨by decide +kernel,
    revoked_tokens_are_rejected sampleConfig sampleUsers 0 sampleRevoked (by decide +kernel)⟩

/--
A token issued in the second of a revocation, though before it, is let through afterwards. So is an
older one when a revocation that began earlier writes its date last.
-/
theorem revoked_token_is_admitted :
    sampleAdmitted (sampleLogin 5100 ++ sampleRevoke 1 5200 ++ sampleRequest 2 5300 5) =
      [(sampleAccess 5, [(1, 5200)])] ∧
    sampleAdmitted (.start (.login "ana@example.com" "old") :: .start (.revokeAllForUser 1) ::
      sampleCalls 1 5200 0 [""] ++
      sampleCalls 0 6100 11 ["", "", "", "refresh-1", "", "", "access-1", ""] ++
      sampleRevoke 2 8200 ++ sampleCalls 1 8300 0 ["", "", ""] ++ sampleRequest 3 8400 6) =
      [(sampleAccess 6, [(1, 5200), (1, 8200)])] := by
  decide +kernel

end PxHost.Auth
