import PxHost.Auth.PasswordResets
import PxHost.Nodes.Bootstrap

/-! The two one-time secrets of the panel: password resets and the bootstrap of nodes. -/

namespace PxHost

open Store Interleaving

/--
Over any interleaving of the requests of either service, no password is changed twice with the same
reset token, and no two requests with the same bootstrap token are given credentials, as long as no
request deletes a key that another one has deleted already.
-/
theorem one_time_secrets_are_redeemed_once (config : Auth.Config) (users : Table UserId Auth.User)
    (clock : Time) (moves : List (Move Auth.Task Auth.Choice))
    (resets : Machine.Guarded (Auth.step config) (fun panel move => panel.allows Auth.deletedOnce move)
      (Auth.Panel.opened users clock) moves)
    (nodes : Table NodeId Bootstrap.Node) (nodeTokens : Table String Bootstrap.NodeToken)
    (start : Time) (handshakes : List (Move Bootstrap.Task Bootstrap.Choice))
    (bootstraps : Machine.Guarded Bootstrap.step
      (fun panel move => panel.allows Bootstrap.deletedOnce move)
      (Bootstrap.Panel.opened nodes nodeTokens start) handshakes) (token : String) :
    (Machine.run (Auth.step config) (Auth.Panel.opened users clock) moves).shared.redeemed.count
        token ≤ 1 ∧
      (Machine.run Bootstrap.step (Bootstrap.Panel.opened nodes nodeTokens start)
        handshakes).shared.granted.count token ≤ 1 :=
  ⟨List.nodup_iff_count_le_one.mp (Auth.Resets.redeemed_nodup resets) token,
    List.nodup_iff_count_le_one.mp (Bootstrap.granted_nodup bootstraps) token⟩

/-- A reset that was asked for, and two requests that redeem it. -/
def sampleResets : List (Move Auth.Task Auth.Choice) :=
  .start (.requestPasswordReset "ana@example.com") :: Auth.sampleCalls 0 1000 0 ["", "reset-1", "", ""] ++
    [.start (.resetPassword "reset-1" "new" "new"), .start (.resetPassword "reset-1" "other" "other")]

def sampleRedeemed (moves : List (Move Auth.Task Auth.Choice)) : List String :=
  (Machine.run (Auth.step Auth.sampleConfig) (Auth.Panel.opened Auth.sampleUsers 0)
    moves).shared.redeemed

def sampleHandshake (thread calls : Nat) (secret tokenId : String) :
    List (Move Bootstrap.Task Bootstrap.Choice) :=
  List.replicate calls (.turn thread { now := 1000, secret, tokenId })

def sampleUnbound : Table NodeId Bootstrap.Node := ⟨[(1, {})], by simp⟩

/-- A bootstrap token that was issued, and two requests that present it. -/
def sampleBootstraps : List (Move Bootstrap.Task Bootstrap.Choice) :=
  .start (.issueBootstrapToken 1) :: sampleHandshake 0 4 "bootstrap-1" "" ++
    [.start (.bootstrap ⟨"bootstrap-1", none⟩), .start (.bootstrap ⟨"bootstrap-1", none⟩)]

def sampleGranted (moves : List (Move Bootstrap.Task Bootstrap.Choice)) : List String :=
  (Machine.run Bootstrap.step (Bootstrap.Panel.opened sampleUnbound .empty 0) moves).shared.granted

/-- One request after the other, for both services. -/
def sampleResetsInTurn : List (Move Auth.Task Auth.Choice) :=
  sampleResets ++ Auth.sampleCalls 1 2000 0 ["", "", "", "", "", "", "", ""] ++
    Auth.sampleCalls 2 3000 0 ["", ""]

def sampleBootstrapsInTurn : List (Move Bootstrap.Task Bootstrap.Choice) :=
  sampleBootstraps ++ sampleHandshake 1 10 "secret-1" "id-1" ++ sampleHandshake 2 2 "secret-2" "id-2"

/-- The second request with either token comes too late. -/
theorem sample_one_time_secrets_are_redeemed_once :
    sampleRedeemed sampleResetsInTurn = ["reset-1"] ∧
      sampleGranted sampleBootstrapsInTurn = ["bootstrap-1"] ∧
      (sampleRedeemed sampleResetsInTurn).count "reset-1" ≤ 1 ∧
      (sampleGranted sampleBootstrapsInTurn).count "bootstrap-1" ≤ 1 := by
  have once := one_time_secrets_are_redeemed_once Auth.sampleConfig Auth.sampleUsers 0
    sampleResetsInTurn (by decide +kernel) sampleUnbound .empty 0 sampleBootstrapsInTurn
    (by decide +kernel)
  exact ⟨by decide +kernel, by decide +kernel, (once "reset-1").1, (once "bootstrap-1").2⟩

/-- Two requests that both read the key before either deletes it both redeem the secret. -/
theorem one_time_secret_is_redeemed_twice :
    sampleRedeemed (sampleResets ++ Auth.sampleCalls 1 2000 0 [""] ++
      Auth.sampleCalls 2 2000 0 ["", "", "", "", "", "", "", ""] ++
      Auth.sampleCalls 1 2000 0 ["", "", "", "", "", "", ""]) = ["reset-1", "reset-1"] ∧
    sampleGranted (sampleBootstraps ++ sampleHandshake 1 1 "" "" ++
      sampleHandshake 2 10 "secret-2" "id-2" ++ sampleHandshake 1 9 "secret-1" "id-1") =
      ["bootstrap-1", "bootstrap-1"] := by
  decide +kernel

end PxHost
