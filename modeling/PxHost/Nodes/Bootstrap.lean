import PxHost.Lib.Interleaving
import PxHost.Lib.OneTime
import PxHost.Lib.Table
import PxHost.Schema.Types

/-! How a node gets its credentials: a bootstrap token that is redeemed once, and their rotation. -/

namespace PxHost.Bootstrap

open Store Interleaving OneTime Function

/-- The columns of a node that the handshake reads and writes. -/
structure Node where
  deletedAt : Option Time := none
  dockerVersion : Option String := none
  lastHeartbeatAt : Option Time := none
  healthStatus : HealthStatus := .unknown
  /-- What the panel presents to the agent, encrypted at rest. -/
  controlTokenEnc : Option (String × String) := none

inductive TokenStatus where
  | pending | active | revoked
deriving DecidableEq

/-- A credential of a node under its public half; of the secret only a hash is stored. -/
structure NodeToken where
  nodeId : NodeId
  tokenHash : String
  status : TokenStatus
  revokedAt : Option Time := none

def NodeToken.activeFor (nodeId : NodeId) (token : NodeToken) : Bool :=
  token.nodeId == nodeId && token.status == .active

/-- What a node is given: its identifier and the two halves of its token. -/
structure Credentials where
  nodeUuid : NodeId
  tokenId : String
  secret : String
  heartbeatIntervalSeconds : Nat
deriving DecidableEq

structure BootstrapRequest where
  token : String
  dockerVersion : Option String
deriving DecidableEq

/-- The tables and Redis; `granted` records the bootstrap tokens that were answered for. -/
structure State where
  nodes : Table NodeId Node
  nodeTokens : Table String NodeToken
  /-- The bootstrap tokens outstanding, each with its node and expiry. -/
  bootstraps : String → Option (NodeId × Time)
  clock : Time
  drawn : List String := []
  granted : List String := []

inductive Failure where
  | unauthorized (message : String)
  | notFound (message : String)
  | constraint
  | lost
deriving DecidableEq

inductive Call where
  | now
  | random
  | newToken
  | findNode (id : NodeId)
  | setBootstrap (token : String) (node : NodeId)
  | getBootstrap (token : String)
  | delBootstrap (token : String)
  | revokeTokens (node : NodeId) (date : Time)
  | createToken (node : NodeId) (tokenId secret : String)
  | completeBootstrap (node : NodeId) (dockerVersion : Option String) (date : Time)
      (tokenId secret : String)
  | rotateToken (node : NodeId) (date : Time) (tokenId secret : String)
  | respond (redeemed : Option String)

@[reducible] def Call.Result : Call → Type
  | now => Time
  | random => String
  | newToken => String × String
  | findNode _ => Option Node
  | getBootstrap _ => Option NodeId
  | setBootstrap .. | delBootstrap _ | revokeTokens .. | createToken .. | completeBootstrap ..
  | rotateToken .. | respond _ => Unit

@[reducible] def Call.Answer (call : Call) : Type := Except Failure call.Result

structure Choice where
  now : Time
  fault : Option (Fault Failure) := none
  secret : String := ""
  tokenId : String := ""

def bootstrapTtlSeconds : Int := 30 * 60

def heartbeatIntervalSeconds : Nat := 15

def revoked (tokens : Table String NodeToken) (node : NodeId) (date : Time) : Table String NodeToken :=
  tokens.updateWhere (fun _ token => token.activeFor node) fun token =>
    { token with status := .revoked, revokedAt := some date }

/-- A node has one active token at most, and no two tokens share their public half. -/
def created (tokens : Table String NodeToken) (node : NodeId) (tokenId secret : String) :
    Option (Table String NodeToken) :=
  if (tokens.find? fun _ token => token.activeFor node).isSome then none
  else tokens.insert? tokenId { nodeId := node, tokenHash := secret, status := .active }

def perform (s : State) (choice : Choice) : (call : Call) → call.Answer × State
  | .now => (.ok s.clock, s)
  | .random => (.ok choice.secret, { s with drawn := choice.secret :: s.drawn })
  | .newToken => (.ok (choice.tokenId, choice.secret), s)
  | .findNode id => (.ok ((s.nodes.get? id).filter (·.deletedAt.isNone)), s)
  | .setBootstrap token node =>
    let entry := (node, s.clock + bootstrapTtlSeconds * 1000)
    (.ok (), { s with bootstraps := Function.update s.bootstraps token (some entry) })
  | .getBootstrap token =>
    (.ok ((s.bootstraps token).bind fun (node, expiry) => if s.clock < expiry then some node else none), s)
  | .delBootstrap token => (.ok (), { s with bootstraps := Function.update s.bootstraps token none })
  | .revokeTokens node date => (.ok (), { s with nodeTokens := revoked s.nodeTokens node date })
  | .createToken node tokenId secret =>
    match created s.nodeTokens node tokenId secret with
    | none => (.error .constraint, s)
    | some nodeTokens => (.ok (), { s with nodeTokens })
  | .completeBootstrap node dockerVersion date tokenId secret =>
    match s.nodes.get? node with
    | none => (.error (.notFound "No Node found"), s)
    | some _ =>
      (.ok (), { s with nodes := s.nodes.modify node fun row => { row with
        dockerVersion := dockerVersion <|> row.dockerVersion, lastHeartbeatAt := some date
        healthStatus := .online, controlTokenEnc := some (tokenId, secret) } })
  | .rotateToken node date tokenId secret =>
    -- One transaction: the old token goes with the same commit that brings the new one.
    match created (revoked s.nodeTokens node date) node tokenId secret, s.nodes.get? node with
    | some nodeTokens, some _ =>
      (.ok (), { s with
        nodeTokens
        nodes := s.nodes.modify node fun row =>
          { row with controlTokenEnc := some (tokenId, secret) } })
    | none, _ => (.error .constraint, s)
    | some _, none => (.error (.notFound "No Node found"), s)
  | .respond redeemed =>
    (.ok (), match redeemed with
      | some token => { s with granted := token :: s.granted }
      | none => s)

/-- A new bootstrap token differs from all before it. -/
def State.accepts (s : State) (choice : Choice) : Call → Bool
  | .random => !s.drawn.contains choice.secret
  | _ => true

/-- The clock never runs backwards. -/
def answer? (_thread : Nat) (call : Call) (choice : Choice) (s : State) :
    Option (call.Answer × State) :=
  if s.clock ≤ choice.now ∧ s.accepts choice call then
    some (Fault.befall { s with clock := choice.now }
      (perform { s with clock := choice.now } choice call) choice.fault)
  else none

abbrev Routine := ExceptT Failure (Program Call.Answer)

@[simp] def ask (call : Call) : Routine call.Result := ExceptT.mk (Program.perform call)

def issueBootstrapToken (nodeId : NodeId) : Routine String := do
  let some _ ← ask (.findNode nodeId) | throw (.notFound "Node not found")
  let token ← ask .random
  ask (.setBootstrap token nodeId)
  return token

def bootstrap (dto : BootstrapRequest) : Routine Credentials := do
  let some nodeId ← ask (.getBootstrap dto.token)
    | throw (.unauthorized "Invalid or expired bootstrap token")
  ask (.delBootstrap dto.token)
  let some _ ← ask (.findNode nodeId) | throw (.notFound "Node no longer exists")
  let date ← ask .now
  ask (.revokeTokens nodeId date)
  let (tokenId, secret) ← ask .newToken
  ask (.createToken nodeId tokenId secret)
  let date ← ask .now
  ask (.completeBootstrap nodeId dto.dockerVersion date tokenId secret)
  return { nodeUuid := nodeId, tokenId, secret, heartbeatIntervalSeconds }

def rotateSelf (nodeId : NodeId) : Routine (String × String) := do
  let (tokenId, secret) ← ask .newToken
  let date ← ask .now
  ask (.rotateToken nodeId date tokenId secret)
  return (tokenId, secret)

def forceRotate (nodeId : NodeId) : Routine String := do
  let some _ ← ask (.findNode nodeId) | throw (.notFound "Node not found")
  let date ← ask .now
  ask (.revokeTokens nodeId date)
  issueBootstrapToken nodeId

inductive Task where
  | issueBootstrapToken (node : NodeId)
  | bootstrap (dto : BootstrapRequest)
  | rotateSelf (node : NodeId)
  | forceRotate (node : NodeId)

/-- Whatever becomes of a request, it is answered in the end. -/
def handled {α : Type} (routine : Routine α) : Program Call.Answer Unit := do
  let _ ← routine.run
  let _ ← Program.perform (Call.respond none)

def code : Task → Program Call.Answer Unit
  | .issueBootstrapToken node => handled (issueBootstrapToken node)
  | .bootstrap dto => do
    let result ← (bootstrap dto).run
    let _ ← Program.perform (Call.respond (if result.isOk then some dto.token else none))
  | .rotateSelf node => handled (rotateSelf node)
  | .forceRotate node => handled (forceRotate node)

abbrev Panel := Pool State Task Call.Answer

def step : Panel → Move Task Choice → Panel := Pool.step code answer?

/-- Nodes, some of which may have their tokens already, and nothing under way. -/
def Panel.opened (nodes : Table NodeId Node) (nodeTokens : Table String NodeToken) (clock : Time) :
    Panel :=
  ⟨{ nodes, nodeTokens, bootstraps := fun _ => none, clock }, []⟩

/-- Whoever deletes the key of a bootstrap token finds that nobody has deleted it before. -/
def deletedOnce (s : State) (_ : Task) (call : Call) (_ : Choice) : Bool :=
  match call with
  | .delBootstrap token => (s.bootstraps token).isSome
  | _ => true

/-- The token that is in the hands of a thread: one it has drawn, or one it has taken to redeem. -/
abbrev Mode := Option String

def Mode.permits (mode : Mode) : Call → Prop
  | .setBootstrap token _ | .respond (some token) => mode = some token
  | _ => True

def Mode.next (mode : Mode) : (call : Call) → call.Answer → Mode
  | .random, .ok secret => some secret
  | .delBootstrap token, .ok _ => some token
  | .setBootstrap .., _ | .respond _, _ => none
  | _, _ => mode

abbrev discipline : Discipline Task Mode Call.Answer := .decided Mode.permits Mode.next

def GrantsSingle (s : State) (modes : Nat → Mode) : Prop :=
  Single (fun token => (s.bootstraps token).isSome) modes s.granted s.drawn

section Laws

variable {s : State} {modes : Nat → Mode} {thread : Nat} {task : Task} {call : Call}
  {choice : Choice}

/-- Every call keeps the account of the bootstrap tokens, whether or not its answer is heard. -/
theorem GrantsSingle.perform (linked : GrantsSingle s modes) (ok : deletedOnce s task call choice)
    (permitted : Mode.permits (modes thread) call) (accepted : s.accepts choice call)
    {answer : call.Answer}
    (heard : answer = (perform s choice call).1 ∨ ∃ failure, answer = .error failure) :
    GrantsSingle (Bootstrap.perform s choice call).2
      (update modes thread ((modes thread).next call answer)) := by
  cases call with
  | now | newToken | findNode | getBootstrap | revokeTokens => exact linked.unheard thread
  | createToken | completeBootstrap | rotateToken =>
    simp only [Bootstrap.perform]
    split <;> exact linked.unheard thread
  | random =>
    have fresh : choice.secret ∉ s.drawn := by simpa [State.accepts] using accepted
    rcases heard with rfl | ⟨failure, rfl⟩
    · exact linked.drawFresh fresh
    · exact (linked.draw choice.secret).unheard thread
  | setBootstrap token node => exact linked.put permitted _
  | delBootstrap token =>
    rcases heard with rfl | ⟨failure, rfl⟩
    · exact linked.delete ok
    · exact (linked.lose token).unheard thread
  | respond redeemed =>
    cases redeemed with
    | none => exact linked.drop
    | some token => exact linked.redeem permitted

theorem Mode.next_error (mode : Mode) (call : Call) (failure : Failure) :
    mode.next call (.error failure) = mode ∨ mode.next call (.error failure) = none := by
  cases call with
  | setBootstrap | respond => exact .inr rfl
  | _ => exact .inl rfl

theorem grantsSingle_sustained : Sustained answer? deletedOnce discipline GrantsSingle := by
  intro s modes thread task call choice answer s' linked ok permitted answers
  refine ⟨_, rfl, ?_⟩
  have waited : GrantsSingle { s with clock := choice.now } modes := linked
  have ok' : deletedOnce { s with clock := choice.now } task call choice := ok
  obtain ⟨⟨-, accepted⟩, ⟨rfl, failure, rfl⟩ | ⟨rfl, heard⟩⟩ := Fault.answer_cases answers
  · -- A call that never arrives leaves the thread what it has, or nothing.
    rcases Mode.next_error (modes thread) call failure with same | none
    · rw [same]
      exact waited.unheard thread
    · rw [none]
      exact waited.drop
  · exact waited.perform ok' permitted accepted heard

end Laws

section Code

attribute [local simp] Mode.permits Mode.next forall_except Option.forall Except.isOk Except.toBool

/-- Whoever is given credentials has taken the token, and not let go of it since. -/
theorem follows_code (task : Task) :
    Follows discipline task none (code task) fun _ after => after = none := by
  cases task <;> simp [code, handled, issueBootstrapToken, bootstrap, rotateSelf, forceRotate]

end Code

theorem granted_nodup {nodes : Table NodeId Node} {nodeTokens : Table String NodeToken} {clock : Time}
    {moves : List (Move Task Choice)}
    (ok : Machine.Guarded step (fun panel move => panel.allows deletedOnce move)
      (Panel.opened nodes nodeTokens clock) moves) :
    (Machine.run step (Panel.opened nodes nodeTokens clock) moves).shared.granted.Nodup := by
  have opened : GrantsSingle (Panel.opened nodes nodeTokens clock).shared fun _ => none :=
    Single.start _ (by simp [Panel.opened]) _
  have moded : (Panel.opened nodes nodeTokens clock).Moded discipline none GrantsSingle := .of_idle opened
  obtain ⟨_, linked, -⟩ := moded.run follows_code grantsSingle_sustained ok
  exact linked.once

end PxHost.Bootstrap
