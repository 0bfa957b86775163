import Mathlib.Data.List.Sort
import PxHost.Agent.Tokens
import PxHost.Lib.Interleaving
import PxHost.Lib.Table
import PxHost.Schema.Types

/-! The keys that the panel signs capability tokens with: rotation, retirement and minting. -/

namespace PxHost.SigningKeys

open Store Interleaving Function
open Tokens (PublicKey Token Capability TokenContext)

inductive KeyState where
  | current | retiring | retired
deriving DecidableEq

/-- A stored key; its private half, named after the pair, is deleted when the key is retired. -/
structure SigningKey where
  publicKey : PublicKey
  privateKeyEnc : Option PublicKey
  state : KeyState
  createdAt : Time
  /-- The two halves were generated together. -/
  paired : ∀ pair, privateKeyEnc = some pair → pair = publicKey

namespace SigningKey

/-- A key as it is inserted, both by a rotation and for the configured one. -/
def promoted (pair : PublicKey) (createdAt : Time) : SigningKey where
  publicKey := pair
  privateKeyEnc := some pair
  state := .current
  createdAt
  paired := by simp

def demoted (key : SigningKey) : SigningKey := { key with state := .retiring }

def retired (key : SigningKey) : SigningKey :=
  { key with state := .retired, privateKeyEnc := none, paired := by simp }

def isCurrent (key : SigningKey) : Bool := key.state == .current

end SigningKey

/-- The keys under their identifiers, which the table keeps unique. -/
abbrev KeyTable := Table String SigningKey

structure PublicSigningKey where
  kid : String
  publicKey : PublicKey
  state : KeyState
deriving DecidableEq

/-- Newest first; between keys of the same moment the database may choose. -/
def newestFirst (rows : List (String × SigningKey)) : List (String × SigningKey) :=
  rows.insertionSort fun a b => b.2.createdAt ≤ a.2.createdAt

def listPublic (keys : KeyTable) : List PublicSigningKey :=
  (newestFirst (keys.filter fun _ key => key.state == .current || key.state == .retiring)).map
    fun (kid, key) => ⟨kid, key.publicKey, key.state⟩

def findCurrent (keys : KeyTable) : Option (String × SigningKey) :=
  (newestFirst (keys.filter fun _ key => key.isCurrent)).head?

structure Current where
  kid : String
  privateKey : PublicKey
deriving DecidableEq

abbrev Process := Nat

structure CapabilityMint where
  serverUuid : String
  nodeUuid : String
  cap : Capability
  permissions : List String
  ttlSeconds : Int
  ctx : Option TokenContext

/-- Sign a token; the time is in whole seconds, which the agent reads in nanoseconds. -/
def mint (current : Current) (request : CapabilityMint) (now : Int) (jti : String) : Token where
  alg := "EdDSA"
  kid := some current.kid
  signedBy := some current.privateKey
  claims := {
    id := jti
    subject := request.serverUuid
    audience := ["node:" ++ request.nodeUuid]
    expiresAt := some ((now + request.ttlSeconds) * 1000000000)
    notBefore := some (now * 1000000000)
    cap := request.cap
    permissions := request.permissions
    ctx := request.ctx }

/-- A token with the keys that were published at the moment it was minted. -/
structure Minted where
  token : Token
  published : List PublicSigningKey

structure State where
  keys : KeyTable
  /-- The thread whose open transaction has changed a row. -/
  holder : String → Option Nat
  current : Table Process Current
  minted : List Minted

/-- A transaction that ends lets go of its rows. -/
def State.released (s : State) (thread : Nat) : State :=
  { s with holder := fun kid => (s.holder kid).filter (· ≠ thread) }

inductive Failure where
  | noPrivateKey (kid : String)
  | notConfigured
  | notLoaded
  | noRecord
  | duplicateKid
  | lost
deriving DecidableEq

/--
The statements on the table and the steps in the memory of a process. The update of a rotation reads
the rows of the moment it starts, waits for each of them, and changes those that still match.
-/
inductive Call where
  | listCurrent
  | demote (kid : String)
  | promote (demoted : List String) (kid : String) (pair : PublicKey)
  | findCurrent
  | createSeed (pair : PublicKey)
  | assign (process : Process) (current : Current)
  | retire (kid : String)
  | mint (process : Process) (request : CapabilityMint)

@[reducible] def Call.Result : Call → Type
  | listCurrent => List String
  | demote _ => Bool
  | findCurrent => Option (String × SigningKey)
  | createSeed _ => String
  | mint .. => Token
  | promote .. | assign .. | retire _ => Unit

@[reducible] def Call.Answer (call : Call) : Type := Except Failure call.Result

structure Choice where
  fault : Option (Fault Failure) := none
  /-- The identifier of a key made from the configured one. -/
  kid : String := ""
  createdAt : Time := 0
  now : Int := 0
  jti : String := ""

def perform (thread : Nat) (s : State) (choice : Choice) : (call : Call) → call.Answer × State
  | .listCurrent => (.ok ((s.keys.filter fun _ key => key.isCurrent).map Prod.fst), s)
  | .demote kid =>
    if (s.keys.get? kid).any SigningKey.isCurrent then
      (.ok true, { s with holder := Function.update s.holder kid (some thread) })
    else (.ok false, s)
  | .promote demoted kid pair =>
    -- The update is seen by others only now, together with the new row.
    let keys := s.keys.updateWhere (fun kid _ => demoted.contains kid) SigningKey.demoted
    match keys.insert? kid (.promoted pair choice.createdAt) with
    | some keys => (.ok (), { s.released thread with keys })
    | none => (.error .duplicateKid, s.released thread)
  | .findCurrent => (.ok (findCurrent s.keys), s)
  | .createSeed pair =>
    match s.keys.insert? choice.kid (.promoted pair choice.createdAt) with
    | some keys => (.ok choice.kid, { s with keys })
    | none => (.error .duplicateKid, s)
  | .assign process current =>
    (.ok (), { s with current := s.current.upsert process current fun _ => current })
  | .retire kid =>
    match s.keys.get? kid with
    | some _ => (.ok (), { s with keys := s.keys.modify kid SigningKey.retired })
    | none => (.error .noRecord, s)
  | .mint process request =>
    match s.current.get? process with
    | some current =>
      let token := mint current request choice.now choice.jti
      (.ok token, { s with minted := ⟨token, listPublic s.keys⟩ :: s.minted })
    | none => (.error .notLoaded, s)

/-- A statement waits for a row that an open transaction of another thread has changed. -/
def State.blocks (s : State) (thread : Nat) : Call → Bool
  | .demote kid | .retire kid => (s.holder kid).any (· ≠ thread)
  | _ => false

/-- A call that is lost takes the transaction it belongs to with it. -/
def answer? (thread : Nat) (call : Call) (choice : Choice) (s : State) :
    Option (call.Answer × State) :=
  if s.blocks thread call then none
  else
    let (answer, s') := Fault.befall s (perform thread s choice call) choice.fault
    some (answer, if choice.fault.isSome then s'.released thread else s')

abbrev Routine := ExceptT Failure (Program Call.Answer)

@[simp] def ask (call : Call) : Routine call.Result := ExceptT.mk (Program.perform call)

/-- Change the rows that the update has seen, one by one. -/
def demoteAll : List String → Routine (List String)
  | [] => return []
  | kid :: rest => do
    let matched ← ask (.demote kid)
    let others ← demoteAll rest
    return if matched then kid :: others else others

section Code

variable (panelKey : Option PublicKey)

/-- Without a current key in the table, the configured one becomes its first. -/
def reloadCurrentKey (process : Process) : Routine Unit := do
  match ← ask .findCurrent with
  | some (kid, row) =>
    let some privateKey := row.privateKeyEnc | throw (.noPrivateKey kid)
    ask (.assign process ⟨kid, privateKey⟩)
  | none =>
    let some pair := panelKey | throw .notConfigured
    let kid ← ask (.createSeed pair)
    ask (.assign process ⟨kid, pair⟩)

def rotate (process : Process) (kid : String) (pair : PublicKey) : Routine Unit := do
  let seen ← ask .listCurrent
  let demoted ← demoteAll seen
  ask (.promote demoted kid pair)
  reloadCurrentKey panelKey process

/-- A request to one of the processes, or the start of one; a rotation has its new key with it. -/
inductive Task where
  | rotate (process : Process) (kid : String) (pair : PublicKey)
  | retire (kid : String)
  | mint (process : Process) (request : CapabilityMint)
  | boot (process : Process)

def code : Task → Program Call.Answer Unit
  | .rotate process kid pair => do
    let _ ← (rotate panelKey process kid pair).run
  | .retire kid => do
    let _ ← (ask (.retire kid)).run
  | .mint process request => do
    let _ ← (ask (.mint process request)).run
  | .boot process => do
    let _ ← (reloadCurrentKey panelKey process).run

abbrev Panel := Pool State Task Call.Answer

def step : Panel → Move Task Choice → Panel := Pool.step (code panelKey) answer?

end Code

/-- Processes that have loaded their keys, and no request yet. -/
def Panel.opened (keys : KeyTable) (current : Table Process Current) : Panel :=
  ⟨⟨keys, fun _ => none, current, []⟩, []⟩

/-- The key of a process is one that the panel publishes. -/
def Current.listed (current : Current) (published : List PublicSigningKey) : Bool :=
  published.any fun key => key.kid == current.kid && key.publicKey == current.privateKey

/-- The kid and the signature of a token belong to one of the keys published. -/
def Minted.verifiable (minted : Minted) : Bool :=
  minted.published.any fun key =>
    minted.token.kid == some key.kid && minted.token.signedBy == some key.publicKey

/--
No key has become current behind the back of a rotation that commits, a key is retired only when it
is neither current nor in the memory of a process, and what a process loads is still published.
-/
def orderly (s : State) (_ : Task) (call : Call) (_ : Choice) : Bool :=
  match call with
  | .promote demoted _ _ =>
    (s.keys.find? fun kid key => key.isCurrent && !demoted.contains kid).isNone
  | .retire kid =>
    !(s.keys.get? kid).any SigningKey.isCurrent &&
      (s.current.find? fun _ current => current.kid == kid).isNone
  | .assign _ current => (s.keys.get? current.kid).any (·.state != .retired)
  | _ => true

/-- There is one current key, every process has a published one, and so had every token. -/
structure Sound (s : State) : Prop where
  single : s.keys.count (fun _ key => key.isCurrent) = 1
  loaded : ∀ process current, s.current.get? process = some current →
    current.listed (listPublic s.keys)
  minted : ∀ minted ∈ s.minted, minted.verifiable

/-- A thread that has read the current key, and has it still to assign. -/
abbrev Mode := Option Current

/-- What the answer to a call leaves a thread with; a table without a current key is not met. -/
def Mode.next : (call : Call) → call.Answer → Option Mode
  | .findCurrent, .ok none => none
  | .findCurrent, .ok (some (kid, row)) => some (row.privateKeyEnc.map fun pair => ⟨kid, pair⟩)
  | _, _ => some none

def discipline : Discipline Task Mode Call.Answer where
  permits mode call :=
    match call with
    | .assign _ current => mode = some current
    | .createSeed _ => False
    | _ => mode = none
  moves _ _ call answer after := Mode.next call answer = some after

/-- The keys are sound, and the one a thread goes by is stored with its public half. -/
def KeysInStep (s : State) (modes : Nat → Mode) : Prop :=
  Sound s ∧ ∀ thread current, modes thread = some current →
    ∃ key, s.keys.get? current.kid = some key ∧ key.publicKey = current.privateKey

section Laws

variable {keys keys' : KeyTable} {current : Current} {kid : String} {key : SigningKey} {s s' : State}

theorem mem_newestFirst {rows : List (String × SigningKey)} {row : String × SigningKey} :
    row ∈ newestFirst rows ↔ row ∈ rows := List.mem_insertionSort _

theorem listed_iff : current.listed (listPublic keys) ↔ ∃ key, keys.get? current.kid = some key ∧
      key.state ≠ .retired ∧ key.publicKey = current.privateKey := by
  have states (key : SigningKey) : key.state = .current ∨ key.state = .retiring ↔
      key.state ≠ .retired := by cases key.state <;> simp
  simp only [Current.listed, listPublic, List.any_map, List.any_eq_true, mem_newestFirst,
    Function.comp_apply, Prod.exists, Table.mem_filter_iff, Bool.or_eq_true, Bool.and_eq_true,
    beq_iff_eq, states]
  constructor
  · rintro ⟨kid, key, ⟨stored, published⟩, rfl, pair⟩
    exact ⟨key, stored, published, pair⟩
  · rintro ⟨key, stored, published, pair⟩
    exact ⟨current.kid, key, ⟨stored, published⟩, rfl, pair⟩

theorem verifiable_mint (request : CapabilityMint) (now : Int) (jti : String) :
    Minted.verifiable ⟨mint current request now jti, listPublic keys⟩ =
      current.listed (listPublic keys) := by
  simp only [Minted.verifiable, Current.listed, mint]
  congr 1
  funext key
  simp [Bool.beq_eq_decide_eq, eq_comm]

theorem findCurrent_some (found : findCurrent keys = some (kid, key)) :
    keys.get? kid = some key ∧ key.isCurrent :=
  Table.mem_filter_iff.mp (mem_newestFirst.mp (List.mem_of_mem_head? found))

theorem findCurrent_ne_none (single : keys.count (fun _ key => key.isCurrent) = 1) :
    findCurrent keys ≠ none := by
  obtain ⟨kid, key, stored, isCurrent, -⟩ := Table.count_eq_one_iff.mp single
  intro missing
  have empty := List.head?_eq_none_iff.mp missing
  have member : (kid, key) ∈ keys.filter fun _ key => key.isCurrent :=
    Table.mem_filter_iff.mpr ⟨stored, isCurrent⟩
  simp [← mem_newestFirst, empty] at member

def Keeps (keys keys' : KeyTable) : Prop :=
  ∀ kid key, keys.get? kid = some key →
    ∃ key', keys'.get? kid = some key' ∧ key'.publicKey = key.publicKey

theorem listed_mono (listed : current.listed (listPublic keys))
    (kept : ∀ key, keys.get? current.kid = some key → key.state ≠ .retired →
      ∃ key', keys'.get? current.kid = some key' ∧ key'.state ≠ .retired ∧
        key'.publicKey = key.publicKey) :
    current.listed (listPublic keys') := by
  obtain ⟨key, stored, published, pair⟩ := listed_iff.mp listed
  obtain ⟨key', stored', published', same⟩ := kept key stored published
  exact listed_iff.mpr ⟨key', stored', published', same.trans pair⟩

variable {demoted : List String} {new : SigningKey}

section Inserted

variable (inserted : (keys.updateWhere (fun kid _ => demoted.contains kid)
  SigningKey.demoted).insert? kid new = some keys')
include inserted

/-- The rows that a rotation leaves: the demoted ones retiring, the new one current. -/
theorem get?_promoted (other : String) : keys'.get? other = if other = kid then some new
      else (keys.get? other).map fun key => if demoted.contains other then key.demoted else key := by
  rw [Table.get?_insert? inserted, Table.get?_updateWhere]

theorem promoted_fresh : keys.get? kid = none := by
  obtain ⟨fresh, -⟩ := Table.insert?_eq_some inserted
  simpa using fresh

end Inserted

/-- A rotation that leaves no other key current makes its own the only one. -/
theorem Sound.promote {pair : PublicKey} {createdAt : Time} (sound : Sound s)
    (alone : s.keys.find? (fun kid key => key.isCurrent && !demoted.contains kid) = none)
    (inserted : (s.keys.updateWhere (fun kid _ => demoted.contains kid) SigningKey.demoted).insert?
      kid (.promoted pair createdAt) = some keys') :
    Sound { s with keys := keys' } where
  single := by
    refine Table.count_eq_one_iff.mpr ⟨kid, .promoted pair createdAt, ?_, rfl, ?_⟩
    · rw [get?_promoted inserted, if_pos rfl]
    · intro other key' stored isCurrent
      by_contra differs
      rw [get?_promoted inserted, if_neg differs] at stored
      obtain ⟨key, before, rfl⟩ := Option.map_eq_some_iff.mp stored
      -- A row that is still current was so before, and was not among those demoted.
      have missed := Table.find?_none alone before
      split at isCurrent
      · simp [SigningKey.demoted, SigningKey.isCurrent] at isCurrent
      · next outside => simp_all
  loaded := by
    intro process current assigned
    refine listed_mono (sound.loaded process current assigned) fun key stored published => ?_
    have differs : current.kid ≠ kid := by
      intro same
      simp [same, promoted_fresh inserted] at stored
    refine ⟨_, by rw [get?_promoted inserted, if_neg differs, stored, Option.map_some], ?_⟩
    split
    · exact ⟨by simp [SigningKey.demoted], rfl⟩
    · exact ⟨published, rfl⟩
  minted := sound.minted

theorem Sound.retire (sound : Sound s) (idle : ∀ key, s.keys.get? kid = some key → ¬ key.isCurrent)
    (unused : ∀ process current, s.current.get? process = some current → current.kid ≠ kid) :
    Sound { s with keys := s.keys.modify kid SigningKey.retired } where
  single := by
    obtain ⟨only, key, stored, isCurrent, unique⟩ := Table.count_eq_one_iff.mp sound.single
    have differs : only ≠ kid := by
      intro same
      exact idle key (same ▸ stored) isCurrent
    refine Table.count_eq_one_iff.mpr ⟨only, key, by simp [differs, stored], isCurrent, ?_⟩
    intro other key' stored' isCurrent'
    by_cases same : other = kid
    · -- The retired row itself is no longer one of them.
      rw [Table.get?_modify, if_pos same] at stored'
      obtain ⟨row, -, rfl⟩ := Option.map_eq_some_iff.mp stored'
      simp [SigningKey.retired, SigningKey.isCurrent] at isCurrent'
    · rw [Table.get?_modify, if_neg same] at stored'
      exact unique other key' stored' isCurrent'
  loaded := by
    intro process current assigned
    refine listed_mono (sound.loaded process current assigned) fun key stored published => ?_
    exact ⟨key, by simp [unused process current assigned, stored], published, rfl⟩
  minted := sound.minted

theorem Sound.assign (sound : Sound s) (process : Process)
    (listed : current.listed (listPublic s.keys)) :
    Sound { s with current := s.current.upsert process current fun _ => current } where
  single := sound.single
  loaded := by
    intro other current' assigned
    simp only [Table.get?_upsert] at assigned
    split at assigned
    · -- Whether the process had a key before makes no difference.
      have same : current = current' := by cases before : s.current.get? process <;> simp_all
      exact same ▸ listed
    · exact sound.loaded other current' assigned
  minted := sound.minted

theorem Sound.mint (sound : Sound s) {process : Process}
    (assigned : s.current.get? process = some current) (request : CapabilityMint) (now : Int)
    (jti : String) :
    Sound { s with
      minted := ⟨SigningKeys.mint current request now jti, listPublic s.keys⟩ :: s.minted } where
  single := sound.single
  loaded := sound.loaded
  minted := by
    intro minted member
    rcases List.mem_cons.mp member with rfl | earlier
    · rw [verifiable_mint]
      exact sound.loaded process current assigned
    · exact sound.minted minted earlier

theorem Keeps.refl (keys : KeyTable) : Keeps keys keys := fun _ key stored => ⟨key, stored, rfl⟩

variable {modes : Nat → Mode} {thread : Nat} {task : Task} {call : Call} {choice : Choice}

theorem KeysInStep.settle (linked : KeysInStep s modes) (sound : Sound s') (kept : Keeps s.keys s'.keys) :
    KeysInStep s' (update modes thread none) := by
  refine ⟨sound, fun other current reads => ?_⟩
  by_cases same : other = thread
  · subst same
    simp at reads
  · rw [update_of_ne same] at reads
    obtain ⟨key, stored, pair⟩ := linked.2 other current reads
    obtain ⟨key', stored', same⟩ := kept current.kid key stored
    exact ⟨key', stored', same.trans pair⟩

/-- A key that signs is stored with its public half, whatever the call. -/
theorem KeysInStep.perform (linked : KeysInStep s modes) (ordered : orderly s task call choice)
    (permitted : discipline.permits (modes thread) call) :
    ∃ after, Mode.next call (perform thread s choice call).1 = some after ∧
      KeysInStep (SigningKeys.perform thread s choice call).2 (update modes thread after) := by
  have sound := linked.1
  cases call with
  | listCurrent => exact ⟨none, rfl, linked.settle sound (.refl _)⟩
  | demote kid =>
    simp only [SigningKeys.perform]
    split
    · exact ⟨none, rfl, linked.settle ⟨sound.single, sound.loaded, sound.minted⟩ (.refl _)⟩
    · exact ⟨none, rfl, linked.settle sound (.refl _)⟩
  | promote demoted kid pair =>
    have alone := Option.isNone_iff_eq_none.mp ordered
    simp only [SigningKeys.perform]
    split
    · next keys inserted =>
      have promoted := sound.promote alone inserted
      refine ⟨none, rfl, linked.settle ⟨promoted.single, promoted.loaded, promoted.minted⟩ ?_⟩
      intro other key stored
      have differs : other ≠ kid := by
        intro same
        simp [same, promoted_fresh inserted] at stored
      refine ⟨_, by rw [get?_promoted inserted, if_neg differs, stored, Option.map_some], ?_⟩
      split <;> rfl
    · exact ⟨none, rfl, linked.settle ⟨sound.single, sound.loaded, sound.minted⟩ (.refl _)⟩
  | findCurrent =>
    cases found : SigningKeys.findCurrent s.keys with
    | none => exact (findCurrent_ne_none sound.single found).elim
    | some row =>
      obtain ⟨kid, key⟩ := row
      simp only [SigningKeys.perform, found, Mode.next]
      refine ⟨_, rfl, sound, fun other current reads => ?_⟩
      by_cases same : other = thread
      · -- The thread goes by the private half of the row it has found.
        subst same
        rw [update_self] at reads
        obtain ⟨pair, private_, rfl⟩ := Option.map_eq_some_iff.mp reads
        exact ⟨key, (findCurrent_some found).1, (key.paired pair private_).symm⟩
      · rw [update_of_ne same] at reads
        exact linked.2 other current reads
  | createSeed pair => exact permitted.elim
  | assign process current =>
    obtain ⟨key, stored, pair⟩ := linked.2 thread current permitted
    have published : key.state ≠ .retired := by simpa [orderly, stored] using ordered
    exact ⟨none, rfl, linked.settle
      (sound.assign process (listed_iff.mpr ⟨key, stored, published, pair⟩)) (.refl _)⟩
  | retire kid =>
    simp only [orderly, Bool.and_eq_true, Option.isNone_iff_eq_none] at ordered
    obtain ⟨idle, unused⟩ := ordered
    simp only [SigningKeys.perform]
    split
    · next key stored =>
      refine ⟨none, rfl, linked.settle (sound.retire ?_ ?_) ?_⟩
      · intro key' stored'
        simpa [stored'] using idle
      · intro process current assigned
        simpa using Table.find?_none unused assigned
      · intro other key' stored'
        by_cases same : other = kid
        · exact ⟨key'.retired, by simp [← same, stored'], rfl⟩
        · exact ⟨key', by simp [same, stored'], rfl⟩
    · exact ⟨none, rfl, linked.settle sound (.refl _)⟩
  | mint process request =>
    simp only [SigningKeys.perform]
    split
    · next current assigned =>
      exact ⟨none, rfl, linked.settle (sound.mint assigned request choice.now choice.jti) (.refl _)⟩
    · exact ⟨none, rfl, linked.settle sound (.refl _)⟩

theorem Mode.next_error (call : Call) (failure : Failure) :
    Mode.next call (.error failure) = some none := by cases call <;> rfl

theorem KeysInStep.released (linked : KeysInStep s modes) : KeysInStep (s.released thread) modes :=
  ⟨⟨linked.1.single, linked.1.loaded, linked.1.minted⟩, linked.2⟩

theorem keysInStep_sustained : Sustained answer? orderly discipline KeysInStep := by
  intro s modes thread task call choice answer s' linked ordered permitted answers
  unfold answer? at answers
  split at answers
  case isTrue => cases answers
  obtain ⟨after, next, fits⟩ := linked.perform ordered permitted
  cases fault : choice.fault with
  | none =>
    simp only [fault, Fault.befall] at answers
    cases answers
    exact ⟨after, next, fits⟩
  | some fault' =>
    -- A thread that hears of a failure has read nothing, whatever became of its call.
    cases fault' with
    | unsent failure =>
      simp only [fault, Fault.befall] at answers
      cases answers
      exact ⟨none, Mode.next_error call failure, (linked.settle linked.1 (.refl _)).released⟩
    | unheard failure =>
      simp only [fault, Fault.befall] at answers
      cases answers
      refine ⟨none, Mode.next_error call failure, ?_⟩
      have settled : KeysInStep _ (update (update modes thread after) thread none) :=
        fits.settle fits.1 (.refl _)
      rw [update_idem] at settled
      exact settled.released

end Laws

section Code

variable {panelKey : Option PublicKey} {task : Task}

theorem moves_error {mode after : Mode} {call : Call} {failure : Failure}
    (moved : discipline.moves task mode call (.error failure) after) : after = none :=
  (Option.mem_unique (Mode.next_error call failure) moved).symm

theorem follows_ask_idle (call : Call) (permitted : discipline.permits none call)
    (idle : ∀ answer, Mode.next call (.ok answer) = some none) :
    Follows discipline task none (ask call).run fun _ after => after = none := by
  refine ⟨permitted, fun answer after moved => ?_⟩
  cases answer with
  | error failure => exact moves_error moved
  | ok answer => exact (Option.mem_unique (idle answer) moved).symm

/-- What is loaded is what was read, and the configured key is never asked for. -/
theorem follows_reloadCurrentKey (process : Process) :
    Follows discipline task none (reloadCurrentKey panelKey process).run
      fun _ after => after = none := by
  unfold reloadCurrentKey
  refine ⟨rfl, fun answer after moved => ?_⟩
  cases answer with
  | error failure => exact moves_error moved
  | ok found =>
    cases found with
    | none => cases moved
    | some row =>
      obtain ⟨kid, _, privateKey, _, _, _⟩ := row
      obtain rfl := Option.some.inj moved
      cases privateKey with
      | none => exact rfl
      | some pair =>
        refine ⟨rfl, fun answer after moved => ?_⟩
        cases answer with
        | error failure => exact moves_error moved
        | ok => exact (Option.some.inj moved).symm

theorem follows_demoteAll (seen : List String) :
    Follows discipline task none (demoteAll seen).run fun _ after => after = none := by
  induction seen with
  | nil => exact rfl
  | cons kid rest ih =>
    unfold demoteAll
    apply follows_run_after
    · exact follows_ask_idle (.demote kid) rfl fun _ => rfl
    · exact fun _ => rfl
    · intro matched
      exact follows_run_after ih (fun _ => rfl) fun _ => rfl

theorem follows_rotate (process : Process) (kid : String) (pair : PublicKey) :
    Follows discipline task none (rotate panelKey process kid pair).run
      fun _ after => after = none := by
  unfold rotate
  apply follows_run_after (follows_ask_idle .listCurrent rfl fun _ => rfl) (fun _ => rfl)
  intro seen
  apply follows_run_after (follows_demoteAll seen) (fun _ => rfl)
  intro demoted
  apply follows_run_after (follows_ask_idle (.promote demoted kid pair) rfl fun _ => rfl)
    (fun _ => rfl)
  intro promoted
  exact follows_reloadCurrentKey process

theorem follows_code (task : Task) :
    Follows discipline task none (code panelKey task) fun _ after => after = none := by
  cases task with
  | rotate process kid pair =>
    exact follows_after (follows_rotate process kid pair) fun _ => rfl
  | retire kid =>
    exact follows_after (follows_ask_idle (.retire kid) rfl fun _ => rfl) fun _ => rfl
  | mint process request =>
    exact follows_after (follows_ask_idle (.mint process request) rfl fun _ => rfl) fun _ => rfl
  | boot process =>
    exact follows_after (follows_reloadCurrentKey process) fun _ => rfl

end Code

/--
Over any overlapping rotations, retirements, starts and mints in any number of processes, there is
exactly one current key at all times and every token is signed with a key that is published when it
is minted, as long as the run is orderly.
-/
theorem minted_tokens_are_verifiable (panelKey : Option PublicKey) (keys : KeyTable)
    (current : Table Process Current) (moves : List (Move Task Choice))
    (single : keys.count (fun _ key => key.isCurrent) = 1)
    (loaded : ∀ process key, current.get? process = some key → key.listed (listPublic keys))
    (ordered : Machine.Guarded (step panelKey) (fun panel move => panel.allows orderly move)
      (Panel.opened keys current) moves) :
    let s := (Machine.run (step panelKey) (Panel.opened keys current) moves).shared
    s.keys.count (fun _ key => key.isCurrent) = 1 ∧ ∀ minted ∈ s.minted, minted.verifiable := by
  have opened : KeysInStep (Panel.opened keys current).shared fun _ => none :=
    ⟨⟨single, loaded, by simp [Panel.opened]⟩, by simp⟩
  have moded : (Panel.opened keys current).Moded discipline none KeysInStep := .of_idle opened
  obtain ⟨_, linked, -⟩ := moded.run follows_code keysInStep_sustained ordered
  exact ⟨linked.1.single, linked.1.minted⟩

def sampleKeys : KeyTable := ⟨[("k-1", .promoted 1 0)], by simp⟩

def sampleLoaded : Table Process Current := ⟨[(1, ⟨"k-1", 1⟩), (2, ⟨"k-1", 1⟩)], by simp⟩

/-- How many keys are current after a run, and which of its tokens could be verified. -/
def sampleOutcome (moves : List (Move Task Choice)) : Nat × List Bool :=
  let s := (Machine.run (step none) (Panel.opened sampleKeys sampleLoaded) moves).shared
  (s.keys.count fun _ key => key.isCurrent, s.minted.map Minted.verifiable)

def sampleMint (process : Process) : Move Task Choice :=
  .start (.mint process {
    serverUuid := "srv-1", nodeUuid := "n-1", cap := .console, permissions := ["websocket.connect"]
    ttlSeconds := 600, ctx := none })

def sampleCalls (thread calls : Nat) : List (Move Task Choice) :=
  List.replicate calls (.turn thread { createdAt := 1000, now := 1, jti := "t-1" })

/-- A rotation in one process, after which the other one is started again; then the old key goes. -/
def sampleRotation : List (Move Task Choice) :=
  [.start (.rotate 1 "k-2" 2), sampleMint 1, sampleMint 2, .start (.boot 2), .start (.retire "k-1"),
    sampleMint 2] ++ sampleCalls 0 5 ++ sampleCalls 1 1 ++ sampleCalls 2 1 ++ sampleCalls 3 2 ++
    sampleCalls 4 1 ++ sampleCalls 5 1

theorem sample_minted_tokens_are_verifiable :
    sampleOutcome sampleRotation = (1, [true, true, true]) ∧
      ∀ minted ∈ (Machine.run (step none) (Panel.opened sampleKeys sampleLoaded)
        sampleRotation).shared.minted, minted.verifiable := by
  have loaded : ∀ process key, sampleLoaded.get? process = some key →
      key.listed (listPublic sampleKeys) := by
    intro process key assigned
    have member := Table.get?_eq_some_iff.mp assigned
    simp only [sampleLoaded, List.mem_cons, Prod.mk.injEq, List.not_mem_nil, or_false] at member
    rcases member with ⟨-, rfl⟩ | ⟨-, rfl⟩ <;> decide +kernel
  exact ⟨by decide +kernel, (minted_tokens_are_verifiable none sampleKeys sampleLoaded sampleRotation
    (by decide +kernel) loaded (by decide +kernel)).2⟩

/--
Two overlapping rotations leave two current keys. Once the current key is retired there is none, and
the tokens that are minted on cannot be verified. Nor can those of a process that has not heard of a
rotation when the old key is retired.
-/
theorem tokens_are_minted_with_retired_keys :
    sampleOutcome ([.start (.rotate 1 "k-2" 2), .start (.rotate 2 "k-3" 3)] ++ sampleCalls 0 2 ++
      sampleCalls 1 1 ++ sampleCalls 0 3 ++ sampleCalls 1 4) = (2, []) ∧
    sampleOutcome ([.start (.retire "k-1"), sampleMint 1] ++ sampleCalls 0 1 ++ sampleCalls 1 1) =
      (0, [false]) ∧
    sampleOutcome ([.start (.rotate 1 "k-2" 2), .start (.retire "k-1"), sampleMint 2] ++
      sampleCalls 0 5 ++ sampleCalls 1 1 ++ sampleCalls 2 1) = (1, [false]) := by
  decide +kernel

end PxHost.SigningKeys
