import PxHost.System.RenewalCharges

/-! What the rows of the charges say, while workers fetch the charges and write them down later. -/

namespace PxHost

open Store

/-- How far a charge has come: it is open, then paid or given up, then paid back. -/
def InternalPaymentEvent.stage : InternalPaymentEvent → Nat
  | .paymentConfirmed | .paymentFailed | .paymentCanceled => 1
  | .paymentRefunded | .paymentChargeback => 2
  | _ => 0

/-- What a report or a row says about how far its charge has come. -/
structure PaymentMark where
  status : String
  approvedAt : Option Time

def PaymentMark.stage (provider : PaymentProviderName) (mark : PaymentMark) : Nat :=
  (classifyPayment provider { id := "", status := mark.status }).stage

/-- An approval that is known stays known, and is not dated back. -/
def PaymentMark.approvedBefore (mark later : PaymentMark) : Bool :=
  mark.approvedAt.all fun time => later.approvedAt.any (time ≤ ·)

/-- The second does not take the charge back to an earlier time. -/
def PaymentMark.Precedes (provider : PaymentProviderName) (mark later : PaymentMark) : Prop :=
  mark.stage provider ≤ later.stage provider ∧ mark.approvedBefore later

def GatewayPayment.mark (payment : GatewayPayment) : PaymentMark :=
  ⟨payment.status, payment.approvedAt⟩

def Payment.mark (p : Payment) : PaymentMark := ⟨p.status, p.approvedAt⟩

def Tx.recordsNothing : Tx → Bool
  | .applyPaymentOutcome .. | .recordCharge .. => false
  | _ => true

/-- A boleto that comes without an expiry is payable as long as was asked for. -/
def ChargeDetails.payableUntil (expiresAt : Time) : ChargeDetails → ChargeDetails
  | .boleto digitableLine ticketUrl expiry =>
    .boleto digitableLine ticketUrl (expiry <|> some expiresAt)
  | details => details

namespace PaymentRecords

open Interleaving

/-- A charge as its provider reported it, and which of its reports that was. -/
structure Snapshot where
  payment : GatewayPayment
  /-- No code reads it. -/
  report : Nat

structure State where
  db : Db
  /-- What the providers have reported about each charge, the oldest first. -/
  reports : PaymentId → List GatewayPayment
  /-- The latest report of each charge that was applied; no code reads it. -/
  applied : PaymentId → Nat

inductive Call where
  | transact (tx : Tx)
  | getPayment (provider : PaymentProviderName) (resource : PaymentId)
  | findSubscription (payment : GatewayPayment) (provider : PaymentProviderName)
  | applyPaymentOutcome (subscription : SubscriptionId) (event : InternalPaymentEvent)
      (snapshot : Snapshot) (provider : PaymentProviderName)
  | enqueue (order : OrderId)
  | markEvent (notification : NotificationId) (status : WebhookEventStatus) (error : Option String)
  | createCharge (order : OrderId) (provider : PaymentProviderName) (method : PaymentMethod)
  | recordFromGateway (order : OrderId) (snapshot : Snapshot)

@[reducible] def Call.Result : Call → Type
  | transact _ | enqueue _ | markEvent .. | recordFromGateway .. => Unit
  | getPayment .. => Snapshot
  | findSubscription .. => Option SubscriptionId
  | applyPaymentOutcome .. => Option OrderId
  | createCharge .. => Snapshot × ChargeDetails

@[reducible] def Call.Answer (call : Call) : Type := Except ApiError call.Result

/-- What the environment of a call decides: the time, the identifiers, and the provider's answer. -/
structure Choice where
  now : Time
  fault : Option (Fault ApiError) := none
  fresh : FreshOrder
  payment : GatewayPayment
  details : ChargeDetails

def State.transact (s : State) (tx : Tx) : Except ApiError Unit × State :=
  match exec s.db tx with
  | .error error => (.error error, s)
  | .ok db => (.ok (), { s with db })

/-- The latest report that was applied to a charge is now this one. -/
def State.apply (s : State) (snapshot : Snapshot) (db : Db) : State :=
  { s with
    db
    applied := Function.update s.applied snapshot.payment.id snapshot.report }

section Environment

-- The charges of two providers never have the same identifier.
variable (providerOf : PaymentId → PaymentProviderName)

def State.report (s : State) (provider : PaymentProviderName) (payment : GatewayPayment) :
    Option (Snapshot × State) :=
  if providerOf payment.id = provider ∧
      (s.reports payment.id).all (·.mark.stage provider ≤ payment.mark.stage provider) then
    some (⟨payment, (s.reports payment.id).length⟩,
      { s with
        reports := Function.update s.reports payment.id (s.reports payment.id ++ [payment]) })
  else none

/-- What a call finds and does, if its environment can behave as it was chosen to. -/
def perform (s : State) (choice : Choice) : (call : Call) → Option (call.Answer × State)
  | .transact tx => if tx.recordsNothing then some (s.transact tx) else none
  | .getPayment provider _ =>
    (s.report providerOf provider choice.payment).map fun (snapshot, s') => (.ok snapshot, s')
  | .findSubscription payment provider =>
    some (.ok (findSubscriptionForPayment s.db payment provider), s)
  | .applyPaymentOutcome subscription event snapshot provider =>
    some <| match applyPaymentOutcome s.db choice.now subscription event snapshot.payment provider
        choice.fresh with
      | .error error => (.error error, s)
      | .ok (db, order) => (.ok order, s.apply snapshot db)
  | .enqueue _ => some (.ok (), s)
  | .markEvent notification status error =>
    some (s.transact (.markEvent choice.now notification status error))
  | .createCharge _ provider _ =>
    (s.report providerOf provider choice.payment).map fun (snapshot, s') =>
      (.ok (snapshot, choice.details), s')
  | .recordFromGateway order snapshot =>
    some (.ok (), s.apply snapshot (recordFromGateway s.db order snapshot.payment))

def answer? (_thread : Nat) (call : Call) (choice : Choice) (s : State) :
    Option (call.Answer × State) :=
  (perform providerOf s choice call).map (Fault.befall s · choice.fault)

end Environment

abbrev Routine := ExceptT ApiError (Program Call.Answer)

@[simp] def ask (call : Call) : Routine call.Result := ExceptT.mk (Program.perform call)

/-- What an execution of the worker does about the charge its notification is about. -/
def processPaymentEvent (notification : NotificationId) (provider : PaymentProviderName)
    (resource : PaymentId) : Routine Unit := do
  let snapshot ← ask (.getPayment provider resource)
  let event := classifyPayment provider snapshot.payment
  if event = .ignored then return
  match ← ask (.findSubscription snapshot.payment provider) with
  | none =>
    -- A failure to write to the audit log is not passed on.
    tryCatch (ask (.transact (.orderNotFound notification snapshot.payment.id))) fun _ => return
  | some subscription =>
    let shouldProvision ← ask (.applyPaymentOutcome subscription event snapshot provider)
    match shouldProvision with
    | none => return
    | some order => ask (.enqueue order)

def process (notification : NotificationId) (provider : PaymentProviderName)
    (resource : PaymentId) : Routine Unit :=
  tryCatch (do
    processPaymentEvent notification provider resource
    ask (.markEvent notification .processed none))
    fun error => do
      ask (.markEvent notification .failed (some error.message))
      throw error

/-- What a checkout and a renewal both do once their order is committed. -/
def startCharge (order : OrderId) (provider : PaymentProviderName) (method : PaymentMethod)
    (expiresAt : Time) : Routine Unit :=
  tryCatch (do
    let (snapshot, details) ← ask (.createCharge order provider method)
    ask (.recordFromGateway order snapshot)
    ask (.transact (.presentCharge order (details.payableUntil expiresAt))))
    fun error => do
      ask (.transact (.failCharge order))
      throw error

/-- An execution of the webhook worker, a charge being started, or any other transaction. -/
inductive Task where
  | process (notification : NotificationId) (provider : PaymentProviderName) (resource : PaymentId)
  | startCharge (order : OrderId) (provider : PaymentProviderName) (method : PaymentMethod)
      (expiresAt : Time)
  | transaction (tx : Tx)

def code : Task → Program Call.Answer Unit
  | .process notification provider resource => do
    let _ ← (process notification provider resource).run
  | .startCharge order provider method expiresAt => do
    let _ ← (startCharge order provider method expiresAt).run
  | .transaction tx => do
    let _ ← (ask (.transact tx)).run

abbrev Panel := Pool State Task Call.Answer

def step (providerOf : PaymentId → PaymentProviderName) : Panel → Move Task Choice → Panel :=
  Pool.step code (answer? providerOf)

/-- No charge has been made yet, and nothing is under way. -/
def Panel.opened (db : Db) : Panel := ⟨⟨db, fun _ => [], fun _ => 0⟩, []⟩

/--
The reports of a charge are applied in the order in which they were made, and none of them takes
back or dates back an approval that an earlier one has told of.
-/
def inOrder (s : State) (_ : Task) (call : Call) (choice : Choice) : Bool :=
  match call with
  | .applyPaymentOutcome _ _ snapshot _ | .recordFromGateway _ snapshot =>
    s.applied snapshot.payment.id ≤ snapshot.report
  | .getPayment .. | .createCharge .. =>
    (s.reports choice.payment.id).all (·.mark.approvedBefore choice.payment.mark)
  | _ => true

section Discipline

/-- The snapshot a worker still has to write down after a call. -/
def holds (held : Option Snapshot) : (call : Call) → call.Answer → Option Snapshot
  | .getPayment .., .ok snapshot => some snapshot
  | .createCharge .., .ok (snapshot, _) => some snapshot
  | .findSubscription .., _ => held
  | _, _ => none

/-- Only what was reported to a worker is written down by it. -/
def discipline : Discipline Task (Option Snapshot) Call.Answer where
  permits held call := match call with
    | .applyPaymentOutcome _ _ snapshot _ | .recordFromGateway _ snapshot => held = some snapshot
    | _ => True
  moves _ held call answer after := after = holds held call answer

variable {task : Task} {held : Option Snapshot}

theorem follows_ask {call : Call} {post : call.Answer → Option Snapshot → Prop} :
    Follows discipline task held (ask call).run post ↔ discipline.permits held call ∧
      ∀ answer, post answer (holds held call answer) :=
  follows_perform_eq fun _ _ => Iff.rfl

theorem follows_processPaymentEvent (notification : NotificationId)
    (provider : PaymentProviderName) (resource : PaymentId) :
    Follows discipline task none (processPaymentEvent notification provider resource).run
      fun _ _ => True := by
  -- The calls are followed one by one; only the worker's own transaction writes a charge down.
  refine follows_run_bind.mpr (follows_ask.mpr ⟨trivial, fun fetched => ?_⟩)
  match fetched with
  | .error _ => trivial
  | .ok snapshot =>
    dsimp only
    split
    · -- An event that is ignored ends the work on the charge.
      trivial
    · refine follows_run_bind.mpr (follows_ask.mpr ⟨trivial, fun found => ?_⟩)
      match found with
      | .error _ => trivial
      | .ok none =>
        refine follows_run_tryCatch.mpr (follows_ask.mpr ⟨trivial, fun noted => ?_⟩)
        cases noted <;> trivial
      | .ok (some subscription) =>
        -- The snapshot that is applied is the one that was fetched.
        refine follows_run_bind.mpr (follows_ask.mpr ⟨rfl, fun applied => ?_⟩)
        match applied with
        | .error _ | .ok none => trivial
        | .ok (some order) => exact follows_ask.mpr ⟨trivial, fun _ => trivial⟩

theorem follows_handler (call : Call) (permitted : discipline.permits held call)
    (released : ∀ answer, holds held call answer = none) (error : ApiError) :
    Follows discipline task held (do let _ ← ask call; throw error : Routine Unit).run
      fun _ after => after = none := by
  refine follows_run_bind.mpr (follows_ask.mpr ⟨permitted, fun answer => ?_⟩)
  cases answer <;> exact released _

theorem follows_code (task : Task) :
    Follows discipline task none (code task) fun _ after => after = none := by
  cases task with
  | process notification provider resource =>
    -- Whatever came of the charge, the last call marks the notification, and nothing is held.
    refine follows_bind.mpr (follows_run_tryCatch.mpr (follows_run_bind.mpr ?_))
    refine (follows_processPaymentEvent notification provider resource).mono fun result after _ => ?_
    match result with
    | .error error => exact follows_handler (.markEvent ..) trivial (fun _ => rfl) error
    | .ok () =>
      refine follows_ask.mpr ⟨trivial, fun marked => ?_⟩
      match marked with
      | .error error => exact follows_handler (.markEvent ..) trivial (fun _ => rfl) error
      | .ok () => rfl
  | startCharge order provider method expiresAt =>
    -- The provider's answer is held until the next call, which writes it down.
    refine follows_bind.mpr (follows_run_tryCatch.mpr (follows_run_bind.mpr ?_))
    refine follows_ask.mpr ⟨trivial, fun created => ?_⟩
    match created with
    | .error error => exact follows_handler (.transact _) trivial (fun _ => rfl) error
    | .ok (snapshot, details) =>
      refine follows_run_bind.mpr (follows_ask.mpr ⟨rfl, fun recorded => ?_⟩)
      match recorded with
      | .error error => exact follows_handler (.transact _) trivial (fun _ => rfl) error
      | .ok () =>
        refine follows_ask.mpr ⟨trivial, fun presented => ?_⟩
        match presented with
        | .error error => exact follows_handler (.transact _) trivial (fun _ => rfl) error
        | .ok () => rfl
  | transaction tx => exact follows_bind.mpr (follows_ask.mpr ⟨trivial, fun _ => rfl⟩)

end Discipline

section Laws

variable {provider : PaymentProviderName}

theorem precedes_refl (mark : PaymentMark) : mark.Precedes provider mark := by
  refine ⟨Nat.le_refl _, ?_⟩
  cases approved : mark.approvedAt <;> simp [PaymentMark.approvedBefore, approved]

theorem precedes_trans {first second third : PaymentMark} (before : first.Precedes provider second)
    (after : second.Precedes provider third) : first.Precedes provider third := by
  -- The stages are numbers; an approval that the first knows is followed through the second.
  refine ⟨Nat.le_trans before.1 after.1, ?_⟩
  obtain ⟨-, before⟩ := before
  obtain ⟨-, after⟩ := after
  unfold PaymentMark.approvedBefore at *
  cases earliest : first.approvedAt with
  | none => rfl
  | some time =>
    simp only [earliest, Option.all_some, Option.any_eq_true, decide_eq_true_eq] at before ⊢
    obtain ⟨time', known, later⟩ := before
    simp only [known, Option.all_some, Option.any_eq_true, decide_eq_true_eq] at after
    obtain ⟨time'', known', later'⟩ := after
    exact ⟨time'', known', Int.le_trans later later'⟩

/-- A later report of a list in order does not take the charge back. -/
theorem precedes_of_le {reports : List GatewayPayment}
    (forward : reports.Pairwise fun r r' => r.mark.Precedes provider r'.mark) {i j : Nat}
    {r r' : GatewayPayment} (le : i ≤ j) (at_i : reports[i]? = some r) (at_j : reports[j]? = some r') :
    r.mark.Precedes provider r'.mark := by
  -- Two positions of the list are in its order, and a position is in order with itself.
  obtain ⟨_, rfl⟩ := List.getElem?_eq_some_iff.mp at_i
  obtain ⟨_, rfl⟩ := List.getElem?_eq_some_iff.mp at_j
  rcases Nat.lt_or_eq_of_le le with before | rfl
  · exact List.pairwise_iff_getElem.mp forward i j _ _ before
  · exact precedes_refl _

theorem exec_recordsNothing {db after : Db} {tx : Tx} (nothing : tx.recordsNothing)
    (executed : exec db tx = .ok after) : after.payments = db.payments := by
  rcases exec_payments executed with same | ⟨order, payment, source, -⟩
  · exact same
  · -- A new row has one of the two sources that are ruled out.
    cases source <;> cases nothing

end Laws

section Invariant

variable {providerOf : PaymentId → PaymentProviderName} {s s' : State} {snapshot : Snapshot}

def Genuine (s : State) (snapshot : Snapshot) : Prop :=
  (s.reports snapshot.payment.id)[snapshot.report]? = some snapshot.payment

/-- The reports of every charge go forward, and no row is ahead of what was applied. -/
structure Sound (providerOf : PaymentId → PaymentProviderName) (s : State) : Prop where
  forward : ∀ id, (s.reports id).Pairwise fun r r' => r.mark.Precedes (providerOf id) r'.mark
  recorded : ∀ id p, s.db.payments.get? id = some p → ∃ r, (s.reports id)[s.applied id]? = some r ∧
    p.mark.Precedes (providerOf id) r.mark

/-- Every row that is there stays, and is not taken back to an earlier time. -/
def Advances (providerOf : PaymentId → PaymentProviderName) (s s' : State) : Prop :=
  ∀ id p, s.db.payments.get? id = some p → ∃ p', s'.db.payments.get? id = some p' ∧
    p.mark.Precedes (providerOf id) p'.mark

theorem Advances.of_eq (same : s'.db.payments = s.db.payments) : Advances providerOf s s' :=
  fun _ p stored => ⟨p, by rw [same, stored], precedes_refl _⟩

theorem Advances.trans {s'' : State} (first : Advances providerOf s s')
    (second : Advances providerOf s' s'') : Advances providerOf s s'' := by
  intro id p stored
  obtain ⟨p', stored', before⟩ := first id p stored
  obtain ⟨p'', stored'', after⟩ := second id p' stored'
  exact ⟨p'', stored'', precedes_trans before after⟩

/-- What a call that is in order does to the rows, and to the snapshots that workers hold. -/
structure Keeps (providerOf : PaymentId → PaymentProviderName) (s s' : State) : Prop where
  sound : Sound providerOf s'
  advances : Advances providerOf s s'
  genuine : ∀ snapshot, Genuine s snapshot → Genuine s' snapshot

theorem Keeps.of_eq (sound : Sound providerOf s) (payments : s'.db.payments = s.db.payments)
    (reports : s'.reports = s.reports) (applied : s'.applied = s.applied) : Keeps providerOf s s' where
  sound := by
    refine ⟨fun id => reports ▸ sound.forward id, fun id p stored => ?_⟩
    rw [reports, applied]
    exact sound.recorded id p (payments ▸ stored)
  advances := .of_eq payments
  genuine snapshot genuine := by
    unfold Genuine at genuine ⊢
    rw [reports]
    exact genuine

theorem Keeps.transact {tx : Tx} (sound : Sound providerOf s) (nothing : tx.recordsNothing) :
    Keeps providerOf s (s.transact tx).2 := by
  unfold State.transact
  split
  · exact .of_eq sound rfl rfl rfl
  · rename_i executed
    exact .of_eq sound (exec_recordsNothing nothing executed) rfl rfl

section Reports

variable {provider : PaymentProviderName} {payment : GatewayPayment}
  (reports : s.report providerOf provider payment = some (snapshot, s'))

include reports

theorem report_eq : snapshot = ⟨payment, (s.reports payment.id).length⟩ ∧
    s' = { s with
      reports := Function.update s.reports payment.id (s.reports payment.id ++ [payment]) } ∧
    providerOf payment.id = provider ∧
      ∀ r ∈ s.reports payment.id, r.mark.stage provider ≤ payment.mark.stage provider := by
  unfold State.report at reports
  split at reports
  · rename_i allowed
    cases reports
    exact ⟨rfl, rfl, allowed.1, by simpa using allowed.2⟩
  · cases reports

theorem report_kept {id : PaymentId} {i : Nat} {r : GatewayPayment}
    (older : (s.reports id)[i]? = some r) : (s'.reports id)[i]? = some r := by
  obtain ⟨-, rfl, -, -⟩ := report_eq reports
  by_cases same : id = payment.id
  · subst same
    simp only [Function.update_self]
    rw [List.getElem?_append_left (List.getElem?_eq_some_iff.mp older).1]
    exact older
  · simpa [same] using older

theorem genuine_reported : Genuine s' snapshot := by
  obtain ⟨rfl, rfl, -, -⟩ := report_eq reports
  simp [Genuine]

theorem Keeps.report (sound : Sound providerOf s)
    (dated : (s.reports payment.id).all (·.mark.approvedBefore payment.mark)) :
    Keeps providerOf s s' := by
  have kept : ∀ {id : PaymentId} {i : Nat} {r}, _ → (s'.reports id)[i]? = some r :=
    report_kept reports
  obtain ⟨rfl, rfl, rfl, advanced⟩ := report_eq reports
  refine ⟨⟨fun id => ?_, fun id p stored => ?_⟩, .of_eq rfl, fun _ genuine => kept genuine⟩
  · -- No earlier report is ahead of the new one, in its stage or in its approval.
    by_cases same : id = payment.id
    · subst same
      simp only [Function.update_self, List.pairwise_append, List.pairwise_singleton,
        List.mem_singleton, forall_eq, true_and]
      exact ⟨sound.forward _, fun r member => ⟨advanced r member, List.all_eq_true.mp dated r member⟩⟩
    · simpa [same] using sound.forward id
  · -- Nothing is applied yet, and the report that was applied last is where it was.
    obtain ⟨r, applied, before⟩ := sound.recorded id p stored
    exact ⟨r, kept applied, before⟩

end Reports

theorem recordFromGateway_mark (db : Db) (order : OrderId) (payment : GatewayPayment) :
    ∃ p, (recordFromGateway db order payment).payments.get? payment.id = some p ∧
      p.mark = payment.mark := by
  simp only [recordFromGateway, Table.get?_upsert, if_true]
  cases db.payments.get? payment.id <;> exact ⟨_, rfl, rfl⟩

variable {order : OrderId}

/-- Applying a report no older than the last one takes no row back. -/
theorem Keeps.apply {db : Db} (sound : Sound providerOf s) (genuine : Genuine s snapshot)
    (later : s.applied snapshot.payment.id ≤ snapshot.report)
    (written : db.payments = s.db.payments ∨
      db.payments = (recordFromGateway s.db order snapshot.payment).payments) :
    Keeps providerOf s (s.apply snapshot db) := by
  -- What the row of the charge says so far is not ahead of the report that is applied.
  have behind : ∀ p, s.db.payments.get? snapshot.payment.id = some p →
      p.mark.Precedes (providerOf snapshot.payment.id) snapshot.payment.mark := by
    intro p stored
    obtain ⟨r, applied, before⟩ := sound.recorded _ p stored
    exact precedes_trans before (precedes_of_le (sound.forward _) later applied genuine)
  -- Afterwards it says either the same or what the report says; the other rows stay.
  have own : ∀ p', db.payments.get? snapshot.payment.id = some p' →
      p'.mark.Precedes (providerOf snapshot.payment.id) snapshot.payment.mark := by
    intro p' stored'
    rcases written with same | new
    · exact behind p' (same ▸ stored')
    · obtain ⟨p, stored, mark⟩ := recordFromGateway_mark s.db order snapshot.payment
      obtain rfl : p' = p := Option.mem_unique stored' (new ▸ stored)
      rw [mark]
      exact precedes_refl _
  have others : ∀ id, id ≠ snapshot.payment.id → db.payments.get? id = s.db.payments.get? id := by
    intro id other
    rcases written with same | new
    · rw [same]
    · simp [new, recordFromGateway, other]
  refine ⟨⟨sound.forward, fun id p' stored' => ?_⟩, fun id p stored => ?_, fun _ genuine => genuine⟩
  · -- The report just applied is the one to compare the row of its charge with.
    by_cases same : id = snapshot.payment.id
    · subst same
      exact ⟨snapshot.payment, by simpa [State.apply, Genuine] using genuine, own p' stored'⟩
    · obtain ⟨r, applied, before⟩ := sound.recorded id p' ((others id same).symm.trans stored')
      exact ⟨r, by simpa [State.apply, same] using applied, before⟩
  · -- The row of the charge advances to the report, the others are where they were.
    by_cases same : id = snapshot.payment.id
    · subst same
      rcases written with unchanged | new
      · exact ⟨p, by simpa [State.apply, unchanged] using stored, precedes_refl _⟩
      · obtain ⟨p', stored', mark⟩ := recordFromGateway_mark s.db order snapshot.payment
        exact ⟨p', by simpa [State.apply, new] using stored', mark ▸ behind p stored⟩
    · exact ⟨p, (others id same).trans stored, precedes_refl _⟩

variable {payment : GatewayPayment} {provider : PaymentProviderName}

/-- The worker's transaction writes the charge down as it was fetched, or not at all. -/
theorem applyPaymentOutcome_written {db after : Db} {now : Time} {subscription : SubscriptionId}
    {event : InternalPaymentEvent} {fresh : FreshOrder} {answer : Option OrderId}
    (applies : applyPaymentOutcome db now subscription event payment provider fresh =
      .ok (after, answer)) :
    ∃ order, after.payments = db.payments ∨
      after.payments = (recordFromGateway db order payment).payments := by
  have executed : exec db (.applyPaymentOutcome now subscription event payment provider fresh) =
      .ok after := Fallible.map_fst_eq_ok_iff.mpr ⟨answer, applies⟩
  rcases exec_payments executed with same | ⟨order, _, ⟨_⟩, written⟩
  · -- Where nothing was written, any order will do.
    exact ⟨0, .inl same⟩
  · exact ⟨order, .inr written⟩

section Sound

variable (sound : Sound providerOf s)
include sound

variable {task : Task} {call : Call} {choice : Choice} {answer : call.Answer}
  {held : Option Snapshot}

/-- A call that is in order keeps everything, and what a worker then holds is genuine. -/
theorem perform_keeps (own : ∀ snapshot, held = some snapshot → Genuine s snapshot)
    (ordered : inOrder s task call choice) (permitted : discipline.permits held call)
    (performs : perform providerOf s choice call = some (answer, s')) :
    Keeps providerOf s s' ∧
      ∀ snapshot, holds held call answer = some snapshot → Genuine s' snapshot := by
  -- After most calls the worker has nothing left to write down.
  have released {holding : Option Snapshot} (none : holding = none) :
      ∀ snapshot, holding = some snapshot → Genuine s' snapshot := by
    simp [none]
  cases call with
  | transact tx =>
    simp only [perform] at performs
    split at performs
    · rename_i nothing
      obtain ⟨rfl, rfl⟩ := Prod.mk.inj (Option.some.inj performs)
      exact ⟨.transact sound nothing, released rfl⟩
    · cases performs
  | markEvent notification status error =>
    have nothing : (Tx.markEvent choice.now notification status error).recordsNothing := rfl
    have same : s' = (s.transact (.markEvent choice.now notification status error)).2 :=
      (congrArg Prod.snd (Option.some.inj performs)).symm
    exact ⟨same ▸ .transact sound nothing, released rfl⟩
  | findSubscription payment provider =>
    cases performs
    exact ⟨.of_eq sound rfl rfl rfl, own⟩
  | enqueue order =>
    cases performs
    exact ⟨.of_eq sound rfl rfl rfl, released rfl⟩
  | getPayment | createCharge =>
    -- What was just reported is what the worker holds from here on.
    obtain ⟨⟨snapshot, _⟩, reports, same⟩ := Option.map_eq_some_iff.mp performs
    cases same
    refine ⟨.report reports sound ordered, ?_⟩
    rintro _ ⟨⟩
    exact genuine_reported reports
  | applyPaymentOutcome subscription event snapshot provider =>
    have performs := Option.some.inj performs
    split at performs
    · -- A transaction that fails writes nothing down.
      obtain ⟨rfl, rfl⟩ := Prod.mk.inj performs
      exact ⟨.of_eq sound rfl rfl rfl, released rfl⟩
    · -- The worker can only apply the snapshot it holds, which was reported at some time.
      rename_i applies
      obtain ⟨rfl, rfl⟩ := Prod.mk.inj performs
      obtain ⟨order, written⟩ := applyPaymentOutcome_written applies
      have later := of_decide_eq_true ordered
      exact ⟨.apply sound (own snapshot permitted) later written, released rfl⟩
  | recordFromGateway order snapshot =>
    cases performs
    have later := of_decide_eq_true ordered
    exact ⟨.apply sound (own snapshot permitted) later (.inr rfl), released rfl⟩

omit sound in
theorem holds_error {error : ApiError} (holding : holds held call (.error error) = some snapshot) :
    held = some snapshot := by
  cases call with
  | findSubscription => exact holding
  | _ => cases holding

theorem answered_keeps {thread : Nat} (own : ∀ snapshot, held = some snapshot → Genuine s snapshot)
    (ordered : inOrder s task call choice) (permitted : discipline.permits held call)
    (answers : answer? providerOf thread call choice s = some (answer, s')) :
    Keeps providerOf s s' ∧
      ∀ snapshot, holds held call answer = some snapshot → Genuine s' snapshot := by
  obtain ⟨⟨heard, reached⟩, performs, befalls⟩ := Option.map_eq_some_iff.mp answers
  obtain ⟨keeps, gained⟩ := perform_keeps sound own ordered permitted performs
  rcases lost : choice.fault with _ | error | error <;> rw [lost] at befalls <;> cases befalls
  · exact ⟨keeps, gained⟩
  · -- The call never arrived, so that nothing has changed.
    exact ⟨.of_eq sound rfl rfl rfl, fun snapshot holding => own snapshot (holds_error holding)⟩
  · -- The call was carried out, and the worker learned nothing from it.
    exact ⟨keeps, fun snapshot holding => keeps.genuine _ (own snapshot (holds_error holding))⟩

end Sound

end Invariant

/-- The rows are sound and not behind some earlier state, and every worker holds what was reported. -/
def Traced (providerOf : PaymentId → PaymentProviderName) (earlier s : State)
    (held : Nat → Option Snapshot) : Prop :=
  Sound providerOf s ∧ Advances providerOf earlier s ∧
    ∀ thread snapshot, held thread = some snapshot → Genuine s snapshot

theorem traced_answered {providerOf : PaymentId → PaymentProviderName} {earlier : State} :
    Sustained (answer? providerOf) inOrder discipline (Traced providerOf earlier) := by
  rintro s held thread task call choice answer s' ⟨sound, advances, genuine⟩ ordered permitted answers
  obtain ⟨keeps, gained⟩ := answered_keeps sound (genuine thread) ordered permitted answers
  refine ⟨_, rfl, keeps.sound, advances.trans keeps.advances, fun other snapshot holding => ?_⟩
  by_cases same : other = thread
  · subst same
    exact gained snapshot (by simpa using holding)
  · -- The other workers hold what they held, and it is still what was reported.
    exact keeps.genuine _ (genuine other snapshot (by simpa [same] using holding))

/--
Whatever workers fetch charges and write them down, in any interleaving with charges being started:
when the reports of each charge are applied in order, and none takes back or dates back an approval,
no row is ever taken back to an earlier status or approval.
-/
theorem payment_record_never_goes_back (providerOf : PaymentId → PaymentProviderName) (db : Db)
    (moves moves' : List (Move Task Choice)) (uncharged : db.payments = .empty)
    (ordered : Machine.Guarded (step providerOf) (fun panel move => panel.allows inOrder move)
      (Panel.opened db) (moves ++ moves')) :
    ∀ id p, (Machine.run (step providerOf) (Panel.opened db) moves).shared.db.payments.get? id =
        some p →
      ∃ p', (Machine.run (step providerOf) (Panel.opened db)
          (moves ++ moves')).shared.db.payments.get? id = some p' ∧
        p.mark.Precedes (providerOf id) p'.mark := by
  have opened : (Panel.opened db).Moded discipline none
      (Traced providerOf (Panel.opened db).shared) := by
    refine .of_idle ⟨⟨fun _ => .nil, ?_⟩, .of_eq rfl, ?_⟩
    · simp [uncharged]
    · rintro _ _ ⟨⟩
  obtain ⟨before, after⟩ := Machine.guarded_append.mp ordered
  rw [Machine.run_append]
  -- From the state in between, every later state is compared with it.
  have halfway := opened.run follows_code traced_answered before
  have later : (Machine.run (step providerOf) (Panel.opened db) moves).Moded discipline none
      (Traced providerOf (Machine.run (step providerOf) (Panel.opened db) moves).shared) := by
    obtain ⟨held, ⟨sound, -, genuine⟩, follow, resting⟩ := halfway
    exact ⟨held, ⟨sound, .of_eq rfl, genuine⟩, follow, resting⟩
  obtain ⟨_, ⟨-, advances, -⟩, -⟩ := later.run follows_code traced_answered after
  exact advances

def sampleOrdered : Db := Machine.run commit samplePanel [samplePixCheckout 0 20 ⟨10, "ord_a"⟩]

/-- A customer who has authorized the card for an order. -/
def sampleAuthorized : Db :=
  Machine.run commit samplePanel [
    .createCheckoutOrder 0 1 { planId := 1, paymentMethod := .card } 20 ⟨10, "ord_a"⟩ none,
    .authorizeCard 10 20 "pre-1" "checkout"]

def sampleCalls (thread calls : Nat) (payment : GatewayPayment) : List (Move Task Choice) :=
  List.replicate calls (.turn thread {
    payment
    now := 1000
    fresh := ⟨11, "ord_b"⟩
    details := .pix "00020126" "iVBO" })

def sampleApproved : GatewayPayment :=
  { samplePix with status := "approved", approvedAt := some 900 }

/-- The charge is started, shown and written down. -/
def sampleStarted : List (Move Task Choice) :=
  .start (.startCharge 10 .mercadopago .pix 86400000) :: sampleCalls 0 3 samplePix

/-- Then a worker learns that it was paid. -/
def sampleNotified : List (Move Task Choice) :=
  .start (.process "n1" .mercadopago "pix-1") :: sampleCalls 1 5 sampleApproved

def sampleRow (db : Db) (charge : PaymentId) (moves : List (Move Task Choice)) :
    Option (String × Option Time) :=
  ((Machine.run (step fun _ => .mercadopago) (Panel.opened db)
    moves).shared.db.payments.get? charge).map fun p => (p.status, p.approvedAt)

theorem sample_payment_record_never_goes_back :
    sampleRow sampleOrdered "pix-1" sampleStarted = some ("pending", none) ∧
    ∀ p, (Machine.run (step fun _ => .mercadopago) (Panel.opened sampleOrdered)
        sampleStarted).shared.db.payments.get? "pix-1" = some p →
      ∃ p', (Machine.run (step fun _ => .mercadopago) (Panel.opened sampleOrdered)
          (sampleStarted ++ sampleNotified)).shared.db.payments.get? "pix-1" = some p' ∧
        p.mark.Precedes .mercadopago p'.mark :=
  ⟨by decide +kernel, payment_record_never_goes_back (fun _ => .mercadopago) sampleOrdered
    sampleStarted sampleNotified (by decide +kernel) (by decide +kernel) "pix-1"⟩

/-- Two executions of the worker on a charge, of which the first comes this far before the second. -/
def sampleWorkers (before : Nat) (first second : GatewayPayment) : List (Move Task Choice) :=
  [.start (.process "n1" .mercadopago first.id), .start (.process "n2" .mercadopago second.id)] ++
    sampleCalls 0 before first ++ sampleCalls 1 5 second

/-- The same recurring charge by itself and in the retry cycle it belongs to. -/
def sampleViews : GatewayPayment × GatewayPayment :=
  (toGatewayPayment {
      id := "card-1", status := "approved", externalReference := some "ord_a"
      transactionAmount := some 29.90, dateApproved := some 900 },
    getAuthorizedPayment {
      id := "cycle-1", preapprovalId := some "pre-1", externalReference := some "ord_a"
      status := some "processed", transactionAmount := some 29.90, dateCreated := some 800
      payment := some { id := "card-1", status := some "approved" } })

/--
A worker that fetched the charge while it was open writes this over the payment that another worker
has recorded since; so does a checkout that is slow to record the charge it has made; and the two
views of a recurring charge date its approval differently, so that the later one dates it back.
-/
theorem payment_record_goes_back :
    (sampleRow sampleOrdered "pix-1" (sampleWorkers 1 samplePix sampleApproved) =
        some ("approved", some 900) ∧
      sampleRow sampleOrdered "pix-1" (sampleWorkers 1 samplePix sampleApproved ++
        sampleCalls 0 2 samplePix) = some ("pending", none)) ∧
    (sampleRow sampleOrdered "pix-1" (.start (.startCharge 10 .mercadopago .pix 86400000) ::
        sampleCalls 0 1 samplePix ++ sampleNotified) = some ("approved", some 900) ∧
      sampleRow sampleOrdered "pix-1" (.start (.startCharge 10 .mercadopago .pix 86400000) ::
        sampleCalls 0 1 samplePix ++ sampleNotified ++ sampleCalls 0 1 samplePix) =
        some ("pending", none)) ∧
    sampleRow sampleAuthorized "card-1" (sampleWorkers 0 sampleViews.2 sampleViews.1) =
        some ("approved", some 900) ∧
      sampleRow sampleAuthorized "card-1" (sampleWorkers 0 sampleViews.2 sampleViews.1 ++
        sampleCalls 0 3 sampleViews.2) = some ("approved", some 800) := by
  decide +kernel

end PaymentRecords

end PxHost
