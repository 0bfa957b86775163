import PxHost.System.Settlement
import PxHost.System.Statements

/-! Concurrent transactions on one subscription, and what becomes of a status that is final. -/

namespace PxHost

open Machine ReadCommitted ReadCommitted.Program Statements

/-- An update keeps the status, or moves it where the row seen last may go. -/
def LegalUpdate (seen : Option Subscription) (f : Subscription → Subscription) : Prop :=
  (∀ row, (f row).status = row.status) ∨
    ∃ existing ∈ seen, ∀ row, canTransition existing.status (f row).status

def KeepsClosed (row row' : Subscription) : Prop :=
  row.status.isAlive = false → row'.status = row.status

/-- A row that was closed meanwhile is fresh only to who has seen it so. -/
def SeenClosed (committed : Subscription) (seen : Option Subscription) : Prop :=
  committed.status.isAlive = false → ∃ existing ∈ seen, existing.status = committed.status

instance (committed : Subscription) (seen : Option Subscription) :
    Decidable (SeenClosed committed seen) :=
  inferInstanceAs (Decidable (_ → _))

/-- Checking the row seen last is enough as long as nobody closed the row since. -/
def closing : Discipline Subscription where
  legal := LegalUpdate
  fresh := SeenClosed
  keeps := KeepsClosed
  refl _ _ := rfl
  trans first second third kept keptOn closed := by
    have same := kept closed
    rw [← same] at closed
    rw [keptOn closed, same]
  update committed row seen f legal fresh kept closed := by
    rcases legal with still | ⟨existing, saw, moves⟩
    · rw [still, kept closed]
    · -- A closed row that was seen closed could not have passed the check.
      obtain ⟨existing', saw', same⟩ := fresh closed
      obtain rfl : existing = existing' := Option.mem_unique saw saw'
      have alive := isAlive_of_canTransition (moves row)
      rw [same, closed] at alive
      cases alive

section Checked

variable {seen : Option Subscription} {now : Time}

@[simp] theorem written_status (target : SubscriptionStatus) (reason : Option String)
    (existing row : Subscription) : (written now target reason existing row).status = target := by
  cases target <;> rfl

theorem applyTransition_checked (target : SubscriptionStatus) (reason : Option String)
    {post : Option Subscription → Unit → Prop} (ends : ∀ seen, post seen ()) :
    Checked LegalUpdate (Statements.applyTransition now target reason) seen post := by
  simp only [Statements.applyTransition, checked_bind, checked_read, checked_ensure, checked_write,
    checked_pure]
  intro existing legal
  exact ⟨.inr ⟨existing, rfl, fun row => by simpa using legal⟩, fun _ => ends _⟩

theorem transitionIfAllowed_checked (subscription : Subscription) (target : SubscriptionStatus)
    (reason : String) :
    Checked LegalUpdate (Statements.transitionIfAllowed now subscription target reason) seen
      fun _ _ => True := by
  unfold Statements.transitionIfAllowed
  split
  · exact applyTransition_checked _ _ fun _ => trivial
  · trivial

theorem applyRenewal_checked :
    Checked LegalUpdate (Statements.applyRenewal now) seen fun _ _ => True := by
  simp only [Statements.applyRenewal, checked_bind, checked_read]
  intro existing
  split
  · rw [checked_bind]
    refine applyTransition_checked _ _ fun _ => ?_
    simp only [checked_bind, checked_write, checked_pure, implies_true, and_true]
    exact .inl fun _ => rfl
  · simp only [checked_bind, checked_write, checked_pure, implies_true, and_true]
    exact .inl fun _ => rfl

theorem restoreService_checked (subscription : Subscription) (order : Order) :
    Checked LegalUpdate (Statements.restoreService now subscription order) seen
      fun _ _ => True := by
  unfold Statements.restoreService
  split
  · exact applyRenewal_checked
  split
  · rw [checked_bind]
    refine applyTransition_checked _ _ fun _ => ?_
    simp only [checked_bind, checked_write, checked_pure, implies_true, and_true]
    exact .inl fun _ => rfl
  split
  · exact applyTransition_checked _ _ fun _ => trivial
  · trivial

theorem settleOrder_checked (subscription : Subscription) (event : InternalPaymentEvent)
    (payment : GatewayPayment) (order : Order) :
    Checked LegalUpdate (Statements.settleOrder now subscription event payment order) seen
      fun _ _ => True := by
  unfold Statements.settleOrder
  split
  · trivial
  split
  · trivial
  split
  · split
    · trivial
    · exact restoreService_checked ..
  · exact transitionIfAllowed_checked ..
  · exact transitionIfAllowed_checked ..
  · split
    · exact transitionIfAllowed_checked ..
    · trivial
  · trivial

theorem handlePreapproval_checked (event : InternalPaymentEvent) (gateway : GatewaySubscription)
    (provider : PaymentProviderName) (subscription : Subscription) :
    Checked LegalUpdate (handlePreapproval now event gateway provider subscription) seen
      fun _ _ => True := by
  unfold handlePreapproval
  split
  · exact transitionIfAllowed_checked ..
  · exact transitionIfAllowed_checked ..
  · split
    · trivial
    · simp only [checked_bind, checked_write, checked_pure, implies_true, and_true]
      exact .inl fun _ => rfl

theorem findSubscriptionForGateway_checked (externalId : String) (provider : PaymentProviderName)
    (referenced : Bool) {post : Option Subscription → Option Subscription → Prop}
    (ends : ∀ seen answer, post seen answer) :
    Checked LegalUpdate (Statements.findSubscriptionForGateway externalId provider referenced) seen
      post := by
  simp only [Statements.findSubscriptionForGateway, checked_bind, checked_read]
  intro known
  split
  · exact ends _ _
  split
  · simp only [checked_bind, checked_read]
    intro subscription
    split
    · -- Remembering the preapproval leaves the status as it is.
      simp only [checked_bind, checked_write, checked_pure]
      exact ⟨.inl fun _ => rfl, fun _ => ends _ _⟩
    · exact ends _ _
  · exact ends _ _

/-- Every transaction checks the state machine against the row it has read last. -/
theorem RowTx.checked (tx : RowTx) : Checked LegalUpdate tx.program none fun _ _ => True := by
  cases tx with
  | cancelForUser now userId reason =>
    simp only [RowTx.program, Statements.cancelForUser, checked_bind, checked_read, checked_ensure,
      checked_write, checked_pure, implies_true, and_true]
    intro subscription _ legal
    exact .inr ⟨subscription, rfl, fun row => by simpa using legal⟩
  | applyPaymentOutcome now planId event payment found =>
    simp only [RowTx.program, Statements.applyPaymentOutcome, checked_bind, checked_acquire,
      checked_read]
    intro subscription
    cases found with
    | none => trivial
    | some order => exact settleOrder_checked ..
  | preapprovalEvent now event externalId gateway provider referenced =>
    simp only [RowTx.program, Statements.processPreapprovalEvent]
    split
    · trivial
    rw [checked_bind]
    refine findSubscriptionForGateway_checked _ _ _ fun seen answer => ?_
    cases answer with
    | none => trivial
    | some subscription => exact handlePreapproval_checked ..
  | expireStaleOrder now kind =>
    simp only [RowTx.program, Statements.expireStaleOrder, checked_bind, checked_read]
    intro subscription
    split
    · exact transitionIfAllowed_checked ..
    · exact transitionIfAllowed_checked ..
  | updateStatusAsAdmin | suspendOverdue | finishCancellation =>
    exact applyTransition_checked _ _ fun _ => trivial

end Checked

/-- Sessions about one subscription, each with the transaction it is to run. -/
abbrev Concurrent := State Nat Subscription PlanId

def concurrent (s : Subscription) (txs : Nat → RowTx) : Concurrent :=
  start s fun sid => (txs sid).program

/-- An update that goes through on a closed subscription is made by who has read it closed. -/
def ActsOnCurrent (state : Concurrent) (turn : Turn Nat) : Prop :=
  ∀ sid ∈ state.Updates turn, SeenClosed state.committed (state.session sid).seen

instance (state : Concurrent) (turn : Turn Nat) : Decidable (ActsOnCurrent state turn) :=
  inferInstanceAs (Decidable (∀ sid ∈ state.Updates turn, _))

/--
Whatever transactions are interleaved on a subscription, a committed status that is cancelled or
expired is never replaced, as long as no update goes through that rests on an older row.
-/
theorem closed_status_is_final (s : Subscription) (txs : Nat → RowTx) (pre post : List (Turn Nat))
    (current : Guarded State.step ActsOnCurrent (concurrent s txs) (pre ++ post))
    (closed : (run State.step (concurrent s txs) pre).committed.status = .cancelled ∨
      (run State.step (concurrent s txs) pre).committed.status = .expired) :
    (run State.step (concurrent s txs) (pre ++ post)).committed.status =
      (run State.step (concurrent s txs) pre).committed.status := by
  obtain ⟨before, later⟩ := guarded_append.mp current
  have followed : closing.Followed (concurrent s txs) :=
    Discipline.followed_start fun sid => RowTx.checked (txs sid)
  obtain ⟨-, reached⟩ := followed.run before
  obtain ⟨kept, -⟩ := reached.run later
  rw [run_append]
  refine kept ?_
  rcases closed with held | held <;> rw [held] <;> rfl

def samplePending : Subscription := pendingSubscription 1 1 samplePlan .monthly

/-- One session confirms the payment of the first order, every other one cancels. -/
def sampleRace (sid : Nat) : RowTx :=
  if sid = 0 then
    .applyPaymentOutcome 1000 1 .paymentConfirmed { samplePix with status := "approved" }
      (some (newCheckoutOrder 0 1 { planId := 1, paymentMethod := .pix } samplePlan 20 "ord_a" 1440))
  else .cancelForUser 1000 1 none

/-- The payment comes to read the subscription only after the cancellation has committed. -/
theorem sample_closed_status_is_final :
    (run State.step (concurrent samplePending sampleRace)
      (([1, 0, 1, 1] : List Nat).map .statement ++ ([0, 0, 0, 0] : List Nat).map .statement)
        ).committed.status = .cancelled :=
  closed_status_is_final samplePending sampleRace _ _ (by decide) (by decide)

/--
The payment has read the subscription as pending when the customer cancels, and its update makes
the cancelled subscription active.
-/
theorem cancelled_subscription_is_revived :
    (run State.step (concurrent samplePending sampleRace)
      (([0, 0, 0, 1, 1, 1] : List Nat).map .statement)).committed.status = .cancelled ∧
    (run State.step (concurrent samplePending sampleRace)
      (([0, 0, 0, 1, 1, 1, 0, 0, 0] : List Nat).map .statement)).committed.status = .active := by
  decide

end PxHost
