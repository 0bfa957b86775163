import Mathlib.Logic.Function.Basic
import PxHost.Lib.Run

/-! Transactions on one row under read-committed isolation, interleaved statement by statement. -/

universe u

namespace ReadCommitted

/-- What a transaction still has to do; a statement continues with the row the database answered. -/
inductive Program (Row Lock α : Type u) where
  | done (result : α)
  | rollback
  | select (next : Row → Program Row Lock α)
  | update (write : Row → Row) (next : Row → Program Row Lock α)
  | lock (name : Lock) (next : Program Row Lock α)

namespace Program

variable {Row Lock α β : Type u}

def bind : Program Row Lock α → (α → Program Row Lock β) → Program Row Lock β
  | done result, next => next result
  | rollback, _ => rollback
  | select rest, next => select fun row => (rest row).bind next
  | update write rest, next => update write fun row => (rest row).bind next
  | lock name rest, next => lock name (rest.bind next)

instance : Monad (Program Row Lock) where
  pure := done
  bind := bind

def read : Program Row Lock Row := select done

/-- Rewrite the row wherever it stands, and answer the result. -/
def write (f : Row → Row) : Program Row Lock Row := update f done

/-- Give up unless a condition holds. -/
def ensure (condition : Bool) : Program Row Lock PUnit := if condition then done ⟨⟩ else rollback

/-- Wait for a lock that is held to the end of the transaction. -/
def acquire (name : Lock) : Program Row Lock PUnit := lock name (done ⟨⟩)

/-- The row a transaction leaves when nothing interrupts it, with its answer. -/
def solo : Program Row Lock α → Row → Option (α × Row)
  | done result, row => some (result, row)
  | rollback, _ => none
  | select next, row => (next row).solo row
  | update f next, row => (next (f row)).solo (f row)
  | lock _ next, row => next.solo row

/--
Every update is legal after the row the transaction saw last, and a condition holds of that row
and the answer in the end.
-/
def Checked (legal : Option Row → (Row → Row) → Prop) :
    Program Row Lock α → Option Row → (Option Row → α → Prop) → Prop
  | done result, seen, post => post seen result
  | rollback, _, _ => True
  | select next, _, post => ∀ row, Checked legal (next row) (some row) post
  | update f next, seen, post =>
    legal seen f ∧ ∀ row, Checked legal (next (f row)) (some (f row)) post
  | lock _ next, seen, post => Checked legal next seen post

section Laws

variable {legal : Option Row → (Row → Row) → Prop} {seen : Option Row}

@[simp] theorem solo_bind (program : Program Row Lock α) (next : α → Program Row Lock β)
    (row : Row) :
    (program >>= next).solo row =
      (program.solo row).bind fun answer => (next answer.1).solo answer.2 := by
  change (program.bind next).solo row = _
  induction program generalizing row with
  | done | rollback => rfl
  | select rest ih => exact ih row row
  | update f rest ih => exact ih (f row) (f row)
  | lock name rest ih => exact ih row

@[simp] theorem checked_pure {result : α} {post : Option Row → α → Prop} :
    Checked legal (pure result : Program Row Lock α) seen post ↔ post seen result := Iff.rfl

@[simp] theorem checked_bind {program : Program Row Lock α} {next : α → Program Row Lock β}
    {post : Option Row → β → Prop} :
    Checked legal (program >>= next) seen post ↔
      Checked legal program seen fun seen result => Checked legal (next result) seen post := by
  change Checked legal (program.bind next) seen post ↔ _
  induction program generalizing seen with
  | done | rollback => exact Iff.rfl
  | select rest ih => exact forall_congr' fun row => ih row
  | update f rest ih => exact and_congr_right' (forall_congr' fun row => ih (f row))
  | lock name rest ih => exact ih

@[simp] theorem checked_read {post : Option Row → Row → Prop} :
    Checked legal (read : Program Row Lock Row) seen post ↔ ∀ row, post (some row) row := Iff.rfl

@[simp] theorem checked_write {f : Row → Row} {post : Option Row → Row → Prop} :
    Checked legal (write f : Program Row Lock Row) seen post ↔
      legal seen f ∧ ∀ row, post (some (f row)) (f row) := Iff.rfl

variable {post : Option Row → PUnit → Prop}

@[simp] theorem checked_ensure {condition : Bool} :
    Checked legal (ensure condition : Program Row Lock PUnit) seen post ↔
      (condition → post seen ⟨⟩) := by
  unfold ensure
  split <;> simp_all [Checked]

@[simp] theorem checked_acquire {name : Lock} :
    Checked legal (acquire name : Program Row Lock PUnit) seen post ↔ post seen ⟨⟩ := Iff.rfl

end Laws

end Program

open Machine

/-- One transaction: what it still has to do, and the row as it saw it last. -/
structure Session (Row Lock : Type u) where
  program : Program Row Lock PUnit
  seen : Option Row := none

/-- The committed row, the one version of it that is not committed yet, and who waits for what. -/
structure State (Sid : Type*) (Row Lock : Type u) where
  committed : Row
  /-- The session that has updated the row without committing, with its version. -/
  writer : Option (Sid × Row) := none
  /-- The session holding each lock. -/
  holder : Lock → Option Sid := fun _ => none
  session : Sid → Session Row Lock

/-- A session runs its next statement, or is lost together with its connection. -/
inductive Turn (Sid : Type*) where
  | statement (sid : Sid)
  | lost (sid : Sid)

variable {Sid : Type*} {Row Lock : Type u} [DecidableEq Sid]

namespace State

/-- The row as a session sees it: its own version, or else the committed one. -/
def version (s : State Sid Row Lock) (sid : Sid) : Row :=
  match s.writer with
  | some (owner, row) => if owner = sid then row else s.committed
  | none => s.committed

/-- Another session has an uncommitted version of the row, so an update has to wait. -/
def blocked (s : State Sid Row Lock) (sid : Sid) : Bool :=
  s.writer.any fun version => version.1 ≠ sid

def released (s : State Sid Row Lock) (sid : Sid) : State Sid Row Lock :=
  { s with
    writer := s.writer.filter fun version => version.1 ≠ sid
    holder := fun name => (s.holder name).filter (· ≠ sid) }

def continued (s : State Sid Row Lock) (sid : Sid) (session : Session Row Lock) :
    State Sid Row Lock :=
  { s with session := Function.update s.session sid session }

/-- The next statement of a session; one that has to wait leaves everything as it is. -/
def statement [DecidableEq Lock] (s : State Sid Row Lock) (sid : Sid) : State Sid Row Lock :=
  match (s.session sid).program with
  | .done _ => { s.released sid with committed := s.version sid }
  | .rollback => s.released sid
  | .select next => s.continued sid ⟨next (s.version sid), some (s.version sid)⟩
  | .update f next =>
    if s.blocked sid then s
    else
      let row := f (s.version sid)
      { s with writer := some (sid, row) }.continued sid ⟨next row, some row⟩
  | .lock name next =>
    if (s.holder name).any (· ≠ sid) then s
    else
      { s with holder := Function.update s.holder name (some sid) }.continued sid
        { s.session sid with program := next }

section Statements

variable [DecidableEq Lock] {s : State Sid Row Lock} {sid : Sid}

theorem statement_done {result : PUnit} (issued : (s.session sid).program = .done result) :
    s.statement sid = { s.released sid with committed := s.version sid } := by
  simp [statement, issued]

theorem statement_rollback (issued : (s.session sid).program = .rollback) :
    s.statement sid = s.released sid := by
  simp [statement, issued]

variable {next : Row → Program Row Lock PUnit}

theorem statement_select (issued : (s.session sid).program = .select next) :
    s.statement sid = s.continued sid ⟨next (s.version sid), some (s.version sid)⟩ := by
  simp [statement, issued]

theorem statement_update {f : Row → Row} (issued : (s.session sid).program = .update f next) :
    s.statement sid = if s.blocked sid then s else
      { s with writer := some (sid, f (s.version sid)) }.continued sid
        ⟨next (f (s.version sid)), some (f (s.version sid))⟩ := by
  simp [statement, issued]

theorem statement_lock {name : Lock} {next : Program Row Lock PUnit}
    (issued : (s.session sid).program = .lock name next) :
    s.statement sid = if (s.holder name).any (· ≠ sid) then s else
      { s with holder := Function.update s.holder name (some sid) }.continued sid
        { s.session sid with program := next } := by
  simp [statement, issued]

end Statements

def step [DecidableEq Lock] (s : State Sid Row Lock) : Turn Sid → State Sid Row Lock
  | .statement sid => s.statement sid
  | .lost sid => (s.released sid).continued sid ⟨.rollback, none⟩

end State

def start (row : Row) (programs : Sid → Program Row Lock PUnit) : State Sid Row Lock where
  committed := row
  session sid := { program := programs sid }

def State.Updates (s : State Sid Row Lock) : Turn Sid → Option Sid
  | .statement sid =>
    match (s.session sid).program with
    | .update _ _ => if s.blocked sid then none else some sid
    | _ => none
  | .lost _ => none

/--
A discipline of updates: what a transaction may write after what it saw last keeps a relation
between committed versions, provided the committed row is still fresh to it.
-/
structure Discipline (Row : Type u) where
  legal : Option Row → (Row → Row) → Prop
  fresh : Row → Option Row → Prop
  keeps : Row → Row → Prop
  refl : ∀ row, keeps row row
  trans : ∀ first second third, keeps first second → keeps second third → keeps first third
  update : ∀ committed row seen f, legal seen f → fresh committed seen → keeps committed row →
    keeps committed (f row)

namespace Discipline

variable (d : Discipline Row)

/-- Every session sticks to the discipline, and so does the version that is not committed yet. -/
structure Followed (s : State Sid Row Lock) : Prop where
  checked : ∀ sid, (s.session sid).program.Checked d.legal (s.session sid).seen fun _ _ => True
  written : ∀ version ∈ s.writer, d.keeps s.committed version.2

/-- An update that goes through is made by a session to which the committed row is fresh. -/
def Current (s : State Sid Row Lock) (turn : Turn Sid) : Prop :=
  ∀ sid ∈ s.Updates turn, d.fresh s.committed (s.session sid).seen

variable {d} {s : State Sid Row Lock}

theorem Followed.version (followed : d.Followed s) (sid : Sid) :
    d.keeps s.committed (s.version sid) := by
  unfold State.version
  split
  · rename_i owner row stored
    split
    · exact followed.written (owner, row) stored
    · exact d.refl _
  · exact d.refl _

theorem Followed.released (followed : d.Followed s) (sid : Sid) : d.Followed (s.released sid) where
  checked := followed.checked
  written := by
    intro version stored
    exact followed.written version (Option.mem_filter_iff.mp stored).1

theorem Followed.continued (followed : d.Followed s) (sid : Sid) {session : Session Row Lock}
    (checked : session.program.Checked d.legal session.seen fun _ _ => True) :
    d.Followed (s.continued sid session) where
  checked := by
    intro other
    by_cases own : other = sid
    · subst own
      simpa [State.continued] using checked
    · simpa [State.continued, own] using followed.checked other
  written := followed.written

variable [DecidableEq Lock]

/-- A statement to which the committed row is fresh keeps to the discipline. -/
theorem Followed.statement (followed : d.Followed s) (sid : Sid)
    (current : d.Current s (.statement sid)) :
    d.keeps s.committed (s.statement sid).committed ∧ d.Followed (s.statement sid) := by
  have checked := followed.checked sid
  cases issued : (s.session sid).program with
  | done result =>
    rw [State.statement_done issued]
    refine ⟨followed.version sid, followed.checked, ?_⟩
    intro version stored
    obtain ⟨stored, other⟩ := Option.mem_filter_iff.mp stored
    -- A version that outlives this commit belongs to another session, so nothing was published.
    have same : s.version sid = s.committed := by
      have foreign : version.1 ≠ sid := by simpa using other
      simp [State.version, Option.mem_def.mp stored, foreign]
    simpa only [same] using followed.written version stored
  | rollback =>
    rw [State.statement_rollback issued]
    exact ⟨d.refl _, followed.released sid⟩
  | select next =>
    rw [issued] at checked
    rw [State.statement_select issued]
    exact ⟨d.refl _, followed.continued sid (checked _)⟩
  | update f next =>
    rw [issued] at checked
    rw [State.statement_update issued]
    split
    · exact ⟨d.refl _, followed⟩
    · rename_i waits
      have fresh := current sid (by simp [State.Updates, issued, waits])
      have written : d.Followed { s with writer := some (sid, f (s.version sid)) } := by
        refine ⟨followed.checked, ?_⟩
        intro version stored
        obtain rfl := Option.mem_some_iff.mp stored
        exact d.update _ _ _ _ checked.1 fresh (followed.version sid)
      exact ⟨d.refl _, written.continued sid (checked.2 _)⟩
  | lock name next =>
    rw [issued] at checked
    rw [State.statement_lock issued]
    split
    · exact ⟨d.refl _, followed⟩
    · have held : d.Followed { s with holder := Function.update s.holder name (some sid) } :=
        ⟨followed.checked, followed.written⟩
      exact ⟨d.refl _, held.continued sid checked⟩

theorem Followed.step (followed : d.Followed s) (turn : Turn Sid) (current : d.Current s turn) :
    d.keeps s.committed (s.step turn).committed ∧ d.Followed (s.step turn) := by
  cases turn with
  | statement sid => exact followed.statement sid current
  | lost sid => exact ⟨d.refl _, (followed.released sid).continued sid trivial⟩

/-- Along every interleaving of current updates the committed rows stay related. -/
theorem Followed.run (followed : d.Followed s) {turns : List (Turn Sid)}
    (current : Guarded State.step d.Current s turns) :
    d.keeps s.committed (run State.step s turns).committed ∧ d.Followed (run State.step s turns) := by
  induction turns generalizing s with
  | nil => exact ⟨d.refl _, followed⟩
  | cons turn rest ih =>
    obtain ⟨kept, next⟩ := followed.step turn current.1
    obtain ⟨keptOn, last⟩ := ih next current.2
    exact ⟨d.trans _ _ _ kept keptOn, last⟩

omit [DecidableEq Sid] [DecidableEq Lock] in
theorem followed_start {row : Row} {programs : Sid → Program Row Lock PUnit}
    (checked : ∀ sid, (programs sid).Checked d.legal none fun _ _ => True) :
    d.Followed (start row programs) :=
  ⟨checked, nofun⟩

end Discipline

section Alone

variable [DecidableEq Lock]

structure State.Free (s : State Sid Row Lock) (sid : Sid) : Prop where
  writer : ∀ version ∈ s.writer, version.1 = sid
  holder : ∀ name, ∀ owner ∈ s.holder name, owner = sid

omit [DecidableEq Lock] in
theorem State.Free.not_blocked {s : State Sid Row Lock} {sid : Sid} (free : s.Free sid) :
    s.blocked sid = false := by
  unfold State.blocked
  cases stored : s.writer with
  | none => rfl
  | some version => simp [free.writer version stored]

theorem run_alone_cons {s s' : State Sid Row Lock} {sid : Sid} {result : Option Row}
    (moved : s.statement sid = s') (same : s'.committed = s.committed)
    (later : ∃ n, (run State.step s' (List.replicate n (.statement sid))).committed =
      result.getD s'.committed) :
    ∃ n, (run State.step s (List.replicate n (.statement sid))).committed =
      result.getD s.committed := by
  obtain ⟨n, ends⟩ := later
  refine ⟨n + 1, ?_⟩
  rw [List.replicate_succ, run_cons, State.step, moved, ends, same]

/-- A session that is never interrupted commits what its program leaves, or nothing. -/
theorem run_alone (sid : Sid) (program : Program Row Lock PUnit) (s : State Sid Row Lock)
    (free : s.Free sid) (issued : (s.session sid).program = program) :
    ∃ n, (run State.step s (List.replicate n (.statement sid))).committed =
      ((program.solo (s.version sid)).map Prod.snd).getD s.committed := by
  induction program generalizing s with
  | done result => exact ⟨1, by simp [State.step, State.statement_done issued, Program.solo]⟩
  | rollback => exact ⟨0, rfl⟩
  | select next ih =>
    refine run_alone_cons (State.statement_select issued) rfl ?_
    exact ih _ _ ⟨free.writer, free.holder⟩ (by simp [State.continued])
  | update f next ih =>
    have moved := State.statement_update issued
    rw [free.not_blocked, if_neg Bool.false_ne_true] at moved
    refine run_alone_cons moved rfl ?_
    -- From here on the session sees its own version.
    have later := ih (f (s.version sid))
      ({ s with writer := some (sid, f (s.version sid)) }.continued sid
        ⟨next (f (s.version sid)), some (f (s.version sid))⟩)
      ⟨by simp [State.continued], free.holder⟩ (by simp [State.continued])
    simpa [State.version, State.continued, Program.solo] using later
  | lock name next ih =>
    have granted : (s.holder name).any (· ≠ sid) = false := by
      cases held : s.holder name with
      | none => rfl
      | some owner => simp [free.holder name owner held]
    have moved := State.statement_lock issued
    rw [granted, if_neg Bool.false_ne_true] at moved
    refine run_alone_cons moved rfl (ih _ ⟨free.writer, ?_⟩ (by simp [State.continued]))
    intro other owner held
    by_cases own : other = name
    · subst own
      simpa [State.continued, eq_comm] using held
    · exact free.holder other owner (by simpa [State.continued, own] using held)

end Alone

end ReadCommitted
