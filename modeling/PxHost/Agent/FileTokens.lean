import PxHost.Agent.Tokens
import PxHost.Lib.Interleaving

/-! The tokens of file transfers, which are burnt when they are used, under concurrent requests. -/

namespace PxHost.Tokens

open Interleaving Function

/-- The identifiers of used tokens, each with the expiry of its token. -/
abbrev ReplayCache := String → Option Moment

namespace ReplayCache

/-- What has run out is forgotten. -/
def prune (burnt : ReplayCache) (now : Moment) : ReplayCache :=
  fun id => (burnt id).filter (now ≤ ·)

/-- The first use of an identifier is recorded, and every later one refused. -/
def burn (burnt : ReplayCache) (now : Moment) (id : String) (expiresAt : Moment) :
    Bool × ReplayCache :=
  if (burnt.prune now id).isSome then (false, burnt.prune now)
  else (true, Function.update (burnt.prune now) id (some expiresAt))

end ReplayCache

namespace FileTokens

/-- An agent process; `used` lists the presentations that were let through, latest first. -/
structure State where
  verifier : TokenVerifier
  burnt : ReplayCache
  clock : Moment
  used : List (String × Moment)

/-- What a request does at one moment each: the two clocks it reads are not the same. -/
inductive Call where
  | verify (token : Token) (server : String) (cap : Capability)
  | burn (id : String) (expiresAt : Moment)
  | setKeys (keys : KeySet)

@[reducible] def Call.Answer : Call → Type
  | verify .. => Except Rejection Claims
  | burn .. => Bool
  | setKeys _ => Unit

/-- A request is let through when its burning succeeds, after which nothing can turn it down. -/
def perform (s : State) : (call : Call) → call.Answer × State
  | .verify token server cap => (s.verifier.verify s.clock token server cap, s)
  | .burn id expiresAt =>
    match s.burnt.burn s.clock id expiresAt with
    | (true, burnt) => (true, { s with burnt, used := (id, expiresAt) :: s.used })
    | (false, burnt) => (false, { s with burnt })
  | .setKeys keys => ((), { s with verifier := s.verifier.setKeys keys })

/-- The clock never runs backwards. -/
def answer? (_thread : Nat) (call : Call) (now : Moment) (s : State) :
    Option (call.Answer × State) :=
  if s.clock ≤ now then some (perform { s with clock := now } call) else none

abbrev Routine := ExceptT Rejection (Program Call.Answer)

@[simp] def verify (token : Token) (server : String) (cap : Capability) : Routine Claims :=
  ExceptT.mk (Program.perform (Call.verify token server cap))

@[simp] def burn (id : String) (expiresAt : Moment) : Routine Bool :=
  ExceptT.lift (Program.perform (Call.burn id expiresAt))

def verifyFileToken (token : Token) (wantServerUuid : String) (wantCap : Capability)
    (wantPath : String) : Routine Claims := do
  let claims ← verify token wantServerUuid wantCap
  unless claims.ctx.any (·.path == wantPath) do throw (.path wantPath)
  -- The expiry is read through a pointer; a token without one ends its request here.
  let some expiresAt := claims.expiresAt | throw .noExpiry
  let first ← burn claims.id expiresAt
  unless first do throw (.alreadyUsed claims.id)
  return claims

/-- A request that presents a token, or a refresh of the keys. -/
inductive Task where
  | present (token : Token) (server : String) (cap : Capability) (path : String)
  | refresh (keys : KeySet)

def code : Task → Program Call.Answer Unit
  | .present token server cap path => do
    let _ ← (verifyFileToken token server cap path).run
  | .refresh keys => Program.perform (Call.setKeys keys)

abbrev Agent := Pool State Task Call.Answer

def step : Agent → Move Task Moment → Agent := Pool.step code answer?

def Agent.started (verifier : TokenVerifier) (clock : Moment) : Agent :=
  ⟨⟨verifier, fun _ => none, clock, []⟩, []⟩

/-- How many presentations of tokens with an identifier were let through. -/
def State.successes (s : State) (id : String) : Nat := s.used.countP (·.1 == id)

/-- No token is burnt after the expiry of one with the same identifier that was let through. -/
def inTime (s : State) (_ : Task) (call : Call) (now : Moment) : Bool :=
  match call with
  | .burn id _ => now < s.clock || s.used.all fun use => use.1 != id || now ≤ use.2
  | _ => true

/-- Every use is the only one of its identifier, and recorded while its token lasts. -/
structure Recorded (s : State) : Prop where
  single : ∀ id, s.successes id ≤ 1
  burnt : ∀ id exp, (id, exp) ∈ s.used → s.clock ≤ exp → s.burnt id = some exp
  stale : ∀ id exp, s.burnt id = some exp → (id, exp) ∈ s.used

section Laws

variable {s : State} {id : String} {exp now : Moment}

theorem prune_eq_some {burnt : ReplayCache} :
    burnt.prune now id = some exp ↔ burnt id = some exp ∧ now ≤ exp := by
  simp [ReplayCache.prune, Option.filter_eq_some_iff]

theorem Recorded.unique (recorded : Recorded s) {exp' : Moment} (use : (id, exp) ∈ s.used)
    (use' : (id, exp') ∈ s.used) : exp = exp' := by
  have atMost := recorded.single id
  rw [State.successes, List.countP_eq_length_filter] at atMost
  -- Both uses are members of a list of at most one element.
  have member : (id, exp) ∈ s.used.filter (·.1 == id) := by simp [use]
  have member' : (id, exp') ∈ s.used.filter (·.1 == id) := by simp [use']
  match kept : s.used.filter (·.1 == id) with
  | [] => simp [kept] at member
  | [only] =>
    rw [kept, List.mem_singleton] at member member'
    exact (Prod.mk.inj (member.trans member'.symm)).2
  | _ :: _ :: _ => simp [kept] at atMost

theorem Recorded.later (recorded : Recorded s) (later : s.clock ≤ now) :
    Recorded { s with clock := now } where
  single := recorded.single
  burnt := by
    intro id exp use lasts
    exact recorded.burnt id exp use (Int.le_trans later lasts)
  stale := recorded.stale

theorem Recorded.burns_iff (recorded : Recorded s) :
    (s.burnt.prune s.clock id).isSome = false ↔ ∀ exp, (id, exp) ∈ s.used → exp < s.clock := by
  rw [Bool.eq_false_iff, ne_eq, Option.isSome_iff_exists]
  constructor
  · intro absent exp use
    by_contra lasts
    have lasts : s.clock ≤ exp := Int.not_lt.mp lasts
    exact absent ⟨exp, prune_eq_some.mpr ⟨recorded.burnt id exp use lasts, lasts⟩⟩
  · rintro past ⟨exp, kept⟩
    obtain ⟨found, lasts⟩ := prune_eq_some.mp kept
    exact absurd lasts (Int.not_le.mpr (past exp (recorded.stale id exp found)))

variable {thread : Nat}

theorem answer?_of_le (call : Call) (later : s.clock ≤ now) :
    answer? thread call now s = some (perform { s with clock := now } call) := if_pos later

variable {call : Call} {s' : State}

theorem answer?_ok {answer : call.Answer} (answers : answer? thread call now s = some (answer, s')) :
    s.clock ≤ now ∧ s' = (perform { s with clock := now } call).2 := by
  unfold answer? at answers
  split at answers
  · next later => exact ⟨later, (congrArg Prod.snd (Option.some.inj answers)).symm⟩
  · cases answers

theorem perform_burn (s : State) (id : String) (exp : Moment) :
    (perform s (.burn id exp)).2 =
      if (s.burnt.prune s.clock id).isSome then { s with burnt := s.burnt.prune s.clock }
      else { s with
        burnt := update (s.burnt.prune s.clock) id (some exp)
        used := (id, exp) :: s.used } := by
  by_cases seen : (s.burnt.prune s.clock id).isSome <;> simp [perform, ReplayCache.burn, seen]

theorem Recorded.prune (recorded : Recorded s) :
    Recorded { s with burnt := s.burnt.prune s.clock } where
  single := recorded.single
  burnt := by
    intro id exp use lasts
    exact prune_eq_some.mpr ⟨recorded.burnt id exp use lasts, lasts⟩
  stale := by
    intro id exp kept
    exact recorded.stale id exp (prune_eq_some.mp kept).1

theorem Recorded.use (recorded : Recorded s) (unused : ∀ exp', (id, exp') ∉ s.used) :
    Recorded { s with
      burnt := update s.burnt id (some exp), used := (id, exp) :: s.used } where
  single := by
    intro other
    by_cases same : id = other
    · -- No use of this identifier was there to be counted.
      subst same
      have none : s.used.countP (·.1 == id) = 0 := by
        rw [List.countP_eq_zero]
        rintro ⟨id', exp'⟩ use same
        exact unused exp' (eq_of_beq same ▸ use)
      simp [State.successes, none]
    · simpa [State.successes, same] using recorded.single other
  burnt := by
    intro other exp' use lasts
    rcases List.mem_cons.mp use with new | old
    · obtain ⟨rfl, rfl⟩ := Prod.mk.inj new
      exact update_self ..
    · have differs : other ≠ id := fun same => unused exp' (same ▸ old)
      simpa [update_of_ne differs] using recorded.burnt other exp' old lasts
  stale := by
    intro other exp' found
    by_cases same : other = id
    · subst same
      simp only [update_self, Option.some.injEq] at found
      exact List.mem_cons.mpr (.inl (by rw [found]))
    · simp only [update_of_ne same] at found
      exact List.mem_cons_of_mem _ (recorded.stale other exp' found)

variable {task : Task}

theorem inTime_burn_iff :
    inTime s task (.burn id exp) now ↔
      now < s.clock ∨ ∀ exp', (id, exp') ∈ s.used → now ≤ exp' := by
  simp only [inTime, Bool.or_eq_true, decide_eq_true_eq, List.all_eq_true, bne_iff_ne, ne_eq]
  refine or_congr_right ⟨fun all exp' use => ?_, fun all use member => ?_⟩
  · exact (all (id, exp') use).resolve_left (fun differs => differs rfl)
  · by_cases same : use.1 = id
    · exact .inr (all use.2 (same ▸ member))
    · exact .inl same

/-- Whatever is answered, a burning in time keeps every use the only one of its identifier. -/
theorem Recorded.answered {answer : call.Answer} (recorded : Recorded s)
    (timely : inTime s task call now) (answers : answer? thread call now s = some (answer, s')) :
    Recorded s' := by
  obtain ⟨later, rfl⟩ := answer?_ok answers
  have waited := recorded.later later
  cases call with
  | verify | setKeys => exact ⟨waited.single, waited.burnt, waited.stale⟩
  | burn id exp =>
    rw [perform_burn]
    split
    · exact waited.prune
    · -- What has no record any more has run out, and nothing in time had.
      next fresh =>
      refine waited.prune.use fun exp' use => ?_
      have past := waited.burns_iff.mp (Bool.eq_false_iff.mpr fresh) exp' use
      rcases inTime_burn_iff.mp timely with early | lasts
      · exact absurd later (Int.not_le.mpr early)
      · exact absurd (lasts exp' use) (Int.not_le.mpr past)

theorem Recorded.late (recorded : Recorded s) (late : ¬ inTime s task call now) :
    ∃ answer s', answer? thread call now s = some (answer, s') ∧ ∃ id, 2 ≤ s'.successes id := by
  cases call with
  | verify | setKeys => exact (late rfl).elim
  | burn id exp =>
    rw [inTime_burn_iff, not_or] at late
    obtain ⟨later, late⟩ := late
    obtain ⟨exp', use, past⟩ : ∃ exp', (id, exp') ∈ s.used ∧ exp' < now := by
      simpa [Int.not_le] using late
    refine ⟨_, _, answer?_of_le _ (Int.not_lt.mp later), id, ?_⟩
    -- The only record of the identifier is that of the expired use, so that it is forgotten first.
    have waited := recorded.later (Int.not_lt.mp later)
    have fresh : ¬ (ReplayCache.prune s.burnt now id).isSome := by
      refine Bool.eq_false_iff.mp (waited.burns_iff.mpr fun exp'' use' => ?_)
      rw [← recorded.unique use use']
      exact past
    have counted : 0 < s.used.countP (·.1 == id) :=
      List.countP_pos_iff.mpr ⟨(id, exp'), use, beq_self_eq_true id⟩
    show 2 ≤ (perform { s with clock := now } (.burn id exp)).2.successes id
    rw [perform_burn, if_neg fresh]
    simp only [State.successes, List.countP_cons, beq_self_eq_true, if_true]
    omega

theorem successes_le {answer : call.Answer}
    (answers : answer? thread call now s = some (answer, s')) (id : String) :
    s.successes id ≤ s'.successes id := by
  obtain ⟨-, rfl⟩ := answer?_ok answers
  cases call with
  | verify | setKeys => exact Nat.le_refl _
  | burn other exp =>
    rw [perform_burn]
    split
    · exact Nat.le_refl _
    · simp only [State.successes, List.countP_cons]
      omega

end Laws

/--
Over any concurrent presentations and key refreshes, each identifier is let through at most once if
and only if no token is burnt after the expiry of one with its identifier that was let through.
-/
theorem file_token_works_once_iff (verifier : TokenVerifier) (clock : Moment)
    (moves : List (Move Task Moment)) :
    Machine.Guarded step (fun agent move => agent.allows inTime move)
        (Agent.started verifier clock) moves ↔
      ∀ id, (Machine.run step (Agent.started verifier clock) moves).shared.successes id ≤ 1 := by
  have opened : Recorded (Agent.started verifier clock).shared := by
    constructor <;> simp [Agent.started, State.successes]
  -- A second use is what a late burning breaks for good.
  refine Iff.trans (Pool.guarded_iff_run Recorded (fun s => ∃ id, 2 ≤ s.successes id)
    ?_ ?_ ?_ ?_ opened moves) ?_
  · intro s thread task call now answer s' recorded timely answers
    exact recorded.answered timely answers
  · intro s thread task call now recorded late
    exact recorded.late late
  · intro s thread call now answer s' ⟨id, twice⟩ answers
    exact ⟨id, Nat.le_trans twice (successes_le answers id)⟩
  · intro s recorded ⟨id, twice⟩
    exact Nat.not_succ_le_self 1 (Nat.le_trans twice (recorded.single id))
  · simp only [not_exists, Nat.not_le, Nat.lt_succ_iff]
    rfl

def sampleDownload : Token where
  alg := "EdDSA"
  kid := none
  signedBy := some 1
  claims := {
    id := "t-2", subject := "srv-1", audience := ["node:n-1"], expiresAt := some 60000000000
    notBefore := some 0, cap := .fileDownload, permissions := []
    ctx := some { path := "/world.zip", maxBytes := 0 } }

/-- How often the token is let through by an agent that is given a tolerance for its clock. -/
def sampleUses (clockSkew : Moment) (moves : List (Move Task Moment)) : Nat :=
  (Machine.run step (Agent.started (.new sampleLibrary (some 1) "n-1" clockSkew) 0) moves).shared.successes "t-2"

def samplePresent : Move Task Moment :=
  .start (.present sampleDownload "srv-1" .fileDownload "/world.zip")

/--
Within the tolerance after its expiry a token works a second time; without any tolerance it does so
for a request that verified it just before its expiry and burns it just after.
-/
theorem file_token_works_twice :
    sampleUses 10000000000 [samplePresent, .turn 0 50000000000, .turn 0 50000000000,
      samplePresent, .turn 1 65000000000, .turn 1 65000000000] = 2 ∧
    sampleUses 0 [samplePresent, samplePresent, .turn 0 50000000000, .turn 0 50000000000,
      .turn 1 59000000000, .turn 1 61000000000] = 2 := by
  decide +kernel

end FileTokens

end PxHost.Tokens
