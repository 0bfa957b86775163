import PxHost.Agent.Console
import PxHost.Lib.Interleaving
import PxHost.Lib.LossyChannel

/-! From the pumps of a server's output to the client of one console socket. -/

namespace PxHost.ConsoleDelivery

open Console Interleaving LossyChannel Function

/-- The inbound channel of a connection; the lines it had no room for are only counted. -/
structure Subscriber where
  ch : List Line := []
  dropped : List Line := []

def subscriberBufferSize : Nat := 256

/-- What the client is sent; of the lines dropped it is told how many. -/
inductive Frame where
  | consoleOutput (line : Line)
  | consoleTruncated (dropped : List Line)
deriving DecidableEq

/-- The hub of a server and one connection; the fields at the end record what happened. -/
structure State where
  ring : Ring
  subscriber : Option Subscriber := none
  /-- The connection is broken, and nothing that is written reaches the client any more. -/
  gone : Bool := false
  sent : List Frame := []
  /-- The thread that serves the connection. -/
  owner : Option Nat := none
  /-- The last line that was replayed, queued or counted. -/
  reached : Option Nat := none

inductive Call where
  | append (data : List Char)
  | offer (line : Line)
  | countDropped (line : Line)
  | ringSince
  | subscribe
  | receive
  | takeDropped
  | send (frame : Frame)
  | unsubscribe

@[reducible] def Call.Answer : Call → Type
  | append _ => Line
  | offer _ => Bool
  | ringSince | takeDropped => List Line
  | receive => Line
  | countDropped _ | subscribe | send _ | unsubscribe => Unit

/-- Whether the connection breaks during a call. -/
abbrev Choice := Bool

def Subscriber.full (subscriber : Subscriber) : Bool := subscriberBufferSize ≤ subscriber.ch.length

/-- A call that has to wait has no answer yet; there is one connection, and one thread serves it. -/
def answer? (thread : Nat) : (call : Call) → Choice → State → Option (call.Answer × State)
  | .append data, _, s =>
    some (⟨s.ring.nextSeq + 1, data⟩, { s with ring := s.ring.append data })
  | .offer line, _, s =>
    match s.subscriber with
    | none => some (true, s)
    | some subscriber =>
      if subscriber.full then some (false, s)
      else some (true, { s with
        subscriber := some { subscriber with ch := subscriber.ch ++ [line] }
        reached := some line.seq })
  | .countDropped line, _, s =>
    match s.subscriber with
    | none => some ((), s)
    | some subscriber =>
      some ((), { s with
        subscriber := some { subscriber with dropped := subscriber.dropped ++ [line] }
        reached := some line.seq })
  | .ringSince, _, s =>
    match s.owner with
    | some _ => none
    | none =>
      some (s.ring.since 0, { s with
        owner := some thread, reached := ((s.ring.since 0).map (·.seq)).getLast? })
  | .subscribe, _, s => some ((), { s with subscriber := some {} })
  | .receive, _, s =>
    match s.subscriber with
    | some { ch := line :: rest, dropped } =>
      some (line, { s with subscriber := some { ch := rest, dropped } })
    | _ => none
  | .takeDropped, _, s =>
    match s.subscriber with
    | some subscriber =>
      some (subscriber.dropped, { s with subscriber := some { subscriber with dropped := [] } })
    | none => some ([], s)
  | .send frame, breaks, s =>
    if s.gone || breaks then some ((), { s with gone := true })
    else some ((), { s with sent := s.sent ++ [frame] })
  | .unsubscribe, _, s => some ((), { s with subscriber := none })

/-- The ring has the line before any subscriber does. -/
def publish (data : List Char) : Program Call.Answer Unit := do
  let line ← Program.perform (.append data)
  match ← Program.perform (Call.offer line) with
  | true => return
  | false => Program.perform (Call.countDropped line)

def replayScrollback : Program Call.Answer Unit := do
  let lines ← Program.perform Call.ringSince
  lines.forM fun line => Program.perform (Call.send (.consoleOutput line))

/-- A notice, if anything was dropped since the last one. -/
def announce (dropped : List Line) : Program Call.Answer Unit :=
  if dropped.isEmpty then pure () else Program.perform (Call.send (.consoleTruncated dropped))

def serve : Nat → Program Call.Answer Unit
  | 0 => Program.perform Call.unsubscribe
  | lines + 1 => do
    let line ← Program.perform Call.receive
    let dropped ← Program.perform Call.takeDropped
    announce dropped
    Program.perform (Call.send (.consoleOutput line))
    serve lines

def run (lines : Nat) : Program Call.Answer Unit := do
  replayScrollback
  Program.perform Call.subscribe
  serve lines

inductive Task where
  | publish (data : List Char)
  | session (lines : Nat)
deriving DecidableEq

def code : Task → Program Call.Answer Unit
  | .publish data => publish data
  | .session lines => run lines

abbrev Agent := Pool State Task Call.Answer

def step : Agent → Move Task Choice → Agent := Pool.step code answer?

/-- A server that has put out some lines already. -/
def Agent.opened (earlier : List (List Char)) : Agent := ⟨{ ring := earlier.foldl Ring.append {} }, []⟩

def outputs (sent : List Frame) : List Nat :=
  sent.filterMap fun
    | .consoleOutput line => some line.seq
    | .consoleTruncated _ => none

/-- The numbers of the lines that the notices to a client have counted. -/
def counted (sent : List Frame) : List Nat :=
  sent.flatMap fun
    | .consoleOutput _ => []
    | .consoleTruncated dropped => dropped.map (·.seq)

def truncated (sent : List Frame) : Nat :=
  (sent.map fun
    | .consoleOutput _ => 0
    | .consoleTruncated dropped => dropped.length).sum

/-- Every line reaches the connection right after the one before it, be it in the replay. -/
def inOrder (s : State) (_ : Task) (call : Call) (_ : Choice) : Bool :=
  match call with
  | .offer line => s.subscriber.all fun subscriber =>
    subscriber.full || s.reached.all (· + 1 = line.seq)
  | .countDropped line => s.subscriber.isNone || s.reached.all (· + 1 = line.seq)
  | _ => true

section Numbers

/-- The lines of the ring are numbered one after the other, up to the last number given. -/
def Numbered (lines : List Line) (last : Nat) : Prop :=
  ∃ start, 0 < start ∧ start + lines.length = last + 1 ∧
    lines.map (·.seq) = List.range' start lines.length

theorem Numbered.evict {lines : List Line} {last : Nat} (numbered : Numbered lines last)
    (byteTotal : Nat) : Numbered (evict lines byteTotal).1 last := by
  -- Each line that goes leaves a list that starts one number later.
  induction lines generalizing byteTotal with
  | nil => exact numbered
  | cons oldest rest ih =>
    unfold Console.evict
    split
    · obtain ⟨start, positive, ends, numbers⟩ := numbered
      rw [List.length_cons] at ends numbers
      exact ih ⟨start + 1, Nat.succ_pos _, by omega, (List.cons.inj numbers).2⟩ _
    · exact numbered

theorem Numbered.append {ring : Ring} (numbered : Numbered ring.lines ring.nextSeq)
    (data : List Char) : Numbered (ring.append data).lines (ring.append data).nextSeq := by
  obtain ⟨start, positive, ends, numbers⟩ := numbered
  have grown : Numbered (ring.lines ++ [⟨ring.nextSeq + 1, data⟩]) (ring.nextSeq + 1) := by
    refine ⟨start, positive, by simp; omega, ?_⟩
    rw [List.map_append, numbers, List.length_append, List.length_singleton, List.range'_concat, Nat.one_mul,
      ends]
    rfl
  exact grown.evict _

theorem numbered_earlier (earlier : List (List Char)) :
    Numbered (earlier.foldl Ring.append {}).lines (earlier.foldl Ring.append {}).nextSeq := by
  refine List.foldlRecOn (motive := fun ring : Ring => Numbered ring.lines ring.nextSeq) _ _ ?_ ?_
  · exact ⟨1, Nat.one_pos, rfl, rfl⟩
  · exact fun _ numbered data _ => numbered.append data

theorem Numbered.replay {ring : Ring} (numbered : Numbered ring.lines ring.nextSeq) :
    Ordered [] ((ring.since 0).map (·.seq)) [] [] [] ((ring.since 0).map (·.seq)).getLast? := by
  obtain ⟨start, positive, -, numbers⟩ := numbered
  have whole : ring.since 0 = ring.lines := by
    refine List.filter_eq_self.mpr fun line member => ?_
    have inside : line.seq ∈ ring.lines.map (·.seq) := List.mem_map_of_mem member
    rw [numbers, List.mem_range'_1] at inside
    exact decide_eq_true (by omega)
  rw [whole, numbers]
  refine Ordered.start (List.pairwise_lt_range' ..) fun first member last member' n after before => ?_
  rw [List.mem_range'_1] at member member' ⊢
  omega

end Numbers

inductive Mode where
  | idle
  | replaying (rest : List Line)
  | live
  | holding (line : Line)
  /-- The counter has been read, but not reported yet. -/
  | taken (line : Line) (dropped : List Line)

def Mode.permits (mode : Mode) : Call → Prop
  | .append _ | .offer _ | .countDropped _ => True
  | .ringSince => mode = .idle
  | .subscribe => mode = .replaying []
  | .receive | .unsubscribe => mode = .live
  | .takeDropped => ∃ line, mode = .holding line
  | .send (.consoleOutput line) => (∃ rest, mode = .replaying (line :: rest)) ∨ mode = .taken line []
  | .send (.consoleTruncated dropped) => ∃ line, mode = .taken line dropped

def Mode.sends : Mode → Mode
  | .replaying rest => .replaying rest.tail
  | _ => .live

def Mode.reports : Mode → Mode
  | .taken line _ => .taken line []
  | mode => mode

def Mode.takes (dropped : List Line) : Mode → Mode
  | .holding line => .taken line dropped
  | mode => mode

def Mode.next (mode : Mode) : (call : Call) → call.Answer → Mode
  | .append _, _ | .offer _, _ | .countDropped _, _ => mode
  | .ringSince, lines => .replaying lines
  | .subscribe, _ => .live
  | .receive, line => .holding line
  | .takeDropped, dropped => mode.takes dropped
  | .send (.consoleOutput _), _ => mode.sends
  | .send (.consoleTruncated _), _ => mode.reports
  | .unsubscribe, _ => .idle

abbrev discipline : Discipline Task Mode Call.Answer := .decided Mode.permits Mode.next

/-- The numbers of some lines, of which some may be in the hands of the session. -/
def State.Ordered (s : State) (held : List Line) (taken : List Line) (subscriber : Subscriber) : Prop :=
  LossyChannel.Ordered (outputs s.sent) ((held ++ subscriber.ch).map (·.seq)) (counted s.sent)
    (taken.map (·.seq)) (subscriber.dropped.map (·.seq)) s.reached

def Mode.Fits (s : State) : Mode → Prop
  | .idle => True
  | .replaying rest => s.subscriber = none ∧ s.Ordered rest [] {}
  | .live => ∃ subscriber, s.subscriber = some subscriber ∧ s.Ordered [] [] subscriber
  | .holding line => ∃ subscriber, s.subscriber = some subscriber ∧ s.Ordered [line] [] subscriber
  | .taken line dropped => ∃ subscriber, s.subscriber = some subscriber ∧
    s.Ordered [line] dropped subscriber ∧ ∀ later ∈ subscriber.dropped, line.seq < later.seq

/-- What was sent is complete, and the session knows how far its client is. -/
structure Delivers (s : State) (modes : Nat → Mode) : Prop where
  numbered : Numbered s.ring.lines s.ring.nextSeq
  owned : ∀ thread, modes thread ≠ .idle → s.owner = some thread
  unowned : s.owner = none → s.subscriber = none ∧ s.sent = []
  complete : Complete (outputs s.sent) (counted s.sent)
  /-- Until the connection breaks, the session knows how far the client is. -/
  fits : s.gone = false → ∀ thread, s.owner = some thread → (modes thread).Fits s

section Laws

variable {s s' : State} {modes : Nat → Mode} {mode : Mode} {thread : Nat} {line : Line}
  {held taken : List Line} {subscriber : Subscriber}

theorem State.Ordered.enqueue (ordered : s.Ordered held taken subscriber)
    (next : s.reached.all (· + 1 = line.seq)) :
    State.Ordered { s with reached := some line.seq } held taken
      { subscriber with ch := subscriber.ch ++ [line] } := by
  unfold State.Ordered at ordered ⊢
  rw [← List.append_assoc, List.map_append]
  exact LossyChannel.Ordered.enqueue ordered next

theorem State.Ordered.drop (ordered : s.Ordered held taken subscriber)
    (next : s.reached.all (· + 1 = line.seq)) :
    State.Ordered { s with reached := some line.seq } held taken
      { subscriber with dropped := subscriber.dropped ++ [line] } := by
  have dropped := LossyChannel.Ordered.drop ordered next
  simpa [State.Ordered] using dropped

theorem State.Ordered.lt_next (ordered : s.Ordered (line :: held) taken subscriber) {newer : Line}
    (next : s.reached.all (· + 1 = newer.seq)) : line.seq < newer.seq :=
  LossyChannel.Ordered.lt_next ordered next (by simp)

/-- A line that is queued or counted leaves the session to know what it has to. -/
theorem Mode.Fits.moves (fits : mode.Fits s) (found : s.subscriber = some subscriber)
    {subscriber' : Subscriber} {reached : Option Nat}
    (ordered : ∀ {held taken}, s.Ordered held taken subscriber →
      State.Ordered { s with reached } held taken subscriber')
    (later : ∀ {line taken}, s.Ordered [line] taken subscriber → ∀ newer ∈ subscriber'.dropped,
      newer ∈ subscriber.dropped ∨ line.seq < newer.seq) :
    mode.Fits { s with subscriber := some subscriber', reached } := by
  cases mode with
  | idle => trivial
  | replaying rest =>
    rw [fits.1] at found
    cases found
  | live | holding line =>
    obtain ⟨known, same, before⟩ := fits
    obtain rfl := Option.mem_unique found same
    exact ⟨_, rfl, ordered before⟩
  | taken line dropped =>
    obtain ⟨known, same, before, after⟩ := fits
    obtain rfl := Option.mem_unique found same
    exact ⟨_, rfl, ordered before, fun newer member => (later before newer member).elim (after newer) id⟩

section Moves

variable (linked : Delivers s modes)
include linked

/-- What a publisher does to the hub leaves the session to know what it has to. -/
theorem Delivers.published (numbered : Numbered s'.ring.lines s'.ring.nextSeq)
    (owner : s'.owner = s.owner) (gone : s'.gone = s.gone) (sent : s'.sent = s.sent)
    (unowned : s.subscriber = none → s'.subscriber = none)
    (fits : ∀ mode : Mode, mode.Fits s → mode.Fits s') :
    Delivers s' (update modes thread (modes thread)) := by
  rw [update_eq_self]
  refine ⟨numbered, ?_, ?_, ?_, ?_⟩
  · rw [owner]
    exact linked.owned
  · intro none
    obtain ⟨absent, silent⟩ := linked.unowned (owner ▸ none)
    exact ⟨unowned absent, sent.trans silent⟩
  · rw [sent]
    exact linked.complete
  · intro connected other own
    exact fits _ (linked.fits (gone ▸ connected) other (owner ▸ own))

/-- What the session does itself takes it from one mode to the next. -/
theorem Delivers.proceed (s' : State) (after : Mode)
    (own : s'.owner = some thread) (others : s.owner = some thread ∨ s.owner = none)
    (ring : s'.ring = s.ring) (complete : Complete (outputs s'.sent) (counted s'.sent))
    (fits : s'.gone = false → after.Fits s') : Delivers s' (update modes thread after) := by
  refine ⟨by rw [ring]; exact linked.numbered, ?_, ?_, complete, ?_⟩
  · intro other busy
    by_cases same : other = thread
    · rw [same]
      exact own
    · -- Nobody else serves the connection.
      rw [update_of_ne same] at busy
      have owner := linked.owned other busy
      rcases others with mine | none
      · rw [mine, Option.some.injEq] at owner
        exact (same owner.symm).elim
      · rw [none] at owner
        cases owner
  · intro none
    rw [own] at none
    cases none
  · intro connected other owner
    rw [own, Option.some.injEq] at owner
    subst owner
    rw [update_self]
    exact fits connected

theorem Delivers.owner_eq (mode' : modes thread = mode) (busy : mode ≠ .idle) :
    s.owner = some thread :=
  linked.owned thread (mode' ▸ busy)

theorem Delivers.goesOn (mode' : modes thread = mode) (busy : mode ≠ .idle)
    (subscriber' : Option Subscriber) (after : Mode)
    (fits : mode.Fits s → after.Fits { s with subscriber := subscriber' }) :
    Delivers { s with subscriber := subscriber' } (update modes thread after) := by
  have own := linked.owner_eq mode' busy
  refine linked.proceed { s with subscriber := subscriber' } after own (.inl own) rfl linked.complete
    fun connected => fits ?_
  rw [← mode']
  exact linked.fits connected thread own

theorem Delivers.replay (free : s.owner = none) :
    Delivers { s with owner := some thread, reached := ((s.ring.since 0).map (·.seq)).getLast? }
      (update modes thread (.replaying (s.ring.since 0))) := by
  obtain ⟨absent, silent⟩ := linked.unowned free
  refine linked.proceed
    { s with owner := some thread, reached := ((s.ring.since 0).map (·.seq)).getLast? }
    (.replaying (s.ring.since 0)) rfl (.inr free) rfl linked.complete fun _ => ⟨absent, ?_⟩
  have replayed := linked.numbered.replay
  simpa [State.Ordered, silent, outputs, counted] using replayed

theorem Delivers.receive (mode : modes thread = .live) {rest dropped : List Line}
    (found : s.subscriber = some { ch := line :: rest, dropped }) :
    Delivers { s with subscriber := some { ch := rest, dropped } }
      (update modes thread (.holding line)) := by
  refine linked.goesOn mode (by simp) (some { ch := rest, dropped }) (.holding line) ?_
  rintro ⟨known, same, ordered⟩
  obtain rfl := Option.mem_unique found same
  exact ⟨_, rfl, ordered⟩

theorem Delivers.takeDropped (mode : modes thread = .holding line)
    (found : s.subscriber = some subscriber) :
    Delivers { s with subscriber := some { subscriber with dropped := [] } }
      (update modes thread (.taken line subscriber.dropped)) := by
  refine linked.goesOn mode (by simp) (some { subscriber with dropped := [] })
    (.taken line subscriber.dropped) ?_
  rintro ⟨known, same, ordered⟩
  obtain rfl := Option.mem_unique found same
  exact ⟨_, rfl, LossyChannel.Ordered.take ordered, by simp⟩

theorem Delivers.broken (own : s.owner = some thread) (after : Mode) :
    Delivers { s with gone := true } (update modes thread after) :=
  linked.proceed { s with gone := true } after own (.inl own) rfl linked.complete
    fun connected => by cases connected

end Moves

/-- A line is sent once everything lost before it has been reported. -/
theorem State.Ordered.send (ordered : s.Ordered (line :: held) [] subscriber)
    (later : ∀ newer ∈ subscriber.dropped, line.seq < newer.seq) :
    State.Ordered { s with sent := s.sent ++ [.consoleOutput line] } held [] subscriber := by
  have sent := LossyChannel.Ordered.send ordered (by simpa using later)
  simpa [State.Ordered, outputs, counted] using sent

theorem State.Ordered.report (ordered : s.Ordered held taken subscriber) :
    State.Ordered { s with sent := s.sent ++ [.consoleTruncated taken] } held [] subscriber := by
  have reported := LossyChannel.Ordered.report ordered
  simpa [State.Ordered, outputs, counted] using reported

section Sends

variable {frame : Frame} (linked : Delivers s modes) (permitted : (modes thread).permits (.send frame))
include linked permitted

theorem Delivers.sender : s.owner = some thread := by
  refine linked.owned thread fun idle => ?_
  rw [idle] at permitted
  cases frame <;> simp [Mode.permits] at permitted

theorem Delivers.send (connected : s.gone = false) :
    Delivers { s with sent := s.sent ++ [frame] }
      (update modes thread ((modes thread).next (.send frame) ())) := by
  have own := linked.sender permitted
  have fits := linked.fits connected thread own
  have proceeds {held taken : List Line} {subscriber : Subscriber} (after : Mode)
      (sent : State.Ordered { s with sent := s.sent ++ [frame] } held taken subscriber)
      (fits : after.Fits { s with sent := s.sent ++ [frame] }) :
      Delivers { s with sent := s.sent ++ [frame] } (update modes thread after) :=
    linked.proceed _ after own (.inl own) rfl (LossyChannel.Ordered.complete sent) fun _ => fits
  cases frame with
  | consoleOutput line =>
    rcases permitted with ⟨rest, mode⟩ | mode <;> rw [mode] at fits ⊢
    · have sent := fits.2.send (by simp)
      exact proceeds (.replaying rest) sent ⟨fits.1, sent⟩
    · obtain ⟨subscriber, found, ordered, later⟩ := fits
      have sent := ordered.send later
      exact proceeds .live sent ⟨subscriber, found, sent⟩
  | consoleTruncated dropped =>
    obtain ⟨line, mode⟩ := permitted
    rw [mode] at fits ⊢
    obtain ⟨subscriber, found, ordered, later⟩ := fits
    exact proceeds (.taken line []) ordered.report ⟨subscriber, found, ordered.report, later⟩

end Sends

/-- Every call keeps the session up to date on how far its client is. -/
theorem delivers_sustained : Sustained answer? inOrder discipline Delivers := by
  intro s modes thread task call choice answer s' linked ok permitted answers
  refine ⟨_, rfl, ?_⟩
  cases call with
  | append data =>
    cases answers
    exact linked.published (linked.numbered.append data) rfl rfl rfl id fun mode fits => by
      cases mode <;> exact fits
  | offer line =>
    simp only [answer?] at answers
    split at answers
    · cases answers
      exact linked.published linked.numbered rfl rfl rfl id fun _ fits => fits
    · next subscriber found =>
      split at answers
      · cases answers
        exact linked.published linked.numbered rfl rfl rfl id fun _ fits => fits
      · next room =>
        cases answers
        have next : s.reached.all (· + 1 = line.seq) := by
          simpa [inOrder, found, room] using ok
        refine linked.published linked.numbered rfl rfl rfl (by simp [found]) fun _ fits => ?_
        exact fits.moves found (·.enqueue next) fun _ _ member => .inl member
  | countDropped line =>
    simp only [answer?] at answers
    split at answers
    · cases answers
      exact linked.published linked.numbered rfl rfl rfl id fun _ fits => fits
    · next subscriber found =>
      cases answers
      have next : s.reached.all (· + 1 = line.seq) := by
        simpa [inOrder, found] using ok
      refine linked.published linked.numbered rfl rfl rfl (by simp [found]) fun _ fits => ?_
      refine fits.moves found (·.drop next) fun ordered newer member => ?_
      -- The line that is counted now is later than the one the session holds.
      rcases List.mem_append.mp member with before | last
      · exact .inl before
      · rw [List.mem_singleton.mp last]
        exact .inr (ordered.lt_next next)
  | ringSince =>
    simp only [answer?] at answers
    split at answers
    · cases answers
    · next free =>
      cases answers
      exact linked.replay free
  | subscribe =>
    cases answers
    exact linked.goesOn permitted (by simp) (some {}) .live fun fits => ⟨{}, rfl, fits.2⟩
  | receive =>
    simp only [answer?] at answers
    split at answers
    · next found =>
      cases answers
      exact linked.receive permitted found
    · cases answers
  | takeDropped =>
    obtain ⟨line, mode⟩ := permitted
    simp only [answer?] at answers
    split at answers
    · next subscriber found =>
      cases answers
      rw [mode]
      exact linked.takeDropped mode found
    · -- A session that has received a line is subscribed, unless the connection is gone.
      next absent =>
      cases answers
      refine linked.goesOn mode (by simp) s.subscriber _ ?_
      rintro ⟨subscriber, found, -⟩
      rw [absent] at found
      cases found
  | send frame =>
    have own := linked.sender permitted
    simp only [answer?] at answers
    split at answers
    · cases answers
      exact linked.broken own _
    · next intact =>
      cases answers
      have connected : s.gone = false := by
        rw [Bool.or_eq_true, not_or, Bool.not_eq_true] at intact
        exact intact.1
      exact linked.send permitted connected
  | unsubscribe =>
    cases answers
    exact linked.goesOn permitted (by simp) none .idle fun _ => trivial

end Laws

section Code

variable {task : Task}

theorem follows_publish (data : List Char) :
    Follows discipline task .idle (publish data) fun _ after => after = .idle := by
  refine follows_bind.mpr (follows_perform.mpr ⟨trivial, fun line after moved => ?_⟩)
  obtain rfl := moved
  refine follows_bind.mpr (follows_perform.mpr ⟨trivial, fun accepted after moved => ?_⟩)
  obtain rfl := moved
  cases accepted with
  | true => rfl
  | false => exact follows_perform.mpr ⟨trivial, fun _ _ moved => moved⟩

theorem follows_replay (lines : List Line) : Follows discipline task (.replaying lines)
      (lines.forM fun line => Program.perform (Call.send (.consoleOutput line)))
      fun _ after => after = .replaying [] := by
  induction lines with
  | nil => rfl
  | cons line rest ih =>
    refine follows_perform.mpr ⟨.inl ⟨rest, rfl⟩, fun _ after moved => ?_⟩
    obtain rfl := moved
    exact ih

theorem follows_announce (line : Line) (dropped : List Line) :
    Follows discipline task (.taken line dropped) (announce dropped)
      fun _ after => after = .taken line [] := by
  unfold announce
  split
  · next none =>
    rw [List.isEmpty_iff.mp none]
    rfl
  · exact follows_perform.mpr ⟨⟨line, rfl⟩, fun _ _ moved => moved⟩

theorem follows_serve (lines : Nat) :
    Follows discipline task .live (serve lines) fun _ after => after = .idle := by
  induction lines with
  | zero => exact follows_perform.mpr ⟨rfl, fun _ _ moved => moved⟩
  | succ lines ih =>
    refine follows_bind.mpr (follows_perform.mpr ⟨rfl, fun line after moved => ?_⟩)
    obtain rfl := moved
    refine follows_bind.mpr (follows_perform.mpr ⟨⟨line, rfl⟩, fun dropped after moved => ?_⟩)
    obtain rfl := moved
    refine follows_bind.mpr ((follows_announce line dropped).mono fun _ after same => ?_)
    rw [same]
    refine follows_bind.mpr (follows_perform.mpr ⟨.inr rfl, fun _ after moved => ?_⟩)
    obtain rfl := moved
    exact ih

theorem follows_code (task : Task) :
    Follows discipline task .idle (code task) fun _ after => after = .idle := by
  cases task with
  | publish data => exact follows_publish data
  | session lines =>
    refine follows_bind.mpr (follows_bind.mpr (follows_perform.mpr ⟨rfl, fun replayed after moved => ?_⟩))
    obtain rfl := moved
    refine (follows_replay replayed).mono fun _ after same => ?_
    rw [same]
    refine follows_bind.mpr (follows_perform.mpr ⟨rfl, fun _ after moved => ?_⟩)
    obtain rfl := moved
    exact follows_serve lines

end Code

theorem length_counted (sent : List Frame) : (counted sent).length = truncated sent := by
  induction sent with
  | nil => rfl
  | cons frame rest ih =>
    cases frame with
    | consoleOutput line => simpa [counted, truncated] using ih
    | consoleTruncated dropped => simpa [counted, truncated] using ih

/--
In a run in which every line reaches the connection right after the one before it, the client is
sent lines in the order of their numbers, and of the lines from any one it was sent to any other,
those it was not sent are no more than it has been told.
-/
theorem console_delivery_is_ordered (earlier : List (List Char)) (moves : List (Move Task Choice))
    (ok : Machine.Guarded step (fun agent move => agent.allows inOrder move) (Agent.opened earlier) moves) :
    Complete (outputs (Machine.run step (Agent.opened earlier) moves).shared.sent)
        (counted (Machine.run step (Agent.opened earlier) moves).shared.sent) ∧
      ∀ first ∈ outputs (Machine.run step (Agent.opened earlier) moves).shared.sent,
        ∀ last ∈ outputs (Machine.run step (Agent.opened earlier) moves).shared.sent,
          (missing (outputs (Machine.run step (Agent.opened earlier) moves).shared.sent) first last).length ≤
            truncated (Machine.run step (Agent.opened earlier) moves).shared.sent := by
  have opened : Delivers (Agent.opened earlier).shared fun _ => .idle :=
    { numbered := numbered_earlier earlier
      owned := fun _ busy => (busy rfl).elim
      unowned := fun _ => ⟨rfl, rfl⟩
      complete := Complete.nil _
      fits := fun _ _ own => by cases own }
  have moded : (Agent.opened earlier).Moded discipline .idle Delivers := .of_idle opened
  obtain ⟨_, linked, -⟩ := moded.run follows_code delivers_sustained ok
  refine ⟨linked.complete, fun first sentFirst last sentLast => ?_⟩
  rw [← length_counted]
  exact linked.complete.missing_le sentFirst sentLast

def sampleDelivery (moves : List (Move Task Choice)) : List Nat × Nat :=
  let s := (Machine.run step (Agent.opened ["Starting".toList]) moves).shared
  (outputs s.sent, truncated s.sent)

def sampleTurns (thread count : Nat) : List (Move Task Choice) :=
  List.replicate count (.turn thread false)

/-- A session that replays the first line and then forwards the next two. -/
def sampleSession : List (Move Task Choice) :=
  [.start (.session 2)] ++ sampleTurns 0 3 ++
    [.start (.publish "Loading".toList)] ++ sampleTurns 1 2 ++
    [.start (.publish "Done".toList)] ++ sampleTurns 2 2 ++ sampleTurns 0 6

theorem sample_console_delivery_is_ordered : sampleDelivery sampleSession = ([1, 2, 3], 0) ∧
      Complete (outputs (Machine.run step (Agent.opened ["Starting".toList]) sampleSession).shared.sent)
        (counted (Machine.run step (Agent.opened ["Starting".toList]) sampleSession).shared.sent) :=
  ⟨by decide +kernel,
    (console_delivery_is_ordered ["Starting".toList] sampleSession (by decide +kernel)).1⟩

/--
A line that is published between the replay and the subscription is skipped without a notice. One
that is in the ring at the replay, but reaches the subscribers after the subscription, is sent twice.
Two lines that are published at the same time may be sent the wrong way round.
-/
theorem console_delivery_is_disordered : sampleDelivery ([.start (.session 1)] ++ sampleTurns 0 2 ++
      [.start (.publish "Loading".toList)] ++ sampleTurns 1 2 ++ sampleTurns 0 1 ++
      [.start (.publish "Done".toList)] ++ sampleTurns 2 2 ++ sampleTurns 0 3) = ([1, 3], 0) ∧
    sampleDelivery ([.start (.publish "Loading".toList)] ++ sampleTurns 0 1 ++
      [.start (.session 1)] ++ sampleTurns 1 4 ++ sampleTurns 0 1 ++ sampleTurns 1 3) =
      ([1, 2, 2], 0) ∧
    sampleDelivery ([.start (.session 2)] ++ sampleTurns 0 3 ++
      [.start (.publish "Loading".toList), .start (.publish "Done".toList)] ++
      sampleTurns 1 1 ++ sampleTurns 2 2 ++ sampleTurns 1 1 ++ sampleTurns 0 6) = ([1, 3, 2], 0) := by
  decide +kernel

end PxHost.ConsoleDelivery
