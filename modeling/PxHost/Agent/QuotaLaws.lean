import PxHost.Agent.Quota

/-! When the disk limit of a server holds, whatever its file requests do. -/

namespace PxHost.Quota

open Interleaving Machine Store
open Agent (Path ZipEntry)

def limitBytes (limitMb : Int64) : Nat := limitMb.toInt.toNat * 1048576

section Arithmetic

theorem sum_limitReader_le (limit : Nat) (stream : List Nat) :
    (limitReader limit stream).sum ≤ limit := by
  -- Every chunk is paid for out of the limit; the last one may be cut.
  induction stream generalizing limit with
  | nil => exact Nat.zero_le limit
  | cons bytes rest ih =>
    rw [limitReader]
    split
    · have later := ih (limit - bytes)
      rw [List.sum_cons]
      omega
    · simp

theorem sum_limitReader_le_sum (limit : Nat) (stream : List Nat) :
    (limitReader limit stream).sum ≤ stream.sum := by
  induction stream generalizing limit with
  | nil => exact Nat.zero_le 0
  | cons bytes rest ih =>
    rw [limitReader]
    split
    · have later := ih (limit - bytes)
      simp only [List.sum_cons]
      omega
    · simp only [List.sum_cons, List.sum_nil]
      omega

theorem sum_requestBody_le {declared : Int64} (known : 0 ≤ declared) (sent : List Nat) :
    (requestBody declared sent).sum ≤ declared.toInt.toNat := by
  rw [requestBody, if_neg (Int64.not_lt.mpr known)]
  exact sum_limitReader_le _ _

theorem written_le (choice : Choice) (bytes : Nat) : choice.written bytes ≤ bytes := by
  cases choice <;> simp [Choice.written]

theorem sum_truncated_le (files : Table Inode Nat) (file : Inode) :
    ((files.upsert file 0 fun _ => 0).sum fun _ size => size) ≤ files.sum fun _ size => size := by
  -- A new file adds nothing, an old one loses what it had.
  unfold Table.upsert
  split
  · rw [Table.sum_add]
    exact Nat.le_refl _
  · rename_i stored
    obtain ⟨size, stored⟩ := Option.ne_none_iff_exists'.mp stored
    have moved := Table.sum_modify stored (fun _ => 0) fun _ size => size
    omega

theorem sum_appended_le (files : Table Inode Nat) (file : Inode) (bytes : Nat) :
    ((files.modify file (· + bytes)).sum fun _ size => size) ≤
      (files.sum fun _ size => size) + bytes := by
  cases stored : files.get? file with
  | none =>
    rw [Table.modify_self (fun v found => by simp [stored] at found)]
    exact Nat.le_add_right _ _
  | some size =>
    have moved := Table.sum_modify stored (· + bytes) fun _ size => size
    omega

theorem bmod_le_self {n : Int} (notNegative : 0 ≤ n) : n.bmod (2 ^ 64) ≤ n := by
  simp only [Int.bmod]
  split <;> omega

theorem room_of_passed {limitMb declared : Int64} {usage : Nat} (positive : 0 < limitMb)
    (known : 0 ≤ declared) (small : usage + declared.toInt ≤ Int64.maxValue.toInt)
    (passed : ¬limitMb * 1024 * 1024 < Int64.ofNat usage + declared) :
    usage + declared.toInt.toNat ≤ limitBytes limitMb := by
  have notNegative : 0 ≤ declared.toInt := Int64.le_iff_toInt_le.mp known
  have limit : 0 < limitMb.toInt := Int64.lt_iff_toInt_lt.mp positive
  have top : Int64.maxValue.toInt = 9223372036854775807 := by decide
  have plain : (Int64.ofNat usage + declared).toInt = usage + declared.toInt := by
    have size : (Int64.size : Nat) = 18446744073709551616 := rfl
    have used : (Int64.ofNat usage).toInt = usage := by
      rw [Int64.toInt_ofNat', size, Int.bmod_eq_of_le (by omega) (by omega)]
    rw [Int64.toInt_add, used, Int.bmod_eq_of_le (by omega) (by omega)]
  -- A limit too large for the numbers of the machine only becomes a smaller one.
  have wrapped : (limitMb * 1024 * 1024).toInt ≤ limitMb.toInt * 1048576 := by
    have factor : (1024 * 1024 : Int64).toInt = 1048576 := by decide
    rw [Int64.mul_assoc, Int64.toInt_mul, factor]
    exact bmod_le_self (by omega)
  have below := Int64.le_iff_toInt_le.mp (Int64.not_lt.mp passed)
  simp only [limitBytes]
  omega

end Arithmetic

section Modes

/-- How far a request has come: it has measured the files, or may still write so many bytes. -/
inductive Mode where
  | idle
  | known (ticket : Ticket)
  | walking (ticket : Ticket)
  | measured (ticket : Ticket) (used : Int64)
  | granted (ticket : Ticket) (room : Nat)

def Mode.ticket? : Mode → Option Ticket
  | .idle => none
  | .known ticket | .walking ticket | .measured ticket _ | .granted ticket _ => some ticket

/-- Where opening a file leads a request whose check has passed. -/
def Mode.opened : Mode → Mode
  | .measured ticket _ => .granted ticket ((ticket.declared.getD 0).toInt.toNat)
  | mode => mode

def Mode.appended (bytes : Nat) : Mode → Mode
  | .granted ticket room => .granted ticket (room - bytes)
  | mode => mode

/-- An archive operation writes as it likes; the others measure first and keep to their room. -/
def discipline (limitMb : Int64) : Discipline Request Mode Call.Answer where
  permits mode call :=
    match call with
    | .attempt _ => True
    | .arrive _ => mode = .idle
    | .respond ticket => mode.ticket? = some ticket
    | .beginWalk ticket => mode = .known ticket
    | .endWalk ticket => mode = .walking ticket
    | .openTrunc ticket _ => mode = .known ticket ∧ ticket.declared = none ∨
        ∃ used declared, mode = .measured ticket used ∧ ticket.declared = some declared ∧
          0 ≤ declared ∧ ¬limitMb * 1024 * 1024 < used + declared
    | .append ticket _ bytes => mode = .known ticket ∧ ticket.declared = none ∨
        ∃ room, mode = .granted ticket room ∧ ticket.declared ≠ none ∧ bytes ≤ room
  moves _ mode call answer after :=
    match call with
    | .attempt _ => after = mode
    | .arrive declared => after = .known ⟨answer, declared⟩
    | .respond _ => after = .idle
    | .beginWalk ticket => after = .walking ticket
    | .endWalk ticket =>
      match (answer : Option Int64) with
      | none => after = .known ticket
      | some used => after = .measured ticket used ∧ ∀ declared ∈ ticket.declared, 0 ≤ declared
    | .openTrunc _ _ => after = mode.opened
    | .append _ _ bytes => after = mode.appended bytes

abbrev Obeys {α : Type} (limitMb : Int64) (request : Request) (mode : Mode)
    (program : Routine α) (ends : α → Mode → Prop) : Prop :=
  Follows (discipline limitMb) request mode program ends

variable {limitMb : Int64} {request : Request} {ticket : Ticket}

theorem obeys_attempt (mode : Mode) (work : Work) :
    Obeys limitMb request mode (attempt work) fun _ after => after = mode :=
  ⟨trivial, fun _ _ moves => moves⟩

/-- A check that passes leaves the measured sum, and one that fails a known request. -/
theorem obeys_checkQuota (positive : 0 < limitMb) {declared : Int64}
    (own : ticket.declared = some declared) :
    Obeys limitMb request (.known ticket) (checkQuota ticket declared limitMb) fun passed after =>
      after.ticket? = some ticket ∧ (passed → ∃ used, after = .measured ticket used ∧
        0 ≤ declared ∧ ¬limitMb * 1024 * 1024 < used + declared) := by
  -- The limit is positive, so the files are measured.
  unfold checkQuota
  rw [if_neg (Int64.not_le.mpr positive)]
  refine follows_bind.mpr ⟨rfl, ?_⟩
  rintro _ _ rfl
  refine follows_bind.mpr ⟨rfl, ?_⟩
  intro answer after moves
  cases answer with
  | none =>
    obtain rfl : after = .known ticket := moves
    exact ⟨rfl, nofun⟩
  | some used =>
    obtain ⟨rfl, valid⟩ : after = .measured ticket used ∧ _ := moves
    refine ⟨rfl, fun passed => ⟨used, rfl, valid declared own, ?_⟩⟩
    simpa using passed

variable {stream : List Nat}

theorem obeys_copy_granted (file : Inode) (own : ticket.declared ≠ none) {room : Nat}
    (fits : stream.sum ≤ room) :
    Obeys limitMb request (.granted ticket room) (copy ticket file stream) fun _ after =>
      after.ticket? = some ticket := by
  -- Each chunk takes its bytes off the room, and the rest still fits into what is left.
  induction stream generalizing room with
  | nil => rfl
  | cons bytes rest ih =>
    rw [List.sum_cons] at fits
    refine follows_bind.mpr (follows_perform.mpr ⟨.inr ⟨room, rfl, own, by omega⟩, ?_⟩)
    rintro answer _ rfl
    split
    · rfl
    · exact ih (by omega)

theorem obeys_copy_known (file : Inode) (free : ticket.declared = none) (stream : List Nat) :
    Obeys limitMb request (.known ticket) (copy ticket file stream) fun _ after =>
      after = .known ticket := by
  induction stream with
  | nil => rfl
  | cons bytes rest ih =>
    refine follows_bind.mpr (follows_perform.mpr ⟨.inl ⟨rfl, free⟩, ?_⟩)
    rintro answer _ rfl
    split
    · rfl
    · exact ih

theorem obeys_writeFile_measured (path : Path) {declared used maxBytes : Int64}
    (own : ticket.declared = some declared) (known : 0 ≤ declared)
    (passed : ¬limitMb * 1024 * 1024 < used + declared) (fits : stream.sum ≤ declared.toInt.toNat) :
    Obeys limitMb request (.measured ticket used) (writeFile ticket path stream maxBytes)
      fun _ after => after.ticket? = some ticket := by
  unfold writeFile
  refine follows_bind.mpr ⟨.inr ⟨used, declared, rfl, own, known, passed⟩, ?_⟩
  rintro opened _ rfl
  cases opened with
  | none => rfl
  | some file =>
    simp only [Mode.opened, own, Option.getD_some]
    refine follows_after (obeys_attempt _ _) fun owned => ?_
    split
    · rfl
    -- Cutting the stream at the size limit can only make it shorter.
    have limited := Nat.le_trans (sum_limitReader_le_sum (maxBytes + 1).toInt.toNat stream) fits
    refine follows_bind.mpr ((obeys_copy_granted file (by simp [own]) limited).mono ?_)
    intro copied after same
    split
    · exact same
    split
    · exact same
    · exact (obeys_attempt _ _).mono (by rintro _ _ rfl; exact same)

theorem obeys_writeFile_known (path : Path) (free : ticket.declared = none) (stream : List Nat)
    (maxBytes : Int64) :
    Obeys limitMb request (.known ticket) (writeFile ticket path stream maxBytes) fun _ after =>
      after = .known ticket := by
  unfold writeFile
  refine follows_bind.mpr ⟨.inl ⟨rfl, free⟩, ?_⟩
  rintro opened _ rfl
  cases opened with
  | none => rfl
  | some file =>
    refine follows_after (obeys_attempt _ _) fun owned => ?_
    split
    · rfl
    refine follows_after (obeys_copy_known file free _) fun copied => ?_
    split
    · rfl
    split
    · rfl
    · exact obeys_attempt _ _

theorem obeys_respond {mode : Mode} (own : mode.ticket? = some ticket) :
    Obeys limitMb request mode (ask (.respond ticket)) fun _ after => after = .idle :=
  ⟨own, fun _ _ moves => moves⟩

theorem obeys_checkedWrite (positive : 0 < limitMb) (path : Path) (declared : Int64)
    (sent : List Nat) (maxBytes : Int64) :
    Obeys limitMb request .idle (checkedWrite limitMb path declared sent maxBytes) fun _ after =>
      after = .idle := by
  unfold checkedWrite
  refine follows_bind.mpr ⟨rfl, ?_⟩
  rintro id _ rfl
  -- Only a check that has passed leads to the write, with the room it has granted.
  refine follows_bind.mpr ((obeys_checkQuota positive rfl).mono ?_)
  rintro passed after ⟨same, grant⟩
  split
  · rename_i accepted
    obtain ⟨used, rfl, known, passes⟩ := grant accepted
    refine follows_bind.mpr ?_
    refine (obeys_writeFile_measured path rfl known passes (sum_requestBody_le known sent)).mono ?_
    intro _ after same
    exact obeys_respond same
  · exact obeys_respond same

theorem obeys_packAll (file : Inode) (free : ticket.declared = none) (packed : List (List Nat)) :
    Obeys limitMb request (.known ticket) (packAll ticket file packed) fun _ after =>
      after = .known ticket := by
  induction packed with
  | nil => rfl
  | cons first rest ih =>
    refine follows_after (obeys_attempt _ _) fun added => ?_
    split
    · rfl
    refine follows_after (obeys_copy_known file free first) fun copied => ?_
    split
    · rfl
    · exact ih

theorem obeys_compress (dest : Path) (free : ticket.declared = none) (packed : List (List Nat))
    (directory : Nat) :
    Obeys limitMb request (.known ticket) (compress ticket dest packed directory) fun _ after =>
      after = .known ticket := by
  unfold compress
  refine follows_bind.mpr ⟨.inl ⟨rfl, free⟩, ?_⟩
  rintro opened _ rfl
  cases opened with
  | none => rfl
  | some file =>
    refine follows_after (obeys_attempt _ _) fun owned => ?_
    split
    · rfl
    refine follows_after (obeys_packAll file free packed) fun _ => ?_
    refine follows_bind.mpr ⟨.inl ⟨rfl, free⟩, ?_⟩
    rintro _ _ rfl
    rfl

theorem obeys_extractAll (dest : Path) (free : ticket.declared = none) (entries : List ZipEntry) :
    Obeys limitMb request (.known ticket) (extractAll ticket dest entries) fun _ after =>
      after = .known ticket := by
  -- No entry changes what the request knows, so the rest goes on as it began.
  induction entries with
  | nil => rfl
  | cons entry rest ih =>
    unfold extractAll
    split
    · exact ih
    split
    · refine follows_after (obeys_attempt _ _) fun clean => ?_
      split
      · rfl
      refine follows_after (obeys_attempt _ _) fun _ => ?_
      exact ih
    · refine follows_after (obeys_attempt _ _) fun made => ?_
      split
      · rfl
      split
      · rfl
      refine follows_after (obeys_writeFile_known _ free _ _) fun wrote => ?_
      split
      · rfl
      split
      · rfl
      refine follows_after (obeys_attempt _ _) fun _ => ?_
      split
      · rfl
      · exact ih

theorem obeys_handle (positive : 0 < limitMb) (request : Request) :
    Obeys limitMb request .idle (handle limitMb request) fun _ after => after = .idle := by
  cases request with
  | write path declared sent => exact obeys_checkedWrite positive path declared sent _
  | upload path declared sent tokenMaxBytes =>
    refine follows_after (obeys_attempt _ _) fun verified => ?_
    split
    · rfl
    · exact obeys_checkedWrite positive path declared sent _
  | compress dest packed directory =>
    refine follows_bind.mpr ⟨rfl, ?_⟩
    rintro id _ rfl
    refine follows_after (obeys_attempt _ _) fun read => ?_
    split
    · refine follows_after (obeys_compress dest rfl packed directory) fun _ => ?_
      exact obeys_respond rfl
    · exact obeys_respond rfl
  | decompress dest entries =>
    refine follows_bind.mpr ⟨rfl, ?_⟩
    rintro id _ rfl
    refine follows_after (obeys_attempt _ _) fun read => ?_
    refine follows_after (obeys_attempt _ _) fun opened => ?_
    split
    · split
      · split
        · exact obeys_respond rfl
        · refine follows_after (obeys_extractAll dest rfl entries) fun _ => ?_
          exact obeys_respond rfl
      · exact obeys_respond rfl
    · exact obeys_respond rfl

end Modes

section Limit

variable {limitMb : Int64} {s s' : State} {modes : Nat → Mode}

/--
A request that declares a length declares a true one, and writes only while no other request has
changed a file since it began to measure; an archive operation writes only what still fits.
-/
def fits (limitMb : Int64) (s : State) (_ : Request) (call : Call) (choice : Choice) : Bool :=
  match call with
  | .endWalk ticket =>
    match ticket.declared with
    | some declared => 0 ≤ declared && s.usage + declared.toInt ≤ Int64.maxValue.toInt
    | none => true
  | .openTrunc ticket _ => ticket.declared.isNone || s.undisturbed ticket.id
  | .append ticket _ bytes =>
    match ticket.declared with
    | some _ => s.undisturbed ticket.id
    | none => s.usage + choice.written bytes ≤ limitBytes limitMb
  | _ => true

/-- The limit holds, and each request that is undisturbed knows how much is left of it. -/
structure Within (limitMb : Int64) (s : State) (modes : Nat → Mode) : Prop where
  usage : s.usage ≤ limitBytes limitMb
  handed : ∀ thread ticket, (modes thread).ticket? = some ticket → ticket.id < s.next
  distinct : ∀ thread thread' ticket ticket', (modes thread).ticket? = some ticket →
    (modes thread').ticket? = some ticket' → ticket.id = ticket'.id → thread = thread'
  measured : ∀ thread ticket used, modes thread = .measured ticket used →
    s.undisturbed ticket.id → used = Int64.ofNat s.usage ∧
      ∀ declared ∈ ticket.declared, s.usage + declared.toInt ≤ Int64.maxValue.toInt
  granted : ∀ thread ticket room, modes thread = .granted ticket room →
    s.undisturbed ticket.id → s.usage + room ≤ limitBytes limitMb

variable {thread : Nat} {after : Mode} {request : Request} {choice : Choice}

/-- The request that made a call goes on in a mode that fits the state the call has left. -/
abbrev GoesOn (limitMb : Int64) (modes : Nat → Mode) (thread : Nat) (request : Request)
    (call : Call) (answer : call.Answer) (s' : State) : Prop :=
  ∃ after, (discipline limitMb).moves request (modes thread) call answer after ∧
    Within limitMb s' (Function.update modes thread after)

section Within

variable (within : Within limitMb s modes)
include within

/-- A call of one request keeps the limit when it leaves the undisturbed others as they are. -/
theorem Within.update (usage : s'.usage ≤ limitBytes limitMb)
    (next : s.next ≤ s'.next)
    (others : ∀ other ticket, other ≠ thread → (modes other).ticket? = some ticket →
      s'.undisturbed ticket.id → s.undisturbed ticket.id ∧ s'.usage = s.usage)
    (own : ∀ ticket, after.ticket? = some ticket → ticket.id < s'.next ∧
      ∀ other ticket', other ≠ thread → (modes other).ticket? = some ticket' →
        ticket'.id ≠ ticket.id)
    (measured : ∀ ticket used, after = .measured ticket used → s'.undisturbed ticket.id →
      used = Int64.ofNat s'.usage ∧
        ∀ declared ∈ ticket.declared, s'.usage + declared.toInt ≤ Int64.maxValue.toInt)
    (granted : ∀ ticket room, after = .granted ticket room → s'.undisturbed ticket.id →
      s'.usage + room ≤ limitBytes limitMb) :
    Within limitMb s' (Function.update modes thread after) := by
  -- Each clause is looked at for the request that made the call and for the others.
  have elsewhere {other : Nat} (differs : other ≠ thread) :
      Function.update modes thread after other = modes other := Function.update_of_ne differs ..
  refine ⟨usage, ?_, ?_, ?_, ?_⟩
  · intro other ticket held
    by_cases here : other = thread
    · subst here
      exact (own ticket (by simpa using held)).1
    · rw [elsewhere here] at held
      exact Nat.lt_of_lt_of_le (within.handed other ticket held) next
  · intro first second ticket ticket' held held' same
    by_cases here : first = thread <;> by_cases here' : second = thread
    · exact here.trans here'.symm
    · subst here
      rw [elsewhere here'] at held'
      exact absurd same.symm ((own ticket (by simpa using held)).2 second ticket' here' held')
    · subst here'
      rw [elsewhere here] at held
      exact absurd same ((own ticket' (by simpa using held')).2 first ticket here held)
    · rw [elsewhere here] at held
      rw [elsewhere here'] at held'
      exact within.distinct first second ticket ticket' held held' same
  · intro other ticket used mode quiet
    by_cases here : other = thread
    · subst here
      exact measured ticket used (by simpa using mode) quiet
    · rw [elsewhere here] at mode
      obtain ⟨before, same⟩ := others other ticket here (by rw [mode]; rfl) quiet
      rw [same]
      exact within.measured other ticket used mode before
  · intro other ticket room mode quiet
    by_cases here : other = thread
    · subst here
      exact granted ticket room (by simpa using mode) quiet
    · rw [elsewhere here] at mode
      obtain ⟨before, same⟩ := others other ticket here (by rw [mode]; rfl) quiet
      rw [same]
      exact within.granted other ticket room mode before

variable {ticket : Ticket}

theorem Within.own (held : (modes thread).ticket? = some ticket) :
    ticket.id < s.next ∧ ∀ other ticket', other ≠ thread →
      (modes other).ticket? = some ticket' → ticket'.id ≠ ticket.id :=
  ⟨within.handed thread ticket held, fun other ticket' differs held' same =>
    differs (within.distinct other thread ticket' ticket held' held same)⟩

theorem Within.change {files : Table Inode Nat} (held : (modes thread).ticket? = some ticket)
    (usage : (files.sum fun _ size => size) ≤ limitBytes limitMb)
    (kept : after.ticket? = some ticket) (past : ∀ used, after ≠ .measured ticket used)
    (granted : ∀ room, after = .granted ticket room → s.undisturbed ticket.id →
      (files.sum fun _ size => size) + room ≤ limitBytes limitMb) :
    Within limitMb (s.change ticket files) (Function.update modes thread after) := by
  -- The others are disturbed by the change, so nothing is claimed about them any more.
  have mine := within.own held
  refine within.update usage (Nat.le_refl _) ?_ ?_ ?_ ?_
  · intro other ticket' differs held' quiet
    simp only [State.change, Bool.and_eq_true, beq_iff_eq] at quiet
    exact absurd quiet.2 (mine.2 other ticket' differs held')
  · intro ticket' held'
    obtain rfl : ticket = ticket' := by simpa [kept] using held'
    exact mine
  · rintro ticket' used rfl
    obtain rfl : ticket' = ticket := by simpa [Mode.ticket?] using kept
    exact absurd rfl (past used)
  · rintro ticket' room rfl quiet
    obtain rfl : ticket' = ticket := by simpa [Mode.ticket?] using kept
    simp only [State.change, Bool.and_eq_true] at quiet
    exact granted room rfl quiet.1

theorem Within.move
    (own : ∀ ticket, after.ticket? = some ticket → (modes thread).ticket? = some ticket)
    (measured : ∀ ticket used, after = .measured ticket used → s.undisturbed ticket.id →
      used = Int64.ofNat s.usage ∧
        ∀ declared ∈ ticket.declared, s.usage + declared.toInt ≤ Int64.maxValue.toInt)
    (granted : ∀ ticket room, after = .granted ticket room → s.undisturbed ticket.id →
      s.usage + room ≤ limitBytes limitMb) :
    Within limitMb s (Function.update modes thread after) :=
  within.update within.usage (Nat.le_refl _) (fun _ _ _ _ quiet => ⟨quiet, rfl⟩)
    (fun ticket held => within.own (own ticket held)) measured granted

/-- A new ticket is one that nobody else can have. -/
theorem Within.arrive {declared : Option Int64} {answer : (Call.arrive declared).Answer}
    (answers : answer? thread (.arrive declared) choice s = some (answer, s')) :
    GoesOn limitMb modes thread request (.arrive declared) answer s' := by
  cases answers
  refine ⟨_, rfl, within.update within.usage (Nat.le_succ _) (fun _ _ _ _ quiet => ⟨quiet, rfl⟩)
    ?_ nofun nofun⟩
  intro ticket held
  obtain rfl := Option.some.inj held
  refine ⟨Nat.lt_succ_self _, fun other ticket' _ held' => ?_⟩
  exact Nat.ne_of_lt (within.handed other ticket' held')

/-- A walk that begins makes its own request undisturbed, and no other one. -/
theorem Within.beginWalk {answer : (Call.beginWalk ticket).Answer}
    (mode : modes thread = .known ticket)
    (answers : answer? thread (.beginWalk ticket) choice s = some (answer, s')) :
    GoesOn limitMb modes thread request (.beginWalk ticket) answer s' := by
  cases answers
  have mine : (modes thread).ticket? = some ticket := by rw [mode]; rfl
  refine ⟨_, rfl, within.update within.usage (Nat.le_refl _) ?_ ?_ nofun nofun⟩
  · intro other ticket' differs held quiet
    have apart := (within.own mine).2 other ticket' differs held
    exact ⟨by simpa [Function.update_of_ne apart] using quiet, rfl⟩
  · intro ticket' held
    obtain rfl := Option.some.inj held
    exact within.own mine

/-- Whatever a walk comes to, an undisturbed one has come to what the files take up. -/
theorem Within.endWalk {answer : (Call.endWalk ticket).Answer}
    (allowed : fits limitMb s request (.endWalk ticket) choice)
    (mode : modes thread = .walking ticket)
    (answers : answer? thread (.endWalk ticket) choice s = some (answer, s')) :
    GoesOn limitMb modes thread request (.endWalk ticket) answer s' := by
  have own : ∀ ticket', some ticket = some ticket' →
      (modes thread).ticket? = some ticket' := by
    rintro _ ⟨rfl⟩
    rw [mode]
    rfl
  have valid : ∀ declared ∈ ticket.declared, 0 ≤ declared ∧
      s.usage + declared.toInt ≤ Int64.maxValue.toInt := by
    intro declared known
    simpa [fits, Option.mem_def.mp known] using allowed
  have counted (used : Int64) (right : s.undisturbed ticket.id → used = Int64.ofNat s.usage) :
      Within limitMb s (Function.update modes thread (.measured ticket used)) := by
    refine within.move own ?_ nofun
    rintro _ _ ⟨⟩ quiet
    exact ⟨right quiet, fun declared known => (valid declared known).2⟩
  cases choice with
  | succeeds =>
    simp only [answer?] at answers
    split at answers
    · cases answers
      exact ⟨_, ⟨rfl, fun declared known => (valid declared known).1⟩, counted _ fun _ => rfl⟩
    · cases answers
  | sums total =>
    simp only [answer?] at answers
    split at answers
    · cases answers
    · rename_i disturbed
      cases answers
      exact ⟨_, ⟨rfl, fun declared known => (valid declared known).1⟩,
        counted _ fun quiet => absurd quiet disturbed⟩
  | fails | opens | writes =>
    cases answers
    exact ⟨_, rfl, within.move own nofun nofun⟩

/-- A check that passed leaves room for the declared length, and truncating only adds to it. -/
theorem Within.openTrunc {path : Path} {answer : (Call.openTrunc ticket path).Answer}
    (positive : 0 < limitMb)
    (permitted : (discipline limitMb).permits (modes thread) (.openTrunc ticket path))
    (answers : answer? thread (.openTrunc ticket path) choice s = some (answer, s')) :
    GoesOn limitMb modes thread request (.openTrunc ticket path) answer s' := by
  refine ⟨(modes thread).opened, rfl, ?_⟩
  have held : (modes thread).ticket? = some ticket := by
    rcases permitted with ⟨mode, -⟩ | ⟨_, _, mode, -⟩ <;> rw [mode] <;> rfl
  have kept : (modes thread).opened.ticket? = some ticket := by
    rcases permitted with ⟨mode, -⟩ | ⟨_, _, mode, -⟩ <;> rw [mode] <;> rfl
  have room : ∀ room, (modes thread).opened = .granted ticket room → s.undisturbed ticket.id →
      s.usage + room ≤ limitBytes limitMb := by
    rcases permitted with ⟨mode, -⟩ | ⟨used, declared, mode, own, known, passed⟩
    · rw [mode]
      nofun
    · rw [mode]
      rintro _ ⟨⟩ quiet
      obtain ⟨rfl, small⟩ := within.measured thread ticket used mode quiet
      rw [own, Option.getD_some]
      exact room_of_passed positive known (small declared own) passed
  have past : ∀ ticket' used, (modes thread).opened ≠ .measured ticket' used := by
    rcases permitted with ⟨mode, -⟩ | ⟨_, _, mode, -⟩ <;> rw [mode] <;> nofun
  cases choice with
  | opens file =>
    cases answers
    have smaller := sum_truncated_le s.files file
    refine within.change held (Nat.le_trans smaller within.usage) kept (past ticket) ?_
    intro room' mode quiet
    exact Nat.le_trans (Nat.add_le_add_right smaller room') (room room' mode quiet)
  | fails | succeeds | sums | writes =>
    cases answers
    refine within.move ?_ (fun ticket' used mode => absurd mode (past ticket' used)) ?_
    · intro ticket' held'
      rw [held, ← kept, held']
    · rintro ticket' room' mode quiet
      obtain rfl : ticket' = ticket := by simpa [mode, Mode.ticket?] using kept
      exact room room' mode quiet

/-- A checked write takes from its room; an archive operation is only held to what still fits. -/
theorem Within.append {file : Inode} {bytes : Nat}
    {answer : (Call.append ticket file bytes).Answer}
    (allowed : fits limitMb s request (.append ticket file bytes) choice)
    (permitted : (discipline limitMb).permits (modes thread) (.append ticket file bytes))
    (answers : answer? thread (.append ticket file bytes) choice s = some (answer, s')) :
    GoesOn limitMb modes thread request (.append ticket file bytes) answer s' := by
  cases answers
  refine ⟨(modes thread).appended bytes, rfl, ?_⟩
  have larger := sum_appended_le s.files file (choice.written bytes)
  rcases permitted with ⟨mode, free⟩ | ⟨room, mode, own, small⟩
  · have fit : s.usage + choice.written bytes ≤ limitBytes limitMb := by
      simpa [fits, free] using allowed
    rw [mode]
    exact within.change (by rw [mode]; rfl) (Nat.le_trans larger fit) rfl nofun nofun
  · have quiet : s.undisturbed ticket.id := by
      obtain ⟨declared, known⟩ := Option.ne_none_iff_exists'.mp own
      simpa [fits, known] using allowed
    have left := within.granted thread ticket room mode quiet
    have part := written_le choice bytes
    have total : s.files.sum (fun _ size => size) = s.usage := rfl
    rw [mode]
    refine within.change (by rw [mode]; rfl) (by omega) rfl nofun ?_
    rintro _ ⟨⟩ -
    omega

end Within

theorem quota_sustained (positive : 0 < limitMb) :
    Sustained answer? (fits limitMb) (discipline limitMb) (Within limitMb) := by
  intro s modes thread request call choice answer s' within allowed permitted answers
  cases call with
  | attempt work =>
    cases answers
    exact ⟨modes thread, rfl, by rwa [Function.update_eq_self]⟩
  | arrive => exact within.arrive answers
  | respond ticket =>
    cases answers
    exact ⟨_, rfl, within.move nofun nofun nofun⟩
  | beginWalk => exact within.beginWalk permitted answers
  | endWalk => exact within.endWalk allowed permitted answers
  | openTrunc => exact within.openTrunc positive permitted answers
  | append => exact within.append allowed permitted answers

end Limit

/--
The files of a server stay within its disk limit in every run of file requests, in any
interleaving, whose calls all meet the condition.
-/
theorem files_stay_within_limit (limitMb : Int64) (positive : 0 < limitMb)
    (files : Table Inode Nat)
    (initially : (idleServer files).shared.usage ≤ limitBytes limitMb) (turns : List Turn)
    (fitting : Guarded (step limitMb)
      (fun requests turn => requests.allows (fits limitMb) turn = true) (idleServer files) turns) :
    (run (step limitMb) (idleServer files) turns).shared.usage ≤ limitBytes limitMb := by
  have moded : (idleServer files).Moded (discipline limitMb) .idle (Within limitMb) :=
    .of_idle ⟨initially, nofun, nofun, nofun, nofun⟩
  obtain ⟨modes, within, -⟩ := moded.run (fun request => obeys_handle positive request)
    (quota_sustained positive) fitting
  exact within.usage

section Samples

/-- A file that leaves six bytes of a limit of one mebibyte. -/
def sampleFiles : Table Inode Nat := Table.empty.upsert 1 1048570 id

def sampleCheck (thread : Nat) : List Turn :=
  [.turn thread .succeeds, .turn thread .succeeds, .turn thread .succeeds]

def sampleWrite (thread : Nat) (file : Inode) : List Turn :=
  [.turn thread (.opens file), .turn thread .succeeds, .turn thread .succeeds,
    .turn thread .succeeds, .turn thread .succeeds]

theorem sample_files_stay_within_limit : (run (step 1) (idleServer sampleFiles)
      ([.start (.write [] 4 [4]), .start (.upload [] 4 [4] 0), .turn 1 .succeeds] ++
        sampleCheck 0 ++ sampleWrite 0 2 ++ sampleCheck 1 ++ [.turn 1 .succeeds])).shared.usage ≤
      limitBytes 1 :=
  files_stay_within_limit 1 (by decide) sampleFiles (by decide) _ (by decide +kernel)

/--
A body of unknown length passes any check, an archive is not checked at all, and two writes that
were both measured before either began share the same room.
-/
theorem files_exceed_limit : (run (step 1) (idleServer sampleFiles)
      ([.start (.write [] (-1) [7])] ++ sampleCheck 0 ++ sampleWrite 0 2)).shared.usage =
        limitBytes 1 + 1 ∧
    (run (step 1) (idleServer sampleFiles)
      ([.start (.decompress [] [⟨[], false, false, 0, 7, 7, some [0, 0, 0, 0, 0, 0, 0]⟩])] ++
        [.turn 0 .succeeds, .turn 0 .succeeds, .turn 0 .succeeds, .turn 0 .succeeds] ++
        sampleWrite 0 2)).shared.usage = limitBytes 1 + 1 ∧
    (run (step 1) (idleServer sampleFiles)
      ([.start (.write [] 4 [4]), .start (.write [] 4 [4])] ++ sampleCheck 0 ++ sampleCheck 1 ++
        sampleWrite 0 2 ++ sampleWrite 1 3)).shared.usage = limitBytes 1 + 2 := by
  decide +kernel

end Samples

end PxHost.Quota
