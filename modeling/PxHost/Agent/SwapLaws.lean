import PxHost.Agent.Swap

/-! What is left of a server's data when the agent stops in the middle of a swap. -/

namespace PxHost.Swap

open Interrupted Machine Store

section Frame

variable {folders : Folders} {choice : Choice} {dir other : Dir}

/-- The directories a call can change. -/
def Call.touches : Call → List Dir
  | .rename source target => [source, target]
  | .removeAll dir | .mkdirAll dir | .fill dir _ => [dir]
  | _ => []

theorem renamed_eq_some {source target : Dir} {moved : Folders}
    (renames : renamed folders source target = some moved) :
    ∃ folder, folders.get? source = some folder ∧ ∀ dir, moved.get? dir =
      if dir = target then some folder else if dir = source then none else folders.get? dir := by
  -- The name was free, so the insertion went through.
  unfold renamed at renames
  split at renames
  · rename_i folder stored
    refine ⟨folder, stored, fun dir => ?_⟩
    rw [Table.get?_insert? renames, Table.get?_erase]
  · cases renames

theorem answer_frame (folders : Folders) (choice : Choice) {call : Call}
    (apart : other ∉ call.touches) :
    (answer call choice folders).2.get? other = folders.get? other := by
  cases call with
  | rename source target =>
    -- A rename concerns two directories, every other call at most one.
    simp only [Call.touches, List.mem_cons, List.not_mem_nil, or_false, not_or] at apart
    cases choice with
    | succeeds time =>
      simp only [answer]
      cases renames : renamed folders source target with
      | none => rfl
      | some moved =>
        obtain ⟨_, _, after⟩ := renamed_eq_some renames
        rw [after, if_neg apart.2, if_neg apart.1]
    | fails | halfway | lists => rfl
  | removeAll dir | mkdirAll dir | fill dir tree =>
    simp only [Call.touches, List.mem_singleton] at apart
    cases choice <;> simp [answer, apart]
  | readDir | stat | modTime | now | listManaged | attempt => cases choice <;> rfl

theorem answer_idle {call : Call} (idle : call.touches = []) :
    (answer call choice folders).2 = folders := by
  cases call with
  | rename | removeAll | mkdirAll | fill => cases idle
  | readDir | stat | modTime | now | listManaged | attempt => cases choice <;> rfl

end Frame

section Phases

variable {kind : Kind} {uuid : Uuid} {pre post : Tree} {folders : Folders}

def Holds (folders : Folders) (dir : Dir) (tree : Tree) : Prop :=
  ∃ folder, folders.get? dir = some folder ∧ folder.tree = tree

instance (folders : Folders) (dir : Dir) (tree : Tree) : Decidable (Holds folders dir tree) :=
  decidable_of_iff ((folders.get? dir).any (·.tree = tree)) (by simp [Holds, Option.any_eq_true])

/-- The old tree or the new one is there, under the live name or the one for the old directory. -/
def Survives (kind : Kind) (uuid : Uuid) (pre post : Tree) (folders : Folders) : Prop :=
  ∃ dir ∈ [dataDir uuid, ⟨uuid, kind.old⟩], Holds folders dir pre ∨ Holds folders dir post

instance (kind : Kind) (uuid : Uuid) (pre post : Tree) (folders : Folders) :
    Decidable (Survives kind uuid pre post folders) :=
  inferInstanceAs (Decidable (∃ dir ∈ [dataDir uuid, ⟨uuid, kind.old⟩], _))

/-- Outside the two renames the live directory is whole; between them the old one stands in. -/
def Phase (kind : Kind) (uuid : Uuid) (pre post : Tree) (folders : Folders) : Prop :=
  (Holds folders (dataDir uuid) pre ∨ Holds folders (dataDir uuid) post) ∨
    folders.get? (dataDir uuid) = none ∧ Holds folders ⟨uuid, kind.old⟩ pre

theorem Phase.survives (phase : Phase kind uuid pre post folders) :
    Survives kind uuid pre post folders := by
  rcases phase with whole | ⟨-, aside⟩
  · exact ⟨dataDir uuid, by simp, whole⟩
  · exact ⟨⟨uuid, kind.old⟩, by simp, .inl aside⟩

theorem Holds.congr {after : Folders} {dir : Dir} {tree : Tree} (holds : Holds folders dir tree)
    (same : after.get? dir = folders.get? dir) : Holds after dir tree := by
  obtain ⟨folder, stored, held⟩ := holds
  exact ⟨folder, same.trans stored, held⟩

/-- Renaming is atomic: the tree is under its new name only, or nothing has changed. -/
theorem answer_rename {source : Dir} {tree : Tree} (holds : Holds folders source tree)
    (choice : Choice) (target : Dir) :
    ((answer (.rename source target) choice folders).1 = true ∧
      Holds (answer (.rename source target) choice folders).2 target tree ∧
      ∀ dir, dir ≠ target → (answer (.rename source target) choice folders).2.get? dir =
        if dir = source then none else folders.get? dir) ∨
    ((answer (.rename source target) choice folders).1 = false ∧
      (answer (.rename source target) choice folders).2 = folders) := by
  -- No choice of the environment stops it halfway.
  cases choice with
  | succeeds time =>
    simp only [answer]
    cases renames : renamed folders source target with
    | none => exact .inr ⟨rfl, rfl⟩
    | some moved =>
      obtain ⟨folder, stored, after⟩ := renamed_eq_some renames
      obtain ⟨_, stored', held⟩ := holds
      obtain rfl := Option.mem_unique stored stored'
      exact .inl ⟨rfl, ⟨folder, (after _).trans (if_pos rfl), held⟩,
        fun dir other => (after dir).trans (if_neg other)⟩
  | fails | halfway | lists => exact .inr ⟨rfl, rfl⟩

/-- Only where the old directory stands in does it matter whether that one stays. -/
theorem Phase.congr {after : Folders} (phase : Phase kind uuid pre post folders)
    (live : after.get? (dataDir uuid) = folders.get? (dataDir uuid))
    (old : folders.get? (dataDir uuid) = none →
      after.get? ⟨uuid, kind.old⟩ = folders.get? ⟨uuid, kind.old⟩) :
    Phase kind uuid pre post after := by
  rcases phase with (whole | whole) | ⟨missing, aside⟩
  · exact .inl (.inl (whole.congr live))
  · exact .inl (.inr (whole.congr live))
  · exact .inr ⟨live.trans missing, aside.congr (old missing)⟩

theorem live_ne_staging : dataDir uuid ≠ ⟨uuid, kind.staging⟩ := by
  cases kind <;> simp [dataDir, Kind.staging]

theorem live_ne_old : dataDir uuid ≠ ⟨uuid, kind.old⟩ := by
  cases kind <;> simp [dataDir, Kind.old]

theorem staging_ne_old : (⟨uuid, kind.staging⟩ : Dir) ≠ ⟨uuid, kind.old⟩ := by
  cases kind <;> simp [Kind.staging, Kind.old]

end Phases

section Programs

variable {kind : Kind} {uuid : Uuid} {pre post : Tree} {folders : Folders}

/-- No data directory is made for a server whose old directory is waiting for it. -/
def sparesInterrupted (folders : Folders) (call : Call) (_ : Choice) : Bool :=
  match call with
  | .mkdirAll ⟨uuid, .data⟩ => (folders.get? (dataDir uuid)).isSome ||
      (folders.get? ⟨uuid, .restoreOld⟩).isNone && (folders.get? ⟨uuid, .modpackOld⟩).isNone
  | _ => true

/-- The program is in one of the phases wherever it is stopped, and ends as wanted. -/
abbrev Guards {α : Type} (kind : Kind) (uuid : Uuid) (pre post : Tree) (program : Routine α)
    (folders : Folders) (ends : α → Folders → Prop) : Prop :=
  Keeps answer sparesInterrupted (Phase kind uuid pre post) program folders ends

theorem guards_apart {call : Call} (whole : Holds folders (dataDir uuid) pre)
    (apart : dataDir uuid ∉ call.touches) :
    Guards kind uuid pre post (ask call) folders fun _ after =>
      Holds after (dataDir uuid) pre := by
  refine keeps_perform (.inl (.inl whole)) fun choice _ => ?_
  have still := whole.congr (answer_frame folders choice apart)
  exact ⟨.inl (.inl still), still⟩

/-- A call that leaves the live directory alone stays in the phase, unless it touches the old
    directory while that one stands in. -/
theorem guards_elsewhere {call : Call} (phase : Phase kind uuid pre post folders)
    (live : dataDir uuid ∉ call.touches)
    (old : ⟨uuid, kind.old⟩ ∈ call.touches → (folders.get? (dataDir uuid)).isSome) :
    Guards kind uuid pre post (ask call) folders fun _ _ => True := by
  refine keeps_perform phase fun choice _ => ⟨?_, trivial⟩
  refine phase.congr (answer_frame folders choice live) fun missing => ?_
  refine answer_frame folders choice fun touched => ?_
  simpa [missing] using old touched

theorem guards_idle {call : Call} (phase : Phase kind uuid pre post folders)
    (idle : call.touches = []) :
    Guards kind uuid pre post (ask call) folders fun _ after => after = folders := by
  refine keeps_perform phase fun choice _ => ?_
  rw [answer_idle idle]
  exact ⟨phase, rfl⟩

/-- Giving up where a part has failed leaves the phase as it is. -/
theorem guards_unless {α : Type} {program : Routine Bool} {gaveUp : α} {rest : Routine α}
    {ends : Bool → Folders → Prop} (first : Guards kind uuid pre post program folders ends)
    (goes : ∀ after, Phase kind uuid pre post after → ends true after →
      Guards kind uuid pre post rest after fun _ _ => True) :
    Guards kind uuid pre post (program >>= fun ok => if !ok then pure gaveUp else rest) folders
      fun _ _ => True := by
  refine first.bind fun succeeded after phase ends => ?_
  cases succeeded with
  | false => exact ⟨phase, trivial⟩
  | true => exact goes after phase ends

/-- The first rename: the old tree is aside, or nothing has happened. -/
theorem guards_setAside (whole : Holds folders (dataDir uuid) pre)
    (staged : Holds folders ⟨uuid, kind.staging⟩ post) :
    Guards kind uuid pre post (rename (dataDir uuid) ⟨uuid, kind.old⟩) folders fun moved after =>
      moved → after.get? (dataDir uuid) = none ∧ Holds after ⟨uuid, kind.old⟩ pre ∧
        Holds after ⟨uuid, kind.staging⟩ post := by
  refine keeps_perform (.inl (.inl whole)) fun choice _ => ?_
  rcases answer_rename whole choice ⟨uuid, kind.old⟩ with ⟨-, aside, after⟩ | ⟨failed, same⟩
  -- The tree the live directory held is now under the old name, and the staged one is untouched.
  · have missing := (after _ live_ne_old).trans (if_pos rfl)
    refine ⟨.inr ⟨missing, aside⟩, fun _ => ⟨missing, aside, staged.congr ?_⟩⟩
    rw [after _ staging_ne_old, if_neg live_ne_staging.symm]
  · rw [failed, same]
    exact ⟨.inl (.inl whole), nofun⟩

/-- The second rename: the new tree is live, or nothing has happened. -/
theorem guards_moveIn (missing : folders.get? (dataDir uuid) = none)
    (aside : Holds folders ⟨uuid, kind.old⟩ pre)
    (staged : Holds folders ⟨uuid, kind.staging⟩ post) :
    Guards kind uuid pre post (rename ⟨uuid, kind.staging⟩ (dataDir uuid)) folders fun moved after =>
      if moved then Holds after (dataDir uuid) post
      else after.get? (dataDir uuid) = none ∧ Holds after ⟨uuid, kind.old⟩ pre := by
  refine keeps_perform (.inr ⟨missing, aside⟩) fun choice _ => ?_
  rcases answer_rename staged choice (dataDir uuid) with ⟨moved, live, -⟩ | ⟨failed, same⟩
  -- The staged tree is live from here on; a failure leaves the old directory standing in.
  · rw [moved]
    exact ⟨.inl (.inr live), live⟩
  · rw [failed, same]
    exact ⟨.inr ⟨missing, aside⟩, missing, aside⟩

theorem guards_moveBack (missing : folders.get? (dataDir uuid) = none)
    (aside : Holds folders ⟨uuid, kind.old⟩ pre) :
    Guards kind uuid pre post (rename ⟨uuid, kind.old⟩ (dataDir uuid)) folders
      fun _ _ => True := by
  refine keeps_perform (.inr ⟨missing, aside⟩) fun choice _ => ⟨?_, trivial⟩
  rcases answer_rename aside choice (dataDir uuid) with ⟨-, live, -⟩ | ⟨-, same⟩
  · exact .inl (.inl live)
  · rw [same]
    exact .inr ⟨missing, aside⟩

theorem guards_activate (whole : Holds folders (dataDir uuid) pre)
    (staged : Holds folders ⟨uuid, kind.staging⟩ post) :
    Guards kind uuid pre post (activate kind uuid) folders fun _ _ => True := by
  -- Phase by phase: whole, aside, whole again with the new tree.
  unfold activate
  refine guards_unless (guards_idle (.inl (.inl whole)) rfl) ?_
  rintro _ - rfl
  refine guards_unless (guards_setAside whole staged) fun _ _ moved => ?_
  obtain ⟨missing, aside, staged⟩ := moved rfl
  refine (guards_moveIn missing aside staged).bind fun moved _ phase ends => ?_
  split
  · rename_i failed
    rw [if_neg (by simpa using failed)] at ends
    exact (guards_moveBack ends.1 ends.2).bind fun _ _ phase _ => ⟨phase, trivial⟩
  rename_i moved'
  rw [if_pos (by simpa using moved')] at ends
  refine guards_unless (guards_idle phase rfl) ?_
  rintro after phase rfl
  -- The new tree is live, so the old directory may go.
  refine (keeps_perform phase fun choice _ => ?_ :
    Guards kind uuid pre post (removeAll ⟨uuid, kind.old⟩) after fun _ _ => True).bind
    fun _ _ phase _ => ⟨phase, trivial⟩
  have apart : dataDir uuid ∉ (Call.removeAll ⟨uuid, kind.old⟩).touches := by
    simpa [Call.touches] using live_ne_old
  have still := ends.congr (answer_frame after choice apart)
  exact ⟨.inl (.inr still), trivial⟩

section Whole

variable (whole : Holds folders (dataDir uuid) pre)
include whole

theorem guards_removeAll {dir : Dir} (apart : dataDir uuid ≠ dir) :
    Guards kind uuid pre post (removeAll dir) folders fun _ after =>
      Holds after (dataDir uuid) pre :=
  guards_apart whole (by simpa [Call.touches] using apart)

theorem guards_removeLeftovers {kind' : Kind} :
    Guards kind uuid pre post (removeLeftovers kind' uuid) folders fun _ after =>
      Holds after (dataDir uuid) pre :=
  (guards_removeAll whole live_ne_staging).bind fun _ _ _ whole =>
    (guards_removeAll whole live_ne_old).bind fun _ _ phase whole => ⟨phase, whole⟩

theorem guards_fill :
    Guards kind uuid pre post (fill ⟨uuid, kind.staging⟩ post) folders fun filled after =>
      Holds after (dataDir uuid) pre ∧ (filled → Holds after ⟨uuid, kind.staging⟩ post) := by
  refine keeps_perform (.inl (.inl whole)) fun choice _ => ?_
  -- Even half a filling happens beside the live directory.
  have apart : dataDir uuid ∉ (Call.fill ⟨uuid, kind.staging⟩ post).touches := by
    simpa [Call.touches] using live_ne_staging
  have still := whole.congr (answer_frame folders choice apart)
  refine ⟨.inl (.inl still), still, fun filled => ?_⟩
  cases choice with
  | succeeds time =>
    simp only [answer] at filled ⊢
    obtain ⟨folder, stored⟩ := Option.isSome_iff_exists.mp filled
    exact ⟨⟨post, time⟩, by simp [stored], rfl⟩
  | fails | halfway | lists => cases filled

theorem guards_restore :
    Guards .restore uuid pre post (restore uuid post) folders fun _ _ => True := by
  -- Giving up removes the staging directory and nothing else.
  have giveUp : ∀ after, Holds after (dataDir uuid) pre →
      Guards .restore uuid pre post (do
        let _ ← removeAll ⟨uuid, .restoreStaging⟩
        return) after fun _ _ => True := fun after whole =>
    (guards_removeAll whole (by simp [dataDir])).bind fun _ _ phase _ => ⟨phase, trivial⟩
  unfold restore
  refine guards_unless (guards_idle (.inl (.inl whole)) rfl) ?_
  rintro _ - rfl
  refine (guards_removeLeftovers whole).bind fun _ _ _ whole => ?_
  refine guards_unless (guards_apart whole (by simp [Call.touches, dataDir])) fun _ phase whole => ?_
  refine (guards_idle phase rfl).bind fun owned _ phase same => ?_
  subst same
  split
  · exact giveUp _ whole
  refine (guards_idle phase rfl).bind fun opened _ phase same => ?_
  subst same
  split
  · exact giveUp _ whole
  refine (guards_fill whole).bind fun filled _ phase ends => ?_
  split
  · exact giveUp _ ends.1
  rename_i filled'
  exact guards_activate ends.1 (ends.2 (by simpa using filled'))

theorem guards_installModpack :
    Guards .modpack uuid pre post (installModpack uuid post) folders fun _ _ => True := by
  -- Unlike a restore, giving up leaves the staging directory where it is.
  unfold installModpack
  refine guards_unless (guards_idle (.inl (.inl whole)) rfl) ?_
  rintro _ - rfl
  refine (guards_removeLeftovers whole).bind fun _ _ phase whole => ?_
  refine guards_unless (guards_idle phase rfl) ?_
  rintro _ - rfl
  refine guards_unless (guards_apart whole (by simp [Call.touches, dataDir])) fun _ _ whole => ?_
  refine guards_unless (guards_fill whole) fun _ _ ends => ?_
  exact guards_activate ends.1 (ends.2 rfl)

end Whole

end Programs

section Starting

variable {kind : Kind} {uuid : Uuid} {pre post : Tree} {folders : Folders}

/-- The sweep removes an old directory only next to a live one. -/
theorem guards_sweepEntry (time : Int) (dir : Dir) (phase : Phase kind uuid pre post folders) :
    Guards kind uuid pre post (sweepEntry time dir) folders fun _ _ => True := by
  unfold sweepEntry
  split
  · exact ⟨phase, trivial⟩
  -- An old directory is not the live one, and it goes only if the live one was seen.
  rename_i old
  have live : dataDir uuid ≠ dir := by
    rintro rfl
    simp [dataDir, Role.isOld] at old
  refine (keeps_perform phase fun choice _ => ?_ : Guards kind uuid pre post
    (ask (.stat (dataDir dir.uuid))) folders fun found after =>
      after = folders ∧ (found → (folders.get? (dataDir dir.uuid)).isSome)).bind
    fun found _ phase ends => ?_
  · rw [answer_idle rfl]
    refine ⟨phase, rfl, fun found => ?_⟩
    cases choice <;> first | exact found | cases found
  obtain ⟨rfl, seen⟩ := ends
  split
  · exact ⟨phase, trivial⟩
  rename_i found'
  refine (guards_idle phase rfl).bind fun read _ phase same => ?_
  subst same
  split
  · exact ⟨phase, trivial⟩
  split
  · exact ⟨phase, trivial⟩
  refine (guards_elsewhere phase (by simpa [Call.touches] using live) ?_).bind
    fun _ _ phase _ => ⟨phase, trivial⟩
  intro touched
  obtain rfl := List.mem_singleton.mp touched
  exact seen (by simpa using found')

theorem guards_sweepStaleOldDirs (phase : Phase kind uuid pre post folders) :
    Guards kind uuid pre post sweepStaleOldDirs folders fun _ _ => True := by
  unfold sweepStaleOldDirs
  -- The entries are judged one by one, each in the state the ones before it left.
  refine (guards_idle phase rfl).bind fun listed _ phase _ => ?_
  cases listed with
  | none => exact ⟨phase, trivial⟩
  | some entries =>
    refine (guards_idle phase rfl).bind fun time _ phase _ => ?_
    exact keeps_forM (fun dir _ _ phase => guards_sweepEntry time dir phase) phase

/-- Under the condition a registration makes no directory where the live one is missing. -/
theorem guards_register (registered : List Uuid) (other : Uuid)
    (phase : Phase kind uuid pre post folders) :
    Guards kind uuid pre post (register registered other) folders fun _ _ => True := by
  unfold register
  split
  · exact ⟨phase, trivial⟩
  refine guards_unless (?_ : Guards kind uuid pre post (mkdirAll (dataDir other)) folders
    fun _ _ => True) fun _ phase _ => ?_
  -- Only the registration of this very server could make its live directory.
  · by_cases same : other = uuid
    · subst same
      refine keeps_perform phase fun choice permitted => ⟨?_, trivial⟩
      have exists' : (folders.get? (dataDir other)).isSome := by
        rcases phase with (⟨_, stored, _⟩ | ⟨_, stored, _⟩) | ⟨missing, folder, stored, -⟩
        · simp [stored]
        · simp [stored]
        · -- The old directory waits, so the call is not one of those that are allowed.
          cases kind <;>
            simp [sparesInterrupted, dataDir, Kind.old] at permitted missing stored <;>
            simp [missing, stored] at permitted
      have kept : ∀ dir, (answer (.mkdirAll (dataDir other)) choice folders).2.get? dir =
          folders.get? dir := by
        intro dir
        obtain ⟨folder, stored⟩ := Option.isSome_iff_exists.mp exists'
        by_cases here : dir = dataDir other
        · subst here
          cases choice <;> simp [answer, stored]
        · exact answer_frame _ _ (by simpa [Call.touches] using here)
      exact phase.congr (kept _) fun _ => kept _
    · refine guards_elsewhere phase ?_ ?_
      · simpa [Call.touches, dataDir] using Ne.symm same
      · cases kind <;> simp [Call.touches, dataDir, Kind.old]
  refine (guards_idle phase rfl).bind fun _ _ phase _ => ?_
  exact (guards_idle phase rfl).mono fun _ _ _ _ => trivial

theorem guards_reconcileManagedContainers (uuids : List Uuid) (registered : List Uuid)
    (phase : Phase kind uuid pre post folders) :
    Guards kind uuid pre post (reconcileManagedContainers registered uuids) folders
      fun _ _ => True := by
  -- Every container is taken over in whatever phase the ones before it have left.
  induction uuids generalizing registered folders with
  | nil => exact ⟨phase, trivial⟩
  | cons other rest ih =>
    unfold reconcileManagedContainers
    refine guards_unless (guards_idle phase rfl) fun _ phase _ => ?_
    refine guards_unless (guards_register registered other phase) fun _ phase _ => ?_
    refine guards_unless (guards_idle phase rfl) fun _ phase _ => ?_
    exact ih (other :: registered) phase

theorem guards_loadAndAdopt (uuids : List Uuid) (registered : List Uuid)
    (phase : Phase kind uuid pre post folders) :
    Guards kind uuid pre post (loadAndAdopt registered uuids) folders fun _ _ => True := by
  induction uuids generalizing registered folders with
  | nil => exact ⟨phase, trivial⟩
  | cons other rest ih =>
    unfold loadAndAdopt
    refine guards_unless (guards_register registered other phase) fun _ phase _ => ?_
    refine guards_unless (guards_idle phase rfl) fun _ phase _ => ?_
    exact ih (other :: registered) phase

theorem guards_serve (configured : List Uuid) (phase : Phase kind uuid pre post folders) :
    Guards kind uuid pre post (serve configured) folders fun _ _ => True := by
  unfold serve
  refine (guards_sweepStaleOldDirs phase).bind fun _ _ phase _ => ?_
  refine (guards_idle phase rfl).bind fun listed _ phase _ => ?_
  cases listed with
  | none => exact ⟨phase, trivial⟩
  | some uuids =>
    refine (guards_reconcileManagedContainers uuids [] phase).bind fun adopted _ phase _ => ?_
    cases adopted with
    | none => exact ⟨phase, trivial⟩
    | some registered => exact guards_loadAndAdopt configured registered phase

end Starting

/--
Wherever the agent stops in a swap, and however often it starts and stops again, the old tree or the
new one is whole under the live name or the old one, in every run in which no server is registered
while its live directory is missing and an old one is there.
-/
theorem swapped_data_survives (kind : Kind) (uuid : Uuid) (folders : Folders) (live : Folder)
    (post : Tree) (stored : folders.get? (dataDir uuid) = some live) (events : List Event)
    (spared : Guarded step (fun agent event => agent.allows sparesInterrupted event = true)
      ⟨folders, swap kind uuid post⟩ events) :
    Survives kind uuid live.tree post
      (run step ⟨folders, swap kind uuid post⟩ events).state := by
  -- The swap keeps to the phases wherever it stops, and so does every start after it.
  have whole : Holds folders (dataDir uuid) live.tree := ⟨live, stored, rfl⟩
  refine Phase.survives (Process.invariant (fun configured _ phase => guards_serve configured phase)
    ?_ spared)
  cases kind with
  | restore => exact guards_restore whole
  | modpack => exact guards_installModpack whole

section Samples

def sampleFolders : Folders := Table.empty.upsert (dataDir 1) ⟨[("world", "old")], 0⟩ id

/-- A restore up to a point between its two renames, and then a new start of the agent. -/
def sampleStop : List Event :=
  [.call (.succeeds 0), .call (.succeeds 0), .call (.succeeds 0), .call (.succeeds 0),
    .call (.succeeds 0), .call (.succeeds 0), .call (.succeeds 0), .call (.succeeds 0),
    .call (.succeeds 0), .restart []]

theorem sample_swapped_data_survives : Survives .restore 1 [("world", "old")] [("world", "new")]
      (run step ⟨sampleFolders, swap .restore 1 [("world", "new")]⟩
        (sampleStop ++ [.call (.succeeds 1000), .call (.succeeds 1000)])).state :=
  swapped_data_survives .restore 1 sampleFolders ⟨[("world", "old")], 0⟩ [("world", "new")]
    (by decide) _ (by decide)

/-- The agent starts, finds nothing to sweep, and takes over the container of the server. -/
def sampleAdoption : List Event :=
  [.call (.succeeds 1000), .call (.succeeds 1000), .call (.succeeds 1000), .call (.lists [1]),
    .call (.succeeds 1000), .call (.succeeds 1000), .call (.succeeds 1000), .call (.succeeds 1000),
    .call (.succeeds 1000), .restart []]

/-- The next start finds an empty live directory next to the old one, and sweeps the old one. -/
theorem interrupted_swap_is_swept :
    let stopped := run step ⟨sampleFolders, swap .restore 1 [("world", "new")]⟩ sampleStop
    let swept := run step stopped (sampleAdoption ++
      [.call (.succeeds 2000), .call (.succeeds 2000), .call (.succeeds 2000),
        .call (.succeeds 2000), .call (.succeeds 2000)])
    Survives .restore 1 [("world", "old")] [("world", "new")] stopped.state ∧
      ¬Survives .restore 1 [("world", "old")] [("world", "new")] swept.state ∧
      swept.state.get? (dataDir 1) = some ⟨[], 1000⟩ ∧
      swept.state.get? ⟨1, .restoreOld⟩ = none := by
  decide

end Samples

end PxHost.Swap
