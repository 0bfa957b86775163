import PxHost.Agent.Confinement

/-! What unpacking an archive changes in a jail without symbolic links. -/

namespace PxHost.Agent

open PathResolution Traced FileSystem

variable {jail dest : Place} {fs s : Fs}

theorem component_plain {path : Path} (plain : ∀ c ∈ path, Plain c) :
    path.map component = path.map .entry := by
  refine List.map_congr_left fun c member => ?_
  obtain ⟨named, other, inner⟩ := plain c member
  simp [component, named, other, inner]

variable {clean : Path}

/-- In a jail without links a sanitized path leads where its names say. -/
theorem reached_landing {path : Path} {reached : Reached Name}
    (sanitized : sanitize path = .ok clean) (solid : LinkFree jail s)
    (resolved : resolvePath s (some jail) jail clean = .ok reached) :
    reached.location = jail ++ landing path := by
  obtain ⟨-, walks⟩ := resolvePath_beneath resolved
  -- The path of the jail itself is a single dot; any other is a list of plain names.
  rcases sanitize_ok sanitized with ⟨rfl, top⟩ | ⟨same, -, plain⟩
  · cases walks with
    | here _ onwards =>
      cases onwards
      rw [top, List.append_nil, Reached.location]
  · rw [component_plain plain, same] at walks
    exact walks.straight solid

theorem parent_landing {path : Path} {parent : Place} {name : Name}
    (sanitized : sanitize path = .ok clean) (solid : LinkFree jail s)
    (resolved : resolveParent s jail clean = .ok (parent, name)) :
    parent ++ [name] = jail ++ landing path := by
  rcases sanitize_ok sanitized with ⟨rfl, -⟩ | ⟨rfl, nonempty, plain⟩
  · simp [resolveParent, component] at resolved
  have front : ∀ c ∈ (landing path).dropLast, Plain c :=
    fun c member => plain c ((List.dropLast_sublist _).subset member)
  have last : name = (landing path).getLast nonempty := by
    obtain ⟨named, other, inner⟩ := plain _ (List.getLast_mem nonempty)
    simp only [resolveParent, List.getLast?_eq_some_getLast nonempty, Option.map_some, component,
      named, other, inner, or_self, if_false] at resolved
    split at resolved
    · cases resolved
    · cases resolved
    · split at resolved
      · cases resolved
        rfl
      · cases resolved
  -- The names before the last one are walked, and the last one is left for the call to use.
  have walks := (resolveParent_ok (isRooted_plain plain) resolved).2
  rw [component_plain front] at walks
  have above : parent = jail ++ (landing path).dropLast := walks.straight solid
  rw [above, last, List.append_assoc, List.dropLast_append_getLast]

/-- What unpacking may touch: the destination, what lies beneath it, and ancestors it lacks. -/
def Allowed (fs : Fs) (dest place : Place) : Prop :=
  dest <+: place ∨ place <+: dest ∧ fs.find? place = none

instance (fs : Fs) (dest place : Place) : Decidable (Allowed fs dest place) :=
  inferInstanceAs (Decidable (_ ∨ _))

/-- The jail has got no links, and is the same as before wherever nothing may be touched. -/
structure Spared (jail dest : Place) (fs s : Fs) : Prop where
  linkFree : LinkFree jail s
  same : ∀ place, ¬Allowed fs dest place → s.find? place = fs.find? place

namespace Spared

variable {place : Place}

theorem update (spared : Spared jail dest fs s) (allowed : Allowed fs dest place)
    (f : Attributes → Attributes) : Spared jail dest fs (s.update place f) where
  linkFree location target below := by
    rw [kind?_update]
    exact spared.linkFree location target below
  same other outside := by
    have apart : other ≠ place := fun same => outside (same ▸ allowed)
    rw [find?_update_ne apart]
    exact spared.same other outside

theorem insert (spared : Spared jail dest fs s) (allowed : Allowed fs dest place)
    {object : Object Name Attributes} (solid : ∀ target, object.kind ≠ .link target) :
    Spared jail dest fs (s.insert place object) where
  linkFree location target below := by
    have before := spared.linkFree location target below
    rw [kind?, find?_insert]
    -- What was there hides what is added behind it.
    cases found : s.find? location with
    | some other => simpa [kind?, found] using before
    | none =>
      split
      · simpa using solid target
      · simp
  same other outside := by
    have apart : place ≠ other := fun same => outside (same ▸ allowed)
    rw [find?_insert, if_neg apart, Option.or_none]
    exact spared.same other outside

theorem allowed_of_missing (spared : Spared jail dest fs s)
    (near : place <+: dest ∨ dest <+: place) (missing : s.find? place = none) :
    Allowed fs dest place := by
  by_contra outside
  have before := (spared.same place outside).symm.trans missing
  rcases near with above | beneath
  · exact outside (.inr ⟨above, before⟩)
  · exact outside (.inl beneath)

end Spared

variable {path : Path}

theorem modifyOpen_spared {place : Place} (allowed : Allowed fs dest place)
    (f : Attributes → Attributes) :
    Keeps (Spared jail dest fs) (modifyOpen place f) fun _ => True :=
  fun _ spared => ⟨spared.update allowed f, fun _ _ => trivial⟩

/-- Opening changes nothing but what is allowed, and opens what the path leads to. -/
theorem openRelative_spared (sanitized : sanitize path = .ok clean) (flags : OpenFlags) (mode : Nat)
    (allowed : flags.create ∨ flags.trunc → Allowed fs dest (jail ++ landing path)) :
    Keeps (Spared jail dest fs) (openRelative jail clean flags mode) (· = jail ++ landing path) := by
  have opens : Keeps (Spared jail dest fs) (openat2 jail clean flags mode) fun outcome =>
      ∀ place, outcome = .ok place → place = jail ++ landing path := by
    intro s spared
    unfold openat2
    split
    · exact ⟨spared, by simp⟩
    -- A file is created where the path leads, and only when that was asked for.
    · next parent name resolved =>
      have free := reached_landing sanitized spared.linkFree resolved
      rw [Reached.location] at free
      split
      · next create => exact ⟨free ▸ spared.insert (allowed (.inl create)) nofun, by simp [free]⟩
      · exact ⟨spared, by simp⟩
    · next place resolved =>
      obtain rfl : place = _ := reached_landing sanitized spared.linkFree resolved
      split
      · split <;> exact ⟨spared, by simp⟩
      split
      · exact ⟨spared, by simp⟩
      split
      · next trunc =>
        exact ⟨spared.update (allowed (.inr trunc)) fun a => { a with content := [] }, by simp⟩
      · exact ⟨spared, by simp⟩
  refine opens.bind fun outcome opened => ?_
  split
  · exact .pure (opened _ rfl)
  · split
    · exact .fail
    · exact .fail

theorem resolve_spared (flags : OpenFlags) (mode : Nat)
    (allowed : flags.create ∨ flags.trunc → Allowed fs dest (jail ++ landing path)) :
    Keeps (Spared jail dest fs) (resolve jail path flags mode) (· = jail ++ landing path) :=
  Keeps.liftExcept.bind fun _ sanitized => openRelative_spared sanitized flags mode allowed

theorem writeFile_spared (allowed : Allowed fs dest (jail ++ landing path)) (content : List UInt8)
    (uid : Nat) (maxBytes : Int) :
    Keeps (Spared jail dest fs) (Jail.writeFile jail path content uid maxBytes) fun _ => True := by
  refine (resolve_spared _ _ fun _ => allowed).bind ?_
  rintro _ rfl
  refine (modifyOpen_spared allowed _).bind fun _ _ => ?_
  refine (modifyOpen_spared allowed _).bind fun _ _ => ?_
  split
  · exact .fail
  · exact (modifyOpen_spared allowed _).bind fun _ _ => .pure trivial

theorem chmod_spared (allowed : Allowed fs dest (jail ++ landing path)) (mode : Nat) :
    Keeps (Spared jail dest fs) (Jail.chmod jail path mode) fun _ => True := by
  refine (resolve_spared _ _ fun _ => allowed).bind ?_
  rintro _ rfl
  exact modifyOpen_spared allowed _

/-- A directory on the way to the destination touches nothing outside of it. -/
theorem makeLevel_spared (sanitized : sanitize path = .ok clean)
    (near : jail ++ landing path <+: dest ∨ dest <+: jail ++ landing path) (mode uid : Nat) :
    Keeps (Spared jail dest fs) (Jail.makeLevel jail clean mode uid) fun _ => True := by
  have makes : Keeps (Spared jail dest fs) (mkdirat jail clean mode) fun outcome =>
      outcome = .ok () → Allowed fs dest (jail ++ landing path) := by
    intro s spared
    unfold mkdirat
    split
    · exact ⟨spared, by simp⟩
    · exact ⟨spared, by simp⟩
    · next parent name resolved =>
      rw [parent_landing sanitized spared.linkFree resolved]
      split
      · exact ⟨spared, by simp⟩
      · next free =>
        have missing : s.find? (jail ++ landing path) = none := by simpa [kind?] using free
        have allowed := spared.allowed_of_missing near missing
        exact ⟨spared.insert allowed (by simp), fun _ _ _ => allowed⟩
  have makesRelative : Keeps (Spared jail dest fs) (mkdirRelative jail clean mode) fun _ =>
      Allowed fs dest (jail ++ landing path) := by
    refine makes.bind fun outcome made => ?_
    split
    · exact .pure (made rfl)
    · exact .fail
  -- Only a directory that was made here is handed over; one that was there is left alone.
  refine makesRelative.attempt.bind fun outcome made => ?_
  split
  · split
    · exact .pure trivial
    · exact .fail
  · next result =>
    have allowed := made () rfl
    refine (openRelative_spared sanitized _ _ fun _ => allowed).bind ?_
    rintro _ rfl
    exact modifyOpen_spared allowed _

theorem stat_spared (clean : Path) :
    Keeps (Spared jail dest fs) (stat jail clean) fun _ => True := by
  intro s spared
  rw [(stat_confined clean).2.1]
  exact ⟨spared, fun _ _ => trivial⟩

theorem mkdirAllLevels_spared (levels : Nat) (mode uid : Nat)
    (near : jail ++ landing path <+: dest ∨ dest <+: jail ++ landing path) :
    Keeps (Spared jail dest fs) (Jail.mkdirAllLevels jail levels path mode uid) fun _ => True := by
  -- The parent of a place on the way or beneath is again one, which carries the induction.
  induction levels generalizing path with
  | zero => exact .fail
  | succ levels ih =>
    unfold Jail.mkdirAllLevels
    refine Keeps.liftExcept.bind fun clean sanitized => ?_
    split
    · exact .pure trivial
    rename_i below
    obtain ⟨rfl, -, plain⟩ := (sanitize_ok sanitized).resolve_left fun top => below top.1
    refine (stat_spared _).attempt.bind fun outcome _ => ?_
    split
    · exact .pure trivial
    split
    · next deeper =>
      rw [parentOf_plain plain] at deeper ⊢
      rw [if_neg fun empty => deeper (if_pos empty)]
      have front : landing (landing path).dropLast = (landing path).dropLast :=
        cleanComponents_plain fun c member => plain c ((List.dropLast_sublist _).subset member)
      have above : jail ++ (landing path).dropLast <+: jail ++ landing path :=
        (List.prefix_append_right_inj jail).mpr (List.dropLast_prefix _)
      refine (ih ?_).bind fun _ _ => makeLevel_spared sanitized near mode uid
      rw [front]
      rcases near with upper | lower
      · exact .inl (above.trans upper)
      · exact List.prefix_or_prefix_of_prefix above lower
    · exact makeLevel_spared sanitized near mode uid

theorem landing_parentOf (inner : dotdot ∉ path) : landing (parentOf path) <+: landing path := by
  have front : dotdot ∉ path.dropLast := fun up => inner ((List.dropLast_sublist path).subset up)
  have cleaned : landing (parentOf path) = cleanComponents true path.dropLast := by
    rw [landing, parentOf, cleanComponents_clean (by simpa [dotdot] using front),
      cleanComponents_append_empty]
  rw [cleaned, landing, cleanComponents_inner front, cleanComponents_inner inner]
  exact (List.dropLast_prefix path).filter _

/-- Joined to the destination and cleaned, the name of an entry still leads beneath it. -/
def Stays (destRel : Path) (zf : ZipEntry) : Prop :=
  dotdot ∉ Path.join destRel zf.name ∧ landing destRel <+: landing (Path.join destRel zf.name)

instance (destRel : Path) (zf : ZipEntry) : Decidable (Stays destRel zf) :=
  inferInstanceAs (Decidable (_ ∧ _))

variable {destRel : Path} {uid : Nat}

/-- An entry that stays in the destination spares everything else. -/
theorem extractEntry_spared {zf : ZipEntry} (stays : Stays destRel zf) :
    Keeps (Spared jail (jail ++ landing destRel) fs) (Jail.extractEntry jail destRel zf uid)
      fun _ => True := by
  obtain ⟨inner, within⟩ := stays
  have beneath := (List.prefix_append_right_inj jail).mpr within
  have allowed : Allowed fs (jail ++ landing destRel)
      (jail ++ landing (Path.join destRel zf.name)) := .inl beneath
  unfold Jail.extractEntry
  split
  -- A directory is made under its cleaned name, and a failure to make it is not reported.
  · refine Keeps.liftExcept.bind fun clean sanitized => ?_
    have same : landing clean = landing (Path.join destRel zf.name) := by
      rcases sanitize_ok sanitized with ⟨rfl, top⟩ | ⟨same, -, plain⟩
      · exact top.symm
      · exact (cleanComponents_plain plain).trans same
    refine (mkdirAllLevels_spared _ _ _ (.inr ?_)).attempt.bind fun _ _ => .pure trivial
    rwa [same]
  -- The directory of a file may lie above the destination, but only on the way to it.
  · have above := (List.prefix_append_right_inj jail).mpr (landing_parentOf inner)
    have near := List.prefix_or_prefix_of_prefix above beneath
    refine (mkdirAllLevels_spared _ _ _ near).bind fun _ _ => ?_
    split
    · refine (writeFile_spared allowed _ _ _).attempt.bind fun outcome _ => ?_
      split
      · exact .fail
      · split
        · exact .fail
        · exact (chmod_spared allowed _).bind fun _ _ => .pure trivial
    · exact .fail

theorem extractAll_spared {entries : List ZipEntry} (stay : ∀ zf ∈ entries, Stays destRel zf)
    (extracted : Nat) (skipped : List Path) :
    Keeps (Spared jail (jail ++ landing destRel) fs)
      (Jail.extractAll jail destRel uid entries extracted skipped) fun _ => True := by
  induction entries generalizing extracted skipped with
  | nil => exact .pure trivial
  | cons zf rest ih =>
    obtain ⟨first, others⟩ := List.forall_mem_cons.mp stay
    unfold Jail.extractAll
    -- A special entry is skipped whatever its name is; an error ends the loop.
    split
    · exact ih others _ _
    · refine (extractEntry_spared first).attempt.bind fun outcome _ => ?_
      split
      · exact .pure trivial
      · exact ih others _ _

def archiveEntries (format : ArchiveFormat) (jail : Place) (srcRel : Path) (fs : Fs) :
    List ZipEntry :=
  match Jail.openFile jail srcRel fs with
  | (.ok file, s, _) => (format.parse (contentAt file s)).getD []
  | (.error _, _, _) => []

/-- The call reports an error, of its own or of the entry that stopped it. -/
def failed : Except FsError (Nat × List Path × Option FsError) → Bool
  | .ok (_, _, none) => false
  | _ => true

/-- Nothing but what is allowed has changed, and a name that leads out has made the call fail. -/
def KeptInside (fs fs' : Fs) (dest : Place) (destRel : Path) (entries : List ZipEntry)
    (failed : Bool) : Prop :=
  (∀ place, fs'.find? place ≠ fs.find? place → Allowed fs dest place) ∧
    ((∃ zf ∈ entries, ¬Stays destRel zf) → failed)

theorem decompress_spared (format : ArchiveFormat) (srcRel : Path) (uid : Nat)
    (spared : Spared jail (jail ++ landing destRel) fs fs)
    (stay : ∀ zf ∈ archiveEntries format jail srcRel fs, Stays destRel zf) :
    Spared jail (jail ++ landing destRel) fs
      (Jail.decompress jail format srcRel destRel uid fs).2.1 := by
  have opens : Keeps (Spared jail (jail ++ landing destRel) fs) (Jail.openFile jail srcRel) _ :=
    resolve_spared {} 0 (by simp)
  have opened := (opens fs spared).1
  unfold Jail.decompress
  rcases ran : Jail.openFile jail srcRel fs with ⟨outcome, s, trace⟩
  rw [ran] at opened
  cases outcome with
  | error error =>
    rw [bind_of_error ran]
    exact opened
  | ok file =>
    -- The entries are those the content has that is read right after opening.
    have reads : readAll file s = (.ok (contentAt file s), s, [⟨.read, file⟩]) := rfl
    rw [bind_of_ok ran, bind_of_ok reads]
    simp only [archiveEntries, ran] at stay
    cases parsed : format.parse (contentAt file s) with
    | none => exact opened
    | some entries =>
      rw [parsed] at stay
      dsimp only
      split
      · exact opened
      · exact (Keeps.liftExcept.bind (fun _ _ => extractAll_spared stay 0 []) s opened).1

/--
In a jail without links, unpacking keeps to its destination when the name of every entry does, and a
call that reports no error has kept to it only then.
-/
theorem decompress_keeps_inside_iff (format : ArchiveFormat) (jail : Place) (fs : Fs)
    (srcRel destRel : Path) (uid : Nat) (linkFree : LinkFree jail fs) :
    let result := Jail.decompress jail format srcRel destRel uid fs
    let entries := archiveEntries format jail srcRel fs
    let inside := KeptInside fs result.2.1 (jail ++ landing destRel) destRel entries
      (failed result.1)
    ((∀ zf ∈ entries, Stays destRel zf) → inside) ∧
      (failed result.1 = false → (inside ↔ ∀ zf ∈ entries, Stays destRel zf)) := by
  intro result entries inside
  have spared : Spared jail (jail ++ landing destRel) fs fs := ⟨linkFree, fun _ _ => rfl⟩
  have keeps (stay : ∀ zf ∈ entries, Stays destRel zf) : inside := by
    refine ⟨fun place changed => ?_, fun ⟨zf, member, leaves⟩ => absurd (stay zf member) leaves⟩
    by_contra outside
    exact changed ((decompress_spared format srcRel uid spared stay).same place outside)
  -- A call that reports no error has not failed over any name, so none may lead out.
  refine ⟨keeps, fun succeeded => ⟨fun inside zf member => ?_, keeps⟩⟩
  by_contra leaves
  exact Bool.false_ne_true (succeeded.symm.trans (inside.2 ⟨zf, member, leaves⟩))

def archivedJail : Fs := ⟨[([bytes "z"], ⟨.file, { uid := 0, mode := 0o644 }⟩)]⟩

def oneEntry (name : String) : ArchiveFormat where
  parse _ := some [⟨.ofBytes (bytes name), false, false, 0o644, 1, 1, some [2]⟩]
  render _ := []

theorem sample_decompress_keeps_inside_iff :
    let result :=
      Jail.decompress [] (oneEntry "x") [bytes "z"] (.ofBytes (bytes "a/b")) 1000 archivedJail
    KeptInside archivedJail result.2.1 (landing (.ofBytes (bytes "a/b"))) (.ofBytes (bytes "a/b"))
      (archiveEntries (oneEntry "x") [] [bytes "z"] archivedJail) (failed result.1) := by
  have linkFree : LinkFree [] archivedJail := by
    intro place target _
    by_cases same : [bytes "z"] = place <;> simp [archivedJail, kind?, find?, same]
  exact (decompress_keeps_inside_iff (oneEntry "x") [] archivedJail [bytes "z"]
    (.ofBytes (bytes "a/b")) 1000 linkFree).1 (by decide +kernel)

/-- An entry with a parent step in its name is unpacked next to the destination. -/
theorem parent_step_leaves_destination :
    let result :=
      Jail.decompress [] (oneEntry "../x") [bytes "z"] (.ofBytes (bytes "a/b")) 1000 archivedJail
    let place := [bytes "a", bytes "x"]
    failed result.1 = false ∧ result.2.1.find? place ≠ archivedJail.find? place ∧
      ¬Allowed archivedJail (landing (.ofBytes (bytes "a/b"))) place := by
  decide +kernel

end PxHost.Agent
