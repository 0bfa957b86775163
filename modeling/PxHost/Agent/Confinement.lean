import PxHost.Agent.Archive

/-! Which file operations stay beneath the root of their jail, whatever links it holds. -/

namespace PxHost.Agent

open PathResolution Traced

/-- The object touched lies in the jail, the root of the jail included. -/
def Beneath (jail : Place) (access : Access) : Prop := jail <+: access.place

instance (jail : Place) (access : Access) : Decidable (Beneath jail access) :=
  inferInstanceAs (Decidable (jail <+: access.place))

variable {jail : Place} {fs fs' : Fs}

theorem mapError_ok_iff {α : Type*} {outcome : Except WalkError α} {a : α} :
    outcome.mapError errnoOf = .ok a ↔ outcome = .ok a := by
  cases outcome <;> simp [Except.mapError]

variable {path : Path} {reached : Reached Name}

theorem resolvePath_beneath (resolved : resolvePath fs (some jail) jail path = .ok reached) :
    path.isRooted = false ∧
      Walks fs (some jail) maxSymlinks (path.map component) jail reached := by
  cases rooted : path.isRooted with
  | true => simp [resolvePath, rooted] at resolved
  | false =>
    simp only [resolvePath, rooted, Bool.false_and, Bool.false_eq_true, if_false,
      mapError_ok_iff] at resolved
    exact ⟨rfl, walks_of_walk resolved⟩

/-- Whatever opening touches lies beneath, and an object that was there is what the path names. -/
theorem openat2_confined (path : Path) (flags : OpenFlags) (mode : Nat) :
    Obeys (Beneath jail) (openat2 jail path flags mode) fs fun outcome fs' =>
      (∀ place, outcome = .ok (.ok place) → jail <+: place) ∧
      (flags.create = false → flags.trunc = false → fs' = fs ∧
        ∀ place, outcome = .ok (.ok place) →
          resolvePath fs (some jail) jail path = .ok (.present place)) := by
  unfold Obeys openat2
  split
  · simp
  · rename_i parent name resolved
    have inside : jail <+: parent := (resolvePath_beneath resolved).2.within List.prefix_rfl
    have below : jail <+: parent ++ [name] := inside.trans (List.prefix_append ..)
    split
    · simp_all [Beneath]
    · simp
  · rename_i place resolved
    have inside : jail <+: place := (resolvePath_beneath resolved).2.within List.prefix_rfl
    split
    · split <;> simp_all [Beneath]
    · split
      · simp
      · split <;> simp_all [Beneath]

theorem openRelative_confined (path : Path) (flags : OpenFlags) (mode : Nat) :
    Obeys (Beneath jail) (openRelative jail path flags mode) fs fun outcome fs' =>
      (∀ place, outcome = .ok place → jail <+: place) ∧
      (flags.create = false → flags.trunc = false → fs' = fs ∧
        ∀ place, outcome = .ok place →
          resolvePath fs (some jail) jail path = .ok (.present place)) := by
  refine (openat2_confined path flags mode).bind ?_ (fun _ _ holds => ?_)
  · intro outcome s' holds
    cases outcome with
    | ok place => simpa using holds
    | error errno =>
      dsimp only
      split <;> simp_all
  · simp_all

variable {place : Place}

theorem modifyOpen_confined (inside : jail <+: place) (f : Attributes → Attributes) :
    Obeys (Beneath jail) (modifyOpen place f) fs fun _ fs' =>
      ∀ location, fs'.kind? location = fs.kind? location := by
  simp [Obeys, modifyOpen, Beneath, inside]

theorem readOpen_confined {α : Type} (inside : jail <+: place) (view : Fs → α) :
    Obeys (Beneath jail) (readOpen place view) fs fun _ fs' => fs' = fs := by
  simp [Obeys, readOpen, Beneath, inside]

theorem stat_confined (path : Path) :
    Obeys (Beneath jail) (stat jail path) fs fun outcome fs' => fs' = fs ∧
      ∀ info, outcome = .ok info →
        ∃ place, resolvePath fs (some jail) jail path = .ok (.present place) := by
  refine (openRelative_confined path {} 0).bind ?_ ?_
  · intro place s' holds
    obtain ⟨inside, same⟩ := holds
    obtain ⟨rfl, named⟩ := same rfl rfl
    refine (readOpen_confined (inside place rfl) _).mono ?_
    rintro outcome s' rfl
    exact ⟨rfl, fun _ _ => ⟨place, named place rfl⟩⟩
  · intro error s' holds
    exact ⟨(holds.2 rfl rfl).1, nofun⟩

theorem list_confined (path : Path) :
    Obeys (Beneath jail) (Jail.list jail path) fs fun _ fs' => fs' = fs := by
  unfold Jail.list
  rw [obeys_bind, obeys_liftExcept]
  split
  · rename_i clean _
    refine (openRelative_confined clean { dir := true } 0).bind ?_ fun _ _ holds =>
      (holds.2 rfl rfl).1
    intro dir s' holds
    obtain ⟨inside, unchanged⟩ := holds
    have opened : s' = fs := (unchanged rfl rfl).1
    refine (readOpen_confined (inside dir rfl) _).bind ?_ fun _ _ same => same.trans opened
    intro names s'' same
    refine Obeys.bind (obeys_foldlM (· = fs) ?_ (same.trans opened))
      (fun _ _ same => by simpa using same) fun _ _ same => same
    rintro name - entries _ rfl
    rw [obeys_bind, obeys_attempt]
    refine (stat_confined _).mono ?_
    intro outcome s' holds
    cases outcome with
    | ok info => simpa using holds.1
    | error error => simpa using holds.1
  · rfl

/-- Objects have at most disappeared. -/
def Shrunk (fs fs' : Fs) : Prop :=
  ∀ location kind, fs'.kind? location = some kind → fs.kind? location = some kind

theorem Shrunk.refl (fs : Fs) : Shrunk fs fs := fun _ _ stored => stored

theorem Shrunk.trans {fs'' : Fs} (first : Shrunk fs fs') (second : Shrunk fs' fs'') :
    Shrunk fs fs'' := fun location kind stored => first location kind (second location kind stored)

theorem isRooted_dropLast (relative : path.isRooted = false) :
    Path.isRooted path.dropLast = false := by
  match path with
  | [] | [_] | [[], _] | [_ :: _, _] => rfl
  | [] :: _ :: _ :: _ => cases relative
  | (_ :: _) :: _ :: _ :: _ => rfl

variable {parent : Place} {name : Name}

theorem resolveParent_ok (relative : path.isRooted = false)
    (resolved : resolveParent fs jail path = .ok (parent, name)) :
    path ≠ [] ∧
      Walks fs none maxSymlinks (path.dropLast.map component) jail (.present parent) := by
  unfold resolveParent at resolved
  split at resolved
  · rename_i last
    refine ⟨by rintro rfl; simp at last, ?_⟩
    split at resolved
    · cases resolved
    · cases resolved
    · rename_i found
      split at resolved
      · cases resolved
        simp only [resolvePath, isRooted_dropLast relative, Bool.false_and, Bool.false_eq_true,
          if_false, mapError_ok_iff] at found
        exact walks_of_walk found
      · cases resolved
  · cases resolved

/--
A path that was resolved beneath the jail still has its parent there, as long as objects have
only been removed since.
-/
theorem parent_beneath (resolved : resolvePath fs (some jail) jail path = .ok (.present place))
    (shrunk : Shrunk fs fs') (found : resolveParent fs' jail path = .ok (parent, name)) :
    jail <+: parent := by
  obtain ⟨relative, walks⟩ := resolvePath_beneath resolved
  obtain ⟨nonempty, free⟩ := resolveParent_ok relative found
  rw [← List.dropLast_append_getLast nonempty, List.map_append] at walks
  obtain ⟨middle, front, -⟩ := walks.front (by simp)
  exact (front.fenced_of_removed shrunk free).within List.prefix_rfl

theorem unlinkRelative_confined {dir : Bool}
    (inside : ∀ parent name, resolveParent fs jail path = .ok (parent, name) → jail <+: parent) :
    Obeys (Beneath jail) (unlinkRelative jail path dir) fs fun _ fs' => Shrunk fs fs' := by
  have unlinks : Obeys (Beneath jail) (unlinkat jail path dir) fs fun _ fs' => Shrunk fs fs' := by
    unfold Obeys unlinkat
    split
    · simp [Shrunk.refl]
    · rename_i parent name resolved
      have above := inside parent name resolved
      split
      · simp [Shrunk.refl]
      · refine ⟨?_, fun location kind stored => kind?_of_remove stored⟩
        simp [Beneath, above, above.trans (List.prefix_append parent [name])]
  refine unlinks.bind ?_ fun _ _ shrunk => shrunk
  intro outcome s' shrunk
  cases outcome with
  | ok _ => simpa using shrunk
  | error errno => simpa using shrunk

/-- Removing looks at every path beneath the jail before it unlinks it. -/
theorem removeLevels_confined (levels : Nat) (path : Path) (recursive : Bool) :
    Obeys (Beneath jail) (Jail.removeLevels jail levels path recursive) fs fun _ fs' =>
      Shrunk fs fs' := by
  induction levels generalizing path recursive fs with
  | zero => simp [Jail.removeLevels, Shrunk.refl]
  | succ levels ih =>
    unfold Jail.removeLevels
    rw [obeys_bind, obeys_liftExcept]
    split
    · rename_i clean _
      refine (stat_confined clean).bind ?_ fun _ _ holds => holds.1 ▸ .refl _
      rintro info s' ⟨rfl, seen⟩
      obtain ⟨place, resolved⟩ := seen info rfl
      split
      · exact unlinkRelative_confined fun _ _ => parent_beneath resolved (.refl _)
      split
      · exact unlinkRelative_confined fun _ _ => parent_beneath resolved (.refl _)
      · refine (list_confined clean).bind ?_ fun _ _ same => same ▸ .refl _
        rintro entries s' rfl
        -- Whatever the levels below have removed, the directory itself was seen beneath.
        refine (obeys_foldlM (Shrunk s') ?_ (.refl s')).bind ?_ fun _ _ shrunk => shrunk
        · intro entry _ _ s'' shrunk
          exact (ih _ true).mono fun _ _ further => shrunk.trans further
        · intro _ s'' shrunk
          refine (unlinkRelative_confined fun _ _ => parent_beneath resolved shrunk).mono ?_
          exact fun _ _ further => shrunk.trans further
    · exact .refl _

/-- The names below the root of a jail that a path leads to where nothing on its way is a link. -/
def landing (path : Path) : Place := cleanComponents true path

variable {clean : Path}

/-- A sanitized path is the root of the jail, or the plain names the path leads to. -/
theorem sanitize_ok (sanitized : sanitize path = .ok clean) :
    clean = [dot] ∧ landing path = [] ∨
      clean = landing path ∧ clean ≠ [] ∧ ∀ c ∈ clean, Plain c := by
  unfold sanitize at sanitized
  split at sanitized
  · next empty =>
    cases sanitized
    exact .inl ⟨rfl, by rw [empty]; rfl⟩
  split at sanitized
  · cases sanitized
  split at sanitized
  · cases sanitized
  split at sanitized
  · cases sanitized
  rename_i inner
  split at sanitized
  · next top =>
    cases sanitized
    exact .inl ⟨rfl, top⟩
  · rename_i nonempty
    split at sanitized
    · cases sanitized
    · rename_i proper
      cases sanitized
      refine .inr ⟨rfl, fun empty => nonempty empty, fun c member => ?_⟩
      have held := List.mem_of_mem_filter (cleanComponents_inner (by simpa using inner) ▸ member)
      simp only [List.any_eq_true, not_exists, not_and, Bool.or_eq_true, not_or,
        decide_eq_true_eq] at proper
      obtain ⟨⟨named, other⟩, -⟩ := proper c member
      exact ⟨named, other, fun same => by simp [same ▸ held] at inner⟩

theorem sanitize_plain (nonempty : path ≠ []) (plain : ∀ c ∈ path, Plain c)
    (sanitized : sanitize path = .ok clean) : clean = path := by
  have same : landing path = path := cleanComponents_plain plain
  rcases sanitize_ok sanitized with ⟨-, top⟩ | ⟨names, -⟩
  · exact absurd (same.symm.trans top) nonempty
  · exact names.trans same

theorem resolvePath_congr (same : ∀ location, fs'.kind? location = fs.kind? location)
    (resolved : resolvePath fs (some jail) jail path = .ok reached) :
    resolvePath fs' (some jail) jail path = .ok reached := by
  obtain ⟨relative, walks⟩ := resolvePath_beneath resolved
  simp only [resolvePath, relative, Bool.false_and, Bool.false_eq_true, if_false,
    mapError_ok_iff]
  exact walk_of_walks (walks.congr same (.inr rfl))

/-- Plain resolution of a path whose front was resolved beneath the jail goes the same way. -/
theorem parent_beneath_of_front (relative : path.isRooted = false)
    (front : Walks fs (some jail) maxSymlinks (path.dropLast.map component) jail (.present place))
    (found : resolveParent fs jail path = .ok (parent, name)) : jail <+: parent := by
  obtain ⟨-, free⟩ := resolveParent_ok relative found
  have unfenced := front.congr (fun _ => rfl) (.inl rfl)
  have same : Reached.present place = .present parent :=
    Except.ok.inj ((walk_of_walks unfenced).symm.trans (walk_of_walks free))
  cases same
  exact front.within List.prefix_rfl

variable {mode : Nat}

theorem mkdirRelative_confined
    (inside : ∀ parent name, resolveParent fs jail path = .ok (parent, name) → jail <+: parent) :
    Obeys (Beneath jail) (mkdirRelative jail path mode) fs fun outcome _ =>
      ∀ error, outcome = .error error → osIsExist error = false := by
  have makes : Obeys (Beneath jail) (mkdirat jail path mode) fs fun outcome _ =>
      ∃ result, outcome = .ok result := by
    unfold Obeys mkdirat
    split
    · simp
    · simp
    · rename_i parent name resolved
      have above := inside parent name resolved
      split
      · simp
      · simp [Beneath, above, above.trans (List.prefix_append parent [name])]
  refine makes.bind ?_ ?_
  · intro result s' _
    cases result with
    | ok _ => simp
    | error errno => simp [osIsExist]
  · rintro error s' ⟨result, failed⟩
    cases failed

def Resolved (jail : Place) (fs : Fs) (path : Path) : Prop :=
  ∃ clean, sanitize path = .ok clean ∧
    (clean = [dot] ∨ ∃ place, resolvePath fs (some jail) jail clean = .ok (.present place))

/-- A directory that was made is opened beneath the jail before it is handed to its owner. -/
theorem makeLevel_confined {uid : Nat} (sanitized : sanitize path = .ok clean)
    (inside : ∀ parent name, resolveParent fs jail clean = .ok (parent, name) → jail <+: parent) :
    Obeys (Beneath jail) (Jail.makeLevel jail clean mode uid) fs fun outcome fs' =>
      outcome = .ok () → Resolved jail fs' path := by
  unfold Jail.makeLevel
  rw [obeys_bind, obeys_attempt]
  refine (mkdirRelative_confined inside).mono ?_
  intro outcome s' wrapped
  cases outcome with
  | error error => simp [wrapped error rfl]
  | ok _ =>
    refine (openRelative_confined clean { dir := true } 0).bind ?_ fun _ _ _ => nofun
    intro dir s'' holds
    obtain ⟨beneath, unchanged⟩ := holds
    obtain ⟨rfl, named⟩ := unchanged rfl rfl
    refine (modifyOpen_confined (beneath dir rfl) _).mono ?_
    intro _ owned same _
    exact ⟨clean, sanitized, .inr ⟨dir, resolvePath_congr same (named dir rfl)⟩⟩

/-- Every directory is made in one that was resolved beneath the jail just before. -/
theorem mkdirAllLevels_confined (levels : Nat) (path : Path) (mode uid : Nat) :
    Obeys (Beneath jail) (Jail.mkdirAllLevels jail levels path mode uid) fs fun outcome fs' =>
      outcome = .ok () → Resolved jail fs' path := by
  induction levels generalizing path fs with
  | zero => simp [Jail.mkdirAllLevels]
  | succ levels ih =>
    unfold Jail.mkdirAllLevels
    rw [obeys_bind, obeys_liftExcept]
    split
    · rename_i clean sanitized
      split
      · rename_i top
        simpa using ⟨clean, sanitized, .inl top⟩
      rename_i below
      obtain ⟨-, nonempty, plain⟩ := (sanitize_ok sanitized).resolve_left fun top => below top.1
      have relative := isRooted_plain plain
      rw [obeys_bind, obeys_attempt]
      refine (stat_confined clean).mono ?_
      rintro outcome s' ⟨rfl, seen⟩
      cases outcome with
      | ok info => simpa using ⟨clean, sanitized, .inr (seen info rfl)⟩
      | error error =>
        dsimp only
        split
        · rename_i deeper
          rw [parentOf_plain plain] at deeper ⊢
          have front : clean.dropLast ≠ [] := fun empty => deeper (by rw [if_pos empty])
          rw [if_neg front]
          refine (ih clean.dropLast).bind ?_ fun _ _ _ => nofun
          intro _ s'' made
          obtain ⟨parent, again, resolved⟩ := made rfl
          -- The parent is sanitized already, so it is what the directory is made in.
          obtain rfl := sanitize_plain front
            (fun c member => plain c ((List.dropLast_sublist clean).subset member)) again
          refine makeLevel_confined sanitized fun parent name => ?_
          rcases resolved with top | ⟨place, resolved⟩
          · have member : dot ∈ clean.dropLast := by simp [top]
            exact absurd rfl (plain dot ((List.dropLast_sublist clean).subset member)).2.1
          · exact parent_beneath_of_front relative (resolvePath_beneath resolved).2
        · rename_i shallow
          have front : clean.dropLast = [] := by
            by_contra deeper
            rw [parentOf_plain plain, if_neg deeper, not_not] at shallow
            have member : dot ∈ clean.dropLast := by simp [shallow]
            exact (plain dot ((List.dropLast_sublist clean).subset member)).2.1 rfl
          refine makeLevel_confined sanitized fun parent name => ?_
          exact parent_beneath_of_front relative (by rw [front]; exact .arrived)
    · simp

/-- From every state of the file system, everything a program touches lies beneath the jail. -/
def Confined {α : Type} (jail : Place) (m : Sys α) : Prop :=
  ∀ fs, Obeys (Beneath jail) m fs fun _ _ => True

namespace Confined

variable {α β : Type}

theorem of_obeys {m : Sys α} {post : Fs → Except FsError α → Fs → Prop}
    (obeys : ∀ fs, Obeys (Beneath jail) m fs (post fs)) : Confined jail m :=
  fun fs => (obeys fs).mono fun _ _ _ => trivial

theorem pure (a : α) : Confined jail (pure a : Sys α) := fun _ => by simp

theorem fail (error : FsError) : Confined jail (Traced.fail error : Sys α) := fun _ => by simp

theorem liftExcept (outcome : Except FsError α) : Confined jail (liftExcept outcome : Sys α) :=
  fun _ => by simp

theorem attempt {m : Sys α} (confined : Confined jail m) : Confined jail (attempt m) := confined

theorem bind {m : Sys α} {next : α → Sys β} (first : Confined jail m)
    (rest : ∀ a, Confined jail (next a)) : Confined jail (m >>= next) :=
  fun fs => (first fs).bind (fun a s' _ => rest a s') fun _ _ _ => trivial

theorem foldlM {γ : Type} {body : α → γ → Sys α} (round : ∀ a c, Confined jail (body a c))
    (xs : List γ) (initial : α) : Confined jail (xs.foldlM body initial) :=
  fun _ => obeys_foldlM (fun _ => True) (fun c _ a s' _ => round a c s') trivial

end Confined

theorem resolve_confined (fs : Fs) (path : Path) (flags : OpenFlags) (mode : Nat) :
    Obeys (Beneath jail) (resolve jail path flags mode) fs fun outcome _ =>
      ∀ place, outcome = .ok place → jail <+: place := by
  unfold resolve
  rw [obeys_bind, obeys_liftExcept]
  split
  · exact (openRelative_confined ..).mono fun _ _ holds => holds.1
  · simp

theorem resolve_bind_confined {β : Type} {flags : OpenFlags} {next : Place → Sys β}
    (rest : ∀ place, jail <+: place → Confined jail (next place)) :
    Confined jail (resolve jail path flags mode >>= next) := by
  intro fs
  refine (resolve_confined fs path flags mode).bind ?_ fun _ _ _ => trivial
  exact fun place s' inside => rest place (inside place rfl) s'

section Operations

theorem fchown_confined (inside : jail <+: place) (uid : Nat) :
    Confined jail (fchown place uid) := .of_obeys fun _ => modifyOpen_confined inside _

theorem fchmod_confined (inside : jail <+: place) (mode : Nat) :
    Confined jail (fchmod place mode) := .of_obeys fun _ => modifyOpen_confined inside _

theorem writeOpen_confined (inside : jail <+: place) (content : List UInt8) :
    Confined jail (writeOpen place content) := .of_obeys fun _ => modifyOpen_confined inside _

theorem readAll_confined (inside : jail <+: place) :
    Confined jail (readAll place) := .of_obeys fun _ => readOpen_confined inside _

theorem openFile_confined (path : Path) : Confined jail (Jail.openFile jail path) :=
  .of_obeys fun fs => resolve_confined fs path _ _

theorem readFile_confined (path : Path) : Confined jail (Jail.readFile jail path) := by
  refine resolve_bind_confined fun file inside => ?_
  refine .bind (.of_obeys fun _ => readOpen_confined inside _) fun info => ?_
  split
  · exact .fail _
  split
  · exact .fail _
  · exact .bind (readAll_confined inside) fun _ => .pure _

theorem writeFile_confined (path : Path) (content : List UInt8) (uid : Nat) (maxBytes : Int) :
    Confined jail (Jail.writeFile jail path content uid maxBytes) := by
  refine resolve_bind_confined fun file inside => ?_
  refine .bind (fchown_confined inside uid) fun _ => ?_
  refine .bind (writeOpen_confined inside _) fun _ => ?_
  split
  · exact .fail _
  · exact .bind (fchmod_confined inside _) fun _ => .pure _

theorem chmod_confined (path : Path) (mode : Nat) : Confined jail (Jail.chmod jail path mode) :=
  resolve_bind_confined fun _ inside => fchmod_confined inside _

theorem mkdirAllRelative_confined (path : Path) (mode uid : Nat) :
    Confined jail (Jail.mkdirAllRelative jail path mode uid) :=
  .of_obeys fun _ => mkdirAllLevels_confined ..

theorem extractEntry_confined (destRel : Path) (zf : ZipEntry) (uid : Nat) :
    Confined jail (Jail.extractEntry jail destRel zf uid) := by
  unfold Jail.extractEntry
  split
  · refine .bind (.liftExcept _) fun clean => ?_
    exact .bind (.attempt (mkdirAllRelative_confined _ _ _)) fun _ => .pure _
  · refine .bind (mkdirAllRelative_confined _ _ _) fun _ => ?_
    split
    · refine .bind (.attempt (writeFile_confined _ _ _ _)) fun outcome => ?_
      split
      · exact .fail _
      · split
        · exact .fail _
        · exact .bind (chmod_confined _ _) fun _ => .pure _
    · exact .fail _

theorem extractAll_confined (destRel : Path) (uid : Nat) (entries : List ZipEntry)
    (extracted : Nat) (skipped : List Path) :
    Confined jail (Jail.extractAll jail destRel uid entries extracted skipped) := by
  induction entries generalizing extracted skipped with
  | nil => exact .pure _
  | cons zf rest ih =>
    unfold Jail.extractAll
    split
    · exact ih _ _
    · refine .bind (.attempt (extractEntry_confined _ _ _)) fun outcome => ?_
      split
      · exact .pure _
      · exact ih _ _

theorem decompress_confined (format : ArchiveFormat) (srcRel destRel : Path) (uid : Nat) :
    Confined jail (Jail.decompress jail format srcRel destRel uid) := by
  refine resolve_bind_confined fun file inside => ?_
  refine .bind (readAll_confined inside) fun content => ?_
  split
  · split
    · exact .fail _
    · exact .bind (.liftExcept _) fun _ => extractAll_confined _ _ _ _ _
  · exact .fail _

theorem addToZipLevels_confined (levels : Nat) (packed : Jail.Packed) (rel : Path) :
    Confined jail (Jail.addToZipLevels jail levels packed rel) := by
  induction levels generalizing packed rel with
  | zero => exact .pure _
  | succ levels ih =>
    unfold Jail.addToZipLevels
    refine .bind (.attempt (.bind (.liftExcept _) fun _ => .of_obeys fun _ => stat_confined _))
      fun outcome => ?_
    split
    · exact .pure _
    split
    · refine .bind (.attempt (.of_obeys fun _ => list_confined rel)) fun outcome => ?_
      split
      · exact .pure _
      · refine .foldlM (fun packed entry => ?_) _ _
        split
        · exact .pure _
        · exact ih _ _
    · refine .bind (.attempt (resolve_bind_confined fun _ => readAll_confined)) fun outcome => ?_
      split
      · exact .pure _
      · exact .pure _

theorem compress_confined (format : ArchiveFormat) (relPaths : List Path) (destRel : Path)
    (uid : Nat) : Confined jail (Jail.compress jail format relPaths destRel uid) := by
  refine resolve_bind_confined fun file inside => ?_
  refine .bind (fchown_confined inside uid) fun _ => ?_
  refine .bind (.foldlM (fun packed rel => ?_) _ _) fun packed => ?_
  · split
    · exact .pure _
    · exact addToZipLevels_confined _ _ _
  · refine .bind (writeOpen_confined inside _) fun _ => ?_
    split
    · exact .fail _
    · exact fchmod_confined inside _

end Operations

section Unfenced

variable {fs : Fs} {α β : Type}

/-- What follows a program and is confined makes no difference to whether the whole is. -/
theorem obeys_bind_of_confined {m : Sys α} {next : α → Sys β}
    (rest : ∀ a, Confined jail (next a)) :
    Obeys (Beneath jail) (m >>= next) fs (fun _ _ => True) ↔
      Obeys (Beneath jail) m fs fun _ _ => True := by
  refine ⟨fun obeys => ?_, fun obeys => obeys.bind (fun a s' _ => rest a s') fun _ _ _ => trivial⟩
  exact (obeys_bind.mp obeys).mono fun _ _ _ => trivial

/-- The directory in which making a directory by its path makes the entry, if it makes one. -/
def mkdirReaches (fs : Fs) (jail : Place) (clean : Path) : List Place :=
  match resolveParent fs jail clean with
  | .ok (parent, name) => if (fs.kind? (parent ++ [name])).isSome then [] else [parent]
  | .error _ => []

/-- The directories between which a rename by paths moves an object, if it moves one. -/
def renameReaches (fs : Fs) (jail : Place) (oldClean newClean : Path) : List Place :=
  match resolveParent fs jail oldClean, resolveParent fs jail newClean with
  | .ok (parent, name), .ok (parent', name') =>
    if (fs.kind? (parent ++ [name])).isSome ∧ parent ++ [name] = parent' ++ [name'] then []
    else if renameRefused fs (parent ++ [name]) (parent' ++ [name']) = none then [parent, parent']
    else []
  | _, _ => []

theorem beneath_entry (inside : jail <+: parent) (name : Name) :
    jail <+: parent ++ [name] :=
  inside.trans (List.prefix_append ..)

theorem mkdirat_confined_iff (clean : Path) (mode : Nat) :
    Obeys (Beneath jail) (mkdirat jail clean mode) fs (fun _ _ => True) ↔
      ∀ place ∈ mkdirReaches fs jail clean, jail <+: place := by
  simp only [mkdirat, mkdirReaches, Obeys, and_true]
  rcases resolveParent fs jail clean with errno | ⟨parent, name⟩
  · cases errno <;> simp
  · by_cases taken : (fs.kind? (parent ++ [name])).isSome
    · simp [taken]
    · simpa [taken, Beneath] using fun inside => beneath_entry inside name

theorem renameat_confined_iff (oldClean newClean : Path) :
    Obeys (Beneath jail) (renameat jail oldClean newClean) fs (fun _ _ => True) ↔
      ∀ place ∈ renameReaches fs jail oldClean newClean, jail <+: place := by
  simp only [renameat, renameReaches, Obeys, and_true]
  rcases resolveParent fs jail oldClean with errno | ⟨parent, name⟩
  · cases errno <;> simp
  rcases resolveParent fs jail newClean with errno | ⟨parent', name'⟩
  · cases errno <;> simp
  by_cases same : (fs.kind? (parent ++ [name])).isSome ∧ parent ++ [name] = parent' ++ [name']
  · simp only [if_pos same]
    simp
  simp only [if_neg same]
  rcases renameRefused fs (parent ++ [name]) (parent' ++ [name']) with _ | errno
  · simp only [Beneath, List.forall_mem_cons, List.not_mem_nil, false_implies, implies_true,
      and_true, if_true]
    constructor
    · rintro ⟨inside, _, inside', _⟩
      exact ⟨inside, inside'⟩
    · rintro ⟨inside, inside'⟩
      exact ⟨inside, beneath_entry inside name, inside', beneath_entry inside' name'⟩
  · simp

end Unfenced

/-- The operations a file request or an archive request carries out in a jail. -/
inductive JailCall where
  | list (relPath : Path)
  | openFile (relPath : Path)
  | readFile (relPath : Path)
  | writeFile (relPath : Path) (content : List UInt8) (uid : Nat) (maxBytes : Int)
  | mkdir (relPath : Path) (uid : Nat)
  | remove (relPath : Path) (recursive : Bool)
  | rename (oldRel newRel : Path)
  | chmod (relPath : Path) (mode : Nat)
  | compress (relPaths : List Path) (destRel : Path) (uid : Nat)
  | decompress (srcRel destRel : Path) (uid : Nat)

namespace JailCall

/-- Everything a call reads, creates, removes, renames or modifies. -/
def trace (format : ArchiveFormat) (jail : Place) (fs : Fs) : JailCall → List Access
  | list relPath => (Jail.list jail relPath fs).2.2
  | openFile relPath => (Jail.openFile jail relPath fs).2.2
  | readFile relPath => (Jail.readFile jail relPath fs).2.2
  | writeFile relPath content uid maxBytes =>
    (Jail.writeFile jail relPath content uid maxBytes fs).2.2
  | mkdir relPath uid => (Jail.mkdir jail relPath uid fs).2.2
  | remove relPath recursive => (Jail.remove jail relPath recursive fs).2.2
  | rename oldRel newRel => (Jail.rename jail oldRel newRel fs).2.2
  | chmod relPath mode => (Jail.chmod jail relPath mode fs).2.2
  | compress relPaths destRel uid => (Jail.compress jail format relPaths destRel uid fs).2.2
  | decompress srcRel destRel uid => (Jail.decompress jail format srcRel destRel uid fs).2.2

/-- The directories a call changes by a path that nothing fences. -/
def reaches (jail : Place) (fs : Fs) : JailCall → List Place
  | mkdir relPath _ =>
    match sanitize relPath with
    | .ok clean => mkdirReaches fs jail clean
    | .error _ => []
  | rename oldRel newRel =>
    match sanitize oldRel, sanitize newRel with
    | .ok oldClean, .ok newClean => renameReaches fs jail oldClean newClean
    | _, _ => []
  | _ => []

end JailCall

theorem mkdir_confined_iff (fs : Fs) (relPath : Path) (uid : Nat) :
    Obeys (Beneath jail) (Jail.mkdir jail relPath uid) fs (fun _ _ => True) ↔
      ∀ place ∈ (JailCall.mkdir relPath uid).reaches jail fs, jail <+: place := by
  unfold Jail.mkdir mkdirRelative
  rw [obeys_bind, obeys_liftExcept]
  simp only [JailCall.reaches]
  cases sanitize relPath with
  | error _ => simp
  | ok clean =>
    simp only
    rw [obeys_bind_of_confined, obeys_bind_of_confined, mkdirat_confined_iff]
    · intro outcome
      split
      · exact .pure _
      · exact .fail _
    · exact fun _ => resolve_bind_confined fun _ inside => fchown_confined inside uid

theorem rename_confined_iff (fs : Fs) (oldRel newRel : Path) :
    Obeys (Beneath jail) (Jail.rename jail oldRel newRel) fs (fun _ _ => True) ↔
      ∀ place ∈ (JailCall.rename oldRel newRel).reaches jail fs, jail <+: place := by
  unfold Jail.rename renameRelative
  rw [obeys_bind, obeys_liftExcept]
  simp only [JailCall.reaches]
  cases sanitize oldRel with
  | error _ => simp
  | ok oldClean =>
    simp only
    rw [obeys_bind, obeys_liftExcept]
    cases sanitize newRel with
    | error _ => simp
    | ok newClean =>
      simp only
      rw [obeys_bind_of_confined, renameat_confined_iff]
      intro outcome
      split
      · exact .pure _
      · exact .fail _

/--
A call stays beneath the root of its jail exactly when the directories it changes by an unfenced
path lie there, and of all the operations only `mkdir` and `rename` change any.
-/
theorem jail_call_stays_beneath_iff (format : ArchiveFormat) (jail : Place) (fs : Fs)
    (call : JailCall) :
    (∀ access ∈ call.trace format jail fs, Beneath jail access) ↔
      ∀ place ∈ call.reaches jail fs, jail <+: place := by
  cases call with
  | mkdir relPath uid => exact obeys_true.symm.trans (mkdir_confined_iff fs relPath uid)
  | rename oldRel newRel => exact obeys_true.symm.trans (rename_confined_iff fs oldRel newRel)
  -- Every other operation opens what it works on beneath the root.
  | list relPath => exact iff_of_true (list_confined relPath).1 nofun
  | remove relPath recursive =>
    exact iff_of_true (removeLevels_confined _ relPath recursive).1 nofun
  | openFile relPath => exact iff_of_true (openFile_confined relPath fs).1 nofun
  | readFile relPath => exact iff_of_true (readFile_confined relPath fs).1 nofun
  | writeFile relPath content uid maxBytes =>
    exact iff_of_true (writeFile_confined relPath content uid maxBytes fs).1 nofun
  | chmod relPath mode => exact iff_of_true (chmod_confined relPath mode fs).1 nofun
  | compress relPaths destRel uid =>
    exact iff_of_true (compress_confined format relPaths destRel uid fs).1 nofun
  | decompress srcRel destRel uid =>
    exact iff_of_true (decompress_confined format srcRel destRel uid fs).1 nofun

/-- A jail in which the customer has planted a link to a directory of the host. -/
def plantedLink : Fs :=
  let owned := { uid := 0, mode := 0o755 }
  ⟨[([], ⟨.directory, owned⟩),
    ([bytes "etc"], ⟨.directory, owned⟩),
    ([bytes "etc", bytes "passwd"], ⟨.file, owned⟩),
    ([bytes "srv"], ⟨.directory, owned⟩),
    ([bytes "srv", bytes "a"], ⟨.directory, owned⟩),
    ([bytes "srv", bytes "a", bytes "out"], ⟨.link ⟨true, [.entry (bytes "etc")]⟩, owned⟩)]⟩

/-- Through the link a new directory appears in the host's tree, and a file of it is taken. -/
theorem planted_link_leads_out :
    let format : ArchiveFormat := ⟨fun _ => none, fun _ => []⟩
    let jail := [bytes "srv", bytes "a"]
    let make := JailCall.mkdir (.ofBytes (bytes "out/new")) 1000
    let steal := JailCall.rename (.ofBytes (bytes "out/passwd")) (.ofBytes (bytes "stolen"))
    (¬ ∀ access ∈ make.trace format jail plantedLink, Beneath jail access) ∧
      ¬ ∀ access ∈ steal.trace format jail plantedLink, Beneath jail access := by
  decide +kernel

end PxHost.Agent
