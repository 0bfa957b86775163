import Mathlib.Data.List.Basic
import Mathlib.Data.List.Infix

/-! Path resolution through symbolic links, free or fenced into a directory. -/

namespace PathResolution

/-- One component of a path as the kernel reads it. -/
inductive Component (Name : Type*) where
  | here
  | up
  | entry (name : Name)
deriving DecidableEq

structure Target (Name : Type*) where
  absolute : Bool
  path : List (Component Name)
deriving DecidableEq

inductive Kind (Name : Type*) where
  | directory
  | file
  | link (target : Target Name)
deriving DecidableEq

structure Object (Name Data : Type*) where
  kind : Kind Name
  data : Data
deriving DecidableEq

/-- The names from the root of the tree down to an object. -/
abbrev Location (Name : Type*) := List Name

/-- The objects of a tree under their locations; its root is always there. -/
structure FileSystem (Name Data : Type*) where
  objects : List (Location Name × Object Name Data)
deriving DecidableEq

inductive WalkError where
  | missing
  | notDirectory
  | escapes
  | tooManyLinks
deriving DecidableEq

/-- Where a path leads: to an object, or to a name that is free in a directory. -/
inductive Reached (Name : Type*) where
  | present (location : Location Name)
  | vacant (directory : Location Name) (name : Name)
deriving DecidableEq

variable {Name Data : Type*} [DecidableEq Name]

namespace FileSystem

def find? (fs : FileSystem Name Data) (location : Location Name) : Option (Object Name Data) :=
  (fs.objects.find? fun object => object.1 == location).map Prod.snd

def kind? (fs : FileSystem Name Data) (location : Location Name) : Option (Kind Name) :=
  (fs.find? location).map (·.kind)

def isDirectory (fs : FileSystem Name Data) (location : Location Name) : Bool :=
  location == [] || fs.kind? location == some .directory

/--
Walk a path from a directory. A fence is the directory the walk must not leave: neither by a
parent step out of it nor by a link that starts over at the root. Every link is handed on, the
last component's included.
-/
def walkWith (fs : FileSystem Name Data) (fence : Option (Location Name))
    (follow : List (Component Name) → Location Name → Except WalkError (Reached Name)) :
    List (Component Name) → Location Name → Except WalkError (Reached Name)
  | [], current => .ok (.present current)
  | component :: rest, current =>
    if !fs.isDirectory current then .error .notDirectory
    else match component with
      | .here => walkWith fs fence follow rest current
      | .up =>
        if fence = some current then .error .escapes
        else walkWith fs fence follow rest current.dropLast
      | .entry name =>
        match fs.kind? (current ++ [name]) with
        | none => if rest = [] then .ok (.vacant current name) else .error .missing
        | some (.link target) =>
          if !target.absolute then follow (target.path ++ rest) current
          else if fence.isSome then .error .escapes
          else follow (target.path ++ rest) []
        | some .directory => walkWith fs fence follow rest (current ++ [name])
        | some .file => walkWith fs fence follow rest (current ++ [name])

/-- The walk with as many links as may still be followed. -/
def walk (fs : FileSystem Name Data) (fence : Option (Location Name)) :
    Nat → List (Component Name) → Location Name → Except WalkError (Reached Name)
  | 0 => walkWith fs fence fun _ _ => .error .tooManyLinks
  | links + 1 => walkWith fs fence (walk fs fence links)

def update (fs : FileSystem Name Data) (location : Location Name) (f : Data → Data) :
    FileSystem Name Data where
  objects := fs.objects.map fun (at', object) =>
    (at', if at' = location then { object with data := f object.data } else object)

def insert (fs : FileSystem Name Data) (location : Location Name) (object : Object Name Data) :
    FileSystem Name Data where
  objects := fs.objects ++ [(location, object)]

def remove (fs : FileSystem Name Data) (location : Location Name) : FileSystem Name Data where
  objects := fs.objects.filter fun object => object.1 ≠ location

def names (fs : FileSystem Name Data) (directory : Location Name) : List Name :=
  fs.objects.filterMap fun object =>
    if object.1.dropLast = directory then object.1.getLast? else none

/-- Move an object with everything under it, over whatever is at its new location. -/
def move (fs : FileSystem Name Data) (old new : Location Name) : FileSystem Name Data where
  objects := (fs.objects.filter fun object => object.1 ≠ new).map fun object =>
    if old.isPrefixOf object.1 then (new ++ object.1.drop old.length, object.2) else object

end FileSystem

open FileSystem

/-- The steps of a walk that arrives, one rule for each kind of component. -/
inductive Walks (fs : FileSystem Name Data) (fence : Option (Location Name)) :
    Nat → List (Component Name) → Location Name → Reached Name → Prop where
  | arrived {links : Nat} {current : Location Name} :
    Walks fs fence links [] current (.present current)
  | here {links : Nat} {rest : List (Component Name)} {current : Location Name}
      {reached : Reached Name} (searched : fs.isDirectory current)
      (onwards : Walks fs fence links rest current reached) :
    Walks fs fence links (.here :: rest) current reached
  | up {links : Nat} {rest : List (Component Name)} {current : Location Name}
      {reached : Reached Name} (searched : fs.isDirectory current) (inner : fence ≠ some current)
      (onwards : Walks fs fence links rest current.dropLast reached) :
    Walks fs fence links (.up :: rest) current reached
  | vacant {links : Nat} {current : Location Name} {name : Name}
      (searched : fs.isDirectory current) (free : fs.kind? (current ++ [name]) = none) :
    Walks fs fence links [.entry name] current (.vacant current name)
  | entered {links : Nat} {rest : List (Component Name)} {current : Location Name} {name : Name}
      {kind : Kind Name} {reached : Reached Name} (searched : fs.isDirectory current)
      (stored : fs.kind? (current ++ [name]) = some kind) (solid : ∀ target, kind ≠ .link target)
      (onwards : Walks fs fence links rest (current ++ [name]) reached) :
    Walks fs fence links (.entry name :: rest) current reached
  | linked {links : Nat} {rest : List (Component Name)} {current : Location Name} {name : Name}
      {target : Target Name} {reached : Reached Name} (searched : fs.isDirectory current)
      (stored : fs.kind? (current ++ [name]) = some (.link target))
      (relative : target.absolute = false)
      (onwards : Walks fs fence links (target.path ++ rest) current reached) :
    Walks fs fence (links + 1) (.entry name :: rest) current reached
  | jumped {links : Nat} {rest : List (Component Name)} {current : Location Name} {name : Name}
      {target : Target Name} {reached : Reached Name} (searched : fs.isDirectory current)
      (stored : fs.kind? (current ++ [name]) = some (.link target))
      (absolute : target.absolute) (unfenced : fence = none)
      (onwards : Walks fs fence links (target.path ++ rest) [] reached) :
    Walks fs fence (links + 1) (.entry name :: rest) current reached

variable {fs fs' : FileSystem Name Data} {fence : Option (Location Name)} {root : Location Name}
  {links : Nat} {path : List (Component Name)} {current : Location Name} {reached : Reached Name}

@[simp] theorem kind?_update (location other : Location Name) (f : Data → Data) :
    (fs.update location f).kind? other = fs.kind? other := by
  simp only [kind?, find?, update, List.find?_map, Option.map_map, Function.comp_def]
  congr 1
  funext object
  split <;> rfl

theorem kind?_of_remove {location other : Location Name} {kind : Kind Name}
    (stored : (fs.remove location).kind? other = some kind) : fs.kind? other = some kind := by
  -- What is left under a location other than the removed one is found as before.
  have kept : ∀ object ∈ fs.objects.find? fun object =>
      decide (decide (object.1 ≠ location) = true ∧ (object.1 == other) = true),
      fs.objects.find? (fun object => object.1 == other) = some object := by
    intro object found
    have conditions := List.find?_some found
    simp only [ne_eq, decide_not, Bool.not_eq_eq_eq_not, Bool.not_true, decide_eq_false_iff_not,
      beq_iff_eq, decide_eq_true_eq] at conditions
    rw [← found]
    congr 1
    funext candidate
    by_cases same : candidate.1 = other
    · simp [same, ← conditions.2, conditions.1]
    · simp [same]
  simp only [kind?, find?, remove, List.find?_filter, Option.map_eq_some_iff] at stored ⊢
  obtain ⟨object, ⟨found, here, rfl⟩, rfl⟩ := stored
  exact ⟨found.2, ⟨found, kept found here, rfl⟩, rfl⟩

theorem walk_of_walks (walks : Walks fs fence links path current reached) :
    fs.walk fence links path current = .ok reached := by
  induction walks with
  | @arrived links => cases links <;> rfl
  | @here links _ _ _ searched _ ih => cases links <;> simpa [walk, walkWith, searched] using ih
  | @up links _ _ _ searched inner _ ih =>
    cases links <;> simpa [walk, walkWith, searched, inner] using ih
  | @vacant links _ _ searched free => cases links <;> simp [walk, walkWith, searched, free]
  | @entered links _ _ _ kind _ searched stored solid _ ih =>
    cases kind with
    | link target => exact absurd rfl (solid target)
    | directory => cases links <;> simpa [walk, walkWith, searched, stored] using ih
    | file => cases links <;> simpa [walk, walkWith, searched, stored] using ih
  | linked searched stored relative _ ih =>
    simpa [walk, walkWith, searched, stored, relative] using ih
  | jumped searched stored absolute unfenced _ ih =>
    simpa [walk, walkWith, searched, stored, absolute, unfenced] using ih

/-- A walk that hands links on to a walker with one link less takes the listed steps. -/
theorem walks_of_walkWith
    {follow : List (Component Name) → Location Name → Except WalkError (Reached Name)}
    (sound : ∀ {path current reached}, follow path current = .ok reached →
      ∃ fewer, links = fewer + 1 ∧ Walks fs fence fewer path current reached)
    (walked : fs.walkWith fence follow path current = .ok reached) :
    Walks fs fence links path current reached := by
  induction path generalizing current with
  | nil =>
    cases walked
    exact .arrived
  | cons component rest ih =>
    unfold walkWith at walked
    split at walked
    · cases walked
    rename_i searched
    have searched : fs.isDirectory current := by simpa using searched
    cases component with
    | here => exact .here searched (ih walked)
    | up =>
      dsimp only at walked
      split at walked
      · cases walked
      · rename_i inner
        exact .up searched inner (ih walked)
    | entry name =>
      dsimp only at walked
      split at walked
      · rename_i free
        split at walked
        · rename_i last
          subst last
          cases walked
          exact .vacant searched free
        · cases walked
      · rename_i target stored
        split at walked
        · rename_i relative
          obtain ⟨fewer, rfl, onwards⟩ := sound walked
          exact .linked searched stored (by simpa using relative) onwards
        · rename_i absolute
          split at walked
          · cases walked
          · rename_i unfenced
            obtain ⟨fewer, rfl, onwards⟩ := sound walked
            exact .jumped searched stored (by simpa using absolute) (by simpa using unfenced)
              onwards
      · rename_i stored
        exact .entered searched stored nofun (ih walked)
      · rename_i stored
        exact .entered searched stored nofun (ih walked)

theorem walks_of_walk (walked : fs.walk fence links path current = .ok reached) :
    Walks fs fence links path current reached := by
  induction links generalizing path current reached with
  | zero => exact walks_of_walkWith (fun failed => by cases failed) walked
  | succ links ih => exact walks_of_walkWith (fun onwards => ⟨links, rfl, ih onwards⟩) walked

def Reached.Within (root : Location Name) : Reached Name → Prop
  | .present location => root <+: location
  | .vacant directory _ => root <+: directory

omit [DecidableEq Name] in
theorem prefix_dropLast (inside : root <+: current) (below : current ≠ root) :
    root <+: current.dropLast := by
  obtain ⟨rest, rfl⟩ := inside
  have nonempty : rest ≠ [] := by
    rintro rfl
    simp at below
  rw [List.dropLast_append_of_ne_nil nonempty]
  exact List.prefix_append ..

namespace Walks

theorem within (walks : Walks fs (some root) links path current reached)
    (inside : root <+: current) : reached.Within root := by
  generalize fenced : some root = fence at walks
  induction walks with
  | arrived => exact inside
  | here _ _ ih => exact ih inside
  | up _ inner _ ih =>
    subst fenced
    exact ih (prefix_dropLast inside fun same => inner (by rw [same]))
  | vacant => exact inside
  | entered _ _ _ _ ih => exact ih (inside.trans (List.prefix_append ..))
  | linked _ _ _ _ ih => exact ih inside
  | jumped _ _ _ unfenced => rw [unfenced] at fenced; cases fenced

/-- A walk looks at the kinds of objects only, and goes the same way without the fence. -/
theorem congr {fence' : Option (Location Name)}
    (same : ∀ location, fs'.kind? location = fs.kind? location)
    (weaker : fence' = none ∨ fence' = fence) (walks : Walks fs fence links path current reached) :
    Walks fs' fence' links path current reached := by
  have directories (location : Location Name) : fs'.isDirectory location = fs.isDirectory location := by
    simp [isDirectory, same]
  induction walks with
  | arrived => exact .arrived
  | here searched _ ih => exact .here (by rwa [directories]) ih
  | up searched inner _ ih =>
    refine .up (by rwa [directories]) ?_ ih
    rcases weaker with rfl | rfl
    · nofun
    · exact inner
  | vacant searched free => exact .vacant (by rwa [directories]) (by rwa [same])
  | entered searched stored solid _ ih =>
    exact .entered (by rwa [directories]) (by rwa [same]) solid ih
  | linked searched stored relative _ ih =>
    exact .linked (by rwa [directories]) (by rwa [same]) relative ih
  | jumped searched stored absolute unfenced _ ih =>
    have free : fence' = none := weaker.elim id (·.trans unfenced)
    exact .jumped (by rwa [directories]) (by rwa [same]) absolute free ih

/-- The first part of a walk leads to the directory the second part starts from. -/
theorem front {first second : List (Component Name)}
    (walks : Walks fs fence links (first ++ second) current reached) (nonempty : second ≠ []) :
    ∃ middle, Walks fs fence links first current (.present middle) ∧ fs.isDirectory middle := by
  generalize joined : first ++ second = path at walks
  induction walks generalizing first with
  | arrived =>
    obtain ⟨-, rfl⟩ := List.append_eq_nil_iff.mp joined
    exact absurd rfl nonempty
  | @here links rest current reached searched onwards ih =>
    rcases List.append_eq_cons_iff.mp joined with ⟨rfl, -⟩ | ⟨tail, rfl, same⟩
    · exact ⟨_, .arrived, searched⟩
    · obtain ⟨middle, walks, directory⟩ := ih same.symm
      exact ⟨middle, .here searched walks, directory⟩
  | @up links rest current reached searched inner onwards ih =>
    rcases List.append_eq_cons_iff.mp joined with ⟨rfl, -⟩ | ⟨tail, rfl, same⟩
    · exact ⟨_, .arrived, searched⟩
    · obtain ⟨middle, walks, directory⟩ := ih same.symm
      exact ⟨middle, .up searched inner walks, directory⟩
  | vacant searched free =>
    -- A free name ends the path, so nothing of it belongs to a nonempty second part.
    rcases List.append_eq_cons_iff.mp joined with ⟨rfl, -⟩ | ⟨tail, rfl, same⟩
    · exact ⟨_, .arrived, searched⟩
    · exact absurd (List.append_eq_nil_iff.mp same.symm).2 nonempty
  | entered searched stored solid onwards ih =>
    rcases List.append_eq_cons_iff.mp joined with ⟨rfl, -⟩ | ⟨tail, rfl, same⟩
    · exact ⟨_, .arrived, searched⟩
    · obtain ⟨middle, walks, directory⟩ := ih same.symm
      exact ⟨middle, .entered searched stored solid walks, directory⟩
  | @linked links rest current name target reached searched stored relative onwards ih =>
    rcases List.append_eq_cons_iff.mp joined with ⟨rfl, -⟩ | ⟨tail, rfl, rfl⟩
    · exact ⟨_, .arrived, searched⟩
    · obtain ⟨middle, walks, directory⟩ := ih (List.append_assoc target.path tail second)
      exact ⟨middle, .linked searched stored relative walks, directory⟩
  | @jumped links rest current name target reached searched stored absolute unfenced onwards ih =>
    rcases List.append_eq_cons_iff.mp joined with ⟨rfl, -⟩ | ⟨tail, rfl, rfl⟩
    · exact ⟨_, .arrived, searched⟩
    · obtain ⟨middle, walks, directory⟩ := ih (List.append_assoc target.path tail second)
      exact ⟨middle, .jumped searched stored absolute unfenced walks, directory⟩

/--
Where objects have only been removed since a fenced walk, a free walk that still arrives somewhere
has stayed inside the fence too.
-/
theorem fenced_of_removed (shrunk : ∀ location kind, fs'.kind? location = some kind →
      fs.kind? location = some kind) {before after : Location Name}
    (earlier : Walks fs (some root) links path current (.present before))
    (walks : Walks fs' none links path current (.present after)) :
    Walks fs' (some root) links path current (.present after) := by
  generalize arrives : Reached.present after = reached at walks
  induction walks with
  | arrived => exact .arrived
  | here searched _ ih =>
    cases earlier with
    | here _ earlier => exact .here searched (ih earlier arrives)
  | up searched _ _ ih =>
    cases earlier with
    | up _ inner earlier => exact .up searched inner (ih earlier arrives)
  | vacant => cases arrives
  | entered searched stored solid _ ih =>
    have same := shrunk _ _ stored
    cases earlier with
    | entered _ _ _ earlier => exact .entered searched stored solid (ih earlier arrives)
    | linked _ stored' | jumped _ stored' =>
      rw [stored'] at same
      exact absurd (Option.some.inj same).symm (solid _)
  | linked searched stored relative _ ih =>
    have same := shrunk _ _ stored
    cases earlier with
    | entered _ stored' solid =>
      rw [stored'] at same
      exact absurd (Option.some.inj same) (solid _)
    | linked _ stored' _ earlier =>
      rw [stored'] at same
      cases same
      exact .linked searched stored relative (ih earlier arrives)
    | jumped _ _ _ unfenced => cases unfenced
  | jumped searched stored absolute _ _ ih =>
    have same := shrunk _ _ stored
    cases earlier with
    | entered _ stored' solid =>
      rw [stored'] at same
      exact absurd (Option.some.inj same) (solid _)
    | linked _ stored' relative =>
      rw [stored'] at same
      cases same
      simp [relative] at absolute
    | jumped _ _ _ unfenced => cases unfenced

end Walks

/-- The location a walk has found, whether it is taken or free. -/
def Reached.location : Reached Name → Location Name
  | .present location => location
  | .vacant directory name => directory ++ [name]

/-- There is no link in a directory, or anywhere beneath it. -/
def LinkFree (directory : Location Name) (fs : FileSystem Name Data) : Prop :=
  ∀ location target, directory <+: location → fs.kind? location ≠ some (.link target)

/-- Where it meets no link, a walk along names goes straight down. -/
theorem Walks.straight {names : List Name} (solid : LinkFree current fs)
    (walks : Walks fs fence links (names.map .entry) current reached) :
    reached.location = current ++ names := by
  induction names generalizing current with
  | nil =>
    cases walks
    exact (List.append_nil _).symm
  | cons name rest ih =>
    rw [List.map_cons] at walks
    generalize tail : rest.map Component.entry = path at walks
    cases walks with
    | vacant =>
      obtain rfl := List.map_eq_nil_iff.mp tail
      rfl
    | entered _ _ _ onwards =>
      subst tail
      have inner : LinkFree (current ++ [name]) fs :=
        fun location target below => solid location target ((List.prefix_append ..).trans below)
      simpa using ih inner onwards
    | linked _ stored | jumped _ stored => exact absurd stored (solid _ _ (List.prefix_append ..))

theorem find?_update_ne {location other : Location Name} (apart : other ≠ location)
    (f : Data → Data) : (fs.update location f).find? other = fs.find? other := by
  simp only [find?, update, List.find?_map, Option.map_map, Function.comp_def]
  cases found : fs.objects.find? fun object => object.1 == other with
  | none => rfl
  | some object =>
    have here : object.1 = other := by simpa using List.find?_some found
    simp [here, apart]

theorem find?_insert (location other : Location Name) (object : Object Name Data) :
    (fs.insert location object).find? other =
      (fs.find? other).or (if location = other then some object else none) := by
  simp only [find?, FileSystem.insert, List.find?_append, Option.map_or]
  by_cases same : location = other <;> simp [same]

end PathResolution
