import Mathlib.Algebra.Ring.Int.Defs
import Mathlib.Algebra.Ring.Nat
import PxHost.Agent.Paths
import PxHost.Lib.Fallible
import PxHost.Lib.Table

/-!
What the installation of a modpack makes of the files it stages, and what the single check of the
disk limit before the first download says about the tree it activates.
-/

namespace PxHost.ModpackQuota

open Store
open Agent (Path bytes)

abbrev Content := List UInt8

/-- The regular files of a directory under their cleaned paths. -/
abbrev Tree := Table Path Content

/-- The sum `Jail.DiskUsageBytes` comes to where there are no links. -/
def usage (tree : Tree) : Nat := tree.sum fun _ content => content.length

inductive Write where
  | put (path : Path) (content : Content)
  | remove (path : Path)
deriving DecidableEq

/-- A file is written in the place of whatever was there. -/
def write (tree : Tree) : Write → Tree
  | .put path content => tree.upsert path content fun _ => content
  | .remove path => tree.erase path

/-- A file of the index, with what its download brings and what the agent finds out about it. -/
structure IndexFile where
  path : Path
  fileSize : Int
  body : Content
  /-- The source is allowed and answers, and the checksum of what it sends is the listed one. -/
  verified : Bool
  clientOnly : Bool
deriving DecidableEq

structure PackEntry where
  name : Path
  isDir : Bool
  /-- A link, a device, a pipe or a socket. -/
  special : Bool
  uncompressedSize : Nat
  data : Content
deriving DecidableEq

structure Pack where
  serverFiles : List IndexFile
  entries : List PackEntry
deriving DecidableEq

inductive InstallError where
  | declaredSize (path : Path)
  | quotaExceeded
  | invalidPath (path : Path)
  | download (path : Path)
  | unsafeEntry (name : Path)
  | sizeMismatch (name : Path)
deriving DecidableEq

def oneMiB : Int := 1048576

def maxExpandedBytes : Int := 10737418240

/-- One part in a hundred, but never less than a mebibyte. -/
def downloadSizeTolerance (expected : Int) : Int :=
  if expected / 100 < oneMiB then oneMiB else expected / 100

def declaredSizes : Int → List IndexFile → Except InstallError Int
  | incoming, [] => .ok incoming
  | incoming, file :: rest =>
    if file.fileSize ≤ 0 ∨ file.fileSize > maxExpandedBytes ∨
        incoming > maxExpandedBytes - file.fileSize then .error (.declaredSize file.path)
    else declaredSizes (incoming + file.fileSize) rest

/-- The part of a name after one of the two prefixes for overrides. -/
def overrideRel? : Path → Option Path
  | top :: first :: rest =>
    if top = bytes "overrides" ∨ top = bytes "server-overrides" then some (first :: rest) else none
  | _ => none

def overrideSizes (entries : List PackEntry) : Int :=
  (entries.map fun entry =>
    if (overrideRel? entry.name).isSome then (entry.uncompressedSize : Int) else 0).sum

/-- A limit that is not positive means no limit. -/
def checkQuota (used : Nat) (addingBytes limitMb : Int) : Except InstallError Unit :=
  if limitMb ≤ 0 then .ok ()
  else if (used : Int) + addingBytes > limitMb * oneMiB then .error .quotaExceeded
  else .ok ()

/-- The cleaned path below the staging directory, unless it leads out of it. -/
def safeRelative (path : Path) : Option Path :=
  if path = [[]] ∨ path.any (·.contains 92) then none
  else
    let clean := Agent.cleanComponents false path
    if path.isRooted ∨ clean = [] ∨ clean.head? = some Agent.dotdot then none else some clean

/-- The name a download has until its checksum is found to be right. -/
def partOf (dest : Path) : Path := dest.dropLast ++ [dest.getLastD [] ++ bytes ".part"]

/-- What one download does to the files: it is renamed once it is verified. -/
def IndexFile.writes (file : IndexFile) (dest : Path) : List Write :=
  [.put (partOf dest) file.body, .remove (partOf dest), .put dest file.body] ++
    -- A mod for clients only is seen as such once it is there.
    if file.clientOnly then [.remove dest] else []

/-- A download may be longer than declared, as long as its checksum is right. -/
def downloadVerified (file : IndexFile) : Except InstallError (List Write) :=
  match safeRelative file.path with
  | none => .error (.invalidPath file.path)
  | some dest =>
    if file.verified = false ∨
        (file.body.length : Int) > file.fileSize + downloadSizeTolerance file.fileSize then
      .error (.download file.path)
    else .ok (file.writes dest)

def extractOverride (entry : PackEntry) : Except InstallError (List Write) :=
  match overrideRel? entry.name with
  | none | some [[]] => .ok []
  | some rel =>
    match safeRelative rel with
    | none => .error (.invalidPath rel)
    | some dest =>
      if entry.special then .error (.unsafeEntry entry.name)
      else if entry.isDir then .ok []
      else if entry.data.length ≠ entry.uncompressedSize then .error (.sizeMismatch entry.name)
      else .ok [.put dest entry.data]

def newline : UInt8 := 10

def carriageReturn : UInt8 := 13

def trimSuffix (byte : UInt8) (line : Content) : Content :=
  if line.getLast? = some byte then line.dropLast else line

/-- The lines with the port in the place of the first line for it, or at their end. -/
def replacePort (want : Content) : List Content → Option (List Content)
  | [] => some [want]
  | line :: rest =>
    if (bytes "server-port=").isPrefixOf (trimSuffix carriageReturn line) then
      if trimSuffix carriageReturn line = want then none else some (want :: rest)
    else (replacePort want rest).map (line :: ·)

def rewriteServerPort (content : Content) (port : Nat) : Content :=
  let lines := if content = [] then []
    else (content.reverse.dropWhile (· == newline)).reverse.splitOn newline
  match replacePort (bytes s!"server-port={port}") lines with
  | none => content
  | some lines => [newline].intercalate lines ++ [newline]

def serverProperties : Path := [bytes "server.properties"]

/-- The port is written into whatever file the pack has left, or into a new one. -/
def setServerPort (tree : Tree) (port : Nat) : List Write :=
  if port = 0 then []
  else [.put serverProperties (rewriteServerPort ((tree.get? serverProperties).getD []) port)]

/-- What is promised to fit: the sizes of the index and of the overrides in the archive. -/
def incoming (pack : Pack) : Except InstallError Int := do
  return (← declaredSizes 0 pack.serverFiles) + overrideSizes pack.entries

def stagedWrites (tree : Tree) (pack : Pack) (diskLimitMb : Int) (port : Nat) :
    Except InstallError (List Write) := do
  checkQuota (usage tree) (← incoming pack) diskLimitMb
  let downloads ← pack.serverFiles.mapM downloadVerified
  let overrides ← pack.entries.mapM extractOverride
  let writes := downloads.flatten ++ overrides.flatten
  return writes ++ setServerPort (writes.foldl write tree) port

/-- The tree that is activated. -/
def installModpack (tree : Tree) (pack : Pack) (diskLimitMb : Int) (port : Nat) :
    Except InstallError Tree := do
  return (← stagedWrites tree pack diskLimitMb port).foldl write tree

/-- The file that an entry of the archive is extracted to. -/
def PackEntry.target? (entry : PackEntry) : Option Path :=
  if entry.isDir then none else (overrideRel? entry.name).bind safeRelative

/-- An entry is extracted to its target, or not at all. -/
theorem extractOverride_ok {entry : PackEntry} {writes : List Write}
    (extracted : extractOverride entry = .ok writes) :
    writes = (entry.target?.map (Write.put · entry.data)).toList := by
  unfold extractOverride at extracted
  unfold PackEntry.target?
  split at extracted
  · next outside =>
    cases extracted
    simp [outside]
  · next nothing =>
    cases extracted
    have none : safeRelative [[]] = none := rfl
    simp [nothing, none]
  · next rel _ inside =>
    split at extracted
    · cases extracted
    · next dest safe =>
      split at extracted
      · cases extracted
      split at extracted
      · next directory =>
        cases extracted
        simp [directory]
      · next file =>
        split at extracted
        · cases extracted
        · cases extracted
          simp [file, inside, safe]

section Accounting

def Write.path : Write → Path
  | put path _ | remove path => path

/-- What a write leaves in its file. -/
def Write.content? : Write → Option Content
  | put _ content => some content
  | remove _ => none

theorem get?_write (tree : Tree) (w : Write) (path : Path) :
    (write tree w).get? path = if path = w.path then w.content? else tree.get? path := by
  cases w with
  | put file data =>
    rw [write, Table.get?_upsert]
    cases tree.get? file <;> rfl
  | remove file => exact Table.get?_erase ..

end Accounting

section Limit

/-- What the installation of a file leaves: nothing under the name it had at first, and the file
itself unless it is for clients only. -/
def IndexFile.leaves (file : IndexFile) : List Write :=
  (safeRelative file.path).elim [] fun dest =>
    [.remove (partOf dest), if file.clientOnly then .remove dest else .put dest file.body]

def PackEntry.leaves (entry : PackEntry) : List Write :=
  (entry.target?.map (Write.put · entry.data)).toList

/-- What the pack leaves in the files of the server, a later one in the place of an earlier one. -/
def Pack.leaves (pack : Pack) : List Write :=
  pack.serverFiles.flatMap IndexFile.leaves ++ pack.entries.flatMap PackEntry.leaves

/-- What the index and the archive say that the pack takes. -/
def Pack.declared (pack : Pack) : Int :=
  (pack.serverFiles.map (·.fileSize)).sum + overrideSizes pack.entries

variable {pack : Pack} {tree : Tree}

end Limit

section Overrides

variable {tree : Tree} {entries : List PackEntry} {writes : List (List Write)} {path : Path}

/-- Of the entries for one file, the last in the archive is the one that stays. -/
theorem get?_extracted (extracted : entries.mapM extractOverride = .ok writes) :
    (writes.flatten.foldl write tree).get? path =
      ((entries.reverse.find? (·.target? = some path)).map (·.data)).or (tree.get? path) := by
  induction entries generalizing tree writes with
  | nil =>
    cases extracted
    rfl
  | cons entry entries ih =>
    simp only [List.mapM_cons, Fallible.bind_eq_ok_iff] at extracted
    obtain ⟨first, here, rest, later, done⟩ := extracted
    cases done
    rw [List.flatten_cons, List.foldl_append, ih later, extractOverride_ok here, List.reverse_cons,
      List.find?_append, Option.map_or, Option.or_assoc]
    -- A later entry for the file decides as before, and this one where there is none.
    congr 1
    cases target : entry.target? with
    | none => simp [target]
    | some file =>
      by_cases same : path = file
      · simp [target, get?_write, Write.path, Write.content?, same]
      · simp [target, get?_write, Write.path, same, Ne.symm same]

/--
A file of the overrides for servers has their contents exactly if the last entry of the archive for
that file has, whichever of the two sets it is from.
-/
theorem server_overrides_win_iff (server : PackEntry)
    (extracted : entries.mapM extractOverride = .ok writes) (listed : server ∈ entries)
    (target : server.target? = some path) :
    (writes.flatten.foldl write tree).get? path = some server.data ↔
      ∃ last, entries.reverse.find? (·.target? = some path) = some last ∧ last.data = server.data := by
  rw [get?_extracted extracted]
  cases found : entries.reverse.find? (·.target? = some path) with
  | none =>
    have absent := List.find?_eq_none.mp found server (List.mem_reverse.mpr listed)
    simp [target] at absent
  | some last => simp

def sampleEntry (top text : String) : PackEntry :=
  ⟨[bytes top, bytes "ops.json"], false, false, (bytes text).length, bytes text⟩

def sampleExtracted (entries : List PackEntry) : Option Content :=
  (entries.mapM extractOverride).toOption.bind fun writes =>
    (writes.flatten.foldl write .empty).get? [bytes "ops.json"]

theorem sample_server_overrides_win_iff :
    ∃ writes, [sampleEntry "overrides" "a", sampleEntry "server-overrides" "b"].mapM extractOverride =
        .ok writes ∧
      (writes.flatten.foldl write .empty).get? [bytes "ops.json"] = some (bytes "b") := by
  have accepted : Fallible.Succeeds
      ([sampleEntry "overrides" "a", sampleEntry "server-overrides" "b"].mapM extractOverride) := by
    decide +kernel
  obtain ⟨writes, extracted⟩ := accepted
  refine ⟨writes, extracted, (server_overrides_win_iff (sampleEntry "server-overrides" "b") extracted
    (by simp) (by decide +kernel)).mpr ⟨_, by decide +kernel, rfl⟩⟩

/-- In the other order the file that is not meant for servers stays. -/
theorem overrides_win :
    sampleExtracted [sampleEntry "server-overrides" "b", sampleEntry "overrides" "a"] =
      some (bytes "a") := by
  decide +kernel

end Overrides

end PxHost.ModpackQuota
