import PxHost.Agent.Jail

/-! Packing files of a jail into an archive, and unpacking an archive into a jail. -/

namespace PxHost.Agent

open Traced

/-- One entry of an archive, as its directory and its data describe it. -/
structure ZipEntry where
  name : Path
  /-- A link, a device, a pipe or a socket. -/
  special : Bool
  isDir : Bool
  perm : Nat
  uncompressedSize : UInt64
  compressedSize : UInt64
  /-- What the data expands to, unless it is damaged. -/
  content : Option (List UInt8)
deriving DecidableEq

/-- The archive format, which the agent takes from a library. -/
structure ArchiveFormat where
  parse : List UInt8 → Option (List ZipEntry)
  render : List (Path × List UInt8) → List UInt8

def maxArchiveEntries : Nat := 100000

def maxArchiveTotalUncompBytes : Int64 := 10737418240

def ratioCheckThresholdBytes : UInt64 := 1048576

def maxCompressionRatio : Nat := 1000

/-- The sizes an archive claims, added up as signed numbers of 64 bits. -/
def checkSizes : List ZipEntry → Int64 → Except FsError Unit
  | [], _ => .ok ()
  | zf :: rest, total =>
    let total := total + zf.uncompressedSize.toInt64
    if total > maxArchiveTotalUncompBytes then .error .totalTooLarge
    else if zf.uncompressedSize > ratioCheckThresholdBytes ∧ zf.compressedSize > 0 ∧
        zf.uncompressedSize.toNat > maxCompressionRatio * zf.compressedSize.toNat then
      .error (.compressionRatio zf.name)
    else checkSizes rest total

/-- The check `os.IsExist` looks through errors of the system, never through a wrapped one. -/
def osIsExist : FsError → Bool
  | .errno .EEXIST => true
  | _ => false

namespace Jail

variable (jail : Place)

/-- Make a directory whose parent is there, unless it has appeared meanwhile. -/
def makeLevel (clean : Path) (mode uid : Nat) : Sys Unit := do
  match ← attempt (mkdirRelative jail clean mode) with
  | .error error => if osIsExist error then return () else fail error
  | .ok _ =>
    let dir ← openRelative jail clean { dir := true } 0
    fchown dir uid

/-- Create a directory and every missing ancestor, as many levels as the path has. -/
def mkdirAllLevels : Nat → Path → Nat → Nat → Sys Unit
  | 0, _, _, _ => fail .invalidPath
  | levels + 1, relPath, mode, uid => do
    let clean ← liftExcept (sanitize relPath)
    if clean = [dot] then return ()
    else match ← attempt (stat jail clean) with
      | .ok _ => return ()
      | .error _ =>
        if parentOf clean ≠ [dot] then
          mkdirAllLevels levels (parentOf clean) mode uid
          makeLevel jail clean mode uid
        else makeLevel jail clean mode uid

def mkdirAllRelative (relPath : Path) (mode uid : Nat) : Sys Unit :=
  mkdirAllLevels jail (relPath.length + 1) relPath mode uid

/-- Unpack one entry that is not special; the answer is whether it counts as extracted. -/
def extractEntry (destRel : Path) (zf : ZipEntry) (uid : Nat) : Sys Bool := do
  let entryRel := Path.join destRel zf.name
  if zf.isDir then
    let clean ← liftExcept (sanitize entryRel)
    let _ ← attempt (mkdirAllRelative jail clean defaultDirMode uid)
    return false
  else
    mkdirAllRelative jail (parentOf entryRel) defaultDirMode uid
    let some content := zf.content | fail (.readEntry zf.name)
    let safeMode := if zf.perm &&& 0o777 = 0 then defaultCreateMode else zf.perm &&& 0o777
    let limit := (zf.uncompressedSize.toInt64 + 1).toInt
    match ← attempt (writeFile jail entryRel (content.take limit.toNat) uid limit) with
    | .error error => fail (.extract zf.name error)
    | .ok wrote =>
      if UInt64.ofNat wrote ≠ zf.uncompressedSize then
        fail (.wrongSize zf.name wrote zf.uncompressedSize)
      else
        chmod jail entryRel safeMode
        return true

/-- What was unpacked and skipped until the end, or until the error that stopped it. -/
def extractAll (destRel : Path) (uid : Nat) :
    List ZipEntry → Nat → List Path → Sys (Nat × List Path × Option FsError)
  | [], extracted, skipped => return (extracted, skipped, none)
  | zf :: rest, extracted, skipped => do
    if zf.special then extractAll destRel uid rest extracted (skipped ++ [zf.name])
    else match ← attempt (extractEntry jail destRel zf uid) with
      | .error error => return (extracted, skipped, some error)
      | .ok counted =>
        extractAll destRel uid rest (if counted then extracted + 1 else extracted) skipped

def decompress (format : ArchiveFormat) (srcRel destRel : Path) (uid : Nat) :
    Sys (Nat × List Path × Option FsError) := do
  let srcFile ← openFile jail srcRel
  let content ← readAll srcFile
  let some entries := format.parse content | fail (.notAnArchive srcRel)
  if entries.length > maxArchiveEntries then fail (.tooManyEntries entries.length)
  else
    liftExcept (checkSizes entries 0)
    extractAll jail destRel uid entries 0 []

/-- The files packed so far, and the error that stopped the packing. -/
structure Packed where
  files : List (Path × List UInt8) := []
  stopped : Option FsError := none

/-- Collect a file, or the files below a directory, under the names they are asked for by. -/
def addToZipLevels : Nat → Packed → Path → Sys Packed
  | 0, packed, _ => return { packed with stopped := some .invalidPath }
  | levels + 1, packed, rel => do
    match ← attempt (do stat jail (← liftExcept (sanitize rel))) with
    | .error error => return { packed with stopped := some error }
    | .ok info =>
      if info.isDir then
        match ← attempt (list jail rel) with
        | .error error => return { packed with stopped := some error }
        | .ok entries =>
          entries.foldlM (fun packed entry =>
            if packed.stopped.isSome then return packed
            else addToZipLevels levels packed (Path.join rel [entry.name])) packed
      else
        match ← attempt (do readAll (← openFile jail rel)) with
        | .error error => return { packed with stopped := some error }
        | .ok content => return { packed with files := packed.files ++ [(rel, content)] }

def addToZip (packed : Packed) (rel : Path) : Sys Packed :=
  addToZipLevels jail (maxPathBytes + 1) packed rel

/-- The archive is closed with what it holds by then, also when a file could not be read. -/
def compress (format : ArchiveFormat) (relPaths : List Path) (destRel : Path) (uid : Nat) :
    Sys Unit := do
  let destFile ← resolve jail destRel { write := true, create := true, trunc := true } 0o600
  fchown destFile uid
  let packed ← relPaths.foldlM (fun packed rel =>
    if packed.stopped.isSome then return packed else addToZip jail packed rel) ({} : Packed)
  writeOpen destFile (format.render packed.files)
  match packed.stopped with
  | some error => fail error
  | none => fchmod destFile defaultCreateMode

end Jail

end PxHost.Agent
