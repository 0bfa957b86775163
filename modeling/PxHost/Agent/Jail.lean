import PxHost.Agent.Kernel

/-! The file operations of one server, each resolved against the root of its jail. -/

namespace PxHost.Agent

open Traced

def maxPathBytes : Nat := 4096

def maxComponentBytes : Nat := 255

def defaultCreateMode : Nat := 0o644

def defaultDirMode : Nat := 0o750

def maxEditableFileBytes : Nat := 2 <<< 20

/-- A parent component is refused, not resolved; everything else is cleaned below the root. -/
def sanitize (relPath : Path) : Except FsError Path :=
  if relPath = [[]] then .ok [dot]
  else if !validString relPath.toBytes || relPath.toBytes.contains 0 then .error .invalidPath
  else if relPath.toBytes.length > maxPathBytes then .error .invalidPath
  else if relPath.contains dotdot then .error .invalidPath
  else match cleanComponents true relPath with
    | [] => .ok [dot]
    | clean =>
      if clean.any fun c => c = [] || c = dot || decide (c.length > maxComponentBytes) then
        .error .invalidPath
      else .ok clean

section Primitives

variable (jail : Place)

/-- The one primitive that asks the kernel to stay beneath the root. -/
def openRelative (relPath : Path) (flags : OpenFlags) (mode : Nat) : Sys Place := do
  match ← openat2 jail relPath flags mode with
  | .ok place => return place
  | .error errno =>
    if errno = .EXDEV ∨ errno = .ELOOP then fail (.escapesJail relPath errno)
    else fail (.openFailed relPath errno)

def unlinkRelative (relPath : Path) (dir : Bool) : Sys Unit := do
  match ← unlinkat jail relPath dir with
  | .ok _ => return ()
  | .error errno => fail (.removeFailed relPath errno)

def mkdirRelative (relPath : Path) (mode : Nat) : Sys Unit := do
  match ← mkdirat jail relPath mode with
  | .ok _ => return ()
  | .error errno => fail (.mkdirFailed relPath errno)

def renameRelative (oldRel newRel : Path) : Sys Unit := do
  match ← renameat jail oldRel newRel with
  | .ok _ => return ()
  | .error errno => fail (.renameFailed oldRel newRel errno)

def resolve (relPath : Path) (flags : OpenFlags) (mode : Nat) : Sys Place := do
  let clean ← liftExcept (sanitize relPath)
  openRelative jail clean flags mode

def stat (clean : Path) : Sys FileInfo := do
  let file ← openRelative jail clean {} 0
  fstat file

end Primitives

structure Entry where
  name : Name
  isDir : Bool
  size : Nat
  mode : Nat
deriving DecidableEq

/-- Directories first, then by name. -/
def Entry.before (left right : Entry) : Bool :=
  if left.isDir != right.isDir then left.isDir else !right.name.lex left.name

namespace Jail

variable (jail : Place)

def list (relPath : Path) : Sys (List Entry) := do
  let clean ← liftExcept (sanitize relPath)
  let dir ← openRelative jail clean { dir := true } 0
  let names ← readdirnames dir
  let entries ← names.foldlM (fun entries name => do
    match ← attempt (stat jail (Path.join clean [name])) with
    | .ok info => return entries ++ [⟨name, info.isDir, info.size, info.mode⟩]
    -- An entry that cannot be opened is left out of the listing.
    | .error _ => return entries) []
  return entries.mergeSort Entry.before

def openFile (relPath : Path) : Sys Place := resolve jail relPath {} 0

def readFile (relPath : Path) : Sys (List UInt8) := do
  let file ← openFile jail relPath
  let info ← fstat file
  if info.isDir then fail (.isDirectory relPath)
  else if info.size > maxEditableFileBytes then fail (.inlineLimit relPath info.size)
  else
    let content ← readAll file
    return content.take (maxEditableFileBytes + 1)

/-- The file is handed to its owner before the first byte is written. -/
def writeFile (relPath : Path) (content : List UInt8) (uid : Nat) (maxBytes : Int) : Sys Nat := do
  let file ← resolve jail relPath { write := true, create := true, trunc := true } 0o600
  fchown file uid
  let limited := content.take (maxBytes + 1).toNat
  writeOpen file limited
  if (limited.length : Int) > maxBytes then fail (.writeLimit relPath maxBytes)
  else
    fchmod file defaultCreateMode
    return limited.length

/-- The directory is made by its full path, and only then opened beneath the root. -/
def mkdir (relPath : Path) (uid : Nat) : Sys Unit := do
  let clean ← liftExcept (sanitize relPath)
  mkdirRelative jail clean defaultDirMode
  let dir ← resolve jail relPath { dir := true } 0
  fchown dir uid

/--
Delete an object, with everything under it if asked to. Every level makes the path longer, and
`sanitize` refuses one beyond `maxPathBytes`.
-/
def removeLevels : Nat → Path → Bool → Sys Unit
  | 0, _, _ => fail .invalidPath
  | levels + 1, relPath, recursive => do
    let clean ← liftExcept (sanitize relPath)
    let info ← stat jail clean
    if !info.isDir then unlinkRelative jail clean false
    else if !recursive then unlinkRelative jail clean true
    else
      let entries ← list jail clean
      entries.foldlM (fun _ entry => removeLevels levels (Path.join clean [entry.name]) true) ()
      unlinkRelative jail clean true

def remove (relPath : Path) (recursive : Bool) : Sys Unit :=
  removeLevels jail (maxPathBytes + 1) relPath recursive

def rename (oldRel newRel : Path) : Sys Unit := do
  let oldClean ← liftExcept (sanitize oldRel)
  let newClean ← liftExcept (sanitize newRel)
  renameRelative jail oldClean newClean

def chmod (relPath : Path) (mode : Nat) : Sys Unit := do
  let file ← resolve jail relPath {} 0
  fchmod file (mode &&& 0o777)

end Jail

end PxHost.Agent
