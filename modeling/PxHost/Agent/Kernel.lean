import PxHost.Agent.Paths
import PxHost.Lib.PathResolution
import PxHost.Lib.Traced

/-! The system calls of the agent's file operations, with a trace of the objects they touch. -/

namespace PxHost.Agent

open PathResolution

structure Attributes where
  uid : Nat
  mode : Nat
  content : List UInt8 := []
deriving DecidableEq

abbrev Fs := FileSystem Name Attributes

abbrev Place := Location Name

inductive Errno where
  | ENOENT | ENOTDIR | EXDEV | ELOOP | EEXIST | EISDIR | ENOTEMPTY | EINVAL | EBUSY
deriving DecidableEq

inductive Action where
  | read | modify | create | remove | rename
deriving DecidableEq

structure Access where
  action : Action
  place : Place
deriving DecidableEq

/-- Everything that can go wrong in a file operation. -/
inductive FsError where
  | invalidPath
  | escapesJail (path : Path) (errno : Errno)
  | openFailed (path : Path) (errno : Errno)
  | removeFailed (path : Path) (errno : Errno)
  | mkdirFailed (path : Path) (errno : Errno)
  | renameFailed (old new : Path) (errno : Errno)
  | isDirectory (path : Path)
  | inlineLimit (path : Path) (size : Nat)
  | writeLimit (path : Path) (limit : Int)
  | notAnArchive (path : Path)
  | tooManyEntries (entries : Nat)
  | totalTooLarge
  | compressionRatio (entry : Path)
  | readEntry (entry : Path)
  | extract (entry : Path) (cause : FsError)
  | wrongSize (entry : Path) (wrote : Nat) (claimed : UInt64)
  | errno (errno : Errno)

/-- A sequence of system calls. -/
abbrev Sys := Traced Fs FsError Access

/-- How many symbolic links one resolution follows. -/
def maxSymlinks : Nat := 40

def errnoOf : WalkError → Errno
  | .missing => .ENOENT
  | .notDirectory => .ENOTDIR
  | .escapes => .EXDEV
  | .tooManyLinks => .ELOOP

def component (name : Name) : Component Name :=
  if name = [] ∨ name = dot then .here else if name = dotdot then .up else .entry name

/-- The calls may be given a fence: the directory a resolution must not leave. -/
def resolvePath (fs : Fs) (fence : Option Place) (directory : Place) (path : Path) :
    Except Errno (Reached Name) :=
  if path.isRooted && fence.isSome then .error .EXDEV
  else (fs.walk fence maxSymlinks (path.map component)
    (if path.isRooted then [] else directory)).mapError errnoOf

/-- The directory of the last component, which itself is not followed. -/
def resolveParent (fs : Fs) (directory : Place) (path : Path) : Except Errno (Place × Name) :=
  match path.getLast?.map component with
  | some (.entry name) =>
    match resolvePath fs none directory path.dropLast with
    | .error errno => .error errno
    | .ok (.vacant _ _) => .error .ENOENT
    | .ok (.present parent) =>
      if fs.isDirectory parent then .ok (parent, name) else .error .ENOTDIR
  | _ => .error .EINVAL

structure OpenFlags where
  write : Bool := false
  create : Bool := false
  trunc : Bool := false
  dir : Bool := false
deriving DecidableEq

/-- Opening resolves beneath the directory and follows links, the last one included. -/
def openat2 (directory : Place) (path : Path) (flags : OpenFlags) (mode : Nat) :
    Sys (Except Errno Place) := fun fs =>
  match resolvePath fs (some directory) directory path with
  | .error errno => (.ok (.error errno), fs, [])
  | .ok (.vacant parent name) =>
    if flags.create then
      (.ok (.ok (parent ++ [name])), fs.insert (parent ++ [name]) ⟨.file, { uid := 0, mode }⟩,
        [⟨.modify, parent⟩, ⟨.create, parent ++ [name]⟩])
    else (.ok (.error .ENOENT), fs, [])
  | .ok (.present place) =>
    if fs.isDirectory place then
      if flags.write then (.ok (.error .EISDIR), fs, [])
      else (.ok (.ok place), fs, [⟨.read, place⟩])
    else if flags.dir then (.ok (.error .ENOTDIR), fs, [])
    else if flags.trunc then
      (.ok (.ok place), fs.update place fun a => { a with content := [] }, [⟨.modify, place⟩])
    else (.ok (.ok place), fs, [⟨.read, place⟩])

/-- Creating a directory follows links in every component but the last. -/
def mkdirat (directory : Place) (path : Path) (mode : Nat) : Sys (Except Errno Unit) := fun fs =>
  match resolveParent fs directory path with
  | .error .EINVAL => (.ok (.error .EEXIST), fs, [])
  | .error errno => (.ok (.error errno), fs, [])
  | .ok (parent, name) =>
    if (fs.kind? (parent ++ [name])).isSome then (.ok (.error .EEXIST), fs, [])
    else (.ok (.ok ()), fs.insert (parent ++ [name]) ⟨.directory, { uid := 0, mode }⟩,
      [⟨.modify, parent⟩, ⟨.create, parent ++ [name]⟩])

/-- Why an object cannot be unlinked, as a directory or as anything else. -/
def unlinkRefused (fs : Fs) (place : Place) (dir : Bool) : Option Errno :=
  match fs.kind? place, dir with
  | none, _ => some .ENOENT
  | some .directory, true => if fs.names place = [] then none else some .ENOTEMPTY
  | some .directory, false => some .EISDIR
  | some _, true => some .ENOTDIR
  | some _, false => none

def unlinkat (directory : Place) (path : Path) (dir : Bool) : Sys (Except Errno Unit) := fun fs =>
  match resolveParent fs directory path with
  | .error errno => (.ok (.error errno), fs, [])
  | .ok (parent, name) =>
    match unlinkRefused fs (parent ++ [name]) dir with
    | some errno => (.ok (.error errno), fs, [])
    | none => (.ok (.ok ()), fs.remove (parent ++ [name]),
        [⟨.modify, parent⟩, ⟨.remove, parent ++ [name]⟩])

/-- Why an object cannot take a new name. -/
def renameRefused (fs : Fs) (old new : Place) : Option Errno :=
  match fs.kind? old, fs.kind? new with
  | none, _ => some .ENOENT
  | some _, none => if old.isPrefixOf new then some .EINVAL else none
  | some .directory, some .directory =>
    if old.isPrefixOf new then some .EINVAL
    else if fs.names new = [] then none else some .ENOTEMPTY
  | some .directory, some _ => some .ENOTDIR
  | some _, some .directory => some .EISDIR
  | some _, some _ => none

def renameat (directory : Place) (old new : Path) : Sys (Except Errno Unit) := fun fs =>
  match resolveParent fs directory old, resolveParent fs directory new with
  | .error .EINVAL, _ => (.ok (.error .EBUSY), fs, [])
  | .error errno, _ => (.ok (.error errno), fs, [])
  | _, .error .EINVAL => (.ok (.error .EBUSY), fs, [])
  | _, .error errno => (.ok (.error errno), fs, [])
  | .ok (parent, name), .ok (parent', name') =>
    if (fs.kind? (parent ++ [name])).isSome ∧ parent ++ [name] = parent' ++ [name'] then
      (.ok (.ok ()), fs, [])
    else match renameRefused fs (parent ++ [name]) (parent' ++ [name']) with
      | some errno => (.ok (.error errno), fs, [])
      | none => (.ok (.ok ()), fs.move (parent ++ [name]) (parent' ++ [name']),
          [⟨.modify, parent⟩, ⟨.rename, parent ++ [name]⟩, ⟨.modify, parent'⟩,
            ⟨.create, parent' ++ [name']⟩])

def modifyOpen (place : Place) (f : Attributes → Attributes) : Sys Unit := fun fs =>
  (.ok (), fs.update place f, [⟨.modify, place⟩])

def fchown (place : Place) (uid : Nat) : Sys Unit := modifyOpen place fun a => { a with uid }

def fchmod (place : Place) (mode : Nat) : Sys Unit := modifyOpen place fun a => { a with mode }

def writeOpen (place : Place) (content : List UInt8) : Sys Unit :=
  modifyOpen place fun a => { a with content }

structure FileInfo where
  isDir : Bool
  size : Nat
  mode : Nat
deriving DecidableEq

def readOpen {α : Type} (place : Place) (view : Fs → α) : Sys α := fun fs =>
  (.ok (view fs), fs, [⟨.read, place⟩])

def contentAt (place : Place) (fs : Fs) : List UInt8 :=
  ((fs.find? place).map (·.data.content)).getD []

def fstat (place : Place) : Sys FileInfo := readOpen place fun fs =>
  { isDir := fs.isDirectory place
    size := (contentAt place fs).length
    mode := ((fs.find? place).map (·.data.mode)).getD 0 }

def readAll (place : Place) : Sys (List UInt8) := readOpen place (contentAt place)

def readdirnames (place : Place) : Sys (List Name) := readOpen place (·.names place)

end PxHost.Agent
