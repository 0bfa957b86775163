import Mathlib.Algebra.Ring.Nat
import PxHost.Agent.Archive
import PxHost.Lib.Interleaving
import PxHost.Lib.Table

/-! The requests that write files of a server, the check of its disk limit, and what they write. -/

namespace PxHost.Quota

open Interleaving Store
open Agent (Path ZipEntry)

abbrev Inode := Nat

/-- A request with the length its sender declared; an archive operation has none. -/
structure Ticket where
  id : Nat
  declared : Option Int64
deriving DecidableEq

structure State where
  /-- The sizes of the files below the data directory. -/
  files : Table Inode Nat
  next : Nat
  /-- Since the request began to measure, no other one has changed a file. -/
  undisturbed : Nat → Bool

def State.usage (s : State) : Nat := s.files.sum fun _ size => size

/-- The change of a file disturbs every other request. -/
def State.change (s : State) (ticket : Ticket) (files : Table Inode Nat) : State :=
  { s with files, undisturbed := fun id => s.undisturbed id && id == ticket.id }

/-- Work that can fail and that changes no file. -/
inductive Work where
  | verifyToken
  | readBody
  | chown
  | chmod
  | openArchive
  | addToZip
  | sanitize
  | mkdirAll
deriving DecidableEq

inductive Call where
  | arrive (declared : Option Int64)
  | respond (ticket : Ticket)
  | beginWalk (ticket : Ticket)
  | endWalk (ticket : Ticket)
  /-- Open a file to be written from its start, and create it if it is missing. -/
  | openTrunc (ticket : Ticket) (path : Path)
  | append (ticket : Ticket) (file : Inode) (bytes : Nat)
  | attempt (work : Work)
deriving DecidableEq

@[reducible] def Call.Answer : Call → Type
  | arrive _ => Nat
  | respond _ | beginWalk _ => Unit
  | endWalk _ => Option Int64
  | openTrunc .. => Option Inode
  | append .. | attempt _ => Bool

/-- How a call ends: it fails, succeeds, finds a file or a sum, or writes some bytes. -/
inductive Choice where
  | fails
  | succeeds
  | opens (file : Inode)
  | sums (total : Int64)
  | writes (bytes : Nat)
deriving DecidableEq

def Choice.written (choice : Choice) (bytes : Nat) : Nat :=
  match choice with
  | .succeeds => bytes
  | .writes most => min most bytes
  | _ => 0

/-- What a call does; a walk that is disturbed may come to any sum. -/
def answer? (_ : Nat) (call : Call) (choice : Choice) (s : State) : Option (call.Answer × State) :=
  match call with
  | .arrive _ => some (s.next, { s with next := s.next + 1 })
  | .respond _ => some ((), s)
  | .beginWalk ticket =>
    some ((), { s with undisturbed := Function.update s.undisturbed ticket.id true })
  | .endWalk ticket =>
    match choice with
    -- A walk that nobody disturbs sums up the files there are.
    | .succeeds => if s.undisturbed ticket.id then some (some (Int64.ofNat s.usage), s) else none
    | .sums total => if s.undisturbed ticket.id then none else some (some total, s)
    | _ => some (none, s)
  | .openTrunc ticket _ =>
    match choice with
    -- Which file a path leads to is up to the links there are; a missing one is new and empty.
    | .opens file => some (some file, s.change ticket (s.files.upsert file 0 fun _ => 0))
    | _ => some (none, s)
  | .append ticket file bytes =>
    -- An append can be cut short, and what it has written stays.
    some (choice.written bytes == bytes,
      s.change ticket (s.files.modify file (· + choice.written bytes)))
  | .attempt _ => some (choice == .succeeds, s)

abbrev Routine := Program Call.Answer

@[simp] def ask (call : Call) : Routine call.Answer := Program.perform call

@[simp] def attempt (work : Work) : Routine Bool := ask (.attempt work)

section Operations

/-- Five gibibytes. -/
def maxUploadBytes : Int64 := 5368709120

/-- The size of the pieces in which files are copied. -/
def copyBuffer : Nat := 32768

/-- The chunks of a stream up to a number of bytes. -/
def limitReader : Nat → List Nat → List Nat
  | _, [] => []
  | limit, bytes :: rest =>
    if bytes ≤ limit then bytes :: limitReader (limit - bytes) rest else [limit]

/-- A body with a declared length ends there, whatever else its sender sends. -/
def requestBody (declared : Int64) (sent : List Nat) : List Nat :=
  if declared < 0 then sent else limitReader declared.toInt.toNat sent

def checkQuota (ticket : Ticket) (addingBytes limitMb : Int64) : Routine Bool := do
  -- A limit that is not positive means no limit.
  if limitMb ≤ 0 then return true
  ask (.beginWalk ticket)
  match ← ask (.endWalk ticket) with
  | none => return false
  -- Both sides are machine integers: an unknown length is -1, and a huge one wraps around.
  | some used => return !(limitMb * 1024 * 1024 < used + addingBytes)

def copy (ticket : Ticket) (file : Inode) : List Nat → Routine Bool
  | [] => return true
  | bytes :: rest => do
    if !(← ask (.append ticket file bytes)) then return false
    copy ticket file rest

/-- The method `Jail.WriteFile`; the bytes that show a stream to be too long stay in the file. -/
def writeFile (ticket : Ticket) (path : Path) (stream : List Nat) (maxBytes : Int64) :
    Routine Bool := do
  match ← ask (.openTrunc ticket path) with
  | none => return false
  | some file =>
    if !(← attempt .chown) then return false
    -- One byte more than allowed is read, so that a stream that is too long shows.
    let limited := limitReader (maxBytes + 1).toInt.toNat stream
    if !(← copy ticket file limited) then return false
    if maxBytes.toInt < limited.sum then return false
    attempt .chmod

def checkedWrite (limitMb : Int64) (path : Path) (declared : Int64) (sent : List Nat)
    (maxBytes : Int64) : Routine Unit := do
  let ticket : Ticket := ⟨← ask (.arrive (some declared)), some declared⟩
  -- Nothing is reserved between the check and the write.
  if ← checkQuota ticket declared limitMb then
    let _ ← writeFile ticket path (requestBody declared sent) maxBytes
  ask (.respond ticket)

def handleFilesWrite (limitMb : Int64) (path : Path) (declared : Int64) (sent : List Nat) :
    Routine Unit :=
  checkedWrite limitMb path declared sent maxUploadBytes

/-- The token of an upload may lower the limit of a single write. -/
def handleFilesUpload (limitMb : Int64) (path : Path) (declared : Int64) (sent : List Nat)
    (tokenMaxBytes : Int64) : Routine Unit := do
  if !(← attempt .verifyToken) then return
  checkedWrite limitMb path declared sent
    (if 0 < tokenMaxBytes ∧ tokenMaxBytes < maxUploadBytes then tokenMaxBytes else maxUploadBytes)

/-- The archive grows by what each path packs down to, and by its directory at the end. -/
def packAll (ticket : Ticket) (file : Inode) : List (List Nat) → Routine Unit
  | [] => return
  | packed :: rest => do
    if !(← attempt .addToZip) then return
    if !(← copy ticket file packed) then return
    packAll ticket file rest

def compress (ticket : Ticket) (dest : Path) (packed : List (List Nat)) (directory : Nat) :
    Routine Unit := do
  match ← ask (.openTrunc ticket dest) with
  | none => return
  | some file =>
    if !(← attempt .chown) then return
    packAll ticket file packed
    let _ ← ask (.append ticket file directory)

def handleFilesCompress (dest : Path) (packed : List (List Nat)) (directory : Nat) :
    Routine Unit := do
  let ticket : Ticket := ⟨← ask (.arrive none), none⟩
  if ← attempt .readBody then compress ticket dest packed directory
  ask (.respond ticket)

/-- The pieces in which a content is copied. -/
def pieces (bytes : Nat) : List Nat :=
  List.replicate (bytes / copyBuffer) copyBuffer ++ [bytes % copyBuffer]

/-- Unpack the entries until one fails; no entry is compared with the limit of the disk. -/
def extractAll (ticket : Ticket) (dest : Path) : List ZipEntry → Routine Unit
  | [] => return
  | entry :: rest => do
    -- Links and devices are passed over.
    if entry.special then extractAll ticket dest rest
    else if entry.isDir then
      if !(← attempt .sanitize) then return
      let _ ← attempt .mkdirAll
      extractAll ticket dest rest
    else
      if !(← attempt .mkdirAll) then return
      match entry.content with
      | none => return
      | some content =>
        -- What an entry declares in the archive is compared with what it holds, not with the disk.
        let limit := entry.uncompressedSize.toInt64 + 1
        let stream := limitReader limit.toInt.toNat (pieces content.length)
        if !(← writeFile ticket (Path.join dest entry.name) stream limit) then return
        if UInt64.ofNat stream.sum ≠ entry.uncompressedSize then return
        if !(← attempt .chmod) then return
        extractAll ticket dest rest

def handleFilesDecompress (dest : Path) (entries : List ZipEntry) : Routine Unit := do
  let ticket : Ticket := ⟨← ask (.arrive none), none⟩
  if (← attempt .readBody) && (← attempt .openArchive) then
    if entries.length ≤ Agent.maxArchiveEntries then
      match Agent.checkSizes entries 0 with
      | .error _ => pure ()
      | .ok () => extractAll ticket dest entries
  ask (.respond ticket)

inductive Request where
  | write (path : Path) (declared : Int64) (sent : List Nat)
  | upload (path : Path) (declared : Int64) (sent : List Nat) (tokenMaxBytes : Int64)
  | compress (dest : Path) (packed : List (List Nat)) (directory : Nat)
  | decompress (dest : Path) (entries : List ZipEntry)
deriving DecidableEq

def handle (limitMb : Int64) : Request → Routine Unit
  | .write path declared sent => handleFilesWrite limitMb path declared sent
  | .upload path declared sent tokenMaxBytes =>
    handleFilesUpload limitMb path declared sent tokenMaxBytes
  | .compress dest packed directory => handleFilesCompress dest packed directory
  | .decompress dest entries => handleFilesDecompress dest entries

end Operations

abbrev Requests := Pool State Request Call.Answer

abbrev Turn := Move Request Choice

def step (limitMb : Int64) : Requests → Turn → Requests := Pool.step (handle limitMb) answer?

def idleServer (files : Table Inode Nat) : Requests := ⟨⟨files, 0, fun _ => false⟩, []⟩

end PxHost.Quota
