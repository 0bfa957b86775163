import Mathlib.Algebra.Ring.Nat
import Mathlib.Data.List.Infix

/-! The recent console output of a server, and what its boot watcher reads from it. -/

namespace PxHost.Console

def byteLength (text : List Char) : Nat := (text.map Char.utf8Size).sum

structure Line where
  seq : Nat
  data : List Char
deriving DecidableEq

def maxLines : Nat := 500

def maxBytes : Nat := 256 * 1024

structure Ring where
  lines : List Line := []
  byteTotal : Nat := 0
  nextSeq : Nat := 0

/-- Drop the oldest lines until what is left is neither too many lines nor too many bytes. -/
def evict : List Line → Nat → List Line × Nat
  | [], byteTotal => ([], byteTotal)
  | oldest :: rest, byteTotal =>
    if maxLines < (oldest :: rest).length || maxBytes < byteTotal then
      evict rest (byteTotal - byteLength oldest.data)
    else (oldest :: rest, byteTotal)

/-- A line gets the next number; the lines it pushes out are gone. -/
def Ring.append (ring : Ring) (data : List Char) : Ring :=
  let seq := ring.nextSeq + 1
  let kept := evict (ring.lines ++ [⟨seq, data⟩]) (ring.byteTotal + byteLength data)
  { lines := kept.1, byteTotal := kept.2, nextSeq := seq }

def Ring.since (ring : Ring) (since : Nat) : List Line := ring.lines.filter (since < ·.seq)

def maxLineBytes : Nat := 8192

/--
The pieces that are published of an output: a line goes out when it ends or when it fills the
buffer, without what ends it. The piece that is being read is kept in reverse, with its size.
-/
def pumpLines (piece : List Char) (size : Nat) : List Char → List (List Char)
  | [] => if piece = [] then [] else [trimmed piece]
  | c :: rest =>
    if c = '\n' ∨ maxLineBytes ≤ size + c.utf8Size then trimmed (c :: piece) :: pumpLines [] 0 rest
    else pumpLines (c :: piece) (size + c.utf8Size) rest
where
  trimmed (piece : List Char) : List Char :=
    (piece.dropWhile fun c => c = '\r' ∨ c = '\n').reverse

def contains (text part : List Char) : Bool := text.tails.any part.isPrefixOf

def readyLogMarker : List Char := "Done (".toList

def fatalBootErrorMarker : List Char := "Failed to start the minecraft server".toList

def isReadyLine (data : List Char) : Bool := contains data readyLogMarker

def isFatalBootErrorLine (data : List Char) : Bool := contains data fatalBootErrorMarker

inductive BootOutcome where
  | pending
  | ready
  | failed
deriving DecidableEq

/-- The first line that decides the boot, and how far the scanner has come with it. -/
def bootScan (lastSeq : Nat) : List Line → BootOutcome × Nat
  | [] => (.pending, lastSeq)
  | line :: rest =>
    if isReadyLine line.data then (.ready, line.seq)
    else if isFatalBootErrorLine line.data then (.failed, line.seq)
    else bootScan line.seq rest

end PxHost.Console
