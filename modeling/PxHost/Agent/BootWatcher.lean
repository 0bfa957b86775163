import PxHost.Agent.Console
import PxHost.Lib.Run

/-! What the boot watcher sees of the lines that are published between two looks at the ring. -/

namespace PxHost.Console

open Machine

def bytes (lines : List Line) : Nat := (lines.map (byteLength ·.data)).sum

/-- The ring knows how many bytes it holds and how far its numbers go. -/
structure Ring.Sound (ring : Ring) : Prop where
  total : ring.byteTotal = bytes ring.lines
  numbers : ∀ line ∈ ring.lines, line.seq ≤ ring.nextSeq

/-- The scanner of a server, the ring that it reads, and what its calls have returned. -/
structure Watcher where
  ring : Ring
  lastSeq : Nat
  outcomes : List BootOutcome := []

inductive Event where
  | publish (data : List Char)
  | next

def Watcher.step (w : Watcher) : Event → Watcher
  | .publish data => { w with ring := w.ring.append data }
  | .next =>
    let (outcome, lastSeq) := bootScan w.lastSeq (w.ring.since w.lastSeq)
    { w with lastSeq, outcomes := w.outcomes ++ [outcome] }

/-- The scanner begins behind the lines that there are when the server is started. -/
def Watcher.start (earlier : List (List Char)) : Watcher :=
  let ring := run Ring.append {} earlier
  { ring, lastSeq := ring.nextSeq }

/-- Some call has returned that the server is ready, or that its boot has failed. -/
def Watcher.Decided (w : Watcher) : Prop := ∃ outcome ∈ w.outcomes, outcome ≠ .pending

structure Watcher.Fits (w : Watcher) : Prop where
  sound : w.ring.Sound
  reached : w.lastSeq ≤ w.ring.nextSeq

section Kept

variable {ring : Ring} {newer : List Line}

/-- The last lines, as many of them as fit. -/
structure Latest (kept lines : List Line) : Prop where
  suffix : kept <:+ lines
  short : kept.length ≤ maxLines
  small : bytes kept ≤ maxBytes
  longest : ∀ newer, newer <:+ lines → newer.length ≤ maxLines → bytes newer ≤ maxBytes →
    newer <:+ kept

theorem evict_latest (lines : List Line) :
    ∃ kept, evict lines (bytes lines) = (kept, bytes kept) ∧ Latest kept lines := by
  induction lines with
  | nil => exact ⟨[], rfl, List.suffix_rfl, Nat.zero_le _, Nat.zero_le _, fun _ suffix _ _ => suffix⟩
  | cons oldest rest ih =>
    rw [evict]
    split
    · next full =>
      obtain ⟨kept, same, latest⟩ := ih
      refine ⟨kept, by simpa [bytes] using same, { latest with
        suffix := latest.suffix.trans (List.suffix_cons ..), longest := ?_ }⟩
      intro newer suffix short small
      rcases List.suffix_cons_iff.mp suffix with rfl | suffix
      · -- All of the lines would be too many, or too long.
        simp only [Bool.or_eq_true, decide_eq_true_eq] at full
        omega
      · exact latest.longest newer suffix short small
    · next room =>
      simp only [Bool.or_eq_true, decide_eq_true_eq, not_or, Nat.not_lt] at room
      exact ⟨_, rfl, List.suffix_rfl, room.1, room.2, fun _ suffix _ _ => suffix⟩

theorem Ring.Sound.append (sound : ring.Sound) (data : List Char) :
    (ring.append data).Sound ∧
      Latest (ring.append data).lines (ring.lines ++ [⟨ring.nextSeq + 1, data⟩]) := by
  obtain ⟨kept, evicted, latest⟩ := evict_latest (ring.lines ++ [⟨ring.nextSeq + 1, data⟩])
  have total : ring.byteTotal + byteLength data =
      bytes (ring.lines ++ [⟨ring.nextSeq + 1, data⟩]) := by
    simp [sound.total, bytes]
  have written : ring.append data = ⟨kept, bytes kept, ring.nextSeq + 1⟩ := by
    rw [Ring.append, total, evicted]
  rw [written]
  refine ⟨⟨rfl, fun line member => ?_⟩, latest⟩
  rcases List.mem_append.mp (latest.suffix.subset member) with known | new
  · exact Nat.le_succ_of_le (sound.numbers line known)
  · rw [List.mem_singleton.mp new]

/-- The last lines stay in the ring as long as they fit into it with those that follow. -/
theorem Ring.Sound.run (sound : ring.Sound) {published : List (List Char)}
    (suffix : newer <:+ ring.lines) (short : newer.length + published.length ≤ maxLines)
    (small : bytes newer + (published.map byteLength).sum ≤ maxBytes) :
    newer ⊆ (run Ring.append ring published).lines := by
  induction published generalizing ring newer with
  | nil => exact suffix.subset
  | cons data published ih =>
    simp only [List.length_cons, List.map_cons, List.sum_cons] at short small
    obtain ⟨sound', latest⟩ := sound.append data
    have size : bytes (newer ++ [⟨ring.nextSeq + 1, data⟩]) = bytes newer + byteLength data := by
      simp [bytes]
    obtain ⟨older, same⟩ := suffix
    have kept := latest.longest (newer ++ [⟨ring.nextSeq + 1, data⟩])
      ⟨older, by rw [← same, List.append_assoc]⟩ (by simp; omega) (by omega)
    have later := ih sound' kept (by simp; omega) (by omega)
    exact List.Subset.trans (List.subset_append_left ..) later

end Kept

section Scan

variable {lines : List Line} {line : Line} {w : Watcher} {lastSeq : Nat}

theorem bootScan_ne_pending (member : line ∈ lines)
    (decides : isReadyLine line.data ∨ isFatalBootErrorLine line.data) :
    (bootScan lastSeq lines).1 ≠ .pending := by
  induction lines generalizing lastSeq with
  | nil => cases member
  | cons first rest ih =>
    unfold bootScan
    split
    · exact nofun
    · next unready =>
      split
      · exact nofun
      · next sane =>
        rcases List.mem_cons.mp member with rfl | later
        · exact absurd decides (not_or.mpr ⟨unready, sane⟩)
        · exact ih later

theorem bootScan_snd_le {last : Nat} (reached : lastSeq ≤ last)
    (numbers : ∀ line ∈ lines, line.seq ≤ last) : (bootScan lastSeq lines).2 ≤ last := by
  induction lines generalizing lastSeq with
  | nil => exact reached
  | cons first rest ih =>
    rw [List.forall_mem_cons] at numbers
    unfold bootScan
    split
    · exact numbers.1
    · split
      · exact numbers.1
      · exact ih numbers.1 numbers.2

theorem Watcher.Fits.start (earlier : List (List Char)) : (Watcher.start earlier).Fits := by
  have empty : ({} : Ring).Sound := ⟨rfl, nofun⟩
  exact ⟨invariant_always Ring.Sound (fun _ data sound => (sound.append data).1) empty earlier,
    Nat.le_refl _⟩

theorem Watcher.Fits.step (fits : w.Fits) (event : Event) : (w.step event).Fits := by
  cases event with
  | publish data => exact ⟨(fits.sound.append data).1, Nat.le_succ_of_le fits.reached⟩
  | next =>
    refine ⟨fits.sound, bootScan_snd_le fits.reached fun line member => ?_⟩
    exact fits.sound.numbers line (List.mem_of_mem_filter member)

theorem Watcher.Decided.step (decided : w.Decided) (event : Event) : (w.step event).Decided := by
  cases event with
  | publish => exact decided
  | next =>
    obtain ⟨outcome, member, decides⟩ := decided
    exact ⟨outcome, List.mem_append_left _ member, decides⟩

theorem run_publish (w : Watcher) (published : List (List Char)) :
    run Watcher.step w (published.map .publish) =
      { w with ring := run Ring.append w.ring published } := by
  induction published generalizing w with
  | nil => rfl
  | cons data published ih => exact ih _

/--
A line that decides the boot is seen, whatever came before it, if it fits into the ring together with
the lines that are published until the ring is looked at.
-/
theorem deciding_line_is_seen (earlier between : List (List Char)) (before after : List Event)
    (data : List Char) (decides : isReadyLine data ∨ isFatalBootErrorLine data)
    (short : between.length < maxLines)
    (small : byteLength data + (between.map byteLength).sum ≤ maxBytes) :
    (run Watcher.step (.start earlier)
      (before ++ (data :: between).map .publish ++ .next :: after)).Decided := by
  rw [run_append, run_append, run_cons]
  refine invariant_always Watcher.Decided (fun _ event decided => decided.step event) ?_ after
  have fits := invariant_always Watcher.Fits (fun _ event fits => fits.step event)
    (.start earlier) before
  generalize run Watcher.step (.start earlier) before = w at fits
  rw [run_publish]
  let line : Line := ⟨w.ring.nextSeq + 1, data⟩
  have size : bytes [line] = byteLength data := by simp [bytes, line]
  obtain ⟨sound, latest⟩ := fits.sound.append data
  have kept := latest.longest [line] (List.suffix_append ..) (by simp; omega) (by omega)
  have there : line ∈ (run Ring.append w.ring (data :: between)).lines :=
    sound.run kept (by simp; omega) (by omega) (List.mem_singleton_self line)
  -- The scanner has not come as far as the new line, whose number was not given before.
  have unseen : w.lastSeq < w.ring.nextSeq + 1 := Nat.lt_succ_of_le fits.reached
  refine ⟨_, List.mem_append_right _ (List.mem_singleton_self _), ?_⟩
  exact bootScan_ne_pending (List.mem_filter.mpr ⟨there, decide_eq_true unseen⟩) decides

theorem sample_deciding_line_is_seen :
    (run Watcher.step (.start ["Starting".toList])
      ([.next] ++ ["Done (3s)!".toList, "Saving".toList].map .publish ++ [.next])).Decided :=
  deciding_line_is_seen _ ["Saving".toList] [.next] [] "Done (3s)!".toList (by decide) (by decide)
    (by decide)

/--
A burst of wide lines pushes the deciding one out before it is looked for, and a line that is too
long for the buffer is published in two pieces and decides the boot in neither.
-/
theorem deciding_line_is_missed :
    (isReadyLine "Done (".toList ∧ (run Watcher.step (.start [])
      (("Done (".toList :: List.replicate 33 (List.replicate 2730 '█')).map .publish ++
        [.next])).outcomes = [.pending]) ∧
    (isReadyLine (List.replicate 2730 '█' ++ "Done (".toList) ∧ (run Watcher.step (.start [])
      ((pumpLines [] 0 (List.replicate 2730 '█' ++ "Done (\n".toList)).map .publish ++
        [.next])).outcomes = [.pending]) := by
  decide +kernel

end Scan

end PxHost.Console
