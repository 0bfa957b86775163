import PxHost.Agent.BootWatcher

/-! What the ring of console lines holds after any number of lines, and what it tells a client. -/

namespace PxHost.Console

open Machine

/-- Lines after the number are gone already; no number is 0, so the subtraction does not wrap. -/
def Ring.gap (ring : Ring) (since : Nat) : Bool :=
  match ring.lines with
  | [] => 0 < since && since < ring.nextSeq
  | oldest :: _ => 0 < since && since < oldest.seq - 1

/-- The lines that were appended, under the numbers they got. -/
def numbered (published : List (List Char)) : List Line :=
  published.mapIdx fun index data => ⟨index + 1, data⟩

theorem Latest.concat {kept lines kept' : List Line} {line : Line} (latest : Latest kept lines)
    (next : Latest kept' (kept ++ [line])) : Latest kept' (lines ++ [line]) := by
  obtain ⟨gone, rfl⟩ := latest.suffix
  refine { next with suffix := next.suffix.trans ⟨gone, by simp⟩, longest := ?_ }
  intro newer suffix short small
  refine next.longest newer ?_ short small
  rcases List.eq_nil_or_concat' newer with rfl | ⟨front, last, rfl⟩
  · exact List.nil_suffix
  -- Without the new line, what fits had its place among the lines before.
  obtain ⟨older, split⟩ := suffix
  rw [← List.append_assoc] at split
  obtain ⟨front', last'⟩ := List.append_inj' split rfl
  cases last'
  simp only [List.length_append, bytes, List.map_append, List.sum_append] at short small
  obtain ⟨before, rfl⟩ := latest.longest front ⟨older, front'⟩ (by omega) (by rw [bytes]; omega)
  exact ⟨before, by simp⟩

theorem run_latest (published : List (List Char)) :
    let ring := run Ring.append {} published
    ring.nextSeq = published.length ∧ ring.Sound ∧ Latest ring.lines (numbered published) := by
  -- The last line is the last step: the ring before it holds the latest of the lines before it.
  induction published using List.reverseRecOn with
  | nil => exact ⟨rfl, ⟨rfl, nofun⟩, (evict_latest []).elim fun _ both => by cases both.1; exact both.2⟩
  | append_singleton published data ih =>
    obtain ⟨next, sound, latest⟩ := ih
    rw [run_append, run_cons, run_nil]
    generalize run Ring.append {} published = ring at next sound latest
    have all : numbered (published ++ [data]) = numbered published ++ [⟨ring.nextSeq + 1, data⟩] := by
      simp [numbered, List.mapIdx_append, next]
    obtain ⟨sound', later⟩ := sound.append data
    refine ⟨by simp [Ring.append, next], sound', ?_⟩
    rw [all]
    exact latest.concat later

/-- The lines that are left and those that are gone have consecutive numbers. -/
theorem seq_of_split {published : List (List Char)} {gone kept : List Line}
    (split : gone ++ kept = numbered published) :
    gone.map (·.seq) = List.range' 1 gone.length ∧
      kept.map (·.seq) = List.range' (gone.length + 1) kept.length := by
  have all : (numbered published).map (·.seq) = List.range' 1 published.length := by
    refine List.ext_getElem (by simp [numbered]) fun index _ _ => ?_
    simp [numbered, Nat.add_comm]
  have length : published.length = gone.length + kept.length := by
    simpa [numbered] using congrArg List.length split.symm
  rw [← split, List.map_append, length, ← List.range'_append_1, Nat.add_comm 1] at all
  exact List.append_inj all (by simp)

/-- Of lines under consecutive numbers, those beyond a number are a part of the end. -/
theorem filter_seq_eq_drop {lines : List Line} {first : Nat} (since : Nat)
    (seqs : lines.map (·.seq) = List.range' first lines.length) :
    lines.filter (since < ·.seq) = lines.drop (since + 1 - first) := by
  induction lines generalizing first with
  | nil => simp
  | cons line lines ih =>
    simp only [List.map_cons, List.length_cons, List.range'_succ, List.cons.injEq] at seqs
    have later := ih seqs.2
    rw [List.filter_cons, seqs.1, later]
    by_cases unseen : since < first
    · simp [unseen, show since + 1 - first = 0 by omega, show since + 1 - (first + 1) = 0 by omega]
    · have next : since + 1 - first = since + 1 - (first + 1) + 1 := by omega
      simp [unseen, next]

/--
The ring holds the longest run of the last lines that fits, under consecutive numbers up to the last
one. A client gets the lines after the last that it has seen or that is gone, in their order, and is
told of a gap exactly if a line that it has not seen is gone.
-/
theorem console_ring_is_exact (published : List (List Char)) (since : Nat) :
    let ring := run Ring.append {} published
    Latest ring.lines (numbered published) ∧ ring.byteTotal = bytes ring.lines ∧
      ring.nextSeq = published.length ∧
      ring.lines.map (·.seq) =
        List.range' (ring.nextSeq - ring.lines.length + 1) ring.lines.length ∧
      ring.since since =
        (numbered published).drop (max since (published.length - ring.lines.length)) ∧
      (ring.gap since ↔ 0 < since ∧
        ∃ line ∈ numbered published, since < line.seq ∧ line ∉ ring.since since) := by
  obtain ⟨next, sound, latest⟩ := run_latest published
  generalize run Ring.append {} published = ring at next sound latest
  obtain ⟨gone, split⟩ := latest.suffix
  obtain ⟨goneSeq, keptSeq⟩ := seq_of_split split
  have length : ring.nextSeq = gone.length + ring.lines.length := by
    simpa [numbered, next] using congrArg List.length split.symm
  have since_iff (line : Line) : line ∈ ring.since since ↔ line ∈ ring.lines ∧ since < line.seq := by
    simp [Ring.since]
  have sent : ring.since since =
      (numbered published).drop (max since (published.length - ring.lines.length)) := by
    have before : published.length - ring.lines.length = gone.length := by omega
    have none : gone.drop (max since gone.length) = [] := List.drop_eq_nil_of_le (by omega)
    rw [Ring.since, filter_seq_eq_drop since keptSeq, ← split, before, List.drop_append, none,
      List.nil_append]
    congr 1
    omega
  refine ⟨latest, sound.total, next, by rw [keptSeq, length, Nat.add_sub_cancel], sent, ?_⟩
  -- What is not returned, though its number is larger, is one of the lines that are gone.
  have missing : (∃ line ∈ numbered published, since < line.seq ∧ line ∉ ring.since since) ↔
      since < gone.length := by
    constructor
    · rintro ⟨line, listed, larger, unsent⟩
      rw [← split, List.mem_append] at listed
      have evicted := listed.resolve_right fun kept => unsent ((since_iff line).mpr ⟨kept, larger⟩)
      have number := List.mem_map_of_mem (f := (·.seq)) evicted
      rw [goneSeq, List.mem_range'_1] at number
      omega
    -- The newest of the lines that are gone has a number that nothing kept has.
    · intro small
      have last : gone.length ∈ gone.map (·.seq) := by
        rw [goneSeq, List.mem_range'_1]
        omega
      obtain ⟨line, evicted, number⟩ := List.mem_map.mp last
      refine ⟨line, by simp [← split, evicted], by omega, fun sent => ?_⟩
      have later := List.mem_map_of_mem (f := (·.seq)) ((since_iff line).mp sent).1
      rw [keptSeq, List.mem_range'_1] at later
      omega
  -- The number before the oldest one kept is that of the newest one gone.
  have oldest : ring.gap since ↔ 0 < since ∧ since < gone.length := by
    unfold Ring.gap
    split
    · next empty => simp [length, empty]
    · next oldest rest held =>
      simp only [held, List.map_cons, List.length_cons, List.range'_succ, List.cons.injEq] at keptSeq
      simp [keptSeq.1]
  rw [oldest, missing]

end PxHost.Console
