import Mathlib.Data.List.Nodup
import Mathlib.Data.List.Perm.Subperm

/-!
A channel that loses what it has no room for, and announces how much of it was lost. Items are known
by their numbers; they are to reach the receiver in order.
-/

namespace LossyChannel

/-- What was sent is in order, and whatever is missing in between has been reported. -/
structure Complete (sent reported : List Nat) : Prop where
  increasing : sent.Pairwise (· < ·)
  announced : ∀ first ∈ sent, ∀ last ∈ sent, ∀ n, first ≤ n → n ≤ last → n ∈ sent ∨ n ∈ reported

def missing (sent : List Nat) (first last : Nat) : List Nat :=
  (List.range' first (last + 1 - first)).filter fun n => n ∉ sent

theorem Complete.nil (reported : List Nat) : Complete [] reported where
  increasing := List.Pairwise.nil
  announced := by simp

/-- The receiver can tell how much is missing from how much was reported. -/
theorem Complete.missing_le {sent reported : List Nat} (complete : Complete sent reported)
    {first last : Nat} (sentFirst : first ∈ sent) (sentLast : last ∈ sent) :
    (missing sent first last).length ≤ reported.length := by
  have distinct : (missing sent first last).Nodup := (List.nodup_range' ..).filter _
  refine (distinct.subperm fun n member => ?_).length_le
  obtain ⟨inside, unsent⟩ := List.mem_filter.mp member
  rw [decide_eq_true_eq] at unsent
  rw [List.mem_range'_1] at inside
  exact (complete.announced first sentFirst last sentLast n (by omega) (by omega)).resolve_left unsent

/--
On the way: what was sent, what is queued, and what was lost, of which some is reported, some taken
from the counter to be reported next, and some still in the counter. The last item that has reached
the channel at all is known too.
-/
structure Ordered (sent queued reported taken lost : List Nat) (reached : Option Nat) : Prop where
  increasing : (sent ++ queued).Pairwise (· < ·)
  bounded : ∀ n ∈ sent ++ queued, ∃ last, reached = some last ∧ n ≤ last
  accounted : ∀ last, reached = some last → ∀ first ∈ sent ++ queued, ∀ n, first ≤ n → n ≤ last →
    n ∈ sent ++ queued ∨ n ∈ reported ++ taken ++ lost
  /-- What is not reported yet is later than all that was sent. -/
  late : ∀ n ∈ sent, ∀ m ∈ taken ++ lost, n < m

theorem Ordered.start {queued : List Nat} (increasing : queued.Pairwise (· < ·))
    (dense : ∀ first ∈ queued, ∀ last ∈ queued, ∀ n, first ≤ n → n ≤ last → n ∈ queued) :
    Ordered [] queued [] [] [] queued.getLast? where
  increasing := increasing
  bounded := by
    intro n member
    rw [List.nil_append] at member
    cases last : queued.getLast? with
    | none =>
      rw [List.getLast?_eq_none_iff.mp last] at member
      cases member
    | some m =>
      refine ⟨m, rfl, ?_⟩
      obtain ⟨init, rfl⟩ := List.getLast?_eq_some_iff.mp last
      rcases List.mem_append.mp member with before | same
      · exact Nat.le_of_lt ((List.pairwise_append.mp increasing).2.2 n before m (by simp))
      · exact Nat.le_of_eq (List.mem_singleton.mp same)
  accounted := by
    intro last reached first member n after before
    exact .inl (dense first member last (List.mem_of_getLast? reached) n after before)
  late := by simp

namespace Ordered

variable {sent queued reported taken lost : List Nat} {reached : Option Nat} {n : Nat}

section Sending

variable (ordered : Ordered sent queued reported taken lost reached)
include ordered

theorem complete : Complete sent reported := by
  obtain ⟨sorted, -, before⟩ := List.pairwise_append.mp ordered.increasing
  refine ⟨sorted, fun first sentFirst last sentLast n after upTo => ?_⟩
  obtain ⟨end', reached, within⟩ := ordered.bounded last (List.mem_append_left _ sentLast)
  have known := ordered.accounted end' reached first (List.mem_append_left _ sentFirst) n after
    (Nat.le_trans upTo within)
  -- What is queued comes after all that was sent, and so does what is not reported.
  rcases known with there | gone
  · rcases List.mem_append.mp there with already | waiting
    · exact .inl already
    · have later := before last sentLast n waiting
      omega
  · rw [List.append_assoc] at gone
    rcases List.mem_append.mp gone with told | untold
    · exact .inr told
    · have later := ordered.late last sentLast n untold
      omega

theorem lt_next
    (next : reached.all (· + 1 = n)) {m : Nat} (member : m ∈ sent ++ queued) : m < n := by
  obtain ⟨last, known, within⟩ := ordered.bounded m member
  rw [known, Option.all_some, decide_eq_true_eq] at next
  omega

theorem enqueue
    (next : reached.all (· + 1 = n)) : Ordered sent (queued ++ [n]) reported taken lost (some n) where
  increasing := by
    rw [← List.append_assoc]
    refine List.pairwise_append.mpr ⟨ordered.increasing, List.pairwise_singleton .., ?_⟩
    intro m member n' same
    rw [List.mem_singleton.mp same]
    exact ordered.lt_next next member
  bounded := by
    intro m member
    refine ⟨n, rfl, ?_⟩
    rw [← List.append_assoc] at member
    rcases List.mem_append.mp member with before | same
    · exact Nat.le_of_lt (ordered.lt_next next before)
    · exact Nat.le_of_eq (List.mem_singleton.mp same)
  accounted := by
    rintro last ⟨⟩ first member m after upTo
    rw [← List.append_assoc] at member ⊢
    by_cases newest : m = n
    · exact .inl (List.mem_append_right _ (List.mem_singleton.mpr newest))
    · -- An earlier item was accounted for before, as was the first one.
      have earlier : first ∈ sent ++ queued := by
        rcases List.mem_append.mp member with before | same
        · exact before
        · have := List.mem_singleton.mp same
          omega
      obtain ⟨end', known, -⟩ := ordered.bounded first earlier
      rw [known, Option.all_some, decide_eq_true_eq] at next
      rcases ordered.accounted end' known first earlier m after (by omega) with there | gone
      · exact .inl (List.mem_append_left _ there)
      · exact .inr gone
  late := ordered.late

theorem drop
    (next : reached.all (· + 1 = n)) : Ordered sent queued reported taken (lost ++ [n]) (some n) where
  increasing := ordered.increasing
  bounded := fun m member => ⟨n, rfl, Nat.le_of_lt (ordered.lt_next next member)⟩
  accounted := by
    rintro last ⟨⟩ first member m after upTo
    rw [← List.append_assoc]
    by_cases newest : m = n
    · exact .inr (List.mem_append_right _ (List.mem_singleton.mpr newest))
    · obtain ⟨end', known, -⟩ := ordered.bounded first member
      rw [known, Option.all_some, decide_eq_true_eq] at next
      rcases ordered.accounted end' known first member m after (by omega) with there | gone
      · exact .inl there
      · exact .inr (List.mem_append_left _ gone)
  late := by
    intro m already m' untold
    rw [← List.append_assoc] at untold
    rcases List.mem_append.mp untold with before | same
    · exact ordered.late m already m' before
    · rw [List.mem_singleton.mp same]
      exact ordered.lt_next next (List.mem_append_left _ already)

end Sending

theorem take (ordered : Ordered sent queued reported [] lost reached) :
    Ordered sent queued reported lost [] reached where
  increasing := ordered.increasing
  bounded := ordered.bounded
  accounted := by simpa using ordered.accounted
  late := by simpa using ordered.late

theorem report (ordered : Ordered sent queued reported taken lost reached) :
    Ordered sent queued (reported ++ taken) [] lost reached where
  increasing := ordered.increasing
  bounded := ordered.bounded
  accounted := by simpa using ordered.accounted
  late := fun m already m' untold => ordered.late m already m' (List.mem_append_right _ untold)

/-- An item is sent when all that was lost before it is reported. -/
theorem send (ordered : Ordered sent (n :: queued) reported [] lost reached)
    (later : ∀ m ∈ lost, n < m) : Ordered (sent ++ [n]) queued reported [] lost reached where
  increasing := by simpa using ordered.increasing
  bounded := by simpa using ordered.bounded
  accounted := by simpa using ordered.accounted
  late := by
    intro m already m' untold
    rcases List.mem_append.mp already with before | same
    · exact ordered.late m before m' untold
    · rw [List.mem_singleton.mp same]
      exact later m' untold

end Ordered

end LossyChannel
