import Mathlib.Data.List.Nodup
import Mathlib.Logic.Function.Basic

/-! Secrets that are drawn, offered, taken and redeemed, each of them at most once. -/

namespace OneTime

open Function

variable {Key : Type*}

/--
A key is on offer, or in the hands of one thread, or redeemed, and never two of these; keys that
have not been drawn are none of them.
-/
structure Single (offered : Key → Prop) (owns : Nat → Option Key) (redeemed drawn : List Key) :
    Prop where
  unowned : ∀ key thread, offered key → owns thread ≠ some key
  unredeemed : ∀ key, offered key → key ∉ redeemed
  alone : ∀ key thread other, owns thread = some key → owns other = some key → thread = other
  pending : ∀ key thread, owns thread = some key → key ∉ redeemed
  once : redeemed.Nodup
  offeredDrawn : ∀ key, offered key → key ∈ drawn
  ownedDrawn : ∀ key thread, owns thread = some key → key ∈ drawn
  redeemedDrawn : ∀ key ∈ redeemed, key ∈ drawn

theorem Single.start (offered : Key → Prop) (none : ∀ key, ¬ offered key) (drawn : List Key) :
    Single offered (fun _ => Option.none) [] drawn := by
  constructor <;> simp_all

namespace Single

variable {offered offered' : Key → Prop} {owns : Nat → Option Key} {redeemed drawn : List Key}
  {thread : Nat} {key : Key}

section Moves

variable (single : Single offered owns redeemed drawn)
include single

theorem withdraw (fewer : ∀ key, offered' key → offered key) :
    Single offered' owns redeemed drawn :=
  { single with
    unowned := fun key thread there => single.unowned key thread (fewer key there)
    unredeemed := fun key there => single.unredeemed key (fewer key there)
    offeredDrawn := fun key there => single.offeredDrawn key (fewer key there) }

theorem unheard (thread : Nat) : Single offered (update owns thread (owns thread)) redeemed drawn := by
  rwa [update_eq_self]

/-- A key that was withdrawn is given to the one thread that took it. -/
theorem give (withdrawn : ¬ offered key)
    (free : ∀ other, other ≠ thread → owns other ≠ some key) (unspent : key ∉ redeemed)
    (known : key ∈ drawn) :
    Single offered (update owns thread (some key)) redeemed drawn := by
  -- Whoever owns a key now is the thread itself, or owned it before.
  have owner {other : Nat} {key' : Key}
      (has : update owns thread (some key) other = some key') :
      other = thread ∧ key' = key ∨ other ≠ thread ∧ owns other = some key' := by
    by_cases same : other = thread
    · subst same
      exact .inl ⟨rfl, by simpa [eq_comm] using has⟩
    · exact .inr ⟨same, by simpa [same] using has⟩
  refine { single with unowned := ?_, alone := ?_, pending := ?_, ownedDrawn := ?_ }
  · intro key' other there has
    rcases owner has with ⟨-, rfl⟩ | ⟨-, before⟩
    · exact withdrawn there
    · exact single.unowned key' other there before
  · intro key' one two has has'
    rcases owner has with ⟨rfl, rfl⟩ | ⟨differs, before⟩ <;>
      rcases owner has' with ⟨rfl, same⟩ | ⟨differs', before'⟩
    · rfl
    · exact (free two differs' before').elim
    · exact (free one differs (same ▸ before)).elim
    · exact single.alone key' one two before before'
  · intro key' other has
    rcases owner has with ⟨-, rfl⟩ | ⟨-, before⟩
    · exact unspent
    · exact single.pending key' other before
  · intro key' other has
    rcases owner has with ⟨-, rfl⟩ | ⟨-, before⟩
    · exact known
    · exact single.ownedDrawn key' other before

theorem drop : Single offered (update owns thread none) redeemed drawn := by
  have owner {other : Nat} {key' : Key}
      (has : update owns thread none other = some key') : owns other = some key' := by
    by_cases same : other = thread
    · subst same
      simp at has
    · simpa [same] using has
  refine { single with unowned := ?_, alone := ?_, pending := ?_, ownedDrawn := ?_ }
  · exact fun key' other there has => single.unowned key' other there (owner has)
  · exact fun key' one two has has' => single.alone key' one two (owner has) (owner has')
  · exact fun key' other has => single.pending key' other (owner has)
  · exact fun key' other has => single.ownedDrawn key' other (owner has)

theorem draw (new : Key) : Single offered owns redeemed (new :: drawn) :=
  { single with
    offeredDrawn := fun key there => List.mem_cons_of_mem _ (single.offeredDrawn key there)
    ownedDrawn := fun key thread has => List.mem_cons_of_mem _ (single.ownedDrawn key thread has)
    redeemedDrawn := fun key member => List.mem_cons_of_mem _ (single.redeemedDrawn key member) }

theorem drawFresh (fresh : key ∉ drawn) :
    Single offered (update owns thread (some key)) redeemed (key :: drawn) := by
  refine (single.draw key).give ?_ ?_ ?_ List.mem_cons_self
  · exact fun there => fresh (single.offeredDrawn key there)
  · exact fun other _ has => fresh (single.ownedDrawn key other has)
  · exact fun member => fresh (single.redeemedDrawn key member)

theorem offer (has : owns thread = some key)
    (more : ∀ key', offered' key' → key' = key ∨ offered key') :
    Single offered' (update owns thread none) redeemed drawn := by
  have dropped : Single offered (update owns thread none) redeemed drawn := single.drop
  refine { dropped with unowned := ?_, unredeemed := ?_, offeredDrawn := ?_ }
  · intro key' other there owned
    rcases more key' there with rfl | before
    · by_cases same : other = thread
      · simp [same] at owned
      · rw [update_of_ne same] at owned
        exact same (single.alone key' other thread owned has)
    · exact dropped.unowned key' other before owned
  · intro key' there
    rcases more key' there with rfl | before
    · exact single.pending key' thread has
    · exact single.unredeemed key' before
  · intro key' there
    rcases more key' there with rfl | before
    · exact single.ownedDrawn key' thread has
    · exact single.offeredDrawn key' before

theorem take (there : offered key) (fewer : ∀ key', offered' key' → key' ≠ key ∧ offered key') :
    Single offered' (update owns thread (some key)) redeemed drawn := by
  refine (single.withdraw fun key' still => (fewer key' still).2).give ?_ ?_ ?_ ?_
  · exact fun still => (fewer key still).1 rfl
  · exact fun other _ => single.unowned key other there
  · exact single.unredeemed key there
  · exact single.offeredDrawn key there

theorem redeem (has : owns thread = some key) :
    Single offered (update owns thread none) (key :: redeemed) drawn := by
  have dropped : Single offered (update owns thread none) redeemed drawn := single.drop
  refine { dropped with unredeemed := ?_, pending := ?_, once := ?_, redeemedDrawn := ?_ }
  · intro key' there member
    rcases List.mem_cons.mp member with rfl | before
    · exact single.unowned key' thread there has
    · exact single.unredeemed key' there before
  · intro key' other owned member
    rcases List.mem_cons.mp member with rfl | before
    · by_cases same : other = thread
      · simp [same] at owned
      · rw [update_of_ne same] at owned
        exact same (single.alone key' other thread owned has)
    · exact dropped.pending key' other owned before
  · exact List.nodup_cons.mpr ⟨single.pending key thread has, single.once⟩
  · intro key' member
    rcases List.mem_cons.mp member with rfl | before
    · exact single.ownedDrawn key' thread has
    · exact single.redeemedDrawn key' before

end Moves

section Stores

variable {Value : Type*} [DecidableEq Key] {store : Key → Option Value}

section Single

variable (single : Single (fun key => (store key).isSome) owns redeemed drawn)
include single

theorem put (has : owns thread = some key) (value : Value) :
    Single (fun key' => (update store key (some value) key').isSome)
      (update owns thread none) redeemed drawn := by
  refine single.offer has fun key' there => ?_
  by_cases same : key' = key
  · exact .inl same
  · exact .inr (by simpa [same] using there)

omit single in
theorem isSome_update_none {key' : Key} (there : (update store key none key').isSome) :
    key' ≠ key ∧ (store key').isSome := by
  by_cases same : key' = key
  · simp [same] at there
  · exact ⟨same, by simpa [same] using there⟩

theorem delete (there : (store key).isSome) :
    Single (fun key' => (update store key none key').isSome)
      (update owns thread (some key)) redeemed drawn :=
  single.take there fun _ => isSome_update_none

theorem lose (key : Key) :
    Single (fun key' => (update store key none key').isSome) owns redeemed drawn :=
  single.withdraw fun _ there => (isSome_update_none there).2

end Single

end Stores

end Single

end OneTime
