import Mathlib.Data.List.Basic
import Mathlib.Logic.Function.Basic

/-! The versions a store goes through, and a cache that holds values of some of them. -/

namespace Versions

open Function

variable {Content Key View : Type*} {view : Content → Key → View} {versions : List Content}

variable (view versions) in
/-- A key had a value in a version of the store that is no earlier than a given one. -/
def Held (key : Key) (since : Nat) (value : View) : Prop :=
  ∃ version content, since ≤ version ∧ versions[version]? = some content ∧ view content key = value

section Held

variable {key : Key} {since : Nat} {value : View}

theorem Held.append (held : Held view versions key since value) (newer : List Content) :
    Held view (versions ++ newer) key since value := by
  obtain ⟨version, old, after, stored, same⟩ := held
  have inside := (List.getElem?_eq_some_iff.mp stored).1
  exact ⟨version, old, after, by rw [List.getElem?_append_left inside, stored], same⟩

theorem Held.mono (held : Held view versions key since value) {earlier : Nat}
    (before : earlier ≤ since) : Held view versions key earlier value := by
  obtain ⟨version, content, after, stored, same⟩ := held
  exact ⟨version, content, Nat.le_trans before after, stored, same⟩

theorem held_last (past : List Content) (content : Content) (before : since ≤ past.length) :
    Held view (past ++ [content]) key since (view content key) :=
  ⟨past.length, content, before, by simp, rfl⟩

end Held

variable (view versions) in
/-- Whatever is cached for a key was stored at some time since the floor of that key. -/
structure Regular (floor : Key → Nat) (cached : Key → Option View) : Prop where
  reached : ∀ key, floor key < versions.length
  held : ∀ key value, cached key = some value → Held view versions key (floor key) value

theorem Regular.start (content : Content) : Regular view [content] (fun _ => 0) fun _ => none where
  reached := fun _ => Nat.one_pos
  held := by simp

namespace Regular

variable {floor : Key → Nat} {cached cached' : Key → Option View}

section Regular

variable (regular : Regular view versions floor cached)
include regular

theorem append (content : Content) : Regular view (versions ++ [content]) floor cached where
  reached := by
    intro key
    rw [List.length_append]
    exact Nat.lt_add_right _ (regular.reached key)
  held := fun key value there => (regular.held key value there).append [content]

theorem shrink (fewer : ∀ key value, cached' key = some value → cached key = some value) :
    Regular view versions floor cached' where
  reached := regular.reached
  held := fun key value there => regular.held key value (fewer key value there)

variable [DecidableEq Key]

omit regular in
/-- What the store holds at the moment may be cached, and any entry may be deleted. -/
theorem put {past : List Content} {content : Content}
    (regular : Regular view (past ++ [content]) floor cached) (key : Key) {entry : Option View}
    (current : ∀ value, entry = some value → view content key = value) :
    Regular view (past ++ [content]) floor (update cached key entry) where
  reached := regular.reached
  held := by
    intro key' value there
    by_cases same : key' = key
    · subst same
      rw [update_self] at there
      rw [← current value there]
      refine held_last past content ?_
      have reached := regular.reached key'
      rw [List.length_append, List.length_singleton] at reached
      exact Nat.le_of_lt_succ reached
    · rw [update_of_ne same] at there
      exact regular.held key' value there

/-- Where nothing is cached, the floor rises to the last version. -/
theorem settle {key : Key} (absent : cached key = none) :
    Regular view versions (update floor key (versions.length - 1)) cached where
  reached := by
    have some := regular.reached key
    exact (forall_update_iff floor fun _ reached => reached < versions.length).mpr
      ⟨by omega, fun key' _ => regular.reached key'⟩
  held := by
    intro key' value there
    have differs : key' ≠ key := by
      rintro rfl
      rw [absent] at there
      cases there
    rw [update_of_ne differs]
    exact regular.held key' value there

theorem le_settle (key key' : Key) : floor key' ≤ update floor key (versions.length - 1) key' := by
  have some := regular.reached key
  exact (forall_update_iff floor fun key' raised => floor key' ≤ raised).mpr
    ⟨by omega, fun _ _ => Nat.le_refl _⟩ key'

end Regular

end Regular

end Versions
