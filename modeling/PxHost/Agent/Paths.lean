import Mathlib.Data.List.Basic

/-! Paths by their text alone: their components, their encoding, cleaning and joining. -/

namespace PxHost.Agent

/-- A file name as the kernel stores it. -/
abbrev Name := List UInt8

/-- A path, cut at its slashes; the empty path is one empty component. -/
abbrev Path := List Name

def bytes (text : String) : List UInt8 := text.toUTF8.toList

def slash : UInt8 := 47

def dot : Name := [46]

def dotdot : Name := [46, 46]

def Path.ofBytes (text : List UInt8) : Path := text.splitOn slash

def Path.toBytes (path : Path) : List UInt8 := [slash].intercalate path

def isContinuation (b : UInt8) : Bool := 0x80 ≤ b && b ≤ 0xBF

/-- The second byte excludes overlong encodings, surrogates and what lies beyond Unicode. -/
def isSecond (lead b : UInt8) : Bool :=
  if lead = 0xE0 then 0xA0 ≤ b && b ≤ 0xBF
  else if lead = 0xED then 0x80 ≤ b && b ≤ 0x9F
  else if lead = 0xF0 then 0x90 ≤ b && b ≤ 0xBF
  else if lead = 0xF4 then 0x80 ≤ b && b ≤ 0x8F
  else isContinuation b

/-- Well-formed UTF-8. -/
def validString : List UInt8 → Bool
  | [] => true
  | a :: rest =>
    if a < 0x80 then validString rest
    else match rest with
      | [] => false
      | b :: rest =>
        if 0xC2 ≤ a && a ≤ 0xDF then isContinuation b && validString rest
        else match rest with
          | [] => false
          | c :: rest =>
            if 0xE0 ≤ a && a ≤ 0xEF then
              isSecond a b && isContinuation c && validString rest
            else match rest with
              | [] => false
              | d :: rest =>
                0xF0 ≤ a && a ≤ 0xF4 && isSecond a b && isContinuation c && isContinuation d
                  && validString rest

def Path.isRooted : Path → Bool
  | [] :: _ :: _ => true
  | _ => false

/-- One more component on what has been cleaned so far, the last one first. -/
def pushComponent (rooted : Bool) (cleaned : List Name) (component : Name) : List Name :=
  if component = [] ∨ component = dot then cleaned
  else if component = dotdot then
    match cleaned with
    | [] => if rooted then [] else [dotdot]
    | top :: below => if top = dotdot then dotdot :: cleaned else below
  else component :: cleaned

def cleanComponents (rooted : Bool) (path : Path) : List Name :=
  (path.foldl (pushComponent rooted) []).reverse

/-- The shortest equivalent path, by text alone. -/
def Path.clean (path : Path) : Path :=
  match path.isRooted, cleanComponents path.isRooted path with
  | true, [] => [[], []]
  | true, components => [] :: components
  | false, [] => [dot]
  | false, components => components

/-- Join two paths with a slash, leaving out an empty one, and clean the result. -/
def Path.join (left right : Path) : Path :=
  match [left, right].filter (· ≠ [[]]) with
  | [] => [[]]
  | parts => Path.clean parts.flatten

/-- Everything up to the last slash, cleaned. -/
def parentOf (path : Path) : Path := Path.clean (path.dropLast ++ [[]])

/-- Joining a name to a cleaned relative path appends it. -/
example : Path.join (.ofBytes (bytes "a/b")) [bytes "c"] = .ofBytes (bytes "a/b/c") := by
  decide +kernel

/-- A name the kernel looks up in a directory. -/
def Plain (name : Name) : Prop := name ≠ [] ∧ name ≠ dot ∧ name ≠ dotdot

variable {path : Path}

theorem cleanComponents_inner {rooted : Bool} (inner : dotdot ∉ path) :
    cleanComponents rooted path = path.filter fun c => c ≠ [] ∧ c ≠ dot := by
  have pushed : ∀ cleaned, path.foldl (pushComponent rooted) cleaned =
      (path.filter fun c => c ≠ [] ∧ c ≠ dot).reverse ++ cleaned := by
    induction path with
    | nil => exact fun _ => rfl
    | cons c rest ih =>
      intro cleaned
      obtain ⟨proper, inner⟩ := not_or.mp (fun held => inner (List.mem_cons.mpr held))
      rw [List.foldl_cons, ih inner]
      by_cases idle : c = [] ∨ c = dot
      · rcases idle with rfl | rfl <;> simp [pushComponent]
      · simp [pushComponent, not_or.mp idle, Ne.symm proper]
  rw [cleanComponents, pushed, List.append_nil, List.reverse_reverse]

theorem cleanComponents_plain {rooted : Bool} (plain : ∀ c ∈ path, Plain c) :
    cleanComponents rooted path = path := by
  rw [cleanComponents_inner fun up => (plain dotdot up).2.2 rfl, List.filter_eq_self]
  exact fun c member => by simp [(plain c member).1, (plain c member).2.1]

theorem cleanComponents_append_empty (rooted : Bool) (path : Path) :
    cleanComponents rooted (path ++ [[]]) = cleanComponents rooted path := by
  simp [cleanComponents, pushComponent]

theorem isRooted_cons {c : Name} (named : c ≠ []) (rest : Path) :
    Path.isRooted (c :: rest) = false := by
  cases c with
  | nil => exact absurd rfl named
  | cons b bs => rfl

theorem isRooted_plain (plain : ∀ c ∈ path, Plain c) : path.isRooted = false := by
  cases path with
  | nil => rfl
  | cons c rest => exact isRooted_cons (plain c List.mem_cons_self).1 rest

theorem parentOf_plain (plain : ∀ c ∈ path, Plain c) :
    parentOf path = if path.dropLast = [] then [dot] else path.dropLast := by
  have front : ∀ c ∈ path.dropLast, Plain c :=
    fun c member => plain c ((List.dropLast_sublist path).subset member)
  have cleaned : cleanComponents false (path.dropLast ++ [[]]) = path.dropLast := by
    rw [cleanComponents_append_empty, cleanComponents_plain front]
  have relative : Path.isRooted (path.dropLast ++ [[]]) = false := by
    cases shape : path.dropLast with
    | nil => rfl
    | cons c rest =>
      exact isRooted_cons (front c (by rw [shape]; exact List.mem_cons_self)).1 _
  rw [parentOf, Path.clean, relative, cleaned]
  cases path.dropLast <;> simp

theorem cleanComponents_clean (inner : dotdot ∉ path) :
    cleanComponents true path.clean = cleanComponents true path := by
  have same : cleanComponents true path = cleanComponents path.isRooted path := by
    rw [cleanComponents_inner inner, cleanComponents_inner inner]
  have plain : ∀ c ∈ cleanComponents path.isRooted path, Plain c := by
    intro c member
    rw [cleanComponents_inner inner, List.mem_filter, decide_eq_true_eq] at member
    exact ⟨member.2.1, member.2.2, fun up => inner (up ▸ member.1)⟩
  rw [same, Path.clean]
  generalize cleanComponents path.isRooted path = components at plain ⊢
  cases path.isRooted <;> cases components
  · rfl
  · exact cleanComponents_plain plain
  · rfl
  · exact cleanComponents_plain plain

end PxHost.Agent
