import Mathlib.Data.List.Basic

/-! Journals: logs of a state machine whose entries name the state they leave and the one they enter. -/

namespace Journal

/-- How the entries of a journal speak about states, and which moves the machine allows. -/
structure Grammar (S E : Type*) where
  /-- The state an entry leaves; none for the entry that opens a life. -/
  source : E → Option S
  /-- The state an entry enters. -/
  target : E → S
  /-- The moves of the machine, the opening one included. -/
  allowed : Option S → S → Bool

variable {S E : Type*} (g : Grammar S E)

/--
The entries lead from one state to another: each leaves the state the one before it entered, each
is an allowed move, and the last one enters the state the journal ends in.
-/
def Traces : Option S → List E → Option S → Prop
  | start, [], current => current = start
  | start, entry :: rest, current =>
    g.source entry = start ∧ g.allowed start (g.target entry) ∧
      Traces (some (g.target entry)) rest current

instance Traces.decidable [DecidableEq S] :
    ∀ start entries current, Decidable (Traces g start entries current)
  | start, [], current => inferInstanceAs (Decidable (current = start))
  | start, entry :: rest, current =>
    have := Traces.decidable (some (g.target entry)) rest current
    inferInstanceAs (Decidable (g.source entry = start ∧ g.allowed start (g.target entry) ∧
      Traces g (some (g.target entry)) rest current))

variable {g}

@[simp] theorem traces_nil {start current : Option S} :
    Traces g start [] current ↔ current = start := Iff.rfl

@[simp] theorem traces_cons {start current : Option S} {entry : E} {rest : List E} :
    Traces g start (entry :: rest) current ↔ g.source entry = start ∧
      g.allowed start (g.target entry) ∧ Traces g (some (g.target entry)) rest current := Iff.rfl

theorem Traces.append {start middle current : Option S} {first second : List E}
    (before : Traces g start first middle) (rest : Traces g middle second current) :
    Traces g start (first ++ second) current := by
  induction first generalizing start with
  | nil =>
    obtain rfl := traces_nil.mp before
    exact rest
  | cons entry tail ih =>
    obtain ⟨source, legal, before⟩ := traces_cons.mp before
    exact traces_cons.mpr ⟨source, legal, ih before⟩

end Journal
