import Mathlib.Algebra.Ring.Nat
import Mathlib.Data.List.Sort
import Mathlib.Data.String.Basic
import PxHost.Lib.Fallible
import PxHost.Lib.Table

/-!
The environment of a container (`internal/spec/env.go`): customer values for the variables a
template declares, overridden by the values the agent injects, as sorted `KEY=VALUE` entries.
-/

namespace PxHost.Environment

open Store Fallible

/-- Keys that are never accepted from a template or customer. -/
def deniedEnvKeys : List String :=
  ["PATH", "LD_PRELOAD", "LD_LIBRARY_PATH", "LD_AUDIT", "HOME", "USER", "SHELL", "BASH_ENV", "ENV",
    "IFS", "NODE_OPTIONS", "PYTHONPATH", "PYTHONSTARTUP", "JAVA_TOOL_OPTIONS", "_JAVA_OPTIONS",
    "JDK_JAVA_OPTIONS", "PERL5OPT", "RUBYOPT", "GCONV_PATH", "TMPDIR", "LD_ASSUME_KERNEL",
    "LD_ORIGIN_PATH"]

def maxEnvValueBytes : Nat := 4096

def maxEnvTotalBytes : Nat := 64 * 1024

inductive EnvProblem where
  | denied | badKey | nulByte | newline | tooLong

inductive EnvError where
  | customer (key : String) (problem : EnvProblem)
  | injected (key : String) (problem : EnvProblem)
  | tooLarge (total : Int)

/-- `^[A-Z][A-Z0-9_]{0,63}$` -/
def envKeyMatches (key : String) : Bool :=
  match key.toList with
  | [] => false
  | first :: rest => first.isUpper && rest.length ≤ 63 &&
      rest.all fun c => c.isUpper || c.isDigit || c == '_'

def validateEnvKV (key value : String) (enforceDenylist : Bool) : Option EnvProblem :=
  if enforceDenylist ∧ key ∈ deniedEnvKeys then some .denied
  else if ¬ envKeyMatches key then some .badKey
  else if '\x00' ∈ value.toList then some .nulByte
  else if '\n' ∈ value.toList ∨ '\r' ∈ value.toList then some .newline
  else if value.utf8ByteSize > maxEnvValueBytes then some .tooLong
  else none

def entrySize (key value : String) : Nat := key.utf8ByteSize + value.utf8ByteSize + 1

structure Building where
  merged : Table String String
  total : Int
  dropped : List String

def put (merged : Table String String) (key value : String) : Table String String :=
  (merged.erase key).add key value (by simp)

def takeVar (declared : List String) (b : Building) (row : String × String) :
    Except EnvError Building :=
  if row.1 ∉ declared then .ok { b with dropped := b.dropped ++ [row.1] }
  else match validateEnvKV row.1 row.2 true with
    | some problem => .error (.customer row.1 problem)
    | none => .ok { b with
        merged := put b.merged row.1 row.2
        total := b.total + entrySize row.1 row.2 }

def existing (merged : Table String String) (key : String) : Nat :=
  match merged.get? key with
  | some old => entrySize key old
  | none => 0

/-- One round of the loop over the agent's own values: what is replaced comes off the total. -/
def inject (b : Building) (row : String × String) : Except EnvError Building :=
  match validateEnvKV row.1 row.2 false with
  | some problem => .error (.injected row.1 problem)
  | none =>
    .ok { b with
      merged := put b.merged row.1 row.2
      total := b.total - existing b.merged row.1 + entrySize row.1 row.2 }

def entryText (entry : String × String) : String := entry.1 ++ "=" ++ entry.2

def sortedEntries (merged : Table String String) : List (String × String) :=
  ((merged.rows.map Prod.fst).insertionSort (· ≤ ·)).map fun key =>
    (key, (merged.get? key).getD "")

/-- A map is walked in the order of its rows: any order of them is one the runtime may choose. -/
def buildEnv (declared : List String) (vars injected : Table String String) :
    Except EnvError (List String × List String) := do
  let taken ← vars.rows.foldlM (takeVar declared) ⟨.empty, 0, []⟩
  let built ← injected.rows.foldlM inject taken
  if built.total > maxEnvTotalBytes then .error (.tooLarge built.total)
  else .ok ((sortedEntries built.merged).map entryText, built.dropped.insertionSort (· ≤ ·))

/-! ## What goes in -/

def VarsValid (declared : List String) (rows : List (String × String)) : Prop :=
  ∀ row ∈ rows, row.1 ∈ declared → validateEnvKV row.1 row.2 true = none

def InjectedValid (rows : List (String × String)) : Prop :=
  ∀ row ∈ rows, validateEnvKV row.1 row.2 false = none

/-- The first loop after some of its rows. -/
structure Taken (declared : List String) (done : List (String × String)) (b : Building) : Prop where
  valid : VarsValid declared done
  rows : b.merged.rows = done.filter (·.1 ∈ declared)
  counted : b.total = b.merged.sum entrySize
  dropped : b.dropped = (done.map Prod.fst).filter (· ∉ declared)

/-- The second loop after some of its rows. -/
structure Overridden (base : Building) (done : List (String × String)) (b : Building) : Prop where
  valid : InjectedValid done
  rows : b.merged.rows = base.merged.rows.filter (·.1 ∉ done.map Prod.fst) ++ done
  counted : b.total = b.merged.sum entrySize
  dropped : b.dropped = base.dropped

/-- A total that is right stays right if what was there before comes off it. -/
theorem total_put {merged : Table String String} {total : Int} (counted : total = merged.sum entrySize)
    (key value : String) :
    total - existing merged key + entrySize key value = (put merged key value).sum entrySize := by
  rw [put, Table.sum_add, existing, counted]
  split
  · next old stored =>
    rw [← Table.sum_erase stored entrySize]
    omega
  · next fresh =>
    have still : merged.erase key = merged := by
      refine Table.ext (List.filter_eq_self.mpr fun row member => ?_)
      simpa using Table.get?_eq_none_iff.mp fresh row member
    rw [still]
    omega

variable (declared : List String) (vars injected : Table String String)

theorem ne_of_split {t : Table String String} {done rest : List (String × String)}
    {next : String × String} (split : t.rows = done ++ next :: rest) :
    ∀ row ∈ done, row.1 ≠ next.1 := by
  have distinct := t.keysNodup
  rw [split, List.map_append, List.nodup_append] at distinct
  exact fun row member => distinct.2.2 _ (List.mem_map_of_mem member) _ (by simp)

/-- All variables are taken, or an invalid one is reported. -/
theorem take_run :
    (∃ b, vars.rows.foldlM (takeVar declared) ⟨.empty, 0, []⟩ = .ok b ∧ Taken declared vars.rows b) ∨
    ∃ e, vars.rows.foldlM (takeVar declared) ⟨.empty, 0, []⟩ = .error e ∧
      (∃ key problem, e = .customer key problem) ∧ ¬ VarsValid declared vars.rows := by
  refine foldlM_ok_or_error ⟨nofun, rfl, rfl, rfl⟩ ?_
  rintro done ⟨key, value⟩ rest b split taken
  have later := ne_of_split split
  -- A value is taken, refused, or dropped because nobody has declared its key.
  by_cases listed : key ∈ declared
  · cases checked : validateEnvKV key value true with
    | some problem =>
      refine .inr ⟨_, by simp [takeVar, listed, checked], ⟨key, problem, rfl⟩, fun valid => ?_⟩
      simp [valid (key, value) (by simp [split]) listed] at checked
    | none =>
      refine .inl ⟨_, (by simp only [takeVar, listed, checked, not_true, if_false]; rfl), ?_, ?_, ?_, ?_⟩
      · simpa [VarsValid, or_imp, forall_and, listed, checked] using taken.valid
      · have still : (done.filter (·.1 ∈ declared)).filter (fun row => !(row.1 == key)) =
            done.filter (·.1 ∈ declared) :=
          List.filter_eq_self.mpr fun row member => by
            simpa using later row (List.mem_of_mem_filter member)
        simp [put, Table.add, Table.erase, Table.eraseWhere, taken.rows, still, listed]
      -- The key is new, so nothing comes off the total.
      · have fresh : b.merged.get? key = none := by
          rw [Table.get?_eq_none_iff, taken.rows]
          exact fun row member => later row (List.mem_of_mem_filter member)
        simpa [existing, fresh] using total_put taken.counted key value
      · simp [taken.dropped, listed]
  · refine .inl ⟨_, (by simp only [takeVar, listed, not_false_iff, if_true]; rfl), ?_, ?_, ?_, ?_⟩
    · simpa [VarsValid, or_imp, forall_and, listed] using taken.valid
    · simp [taken.rows, listed]
    · exact taken.counted
    · simp [taken.dropped, listed]

theorem override_run {base : Building} (counted : base.total = base.merged.sum entrySize) :
    (∃ b, injected.rows.foldlM inject base = .ok b ∧ Overridden base injected.rows b) ∨
    ∃ e, injected.rows.foldlM inject base = .error e ∧
      (∃ key problem, e = .injected key problem) ∧ ¬ InjectedValid injected.rows := by
  refine foldlM_ok_or_error ⟨nofun, by simp, counted, rfl⟩ ?_
  rintro done ⟨key, value⟩ rest b split taken
  have later := ne_of_split split
  cases checked : validateEnvKV key value false with
  | some problem =>
    refine .inr ⟨_, by simp [inject, checked], ⟨key, problem, rfl⟩, fun valid => ?_⟩
    simp [valid (key, value) (by simp [split])] at checked
  | none =>
    refine .inl ⟨_, (by simp only [inject, checked]; rfl), ?_, ?_, ?_, ?_⟩
    · simpa [InjectedValid, or_imp, forall_and, checked] using taken.valid
    · have still : done.filter (fun row => !(row.1 == key)) = done :=
        List.filter_eq_self.mpr fun row member => by simpa using later row member
      have left : (base.merged.rows.filter (·.1 ∉ done.map Prod.fst)).filter
          (fun row => !(row.1 == key)) =
          base.merged.rows.filter (·.1 ∉ (done ++ [(key, value)]).map Prod.fst) := by
        rw [List.filter_filter]
        refine List.filter_congr fun row _ => ?_
        grind
      simp only [put, Table.add, Table.erase, Table.eraseWhere, taken.rows, List.filter_append, still,
        left, List.append_assoc]
    · exact total_put taken.counted key value
    · exact taken.dropped

/-! ## What comes out -/

/-- What the environment is for: the injected values, and the declared customer values beside them. -/
def finalRows (declared : List String) (vars injected : Table String String) :
    List (String × String) :=
  vars.rows.filter (fun row => row.1 ∉ injected.rows.map Prod.fst ∧ row.1 ∈ declared) ++ injected.rows

/-- A build that gets past both loops has merged the final rows, and is left with their size. -/
theorem buildEnv_outcome (declared : List String) (vars injected : Table String String) :
    (∃ key problem, buildEnv declared vars injected = .error (.customer key problem)) ∧
      ¬ VarsValid declared vars.rows ∨
    (∃ key problem, buildEnv declared vars injected = .error (.injected key problem)) ∧
      VarsValid declared vars.rows ∧ ¬ InjectedValid injected.rows ∨
    (VarsValid declared vars.rows ∧ InjectedValid injected.rows) ∧
      ∃ merged : Table String String, merged.rows = finalRows declared vars injected ∧
        buildEnv declared vars injected =
          if maxEnvTotalBytes < merged.sum entrySize then
            .error (.tooLarge (merged.sum entrySize : Nat))
          else .ok ((sortedEntries merged).map entryText,
            ((vars.rows.map Prod.fst).filter (· ∉ declared)).insertionSort (· ≤ ·)) := by
  unfold buildEnv
  rcases take_run declared vars with
    ⟨base, goes, taken⟩ | ⟨e, fails, ⟨key, problem, rfl⟩, invalid⟩
  · rcases override_run injected taken.counted with
      ⟨b, goes', merged⟩ | ⟨e, fails, ⟨key, problem, rfl⟩, invalid⟩
    · refine .inr (.inr ⟨⟨taken.valid, merged.valid⟩, b.merged, ?_, ?_⟩)
      · simp [merged.rows, taken.rows, finalRows, List.filter_filter]
      · simp [goes, goes', merged.counted, merged.dropped, taken.dropped]
    · exact .inr (.inl ⟨⟨key, problem, by rw [goes, ok_bind, fails]; rfl⟩, taken.valid, invalid⟩)
  · exact .inl ⟨⟨key, problem, by rw [fails]; rfl⟩, invalid⟩

/-- Two builds that give the same, or refuse a value of the same party, or the same size. -/
def SameWay : Except EnvError (List String × List String) →
    Except EnvError (List String × List String) → Prop
  | .ok result, .ok result' => result = result'
  | .error (.customer _ _), .error (.customer _ _) => True
  | .error (.injected _ _), .error (.injected _ _) => True
  | .error (.tooLarge total), .error (.tooLarge total') => total = total'
  | _, _ => False

theorem insertionSort_eq_of_perm {l l' : List String} (perm : l.Perm l') :
    l.insertionSort (· ≤ ·) = l'.insertionSort (· ≤ ·) :=
  List.Perm.eq_of_pairwise (fun _ _ _ _ => le_antisymm) (List.pairwise_insertionSort ..)
    (List.pairwise_insertionSort ..)
    ((List.perm_insertionSort _ l).trans (perm.trans (List.perm_insertionSort _ l').symm))

theorem sortedEntries_eq_of_perm {t t' : Table String String} (perm : t.rows.Perm t'.rows) :
    sortedEntries t = sortedEntries t' := by
  unfold sortedEntries
  rw [insertionSort_eq_of_perm (perm.map Prod.fst)]
  refine List.map_congr_left fun key _ => ?_
  congr 2
  refine Option.ext fun v => ?_
  rw [Table.get?_eq_some_iff, Table.get?_eq_some_iff, perm.mem_iff]

theorem buildEnv_sameWay {vars' injected' : Table String String}
    (perm : vars'.rows.Perm vars.rows) (perm' : injected'.rows.Perm injected.rows) :
    SameWay (buildEnv declared vars' injected') (buildEnv declared vars injected) := by
  have first : VarsValid declared vars'.rows ↔ VarsValid declared vars.rows := by
    simp only [VarsValid, perm.mem_iff]
  have second : InjectedValid injected'.rows ↔ InjectedValid injected.rows := by
    simp only [InjectedValid, perm'.mem_iff]
  have final : (finalRows declared vars' injected').Perm (finalRows declared vars injected) := by
    simp only [finalRows, (perm'.map Prod.fst).mem_iff]
    exact (perm.filter _).append perm'
  -- Which of the three outcomes there is depends on the rows as a set only.
  have outcome' := buildEnv_outcome declared vars' injected'
  rw [first, second] at outcome'
  rcases buildEnv_outcome declared vars injected with
    ⟨⟨_, _, fails⟩, invalid⟩ | ⟨⟨_, _, fails⟩, valid, invalid⟩ | ⟨⟨valid, valid'⟩, merged, rows, built⟩ <;>
  rcases outcome' with
    ⟨⟨_, _, fails'⟩, invalid'⟩ | ⟨⟨_, _, fails'⟩, valid', invalid'⟩ | ⟨⟨valid', valid''⟩, merged', rows', built'⟩
  all_goals try contradiction
  · simp [fails, fails', SameWay]
  · simp [fails, fails', SameWay]
  · have perm'' : merged'.rows.Perm merged.rows := by rw [rows, rows']; exact final
    have total : merged'.sum entrySize = merged.sum entrySize := (perm''.map _).sum_eq
    have dropped := insertionSort_eq_of_perm ((perm.map Prod.fst).filter (· ∉ declared))
    rw [built, built', total, sortedEntries_eq_of_perm perm'', dropped]
    split <;> rfl

theorem sortedEntries_perm (t : Table String String) : (sortedEntries t).Perm t.rows := by
  refine ((List.perm_insertionSort _ _).map _).trans ?_
  rw [List.map_map]
  refine .of_eq ((List.map_congr_left ?_).trans (List.map_id _))
  rintro ⟨k, v⟩ member
  simp [Table.get?_eq_some_iff.mpr member]

theorem sortedEntries_keys (t : Table String String) :
    ((sortedEntries t).map Prod.fst).Pairwise (· < ·) := by
  have keys : (sortedEntries t).map Prod.fst = (t.rows.map Prod.fst).insertionSort (· ≤ ·) := by
    simp [sortedEntries, Function.comp_def]
  have distinct : ((t.rows.map Prod.fst).insertionSort (· ≤ ·)).Nodup :=
    (List.perm_insertionSort _ _).nodup_iff.mpr t.keysNodup
  rw [keys]
  exact ((List.pairwise_insertionSort (· ≤ ·) _).and distinct).imp fun both =>
    lt_of_le_of_ne both.1 both.2

/-- A key and value that pass their check end no entry early. -/
theorem plain_of_valid {key value : String} {enforceDenylist : Bool}
    (valid : validateEnvKV key value enforceDenylist = none) :
    (enforceDenylist → key ∉ deniedEnvKeys) ∧
      '\x00' ∉ (entryText (key, value)).toList ∧ '\n' ∉ (entryText (key, value)).toList := by
  unfold validateEnvKV at valid
  split_ifs at valid with denied matched nul newline
  -- The key has none of the two characters by its own alphabet.
  have plain (c : Char) (listed : c ∈ key.toList) : c.isUpper || c.isDigit || c == '_' := by
    simp only [envKeyMatches] at matched
    split at matched <;> grind
  refine ⟨by grind, ?_, ?_⟩
  · have := plain '\x00'
    simp_all [entryText]
  · have := plain '\n'
    simp_all [entryText]

/--
The environment does not depend on the order of either map. What is built has each injected value
and each declared value of the customer that is not denied, sorted by key and without line breaks;
a build is refused for its size exactly above the cap, and succeeds exactly for valid values below.
-/
theorem environment_is_allow_listed_and_capped (declared : List String)
    (vars injected : Table String String) :
    (∀ vars' injected' : Table String String,
      vars'.rows.Perm vars.rows → injected'.rows.Perm injected.rows →
      SameWay (buildEnv declared vars' injected') (buildEnv declared vars injected)) ∧
    (∀ env dropped, buildEnv declared vars injected = .ok (env, dropped) →
      ∃ entries : List (String × String), env = entries.map entryText ∧
        (entries.map Prod.fst).Pairwise (· < ·) ∧
        entries.Perm (finalRows declared vars injected) ∧
        ∀ k v, (k, v) ∈ entries →
          (injected.get? k = some v ∨ injected.get? k = none ∧ vars.get? k = some v ∧
            k ∈ declared ∧ k ∉ deniedEnvKeys) ∧
          '\x00' ∉ (entryText (k, v)).toList ∧ '\n' ∉ (entryText (k, v)).toList) ∧
    ((∃ total, buildEnv declared vars injected = .error (.tooLarge total)) ↔
      VarsValid declared vars.rows ∧ InjectedValid injected.rows ∧
        maxEnvTotalBytes <
          ((finalRows declared vars injected).map fun row => (entryText row).utf8ByteSize).sum) ∧
    ((∃ built, buildEnv declared vars injected = .ok built) ↔
      VarsValid declared vars.rows ∧ InjectedValid injected.rows ∧
        ((finalRows declared vars injected).map fun row => (entryText row).utf8ByteSize).sum ≤
          maxEnvTotalBytes) := by
  refine ⟨fun _ _ => buildEnv_sameWay declared vars injected, ?_⟩
  rcases buildEnv_outcome declared vars injected with
    ⟨⟨_, _, fails⟩, invalid⟩ | ⟨⟨_, _, fails⟩, valid, invalid⟩ | ⟨⟨valid, valid'⟩, merged, rows, built⟩
  · simp [fails, invalid]
  · simp [fails, invalid]
  have listed {k v : String} (member : (k, v) ∈ sortedEntries merged) :
      (k, v) ∈ injected.rows ∨ (k, v) ∈ vars.rows ∧ k ∉ injected.rows.map Prod.fst ∧ k ∈ declared := by
    have := (sortedEntries_perm merged).mem_iff.mp member
    rw [rows, finalRows, List.mem_append, List.mem_filter, decide_eq_true_eq] at this
    exact this.symm
  have bytes : merged.sum entrySize =
      ((finalRows declared vars injected).map fun row => (entryText row).utf8ByteSize).sum := by
    rw [Table.sum, rows]
    refine congrArg List.sum (List.map_congr_left fun row _ => ?_)
    simp only [entrySize, entryText, String.utf8ByteSize_append]
    exact Nat.add_right_comm ..
  rw [built, ← bytes]
  refine ⟨?_, ?_, ?_⟩
  · intro env dropped builds
    split at builds
    · cases builds
    cases builds
    refine ⟨_, rfl, sortedEntries_keys _, rows ▸ sortedEntries_perm _, fun k v member => ?_⟩
    rcases listed member with own | ⟨given, free, allowed⟩
    · exact ⟨.inl (Table.get?_eq_some_iff.mpr own), (plain_of_valid (valid' _ own)).2⟩
    · have plain := plain_of_valid (valid _ given allowed)
      refine ⟨.inr ⟨?_, Table.get?_eq_some_iff.mpr given, allowed, plain.1 rfl⟩, plain.2⟩
      exact Table.get?_eq_none_iff.mpr fun row member same =>
        free (same ▸ List.mem_map_of_mem member)
  · simp only [valid, valid', true_and]
    split <;> simp_all
  · simp only [valid, valid', true_and]
    split <;> simp_all

end PxHost.Environment
