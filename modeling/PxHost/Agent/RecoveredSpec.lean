import Mathlib.Data.Int.GCD
import Mathlib.Tactic.Linarith
import PxHost.Agent.AdoptionLaws

/-! The command and the limits of a server, given to Docker and read back after a restart. -/

namespace PxHost.Spec

open Store Fallible

section Command

variable {tokens : List (List Char)} {token rest argument : List Char}

theorem tokenizeFrom_quoted :
    tokenizeFrom tokens (some token) .single
        (argument.flatMap (fun c =>
          if c = singleQuote then [singleQuote, backslash, singleQuote, singleQuote] else [c]) ++
            singleQuote :: rest) =
      tokenizeFrom tokens (some (token ++ argument)) .none rest := by
  have escapes : backslash ≠ singleQuote ∧ backslash ≠ doubleQuote := by decide
  induction argument generalizing token with
  | nil => simp [tokenizeFrom]
  | cons c argument ih =>
    rw [List.flatMap_cons, List.append_assoc]
    by_cases quote : c = singleQuote
    · -- The quotes around an escaped one close the text and open it again.
      subst quote
      simp [tokenizeFrom, ih, escapes]
    · simp [tokenizeFrom, quote, ih]

theorem tokenizeFrom_safe {c : Char} (safe : isShellSafe c) (current : Option (List Char)) :
    tokenizeFrom tokens current .none (c :: rest) =
      tokenizeFrom tokens (some (current.getD [] ++ [c])) .none rest := by
  have apart {s : Char} (special : isShellSafe s = false) : c ≠ s := by
    rintro rfl
    simp [special] at safe
  have blank : ¬ (c = ' ' ∨ c = '\t' ∨ c = '\n' ∨ c = '\r') := by
    simp only [not_or]
    exact ⟨apart (by decide), apart (by decide), apart (by decide), apart (by decide)⟩
  rw [tokenizeFrom, if_neg (apart (by decide)), if_neg (apart (by decide)),
    if_neg (apart (by decide)), if_neg blank]

theorem tokenizeFrom_word (word : List Char) (safe : word.all isShellSafe) :
    tokenizeFrom tokens (some token) .none (word ++ rest) =
      tokenizeFrom tokens (some (token ++ word)) .none rest := by
  induction word generalizing token with
  | nil => simp
  | cons c word ih =>
    simp only [List.all_cons, Bool.and_eq_true] at safe
    rw [List.cons_append, tokenizeFrom_safe safe.1, ih safe.2]
    simp

/-- Whatever an argument contains, it is read back as one word. -/
theorem tokenizeFrom_shellQuote :
    tokenizeFrom tokens none .none (shellQuote argument ++ rest) =
      tokenizeFrom tokens (some argument) .none rest := by
  unfold shellQuote
  split
  · next safe =>
    obtain ⟨nonempty, safe⟩ := safe
    cases argument with
    | nil => exact absurd rfl nonempty
    | cons c tail =>
      simp only [List.all_cons, Bool.and_eq_true] at safe
      rw [List.cons_append, tokenizeFrom_safe safe.1]
      exact tokenizeFrom_word tail safe.2
  · simpa [tokenizeFrom] using @tokenizeFrom_quoted tokens [] rest argument

theorem tokenizeFrom_join (argv : List (List Char)) :
    tokenizeFrom tokens none .none ([' '].intercalate (argv.map shellQuote)) =
      .ok (tokens ++ argv) := by
  induction argv generalizing tokens with
  | nil => simp [tokenizeFrom, flush]
  | cons argument argv ih =>
    cases argv with
    | nil =>
      have last := @tokenizeFrom_shellQuote tokens [] argument
      simpa [tokenizeFrom, flush] using last
    | cons next argv =>
      -- The blank between two arguments ends the first of them.
      have blank (rest : List Char) : tokenizeFrom tokens (some argument) .none (' ' :: rest) =
          tokenizeFrom (tokens ++ [argument]) none .none rest := rfl
      simp only [List.map_cons, List.intercalate_cons_cons, List.append_assoc] at ih ⊢
      rw [tokenizeFrom_shellQuote, List.singleton_append, blank, ih, List.append_assoc]
      rfl

/-- Without variables a text stays as it is exactly if it opens no placeholder. -/
theorem substituteFrom_empty_iff {text result : List Char} {name : Option (List Char)} :
    substituteFrom token .empty name text = .ok result ↔
      name = none ∧ result = text ∧ ¬ ['{', '{'] <:+: text := by
  fun_induction substituteFrom token .empty name text generalizing result with
  | case1 rest ih =>
    have opened : ['{', '{'] <:+: '{' :: '{' :: rest := ⟨[], rest, rfl⟩
    simp [ih, opened]
  | case2 c rest plain ih =>
    have later : ['{', '{'] <:+: c :: rest ↔ ['{', '{'] <:+: rest := by
      rw [List.infix_cons_iff]
      refine or_iff_right ?_
      rintro ⟨tail, starts⟩
      obtain ⟨rfl, rfl⟩ := List.cons.inj starts
      exact plain tail rfl rfl
    rw [bind_eq_ok_iff, later]
    simp only [ih, true_and, and_assoc, exists_eq_left, pure, Except.pure, Except.ok.injEq]
    rw [and_comm, eq_comm]
  | case3 =>
    have closed : ¬ ['{', '{'] <:+: ([] : List Char) := by decide
    simp [closed, eq_comm]
  | case4 => simp
  | case5 name rest value found ih => cases found
  | case6 name c rest _ ih => simp [ih]
  | case7 => simp

theorem mapM_substitute_empty_iff {result : List (List Char)} :
    tokens.mapM (substitute .empty) = .ok result ↔
      result = tokens ∧ ∀ token ∈ tokens, ¬ ['{', '{'] <:+: token := by
  induction tokens generalizing result with
  | nil => simp [pure, Except.pure, eq_comm]
  | cons token tokens ih =>
    simp only [List.mapM_cons, bind_eq_ok_iff, substitute, substituteFrom_empty_iff, ih,
      List.forall_mem_cons, true_and, and_assoc, exists_eq_left, pure, Except.pure, Except.ok.injEq]
    rw [eq_comm]
    tauto

/--
The startup template that is stored after a restart gives the command it was made from exactly if no
argument opens a placeholder, which there are no variables for any more.
-/
theorem restart_keeps_command_iff {template : String} {vars : Table String String}
    {argv : List String} (built : buildArgv template vars = .ok argv) :
    buildArgv (joinShellArgs argv) .empty = .ok argv ↔
      ∀ argument ∈ argv, ¬ ['{', '{'] <:+: argument.toList := by
  obtain ⟨-, nonempty, allowed, clean⟩ := buildArgv_ok built
  have tokenized : tokenize (joinShellArgs argv) = .ok (argv.map String.toList) := by
    have joined := @tokenizeFrom_join [] (argv.map String.toList)
    rw [List.map_map] at joined
    rwa [tokenize, joinShellArgs, String.toList_ofList]
  have plain : rewriteLegacyForgeArgfile (argv.map String.toList) .empty =
      argv.map String.toList := by
    simp [rewriteLegacyForgeArgfile]
  have found : (argv.map String.toList).findIdx? (·.contains (Char.ofNat 0)) = none := by
    simpa [List.findIdx?_eq_none_iff] using clean
  have first : String.ofList ((argv.map String.toList).headD []) = argv.headD "" := by
    cases argv <;> simp
  have back : (argv.map String.toList).map String.ofList = argv := by simp
  simp only [buildArgv, tokenized, bind_eq_ok_iff, require_eq_ok_iff, mapM_substitute_empty_iff]
  constructor
  · rintro ⟨_, ⟨⟩, _, _, _, ⟨rfl, closed⟩, _⟩
    simpa using closed
  · intro closed
    refine ⟨_, rfl, (), by simpa using nonempty, _, ⟨rfl, by simpa using closed⟩, ?_⟩
    rw [plain, first, found, back]
    exact ⟨(), allowed, rfl⟩

theorem sample_restart_keeps_command :
    buildArgv (joinShellArgs ["java", "-Dmotd=a b", "it's"]) .empty =
      .ok ["java", "-Dmotd=a b", "it's"] := by
  have built : buildArgv "java -Dmotd=\"a b\" it\\'s" .empty =
      .ok ["java", "-Dmotd=a b", "it's"] := by
    decide +kernel
  exact (restart_keeps_command_iff built).mpr (by decide +kernel)

/-- A value with two braces is taken for a placeholder after the restart. -/
theorem braces_stop_the_restart :
    (buildArgv "java \x7b\x7bMOTD\x7d\x7d" ⟨[("MOTD", "\x7b\x7b")], by simp⟩).toOption.map
      (fun argv => (argv, buildArgv (joinShellArgs argv) .empty)) =
    some (["java", "\x7b\x7b"], .error (.unterminatedPlaceholder "\x7b\x7b")) := by
  decide +kernel

end Command

section Products

variable {a b n : Int64}

/-- A product of 64-bit numbers is the exact one up to a multiple of `2 ^ 64`. -/
theorem toInt_mul_wraps (a b : Int64) :
    ∃ wraps : Int, (a * b).toInt = a.toInt * b.toInt - 18446744073709551616 * wraps := by
  refine ⟨(a.toInt * b.toInt - (a * b).toInt) / 18446744073709551616, ?_⟩
  have same : (a * b).toInt % 18446744073709551616 = a.toInt * b.toInt % 18446744073709551616 := by
    rw [Int64.toInt_mul]
    exact Int.bmod_emod
  omega

theorem toInt_mul_of_fits (notNegative : 0 ≤ a.toInt * b.toInt)
    (fits : a.toInt * b.toInt < 9223372036854775808) : (a * b).toInt = a.toInt * b.toInt := by
  rw [Int64.toInt_mul]
  exact Int.bmod_eq_of_le (by omega) (by omega)

theorem mul_div_cancel_of_fits (notNegative : 0 ≤ a.toInt) (positive : 0 < b.toInt)
    (fits : a.toInt * b.toInt < 9223372036854775808) : a * b / b = a := by
  have proper : b ≠ -1 := by
    rintro rfl
    contradiction
  have product := Int.mul_nonneg notNegative (Int.le_of_lt positive)
  rw [← Int64.toInt_inj, Int64.toInt_div_of_ne_right _ _ proper, toInt_mul_of_fits product fits,
    Int.mul_tdiv_cancel _ (Int.ne_of_gt positive)]

variable (notNegative : 0 ≤ n.toInt) (fits : n.toInt * 1048576 < 9223372036854775808)
include notNegative fits

theorem toInt_mib : (n * 1024 * 1024).toInt = n.toInt * 1048576 := by
  rw [Int64.mul_assoc]
  exact toInt_mul_of_fits (Int.mul_nonneg notNegative (by decide)) fits

theorem mib_div : n * 1024 * 1024 / (1024 * 1024) = n := by
  rw [Int64.mul_assoc]
  exact mul_div_cancel_of_fits notNegative (by decide) fits

end Products

section Limits

variable {limits : Limits} {node : Node} {diskMb : Int64}

/-- Two numbers below `2 ^ 61` whose thousandfolds agree modulo `2 ^ 64` are the same. -/
theorem eq_of_thousandfold {x y : Int} (wraps : Int) (notNegative : 0 ≤ x) (small : x < 2305843009213693952)
    (notNegative' : 0 ≤ y) (small' : y < 2305843009213693952)
    (same : 1000 * x = 1000 * y - 18446744073709551616 * wraps) : x = y := by
  have odd : 125 * (y - x) = 2305843009213693952 * wraps := by linarith
  obtain ⟨n, multiple⟩ : (2305843009213693952 : Int) ∣ y - x :=
    Int.dvd_of_dvd_mul_right_of_gcd_one ⟨wraps, odd⟩ (by decide +kernel)
  clear same odd
  omega

/-- The quota of a share whose hundredfold fits is exact, and none where the share is none. -/
theorem toInt_cpuQuota {percent : Int64} (fits : percent.toInt ≤ 92233720368547) :
    (cpuQuota percent).toInt = if percent.toInt ≤ 0 then 0 else percent.toInt * 1000 := by
  unfold cpuQuota
  simp only [Int64.le_iff_toInt_le, Int64.reduceToInt]
  split
  · rfl
  · exact toInt_mul_of_fits (by simp only [Int64.reduceToInt]; omega)
      (by simp only [Int64.reduceToInt]; omega)

/--
The quota is read back as it was exactly if what is left of the share modulo `2 ^ 61` is small, since
a thousand times a multiple of `2 ^ 61` vanishes in 64 bits.
-/
theorem cpuQuota_recovered_iff {percent : Int64} :
    cpuQuota (cpuQuota percent * 100 / 100000) = cpuQuota percent ↔
      percent ≤ 0 ∨ percent.toInt % 2305843009213693952 ≤ 92233720368547 := by
  by_cases unlimited : percent ≤ 0
  · simp [cpuQuota, unlimited]
  have quota : cpuQuota percent = percent * 1000 := if_neg unlimited
  rw [quota, or_iff_right unlimited]
  have lowest := Int.emod_nonneg percent.toInt (show (2305843009213693952 : Int) ≠ 0 by decide)
  have highest := Int.emod_lt_of_pos percent.toInt (show (0 : Int) < 2305843009213693952 by decide)
  obtain ⟨wraps, share⟩ : ∃ wraps : Int, (percent * 1000).toInt =
      1000 * (percent.toInt % 2305843009213693952) - 18446744073709551616 * wraps := by
    obtain ⟨wraps, product⟩ := toInt_mul_wraps percent 1000
    refine ⟨wraps - 125 * (percent.toInt / 2305843009213693952), ?_⟩
    simp only [Int64.reduceToInt] at product
    omega
  obtain ⟨wraps', hundred⟩ := toInt_mul_wraps (percent * 1000) 100
  have divided : (percent * 1000 * 100 / 100000).toInt =
      (percent * 1000 * 100).toInt.tdiv 100000 :=
    Int64.toInt_div_of_ne_right _ _ (by decide)
  have low := Int64.le_toInt (percent * 1000)
  have high := Int64.toInt_lt (percent * 1000)
  have low' := Int64.le_toInt (percent * 1000 * 100)
  have high' := Int64.toInt_lt (percent * 1000 * 100)
  simp only [Int64.reduceToInt] at hundred
  generalize percent.toInt % 2305843009213693952 = rest at *
  rw [← Int64.toInt_inj]
  generalize percent * 1000 * 100 / 100000 = back at divided ⊢
  generalize (percent * 1000 * 100).toInt = scaled at hundred divided low' high'
  generalize (percent * 1000).toInt = quota at *
  have bound : back.toInt ≤ 92233720368547 := by
    rw [divided]
    exact Int.tdiv_le_tdiv (show (0 : Int) < 100000 by decide)
      (show scaled ≤ 9223372036854775807 by omega)
  rw [toInt_cpuQuota bound]
  constructor
  · intro same
    split at same
    · have none := @eq_of_thousandfold 0 rest wraps (by decide) (by decide) lowest highest
        (by rw [← share, ← same, Int.mul_zero])
      rw [← none]
      decide
    · next limited =>
      have kept := @eq_of_thousandfold back.toInt rest wraps (Int.not_le.mp limited).le
        (lt_of_le_of_lt bound (by decide)) lowest highest (by rw [← share, ← same, Int.mul_comm])
      rwa [← kept]
  · -- A small rest passes through both products and the division unchanged.
    intro small
    have whole : quota = 1000 * rest := by omega
    have whole' : scaled = 100000 * rest := by omega
    rw [whole', Int.tdiv_eq_ediv_of_nonneg (by omega), Int.mul_ediv_cancel_left _ (by decide)]
      at divided
    rw [divided, whole]
    split <;> omega

theorem clampInt_recovered (weight : Int64) :
    clampInt (Int64.ofNat (UInt16.ofNat (clampInt weight 10 1000 500).toInt.toNat).toNat) 10 1000
      500 = clampInt weight 10 1000 500 := by
  have bounds : 10 ≤ (clampInt weight 10 1000 500).toInt ∧
      (clampInt weight 10 1000 500).toInt ≤ 1000 := by
    unfold clampInt
    split
    · decide
    split
    · decide
    split
    · decide
    · next low high =>
      exact ⟨Int64.le_iff_toInt_le.mp (Int64.not_lt.mp low),
        Int64.le_iff_toInt_le.mp (Int64.not_lt.mp high)⟩
  generalize clampInt weight 10 1000 500 = clamped at bounds ⊢
  have back : Int64.ofNat (UInt16.ofNat clamped.toInt.toNat).toNat = clamped := by
    rw [UInt16.toNat_ofNat_of_lt' (show clamped.toInt.toNat < 65536 by omega),
      ← Int64.ofInt_eq_ofNat, Int.toNat_of_nonneg (by omega), Int64.ofInt_toInt]
  rw [back, clampInt, if_neg, if_neg, if_neg]
  · exact mt Int64.lt_iff_toInt_lt.mp (Int.not_lt.mpr bounds.2)
  · exact mt Int64.lt_iff_toInt_lt.mp (Int.not_lt.mpr bounds.1)
  · rintro rfl
    exact absurd bounds.1 (by decide)

section Fitting

variable (positive : 0 < limits.memoryMb)
  (memory : limits.memoryMb.toInt * 1048576 < 9223372036854775808)
include positive memory

theorem recovered_memoryMb :
    (recoveredLimits diskMb (buildResources limits node)).memoryMb = limits.memoryMb := by
  have back := mib_div (Int.le_of_lt (Int64.lt_iff_toInt_lt.mp positive)) memory
  simp only [recoveredLimits, buildResources, back]
  exact if_neg (Int64.not_le.mpr positive)

variable (total : (limits.memoryMb.toInt + limits.swapMb.toInt) * 1048576 < 9223372036854775808)
include total

theorem recovered_swapMb (limited : ¬ limits.swapMb < 0) :
    (recoveredLimits diskMb (buildResources limits node)).swapMb = limits.swapMb := by
  have notNegative : 0 ≤ limits.memoryMb.toInt := Int.le_of_lt (Int64.lt_iff_toInt_lt.mp positive)
  have swap : 0 ≤ limits.swapMb.toInt := Int64.le_iff_toInt_le.mp (Int64.not_lt.mp limited)
  have memBytes := toInt_mib notNegative memory
  have sum : (limits.memoryMb * 1024 * 1024 + limits.swapMb * 1024 * 1024).toInt =
      (limits.memoryMb.toInt + limits.swapMb.toInt) * 1048576 := by
    rw [Int64.toInt_add, memBytes, toInt_mib swap (by omega), ← Int.add_mul]
    exact Int.bmod_eq_of_le (by omega) (by omega)
  simp only [recoveredLimits, buildResources, memSwapBytes, if_neg limited]
  simp only [Int64.lt_iff_toInt_lt, sum, memBytes, Int64.reduceToInt]
  rw [if_neg (by omega)]
  split
  · rw [Int64.add_comm, Int64.add_sub_cancel, mib_div swap (by omega)]
  · -- The ceiling is not above the memory, so there is no swap.
    rw [← Int64.toInt_inj]
    show 0 = _
    omega

theorem memSwapBytes_recovered :
    memSwapBytes (recoveredLimits diskMb (buildResources limits node)) = memSwapBytes limits := by
  by_cases unlimited : limits.swapMb < 0
  · simp [recoveredLimits, buildResources, memSwapBytes, unlimited]
  · rw [memSwapBytes, recovered_swapMb positive memory total unlimited,
      recovered_memoryMb positive memory]
    rfl

/-- Memory, swap, weight and the limit of processes come back in any case, so the share decides. -/
theorem buildResources_recoveredLimits_iff :
    buildResources (recoveredLimits diskMb (buildResources limits node)) node =
        buildResources limits node ↔
      limits.cpuPercent ≤ 0 ∨ limits.cpuPercent.toInt % 2305843009213693952 ≤ 92233720368547 := by
  have memoryMb := @recovered_memoryMb limits node diskMb positive memory
  have swap := @memSwapBytes_recovered limits node diskMb positive memory total
  rw [← cpuQuota_recovered_iff]
  unfold buildResources at memoryMb swap ⊢
  rw [memoryMb, swap]
  simp only [recoveredLimits, Resources.mk.injEq, true_and, Option.getD_some, Option.some.injEq]
  refine and_iff_left ⟨?_, ?_⟩
  · split
    · rw [clampInt_recovered]
    · rfl
  · by_cases default : limits.pidsLimit = 0
    · simp [default]
    · simp [default]

end Fitting

end Limits

/--
As long as the bytes of the memory and of the swap ceiling fit, the limits that are read back give
Docker the same resources exactly if there is no CPU limit, or the limit is at most 92233720368547
percent when multiples of `2 ^ 61` are left out.
-/
theorem resources_survive_restart_iff {nat : NatPort} {srv recovered : Server} {node : Node} {cfg : Config}
    {hc : HostConfig} (valid : validateServer srv node = .ok ())
    (memory : srv.limits.memoryMb.toInt * 1048576 < 9223372036854775808)
    (total : (srv.limits.memoryMb.toInt + srv.limits.swapMb.toInt) * 1048576 < 9223372036854775808)
    (reported : hc.resources = buildResources srv.limits node)
    (ok : recoveredServerSpec nat cfg hc = .ok recovered) :
    buildResources recovered.limits node = buildResources srv.limits node ↔
      srv.limits.cpuPercent ≤ 0 ∨
        srv.limits.cpuPercent.toInt % 2305843009213693952 ≤ 92233720368547 := by
  simp only [validateServer, bind_eq_ok_iff, require_eq_ok_iff] at valid
  obtain ⟨_, -, _, -, _, positive, -⟩ := valid
  rw [(recoveredServerSpec_ok ok).1, reported]
  exact buildResources_recoveredLimits_iff positive memory total

theorem sample_resources_survive_restart :
    ∃ recovered, recoveredServerSpec sampleNat ⟨"game:latest", ["java"], [], "", buildLabels sampleServer⟩
        ⟨.empty, buildResources sampleServer.limits sampleNode⟩ = .ok recovered ∧
      buildResources recovered.limits sampleNode = buildResources sampleServer.limits sampleNode := by
  have found : Succeeds (recoveredServerSpec sampleNat ⟨"game:latest", ["java"], [], "",
    buildLabels sampleServer⟩ ⟨.empty, buildResources sampleServer.limits sampleNode⟩) := by
    decide +kernel
  obtain ⟨recovered, ok⟩ := found
  exact ⟨recovered, ok, (resources_survive_restart_iff (by decide +kernel) (by decide) (by decide)
    rfl ok).mpr (.inr (by decide))⟩

/-- A hundred times the quota overflows, and the server has no limit after the restart. -/
theorem large_share_is_lost :
    (create { sampleServer with limits := { sampleLimits with cpuPercent := 92233720368548 } }
      sampleNode).toOption.bind (fun handle => (handle.recovered sampleNat).toOption.map fun recovered =>
        (handle.hostConfig.resources.cpuQuota,
          (buildResources recovered.limits sampleNode).cpuQuota)) = some (92233720368548000, 0) := by
  decide +kernel

end PxHost.Spec
