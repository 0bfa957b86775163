import PxHost.Agent.Argv

/-! What the values of the variables can change about a command. -/

namespace PxHost.Spec

open Store Fallible

/-- A word of a template is made of characters that stand for themselves and of placeholders. -/
inductive Part where
  | char (c : Char)
  | placeholder (name : String)

/-- The parts of what is left of a word; a placeholder that is never closed is none. -/
def partsFrom : Option (List Char) → List Char → List Part
  | none, '{' :: '{' :: rest => partsFrom (some []) rest
  | none, c :: rest => .char c :: partsFrom none rest
  | none, [] => []
  | some name, '}' :: '}' :: rest =>
    .placeholder (String.ofList (trimSpace name)) :: partsFrom none rest
  | some name, c :: rest => partsFrom (some (name ++ [c])) rest
  | some _, [] => []

def Part.name? : Part → Option String
  | .char _ => none
  | .placeholder name => some name

def Part.fill (vars : Table String String) : Part → List Char
  | .char c => [c]
  | .placeholder name => ((vars.get? name).getD "").toList

/-- What a word of a template says once its placeholders have these values. -/
def filled (vars : Table String String) (token : List Char) : List Char :=
  (partsFrom none token).flatMap (Part.fill vars)

/-- What an argument of the command is made from. -/
inductive Piece where
  | token (text : List Char)
  | jarFlag
  | jarFile

/-- The variables that an argument may depend on. -/
def Piece.names : Piece → List String
  | .token text => (partsFrom none text).filterMap Part.name?
  | .jarFlag => []
  | .jarFile => ["SERVER_JARFILE"]

def Piece.value (vars : Table String String) : Piece → String
  | .token text => String.ofList (filled vars text)
  | .jarFlag => "-jar"
  | .jarFile => (vars.get? "SERVER_JARFILE").getD ""

/-- The words of a template, with the jar in the place of one if there is such a word. -/
def pieces (tokens : List (List Char)) (place : Nat) : List Piece :=
  if place < tokens.length then
    (tokens.take place).map .token ++ .jarFlag :: .jarFile :: (tokens.drop (place + 1)).map .token
  else tokens.map .token

/-- The arguments are the pieces with the values filled in. -/
def Spells (vars : Table String String) (shape : List Piece) (argv : List String) : Prop :=
  argv = shape.map (Piece.value vars)

def argumentFile : String := "@unix_args.txt"

/-- The server runs a version of Forge whose Java reads no argument files, and has a jar. -/
def usesJar (vars : Table String String) : Bool :=
  (vars.get? "FORGE_VERSION").isSome
    && isLegacyForgeVersion ((vars.get? "MINECRAFT_VERSION").getD "")
    && (vars.get? "SERVER_JARFILE").getD "" ≠ ""

/-- The first word that these values make the argument file, or else the number of words. -/
def filePlace (vars : Table String String) (tokens : List (List Char)) : Nat :=
  (tokens.takeWhile fun token => filled vars token ≠ argumentFile.toList).length

/-- Where the jar is put, which is behind the last word if it is not needed. -/
def jarPlace (vars : Table String String) (tokens : List (List Char)) : Nat :=
  if usesJar vars then filePlace vars tokens else tokens.length

variable {vars vars' : Table String String} {tokens elements : List (List Char)}
  {template : String} {argv argv' : List String}

section Substitution

/-- Where it succeeds, the substitution fills in the parts one after the other. -/
theorem substituteFrom_ok {token text result : List Char} {name : Option (List Char)}
    (substituted : substituteFrom token vars name text = .ok result) :
    result = (partsFrom name text).flatMap (Part.fill vars) := by
  fun_induction substituteFrom token vars name text generalizing result with
  | case1 rest ih => rw [partsFrom, ih substituted]
  | case2 c rest plain ih =>
    obtain ⟨tail, later, same⟩ := bind_eq_ok_iff.mp substituted
    cases same
    rw [ih later, partsFrom]
    · rfl
    · exact plain
  | case3 =>
    cases substituted
    rfl
  | case4 => cases substituted
  | case5 name rest value found ih =>
    obtain ⟨tail, later, same⟩ := bind_eq_ok_iff.mp substituted
    cases same
    simp [ih later, partsFrom, Part.fill, found]
  | case6 name c rest unclosed ih =>
    rw [partsFrom, ih substituted]
    exact unclosed
  | case7 => cases substituted

theorem mapM_substitute_ok (substituted : tokens.mapM (substitute vars) = .ok elements) :
    elements = tokens.map (filled vars) := by
  induction tokens generalizing elements with
  | nil =>
    cases substituted
    rfl
  | cons token tokens ih =>
    simp only [List.mapM_cons, bind_eq_ok_iff] at substituted
    obtain ⟨first, here, rest, later, same⟩ := substituted
    cases same
    rw [List.map_cons, ← ih later]
    exact congrArg (· :: rest) (substituteFrom_ok here)

/-- A piece has one value under variables that agree on the names in it. -/
theorem Piece.value_congr {piece : Piece}
    (agree : ∀ named ∈ piece.names, vars.get? named = vars'.get? named) :
    piece.value vars = piece.value vars' := by
  cases piece with
  | token text =>
    have parts : (partsFrom none text).map (Part.fill vars) =
        (partsFrom none text).map (Part.fill vars') := by
      refine List.map_congr_left fun part listed => ?_
      cases part with
      | char c => rfl
      | placeholder name =>
        rw [Part.fill, Part.fill, agree name (List.mem_filterMap.mpr ⟨_, listed, rfl⟩)]
    simp only [Piece.value, filled, List.flatMap, parts]
  | jarFlag => rfl
  | jarFile => simp [Piece.value, agree "SERVER_JARFILE" (by simp [Piece.names])]

end Substitution

section Places

theorem length_pieces (tokens : List (List Char)) (place : Nat) :
    (pieces tokens place).length =
      if place < tokens.length then tokens.length + 1 else tokens.length := by
  unfold pieces
  split
  · simp only [List.length_append, List.length_map, List.length_take, List.length_cons,
      List.length_drop]
    omega
  · simp

section Positions

variable {place position : Nat} (within : place < tokens.length)
include within

theorem getElem?_pieces :
    (pieces tokens place)[position]? =
      if position < place then tokens[position]?.map .token
      else (Piece.jarFlag :: .jarFile :: (tokens.drop (place + 1)).map .token)[position - place]? := by
  have before : ((tokens.take place).map Piece.token).length = place := by
    simp only [List.length_map, List.length_take]
    omega
  rw [pieces, if_pos within, List.getElem?_append, before]
  split
  · next early => simp [early]
  · rfl

theorem getElem?_pieces_of_lt (early : position < place) :
    (pieces tokens place)[position]? = tokens[position]?.map .token := by
  rw [getElem?_pieces within, if_pos early]

theorem getElem?_pieces_flag : (pieces tokens place)[place]? = some .jarFlag := by
  simp [getElem?_pieces within]

theorem getElem?_pieces_file : (pieces tokens place)[place + 1]? = some .jarFile := by
  simp [getElem?_pieces within]

/-- The jar takes two positions, so that the words behind it move up by one. -/
theorem getElem?_pieces_of_gt (late : place < position) :
    (pieces tokens place)[position + 1]? = tokens[position]?.map .token := by
  obtain ⟨offset, rfl⟩ := Nat.exists_eq_add_of_lt late
  have place' : place + offset + 1 + 1 - place = offset + 2 := by omega
  have word : place + 1 + offset = place + offset + 1 := by omega
  rw [getElem?_pieces within, if_neg (by omega), place']
  simp [word]

end Positions

theorem filePlace_le (vars : Table String String) (tokens : List (List Char)) :
    filePlace vars tokens ≤ tokens.length :=
  (List.takeWhile_sublist _).length_le

/-- No word before the place is the argument file, and the word in the place is. -/
theorem filled_filePlace {position : Nat} {token : List Char}
    (found : tokens[position]? = some token) (upTo : position ≤ filePlace vars tokens) :
    filled vars token = argumentFile.toList ↔ position = filePlace vars tokens := by
  induction tokens generalizing position with
  | nil => simp at found
  | cons first tokens ih =>
    by_cases file : filled vars first = argumentFile.toList
    · have here : filePlace vars (first :: tokens) = 0 := by simp [filePlace, file]
      obtain rfl : position = 0 := by omega
      cases found
      simp [file, here]
    · have later : filePlace vars (first :: tokens) = filePlace vars tokens + 1 := by
        simp [filePlace, file]
      cases position with
      | zero =>
        cases found
        simp [file, later]
      | succ position =>
        rw [later] at upTo ⊢
        rw [ih found (by omega), Nat.add_right_cancel_iff]

/-- The words after the jar show where it stands: no other place spells the same arguments. -/
theorem spells_place {place : Nat}
    (spells : Spells vars (pieces tokens (filePlace vars tokens)) argv)
    (spells' : Spells vars (pieces tokens place) argv) :
    min place tokens.length = filePlace vars tokens := by
  have bound := filePlace_le vars tokens
  have sizes := congrArg List.length (spells.symm.trans spells')
  simp only [List.length_map, length_pieces] at sizes
  by_cases within : place < tokens.length
  swap
  · -- Without a jar there is one argument less.
    rw [if_neg within] at sizes
    split at sizes <;> omega
  rw [if_pos within] at sizes
  have within' : filePlace vars tokens < tokens.length := by
    by_contra beyond
    rw [if_neg beyond] at sizes
    omega
  rw [Nat.min_eq_left within.le]
  have each (position : Nat) : (pieces tokens (filePlace vars tokens))[position]?.map (Piece.value vars)
      = (pieces tokens place)[position]?.map (Piece.value vars) := by
    rw [← List.getElem?_map, ← List.getElem?_map, ← spells, ← spells']
  have word := List.getElem?_eq_getElem within'
  have file : Piece.value vars (.token tokens[filePlace vars tokens]) = argumentFile := by
    rw [Piece.value, (filled_filePlace word le_rfl).mpr rfl, String.ofList_toList]
  have flag : Piece.value vars .jarFlag ≠ argumentFile := show "-jar" ≠ argumentFile by decide
  rcases Nat.lt_trichotomy place (filePlace vars tokens) with earlier | same | later
  · -- The argument file has moved up behind the earlier jar, so the jar is called like it.
    have jar := each (filePlace vars tokens + 1)
    rw [getElem?_pieces_file within', getElem?_pieces_of_gt within earlier, word] at jar
    replace jar : Piece.value vars .jarFile = argumentFile := (Option.some.inj jar).trans file
    have next := each (place + 1)
    rw [getElem?_pieces_file within, Option.map_some, jar] at next
    rcases Nat.lt_or_eq_of_le (Nat.succ_le_of_lt earlier) with before | adjacent
    · have reached := List.getElem?_eq_getElem (Nat.lt_trans before within')
      rw [getElem?_pieces_of_lt within' before, reached] at next
      have wrong := (filled_filePlace reached before.le).mp
        (by rw [← Option.some.inj next, Piece.value, String.toList_ofList])
      exact absurd wrong before.ne
    · rw [← Nat.succ_eq_add_one, adjacent, getElem?_pieces_flag within'] at next
      exact absurd (Option.some.inj next) flag
  · exact same
  · -- The argument file is still there in front of the later jar.
    have here := each (filePlace vars tokens)
    rw [getElem?_pieces_flag within', getElem?_pieces_of_lt within later, word] at here
    exact absurd ((Option.some.inj here).trans file) flag

end Places

section Building

theorem usesJar_false_iff : usesJar vars = false ↔ ((vars.get? "FORGE_VERSION").isNone
      || !isLegacyForgeVersion ((vars.get? "MINECRAFT_VERSION").getD "")) ∨
    (vars.get? "SERVER_JARFILE").getD "" = "" := by
  simp only [usesJar, Bool.and_eq_false_iff, decide_eq_false_iff_not, not_not, Bool.or_eq_true,
    Bool.not_eq_true', Option.isSome_eq_false_iff]

/-- The rewritten command is the one of the pieces, with the variables filled in. -/
theorem rewriteLegacyForgeArgfile_filled :
    (rewriteLegacyForgeArgfile (tokens.map (filled vars)) vars).map String.ofList =
      (pieces tokens (jarPlace vars tokens)).map (Piece.value vars) := by
  have plain : (tokens.map (filled vars)).map String.ofList =
      (tokens.map Piece.token).map (Piece.value vars) := by
    simp [Piece.value, Function.comp_def]
  have nowhere : pieces tokens tokens.length = tokens.map .token := if_neg (Nat.lt_irrefl _)
  unfold rewriteLegacyForgeArgfile jarPlace
  cases uses : usesJar vars with
  | false =>
    rw [if_neg Bool.false_ne_true, nowhere, ← plain]
    split
    · rfl
    · next legacy =>
      have missing := (usesJar_false_iff.mp uses).resolve_left legacy
      simp only [missing]
  | true =>
    obtain ⟨legacy, named⟩ := not_or.mp (mt usesJar_false_iff.mpr (Bool.not_eq_false _ |>.mpr uses))
    have before : (tokens.map (filled vars)).takeWhile (· ≠ "@unix_args.txt".toList) =
        (tokens.take (filePlace vars tokens)).map (filled vars) := by
      rw [List.takeWhile_map, filePlace, ← List.prefix_iff_eq_take.mp (List.takeWhile_prefix _)]
      rfl
    have size : (tokens.take (filePlace vars tokens)).length = filePlace vars tokens := by
      simpa using filePlace_le vars tokens
    rw [if_neg legacy, if_pos rfl]
    dsimp only
    rw [before, List.length_map, size, ← List.map_drop]
    split
    · next missing => exact absurd missing named
    · unfold pieces
      rcases Nat.lt_or_ge (filePlace vars tokens) tokens.length with within | beyond
      · rw [List.drop_eq_getElem_cons within, List.map_cons, if_pos within]
        dsimp only
        simp [Piece.value, Function.comp_def]
      · rw [List.drop_eq_nil_of_le beyond, if_neg (Nat.not_lt.mpr beyond)]
        exact plain

/-- What is known of a command that was built. -/
structure Built (template : String) (vars : Table String String) (argv : List String) : Prop where
  spelled : ∃ tokens, tokenize template = .ok tokens ∧
    Spells vars (pieces tokens (jarPlace vars tokens)) argv
  nonempty : argv ≠ []
  program : argv.headD "" ∉ forbiddenArgv0
  clean : ∀ argument ∈ argv, Char.ofNat 0 ∉ argument.toList

theorem pieces_ne_nil (some : tokens ≠ []) (place : Nat) : pieces tokens place ≠ [] := by
  unfold pieces
  split
  · simp
  · simpa using some

theorem buildArgv_ok (built : buildArgv template vars = .ok argv) : Built template vars argv := by
  simp only [buildArgv, bind_eq_ok_iff, require_eq_ok_iff] at built
  obtain ⟨tokens, cut, _, some, elements, substituted, _, allowed, rest⟩ := built
  obtain rfl := mapM_substitute_ok substituted
  have spells := @rewriteLegacyForgeArgfile_filled vars tokens
  split at rest
  · cases rest
  · next clean =>
    cases rest
    have nonempty : (rewriteLegacyForgeArgfile (tokens.map (filled vars)) vars).map String.ofList ≠
        [] := by
      rw [spells]
      simpa using pieces_ne_nil some _
    refine ⟨⟨tokens, cut, spells⟩, nonempty, ?_, ?_⟩
    · generalize rewriteLegacyForgeArgfile (tokens.map (filled vars)) vars = argv at allowed nonempty
      cases argv with
      | nil => exact absurd rfl nonempty
      | cons first argv => exact allowed
    · simpa [List.findIdx?_eq_none_iff] using clean

end Building

/--
Two commands that are built from one template, with variables that agree as far as the choice of the
jar goes, have one shape exactly if the jar is not used, or the first word that the values make the
argument file is the same for both.
-/
theorem command_keeps_shape_iff
    (keys : ∀ name, (vars.get? name).isSome = (vars'.get? name).isSome)
    (version : vars.get? "MINECRAFT_VERSION" = vars'.get? "MINECRAFT_VERSION")
    (jar : (vars.get? "SERVER_JARFILE").getD "" = "" ↔ (vars'.get? "SERVER_JARFILE").getD "" = "")
    (built : buildArgv template vars = .ok argv) (built' : buildArgv template vars' = .ok argv')
    (cut : tokenize template = .ok tokens) :
    (argv.length = argv'.length ∧
      ∃ place, Spells vars (pieces tokens place) argv ∧ Spells vars' (pieces tokens place) argv' ∧
        ∀ (position : Nat) (piece : Piece), (pieces tokens place)[position]? = some piece →
          (∀ named ∈ piece.names, vars.get? named = vars'.get? named) →
          argv[position]? = argv'[position]?) ↔
      (usesJar vars → filePlace vars tokens = filePlace vars' tokens) := by
  obtain ⟨_, cut₁, spells⟩ := (buildArgv_ok built).spelled
  obtain ⟨_, cut₂, spells'⟩ := (buildArgv_ok built').spelled
  cases cut.symm.trans cut₁
  cases cut.symm.trans cut₂
  have uses : usesJar vars' = usesJar vars := by simp only [usesJar, keys, version, ne_eq, jar]
  constructor
  · rintro ⟨-, place, at_, at', -⟩ needed
    rw [jarPlace, if_pos needed] at spells
    rw [jarPlace, if_pos (uses.trans needed)] at spells'
    exact (spells_place spells at_).symm.trans (spells_place spells' at')
  · intro condition
    have places : jarPlace vars' tokens = jarPlace vars tokens := by
      rw [jarPlace, jarPlace, uses]
      split
      · next needed => exact (condition needed).symm
      · rfl
    rw [places] at spells'
    refine ⟨?_, _, spells, spells', fun position piece there agree => ?_⟩
    · rw [spells, spells', List.length_map, List.length_map]
    · rw [spells, spells', List.getElem?_map, List.getElem?_map, there]
      exact congrArg some (Piece.value_congr agree)

def sampleTemplate : String := "java \x7b\x7bARGS\x7d\x7d"

def sampleTokens : List (List Char) := ["java".toList, "\x7b\x7bARGS\x7d\x7d".toList]

/-- The variables of a server with an old version of Forge. -/
def forgeVars (value : String) : Table String String :=
  (⟨[("FORGE_VERSION", "14"), ("MINECRAFT_VERSION", "1.12.2"), ("SERVER_JARFILE", "server.jar"),
    ("ARGS", "")], by simp⟩ : Table String String).modify "ARGS" fun _ => value

theorem forgeVars_isSome (value value' name : String) :
    ((forgeVars value).get? name).isSome = ((forgeVars value').get? name).isSome := by
  simp only [forgeVars, Table.get?_modify]
  split <;> simp

theorem sample_command_keeps_shape :
    ∃ place, Spells (forgeVars "a b") (pieces sampleTokens place) ["java", "a b"] ∧
      Spells (forgeVars "x") (pieces sampleTokens place) ["java", "x"] := by
  have built : buildArgv sampleTemplate (forgeVars "a b") = .ok ["java", "a b"] := by
    decide +kernel
  have built' : buildArgv sampleTemplate (forgeVars "x") = .ok ["java", "x"] := by decide +kernel
  have cut : tokenize sampleTemplate = .ok sampleTokens := by decide +kernel
  obtain ⟨_, place, spells, spells', _⟩ := (command_keeps_shape_iff (forgeVars_isSome "a b" "x")
    (by decide +kernel) (by decide +kernel) built built' cut).mpr (by decide +kernel)
  exact ⟨place, spells, spells'⟩

/-- A value that is the argument file is replaced by the jar, and so makes two arguments. -/
theorem argument_file_in_a_value :
    (∀ name, ((forgeVars "x").get? name).isSome =
        ((forgeVars "@unix_args.txt").get? name).isSome) ∧
      (∀ name ≠ "ARGS", (forgeVars "x").get? name = (forgeVars "@unix_args.txt").get? name) ∧
      buildArgv sampleTemplate (forgeVars "x") = .ok ["java", "x"] ∧
      buildArgv sampleTemplate (forgeVars "@unix_args.txt") =
        .ok ["java", "-jar", "server.jar"] := by
  refine ⟨forgeVars_isSome _ _, ?_, by decide +kernel, by decide +kernel⟩
  intro name other
  simp [forgeVars, other]

end PxHost.Spec
