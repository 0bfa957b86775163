import PxHost.Lib.Table
import PxHost.Lib.Decimal
import PxHost.Lib.Fallible

/-! From the text of a startup template to the arguments a container is started with. -/

namespace PxHost.Spec

open Store Fallible

inductive SpecError where
  | danglingBackslash
  | unterminatedQuote
  | noArgvTokens
  | unterminatedPlaceholder (token : String)
  | undeclaredVariable (name : String)
  | shellArgv0 (argv0 : String)
  | nulByte (argument : Nat)
  | emptyImage
  | uidOutsideRange (uid lowest highest : Int64)
  | memoryNotPositive
  | diskNotPositive
  | portOutsideRange (port : Int64)
  | allocationMissingIp
  | noPrimaryAllocation
  | emptyDataDir
  | emptyUuid
  | dataMountIsControlSocket
deriving DecidableEq

/-- What counts as blank around a name or a version. -/
def isSpace (c : Char) : Bool :=
  let code := c.toNat
  (9 ≤ code && code ≤ 13) || (0x2000 ≤ code && code ≤ 0x200A)
    || [0x20, 0x85, 0xA0, 0x1680, 0x2028, 0x2029, 0x202F, 0x205F, 0x3000].contains code

def trimSpace (text : List Char) : List Char :=
  ((text.dropWhile isSpace).reverse.dropWhile isSpace).reverse

def forbiddenArgv0 : List String :=
  ["sh", "bash", "dash", "zsh", "ash", "env", "eval", "csh", "ksh", "busybox"]

/-- What the character before the next one has opened. -/
inductive Quote where
  | none
  | escape
  | single
  | double
  | doubleEscape
deriving DecidableEq

/-- Put the token in progress, if there is one, behind the finished ones. -/
def flush (tokens : List (List Char)) : Option (List Char) → List (List Char)
  | some token => tokens ++ [token]
  | none => tokens

def singleQuote : Char := Char.ofNat 39

def doubleQuote : Char := Char.ofNat 34

def backslash : Char := Char.ofNat 92

/--
Cut what is left of a template into words, behind the finished ones and the one in progress.
A backslash between double quotes escapes a quote or a backslash only, and stands for itself before
anything else.
-/
def tokenizeFrom (tokens : List (List Char)) (current : Option (List Char)) :
    Quote → List Char → Except SpecError (List (List Char))
  | .none, [] => .ok (flush tokens current)
  | .escape, [] => .error .danglingBackslash
  | _, [] => .error .unterminatedQuote
  | .single, c :: rest =>
    if c = singleQuote then tokenizeFrom tokens current .none rest
    else tokenizeFrom tokens (some (current.getD [] ++ [c])) .single rest
  | .double, c :: rest =>
    if c = doubleQuote then tokenizeFrom tokens current .none rest
    else if c = backslash then tokenizeFrom tokens current .doubleEscape rest
    else tokenizeFrom tokens (some (current.getD [] ++ [c])) .double rest
  | .doubleEscape, c :: rest =>
    if c = doubleQuote ∨ c = backslash then
      tokenizeFrom tokens (some (current.getD [] ++ [c])) .double rest
    else tokenizeFrom tokens (some (current.getD [] ++ [backslash, c])) .double rest
  | .escape, c :: rest => tokenizeFrom tokens (some (current.getD [] ++ [c])) .none rest
  | .none, c :: rest =>
    -- A quote begins a word, so that an empty pair of quotes is an empty argument.
    if c = singleQuote then tokenizeFrom tokens (some (current.getD [])) .single rest
    else if c = doubleQuote then tokenizeFrom tokens (some (current.getD [])) .double rest
    else if c = backslash then tokenizeFrom tokens current .escape rest
    else if c = ' ' ∨ c = '\t' ∨ c = '\n' ∨ c = '\r' then
      tokenizeFrom (flush tokens current) none .none rest
    else tokenizeFrom tokens (some (current.getD [] ++ [c])) .none rest

def tokenize (template : String) : Except SpecError (List (List Char)) :=
  tokenizeFrom [] none .none template.toList

/-- Replace the placeholders in what is left of a token; a placeholder collects its name first. -/
def substituteFrom (token : List Char) (vars : Table String String) :
    Option (List Char) → List Char → Except SpecError (List Char)
  | none, '{' :: '{' :: rest => substituteFrom token vars (some []) rest
  | none, c :: rest => do return c :: (← substituteFrom token vars none rest)
  | none, [] => .ok []
  | some name, '}' :: '}' :: rest =>
    match vars.get? (String.ofList (trimSpace name)) with
    | none => .error (.undeclaredVariable (String.ofList (trimSpace name)))
    | some value => do return value.toList ++ (← substituteFrom token vars none rest)
  | some name, c :: rest => substituteFrom token vars (some (name ++ [c])) rest
  | some _, [] => .error (.unterminatedPlaceholder (String.ofList token))

def substitute (vars : Table String String) (token : List Char) : Except SpecError (List Char) :=
  substituteFrom token vars none token

def isLegacyForgeVersion (version : String) : Bool :=
  match (trimSpace version.toList).splitOn '.' with
  | ['1'] :: minor :: _ => (Decimal.parse64 minor).any (· ≤ 16)
  | _ => false

/-- Java 8 reads no argument files, so the first one is replaced by the jar. -/
def rewriteLegacyForgeArgfile (argv : List (List Char)) (vars : Table String String) :
    List (List Char) :=
  if (vars.get? "FORGE_VERSION").isNone
      || !isLegacyForgeVersion ((vars.get? "MINECRAFT_VERSION").getD "") then argv
  else
    match (vars.get? "SERVER_JARFILE").getD "" with
    | "" => argv
    | jar =>
      -- Only the first of several argument files is replaced.
      let before := argv.takeWhile (· ≠ "@unix_args.txt".toList)
      match argv.drop before.length with
      | [] => argv
      | _ :: after => before ++ ["-jar".toList, jar.toList] ++ after

def buildArgv (startupTemplate : String) (vars : Table String String) :
    Except SpecError (List String) := do
  let tokens ← tokenize startupTemplate
  require (tokens ≠ []) .noArgvTokens
  -- A value stays inside its token: what it contains is never cut into words again.
  let substituted ← tokens.mapM (substitute vars)
  let argv := rewriteLegacyForgeArgfile substituted vars
  -- The first argument is looked at after the substitution, so no variable names a shell either.
  let argv0 := String.ofList (argv.headD [])
  require (argv0 ∉ forbiddenArgv0) (.shellArgv0 argv0)
  match argv.findIdx? fun argument => argument.contains (Char.ofNat 0) with
  | some i => throw (.nulByte i)
  | none => return argv.map String.ofList

end PxHost.Spec
