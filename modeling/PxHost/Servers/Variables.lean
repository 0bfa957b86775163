import PxHost.Lib.Binary64
import PxHost.Lib.Decimal
import PxHost.Lib.Text

/-!
The values a variable may take, and the image, the command and the heap that are chosen by them
(`variable-rules.ts`, `variable-resolution.ts`, `software-presets.ts`).
-/

namespace PxHost.Setup

/-- A number of the panel's runtime. -/
inductive Number where
  | nan
  | finite (value : Rat)
  | infinite (negative : Bool)
deriving DecidableEq

/-- Nothing is less or greater than what is not a number. -/
def Number.lt : Number → Number → Bool
  | nan, _ | _, nan => false
  | infinite negative, infinite negative' => negative && !negative'
  | infinite negative, finite _ => negative
  | finite _, infinite negative => !negative
  | finite x, finite y => x < y

def Number.le (x y : Number) : Bool := x.lt y || (x != nan && x == y)

def Number.isInteger : Number → Bool
  | finite value => value.isInt
  | _ => false

/-- How texts become numbers and numbers texts, which is the runtime's own affair. -/
structure Runtime where
  number : String → Number
  text : Number → String

section Rules

variable (runtime : Runtime)

/-- The rules of a variable, one by one. -/
def ruleTokens (rules : String) : List String :=
  ((Text.split '|' rules).map Text.trim).filter (· ≠ "")

/-- Digits behind an optional minus sign. -/
def isInteger (value : String) : Bool :=
  match value.toList with
  | '-' :: digits => (Decimal.parseNat digits).isSome
  | digits => (Decimal.parseNat digits).isSome

/-- An integer, or two rows of digits around a point. -/
def isDecimal (value : String) : Bool :=
  match Text.split '.' value with
  | [whole] => isInteger whole
  | [whole, fraction] => isInteger whole && (Decimal.parseNat fraction.toList).isSome
  | _ => false

/-- A bound is one on the number where the rules ask for an integer, and else on the length. -/
def boundError (tokens : List String) (value : String) (bound : Number)
    (beyond : Number → Number → Bool) (word : String) : Option String :=
  let shown := runtime.text bound
  if isDecimal value && tokens.contains "integer" then
    if beyond (runtime.number value) bound then some s!"deve ser no {word} {shown}." else none
  else if beyond (.finite (Text.length value)) bound then
    some s!"deve ter no {word} {shown} caracteres."
  else none

/-- What one rule finds wrong with a value; a rule that is not known finds nothing. -/
def ruleError (tokens : List String) (value token : String) : Option String :=
  let parts := Text.split ':' token
  -- Without an argument a bound is not a number, and nothing is beyond it.
  let bound := (parts[1]?.map runtime.number).getD .nan
  match parts.head? with
  | some "integer" => if isInteger value then none else some "deve ser um número inteiro."
  | some "boolean" =>
    if ["true", "false", "0", "1"].contains value then none
    else some "deve ser verdadeiro ou falso."
  | some "max" => boundError runtime tokens value bound (fun n max => max.lt n) "máximo"
  | some "min" => boundError runtime tokens value bound (fun n min => n.lt min) "mínimo"
  | some "in" =>
    let allowed := Text.split ',' (parts[1]?.getD "")
    let listed := ", ".intercalate allowed
    if allowed.contains value then none else some s!"deve ser um dos seguintes valores: {listed}."
  | _ => none

/-- The first thing that is wrong with a value, if anything is. -/
def validateVariableValue (value rules : String) : Option String :=
  let tokens := ruleTokens rules
  if value = "" then
    if tokens.contains "required" && !tokens.contains "nullable" then some "é obrigatório." else none
  else tokens.findSome? (ruleError runtime tokens value)

end Rules

section Heap

def MIN_HEAP_MB : Int := 512
def MIN_JVM_HEADROOM_MB : Int := 512
def JVM_HEADROOM_RATIO : Rat := Binary64.round (15 / 100)

/-- The heap leaves a part of the memory to the rest of the virtual machine. -/
def jvmHeapMb (memoryMb : Nat) : Int :=
  let headroom := max MIN_JVM_HEADROOM_MB (Binary64.mul memoryMb JVM_HEADROOM_RATIO).ceil
  max MIN_HEAP_MB (memoryMb - headroom)

-- The product is rounded before it is rounded up, and comes to 300 exactly.
example : jvmHeapMb 2000 = 1488 ∧ jvmHeapMb 6000 = 5100 := by decide +kernel

end Heap

section Presets

variable (runtime : Runtime)

/-- The version of Java that a version of the game was made for, where that is known. -/
def requiredJavaMajor (minecraftVersion : String) : Option Nat :=
  let parts := Text.split '.' (Text.trim minecraftVersion)
  let part := fun i => (parts[i]?.map runtime.number).getD .nan
  let minor := part 1
  if !(part 0).isInteger then none
  -- Versions that begin with the year are newer than all others.
  else if part 0 ≠ .finite 1 then if Number.le (.finite 26) (part 0) then some 25 else none
  else if !minor.isInteger then none
  else if minor.le (.finite 16) then some 8
  else if minor.le (.finite 19) then some 17
  else if minor = .finite 20 then
    let patch := runtime.number (parts[2]?.getD "0")
    if patch.isInteger && Number.le (.finite 5) patch then some 21 else some 17
  else some 21

/-- The version of Java in an image: the end of its reference, or the first number in its label. -/
def javaMajorOf (image : String × String) : Number :=
  let ref := image.2.toList
  let digits := (ref.reverse.takeWhile Char.isDigit).reverse
  let before := ref.take (ref.length - digits.length)
  if digits ≠ [] && ":java_".toList.isSuffixOf before then runtime.number (String.ofList digits)
  else
    match (image.1.toList.dropWhile (!·.isDigit)).takeWhile Char.isDigit with
    | [] => .finite (-1)
    | digits => runtime.number (String.ofList digits)

/-- The only image, or the one for the version; where that is not known, the newest. -/
def pickDockerImage : List (String × String) → Option String → Option String
  | [], _ => none
  | [only], _ => some only.2
  | first :: rest, minecraftVersion =>
    let newest := rest.foldl
      (fun a b => if (javaMajorOf runtime a).lt (javaMajorOf runtime b) then b else a) first
    match (minecraftVersion.filter (· ≠ "")).bind (requiredJavaMajor runtime) with
    | none => some newest.2
    | some major =>
      let wanted := (first :: rest).find? fun image => image.1 = s!"Java {major}" ||
        s!":java_{major}".toList.isSuffixOf image.2.toList
      some (wanted.getD newest).2

theorem pickDockerImage_isSome (images : List (String × String)) (version : Option String) :
    (pickDockerImage runtime images version).isSome ↔ images ≠ [] := by
  fun_cases pickDockerImage runtime images version <;> simp_all

/-- Put the jar in the place of the first argument file that stands as a word of its own. -/
def replaceArgfile : Bool → List Char → List Char
  | _, [] => []
  | fresh, c :: rest =>
    let after := (c :: rest).drop "@unix_args.txt".length
    if fresh && "@unix_args.txt".toList.isPrefixOf (c :: rest) && after.head?.all Text.isBlank then
      "-jar \x7b\x7bSERVER_JARFILE\x7d\x7d".toList ++ after
    else c :: replaceArgfile (Text.isBlank c) rest

/-- The number behind `1.` in a version, if it ends there or at another point. -/
def legacyMinor (version : String) : Option Nat :=
  match Text.split '.' version with
  | "1" :: minor :: _ => Decimal.parseNat minor.toList
  | _ => none

/-- The old versions of Forge have no argument file, but a jar to start. -/
def pickStartupCommand (softwareKind : Option String) (configuredCommand : String)
    (minecraftVersion : Option String) : String :=
  if softwareKind ≠ some "forge" then configuredCommand
  else
    match minecraftVersion.bind fun version => legacyMinor (Text.trim version) with
    | none => configuredCommand
    | some minor =>
      if 16 < minor then configuredCommand
      else String.ofList (replaceArgfile true configuredCommand.toList)

example : pickStartupCommand "forge" "java @unix_args.txt nogui" "1.12.2" =
    "java -jar \x7b\x7bSERVER_JARFILE\x7d\x7d nogui" := by
  decide +kernel

end Presets

end PxHost.Setup
