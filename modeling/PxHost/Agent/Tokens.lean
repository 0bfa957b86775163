import PxHost.Lib.Fallible

/-! The capability tokens of the panel, which an agent verifies on its own. -/

namespace PxHost.Tokens

open Fallible

/-- A point on the clock of an agent, in nanoseconds; a duration is a difference of two. -/
abbrev Moment := Int

/-- What a token authorises; its claim may hold any other text. -/
inductive Capability where
  | console | fileDownload | fileUpload | backupDownload | transferDownload
  | unknown (text : String)
deriving DecidableEq

/-- The one resource that a token for a transfer may reach. -/
structure TokenContext where
  path : String
  maxBytes : Int
deriving DecidableEq

structure Claims where
  id : String
  subject : String
  audience : List String
  expiresAt : Option Moment
  notBefore : Option Moment
  cap : Capability
  permissions : List String
  ctx : Option TokenContext
deriving DecidableEq

def Claims.hasPermission (claims : Claims) (key : String) : Bool := claims.permissions.contains key

/-- A public Ed25519 key, named after the pair it belongs to. -/
abbrev PublicKey := Nat

/--
A token as it is presented. Signatures cannot be forged, so that all that counts of one is the key
pair that signed exactly this header and these claims, if any did.
-/
structure Token where
  alg : String
  kid : Option String
  signedBy : Option PublicKey
  claims : Claims
deriving DecidableEq

/-- The identifier a key is looked up by; a header without one counts as the empty text. -/
def Token.keyId (token : Token) : String := token.kid.getD ""

abbrev KeySet := String → Option PublicKey

/-- Why a token is turned down, with what the message shows. -/
inductive Rejection where
  | method (alg : String)
  | noTrustedKey (kid : String)
  | signature
  | expired
  | notValidYet
  | audience
  | subject (own wanted : String)
  | capability (own wanted : Capability)
  | missingId
  | path (wanted : String)
  | noExpiry
  | alreadyUsed (id : String)
deriving DecidableEq

/-- What the agent asks of a token besides a valid signature. -/
structure ParserOptions where
  validMethods : List String
  audience : String
  leeway : Moment

/-- The key that a token is to be checked with, or why there is none. -/
abbrev KeyFunc := Token → Except Rejection PublicKey

/-- The library for tokens (`golang-jwt`), as far as an agent calls it. -/
structure TokenLibrary where
  parseWithClaims : ParserOptions → KeyFunc → Moment → Token → Except Rejection Claims

/-- The token stands up to the options and to its key; a missing expiry or start is no fault. -/
structure Valid (options : ParserOptions) (keyFunc : KeyFunc) (now : Moment) (token : Token) :
    Prop where
  method : token.alg ∈ options.validMethods
  signed : ∃ key, keyFunc token = .ok key ∧ token.signedBy = some key
  unexpired : ∀ exp, token.claims.expiresAt = some exp → now < exp + options.leeway
  started : ∀ nbf, token.claims.notBefore = some nbf → nbf - options.leeway ≤ now
  audience : options.audience ∈ token.claims.audience

/-- What an agent relies on: the library returns the claims of the valid tokens and of no others. -/
structure TokenLibrary.Lawful (library : TokenLibrary) : Prop where
  sound : ∀ {options keyFunc now token claims},
    library.parseWithClaims options keyFunc now token = .ok claims →
      Valid options keyFunc now token ∧ claims = token.claims
  complete : ∀ {options keyFunc now token}, Valid options keyFunc now token →
    library.parseWithClaims options keyFunc now token = .ok token.claims

structure TokenVerifier where
  library : TokenLibrary
  keys : KeySet
  fallback : Option PublicKey
  nodeAud : String
  clockSkew : Moment

namespace TokenVerifier

def new (library : TokenLibrary) (fallbackPublicKey : Option PublicKey) (nodeUuid : String)
    (clockSkew : Moment) : TokenVerifier where
  library
  keys _ := none
  fallback := fallbackPublicKey
  nodeAud := "node:" ++ nodeUuid
  clockSkew

/-- The whole set is replaced; nothing of the one before is kept. -/
def setKeys (v : TokenVerifier) (keys : KeySet) : TokenVerifier := { v with keys }

/-- The key of a token: the one its identifier names, or else the configured one. -/
def keyFor (v : TokenVerifier) (kid : String) : Option PublicKey :=
  match v.keys kid with
  | some key => some key
  | none => v.fallback

def keyFunc (v : TokenVerifier) : KeyFunc := fun token =>
  match v.keyFor token.keyId with
  | some key => .ok key
  | none => .error (.noTrustedKey token.keyId)

def options (v : TokenVerifier) : ParserOptions where
  validMethods := ["EdDSA"]
  audience := v.nodeAud
  leeway := v.clockSkew

def verify (v : TokenVerifier) (now : Moment) (token : Token) (wantServerUuid : String)
    (wantCap : Capability) : Except Rejection Claims := do
  let claims ← v.library.parseWithClaims v.options v.keyFunc now token
  require (claims.subject = wantServerUuid) (.subject claims.subject wantServerUuid)
  require (claims.cap = wantCap) (.capability claims.cap wantCap)
  require (claims.id ≠ "") .missingId
  return claims

end TokenVerifier

section Laws

variable {v : TokenVerifier} {now : Moment} {token : Token} {server : String} {cap : Capability}
  {claims : Claims}

theorem keyFunc_ok_iff {key : PublicKey} :
    v.keyFunc token = .ok key ↔ v.keyFor token.keyId = some key := by
  unfold TokenVerifier.keyFunc
  cases v.keyFor token.keyId <;> simp

/-- The agent accepts the valid tokens that name the server and the capability and carry an id. -/
theorem verify_ok_iff (lawful : v.library.Lawful) :
    v.verify now token server cap = .ok claims ↔
      Valid v.options v.keyFunc now token ∧ token.claims.subject = server ∧
        token.claims.cap = cap ∧ token.claims.id ≠ "" ∧ claims = token.claims := by
  simp only [TokenVerifier.verify, bind_eq_ok_iff, require_eq_ok_iff]
  constructor
  · rintro ⟨read, parsed, _, subject, _, capability, _, identified, same⟩
    cases same
    obtain ⟨valid, rfl⟩ := lawful.sound parsed
    exact ⟨valid, subject, capability, identified, rfl⟩
  · rintro ⟨valid, subject, capability, identified, rfl⟩
    exact ⟨token.claims, lawful.complete valid, (), subject, (), capability, (), identified, rfl⟩

@[simp] theorem setKeys_fallback (v : TokenVerifier) (keys : KeySet) :
    (v.setKeys keys).fallback = v.fallback := rfl

theorem fallback_refreshed (v : TokenVerifier) (history : List KeySet) :
    (history.foldl TokenVerifier.setKeys v).fallback = v.fallback := by
  -- Each fetch replaces the set and nothing else.
  induction history generalizing v with
  | nil => rfl
  | cons keys rest ih => exact ih (v.setKeys keys)

theorem library_refreshed (v : TokenVerifier) (history : List KeySet) :
    (history.foldl TokenVerifier.setKeys v).library = v.library := by
  induction history generalizing v with
  | nil => rfl
  | cons keys rest ih => exact ih (v.setKeys keys)

theorem keyFor_refreshed (v : TokenVerifier) (history : List KeySet) (keys : KeySet) (kid : String) :
    ((history ++ [keys]).foldl TokenVerifier.setKeys v).keyFor kid =
      (keys kid).or v.fallback := by
  rw [List.foldl_append]
  simp only [List.foldl_cons, List.foldl_nil, TokenVerifier.keyFor, setKeys_fallback,
    fallback_refreshed]
  show (match keys kid with | some key => some key | none => v.fallback) = _
  cases keys kid <;> rfl

end Laws

/-- A token that nobody finds anything wrong with but for its key. -/
def plainToken (v : TokenVerifier) (kid : String) (signedBy : PublicKey) (server : String)
    (cap : Capability) : Token where
  alg := "EdDSA"
  kid := some kid
  signedBy := some signedBy
  claims := {
    id := "t-1", subject := server, audience := [v.nodeAud], expiresAt := none, notBefore := none
    cap, permissions := [], ctx := none }

theorem valid_plainToken {v : TokenVerifier} {kid server : String} {key : PublicKey}
    {cap : Capability} {now : Moment}
    (trusted : v.keyFunc (plainToken v kid key server cap) = .ok key) :
    Valid v.options v.keyFunc now (plainToken v kid key server cap) where
  method := by simp [TokenVerifier.options, plainToken]
  signed := ⟨key, trusted, rfl⟩
  unexpired := nofun
  started := nofun
  audience := by simp [TokenVerifier.options, plainToken]

/--
After any number of refreshes, the tokens with an identifier are accepted only if they were signed
with the key that the last refresh lists for it, exactly if that one lists the identifier or no key
is configured statically.
-/
theorem accepted_under_listed_key_iff (v : TokenVerifier) (lawful : v.library.Lawful)
    (history : List KeySet) (keys : KeySet) (kid : String) :
    (∀ now token server cap claims, token.keyId = kid →
      ((history ++ [keys]).foldl TokenVerifier.setKeys v).verify now token server cap = .ok claims →
        ∃ key, keys kid = some key ∧ token.signedBy = some key) ↔
      (keys kid).isSome ∨ v.fallback = none := by
  have found := keyFor_refreshed v history keys kid
  have lawful' := lawful
  rw [← library_refreshed v (history ++ [keys])] at lawful'
  generalize (history ++ [keys]).foldl TokenVerifier.setKeys v = refreshed at found lawful' ⊢
  constructor
  · intro only
    by_contra wrong
    obtain ⟨unlisted, configured⟩ := not_or.mp wrong
    obtain ⟨static, configured⟩ := Option.ne_none_iff_exists'.mp configured
    rw [Option.not_isSome_iff_eq_none] at unlisted
    rw [unlisted, configured, Option.none_or] at found
    -- Any token of the configured key passes under the identifier that is not listed.
    obtain ⟨key, listed, -⟩ := only 0 (plainToken refreshed kid static "" .console) "" .console _ rfl
      ((verify_ok_iff lawful').mpr
        ⟨valid_plainToken (keyFunc_ok_iff.mpr found), rfl, rfl, by simp [plainToken], rfl⟩)
    rw [unlisted] at listed
    cases listed
  · intro condition now token server cap claims named accepted
    obtain ⟨key, used, signed⟩ := ((verify_ok_iff lawful').mp accepted).1.signed
    rw [keyFunc_ok_iff, named, found] at used
    cases listed : keys kid with
    | some listedKey =>
      -- The list comes first, so that the configured key is not even looked at.
      rw [listed, Option.some_or] at used
      exact ⟨key, used, signed⟩
    | none =>
      -- Only a configured key could have made up for the missing entry.
      rcases condition with present | unconfigured
      · simp [listed] at present
      · simp [listed, unconfigured] at used

/-- A library that makes the checks one after the other, and names the first that fails. -/
def sampleLibrary : TokenLibrary where
  parseWithClaims options keyFunc now token := do
    require (token.alg ∈ options.validMethods) (.method token.alg)
    let key ← keyFunc token
    require (token.signedBy = some key) .signature
    require (token.claims.expiresAt.all (now < · + options.leeway)) .expired
    require (token.claims.notBefore.all (· - options.leeway ≤ now)) .notValidYet
    require (options.audience ∈ token.claims.audience) .audience
    return token.claims

theorem sampleLibrary_lawful : sampleLibrary.Lawful := by
  have checks {options keyFunc now token claims} :
      sampleLibrary.parseWithClaims options keyFunc now token = .ok claims ↔
        Valid options keyFunc now token ∧ claims = token.claims := by
    simp only [sampleLibrary, bind_eq_ok_iff, require_eq_ok_iff, Option.all_eq_true,
      decide_eq_true_eq]
    constructor
    · rintro ⟨_, method, key, found, _, signed, _, unexpired, _, started, _, audience, same⟩
      cases same
      exact ⟨⟨method, ⟨key, found, signed⟩, unexpired, started, audience⟩, rfl⟩
    · rintro ⟨⟨method, ⟨key, found, signed⟩, unexpired, started, audience⟩, rfl⟩
      exact ⟨(), method, key, found, (), signed, (), unexpired, (), started, (), audience, rfl⟩
  exact ⟨checks.mp, fun valid => checks.mpr ⟨valid, rfl⟩⟩

def sampleToken (kid : Option String) (signedBy : PublicKey) : Token where
  alg := "EdDSA"
  kid
  signedBy := some signedBy
  claims := {
    id := "t-1", subject := "srv-1", audience := ["node:n-1"], expiresAt := some 60000000000
    notBefore := some 0, cap := .console, permissions := ["websocket.connect"], ctx := none }

/-- The keys that the panel lists while the second one is in use and the first one retiring. -/
def sampleBoth : KeySet
  | "k-1" => some 1
  | "k-2" => some 2
  | _ => none

def sampleNew : KeySet
  | "k-2" => some 2
  | _ => none

/-- An agent that was set up with the first key of the panel and has refreshed its keys twice. -/
def sampleRefreshed : TokenVerifier :=
  [sampleBoth, sampleNew].foldl TokenVerifier.setKeys (.new sampleLibrary (some 1) "n-1" 10000000000)

theorem sample_accepted_under_listed_key :
    sampleRefreshed.verify 1000000000 (sampleToken (some "k-2") 2) "srv-1" .console =
        .ok (sampleToken (some "k-2") 2).claims ∧
      ∃ key, sampleNew "k-2" = some key ∧ (sampleToken (some "k-2") 2).signedBy = some key :=
  ⟨rfl, (accepted_under_listed_key_iff (.new sampleLibrary (some 1) "n-1" 10000000000)
    sampleLibrary_lawful [sampleBoth] sampleNew "k-2").mpr (.inl (by decide)) 1000000000
    (sampleToken (some "k-2") 2) "srv-1" .console _ rfl rfl⟩

/-- The statically configured key goes on verifying after it was retired, under any unlisted name. -/
theorem retired_key_still_verifies :
    sampleNew "k-1" = none ∧
    sampleRefreshed.verify 1000000000 (sampleToken (some "k-1") 1) "srv-1" .console =
      .ok (sampleToken (some "k-1") 1).claims ∧
    sampleRefreshed.verify 1000000000 (sampleToken none 1) "srv-1" .console =
      .ok (sampleToken none 1).claims :=
  ⟨rfl, rfl, rfl⟩

end PxHost.Tokens
