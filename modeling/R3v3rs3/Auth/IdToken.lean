/-
# R3v3rs3.Auth.IdToken -- what an ID token has to show

After a code exchange the identity provider's ID token names the user.  The token is a JWT: its
signature is checked with the client secret or a key of the provider, then its claims are.

* `signedPayload` is everything up to the payload of a token with a good signature;
* `validateJwtClaims` looks at `exp`, `iss` and `aud` and takes the user.

A token without `exp`, or with one that is no integer of 64 bits, passes the first of these checks.
`id_token_sound_iff` says what follows: exactly when the user of a token may be trusted.
-/
import Mathlib.Tactic.Linarith
import R3v3rs3.Auth.ProxySessions

namespace R3v3rs3.Auth.IdToken
open Api
open Proxy.Http (bytes)
open Auth.ProxySessions (OidcAuth)
set_option autoImplicit false

/-! ## JSON -/

/-- `serde_json::Number`; a float is finite. -/
inductive Number where
  | posInt (n : UInt64)
  | negInt (n : Int64)
  | float (value : ℚ)

inductive Json where
  | null
  | bool (value : Bool)
  | number (n : Number)
  | string (text : String)
  | array (items : List Json)
  | object (fields : List (String × Json))

def Number.asI64 : Number → Option Int
  | .posInt n => if n.toNat < 2 ^ 63 then some n.toNat else none
  | .negInt n => some n.toInt
  | .float _ => none

def Number.value : Number → ℚ
  | .posInt n => n.toNat
  | .negInt n => n.toInt
  | .float value => value

namespace Json

def get (json : Json) (name : String) : Option Json :=
  match json with
  | .object fields => fields.lookup name
  | _ => none

def asStr : Json → Option String
  | .string text => some text
  | _ => none

def asI64 : Json → Option Int
  | .number n => n.asI64
  | _ => none

def asArray : Json → Option (List Json)
  | .array items => some items
  | _ => none

end Json

/-! ## Base64 -/

inductive Alphabet where
  | standard
  | urlSafe
  deriving DecidableEq

def sextet (alphabet : Alphabet) (c : Char) : Option Nat :=
  if 65 ≤ c.toNat ∧ c.toNat ≤ 90 then some (c.toNat - 65)
  else if 97 ≤ c.toNat ∧ c.toNat ≤ 122 then some (c.toNat - 97 + 26)
  else if 48 ≤ c.toNat ∧ c.toNat ≤ 57 then some (c.toNat - 48 + 52)
  else if c = (if alphabet = .urlSafe then '-' else '+') then some 62
  else if c = (if alphabet = .urlSafe then '_' else '/') then some 63
  else none

/-- The byte of two characters; the bits that are left over are zero. -/
def lastByte (x y : Nat) : Option (List UInt8) :=
  if y % 16 = 0 then some [UInt8.ofNat (x * 4 + y / 16)] else none

def lastBytes (x y z : Nat) : Option (List UInt8) :=
  if z % 4 = 0 then some [UInt8.ofNat (x * 4 + y / 16), UInt8.ofNat (y % 16 * 16 + z / 4)]
  else none

/-- `Engine::decode`: the last group is padded, or must not be. -/
def decodeBase64 (alphabet : Alphabet) (padded : Bool) : List Char → Option (List UInt8)
  | [] => some []
  | [_] => none
  | [a, b] => do
    if padded then none
    lastByte (← sextet alphabet a) (← sextet alphabet b)
  | [a, b, c] => do
    if padded then none
    lastBytes (← sextet alphabet a) (← sextet alphabet b) (← sextet alphabet c)
  | a :: b :: c :: d :: rest => do
    let x ← sextet alphabet a
    let y ← sextet alphabet b
    if padded ∧ rest = [] ∧ d = '=' then
      if c = '=' then lastByte x y else lastBytes x y (← sextet alphabet c)
    else
      let z ← sextet alphabet c
      let w ← sextet alphabet d
      let more ← decodeBase64 alphabet padded rest
      return UInt8.ofNat (x * 4 + y / 16) :: UInt8.ofNat (y % 16 * 16 + z / 4) ::
        UInt8.ofNat (z % 4 * 64 + w) :: more

def b64Decode (input : List Char) : Option (List UInt8) :=
  (decodeBase64 .urlSafe false input).or (decodeBase64 .standard true input)

/-! ## Signatures -/

/-- The JSON parser and the signature primitives. -/
structure Library where
  fromSlice : List UInt8 → Except String Json
  hmacSha256 : (secret message signature : List UInt8) → Bool
  rsaPkcs1Sha256 : (publicKey message signature : List UInt8) → Bool

def derLength (len : Nat) : List UInt8 :=
  if len < 128 then [UInt8.ofNat len]
  else if len < 256 then [0x81, UInt8.ofNat len]
  else [0x82, UInt8.ofNat (len / 256), UInt8.ofNat len]

def encodeAsn1Int (number : List UInt8) : List UInt8 :=
  let pad := number.head?.any fun b => b &&& 0x80 ≠ 0
  0x02 :: derLength (number.length + pad.toNat) ++ (if pad then [0x00] else []) ++ number

def rsaPkcs1DerFromJwkNE (n e : List UInt8) : List UInt8 :=
  let seq := encodeAsn1Int n ++ encodeAsn1Int e
  0x30 :: derLength seq.length ++ seq

section Checks

variable (lib : Library) (jwks : Except String Json) (config : OidcAuth) {jwt : List Char}
  {signature message : List UInt8} {payload : Json} {exp : Int} {overflowChecks : Bool}
  {nowMs : UInt64} {json : Option Json} {items : List Json} {kid : Option String} {n : Number}
  {user : String}

def verifyRs256Jwk (message signature : List UInt8) (jwk : Json) : Bool :=
  let key := do
    let n ← (jwk.get "n").bind Json.asStr
    let e ← (jwk.get "e").bind Json.asStr
    return rsaPkcs1DerFromJwkNE (← b64Decode n.toList) (← b64Decode e.toList)
  key.any fun der => lib.rsaPkcs1Sha256 der message signature

def verifyHs256Signature (message signature : List UInt8) : Except String Unit :=
  if config.clientSecret = "" then .error "client_secret required for HS256 verification"
  else if lib.hmacSha256 (bytes config.clientSecret) message signature then .ok ()
  else .error "invalid HS256 signature"

/-- `jwks` is what `fetch_jwks` gives. -/
def verifyRs256Signature (kid : Option String) (message signature : List UInt8) :
    Except String Unit := do
  let jwks ← jwks
  match (jwks.get "keys").bind Json.asArray with
  | none => .error "invalid JWKS keys array"
  | some keys =>
    let verified := keys.any fun key =>
      (kid.all fun expected => (key.get "kid").bind Json.asStr = some expected) &&
        verifyRs256Jwk lib message signature key
    if verified then .ok () else .error "invalid RS256 signature"

def verifyJwtSignature (alg : String) (kid : Option String) (message signature : List UInt8) :
    Except String Unit :=
  if alg = "none" then .error "algorithm 'none' is forbidden for ID tokens"
  else if alg = "HS256" then verifyHs256Signature lib config message signature
  else if alg = "RS256" then verifyRs256Signature lib jwks kid message signature
  else .error ("unsupported ID token algorithm: " ++ alg)

/-! ## Parts -/

def parseJwtParts (jwt : List Char) : Except String (List Char × List Char × List Char) :=
  match Text.split '.' jwt with
  | [] => .error "missing header"
  | [_] => .error "missing payload"
  | [_, _] => .error "missing signature"
  | [header, payload, signature] => .ok (header, payload, signature)
  | _ => .error "too many JWT segments"

/-- `parse_jwt_header` and `parse_jwt_payload`. -/
def parseJwtJson (part : String) (encoded : List Char) : Except String Json :=
  match b64Decode encoded with
  | none => .error ("invalid base64 " ++ part)
  | some decoded =>
    match lib.fromSlice decoded with
    | .error e => .error ("invalid " ++ part ++ " json: " ++ e)
    | .ok json => .ok json

/-- The UTF-8 bytes of the signed text of a token. -/
def signedMessage (header payload : List Char) : List UInt8 :=
  (header ++ '.' :: payload).flatMap String.utf8EncodeChar

/-- The payload of a token with a good signature. -/
def signedPayload (jwt : List Char) : Except String Json := do
  let (header64, payload64, signature64) ← parseJwtParts jwt
  let header ← parseJwtJson lib "header" header64
  match (header.get "alg").bind Json.asStr with
  | none => .error "missing alg in header"
  | some alg =>
    let kid := (header.get "kid").bind Json.asStr
    match b64Decode signature64 with
    | none => .error "invalid base64 signature"
    | some signature =>
      verifyJwtSignature lib jwks config alg kid (signedMessage header64 payload64) signature
      parseJwtJson lib "payload" payload64

/-! ## Claims -/

/-- How a call ends without a user. -/
inductive Failure where
  | refused (text : String)
  | panicked

/-- `i64` addition; a build with overflow checks panics. -/
def addI64 (overflowChecks : Bool) (a b : Int) : Option Int :=
  if -2 ^ 63 ≤ a + b ∧ a + b < 2 ^ 63 then some (a + b)
  else if overflowChecks then none
  else some ((a + b + 2 ^ 63) % 2 ^ 64 - 2 ^ 63)

/-- The time in whole seconds. -/
def unixSecs (nowMs : UInt64) : Int := ((nowMs.toNat / 1000 : Nat) : Int)

def validateExp (overflowChecks : Bool) (nowMs : UInt64) (payload : Json) : Except Failure Unit :=
  match (payload.get "exp").bind Json.asI64 with
  | none => .ok ()
  | some exp =>
    match addI64 overflowChecks exp 60 with
    | none => .error .panicked
    | some deadline =>
      if deadline < unixSecs nowMs then .error (.refused "ID token has expired") else .ok ()

/-- `str::trim_end_matches('/')`. -/
def trimSlashes (text : String) : List Char := (text.toList.reverse.dropWhile (· = '/')).reverse

def validateIss (payload : Json) : Except String Unit :=
  if config.issuerUrl = "" then .ok ()
  else
    match (payload.get "iss").bind Json.asStr with
    | none => .error "missing iss claim in ID token"
    | some iss =>
      if trimSlashes iss ≠ trimSlashes config.issuerUrl then
        .error ("ID token issuer mismatch: expected " ++ config.issuerUrl ++ ", got " ++ iss)
      else .ok ()

def validateAud (payload : Json) : Except String Unit :=
  if config.clientId = "" then .ok ()
  else
    match payload.get "aud" with
    | none => .error "missing aud claim in ID token"
    | some aud =>
      let found :=
        match aud with
        | .string text => decide (text = config.clientId)
        | .array items => items.any fun item => item.asStr = some config.clientId
        | _ => false
      if found then .ok ()
      else .error ("ID token audience mismatch: expected " ++ config.clientId)

/-- The first of the claims that names a user. -/
def extractUserFromJson (json : Json) : Option String :=
  ["email", "preferred_username", "login", "sub"].findSome? fun claim =>
    ((json.get claim).bind Json.asStr).filter fun text => text ≠ ""

def validateJwtClaims (overflowChecks : Bool) (nowMs : UInt64) (payload : Json) :
    Except Failure String :=
  match validateExp overflowChecks nowMs payload with
  | .error failure => .error failure
  | .ok () =>
    match validateIss config payload with
    | .error text => .error (.refused text)
    | .ok () =>
      match validateAud config payload with
      | .error text => .error (.refused text)
      | .ok () =>
        match extractUserFromJson payload with
        | none => .error (.refused "no user identity in ID token")
        | some user => .ok user

def verifyAndDecodeIdToken (overflowChecks : Bool) (nowMs : UInt64) (jwt : List Char) :
    Except Failure String :=
  match signedPayload lib jwks config jwt with
  | .error text => .error (.refused text)
  | .ok payload => validateJwtClaims config overflowChecks nowMs payload

/-! ## What a token should show -/

/-- The signature over header and payload is the client's or one of a key of the provider. -/
def SignedBy (alg : String) (message signature : List UInt8) (kid : Option String) : Prop :=
  (alg = "HS256" ∧ config.clientSecret ≠ "" ∧
    lib.hmacSha256 (bytes config.clientSecret) message signature = true) ∨
  (alg = "RS256" ∧ ∃ document keys, jwks = .ok document ∧
    document.get "keys" = some (.array keys) ∧ ∃ key ∈ keys,
      (∀ expected ∈ kid, key.get "kid" = some (.string expected)) ∧
        verifyRs256Jwk lib message signature key = true)

/-- The token is three parts with a good signature, and `payload` is what the second one says. -/
def Signed (jwt : List Char) (payload : Json) : Prop :=
  ∃ header64 payload64 signature64 header alg signature,
    Text.split '.' jwt = [header64, payload64, signature64] ∧
      parseJwtJson lib "header" header64 = .ok header ∧
      header.get "alg" = some (.string alg) ∧
      b64Decode signature64 = some signature ∧
      SignedBy lib jwks config alg (signedMessage header64 payload64) signature
        ((header.get "kid").bind Json.asStr) ∧
      parseJwtJson lib "payload" payload64 = .ok payload

/-- The issuer, up to slashes at the end. -/
def IssuedBy (issuer : String) (payload : Json) : Prop :=
  ∃ iss, payload.get "iss" = some (.string iss) ∧ trimSlashes iss = trimSlashes issuer

/-- The audience is the client or names it. -/
def ForClient (client : String) (payload : Json) : Prop :=
  payload.get "aud" = some (.string client) ∨
    ∃ items, payload.get "aud" = some (.array items) ∧ Json.string client ∈ items

/-- The token ends with a number that is at most 60 seconds in the past. -/
def Unexpired (nowMs : UInt64) (payload : Json) : Prop :=
  ∃ n, payload.get "exp" = some (.number n) ∧ (unixSecs nowMs : ℚ) ≤ n.value + 60

/-- The `exp` of a token as `validate_exp` reads it. -/
def expI64 (payload : Json) : Option Int := (payload.get "exp").bind Json.asI64

/-- The two ways a signed payload can do harm are absent: an `exp` whose sum with 60 overflows where
overflows are checked, and an `exp` that is not read though the token is past it. -/
structure ExpRead (overflowChecks : Bool) (nowMs : UInt64) (payload : Json) : Prop where
  fits : overflowChecks = true → ∀ exp ∈ expI64 payload, exp + 60 < 2 ^ 63
  unexpired : expI64 payload = none → IssuedBy config.issuerUrl payload →
    ForClient config.clientId payload → extractUserFromJson payload ≠ none →
      Unexpired nowMs payload

/-! ## The signature -/

theorem bind_asStr_eq_some {text : String} :
    json.bind Json.asStr = some text ↔ json = some (.string text) := by
  rcases json with _ | (_ | _ | _ | _ | _ | _) <;> simp [Json.asStr]

theorem bind_asArray_eq_some :
    json.bind Json.asArray = some items ↔ json = some (.array items) := by
  rcases json with _ | (_ | _ | _ | _ | _ | _) <;> simp [Json.asArray]

theorem parseJwtParts_eq_ok {header payload signature : List Char} :
    parseJwtParts jwt = .ok (header, payload, signature) ↔
      Text.split '.' jwt = [header, payload, signature] := by
  unfold parseJwtParts
  rcases Text.split '.' jwt with _ | ⟨a, _ | ⟨b, _ | ⟨c, _ | ⟨d, rest⟩⟩⟩⟩ <;> simp

theorem verifyHs256Signature_eq_ok :
    verifyHs256Signature lib config message signature = .ok () ↔
      config.clientSecret ≠ "" ∧
        lib.hmacSha256 (bytes config.clientSecret) message signature = true := by
  unfold verifyHs256Signature
  split
  · simp [*]
  · split <;> simp [*]

theorem verifyRs256Signature_eq_ok :
    verifyRs256Signature lib jwks kid message signature = .ok () ↔
      ∃ document keys, jwks = .ok document ∧ document.get "keys" = some (.array keys) ∧
        ∃ key ∈ keys, (∀ expected ∈ kid, key.get "kid" = some (.string expected)) ∧
          verifyRs256Jwk lib message signature key = true := by
  unfold verifyRs256Signature
  rcases jwks with text | document
  · simp [bind, Except.bind]
  · cases found : (document.get "keys").bind Json.asArray with
    | none =>
      have missing : ∀ keys, document.get "keys" ≠ some (.array keys) := by
        intro keys named
        simp [named, Json.asArray] at found
      simp [bind, Except.bind, found, missing]
    | some =>
      have named := bind_asArray_eq_some.mp found
      simp [bind, Except.bind, named, Json.asArray, Option.all_eq_true, bind_asStr_eq_some]

theorem verifyJwtSignature_eq_ok {alg : String} :
    verifyJwtSignature lib jwks config alg kid message signature = .ok () ↔
      SignedBy lib jwks config alg message signature kid := by
  unfold verifyJwtSignature SignedBy
  rw [← verifyHs256Signature_eq_ok, ← verifyRs256Signature_eq_ok]
  split
  · next none => subst none; simp
  · split
    · next hs => subst hs; simp
    · split
      · next rs => subst rs; simp
      · simp [*]

/-- The part before the claims gives the payload of a signed token and of no other. -/
theorem signedPayload_eq_ok :
    signedPayload lib jwks config jwt = .ok payload ↔ Signed lib jwks config jwt payload := by
  unfold signedPayload Signed
  constructor
  · intro decoded
    obtain ⟨⟨header64, payload64, signature64⟩, parts, rest⟩ := bind_eq_ok.mp decoded
    obtain ⟨header, parsed, rest⟩ := bind_eq_ok.mp rest
    split at rest
    · cases rest
    · rename_i alg algorithm
      split at rest
      · cases rest
      · rename_i signature signed
        obtain ⟨⟨⟩, verified, decoded⟩ := bind_eq_ok.mp rest
        exact ⟨header64, payload64, signature64, header, alg, signature,
          parseJwtParts_eq_ok.mp parts, parsed, bind_asStr_eq_some.mp algorithm,
          signed, (verifyJwtSignature_eq_ok lib jwks config).mp verified, decoded⟩
  · rintro ⟨header64, payload64, signature64, header, alg, signature, parts, parsed, algorithm,
      signed, verified, decoded⟩
    have verified' := (verifyJwtSignature_eq_ok lib jwks config).mpr verified
    simp [parseJwtParts_eq_ok.mpr parts, parsed, algorithm, signed, verified', decoded,
      Json.asStr, bind, Except.bind]

theorem Signed.unique {other : Json} (signed : Signed lib jwks config jwt payload)
    (too : Signed lib jwks config jwt other) : payload = other := by
  have first := (signedPayload_eq_ok lib jwks config).mpr signed
  have second := (signedPayload_eq_ok lib jwks config).mpr too
  rw [first] at second
  exact Except.ok.inj second

/-! ## The claims -/

theorem validateIss_eq_ok (issuer : config.issuerUrl ≠ "") :
    validateIss config payload = .ok () ↔ IssuedBy config.issuerUrl payload := by
  unfold validateIss IssuedBy
  rw [if_neg issuer]
  cases named : (payload.get "iss").bind Json.asStr with
  | none =>
    have missing : ∀ iss, payload.get "iss" ≠ some (.string iss) := by
      intro iss found
      simp [found, Json.asStr] at named
    simp [missing]
  | some iss =>
    rw [bind_asStr_eq_some] at named
    by_cases same : trimSlashes iss = trimSlashes config.issuerUrl <;> simp [named, same]

theorem any_asStr {client : String} :
    (items.any fun item => item.asStr = some client) = true ↔ Json.string client ∈ items := by
  rw [List.any_eq_true]
  constructor
  · rintro ⟨item, listed, text⟩
    rcases item with _ | _ | _ | text' | _ | _ <;> simp [Json.asStr] at text
    subst text
    exact listed
  · intro listed
    exact ⟨_, listed, by simp [Json.asStr]⟩

theorem validateAud_eq_ok (client : config.clientId ≠ "") :
    validateAud config payload = .ok () ↔ ForClient config.clientId payload := by
  unfold validateAud ForClient
  rw [if_neg client]
  rcases payload.get "aud" with _ | (_ | _ | _ | text | items | _)
  case some.string => simp
  case some.array => simp [← any_asStr]
  all_goals simp

theorem unixSecs_nonneg (nowMs : UInt64) : 0 ≤ unixSecs nowMs := Int.natCast_nonneg _

theorem Number.asI64_spec (read : n.asI64 = some exp) :
    n.value = (exp : ℚ) ∧ -2 ^ 63 ≤ exp ∧ exp < 2 ^ 63 := by
  cases n with
  | posInt =>
    simp only [Number.asI64] at read
    split at read
    · cases read
      exact ⟨by simp [Number.value], by omega⟩
    · cases read
  | negInt n =>
    cases read
    exact ⟨rfl, n.le_toInt, n.toInt_lt⟩
  | float => cases read

theorem expI64_eq_some :
    expI64 payload = some exp ↔
      ∃ n : Number, payload.get "exp" = some (.number n) ∧ n.asI64 = some exp := by
  unfold expI64
  rcases payload.get "exp" with _ | (_ | _ | _ | _ | _ | _) <;> simp [Json.asI64]

theorem exp_range (read : expI64 payload = some exp) : -2 ^ 63 ≤ exp ∧ exp < 2 ^ 63 := by
  obtain ⟨n, -, value⟩ := expI64_eq_some.mp read
  exact (Number.asI64_spec value).2

theorem validateExp_of_fits (read : expI64 payload = some exp) (fits : exp + 60 < 2 ^ 63) :
    validateExp overflowChecks nowMs payload =
      if exp + 60 < unixSecs nowMs then .error (.refused "ID token has expired") else .ok () := by
  have range := exp_range read
  unfold expI64 at read
  have sum : addI64 overflowChecks exp 60 = some (exp + 60) := by
    unfold addI64
    rw [if_pos ⟨by omega, fits⟩]
  simp only [validateExp, read, sum]

theorem validateExp_of_overflow (read : expI64 payload = some exp) (over' : 2 ^ 63 ≤ exp + 60) :
    validateExp overflowChecks nowMs payload =
      .error (if overflowChecks then .panicked else .refused "ID token has expired") := by
  have range := exp_range read
  have time := unixSecs_nonneg nowMs
  unfold expI64 at read
  unfold validateExp addI64
  rw [read]
  dsimp only
  rw [if_neg (by omega)]
  cases overflowChecks with
  | true => rfl
  | false =>
    simp only [Bool.false_eq_true, if_false]
    rw [if_pos (by omega)]

theorem validateExp_of_unread (unread : expI64 payload = none) :
    validateExp overflowChecks nowMs payload = .ok () := by
  unfold expI64 at unread
  simp only [validateExp, unread]

/-- An `exp` that was read and let through is not long past. -/
theorem unexpired_of_validateExp (read : expI64 payload = some exp)
    (passed : validateExp overflowChecks nowMs payload = .ok ()) : Unexpired nowMs payload := by
  rcases lt_or_ge (exp + 60) (2 ^ 63) with fits | large
  · rw [validateExp_of_fits read fits] at passed
    split at passed
    · cases passed
    · next late =>
        obtain ⟨n, named, value⟩ := expI64_eq_some.mp read
        refine ⟨n, named, ?_⟩
        rw [(Number.asI64_spec value).1]
        have reached : unixSecs nowMs ≤ exp + 60 := not_lt.mp late
        exact_mod_cast reached
  · rw [validateExp_of_overflow read large] at passed
    cases passed

theorem validateJwtClaims_spec :
    (∀ user, validateJwtClaims config overflowChecks nowMs payload = .ok user ↔
      validateExp overflowChecks nowMs payload = .ok () ∧ validateIss config payload = .ok () ∧
        validateAud config payload = .ok () ∧ extractUserFromJson payload = some user) ∧
    (validateJwtClaims config overflowChecks nowMs payload = .error .panicked ↔
      validateExp overflowChecks nowMs payload = .error .panicked) := by
  unfold validateJwtClaims
  rcases validateExp overflowChecks nowMs payload with failure | _
  · simp
  rcases validateIss config payload with text | _
  · simp
  rcases validateAud config payload with text | _
  · simp
  rcases extractUserFromJson payload with _ | found <;> simp

theorem validateJwtClaims_eq_ok (issuer : config.issuerUrl ≠ "") (client : config.clientId ≠ "") :
    validateJwtClaims config overflowChecks nowMs payload = .ok user ↔
      validateExp overflowChecks nowMs payload = .ok () ∧ IssuedBy config.issuerUrl payload ∧
        ForClient config.clientId payload ∧ extractUserFromJson payload = some user := by
  rw [← validateIss_eq_ok config issuer, ← validateAud_eq_ok config client]
  exact (validateJwtClaims_spec config).1 user

theorem validateExp_panicked :
    validateExp overflowChecks nowMs payload = .error .panicked ↔
      overflowChecks = true ∧ ∃ exp ∈ expI64 payload, 2 ^ 63 ≤ exp + 60 := by
  cases read : expI64 payload with
  | none => simp [validateExp_of_unread read]
  | some exp =>
    rcases lt_or_ge (exp + 60) (2 ^ 63) with fits | large
    · rw [validateExp_of_fits read fits]
      split <;> simpa using fun _ => fits
    · rw [validateExp_of_overflow read large]
      cases overflowChecks with
      | true => simpa using large
      | false => simp

/-! ## The whole check -/

theorem verify_eq_iff {outcome : Except Failure String}
    (other : ∀ text, outcome ≠ .error (.refused text)) :
    verifyAndDecodeIdToken lib jwks config overflowChecks nowMs jwt = outcome ↔
      ∃ payload, Signed lib jwks config jwt payload ∧
        validateJwtClaims config overflowChecks nowMs payload = outcome := by
  unfold verifyAndDecodeIdToken
  simp only [← signedPayload_eq_ok]
  cases signedPayload lib jwks config jwt <;> simp [Ne.symm (other _)]

/-- Every user that a token gives is signed for, issued and meant for this client and unexpired, and
the check does not panic, exactly when the `exp` of a signed payload is read as it should be. -/
theorem id_token_sound_iff (overflowChecks : Bool) (nowMs : UInt64) (jwt : List Char)
    (issuer : config.issuerUrl ≠ "") (client : config.clientId ≠ "") :
    ((∀ user, verifyAndDecodeIdToken lib jwks config overflowChecks nowMs jwt = .ok user →
        ∃ payload, Signed lib jwks config jwt payload ∧ IssuedBy config.issuerUrl payload ∧
          ForClient config.clientId payload ∧ Unexpired nowMs payload) ∧
      verifyAndDecodeIdToken lib jwks config overflowChecks nowMs jwt ≠ .error .panicked) ↔
    ∀ payload, Signed lib jwks config jwt payload →
      ExpRead config overflowChecks nowMs payload := by
  constructor
  · rintro ⟨sound, calm⟩ payload signed
    constructor
    · intro checked exp read
      by_contra large
      refine calm ((verify_eq_iff lib jwks config (by simp)).mpr ⟨payload, signed, ?_⟩)
      rw [(validateJwtClaims_spec config).2, validateExp_panicked]
      exact ⟨checked, exp, read, not_lt.mp large⟩
    · intro unread issued meant named
      obtain ⟨user, found⟩ := Option.ne_none_iff_exists'.mp named
      have passed : validateJwtClaims config overflowChecks nowMs payload = .ok user :=
        (validateJwtClaims_eq_ok config issuer client).mpr
          ⟨validateExp_of_unread unread, issued, meant, found⟩
      obtain ⟨payload', signed', -, -, unexpired⟩ :=
        sound user ((verify_eq_iff lib jwks config (by simp)).mpr ⟨payload, signed, passed⟩)
      rwa [signed.unique lib jwks config signed']
  · intro read
    constructor
    · intro user accepted
      obtain ⟨payload, signed, passed⟩ := (verify_eq_iff lib jwks config (by simp)).mp accepted
      obtain ⟨timely, issued, meant, found⟩ :=
        (validateJwtClaims_eq_ok config issuer client).mp passed
      refine ⟨payload, signed, issued, meant, ?_⟩
      cases exp : expI64 payload with
      | none => exact (read payload signed).unexpired exp issued meant (by simp [found])
      | some => exact unexpired_of_validateExp exp timely
    · intro panicked
      obtain ⟨payload, signed, failed⟩ := (verify_eq_iff lib jwks config (by simp)).mp panicked
      rw [(validateJwtClaims_spec config).2, validateExp_panicked] at failed
      obtain ⟨checked, exp, found, large⟩ := failed
      have fits := (read payload signed).fits checked exp found
      omega

end Checks

/-! ## Two tokens -/

def demoConfig : OidcAuth where
  issuerUrl := "i"
  authorizationUrl := ""
  tokenUrl := ""
  userinfoUrl := ""
  clientId := "c"
  clientSecret := "s"
  clientSecretSet := true
  scopes := []
  allowedEmails := []

def demoHeader : Json := .object [("alg", .string "HS256")]

def undatedPayload : Json :=
  .object [("iss", .string "i"), ("aud", .string "c"), ("sub", .string "u")]

def datedPayload : Json :=
  .object [("iss", .string "i"), ("aud", .string "c"), ("exp", .number (.posInt 9)),
    ("sub", .string "u")]

def header64 : List Char := "eyJhbGciOiJIUzI1NiJ9".toList

def undated64 : List Char := "eyJpc3MiOiJpIiwiYXVkIjoiYyIsInN1YiI6InUifQ".toList

def dated64 : List Char := "eyJpc3MiOiJpIiwiYXVkIjoiYyIsImV4cCI6OSwic3ViIjoidSJ9".toList

/-- The parser and the HMAC of the secret at the two tokens. -/
def demoLibrary : Library where
  fromSlice := fun content =>
    if content = bytes "\x7b\"alg\":\"HS256\"\x7d" then .ok demoHeader
    else if content = bytes "\x7b\"iss\":\"i\",\"aud\":\"c\",\"sub\":\"u\"\x7d" then
      .ok undatedPayload
    else if content = bytes "\x7b\"iss\":\"i\",\"aud\":\"c\",\"exp\":9,\"sub\":\"u\"\x7d" then
      .ok datedPayload
    else .error "expected value at line 1 column 1"
  hmacSha256 := fun secret message signature =>
    decide (secret = bytes "s") &&
      (decide (message = signedMessage header64 undated64 ∧ signature =
          [218, 87, 53, 144, 78, 234, 151, 87, 43, 9, 98, 84, 118, 185, 134, 23, 179, 134, 120,
            200, 67, 149, 191, 64, 109, 106, 9, 69, 213, 114, 202, 53]) ||
        decide (message = signedMessage header64 dated64 ∧ signature =
          [203, 235, 137, 84, 80, 248, 5, 89, 99, 76, 85, 37, 128, 42, 32, 17, 204, 89, 204, 228,
            158, 149, 242, 16, 49, 68, 44, 171, 239, 199, 187, 220]))
  rsaPkcs1Sha256 := fun _ _ _ => false

def undatedToken : List Char :=
  header64 ++ '.' :: undated64 ++ '.' :: "2lc1kE7ql1crCWJUdrmGF7OGeMhDlb9AbWoJRdVyyjU".toList

def datedToken : List Char :=
  header64 ++ '.' :: dated64 ++ '.' :: "y-uJVFD4BVljTFUlgCogEcxZzOSelfIQMUQsq-_Hu9w".toList

set_option maxRecDepth 10000 in
theorem signedPayload_undated :
    signedPayload demoLibrary (.error "") demoConfig undatedToken = .ok undatedPayload := by
  rfl

set_option maxRecDepth 10000 in
theorem signedPayload_dated :
    signedPayload demoLibrary (.error "") demoConfig datedToken = .ok datedPayload := by
  rfl

/-- A token that ends at second 9 gives its user at second 9. -/
theorem dated_token_sound :
    (demoConfig.issuerUrl ≠ "" ∧ demoConfig.clientId ≠ "") ∧
      (∀ user, verifyAndDecodeIdToken demoLibrary (.error "") demoConfig true 9000 datedToken =
          .ok user →
        ∃ payload, Signed demoLibrary (.error "") demoConfig datedToken payload ∧
          IssuedBy demoConfig.issuerUrl payload ∧ ForClient demoConfig.clientId payload ∧
            Unexpired 9000 payload) ∧
      verifyAndDecodeIdToken demoLibrary (.error "") demoConfig true 9000 datedToken ≠
        .error .panicked := by
  have issuer : demoConfig.issuerUrl ≠ "" := by decide
  have client : demoConfig.clientId ≠ "" := by decide
  refine ⟨⟨issuer, client⟩,
    (id_token_sound_iff demoLibrary (.error "") demoConfig true 9000 datedToken issuer client).mpr
      fun payload signed => ?_⟩
  have dated : datedPayload = payload :=
    Except.ok.inj (signedPayload_dated.symm.trans ((signedPayload_eq_ok _ _ _).mpr signed))
  subst dated
  have read : expI64 datedPayload = some 9 := rfl
  constructor
  · intro _ exp found
    cases found
    decide
  · intro unread
    cases unread

/-- A signed token without `exp` gives its user, whatever the time. -/
theorem undated_token_accepted :
    verifyAndDecodeIdToken demoLibrary (.error "") demoConfig true 1700000000000 undatedToken =
        .ok "u" ∧
      ¬ ∃ payload, Signed demoLibrary (.error "") demoConfig undatedToken payload ∧
        IssuedBy demoConfig.issuerUrl payload ∧ ForClient demoConfig.clientId payload ∧
          Unexpired 1700000000000 payload := by
  constructor
  · unfold verifyAndDecodeIdToken
    rw [signedPayload_undated]
    rfl
  · rintro ⟨payload, signed, -, -, n, named, -⟩
    have undated : undatedPayload = payload :=
      Except.ok.inj (signedPayload_undated.symm.trans ((signedPayload_eq_ok _ _ _).mpr signed))
    subst undated
    cases named

end R3v3rs3.Auth.IdToken
