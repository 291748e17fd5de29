/-
# R3v3rs3.Api.Error -- the identifier of stored records, the errors the modelled requests answer
# with, and calls that may fail

`ShortId` is eight bytes.  Either the first byte is zero and the other seven are shown in
hexadecimal, or the bytes are the text itself, padded with zeros; the text form is only built
from letters, digits and hyphens, which the third field records.  `ShortId.new` is the default
value: eight zeros, the same value at every call.
-/
import Mathlib.Data.List.Basic

namespace R3v3rs3.Api
set_option autoImplicit false

structure ShortId where
  bytes : List UInt8
  length_eq : bytes.length = 8
  text_ascii : bytes.headD 0 ≠ 0 → ∀ byte ∈ bytes, byte < 128
  deriving DecidableEq

namespace ShortId

/-- `ShortId::new`, which is `Default::default()`. -/
def new : ShortId := ⟨List.replicate 8 0, by decide, by decide⟩

/-- `From<[u8; 7]>`. -/
def ofSeven (id : List UInt8) (seven : id.length = 7) : ShortId :=
  ⟨0 :: id, by simp [seven], by simp⟩

def hexDigit (nibble : Nat) : Char :=
  if nibble < 10 then Char.ofNat (48 + nibble) else Char.ofNat (87 + nibble)

/-- `hex::encode`. -/
def hexEncode (bytes : List UInt8) : List Char :=
  bytes.flatMap (fun byte => [hexDigit (byte.toNat / 16), hexDigit (byte.toNat % 16)])

/-- `Display`: hexadecimal after a zero byte, else the bytes up to the last one that is not
zero. -/
def display (id : ShortId) : String :=
  if id.bytes.headD 0 = 0 then
    String.ofList (hexEncode (id.bytes.drop 1))
  else
    String.ofList ((id.bytes.reverse.dropWhile (· = 0)).reverse.map
      (fun byte => Char.ofNat byte.toNat))

example : new.display = "00000000000000" := by decide

end ShortId

inductive Error where
  | connectionNotFound (id : ShortId)
  | idNotFound (id : String)
  | invalidShortId (id : String)
  | registryExists (server : String)
  | invalidRegistry (reason : String)
  | webhookNotFound (id : ShortId)
  | invalidWebhook (reason : String)
  | scheduledCommandNotFound (id : ShortId)
  | invalidScheduledCommand (reason : String)
  | pitrTargetOutOfRange (reason : String)
  | invalidLoginCredentials
  | tooManyLoginAttempts
  | ipBanned (seconds : Nat)
  | invalidUsername (username : String)
  | accountExists (username : String)
  | accountNotFound (username : String)
  | cannotChangeOwnAccount
  | invalidAccountScope
  | passwordTooShort (min : Nat)
  | invalidTokenName (name : String)
  | lastAdmin
  | forbidden
  | failedToSaveConfig
  | invalidGitConnection (reason : String)
  | oauthStateInvalid
  | gitConnectionNotConnected (id : ShortId)
  | gitProviderFailed (reason : String)
  | gitConnectionInUse (name : String)
  /-- A failure without an error of its own. -/
  | other (message : String)
  /-- An `INSERT` that the database refused. -/
  | database (reason : String)
  deriving DecidableEq

section Calls

variable {Err First Second : Type} {call : Except Err First} {result : Second}

theorem map_eq_ok {f : First → Second} (ok : call.map f = .ok result) :
    ∃ first, call = .ok first ∧ f first = result := by
  cases call with
  | error => cases ok
  | ok first => exact ⟨first, rfl, Except.ok.inj ok⟩

theorem bind_eq_ok {rest : First → Except Err Second} : call >>= rest = .ok result ↔
    ∃ first, call = .ok first ∧ rest first = .ok result := by
  cases call <;> simp [bind, Except.bind]

end Calls

end R3v3rs3.Api
