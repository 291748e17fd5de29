/-
# R3v3rs3.Api.Requests -- what the API checks before it stores a record

The requests that create an image registry, an outbound webhook and a scheduled command, with
the checks of each and the text of every refusal.  Parsing a URL and an address belongs to the
URL library and enters as `UrlParser`; which of the parsed hosts are allowed is the API's own.
-/
import R3v3rs3.Api.Error
import R3v3rs3.Api.Text

namespace R3v3rs3.Api
open Api.Text
set_option autoImplicit false

/-! ## Registries -/

structure RegistryRequest where
  server : String
  username : String
  password : Option String

def validateRegistryFields (server username : String) : Except Error Unit :=
  if server = "" then .error (.invalidRegistry "server cannot be empty")
  else if username = "" then .error (.invalidRegistry "username cannot be empty")
  else .ok ()

/-! ## Webhook addresses -/

structure Ipv4 where
  a : UInt8
  b : UInt8
  c : UInt8
  d : UInt8

structure Ipv6 where
  octets : List UInt8
  length_eq : octets.length = 16

inductive IpAddr where
  | v4 (ip : Ipv4)
  | v6 (ip : Ipv6)

inductive Host where
  | ipv4 (ip : Ipv4)
  | ipv6 (ip : Ipv6)
  | domain (name : String)

structure ParsedUrl where
  scheme : String
  host : Option Host

/-- `url::Url::parse`, its error as text, and `str::parse::<IpAddr>`. -/
structure UrlParser where
  parse : String → Except String ParsedUrl
  parseIp : String → Option IpAddr

def isTestNet (ip : Ipv4) : Bool :=
  (ip.a = 192 && ip.b = 0 && ip.c = 2) || (ip.a = 198 && ip.b = 51 && ip.c = 100) ||
    (ip.a = 203 && ip.b = 0 && ip.c = 113)

def isPrivateOrRestrictedIpv4 (ip : Ipv4) : Bool :=
  -- loopback, multicast, broadcast
  ip.a = 127 || (224 ≤ ip.a && ip.a ≤ 239) ||
    (ip.a = 255 && ip.b = 255 && ip.c = 255 && ip.d = 255) ||
    ip.a = 0 || ip.a = 10 || (ip.a = 169 && ip.b = 254) ||
    (ip.a = 172 && 16 ≤ ip.b && ip.b ≤ 31) || (ip.a = 192 && ip.b = 168) ||
    (ip.a = 100 && 64 ≤ ip.b && ip.b ≤ 127) || isTestNet ip

def checkIpv6MappedOrCompat (octets : List UInt8) : Bool :=
  let at' (i : Nat) := octets.getD i 0
  if octets.take 10 ≠ List.replicate 10 0 then false
  else if (at' 10 = 0xff ∧ at' 11 = 0xff) ∨ (at' 10 = 0 ∧ at' 11 = 0) then
    isPrivateOrRestrictedIpv4 ⟨at' 12, at' 13, at' 14, at' 15⟩
  else false

def isPrivateOrRestrictedIpv6 (ip : Ipv6) : Bool :=
  let first := ip.octets.getD 0 0
  let second := ip.octets.getD 1 0
  -- loopback, unspecified, multicast
  ip.octets = List.replicate 15 0 ++ [1] || ip.octets = List.replicate 16 0 || first = 0xff ||
    first &&& 0xfe = 0xfc || (first = 0xfe && second &&& 0xc0 = 0x80) ||
    checkIpv6MappedOrCompat ip.octets

def blockedSuffixes : List String :=
  [".localhost", ".local", ".internal", ".lan", ".home.arpa", ".corp"]

def matchesBlockedSuffix (host : List Char) : Bool :=
  blockedSuffixes.any (fun suffix => suffix.toList.isSuffixOf host)

def isPrivateOrRestrictedDomain (domain : String) : Bool :=
  let lower := domain.toList.map Char.toLower
  let trimmed := (lower.reverse.dropWhile (· = '.')).reverse
  trimmed = "localhost".toList || matchesBlockedSuffix trimmed

def isRestrictedHost (urls : UrlParser) : Host → Bool
  | .ipv4 ip => isPrivateOrRestrictedIpv4 ip
  | .ipv6 ip => isPrivateOrRestrictedIpv6 ip
  | .domain name =>
    match urls.parseIp name with
    | some (.v4 ip) => isPrivateOrRestrictedIpv4 ip
    | some (.v6 ip) => isPrivateOrRestrictedIpv6 ip
    | none => isPrivateOrRestrictedDomain name

def validateWebhookUrl (urls : UrlParser) (url : String) : Except Error Unit :=
  match urls.parse (trim url) with
  | .error err => .error (.invalidWebhook ("invalid webhook URL: " ++ err))
  | .ok parsed =>
    if parsed.scheme ≠ "http" ∧ parsed.scheme ≠ "https" then
      .error (.invalidWebhook "webhook URL must use http or https scheme")
    else
      match parsed.host with
      | none => .error (.invalidWebhook "webhook URL must have a host")
      | some host =>
        if isRestrictedHost urls host then
          .error (.invalidWebhook
            "webhook URL cannot target private, loopback, or restricted addresses")
        else .ok ()

/-! ## Webhooks -/

inductive WebhookEvent where
  | deploySuccess | deployFailure | deployPendingApproval | appCrashed
  | backupSuccess | backupFailure | backupUploadFailed | backupRestored
  | backupVerificationFailed
  | certExpiring | certRenewed | certRenewalFailed | certRogueDetected | certCtCheckFailed
  | securityIpBanned | securityThreatDetected
  | targetOffline | systemDiskPressure | systemDiskLow | systemBandwidthSpike
  | systemHighLatency | systemHighErrorRate | systemTrafficSpike | systemEventLoopLag
  | systemFdExhaustion | systemSocketExhaustion | systemGeoipUpdated
  | systemGeoipUpdateFailed | systemOomKill | appCpuThrottled
  | testPing
  deriving DecidableEq

structure CreateWebhookRequest where
  name : String
  url : String
  secret : Option String
  enabled : Bool
  events : List WebhookEvent

def CreateWebhookRequest.validate (urls : UrlParser) (request : CreateWebhookRequest) :
    Except Error Unit :=
  let name := trim request.name
  if name = "" then .error (.invalidWebhook "webhook name cannot be empty")
  else if name.utf8ByteSize > 100 then
    .error (.invalidWebhook "webhook name cannot exceed 100 characters")
  else
    match validateWebhookUrl urls request.url with
    | .error err => .error err
    | .ok () =>
      if request.events = [] then
        .error (.invalidWebhook "at least one event must be selected")
      else
        match request.secret with
        | some secret =>
          if secret.utf8ByteSize > 256 then
            .error (.invalidWebhook "secret cannot exceed 256 characters")
          else .ok ()
        | none => .ok ()

/-! ## Scheduled commands -/

def validateDailyTime (schedule : List Char) : Bool :=
  match splitOnce ':' schedule with
  | none => false
  | some (hourText, minText) =>
    match parseU32 hourText, parseU32 minText with
    | some hour, some min => hour < 24 && min < 60
    | _, _ => false

/-- The loop over the units: the first unit whose number parses decides. -/
def validateUnits (clean : List Char) : List (Char × Nat) → Bool
  | [] => false
  | (unit, minVal) :: rest =>
    match (stripEnd unit clean).bind parseU64 with
    | some num => num ≥ minVal
    | none => validateUnits clean rest

def validateInterval (schedule : List Char) : Bool :=
  let clean := trimChars ((stripStart "@every ".toList schedule).getD schedule)
  ["@hourly", "hourly", "@daily", "daily"].any (fun word => word.toList = clean) ||
    validateUnits clean [('s', 10), ('m', 1), ('h', 1), ('d', 1)]

def validateCronPart (part : List Char) (min max : Nat) : Bool :=
  match splitOnce '-' part with
  | some (startText, endText) =>
    match parseU32 startText, parseU32 endText with
    | some s, some e => s ≥ min && e ≤ max && s ≤ e
    | _, _ => false
  | none =>
    match parseU32 part with
    | some val => val ≥ min && val ≤ max
    | none => false

def validateCronField (field : List Char) (min max : Nat) : Bool :=
  if field = ['*'] then true
  else
    match stripStart ['*', '/'] field with
    | some stepText =>
      match parseU32 stepText with
      | some step => 0 < step && step ≤ max
      | none => false
    | none => (split ',' field).all (fun part => validateCronPart part min max)

def validateCron5 (schedule : List Char) : Bool :=
  match splitWhitespace schedule with
  | [minute, hour, day, month, weekday] =>
    validateCronField minute 0 59 && validateCronField hour 0 23 &&
      validateCronField day 1 31 && validateCronField month 1 12 &&
      validateCronField weekday 0 7
  | _ => false

def validateScheduleExpression (schedule : String) : Except Error Unit :=
  if schedule = "" then .error (.invalidScheduledCommand "schedule cannot be empty")
  else if validateDailyTime schedule.toList || validateInterval schedule.toList ||
      validateCron5 schedule.toList then .ok ()
  else .error (.invalidScheduledCommand ("invalid schedule expression '" ++ schedule ++
    "': expected HH:MM, interval (e.g. 15m, 1h, 1d), or 5-field cron"))

structure ScheduledCommandRequest where
  name : String
  schedule : String
  command : String
  enabled : Bool

def ScheduledCommandRequest.validate (request : ScheduledCommandRequest) : Except Error Unit :=
  let name := trim request.name
  let command := trim request.command
  if name = "" then .error (.invalidScheduledCommand "name cannot be empty")
  else if name.utf8ByteSize > 100 then
    .error (.invalidScheduledCommand "name cannot exceed 100 characters")
  else if command = "" then .error (.invalidScheduledCommand "command cannot be empty")
  else if command.utf8ByteSize > 8192 then
    .error (.invalidScheduledCommand "command cannot exceed 8192 characters")
  else validateScheduleExpression (trim request.schedule)

end R3v3rs3.Api
