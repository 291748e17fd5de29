/-
# R3v3rs3.Proxy.Http.ClientIp -- the address of a client behind trusted proxies

`resolve` believes the headers only of a peer that is trusted: a provider of a content network has
a header of its own, and for any other trusted proxy the address is the last untrusted one of a
chain.  The chain is made of the addresses of `x-forwarded-for`, line by line, and then of those of
the `forwarded` lines; a line that is not text and an entry that is not an address are skipped.

The proxies in front add to `x-forwarded-for` and pass on what the client sent
(`received`).  `appended_address_wins_iff` says when the address that they saw is found, whatever
the client sent: the `forwarded` lines come later in the chain, so they must not name an untrusted
address after all, and a line that the client made unreadable hides what the proxy added to it.
-/
import R3v3rs3.Proxy.Http.Rewriter
import R3v3rs3.Theory.NetAddr

namespace R3v3rs3.Proxy.Http.ClientIp
open Theory Theory.NetAddr HeaderValue
open MultiMap (getAll_remove getAll_appendAll)
set_option autoImplicit false

/-- The addresses of the standard library. -/
abbrev net : IpText where
  Ip := IpAddr
  display ip := String.ofList ip.display
  parse := IpAddr.parse
  isIpv6 := IpAddr.isIpv6

/-- The first 64 bits of an IPv6 address. -/
def prefix64 (addr : Ipv6Addr) : Ipv6Addr :=
  ⟨addr.segments.take 4 ++ [0, 0, 0, 0], by simp [addr.eight]⟩

/-- What clients are told apart by where failures are counted. -/
def canonicalClientIp (ip : IpAddr) : IpAddr :=
  match ip.toCanonical with
  | .v4 addr => .v4 addr
  | .v6 addr => .v6 (prefix64 addr)

/-- `ClientAddr::direct`. -/
def direct (peer : IpAddr) : ClientAddr net := ⟨peer.toCanonical, peer.toCanonical, false⟩

inductive CdnProvider where
  | cloudflare
  | fastly
  | cloudfront
  | bunny
  | gcore
  | keycdn
  | imperva
  | googleCloud
  deriving DecidableEq

inductive Trust where
  | cdn (provider : CdnProvider)
  | proxy
  deriving DecidableEq

/-! ## Reading addresses -/

/-- An address with an optional port, also without the brackets of IPv6. -/
def parseForwardedIp (value : List Char) : Option IpAddr :=
  let value := Api.Text.trimChars value
  match IpAddr.parse value with
  | some ip => some ip.toCanonical
  | none =>
    match parseSocket value with
    | some ip => some ip.toCanonical
    | none => do
      let (ip, port) ← Api.Text.rsplitOnce ':' value
      let _ ← Api.Text.parseUnsigned 65535 port
      (IpAddr.parse ip).map IpAddr.toCanonical

/-- The comma-separated items of the lines that are text. -/
def lineItems (lines : List HeaderValue) : List (List Char) :=
  (lines.filterMap HeaderValue.toStr).flatMap (Api.Text.split ',')

/-- The addresses of `x-forwarded-for` lines. -/
def forwardedForEntries (lines : List HeaderValue) : List IpAddr :=
  (lineItems lines).filterMap parseForwardedIp

def isForDirective (directive : List Char) : Bool :=
  4 ≤ (Api.Text.trimChars directive).length &&
    eqIgnoreAsciiCase ((Api.Text.trimChars directive).take 4) "for=".toList

/-- A value without the quotes around it. -/
def unquote (value : List Char) : List Char :=
  ((Api.Text.stripStart ['"'] value).bind (Api.Text.stripEnd '"')).getD value

/-- The address that one element of a `forwarded` line names. -/
def elementIp (element : List Char) : Option IpAddr := do
  let directive ← (Api.Text.split ';' element).find? isForDirective
  parseForwardedIp (unquote (Api.Text.trimChars ((Api.Text.trimChars directive).drop 4)))

def rfc7239ForwardedIps (lines : List HeaderValue) : List IpAddr :=
  (lineItems lines).filterMap elementIp

def headerIp (headers : HeaderMap) (name : HeaderName) : Option IpAddr := do
  let value ← headers.get name
  let text ← HeaderValue.toStr value
  parseForwardedIp text

def providerHeaderIp (provider : CdnProvider) (headers : HeaderMap) : Option IpAddr :=
  match provider with
  | .cloudflare => headerIp headers "cf-connecting-ip"
  | .bunny => headerIp headers "x-real-ip"
  | .cloudfront => headerIp headers "cloudfront-viewer-address"
  | _ => none

/-! ## The resolver -/

/-- Which addresses a network has, and the ranges of the content networks. -/
structure Networks (Net : Type) where
  contains : Net → IpAddr → Bool
  lookup : IpAddr → Option CdnProvider

structure ClientIpResolver (Net : Type) where
  trustCdn : Bool
  trustedProxies : List Net

namespace ClientIpResolver

variable {Net : Type} (nets : Networks Net) (resolver : ClientIpResolver Net)

def trust (ip : IpAddr) : Option Trust :=
  if resolver.trustedProxies.any fun range => nets.contains range ip then some .proxy
  else if resolver.trustCdn = false then none
  else (nets.lookup ip).map .cdn

/-- The last untrusted address of a chain. -/
def lastUntrusted (chain : List IpAddr) : Option IpAddr :=
  chain.reverse.find? fun ip => (resolver.trust nets ip).isNone

/-- The addresses of `x-forwarded-for`, then those of `forwarded`. -/
def chain (headers : HeaderMap) : List IpAddr :=
  forwardedForEntries (headers.getAll "x-forwarded-for") ++
    rfc7239ForwardedIps (headers.getAll "forwarded")

def forwardedForIp (headers : HeaderMap) : Option IpAddr :=
  (resolver.lastUntrusted nets (chain headers)).or (chain headers).head?

def resolve (peer : IpAddr) (headers : HeaderMap) : ClientAddr net :=
  match resolver.trust nets peer.toCanonical with
  | none => direct peer
  | some trust =>
    let ip :=
      match trust with
      | .cdn provider => providerHeaderIp provider headers
      | .proxy => resolver.forwardedForIp nets headers
    ⟨ip.getD peer.toCanonical, peer.toCanonical, true⟩

end ClientIpResolver

/-! ## Chains -/

variable {ip : IpAddr} {line : HeaderValue}

section Chains

variable {Net : Type} {nets : Networks Net} {resolver : ClientIpResolver Net}

open ClientIpResolver

theorem lastUntrusted_append (front back : List IpAddr) :
    resolver.lastUntrusted nets (front ++ back) =
      (resolver.lastUntrusted nets back).or (resolver.lastUntrusted nets front) := by
  rw [lastUntrusted, List.reverse_append, List.find?_append]
  rfl

theorem lastUntrusted_eq_none {chain : List IpAddr} :
    resolver.lastUntrusted nets chain = none ↔ ∀ ip ∈ chain, resolver.trust nets ip ≠ none := by
  simp [lastUntrusted, List.find?_eq_none]

/-- An untrusted address is found just when it is the last untrusted one: otherwise all addresses
are trusted, the peer too. -/
theorem forwardedForIp_eq_iff {headers : HeaderMap} {peer : IpAddr}
    (trusted : resolver.trust nets peer ≠ none) (untrusted : resolver.trust nets ip = none) :
    (resolver.forwardedForIp nets headers).getD peer = ip ↔
      resolver.lastUntrusted nets (chain headers) = some ip := by
  unfold forwardedForIp
  cases found : resolver.lastUntrusted nets (chain headers) with
  | some => simp
  | none =>
    refine iff_of_false ?_ (by simp)
    cases first : (chain headers).head? with
    | none =>
      rintro rfl
      exact trusted untrusted
    | some other =>
      rintro rfl
      exact lastUntrusted_eq_none.mp found other (List.mem_of_head? first) untrusted

theorem forwardedForEntries_append (first second : List HeaderValue) :
    forwardedForEntries (first ++ second) =
      forwardedForEntries first ++ forwardedForEntries second := by
  rw [forwardedForEntries, lineItems, List.filterMap_append, List.flatMap_append,
    List.filterMap_append]
  rfl

end Chains

/-! ## What the proxies in front send -/

/-- What the client sends. -/
structure ClientSent where
  /-- The lines before the one that the proxy adds to. -/
  earlier : List HeaderValue
  /-- The client's part of the line that the proxy adds to, if it does not add a line. -/
  part : Option HeaderValue
  forwarded : List HeaderValue
  others : HeaderMap

/-- What the proxies add to `x-forwarded-for`. -/
structure ProxySent where
  line : HeaderValue
  later : List HeaderValue

/-- The line with the client's part, a comma and what the proxy adds. -/
def addedLine (part : Option HeaderValue) (line : HeaderValue) : HeaderValue :=
  match part with
  | some part => part ++ 44 :: line
  | none => line

/-- The request that the proxies pass on. -/
def received (sent : ClientSent) (added : ProxySent) : HeaderMap :=
  (((sent.others.remove "x-forwarded-for").remove "forwarded").appendAll "x-forwarded-for"
    (sent.earlier ++ addedLine sent.part added.line :: added.later)).appendAll "forwarded"
      sent.forwarded

theorem getAll_received (sent : ClientSent) (added : ProxySent) :
    (received sent added).getAll "x-forwarded-for" =
        sent.earlier ++ addedLine sent.part added.line :: added.later ∧
      (received sent added).getAll "forwarded" = sent.forwarded := by
  simp [received, getAll_appendAll, getAll_remove]

/-- The client's part of the line is text. -/
def ClientSent.readable (sent : ClientSent) : Prop :=
  ∀ part ∈ sent.part, HeaderValue.toStr part ≠ none

theorem toStr_eq_none {value : HeaderValue} :
    toStr value = none ↔ value.all visibleByte = false := by
  unfold toStr
  cases value.all visibleByte <;> simp

theorem toStr_comma {part : HeaderValue} {front back : List Char}
    (isFront : toStr part = some front) (isBack : toStr line = some back) :
    toStr (part ++ 44 :: line) = some (front ++ ',' :: back) := by
  unfold toStr at isFront isBack ⊢
  split at isFront
  · rename_i visible
    cases isFront
    split at isBack
    · rename_i also
      cases isBack
      have comma : visibleByte 44 = true := by decide
      rw [if_pos]
      · simp
      · simp only [List.all_append, List.all_cons, visible, also, comma, Bool.and_true]
    · cases isBack
  · cases isFront

/-- A readable line adds the client's items and then those of the proxy. -/
theorem lineItems_addedLine {part : Option HeaderValue} {text : List Char}
    (readable : ∀ front ∈ part, toStr front ≠ none)
    (isText : toStr line = some text) :
    lineItems [addedLine part line] = lineItems part.toList ++ lineItems [line] := by
  cases part with
  | none => rfl
  | some front =>
    obtain ⟨before, isBefore⟩ := Option.ne_none_iff_exists'.mp (readable front rfl)
    have whole : toStr (addedLine (some front) line) = some (before ++ ',' :: text) :=
      toStr_comma isBefore isText
    simp [lineItems, whole, isBefore, isText, Api.Text.split_append]

/-- A line that the client made unreadable adds nothing. -/
theorem lineItems_unreadable {part : HeaderValue} (hidden : toStr part = none) :
    lineItems [addedLine (some part) line] = [] := by
  have none : toStr (addedLine (some part) line) = none := by
    rw [toStr_eq_none] at hidden ⊢
    simp [addedLine, hidden]
  simp [lineItems, none]

section Received

variable {Net : Type} (nets : Networks Net) (resolver : ClientIpResolver Net) {added : ProxySent}

/-- The proxies add an untrusted address, and after it only trusted ones. -/
structure Appends (added : ProxySent) (ip : IpAddr) : Prop where
  untrusted : resolver.trust nets ip = none
  line : ∃ after, forwardedForEntries [added.line] = ip :: after ∧
    ∀ other ∈ after, resolver.trust nets other ≠ none
  later : ∀ other ∈ forwardedForEntries added.later, resolver.trust nets other ≠ none

/-- What the client sent does not hide or outrank the address. -/
def Clean (sent : ClientSent) (ip : IpAddr) : Prop :=
  resolver.lastUntrusted nets (rfc7239ForwardedIps sent.forwarded) = some ip ∨
    (resolver.lastUntrusted nets (rfc7239ForwardedIps sent.forwarded) = none ∧
      (sent.readable ∨ resolver.lastUntrusted nets (forwardedForEntries sent.earlier) = some ip))

variable {nets resolver}

theorem Appends.lastUntrusted_line (appends : Appends nets resolver added ip) :
    resolver.lastUntrusted nets (forwardedForEntries [added.line]) = some ip := by
  obtain ⟨after, entries, trusted⟩ := appends.line
  have split : ip :: after = [ip] ++ after := rfl
  rw [entries, split, lastUntrusted_append, lastUntrusted_eq_none.mpr trusted, Option.none_or]
  simp [ClientIpResolver.lastUntrusted, appends.untrusted]

theorem Appends.line_text (appends : Appends nets resolver added ip) :
    ∃ text, toStr added.line = some text := by
  obtain ⟨after, entries, -⟩ := appends.line
  cases isText : toStr added.line with
  | some text => exact ⟨text, rfl⟩
  | none => simp [forwardedForEntries, lineItems, isText] at entries

/-- The last untrusted address of `x-forwarded-for`. -/
theorem lastUntrusted_received {sent : ClientSent} (appends : Appends nets resolver added ip) :
    resolver.lastUntrusted nets
        (forwardedForEntries (sent.earlier ++ addedLine sent.part added.line :: added.later)) =
      some ip ↔
      sent.readable ∨
        resolver.lastUntrusted nets (forwardedForEntries sent.earlier) = some ip := by
  have lines : sent.earlier ++ addedLine sent.part added.line :: added.later =
      sent.earlier ++ ([addedLine sent.part added.line] ++ added.later) := rfl
  rw [lines, forwardedForEntries_append, forwardedForEntries_append, lastUntrusted_append,
    lastUntrusted_append, lastUntrusted_eq_none.mpr appends.later, Option.none_or]
  obtain ⟨text, isText⟩ := appends.line_text
  by_cases readable : sent.readable
  · refine iff_of_true ?_ (.inl readable)
    have entries : forwardedForEntries [addedLine sent.part added.line] =
        forwardedForEntries sent.part.toList ++ forwardedForEntries [added.line] := by
      rw [forwardedForEntries, lineItems_addedLine readable isText, List.filterMap_append]
      rfl
    rw [entries, lastUntrusted_append, appends.lastUntrusted_line]
    rfl
  · obtain ⟨part, isPart, hidden⟩ : ∃ part, sent.part = some part ∧
        toStr part = none := by
      simpa [ClientSent.readable] using readable
    have entries : forwardedForEntries [addedLine sent.part added.line] = [] := by
      rw [forwardedForEntries, isPart, lineItems_unreadable hidden]
      rfl
    rw [entries]
    simp [ClientIpResolver.lastUntrusted, readable]

/-- **When the address that the proxy saw is found.** -/
theorem resolve_received_iff {peer : IpAddr} {sent : ClientSent}
    (proxied : resolver.trust nets peer.toCanonical = some .proxy)
    (appends : Appends nets resolver added ip) :
    (resolver.resolve nets peer (received sent added)).ip = ip ↔ Clean nets resolver sent ip := by
  have trusted : resolver.trust nets peer.toCanonical ≠ none := by simp [proxied]
  obtain ⟨forwardedFor, forwarded⟩ := getAll_received sent added
  have resolved : (resolver.resolve nets peer (received sent added)).ip =
      (resolver.forwardedForIp nets (received sent added)).getD peer.toCanonical := by
    simp only [ClientIpResolver.resolve, proxied]
  rw [resolved, forwardedForIp_eq_iff trusted appends.untrusted, ClientIpResolver.chain,
    forwardedFor, forwarded, lastUntrusted_append]
  unfold Clean
  cases last : resolver.lastUntrusted nets (rfc7239ForwardedIps sent.forwarded) with
  | some => simp
  | none => simp [lastUntrusted_received appends]

/-- **Two requests that differ in what the client sent** are given the address that the proxy saw,
if and only if in both of them the last untrusted address of the `forwarded` lines is that address,
or there is none and the client left the line of the proxy readable or wrote that address itself. -/
theorem appended_address_wins_iff {peer : IpAddr} {added : ProxySent} {ip : IpAddr}
    (proxied : resolver.trust nets peer.toCanonical = some .proxy)
    (appends : Appends nets resolver added ip) (first second : ClientSent) :
    ((resolver.resolve nets peer (received first added)).ip = ip ∧
        (resolver.resolve nets peer (received second added)).ip = ip) ↔
      Clean nets resolver first ip ∧ Clean nets resolver second ip := by
  rw [resolve_received_iff proxied appends, resolve_received_iff proxied appends]

end Received

/-! ## Clients that hide or choose their address -/

section Spoofed

def v4 (a b c d : Fin 256) : IpAddr := .v4 ⟨a, b, c, d⟩

/-- A network of one address, and no content network. -/
def oneAddress : Networks IpAddr := ⟨fun range ip => range = ip, fun _ => none⟩

/-- The load balancer 10.0.0.5 is trusted. -/
def balancer : ClientIpResolver IpAddr := ⟨false, [v4 10 0 0 5]⟩

/-- It adds the address that it saw. -/
def addsSeen : ProxySent := ⟨bytes "203.0.113.9", []⟩

def honest : ClientSent := ⟨[], none, [], ⟨[]⟩⟩

/-- The client starts the line with a byte that is not ASCII. -/
def unreadable : ClientSent := ⟨[], some [0xe9], [], ⟨[]⟩⟩

/-- The client names an address of its choice. -/
def spoofing : ClientSent := ⟨[], none, [bytes "for=1.2.3.4"], ⟨[]⟩⟩

theorem addsSeen_appends : Appends oneAddress balancer addsSeen (v4 203 0 113 9) := by
  refine ⟨by decide, ⟨[], by decide, by simp⟩, ?_⟩
  have none : forwardedForEntries addsSeen.later = [] := rfl
  simp [none]

/-- **The client hides its address, or chooses it.**  With a byte that is not ASCII in the line that
the balancer adds to, the balancer itself is taken for the client. -/
theorem unreadable_part_hides_address :
    (balancer.resolve oneAddress (v4 10 0 0 5) (received honest addsSeen)).ip = v4 203 0 113 9 ∧
      (balancer.resolve oneAddress (v4 10 0 0 5) (received unreadable addsSeen)).ip = v4 10 0 0 5 ∧
      (balancer.resolve oneAddress (v4 10 0 0 5) (received spoofing addsSeen)).ip =
        v4 1 2 3 4 := by
  decide

/-- Two requests without a `forwarded` line, one with an address that the client made up. -/
theorem made_up_entry_is_passed :
    let madeUp : ClientSent := ⟨[bytes "6.6.6.6"], some (bytes "1.2.3.4, x"), [], ⟨[]⟩⟩
    (balancer.resolve oneAddress (v4 10 0 0 5) (received honest addsSeen)).ip = v4 203 0 113 9 ∧
      (balancer.resolve oneAddress (v4 10 0 0 5) (received madeUp addsSeen)).ip =
        v4 203 0 113 9 := by
  intro madeUp
  have proxied : balancer.trust oneAddress (v4 10 0 0 5).toCanonical = some .proxy := by decide
  refine (appended_address_wins_iff proxied addsSeen_appends honest madeUp).mpr ⟨?_, ?_⟩
  · exact .inr ⟨by decide, .inl (by simp [ClientSent.readable, honest])⟩
  · refine .inr ⟨by decide, .inl ?_⟩
    intro part isPart
    cases isPart
    decide

end Spoofed

end R3v3rs3.Proxy.Http.ClientIp
