/-
# R3v3rs3.Proxy.Http.ForwardedChain -- the `forwarded` header from one proxy to the next

`preProcess` writes one element for an untrusted peer: its address, the host of the request, quoted
where it has to be, and the protocol.  `rfc7239ForwardedIps` of the next proxy cuts the line at
every comma and every element at every semicolon, quoted or not, and a bracketed address without a
port is no address to it.

So what is read is the address of the peer, if it is an IPv4 address, and then whatever the host
names after its first comma (`forwardedIps_written`).  `forwarded_chain_agrees_iff` says when that
is the peer and nothing else.
-/
import R3v3rs3.Proxy.Http.ClientIp

namespace R3v3rs3.Proxy.Http.ClientIp
open Theory Theory.NetAddr Api.Text HeaderValue
open MultiMap (getAll_remove getAll_removeAll getAll_insert getAll_insertSome)
set_option autoImplicit false

/-! ## What is written -/

/-- The directive of the address. -/
def forText (ip : IpAddr) : List Char :=
  if ip.isIpv6 then "for=\"[".toList ++ ip.display ++ "]\"".toList else "for=".toList ++ ip.display

/-- The directives after the one of the address. -/
def afterFor (host : Option String) (proto : String) : List Char :=
  ((host.bind forwardedHostDirective).map fun directive => directive.toList ++ [';']).getD [] ++
    ("proto=".toList ++ proto.toList)

/-- The element of the peer. -/
def currentHop (ip : IpAddr) (host : Option String) (proto : String) : String :=
  ";".intercalate ([@forwardedForDirective net ip] ++ (host.bind forwardedHostDirective).toList ++
    [forwardedProtoDirective proto])

theorem currentHop_text (ip : IpAddr) (host : Option String) (proto : String) :
    (currentHop ip host proto).toList = forText ip ++ ';' :: afterFor host proto := by
  have address : (@forwardedForDirective net ip).toList = forText ip := by
    unfold forwardedForDirective forText
    split <;> simp
  unfold currentHop
  cases directive : host.bind forwardedHostDirective with
  | none | some =>
    simp [afterFor, directive, forwardedProtoDirective, String.intercalate_cons_cons, address]

/-- The protocols that requests come with: TCP without and with TLS, and QUIC. -/
def forwardedProtos : List String := ["http", "https", "h3"]

/-- A visible character that the reader does not cut at. -/
def plainChar (c : Char) : Bool :=
  33 ≤ c.toNat && c.toNat < 127 && c != ',' && c != ';'

variable {c : Char} {ip : IpAddr} {text : List Char}

theorem plainChar_visible (plain : plainChar c = true) : visibleChar c = true := by
  simp only [plainChar, Bool.and_eq_true, decide_eq_true_eq] at plain
  rw [visibleChar_iff]
  omega

theorem display_plain (member : c ∈ ip.display) : plainChar c = true := by
  have address := IpAddr.display_chars member
  unfold addressChar at address
  rw [Bool.or_eq_true, Bool.or_eq_true, beq_iff_eq, beq_iff_eq] at address
  rcases address with (digit | rfl) | rfl
  · have codes := (isDigit_iff (by decide) (by decide) c).mp digit
    have comma : c ≠ ',' := by
      rintro rfl
      revert digit
      decide
    have semicolon : c ≠ ';' := by
      rintro rfl
      revert digit
      decide
    simp only [plainChar, Bool.and_eq_true, decide_eq_true_eq, bne_iff_ne]
    exact ⟨⟨by omega, comma⟩, semicolon⟩
  · decide
  · decide

theorem plainChar_of_all (all : text.all plainChar = true) (member : c ∈ text) :
    plainChar c = true := List.all_eq_true.mp all c member

theorem forText_plain (member : c ∈ forText ip) : plainChar c = true := by
  unfold forText at member
  split at member
  · simp only [List.mem_append] at member
    rcases member with (front | digits) | back
    · exact plainChar_of_all (by decide) front
    · exact display_plain digits
    · exact plainChar_of_all (by decide) back
  · rcases List.mem_append.mp member with front | digits
    · exact plainChar_of_all (by decide) front
    · exact display_plain digits

theorem printable_of_all (all : (text.all fun c => 32 ≤ c.toNat ∧ c.toNat ≠ 127) = true)
    (member : c ∈ text) :
    32 ≤ c.toNat ∧ c.toNat ≠ 127 := of_decide_eq_true (List.all_eq_true.mp all c member)

/-- A character that a host directive may have. -/
theorem hostDirective_printable {host directive : String}
    (written : forwardedHostDirective host = some directive) (member : c ∈ directive.toList) :
    32 ≤ c.toNat ∧ c.toNat ≠ 127 := by
  unfold forwardedHostDirective at written
  split at written
  · cases written
  · rename_i plain
    rw [not_or, Bool.not_eq_true] at plain
    have ofHost : ∀ c ∈ host.toList, 32 ≤ c.toNat ∧ c.toNat ≠ 127 := by
      intro c inside
      have noControl := List.any_eq_false.mp plain.2 c inside
      simp only [Bool.or_eq_true, decide_eq_true_eq, not_or] at noControl
      omega
    split at written
    · cases written
      simp only [String.toList_append, List.mem_append] at member
      rcases member with front | inside
      · exact printable_of_all (by decide) front
      · exact ofHost c inside
    · cases written
      simp only [String.toList_append, String.toList_ofList, List.mem_append] at member
      rcases member with (front | escaped) | back
      · exact printable_of_all (by decide) front
      · obtain ⟨original, inside, isChar⟩ := List.mem_flatMap.mp escaped
        split at isChar
        · rcases List.mem_cons.mp isChar with rfl | same
          · decide
          · rw [List.mem_singleton.mp same]
            exact ofHost original inside
        · rw [List.mem_singleton.mp isChar]
          exact ofHost original inside
      · exact printable_of_all (by decide) back

/-- The directives have no control characters. -/
theorem afterFor_printable (host : Option String) {proto : String}
    (isProto : proto ∈ forwardedProtos) (member : c ∈ afterFor host proto) :
    32 ≤ c.toNat ∧ c.toNat ≠ 127 := by
  have last : ∀ proto ∈ forwardedProtos, ("proto=".toList ++ proto.toList).all
      (fun c => 32 ≤ c.toNat ∧ c.toNat ≠ 127) = true := by decide
  rcases List.mem_append.mp member with directive | inProto
  · cases written : host.bind forwardedHostDirective with
    | none => simp [written] at directive
    | some =>
      obtain ⟨name, -, isText⟩ := Option.bind_eq_some_iff.mp written
      simp only [written, Option.map_some, Option.getD_some, List.mem_append,
        List.mem_singleton] at directive
      rcases directive with inside | rfl
      · exact hostDirective_printable isText inside
      · decide
  · exact printable_of_all (last proto isProto) inProto

section Written

variable {peer : IpAddr} {host : Option String} {proto : String} {headers : HeaderMap}

theorem written_forwarded (isProto : proto ∈ forwardedProtos) :
    (preProcess (direct peer) host proto headers).getAll "forwarded" =
      [bytes (currentHop peer.toCanonical host proto)] := by
  have written : fromStr (", ".intercalate [currentHop peer.toCanonical host proto]) =
      some (bytes (currentHop peer.toCanonical host proto)) := by
    rw [String.intercalate_singleton]
    apply fromStr_eq_some
    intro c member
    rw [currentHop_text, List.mem_append, List.mem_cons] at member
    rcases member with address | rfl | later
    · have plain := forText_plain address
      simp only [plainChar, Bool.and_eq_true, decide_eq_true_eq] at plain
      omega
    · decide
    · exact afterFor_printable host isProto later
  unfold preProcess
  simp only [direct, Bool.false_eq_true, if_false, if_true, List.map_nil, List.nil_append,
    getAll_insertSome, getAll_insert]
  show (fromStr (", ".intercalate
    [currentHop peer.toCanonical host proto])).elim _ _ = _
  rw [written]
  rfl

theorem written_forwardedFor :
    (preProcess (direct peer) host proto headers).getAll "x-forwarded-for" =
      [bytes (String.ofList peer.toCanonical.display)] := by
  have written : fromStr (", ".intercalate [String.ofList peer.toCanonical.display]) =
      some (bytes (String.ofList peer.toCanonical.display)) := by
    rw [String.intercalate_singleton]
    apply fromStr_eq_some
    intro c member
    rw [String.toList_ofList] at member
    have plain := display_plain member
    simp only [plainChar, Bool.and_eq_true, decide_eq_true_eq] at plain
    omega
  unfold preProcess
  simp only [direct, Bool.false_eq_true, if_false, List.map_cons, List.map_nil, List.nil_append,
    getAll_insertSome, getAll_insert]
  rw [if_neg (by decide), if_neg (by decide), if_pos trivial, written]
  rfl

/-- The headers of the content networks are gone. -/
theorem written_provider (provider : CdnProvider) :
    providerHeaderIp provider (preProcess (direct peer) host proto headers) = none := by
  have gone : ∀ name ∈ ["cf-connecting-ip", "x-real-ip", "cloudfront-viewer-address"],
      headerIp (preProcess (direct peer) host proto headers) name = none := by
    intro name listed
    have apart : name ≠ "x-forwarded-host" ∧ name ≠ "x-forwarded-proto" ∧
        name ≠ "x-forwarded-for" ∧ name ≠ "forwarded" ∧ name ∈ clientIpHeaders := by
      revert name
      decide
    have none : (preProcess (direct peer) host proto headers).getAll name = [] := by
      unfold preProcess
      simp only [getAll_insertSome, getAll_insert, if_neg apart.1, if_neg apart.2.1,
        if_neg apart.2.2.1, if_neg apart.2.2.2.1]
      simp [withoutClientAddress, direct, getAll_removeAll, apart.2.2.2.2]
    simp [headerIp, MultiMap.get, none]
  cases provider with
  | cloudflare | bunny | cloudfront => exact gone _ (by decide)
  | fastly | gcore | keycdn | imperva | googleCloud => rfl

end Written

/-! ## What is read -/

theorem trimChars_eq_self (solid : ∀ c ∈ text, isWhitespace c = false) :
    trimChars text = text := by
  have stays : ∀ text : List Char, (∀ c ∈ text, isWhitespace c = false) →
      text.dropWhile isWhitespace = text := by
    intro text solid
    cases text <;> simp_all
  rw [trimChars, stays text solid, stays text.reverse (by simpa using solid),
    List.reverse_reverse]

theorem plainChar_solid (plain : plainChar c = true) : isWhitespace c = false := by
  simp only [plainChar, Bool.and_eq_true, decide_eq_true_eq] at plain
  simp only [isWhitespace, Bool.or_eq_false_iff, Bool.and_eq_false_iff,
    decide_eq_false_iff_not]
  omega

theorem parseForwardedIp_display (canonical : ip.toCanonical = ip) :
    parseForwardedIp ip.display = some ip := by
  have trimmed : trimChars ip.display = ip.display :=
    trimChars_eq_self fun c member => plainChar_solid (display_plain member)
  simp only [parseForwardedIp, trimmed, parse_display canonical, canonical]

theorem parseDigits_all {bound value : Nat} {n : Nat}
    (read : parseDigits bound value text = some n) : ∀ c ∈ text, c ≠ ']' := by
  induction text generalizing value with
  | nil => simp
  | cons c rest ih =>
    unfold parseDigits at read
    split at read
    · cases read
    · rename_i d isDigit
      split at read
      · intro other member
        rcases List.mem_cons.mp member with rfl | later
        · rintro rfl
          simp [digit] at isDigit
        · exact ih read other later
      · cases read

theorem parseUnsigned_bracket {bound : Nat} {text : List Char} (member : ']' ∈ text) :
    parseUnsigned bound text = none := by
  cases read : parseUnsigned bound text with
  | none => rfl
  | some =>
    exfalso
    unfold parseUnsigned at read
    split at read
    · cases read
    · cases read
    · rename_i digits notAlone
      exact parseDigits_all read ']' (by simpa using member) rfl
    · exact parseDigits_all read ']' member rfl

/-- The part after the last colon ends as the text does. -/
theorem rsplitOnce_bracket {front address port : List Char}
    (cut : rsplitOnce ':' (front ++ [']']) = some (address, port)) : ']' ∈ port := by
  obtain ⟨parts, isParts, same⟩ := Option.map_eq_some_iff.mp cut
  rw [List.reverse_append, List.reverse_singleton, List.singleton_append, splitOnce,
    if_neg (by decide)] at isParts
  obtain ⟨rest, -, rfl⟩ := Option.map_eq_some_iff.mp isParts
  cases same
  simp

/-- An address in brackets and without a port is not read. -/
theorem parseForwardedIp_brackets (solid : ∀ c ∈ text, isWhitespace c = false) :
    parseForwardedIp (('[' :: text) ++ [']']) = none := by
  have trimmed : trimChars (('[' :: text) ++ [']']) = ('[' :: text) ++ [']'] := by
    apply trimChars_eq_self
    intro c member
    simp only [List.mem_append, List.mem_cons, List.not_mem_nil, or_false] at member
    rcases member with (rfl | inside) | rfl
    · decide
    · exact solid c inside
    · decide
  have noSocket : parseSocket (('[' :: text) ++ [']']) = none := by
    cases read : parseSocket (('[' :: text) ++ [']']) with
    | none => rfl
    | some =>
      obtain ⟨c, isLast, digit⟩ := socket_ends_with_digit read
      rw [List.getLast?_concat] at isLast
      cases isLast
      exact absurd digit (by decide)
  have noAddress : IpAddr.parse (('[' :: text) ++ [']']) = none := parse_bracket _
  unfold parseForwardedIp
  simp only [trimmed, noAddress, noSocket]
  cases cut : rsplitOnce ':' (('[' :: text) ++ [']']) with
  | none => rfl
  | some =>
    simp [parseUnsigned_bracket (rsplitOnce_bracket cut)]

/-! ## The elements of the line -/

theorem split_plain_append {separator : Char} {front : List Char} (plain : separator ∉ front)
    (text : List Char) :
    split separator (front ++ text) =
      (front ++ (split separator text).headD []) ::
        (split separator text).tail := by
  induction front with
  | nil =>
    have some : split separator text ≠ [] := List.splitOn_ne_nil _ _
    cases parts : split separator text with
    | nil => exact absurd parts some
    | cons => simp [parts]
  | cons c front ih =>
    rw [List.mem_cons, not_or] at plain
    have other : (c == separator) = false := by simpa using Ne.symm plain.1
    have step : split separator (c :: (front ++ text)) =
        (split separator (front ++ text)).modifyHead (List.cons c) := by
      rw [split, List.splitOn_cons_eq_if_modifyHead, if_neg (by simp [other])]
      rfl
    rw [List.cons_append, step, ih plain.2]
    rfl

/-- The addresses that the host names after its first comma. -/
def injected (host : Option String) (proto : String) : List IpAddr :=
  (Api.Text.split ',' (afterFor host proto)).tail.filterMap elementIp

/-- The directives are visible ASCII. -/
def readable (host : Option String) (proto : String) : Bool :=
  (afterFor host proto).all HeaderValue.visibleChar

theorem unquote_plain (plain : '"' ∉ text) : unquote text = text := by
  have none : stripStart ['"'] text = none := by
    cases text with
    | nil => rfl
    | cons =>
      rw [List.mem_cons, not_or] at plain
      simp [stripStart, plain.1]
  rw [unquote, none]
  rfl

theorem unquote_quoted (text : List Char) : unquote (('"' :: text) ++ ['"']) = text := by
  simp [unquote, stripStart, stripEnd]

/-- What the reader takes from the element of the peer. -/
theorem elementIp_first (canonical : ip.toCanonical = ip) (rest : List Char) :
    elementIp (forText ip ++ ';' :: rest) = if ip.isIpv6 then none else some ip := by
  have plain : ∀ c ∈ forText ip, plainChar c = true :=
    fun c member => forText_plain member
  have whole : split ';' (forText ip) = [forText ip] := by
    apply List.splitOn_eq_singleton
    intro member
    exact absurd (plain ';' member) (by decide)
  have trimmed : trimChars (forText ip) = forText ip :=
    trimChars_eq_self fun c member => plainChar_solid (plain c member)
  have isFor : isForDirective (forText ip) = true := by
    unfold isForDirective
    rw [trimmed]
    unfold forText
    split <;> simp <;> decide
  have found : (split ';' (forText ip ++ ';' :: rest)).find? isForDirective =
      some (forText ip) := by
    rw [split_append, whole, List.singleton_append, List.find?_cons_of_pos isFor]
  unfold elementIp
  simp only [found, Option.bind_eq_bind, Option.bind_some, trimmed]
  have solid : ∀ c ∈ ip.display, isWhitespace c = false :=
    fun c member => plainChar_solid (display_plain member)
  cases isV6 : ip.isIpv6 with
  | false =>
    have value : (forText ip).drop 4 = ip.display := by simp [forText, isV6]
    have noQuote : '"' ∉ ip.display := fun member =>
      absurd (IpAddr.display_chars member) (by decide)
    rw [value, trimChars_eq_self solid, unquote_plain noQuote, parseForwardedIp_display canonical]
    rfl
  | true =>
    have value : (forText ip).drop 4 = ('"' :: ('[' :: ip.display ++ [']'])) ++ ['"'] := by
      simp [forText, isV6]
    have stays : trimChars ((forText ip).drop 4) = (forText ip).drop 4 :=
      trimChars_eq_self fun c member => plainChar_solid (plain c (List.mem_of_mem_drop member))
    rw [stays, value, unquote_quoted, parseForwardedIp_brackets solid]
    rfl

/-- **What the next proxy reads**: the peer, if it has an IPv4 address, and then what the host
names. -/
theorem forwardedIps_written {peer : IpAddr} {host : Option String} {proto : String}
    {headers : HeaderMap} (isProto : proto ∈ forwardedProtos) :
    rfc7239ForwardedIps ((preProcess (direct peer) host proto headers).getAll "forwarded") =
      if readable host proto then
        (if peer.toCanonical.isIpv6 then [] else [peer.toCanonical]) ++ injected host proto
      else [] := by
  have canonical := IpAddr.toCanonical_idem peer
  have plain : ∀ c ∈ forText peer.toCanonical, plainChar c = true :=
    fun c member => forText_plain member
  have address : (forText peer.toCanonical).all visibleChar = true := by
    rw [List.all_eq_true]
    exact fun c member => plainChar_visible (plain c member)
  have visible : (currentHop peer.toCanonical host proto).toList.all visibleChar =
      readable host proto := by
    have semicolon : visibleChar ';' = true := by decide
    rw [currentHop_text, List.all_append, List.all_cons, address, semicolon, Bool.true_and,
      Bool.true_and, readable]
  have noComma : ',' ∉ forText peer.toCanonical ++ [';'] := by
    rw [List.mem_append, List.mem_singleton, not_or]
    exact ⟨fun member => absurd (plain ',' member) (by decide), by decide⟩
  rw [written_forwarded isProto, rfc7239ForwardedIps, lineItems, List.filterMap_cons,
    toStr_bytes, visible]
  cases readable host proto with
  | false => rfl
  | true =>
    have text : forText peer.toCanonical ++ ';' :: afterFor host proto =
        (forText peer.toCanonical ++ [';']) ++ afterFor host proto := by simp
    rw [if_pos rfl, if_pos rfl, List.filterMap_nil, List.flatMap_cons, List.flatMap_nil,
      List.append_nil, currentHop_text, text, split_plain_append noComma, List.append_assoc,
      List.singleton_append, List.filterMap_cons, elementIp_first canonical, injected]
    cases peer.toCanonical.isIpv6 <;> rfl

/-- The address that the next proxy reads from `x-forwarded-for`. -/
theorem forwardedForEntries_written {peer : IpAddr} {host : Option String} {proto : String}
    {headers : HeaderMap} :
    forwardedForEntries ((preProcess (direct peer) host proto headers).getAll "x-forwarded-for") =
      [peer.toCanonical] := by
  have canonical := IpAddr.toCanonical_idem peer
  have plain : ∀ c ∈ peer.toCanonical.display, plainChar c = true :=
    fun c member => display_plain member
  have visible : peer.toCanonical.display.all visibleChar = true := by
    rw [List.all_eq_true]
    exact fun c member => plainChar_visible (plain c member)
  have whole : split ',' peer.toCanonical.display = [peer.toCanonical.display] := by
    apply List.splitOn_eq_singleton
    intro member
    exact absurd (plain ',' member) (by decide)
  have line : toStr (bytes (String.ofList peer.toCanonical.display)) =
      some peer.toCanonical.display := by
    rw [toStr_bytes, String.toList_ofList, visible, if_pos rfl]
  rw [written_forwardedFor, forwardedForEntries, lineItems, List.filterMap_cons, line]
  simp [whole, parseForwardedIp_display canonical]

/-! ## Two proxies -/

section Chain

variable {Net NextNet : Type} {nets : Networks Net} {nextNets : Networks NextNet}

/-- What the next proxy finds, given what it reads from `forwarded`. -/
theorem resolve_written {next : ClientIpResolver NextNet} {proxy peer : IpAddr} {trust : Trust}
    {host : Option String} {proto : String} {headers : HeaderMap}
    (trusted : next.trust nextNets proxy.toCanonical = some trust)
    (agrees : rfc7239ForwardedIps
      ((preProcess (direct peer) host proto headers).getAll "forwarded") = [peer.toCanonical]) :
    (next.resolve nextNets proxy (preProcess (direct peer) host proto headers)).ip =
      if trust = .proxy then peer.toCanonical else proxy.toCanonical := by
  unfold ClientIpResolver.resolve
  rw [trusted]
  cases trust with
  | cdn => simp [written_provider]
  | proxy =>
    have chain : ClientIpResolver.chain (preProcess (direct peer) host proto headers) =
        [peer.toCanonical, peer.toCanonical] := by
      rw [ClientIpResolver.chain, forwardedForEntries_written, agrees]
      rfl
    have found : next.forwardedForIp nextNets (preProcess (direct peer) host proto headers) =
        some peer.toCanonical := by
      unfold ClientIpResolver.forwardedForIp
      rw [chain]
      cases isTrusted : next.trust nextNets peer.toCanonical with
      | none | some => simp [ClientIpResolver.lastUntrusted, isTrusted]
    simp [found]

/-- **The proxy behind another agrees with it about an untrusted peer**: it reads that peer and
nobody else from `forwarded` and takes it for the client, if and only if it trusts the other by its
list of proxies, or the other is the peer, the host is visible ASCII, and after the first comma the
host names nobody; of a peer with an IPv6 address only the host can tell. -/
theorem forwarded_chain_agrees_iff (first : ClientIpResolver Net) (next : ClientIpResolver NextNet)
    (peer proxy : IpAddr) (trust : Trust) (host : Option String) (proto : String)
    (headers : HeaderMap) (isProto : proto ∈ forwardedProtos)
    (untrusted : first.trust nets peer.toCanonical = none)
    (trusted : next.trust nextNets proxy.toCanonical = some trust) :
    let passed := preProcess (first.resolve nets peer headers) host proto headers
    (rfc7239ForwardedIps (passed.getAll "forwarded") = [peer.toCanonical] ∧
        (next.resolve nextNets proxy passed).ip = peer.toCanonical) ↔
      (trust = .proxy ∨ proxy.toCanonical = peer.toCanonical) ∧ readable host proto = true ∧
        injected host proto = if peer.toCanonical.isIpv6 then [peer.toCanonical] else [] := by
  have isDirect : first.resolve nets peer headers = direct peer := by
    simp only [ClientIpResolver.resolve, untrusted]
  have names : rfc7239ForwardedIps
        ((preProcess (direct peer) host proto headers).getAll "forwarded") = [peer.toCanonical] ↔
      readable host proto = true ∧
        injected host proto = if peer.toCanonical.isIpv6 then [peer.toCanonical] else [] := by
    rw [forwardedIps_written isProto]
    cases readable host proto with
    | false => simp
    | true => cases peer.toCanonical.isIpv6 <;> simp
  intro passed
  have isPassed : passed = preProcess (direct peer) host proto headers := by
    simp only [passed, isDirect]
  rw [isPassed]
  constructor
  · rintro ⟨agrees, resolved⟩
    rw [resolve_written trusted agrees] at resolved
    refine ⟨?_, names.mp agrees⟩
    split at resolved
    · rename_i isProxy
      exact .inl isProxy
    · exact .inr resolved
  · rintro ⟨isProxy, named⟩
    have agrees := names.mpr named
    refine ⟨agrees, ?_⟩
    rw [resolve_written trusted agrees]
    split
    · rfl
    · rename_i other
      exact isProxy.resolve_left other

def trustsNobody : ClientIpResolver IpAddr := ⟨false, []⟩

theorem resolve_trustsNobody (peer : IpAddr) (headers : HeaderMap) :
    trustsNobody.resolve oneAddress peer headers = direct peer := rfl

/-- An IPv4 peer that asks for a plain host. -/
theorem plain_host_agrees :
    let passed := preProcess (trustsNobody.resolve oneAddress (v4 203 0 113 9) ⟨[]⟩)
      (some "example.com") "https" ⟨[]⟩
    rfc7239ForwardedIps (passed.getAll "forwarded") = [v4 203 0 113 9] ∧
      (balancer.resolve oneAddress (v4 10 0 0 5) passed).ip = v4 203 0 113 9 :=
  (forwarded_chain_agrees_iff trustsNobody balancer (v4 203 0 113 9) (v4 10 0 0 5) .proxy
    (some "example.com") "https" ⟨[]⟩ (by decide) (by decide) (by decide)).mpr
      ⟨.inl rfl, by decide, by decide⟩

/-- **The host chooses the address**, quoted as it is, and a peer with an IPv6 address is not read
at all. -/
theorem quoted_host_names_a_client :
    let fromV4 := preProcess (trustsNobody.resolve oneAddress (v4 203 0 113 9) ⟨[]⟩)
      (some "evil,for=1.2.3.4;x") "https" ⟨[]⟩
    let fromV6 := preProcess (trustsNobody.resolve oneAddress
      (.v6 ⟨[0x2001, 0xdb8, 0, 0, 0, 0, 0, 1], rfl⟩) ⟨[]⟩) (some "example.com") "https" ⟨[]⟩
    rfc7239ForwardedIps (fromV4.getAll "forwarded") = [v4 203 0 113 9, v4 1 2 3 4] ∧
      (balancer.resolve oneAddress (v4 10 0 0 5) fromV4).ip = v4 1 2 3 4 ∧
      rfc7239ForwardedIps (fromV6.getAll "forwarded") = [] := by
  rw [resolve_trustsNobody, resolve_trustsNobody]
  intro fromV4 fromV6
  refine ⟨?_, ?_, ?_⟩
  · rw [forwardedIps_written (by decide)]
    decide
  · decide
  · rw [forwardedIps_written (by decide)]
    decide

end Chain

end R3v3rs3.Proxy.Http.ClientIp
