/-
# R3v3rs3.Proxy.Http.Routes -- which route takes a request

`getRoute` goes through the routes of a port once and keeps the first one of the highest rank.  A
route ranks by the most specific of its virtual hosts that accepts the host of the request, then by
the number of its path segments; it has no rank when it does not take the request.

`get_route_spec` is the rule that the search follows, said without the search: a route is found
exactly when one takes the request, it is the first of the most specific ones, and what is left of
the path is what follows the segments of the route.  `test_iff_means` says which hosts a virtual host
accepts: those its text stands for, except for IPv6 addresses, texts with more than one `*.`, and
hosts with an empty label before the domain of a wildcard.
`same_route_iff` compares two paths: a segment is compared as it is spelled, so a letter that is
percent-encoded leads to another route unless a route that takes both spellings comes first.
-/
import Mathlib
import R3v3rs3.Proxy.Http.Fronting
import R3v3rs3.Theory.NetAddr
import R3v3rs3.Theory.StableSort

namespace R3v3rs3.Proxy.Http.Routes
open Api Theory Theory.StableSort
open Theory.UrlPath (Segment encodeByte)
open Proxy.Http.UpstreamUrl (normalizePath requestSegments)
set_option autoImplicit false

/-! ## Virtual hosts -/

inductive SubjectName where
  | dnsName (name : List Char)
  | wildcardDnsName (name : List Char)
  | ipAddress (addr : NetAddr.IpAddr)

def SubjectName.test (subject : SubjectName) (name : List Char) : Bool :=
  match subject with
  | .dnsName own => eqIgnoreAsciiCase own name
  | .wildcardDnsName own =>
    -- the first label is cut off, with every dot after it
    eqIgnoreAsciiCase own ((name.dropWhile (· ≠ '.')).dropWhile (· = '.'))
  | .ipAddress addr => eqIgnoreAsciiCase name addr.display

/-- A virtual host; a regular expression is known by what it matches. -/
inductive VirtualHost where
  | subjectName (subject : SubjectName)
  | regex (isMatch : List Char → Bool)

def VirtualHost.test (vhost : VirtualHost) (name : List Char) : Bool :=
  match vhost with
  | .subjectName subject => subject.test name
  | .regex isMatch => isMatch name

/-! ## What a virtual host stands for -/

section Subject

/-! Which texts the TLS library takes for the name of a server. -/
variable (isServerName : List Char → Bool)

/-- `trim_start_matches("*.")`: every leading one goes. -/
def trimWildcards : List Char → List Char
  | '*' :: '.' :: rest => trimWildcards rest
  | text => text

/-- `SubjectName::from_str`; the error has the text. -/
def SubjectName.fromStr (text : List Char) : Except (List Char) SubjectName :=
  if isServerName (text.map fun c => if c = '*' then 'a' else c) then
    let name := trimWildcards text
    match NetAddr.IpAddr.parse name, Text.stripStart ['*', '.'] text with
    | some addr, _ => .ok (.ipAddress addr)
    | none, some _ => .ok (.wildcardDnsName name)
    | none, none => .ok (.dnsName name)
  else .error text

/-- An address as the `host` header has it. -/
def hostOf : NetAddr.IpAddr → List Char
  | .v4 addr => addr.display
  | .v6 addr => '[' :: addr.display ++ [']']

/-- The hosts that the text of a virtual host stands for. -/
def Means (text host : List Char) : Prop :=
  match Text.stripStart ['*', '.'] text with
  | some domain =>
    ∃ label, label ≠ [] ∧ '.' ∉ label ∧ eqIgnoreAsciiCase (label ++ '.' :: domain) host = true
  | none =>
    eqIgnoreAsciiCase (((NetAddr.IpAddr.parse text).map hostOf).getD text) host = true

/-- The hosts that a virtual host is tested for as its text says.
* A name and an IPv4 address: every host.
* An IPv6 address: the hosts that are neither meant nor the address without brackets.
* An address after `*.`, which is cut off: the hosts that are meant and are the address, or neither.
* A wildcard: the text has one `*.` where the host is meant, and a host with the name behind its first
  label has a label that is not empty and one dot before the name. -/
def Fits (text host : List Char) : Prop :=
  let name := trimWildcards text
  match Text.stripStart ['*', '.'] text, NetAddr.IpAddr.parse name with
  | none, none => True
  | none, some addr =>
    addr.isIpv6 = true → ¬ Means text host ∧ eqIgnoreAsciiCase addr.display host = false
  | some _, some addr => eqIgnoreAsciiCase addr.display host = true ↔ Means text host
  | some domain, none =>
    (Means text host → name = domain ∧ domain.head? ≠ some '.') ∧
      (name = [] → '.' ∈ host) ∧
      ∀ label dots rest, '.' ∉ label → rest.head? ≠ some '.' →
        eqIgnoreAsciiCase name rest = true →
        host = label ++ '.' :: (List.replicate dots '.' ++ rest) →
        name = domain ∧ label ≠ [] ∧ dots = 0

variable {isServerName} {text host domain header port : List Char} {subject : SubjectName}

variable {label rest : List Char}

theorem toLower_eq_dot_iff (c : Char) : c.toLower = '.' ↔ c = '.' := by
  refine ⟨fun dot => ?_, by rintro rfl; rfl⟩
  have upper : ¬ c.isUpper := by
    intro upper
    have letter := Char.isAlpha_toLower_eq_isAlpha c
    simp [dot, Char.isAlpha, upper] at letter
  rwa [Char.toLower_eq_of_not_isUpper upper] at dot

theorem dropWhile_label (plain : '.' ∉ label) :
    (label ++ '.' :: rest).dropWhile (· ≠ '.') = '.' :: rest := by
  rw [List.dropWhile_append_of_pos (by grind)]
  rfl

theorem dropWhile_lower (plain : '.' ∉ label) :
    ((label ++ '.' :: rest).map Char.toLower).dropWhile (· ≠ '.') = '.' :: rest.map Char.toLower := by
  rw [List.map_append, List.map_cons]
  exact dropWhile_label (by simpa [toLower_eq_dot_iff] using plain)

/-- A host with a dot has a first label, dots and a rest. -/
theorem exists_label_dots (dotted : '.' ∈ host) :
    ∃ label dots rest, '.' ∉ label ∧ rest.head? ≠ some '.' ∧
      host = label ++ '.' :: (List.replicate dots '.' ++ rest) := by
  obtain ⟨label, behind, rfl, plain⟩ := List.eq_append_cons_of_mem dotted
  have dots : behind.takeWhile (· = '.') = List.replicate (behind.takeWhile (· = '.')).length '.' :=
    List.eq_replicate_of_mem fun c member => by simpa using List.mem_takeWhile_imp member
  refine ⟨label, (behind.takeWhile (· = '.')).length, behind.dropWhile (· = '.'), plain, ?_, ?_⟩
  · intro first
    have stops := List.head?_dropWhile_not (· = '.') behind
    simp [first] at stops
  · rw [← dots, List.takeWhile_append_dropWhile]

theorem lower_head?_eq_dot (text : List Char) :
    (text.map Char.toLower).head? = some '.' ↔ text.head? = some '.' := by
  cases text <;> simp [toLower_eq_dot_iff]

/-- The name is all of the text, or the text starts with a star and is longer. -/
theorem trimWildcards_cases (text : List Char) :
    trimWildcards text = text ∨
      text.head? = some '*' ∧ (trimWildcards text).length < text.length := by
  fun_induction trimWildcards text with
  | case1 rest ih =>
    refine .inr ⟨rfl, ?_⟩
    rcases ih with same | ⟨-, shorter⟩
    · simp [same]
    · simp only [List.length_cons]
      omega
  | case2 => exact .inl rfl

theorem trimWildcards_eq_self (single : Text.stripStart ['*', '.'] text = none) :
    trimWildcards text = text := by
  unfold trimWildcards
  split
  · simp [Text.stripStart] at single
  · rfl

theorem stripStart_wildcard :
    Text.stripStart ['*', '.'] text = some domain ↔ text = '*' :: '.' :: domain := by
  rcases text with _ | ⟨first, _ | ⟨second, rest⟩⟩
  · simp [Text.stripStart]
  · simp [Text.stripStart]
  · simp only [Text.stripStart]
    grind

/-- The dots before a name are those of the text, so the text has none but the one of `*.`. -/
theorem single_of_both {dots : Nat} (start : rest.head? ≠ some '.')
    (meant : domain.map Char.toLower = (List.replicate dots '.' ++ rest).map Char.toLower)
    (tested : (trimWildcards domain).map Char.toLower = rest.map Char.toLower) :
    trimWildcards domain = domain ∧ domain.head? ≠ some '.' ∧ dots = 0 := by
  have long := congrArg List.length meant
  have short := congrArg List.length tested
  simp only [List.length_map, List.length_append, List.length_replicate] at long short
  have noDots : dots = 0 := by
    rcases trimWildcards_cases domain with same | ⟨star, -⟩
    · rw [same] at short
      omega
    · cases dots with
      | zero => rfl
      | succ =>
        have heads := congrArg List.head? meant
        rw [List.head?_map, star] at heads
        simp [List.replicate_succ] at heads
  subst noDots
  refine ⟨?_, ?_, rfl⟩
  · rcases trimWildcards_cases domain with same | ⟨-, shorter⟩
    · exact same
    · omega
  · rw [ne_eq, ← lower_head?_eq_dot, meant, lower_head?_eq_dot]
    exact start

/-- A wildcard stands for the hosts that have its domain behind a label. -/
theorem exists_label_iff {behind : List Char} (plain : '.' ∉ label) :
    (∃ own, own ≠ [] ∧ '.' ∉ own ∧
      eqIgnoreAsciiCase (own ++ '.' :: domain) (label ++ '.' :: behind) = true) ↔
        label ≠ [] ∧ domain.map Char.toLower = behind.map Char.toLower := by
  simp only [eqIgnoreAsciiCase, decide_eq_true_iff]
  constructor
  · rintro ⟨own, filled, ownPlain, same⟩
    have cut := congrArg (List.dropWhile (· ≠ '.')) same
    rw [dropWhile_lower ownPlain, dropWhile_lower plain] at cut
    have behindSame := (List.cons.inj cut).2
    refine ⟨?_, behindSame⟩
    rintro rfl
    have lengths := congrArg List.length same
    have ends := congrArg List.length behindSame
    have some := List.length_pos_of_ne_nil filled
    simp only [List.length_map, List.length_append, List.length_cons, List.length_nil] at lengths ends
    omega
  · rintro ⟨filled, same⟩
    exact ⟨label, filled, plain, by simp [same]⟩

/-- What a wildcard is compared with is what stands behind the first label and the dots after it. -/
theorem wildcard_test {dots : Nat} (plain : '.' ∉ label) (start : rest.head? ≠ some '.') :
    (SubjectName.wildcardDnsName domain).test (label ++ '.' :: (List.replicate dots '.' ++ rest)) =
      eqIgnoreAsciiCase domain rest := by
  have behind : ('.' :: (List.replicate dots '.' ++ rest)).dropWhile (· = '.') = rest := by
    rw [← List.cons_append, List.dropWhile_append_of_pos (by simp)]
    cases rest <;> simp_all
  rw [SubjectName.test, dropWhile_label plain, behind]

theorem wildcard_test_undotted (undotted : '.' ∉ host) :
    (SubjectName.wildcardDnsName domain).test host = eqIgnoreAsciiCase domain [] := by
  have behind : host.dropWhile (· ≠ '.') = [] := by
    rw [List.dropWhile_eq_nil_iff]
    grind
  rw [SubjectName.test, behind]
  rfl

theorem dotted_of_means (meant : ∃ label, label ≠ [] ∧ '.' ∉ label ∧
    eqIgnoreAsciiCase (label ++ '.' :: domain) host = true) : '.' ∈ host := by
  obtain ⟨label, -, -, same⟩ := meant
  have dot : '.' ∈ host.map Char.toLower := by
    rw [← of_decide_eq_true same]
    simp [toLower_eq_dot_iff]
  simpa [toLower_eq_dot_iff] using dot

/-- A wildcard is tested for what it stands for, if and only if the host fits. -/
theorem wildcard_agrees_iff (wild : Text.stripStart ['*', '.'] text = some domain)
    (noAddress : NetAddr.IpAddr.parse (trimWildcards text) = none) (host : List Char) :
    ((SubjectName.wildcardDnsName (trimWildcards text)).test host = true ↔ Means text host) ↔
      Fits text host := by
  have name : trimWildcards text = trimWildcards domain := by
    rw [stripStart_wildcard.mp wild, trimWildcards]
  simp only [Fits, wild, noAddress, Means]
  rw [name]
  constructor
  · intro agree
    refine ⟨fun meant => ?_, fun none => ?_, ?_⟩
    · have tested := agree.mpr meant
      obtain ⟨label, dots, rest, plain, start, rfl⟩ := exists_label_dots (dotted_of_means meant)
      rw [wildcard_test plain start] at tested
      obtain ⟨-, same⟩ := (exists_label_iff plain).mp meant
      obtain ⟨single, head, -⟩ := single_of_both start same (of_decide_eq_true tested)
      exact ⟨single, head⟩
    · by_contra undotted
      exact undotted (dotted_of_means (agree.mp (by rw [wildcard_test_undotted undotted, none]; rfl)))
    · rintro label dots rest plain start tested rfl
      rw [wildcard_test plain start, exists_label_iff plain] at agree
      obtain ⟨filled, same⟩ := agree.mp tested
      obtain ⟨single, -, one⟩ := single_of_both start same (of_decide_eq_true tested)
      exact ⟨single, filled, one⟩
  · rintro ⟨single, undotted, spread⟩
    constructor
    · intro tested
      by_cases dotted : '.' ∈ host
      · obtain ⟨label, dots, rest, plain, start, rfl⟩ := exists_label_dots dotted
        rw [wildcard_test plain start] at tested
        obtain ⟨same, filled, rfl⟩ := spread label dots rest plain start tested rfl
        rw [same] at tested
        exact (exists_label_iff plain).mpr ⟨filled, of_decide_eq_true tested⟩
      · rw [wildcard_test_undotted dotted] at tested
        exact absurd (undotted (List.map_eq_nil_iff.mp (of_decide_eq_true tested))) dotted
    · intro meant
      obtain ⟨same, head⟩ := single meant
      obtain ⟨label, dots, rest, plain, start, rfl⟩ := exists_label_dots (dotted_of_means meant)
      obtain ⟨-, ends⟩ := (exists_label_iff plain).mp meant
      cases dots with
      | zero =>
        rw [wildcard_test plain start, same]
        exact decide_eq_true ends
      | succ =>
        rw [ne_eq, ← lower_head?_eq_dot, ends] at head
        exact absurd rfl head

/-- The `host` header of an address gives the address, with a port or without. -/
theorem splitHostPort_hostOf (addr : NetAddr.IpAddr) (ends : ∀ c ∈ port.head?, c = ':') :
    Fronting.splitHostPort (hostOf addr ++ port) = some (hostOf addr) := by
  have away : ∀ c, NetAddr.addressChar c = false → c ∉ addr.display := fun c other member =>
    absurd (NetAddr.IpAddr.display_chars member) (by simp [other])
  cases addr with
  | v6 addr =>
    have open' : ∀ c ∈ '[' :: addr.display, decide (c ≠ ']') = true := by
      rintro c member
      have other := away ']' (by decide)
      grind [NetAddr.IpAddr.display]
    have whole : hostOf (.v6 addr) ++ port = ('[' :: addr.display) ++ ']' :: port := by
      simp [hostOf]
    have taken : (hostOf (.v6 addr) ++ port).takeWhile (· ≠ ']') = '[' :: addr.display := by
      rw [whole, List.takeWhile_append_of_pos open']
      simp
    have closed : ']' ∈ hostOf (.v6 addr) ++ port := by simp [hostOf]
    rw [Fronting.splitHostPort, if_neg (by simp [hostOf]), if_pos (by simp [hostOf]),
      Fronting.throughBracket, if_pos closed, taken]
    rfl
  | v4 addr =>
    have noColon : ':' ∉ addr.display := fun member => absurd (addr.display_chars member) (by decide)
    have filled : addr.display ≠ [] := by simp [NetAddr.Ipv4Addr.display]
    have start : (addr.display ++ port).head? ≠ some '[' := by
      rw [List.head?_append_of_ne_nil _ filled]
      exact fun first => away '[' (by decide) (List.mem_of_head? first)
    rw [hostOf, Fronting.splitHostPort, if_neg (by simp [filled]), if_neg start]
    have name := List.splitOn_eq_singleton noColon
    cases port with
    | nil => rw [List.append_nil, Text.split, name, List.head?_cons]
    | cons c rest =>
      rw [ends c rfl, Text.split_append, Text.split, name]
      rfl

theorem bracketed_ne_display (addr : NetAddr.Ipv6Addr) :
    (hostOf (.v6 addr)).map Char.toLower ≠ addr.display.map Char.toLower := by
  intro same
  have lengths := congrArg List.length same
  simp only [hostOf, List.length_map, List.length_append, List.length_cons] at lengths
  omega

/-- An address is tested for what its text stands for, if and only if the host fits. -/
theorem address_agrees_iff {addr : NetAddr.IpAddr}
    (parsed : NetAddr.IpAddr.parse (trimWildcards text) = some addr) (host : List Char) :
    ((SubjectName.ipAddress addr).test host = true ↔ Means text host) ↔ Fits text host := by
  rw [SubjectName.test, Fronting.eqIgnoreAsciiCase_comm host]
  unfold Fits
  dsimp only
  rw [parsed]
  cases wild : Text.stripStart ['*', '.'] text with
  | some => exact Iff.rfl
  | none =>
    rw [trimWildcards_eq_self wild] at parsed
    cases addr with
    | v4 => simp [Means, wild, parsed, hostOf, NetAddr.IpAddr.isIpv6, NetAddr.IpAddr.display]
    | v6 addr =>
      simp only [NetAddr.IpAddr.isIpv6, forall_const, Means, wild, parsed, Option.map_some,
        Option.getD_some]
      have apart : eqIgnoreAsciiCase addr.display host = true →
          ¬ eqIgnoreAsciiCase (hostOf (.v6 addr)) host = true := fun tested meant =>
        bracketed_ne_display addr ((of_decide_eq_true meant).trans (of_decide_eq_true tested).symm)
      rw [NetAddr.IpAddr.display, ← Bool.not_eq_true (eqIgnoreAsciiCase addr.display host)]
      tauto

end Subject

/-! ## Ranks -/

/-- How a virtual host of a route accepts the host of a request.  A later one is more specific. -/
inductive HostMatch where
  | any
  | regex
  | wildcard
  | exact
  deriving DecidableEq

namespace HostMatch

def level : HostMatch → Nat
  | .any => 0
  | .regex => 1
  | .wildcard => 2
  | .exact => 3

theorem level_injective : Function.Injective level := by
  intro a b
  cases a <;> cases b <;> decide

instance : LinearOrder HostMatch := LinearOrder.lift' level level_injective

end HostMatch

def vhostMatch : VirtualHost → HostMatch
  | .subjectName (.wildcardDnsName _) => .wildcard
  | .subjectName _ => .exact
  | .regex _ => .regex

structure MatchRank where
  host : HostMatch
  pathSegments : Nat

namespace MatchRank

/-- The derived order: the host first, then the path. -/
def key (rank : MatchRank) : HostMatch ×ₗ Nat := toLex (rank.host, rank.pathSegments)

theorem key_injective : Function.Injective key := by
  rintro ⟨host, segments⟩ ⟨other, count⟩ same
  simpa [key] using same

instance : LinearOrder MatchRank := LinearOrder.lift' key key_injective

end MatchRank

/-! ## Filters -/

/-- The virtual hosts of the proxy and the segments of the route. -/
structure RequestFilter extends UpstreamUrl.RequestFilter where
  vhosts : List VirtualHost

namespace RequestFilter

def new (vhosts : List VirtualHost) (routePath : List Char) : RequestFilter where
  toRequestFilter := .new routePath
  vhosts := vhosts

def hostMatch (filter : RequestFilter) (host : Option (List Char)) : Option HostMatch :=
  if filter.vhosts.isEmpty then some .any
  else do
    let host ← host
    ((filter.vhosts.filter (·.test host)).map vhostMatch).max?

def rank (filter : RequestFilter) (path : List Char) (host : Option (List Char)) :
    Option MatchRank := do
  let host ← filter.hostMatch host
  if filter.matchesPath path then some ⟨host, filter.matched path⟩ else none

end RequestFilter

/-! ## The router -/

/-- A route with its filter; the other settings are not looked at. -/
structure FilteredRoute (Settings : Type*) where
  filter : RequestFilter
  settings : Settings

section Router

variable {Settings : Type*} (routes : List (FilteredRoute Settings)) (path : List Char)
  (host : Option (List Char))

/-- `get_route`: the segments after those of the route, and the route. -/
def getRoute : Option (List Segment × FilteredRoute Settings) :=
  (firstBest (fun route : FilteredRoute Settings => route.filter.rank path host) routes).map
    fun best => (best.2.filter.result path, best.2)

end Router

/-! ## What a route takes -/

namespace RequestFilter

variable (filter : RequestFilter) (path : List Char) (host : Option (List Char))

/-- The virtual hosts accept the host: there are none, or one of them does. -/
def TakesHost : Prop :=
  filter.vhosts = [] ∨ ∃ name, host = some name ∧ ∃ vhost ∈ filter.vhosts, vhost.test name = true

/-- The route takes the request. -/
def Takes : Prop :=
  filter.TakesHost host ∧ filter.path <+: requestSegments (normalizePath path)

/-- How specific the route is: its most specific virtual host that accepts the host, and the number
of its segments. -/
def Specificity (rank : MatchRank) : Prop :=
  (filter.vhosts = [] ∧ rank.host = .any ∨
    ∃ name, host = some name ∧
      IsGreatest { kind | ∃ vhost ∈ filter.vhosts, vhost.test name = true ∧ vhostMatch vhost = kind }
        rank.host) ∧
    rank.pathSegments = filter.path.length

end RequestFilter

/-! ### The path -/

/-- The common beginning is all of the second list just when that is a beginning of the first. -/
theorem length_takeWhile_zip_eq_iff {α : Type*} [DecidableEq α] (request route : List α) :
    ((request.zip route).takeWhile fun pair => decide (pair.1 = pair.2)).length = route.length ↔
      route <+: request := by
  induction route generalizing request with
  | nil => simp
  | cons own rest ih =>
    cases request with
    | nil => simp
    | cons first more =>
      by_cases same : first = own
      · simp [same, ih more]
      · simp [same, Ne.symm same]

variable {rank : MatchRank}

namespace RequestFilter

variable {filter : RequestFilter} {path : List Char} {host : Option (List Char)}

theorem matchesPath_iff :
    filter.matchesPath path = true ↔ filter.path <+: requestSegments (normalizePath path) :=
  decide_eq_true_iff.trans (length_takeWhile_zip_eq_iff _ _)

/-! ### The host -/

theorem max?_vhostMatch_iff (vhosts : List VirtualHost) (name : List Char) (kind : HostMatch) :
    ((vhosts.filter (·.test name)).map vhostMatch).max? = some kind ↔
      IsGreatest { kind | ∃ vhost ∈ vhosts, vhost.test name = true ∧ vhostMatch vhost = kind }
        kind := by
  rw [List.max?_eq_some_iff]
  simp [IsGreatest, mem_upperBounds, and_assoc]

theorem hostMatch_eq_some_iff {kind : HostMatch} :
    filter.hostMatch host = some kind ↔
      filter.vhosts = [] ∧ kind = .any ∨
        ∃ name, host = some name ∧
          IsGreatest
            { kind | ∃ vhost ∈ filter.vhosts, vhost.test name = true ∧ vhostMatch vhost = kind }
            kind := by
  unfold hostMatch
  cases empty : filter.vhosts with
  | nil => simp [IsGreatest, @eq_comm _ kind]
  | cons vhost rest =>
    cases host with
    | none => simp
    | some name =>
      simp only [List.isEmpty_cons, Bool.false_eq_true, if_false, Option.bind_eq_bind,
        Option.bind_some, Option.some.injEq, exists_eq_left', reduceCtorEq, false_and, false_or]
      exact max?_vhostMatch_iff (vhost :: rest) name kind

theorem isSome_hostMatch_iff : (filter.hostMatch host).isSome ↔ filter.TakesHost host := by
  unfold hostMatch TakesHost
  cases empty : filter.vhosts with
  | nil => simp
  | cons =>
    cases host with
    | none => simp
    | some => simp [Option.isSome_iff_ne_none, List.max?_eq_none_iff, or_iff_not_imp_left]

/-! ### Both -/

theorem rank_eq_some_iff :
    filter.rank path host = some rank ↔ filter.Takes path host ∧ filter.Specificity host rank := by
  obtain ⟨kind, segments⟩ := rank
  have host_iff : filter.hostMatch host = some kind ↔ _ := hostMatch_eq_some_iff
  have takes_iff : (filter.hostMatch host).isSome ↔ _ := isSome_hostMatch_iff
  unfold rank Takes Specificity
  rw [← takes_iff, ← matchesPath_iff, ← host_iff]
  cases filter.hostMatch host with
  | none => simp
  | some =>
    by_cases fits : filter.matchesPath path = true
    · have all : filter.matched path = filter.path.length := of_decide_eq_true fits
      simp [fits, all, eq_comm]
    · simp [fits]

theorem rank_eq_none_iff : filter.rank path host = none ↔ ¬ filter.Takes path host := by
  unfold rank Takes
  rw [← isSome_hostMatch_iff, ← matchesPath_iff]
  cases filter.hostMatch host with
  | none => simp
  | some =>
    by_cases fits : filter.matchesPath path = true <;> simp [fits]

end RequestFilter

/-! ## The route that is found -/

section Choice

variable {Settings : Type*} (path : List Char) (host : Option (List Char))
  {routes : List (FilteredRoute Settings)} {route : FilteredRoute Settings}

/-- `route` is the first of the most specific routes that take the request; `rank` is how specific
it is, and the other routes stand before and after it. -/
structure Chosen (routes before after : List (FilteredRoute Settings)) (rank : MatchRank)
    (route : FilteredRoute Settings) : Prop where
  split : routes = before ++ route :: after
  takes : route.filter.Takes path host
  specificity : route.filter.Specificity host rank
  earlier : ∀ other ∈ before, other.filter.Takes path host →
    ∀ rival, other.filter.Specificity host rival → rival < rank
  later : ∀ other ∈ after, other.filter.Takes path host →
    ∀ rival, other.filter.Specificity host rival → rival ≤ rank

/-- No other route is as specific. -/
def Alone (before after : List (FilteredRoute Settings)) (rank : MatchRank) : Prop :=
  ∀ other ∈ before ++ after, other.filter.Takes path host →
    ∀ rival, other.filter.Specificity host rival → rival < rank

variable {path host}

open RequestFilter

theorem Chosen.of_isFirstBest {before after : List (FilteredRoute Settings)}
    (best : IsFirstBest (fun route : FilteredRoute Settings => route.filter.rank path host) routes
      rank route before after) : Chosen path host routes before after rank route := by
  obtain ⟨takes, specificity⟩ := rank_eq_some_iff.mp best.ranked
  refine ⟨best.split, takes, specificity, ?_, ?_⟩
  · intro other member takes rival known
    exact best.earlier other member rival (rank_eq_some_iff.mpr ⟨takes, known⟩)
  · intro other member takes rival known
    exact best.later other member rival (rank_eq_some_iff.mpr ⟨takes, known⟩)

theorem getRoute_eq_none_iff :
    getRoute routes path host = none ↔ ∀ route ∈ routes, ¬ route.filter.Takes path host := by
  rw [getRoute, Option.map_eq_none_iff, firstBest_eq_none_iff]
  exact forall₂_congr fun _ _ => rank_eq_none_iff

theorem best_of_getRoute {rest : List Segment}
    (found : getRoute routes path host = some (rest, route)) :
    rest = route.filter.result path ∧ ∃ rank before after, IsFirstBest
      (fun route : FilteredRoute Settings => route.filter.rank path host) routes rank route before
        after := by
  rcases firstBest_cases (fun route : FilteredRoute Settings => route.filter.rank path host) routes
    with ⟨nothing, -⟩ | ⟨rank, best, before, after, same, isBest⟩
  · simp [getRoute, nothing] at found
  · rw [getRoute, same, Option.map_some, Option.some.injEq, Prod.mk.injEq] at found
    obtain ⟨left, rfl⟩ := found
    exact ⟨left.symm, rank, before, after, isBest⟩

/-- Where no other route is as specific, every order of the routes gives the same one. -/
theorem Chosen.getRoute_perm {before after shuffled : List (FilteredRoute Settings)}
    (chosen : Chosen path host routes before after rank route)
    (alone : Alone path host before after rank) (perm : shuffled.Perm routes) :
    getRoute shuffled path host = some (route.filter.result path, route) := by
  have ranked : route.filter.rank path host = some rank :=
    rank_eq_some_iff.mpr ⟨chosen.takes, chosen.specificity⟩
  have once : ∀ other ∈ before ++ after, ∀ rival ∈ other.filter.rank path host, rival < rank := by
    intro other member rival known
    obtain ⟨takes, specificity⟩ := rank_eq_some_iff.mp known
    exact alone other member takes rival specificity
  have found : firstBest (fun route : FilteredRoute Settings => route.filter.rank path host) shuffled =
      some (rank, route) := firstBest_perm chosen.split ranked once perm
  rw [getRoute, found, Option.map_some]

end Choice

/-- **The route of a request.**  A route is found exactly when one takes the request.  It is the
first of those with the highest rank, in every order of the routes where no other one ranks as high,
and its segments with those it leaves are the segments of the request. -/
theorem get_route_spec {Settings : Type*} (routes : List (FilteredRoute Settings))
    (path : List Char) (host : Option (List Char)) :
    ((getRoute routes path host).isSome ↔ ∃ route ∈ routes, route.filter.Takes path host) ∧
      ∀ rest route, getRoute routes path host = some (rest, route) →
        (∃ before after rank, Chosen path host routes before after rank route ∧
          (Alone path host before after rank → ∀ shuffled : List (FilteredRoute Settings),
            shuffled.Perm routes → getRoute shuffled path host = some (rest, route))) ∧
          route.filter.path ++ rest = requestSegments (normalizePath path) := by
  constructor
  · rw [Option.isSome_iff_ne_none, ne_eq, getRoute_eq_none_iff]
    simp
  · intro rest route found
    obtain ⟨rfl, rank, before, after, best⟩ := best_of_getRoute found
    have chosen := Chosen.of_isFirstBest best
    refine ⟨⟨before, after, rank, chosen, ?_⟩, ?_⟩
    · intro alone shuffled perm
      exact chosen.getRoute_perm alone perm
    · obtain ⟨rest, whole⟩ := chosen.takes.2
      rw [UpstreamUrl.RequestFilter.result, ← whole, List.drop_left]

/-! ## Two paths -/

section Paths

variable {Settings : Type*} (routes : List (FilteredRoute Settings)) (path other : List Char)
  (host : Option (List Char))

def selected : Option (FilteredRoute Settings) := (getRoute routes path host).map Prod.snd

/-- The rival is preferred to a route between `before` and `after`: it ranks higher, or as high and
comes first. -/
def Preferred (before after : List (FilteredRoute Settings))
    (rival route : FilteredRoute Settings) : Prop :=
  ∃ top rank, rival.filter.Specificity host top ∧ route.filter.Specificity host rank ∧
    (rival ∈ before ++ after ∧ rank < top ∨ rival ∈ before ∧ rank ≤ top)

/-- Each route that takes one of the paths and not the other stands behind a preferred one that takes
both. -/
def SpellingIgnored : Prop :=
  ∀ before route after, routes = before ++ route :: after →
    ¬ (route.filter.Takes path host ↔ route.filter.Takes other host) →
    ∃ rival, rival.filter.Takes path host ∧ rival.filter.Takes other host ∧
      Preferred host before after rival route

/-- The second path has the percent-encoding of a letter, a digit, `-`, `.`, `_` or `~`. -/
def Encodes : Prop :=
  ∃ front c back, (c.isAlphanum ∨ c ∈ ['-', '.', '_', '~']) ∧ path = front ++ c :: back ∧
    other = front ++ encodeByte (.ofNat c.toNat) ++ back

variable {routes path other host} {route : FilteredRoute Settings} {rank : MatchRank}

theorem best_of_selected (found : selected routes path host = some route) :
    ∃ rank before after, IsFirstBest
      (fun route : FilteredRoute Settings => route.filter.rank path host) routes rank route before
        after := by
  obtain ⟨⟨rest, own⟩, given, rfl⟩ := Option.map_eq_some_iff.mp found
  exact (best_of_getRoute given).2

theorem SpellingIgnored.symm (ignored : SpellingIgnored routes path other host) :
    SpellingIgnored routes other path host := by
  intro before route after place differ
  obtain ⟨rival, takes, also, preferred⟩ := ignored before route after place fun same => differ same.symm
  exact ⟨rival, also, takes, preferred⟩

/-- The route of a path takes the other path. -/
theorem SpellingIgnored.rank_eq (ignored : SpellingIgnored routes path other host)
    {before after : List (FilteredRoute Settings)}
    (best : IsFirstBest (fun route : FilteredRoute Settings => route.filter.rank path host) routes
      rank route before after) : route.filter.rank other host = some rank := by
  obtain ⟨takes, specificity⟩ := RequestFilter.rank_eq_some_iff.mp best.ranked
  refine RequestFilter.rank_eq_some_iff.mpr ⟨?_, specificity⟩
  by_contra refused
  obtain ⟨rival, taken, -, top, own, known, same, above⟩ :=
    ignored before route after best.split fun alike => refused (alike.mp takes)
  have equal : rank = own := Option.some.inj
    (best.ranked.symm.trans (RequestFilter.rank_eq_some_iff.mpr ⟨takes, same⟩))
  subst equal
  exact best.unbeaten (RequestFilter.rank_eq_some_iff.mpr ⟨taken, known⟩) above

theorem SpellingIgnored.exists_selected (ignored : SpellingIgnored routes path other host)
    (found : selected routes path host = some route) :
    ∃ rival, selected routes other host = some rival := by
  obtain ⟨rank, before, after, best⟩ := best_of_selected found
  rw [← Option.ne_none_iff_exists', selected, ne_eq, Option.map_eq_none_iff, getRoute_eq_none_iff]
  intro none
  refine none route (by simp [best.split]) ?_
  exact (RequestFilter.rank_eq_some_iff.mp (ignored.rank_eq best)).1

/-- A route that is selected for both paths is preferred to every route that takes only one. -/
theorem preferred_of_selected {winner : FilteredRoute Settings}
    (one : selected routes path host = some winner) (two : selected routes other host = some winner)
    {before after : List (FilteredRoute Settings)} (place : routes = before ++ route :: after)
    (takes : route.filter.Takes path host) (refused : ¬ route.filter.Takes other host) :
    winner.filter.Takes path host ∧ winner.filter.Takes other host ∧
      Preferred host before after winner route := by
  obtain ⟨high, front, back, best⟩ := best_of_selected one
  obtain ⟨top, _, _, rival⟩ := best_of_selected two
  obtain ⟨taken, known⟩ := RequestFilter.rank_eq_some_iff.mp best.ranked
  have also := (RequestFilter.rank_eq_some_iff.mp rival.ranked).1
  have ranked : (route.filter.rank path host).isSome := by
    rw [Option.isSome_iff_ne_none, ne_eq, RequestFilter.rank_eq_none_iff]
    exact not_not_intro takes
  obtain ⟨own, isOwn⟩ := Option.isSome_iff_exists.mp ranked
  refine ⟨taken, also, high, own, known, (RequestFilter.rank_eq_some_iff.mp isOwn).2, ?_⟩
  exact best.beats place (fun same => refused (same ▸ also)) isOwn

/-- **Two paths get the same route, if and only if each route that takes one of them and not the other
stands behind a preferred one that takes both**; this is asked of any two paths, so of two encodings
of one. -/
theorem same_route_iff (routes : List (FilteredRoute Settings)) (path other : List Char)
    (host : Option (List Char)) :
    selected routes path host = selected routes other host ↔
      SpellingIgnored routes path other host := by
  constructor
  · intro same before route after place differ
    have member : route ∈ routes := by simp [place]
    have found : ∃ winner, selected routes path host = some winner := by
      rw [← Option.ne_none_iff_exists']
      intro none
      have neither := same.symm.trans none
      rw [selected, Option.map_eq_none_iff, getRoute_eq_none_iff] at none neither
      exact differ (iff_of_false (none route member) (neither route member))
    obtain ⟨winner, one⟩ := found
    have two := same.symm.trans one
    by_cases takes : route.filter.Takes path host
    · have refused : ¬ route.filter.Takes other host := fun also => differ (iff_of_true takes also)
      exact ⟨winner, preferred_of_selected one two place takes refused⟩
    · have also : route.filter.Takes other host := by
        by_contra refused
        exact differ (iff_of_false takes refused)
      obtain ⟨taken, own, preferred⟩ := preferred_of_selected two one place also takes
      exact ⟨winner, own, taken, preferred⟩
  · intro ignored
    cases found : selected routes path host with
    | none =>
      cases given : selected routes other host with
      | none => rfl
      | some rival =>
        obtain ⟨route, some⟩ := ignored.symm.exists_selected given
        cases found.symm.trans some
    | some route =>
      obtain ⟨rival, given⟩ := ignored.exists_selected found
      obtain ⟨rank, before, after, best⟩ := best_of_selected found
      obtain ⟨top, front, last, first⟩ := best_of_selected given
      rw [given, best.unique first (ignored.rank_eq best) (ignored.symm.rank_eq first)]

/-- **An encoded letter avoids a route.** -/
theorem encoded_letter_avoids_route :
    let routes : List (FilteredRoute String) :=
      [⟨.new [] "/admin".toList, "guarded"⟩, ⟨.new [] "/".toList, "open"⟩]
    Encodes "/admin".toList "/%61dmin".toList ∧
      (selected routes "/admin".toList none).map FilteredRoute.settings = some "guarded" ∧
      (selected routes "/%61dmin".toList none).map FilteredRoute.settings = some "open" :=
  ⟨⟨['/'], 'a', "dmin".toList, by decide⟩, by decide, by decide⟩

end Paths
end R3v3rs3.Proxy.Http.Routes
