/-
# R3v3rs3.Proxy.Http.UpstreamUrl -- whether a request stays under the path of its server

A request path is cut into segments three times: `normalizePath` resolves dot segments between
slashes, the rewrite of the route joins and splits segments, and the URL parser cuts the joined
text once more when it becomes the path of the upstream URL.  The parser also cuts at `\`, and
drops tabs and newlines first.

`upstream_path_under_iff` says exactly when the path of the upstream URI starts with the path of
the server: what the parser reads after the server path climbs out of it by some segments, and
names those again.  `plain_segments_stay` is the case that the filter of dot segments is made for:
no separator, tab or newline inside a segment.
-/
import R3v3rs3.Api.Text
import R3v3rs3.Theory.UrlPath

namespace R3v3rs3.Proxy.Http.UpstreamUrl
open Api Theory Theory.UrlPath
set_option autoImplicit false

/-! ## The segments of a request -/

/-- `str::to_ascii_lowercase`. -/
def asciiLower (text : List Char) : List Char := text.map Char.toLower

def isSingleDotSegment (segment : Segment) : Bool :=
  asciiLower segment = ".".toList || asciiLower segment = "%2e".toList

def isDoubleDotSegment (segment : Segment) : Bool :=
  ["..".toList, ".%2e".toList, "%2e.".toList, "%2e%2e".toList].contains (asciiLower segment)

/-- The segments left by the loop of `normalize_path`, and whether the last one was a dot. -/
def normalizeSegments : List Segment → Bool → List Segment → List Segment × Bool
  | normalized, lastWasDot, [] => (normalized, lastWasDot)
  | normalized, lastWasDot, segment :: rest =>
    if segment = [] then normalizeSegments normalized lastWasDot rest
    else if isSingleDotSegment segment then normalizeSegments normalized true rest
    else if isDoubleDotSegment segment then normalizeSegments normalized.dropLast true rest
    else normalizeSegments (normalized ++ [segment]) false rest

def needsTrailingSlash (path : List Char) (lastWasDot : Bool) (result : List Char) : Bool :=
  (path.getLast? = some '/' || lastWasDot) && result.getLast? ≠ some '/'

def normalizePath (path : List Char) : List Char :=
  let (normalized, lastWasDot) := normalizeSegments [] false (Text.split '/' path)
  let result := '/' :: List.intercalate ['/'] normalized
  if needsTrailingSlash path lastWasDot result then result ++ ['/'] else result

def requestSegments (path : List Char) : List Segment :=
  Text.split '/' (path.dropWhile (· = '/'))

/-- The non-empty segments of a path. -/
def pathSegments (path : List Char) : List Segment :=
  (Text.split '/' path).filter fun segment => segment ≠ []

/-- The part of `RequestFilter` that looks at the path. -/
structure RequestFilter where
  path : List Segment

namespace RequestFilter

def new (routePath : List Char) : RequestFilter := ⟨pathSegments routePath⟩

/-- The number of segments that the request and the route begin with in common. -/
def matched (filter : RequestFilter) (path : List Char) : Nat :=
  (((requestSegments (normalizePath path)).zip filter.path).takeWhile
    fun pair => pair.1 = pair.2).length

/-- The path part of `rank`. -/
def matchesPath (filter : RequestFilter) (path : List Char) : Bool :=
  filter.matched path = filter.path.length

/-- The segments of the request after the path of the route. -/
def result (filter : RequestFilter) (path : List Char) : List Segment :=
  (requestSegments (normalizePath path)).drop filter.path.length

end RequestFilter

/-- The replacement of the first match of a regular expression, which is the regex crate's. -/
abbrev PathRegex := (path replacement : List Char) → List Char

structure PathRewrite where
  stripPrefix : Bool := true
  regex : Option PathRegex := none
  replacement : List Char := []
  addPrefix : List Char := []

structure Rewrite where
  kept : List Segment
  regex : Option (PathRegex × List Char)
  added : List Segment

namespace Rewrite

def new (config : PathRewrite) (routePath : List Char) : Rewrite where
  kept := if config.stripPrefix then [] else pathSegments routePath
  regex := config.regex.map fun regex => (regex, config.replacement)
  added := pathSegments config.addPrefix

def join (segments : List Segment) : List Char := segments.flatMap fun segment => '/' :: segment

def split (path : List Char) : List Segment :=
  if path = [] then [] else Text.split '/' ((Text.stripStart ['/'] path).getD path)

def apply (rewrite : Rewrite) (rest : List Segment) : List Segment :=
  let segments := rewrite.kept ++ rest
  let segments :=
    match rewrite.regex with
    | some (regex, replacement) => split (regex (join segments) replacement)
    | none => segments
  rewrite.added ++ segments

end Rewrite

/-- The segments that a route sends to its servers, when it takes the request. -/
def forwardedSegments (route : List Char) (config : PathRewrite) (path : List Char) :
    Option (List Segment) :=
  if (RequestFilter.new route).matchesPath path then
    some ((Rewrite.new config route).apply ((RequestFilter.new route).result path))
  else none

/-! ## The upstream URL -/

inductive Scheme where
  | http
  | https
  deriving DecidableEq

structure Url where
  scheme : Scheme
  authority : List Char
  path : Path
  query : Option (List Char)

namespace Url

def setPath (url : Url) (text : List Char) : Url := { url with path := .ofText text }

/-- The query percent-encode set of the special schemes. -/
def needsQueryEncoding (c : Char) : Bool :=
  c.toNat ≤ 0x1F || 0x7E < c.toNat || c.toNat ∈ [0x20, 0x22, 0x23, 0x27, 0x3C, 0x3E]

def setQuery (url : Url) (query : Option (List Char)) : Url :=
  { url with query := query.map fun text =>
      (text.filter fun c => !isTabOrNewline c).flatMap (encodeIn needsQueryEncoding) }

def text (url : Url) : List Char :=
  (match url.scheme with
    | .http => "http://".toList
    | .https => "https://".toList) ++
    url.authority ++ serialize url.path.segments ++
    (url.query.map fun query => '?' :: query).getD []

/-- The path of the URL without its trailing slashes, as segments. -/
def ownSegments (url : Url) : List Segment := trimmed url.path.segments

end Url

/-- A `.` or `..` segment, also percent-encoded. -/
def isDotSegment (segment : Segment) : Bool :=
  [".".toList, "..".toList, "%2e".toList, ".%2e".toList, "%2e.".toList,
    "%2e%2e".toList].contains (asciiLower segment)

/-- The text after the path of the server. -/
def restOf (segments : List Segment) : List Char :=
  List.intercalate ['/'] (segments.filter fun segment => !isDotSegment segment)

def upstreamUrl (server : Url) (segments : List Segment) (query : Option (List Char)) : Url :=
  let url :=
    if segments = [] then server
    else
      server.setPath ((serialize server.path.segments).rdropWhile (· = '/') ++
        '/' :: restOf segments)
  url.setQuery query

inductive ProxyError where
  | upstreamUriInvalid
  deriving DecidableEq

/-- `isUri` says which texts are URIs.  The path of the URI is the path of the URL, whose text has
no `?` and no `#`. -/
def upstreamUri (isUri : List Char → Bool) (server : Url) (segments : List Segment)
    (query : Option (List Char)) : Except ProxyError Url :=
  let url := upstreamUrl server segments query
  if isUri url.text then .ok url else .error .upstreamUriInvalid

/-! ## Staying under the path of the server -/

/-- What the parser reads after the path of the server. -/
def relative (segments : List Segment) : Relative :=
  .ofText ((restOf segments).filter fun c => !isTabOrNewline c)

/-- There are no segments, or those that the rest drops from the path it names again. -/
def Stays (own segments : List Segment) : Prop :=
  segments = [] ∨
    own.drop (own.length - (relative segments).climbs) <+: (relative segments).names

instance (own segments : List Segment) : Decidable (Stays own segments) :=
  inferInstanceAs (Decidable (_ ∨ _))

variable {segments : List Segment}

theorem path_upstreamUrl {server : Url} (present : segments ≠ []) (query : Option (List Char)) :
    (upstreamUrl server segments query).path.segments =
      Relative.onto server.ownSegments (relative segments) := by
  have clean := clean_trimmed server.path.clean
  simp only [upstreamUrl, if_neg present, Url.setQuery, Url.setPath, Path.ofText]
  rw [rdropWhile_serialize server.path.clean, parse_under clean]
  rfl

/-- **The path of the upstream URI starts with the path of the server exactly when the segments
stay.** -/
theorem upstream_path_under_iff {isUri : List Char → Bool} {server : Url} {segments : List Segment}
    {query : Option (List Char)} {uri : Url}
    (built : upstreamUri isUri server segments query = .ok uri) :
    server.ownSegments <+: uri.path.segments ↔ Stays server.ownSegments segments := by
  have same : uri = upstreamUrl server segments query := by
    simp only [upstreamUri] at built
    split at built
    · exact (Except.ok.inj built).symm
    · cases built
  rw [same]
  by_cases none : segments = []
  · have kept : (upstreamUrl server segments query).path = server.path := by
      simp [upstreamUrl, none, Url.setQuery]
    rw [kept]
    exact iff_of_true (List.rdropWhile_prefix _ _) (.inl none)
  · rw [path_upstreamUrl none, Relative.under_iff, Stays, or_iff_right none]

/-! ## Requests to a server with a path -/

section Server

/-- `http://up/base/`. -/
def server : Url := ⟨.http, "up".toList, .ofText "/base/".toList, none⟩

theorem plain_request_under :
    upstreamUri (fun _ => true) server ["x".toList] none =
        .ok (upstreamUrl server ["x".toList] none) ∧
      server.ownSegments <+: (upstreamUrl server ["x".toList] none).path.segments := by
  refine ⟨?built, (upstream_path_under_iff ?built).mpr (by decide)⟩
  rfl

/-- **A backslash leaves the server path.**  The request path `/..\secret` is one segment for the
route, and two for the URL parser. -/
theorem backslash_leaves_server_path :
    forwardedSegments "/".toList {} "/..\\secret".toList = some ["..\\secret".toList] ∧
      (upstreamUri (fun _ => true) server ["..\\secret".toList] none).toOption.map
          (fun uri => uri.path.segments) = some ["secret".toList] ∧
      ¬ server.ownSegments <+: ["secret".toList] := by
  refine ⟨?_, ?_, ?_⟩ <;> decide

end Server

/-! ## Segments without separators -/

theorem mem_intercalate_slash {c : Char} (member : c ∈ List.intercalate ['/'] segments) :
    c = '/' ∨ ∃ segment ∈ segments, c ∈ segment := by
  induction segments with
  | nil => simp at member
  | cons first others ih =>
    cases others with
    | nil => exact .inr ⟨first, by simp, by simpa using member⟩
    | cons =>
      rw [List.intercalate_cons_cons, List.append_assoc, List.mem_append, List.mem_append]
        at member
      rcases member with here | slash | later
      · exact .inr ⟨first, by simp, here⟩
      · exact .inl (List.mem_singleton.mp slash)
      · rcases ih later with slash | ⟨segment, known, here⟩
        · exact .inl slash
        · exact .inr ⟨segment, List.mem_cons_of_mem first known, here⟩

/-- Segments that hold no separator, tab or newline stay under every path. -/
theorem plain_segments_stay (own : List Segment) (plain : ∀ segment ∈ segments, ∀ c ∈ segment,
      isSeparator c = false ∧ isTabOrNewline c = false) : Stays own segments := by
  have known : ∀ segment ∈ segments.filter (fun segment => !isDotSegment segment),
      segment ∈ segments := fun _ member => List.mem_of_mem_filter member
  have noTab : (restOf segments).filter (fun c => !isTabOrNewline c) = restOf segments := by
    rw [List.filter_eq_self]
    intro c member
    rcases mem_intercalate_slash member with rfl | ⟨segment, here, inside⟩
    · decide
    · simp [(plain segment (known segment here) c inside).2]
  have none : (relative segments).climbs = 0 := by
    rw [relative, noTab, restOf]
    apply Relative.climbs_intercalate
    · exact fun segment member c inside => (plain segment (known segment member) c inside).1
    · intro segment member
      have noDot := List.of_mem_filter member
      simp only [isDotSegment, asciiLower, List.contains_eq_mem, List.mem_cons, List.not_mem_nil,
        or_false, Bool.not_eq_true', decide_eq_false_iff_not, not_or] at noDot
      obtain ⟨-, plainDots, -, second, first, both⟩ := noDot
      simp only [isDoubleDot, List.mem_cons, List.not_mem_nil, or_false, decide_eq_false_iff_not,
        not_or]
      exact ⟨plainDots, second, first, both⟩
  exact .inr (by simp [none])

theorem encoded_dots_stay : Stays server.ownSegments ["%2e%2e".toList, "x".toList] :=
  plain_segments_stay _ (by simp [isSeparator, isTabOrNewline])

end R3v3rs3.Proxy.Http.UpstreamUrl
