/-
# R3v3rs3.Proxy.Udp -- the sessions of a UDP port

The server spawns a task for each datagram.  The task works on a copy of the port: the upstream as it
was when the datagram came, and the session map, which all tasks share.  It looks its client up, opens
a session where there is no open one, inserts it, reads the map again and sends.  Other tasks, the
expiry of sessions and reloads come in between.

Two questions are asked about every interleaving.

* Are the datagrams of a client sent through one session until it expires, is no open session
  replaced, and does the map keep its bound?  `sessions_stay_steady`: when a task that finds no open
  session of its client is the only one that opens one for it, and the client used none since the
  last expiry; when the check of the bound counts the sessions that are being opened; and when no
  session ends between its read and the sending.
* Is everything of the old upstream gone after a reload?  `reload_ends_sessions_iff`: exactly when
  every insertion is made by a task that started after the last reload.
-/
import R3v3rs3.Proxy.Health
import R3v3rs3.Theory.NetAddr
import R3v3rs3.Theory.Threads

namespace R3v3rs3.Proxy.Udp
open Theory Theory.Threads
open Theory.NetAddr (IpAddr)
open Theory.Run (exec Guarded Throughout)
open Proxy.Health (LoadBalancing HealthCheck)
set_option autoImplicit false

/-! ## Upstreams -/

def maxSessions : Nat := 10000

/-- Times are milliseconds. -/
def defaultSessionIdleTimeout : Nat := 60 * 1000

def defaultMaxDatagramSize : Nat := 65527

def defaultHealthCheck : HealthCheck := ⟨1, 30 * 1000, 0, 5 * 1000, "", none⟩

structure Server where
  name : String
  port : UInt16
  deriving DecidableEq

/-- The upstream servers and the session settings of a port; a group is known by its number. -/
structure UdpUpstream where
  servers : List Server
  idleTimeout : Nat
  maxDatagramSize : Nat
  loadBalancing : LoadBalancing
  healthCheck : HealthCheck
  group : Option Nat
  deriving DecidableEq

def UdpUpstream.default : UdpUpstream :=
  ⟨[], defaultSessionIdleTimeout, defaultMaxDatagramSize, .roundRobin, defaultHealthCheck, none⟩

/-- A UDP proxy: the addresses of its servers, where they are valid, its settings, and the group that
the registry has for it. -/
structure UdpProxy where
  upstreamServers : List (Option Server)
  sessionIdleTimeout : Nat
  maxDatagramSize : Nat
  loadBalancing : LoadBalancing
  healthCheck : HealthCheck
  group : Nat

namespace UdpUpstream

/-- The first proxy with a server counts; an invalid address of any proxy is an error.  `none` is a
proxy of another kind. -/
def fromProxies : UdpUpstream → List (Option UdpProxy) → Option UdpUpstream
  | upstream, [] => some upstream
  | upstream, none :: rest => fromProxies upstream rest
  | upstream, some proxy :: rest =>
    match proxy.upstreamServers.mapM id with
    | none => none
    | some servers =>
      if upstream.group.isSome ∨ servers = [] then fromProxies upstream rest
      else
        fromProxies ⟨servers, proxy.sessionIdleTimeout, proxy.maxDatagramSize,
          proxy.loadBalancing, proxy.healthCheck, some proxy.group⟩ rest

def sameSettings (upstream other : UdpUpstream) : Bool :=
  decide (upstream.servers = other.servers) && decide (upstream.group = other.group) &&
    decide (upstream.idleTimeout = other.idleTimeout) &&
      decide (upstream.maxDatagramSize = other.maxDatagramSize) &&
        decide (upstream.loadBalancing = other.loadBalancing) &&
          decide (upstream.healthCheck = other.healthCheck)

end UdpUpstream

/-! ## Sessions and tasks -/

abbrev SocketAddr := IpAddr × UInt16

/-- A session has a number of its own, and a server of the upstream that it was opened for;
`generation` counts the reloads before that. -/
structure UdpSession where
  id : Nat
  client : SocketAddr
  generation : Nat
  upstream : UdpUpstream
  server : Server
  listed : server ∈ upstream.servers
  addr : SocketAddr

/-- A datagram, and the port as the task has it. -/
structure Packet where
  client : SocketAddr
  data : List UInt8
  generation : Nat
  upstream : UdpUpstream

/-- What happened, for the results below.  No step looks at it. -/
inductive Entry where
  /-- A datagram that came in `generation` was sent through the session. -/
  | sent (session : UdpSession) (generation : Nat) (payload : List UInt8)
  /-- A session of the client was idle for its idle timeout. -/
  | expired (client : SocketAddr)
  /-- An open session was dropped by an insertion. -/
  | replaced (session : UdpSession)

structure Shared where
  now : Nat
  /-- The number of reloads that changed the upstream. -/
  generation : Nat
  upstream : UdpUpstream
  sessions : Table (Prod.fst : SocketAddr × UdpSession → SocketAddr)
  /-- All sessions that were opened, and the numbers of those whose task has finished. -/
  opened : List UdpSession
  ended : List Nat
  lastActive : Nat → Nat
  history : List Entry

/-- Where `forward` stands. -/
inductive Task where
  | received (packet : Packet)
  | pruning (packet : Packet)
  | counting (packet : Packet)
  | trying (packet : Packet) (candidates : List Nat)
  /-- Resolving and connecting; the activity of the session began at `started`. -/
  | connecting (packet : Packet) (started : Nat) (server : Server)
      (listed : server ∈ packet.upstream.servers) (rest : List Nat)
  | inserting (packet : Packet) (session : UdpSession)
  | reading (packet : Packet)
  | sending (packet : Packet) (session : UdpSession)

inductive Call where
  | datagram (client : SocketAddr) (data : List UInt8)
  | setup (proxies : List (Option UdpProxy))
  | reset
  /-- Time passes. -/
  | wait (duration : Nat)
  /-- The reply task of a session: a reply, the idle timeout, an error of its socket. -/
  | reply (id : Nat)
  | expire (id : Nat)
  | socketError (id : Nat)

/-- What the group says, and the address of the server if it is resolved and its socket opens. -/
structure Input where
  candidates : List Nat
  addr : Option SocketAddr

namespace Shared

variable (shared : Shared)

def goto (task : Task) : Shared × Option Task := (shared, some task)

def finish : Shared × Option Task := (shared, none)

def isOpen (session : UdpSession) : Bool := session.id ∉ shared.ended

def touch (id : Nat) : Shared :=
  { shared with lastActive := fun other => if other = id then shared.now else shared.lastActive other }

/-- The session with the number, while its task runs. -/
def running (id : Nat) : Option UdpSession :=
  shared.opened.find? fun session => session.id = id && shared.isOpen session

/-- `is_open` of the session of the client. -/
def hasOpen (client : SocketAddr) : Bool :=
  (shared.sessions.find client).any fun row => shared.isOpen row.2

def lookup (packet : Packet) : Shared × Option Task :=
  if shared.hasOpen packet.client then shared.goto (.reading packet)
  else shared.goto (.pruning packet)

def retainOpen (packet : Packet) : Shared × Option Task :=
  { shared with sessions := shared.sessions.discard fun row => !shared.isOpen row.2 }.goto
    (.counting packet)

def checkCount (packet : Packet) (candidates : List Nat) : Shared × Option Task :=
  if maxSessions ≤ shared.sessions.rows.length then shared.finish
  else
    match packet.upstream.group with
    | none => shared.finish
    | some _ => shared.goto (.trying packet (candidates.take 2))

/-- `open_server_session` for the next candidate. -/
def openServerSession (packet : Packet) : List Nat → Shared × Option Task
  | [] => shared.finish
  | index :: rest =>
    match found : packet.upstream.servers[index]? with
    | none => shared.goto (.trying packet rest)
    | some server =>
      shared.goto (.connecting packet shared.now server (List.mem_of_getElem? found) rest)

def connect (packet : Packet) (started : Nat) (server : Server)
    (listed : server ∈ packet.upstream.servers) (rest : List Nat) :
    Option SocketAddr → Shared × Option Task
  | none => shared.goto (.trying packet rest)
  | some addr =>
    let session : UdpSession :=
      ⟨shared.opened.length, packet.client, packet.generation, packet.upstream, server, listed,
        addr⟩
    { shared with
      opened := session :: shared.opened
      lastActive := fun other =>
        if other = session.id then started else shared.lastActive other }.goto
      (.inserting packet session)

/-- Dropping the session that was there stops its task. -/
def insert (packet : Packet) (session : UdpSession) : Shared × Option Task :=
  let shared' := { shared with sessions := shared.sessions.upsert (packet.client, session) }
  match shared.sessions.find packet.client with
  | none => shared'.goto (.reading packet)
  | some old =>
    { shared' with
      ended := old.2.id :: shared.ended
      history :=
        if shared.isOpen old.2 then .replaced old.2 :: shared.history
        else shared.history }.goto (.reading packet)

def read (packet : Packet) : Shared × Option Task :=
  match shared.sessions.find packet.client with
  | none => shared.finish
  | some row => (shared.touch row.2.id).goto (.sending packet row.2)

def send (packet : Packet) (session : UdpSession) : Shared × Option Task :=
  { shared with
    history :=
      .sent session packet.generation (packet.data.take packet.upstream.maxDatagramSize) ::
        shared.history }.finish

/-- `forward`, one access to the map at a time. -/
def advance (input : Input) : Task → Shared × Option Task
  | .received packet => shared.lookup packet
  | .pruning packet => shared.retainOpen packet
  | .counting packet => shared.checkCount packet input.candidates
  | .trying packet candidates => shared.openServerSession packet candidates
  | .connecting packet started server listed rest =>
    shared.connect packet started server listed rest input.addr
  | .inserting packet session => shared.insert packet session
  | .reading packet => shared.read packet
  | .sending packet session => shared.send packet session

/-- `sessions.clear()`. -/
def clear : Shared :=
  { shared with
    sessions := .empty
    ended := shared.sessions.rows.map (fun row => row.2.id) ++ shared.ended }

def setup (proxies : List (Option UdpProxy)) : Shared :=
  match UdpUpstream.fromProxies .default proxies with
  | none => shared
  | some upstream =>
    if upstream.sameSettings shared.upstream then shared
    else
      { shared.clear with upstream, generation := shared.generation + 1 }

/-- `relay_replies` stops when the session was idle for its timeout. -/
def expire (id : Nat) : Shared :=
  match shared.running id with
  | none => shared
  | some session =>
    if session.upstream.idleTimeout ≤ shared.now - shared.lastActive id then
      { shared with
        ended := id :: shared.ended
        history := .expired session.client :: shared.history }
    else shared

/-- An error of its socket, such as an unreachable port, also stops it. -/
def socketError (id : Nat) : Shared :=
  match shared.running id with
  | none => shared
  | some _ => { shared with ended := id :: shared.ended }

def begin : Call → Shared × Option Task
  | .datagram client data =>
    shared.goto (.received ⟨client, data, shared.generation, shared.upstream⟩)
  | .setup proxies => (shared.setup proxies).finish
  | .reset => shared.clear.finish
  | .wait duration => { shared with now := shared.now + duration }.finish
  | .reply id => ((shared.running id).elim shared fun session => shared.touch session.id).finish
  | .expire id => (shared.expire id).finish
  | .socketError id => (shared.socketError id).finish

end Shared

def program : Program Shared Task Call Input :=
  ⟨fun _ => Shared.begin, fun _ shared task input => shared.advance input task⟩

abbrev State := System Shared Task

/-- A new port. -/
def start (now : Nat) : State :=
  System.start ⟨now, 0, .default, .empty, [], [], fun _ => 0, []⟩

/-! ## One session until it expires -/

/-- Between two datagrams of a client that go through different sessions, a session of the client
expires. -/
def OneSession (history : List Entry) : Prop :=
  ∀ front middle back (last first : UdpSession) (g g' : Nat) (d d' : List UInt8),
    history = front ++ .sent last g d :: (middle ++ .sent first g' d' :: back) →
      last.client = first.client → .expired first.client ∉ middle → last = first

/-- The datagrams of a client go through one session until it expires, no open session is dropped
for another one, and the map keeps its bound. -/
structure Steady (shared : Shared) : Prop where
  one : OneSession shared.history
  kept : ∀ session, Entry.replaced session ∉ shared.history
  small : shared.sessions.rows.length ≤ maxSessions

/-- The session that a client used since the last expiry. -/
def lastUsed (client : SocketAddr) : List Entry → Option UdpSession
  | [] => none
  | .sent session _ _ :: rest =>
    if session.client = client then some session else lastUsed client rest
  | .expired other :: rest => if other = client then none else lastUsed client rest
  | .replaced _ :: rest => lastUsed client rest

/-- The client that the task opens a session for. -/
def Task.opens : Task → Option SocketAddr
  | .pruning packet | .counting packet | .trying packet _ | .connecting packet _ _ _ _
  | .inserting packet _ => some packet.client
  | _ => none

/-- The task passed the check of the bound, and its session is not in the map yet. -/
def Task.reserves : Task → Bool
  | .trying _ _ | .connecting _ _ _ _ _ | .inserting _ _ => true
  | _ => false

/-- The number of tasks that open a session for the client. -/
def openers (state : State) (client : SocketAddr) : Nat :=
  state.tally fun task => task.opens = some client

/-- What the next access of a task has to find. -/
def Calm (state : State) : Task → Prop
  -- a client without an open session used none since the last expiry, and no other task opens one
  | .received packet =>
    state.shared.hasOpen packet.client = false →
      lastUsed packet.client state.shared.history = none ∧ openers state packet.client = 0
  -- there is room for the sessions that are on their way too
  | .counting _ =>
    state.shared.sessions.rows.length < maxSessions →
      state.shared.sessions.rows.length + state.tally Task.reserves < maxSessions
  -- the session did not end since it was read
  | .sending _ session => state.shared.isOpen session = true
  | _ => True

instance (state : State) (task : Task) : Decidable (Calm state task) := by
  unfold Calm
  split <;> infer_instance

def Undisturbed (state : State) : Event Call Input → Prop
  | .advance p _ => ∀ slot ∈ state.tasks.find p, Calm state slot.2
  | .begin _ _ => True

instance (state : State) (event : Event Call Input) : Decidable (Undisturbed state event) := by
  unfold Undisturbed
  split <;> infer_instance

/-! ### The history -/

variable {history : List Entry} {d : List UInt8} {g : Nat}

theorem oneSession_of_cons {entry : Entry} (one : OneSession (entry :: history)) :
    OneSession history := by
  intro front middle back last first g g' d d' split
  exact one (entry :: front) middle back last first g g' d d' (by rw [split, List.cons_append])

/-- Where the history is in order, a session that was used and did not expire is the one in use. -/
theorem lastUsed_of_split {middle back : List Entry} {first : UdpSession}
    (one : OneSession (middle ++ .sent first g d :: back))
    (absent : .expired first.client ∉ middle) :
    lastUsed first.client (middle ++ .sent first g d :: back) = some first := by
  induction middle with
  | nil => simp [lastUsed]
  | cons entry middle ih =>
    rw [List.mem_cons, not_or] at absent
    have later := ih (oneSession_of_cons one) absent.2
    cases entry with
    | sent session g' d' =>
      rw [List.cons_append, lastUsed]
      split
      next same => rw [one [] middle back session first g' g d' d rfl same absent.2]
      next => exact later
    | expired other =>
      have different : other ≠ first.client := fun same => absent.1 (by rw [same])
      rw [List.cons_append, lastUsed, if_neg different]
      exact later
    | replaced => exact later

theorem OneSession.sent {session : UdpSession} (one : OneSession history)
    (used : ∀ used ∈ lastUsed session.client history, used = session) :
    OneSession (.sent session g d :: history) := by
  intro front middle back last first g₁ g₂ d₁ d₂ split same absent
  cases front with
  | nil =>
    obtain ⟨rfl, rfl⟩ : session = last ∧ history = middle ++ .sent first g₂ d₂ :: back := by
      simp only [List.nil_append, List.cons.injEq, Entry.sent.injEq] at split
      exact ⟨split.1.1, split.2⟩
    have recent := lastUsed_of_split one absent
    rw [← same] at recent
    exact (used first recent).symm
  | cons entry front =>
    obtain ⟨-, rest⟩ := List.cons_eq_cons.mp split
    exact one front middle back last first g₁ g₂ d₁ d₂ rest same absent

/-- Only a datagram can break the order. -/
theorem OneSession.cons {entry : Entry} (one : OneSession history)
    (quiet : ∀ session g d, entry ≠ .sent session g d) : OneSession (entry :: history) := by
  intro front middle back last first g g' d d' split
  cases front with
  | nil => exact absurd (List.cons_eq_cons.mp split).1 (quiet last g d)
  | cons head front =>
    exact one front middle back last first g g' d d' (List.cons_eq_cons.mp split).2

/-! ## What an access changes -/

/-- The upstream changes with a reload, which leaves no session. -/
def Reloads (before after : Shared) : Prop :=
  (after.generation = before.generation ∧ after.upstream = before.upstream) ∨
    (after.generation = before.generation + 1 ∧ after.sessions = .empty)

/-- Nothing is sent, replaced or inserted; what the history gains is an expiry, and what the map
loses has ended. -/
structure Frame (before after : Shared) : Prop where
  history : after.history = before.history ∨
    ∃ client, after.history = .expired client :: before.history
  sessions : after.sessions.rows.Sublist before.sessions.rows
  upstream : Reloads before after
  ended : before.ended ⊆ after.ended
  kept : ∀ row ∈ before.sessions.rows, after.isOpen row.2 = true → row ∈ after.sessions.rows

section Frames

variable {shared before after : Shared} {packet : Packet} {session : UdpSession}

theorem Frame.of_sessions (sessions : after.sessions = before.sessions)
    (history : after.history = before.history ∨
      ∃ client, after.history = .expired client :: before.history)
    (upstream : after.generation = before.generation ∧ after.upstream = before.upstream)
    (ended : before.ended ⊆ after.ended) : Frame before after :=
  ⟨history, sessions ▸ .refl _, .inl upstream, ended, fun _ member _ => sessions ▸ member⟩

theorem Frame.refl (shared : Shared) : Frame shared shared :=
  .of_sessions rfl (.inl rfl) ⟨rfl, rfl⟩ (List.Subset.refl _)

open Shared

/-- `sessions.clear()` ends the sessions of the map. -/
theorem frame_clear (upstream : Reloads shared after) (history : after.history = shared.history)
    (sessions : after.sessions = .empty) (ended : after.ended = shared.clear.ended) :
    Frame shared after := by
  refine ⟨.inl history, sessions ▸ List.nil_sublist _, upstream, ?_, fun row member stays => ?_⟩
  · rw [ended]
    exact List.subset_append_right _ _
  · rw [isOpen, ended] at stays
    exact absurd (List.mem_append_left _ (List.mem_map_of_mem member)) (of_decide_eq_true stays)

theorem frame_setup (shared : Shared) (proxies : List (Option UdpProxy)) :
    Frame shared (shared.setup proxies) := by
  unfold setup
  split
  next => exact .refl shared
  next =>
    split
    next => exact .refl shared
    next => exact frame_clear (.inr ⟨rfl, rfl⟩) rfl rfl rfl

theorem frame_expire (shared : Shared) (id : Nat) : Frame shared (shared.expire id) := by
  unfold expire
  split
  next => exact .refl shared
  next session _ =>
    split
    next =>
      exact .of_sessions rfl (.inr ⟨session.client, rfl⟩) ⟨rfl, rfl⟩ (List.subset_cons_self _ _)
    next => exact .refl shared

theorem frame_begin (shared : Shared) (call : Call) : Frame shared (shared.begin call).1 := by
  cases call with
  | datagram => exact .refl shared
  | wait => exact .of_sessions rfl (.inl rfl) ⟨rfl, rfl⟩ (List.Subset.refl _)
  | reset => exact frame_clear (.inl ⟨rfl, rfl⟩) rfl rfl rfl
  | setup proxies => exact frame_setup shared proxies
  | expire id => exact frame_expire shared id
  | reply id =>
    dsimp only [begin, finish]
    cases shared.running id with
    | none => exact .refl shared
    | some => exact .of_sessions rfl (.inl rfl) ⟨rfl, rfl⟩ (List.Subset.refl _)
  | socketError =>
    dsimp only [begin, finish, socketError]
    split
    next => exact .refl shared
    next => exact .of_sessions rfl (.inl rfl) ⟨rfl, rfl⟩ (List.subset_cons_self _ _)

/-- A task inserts or sends with its next access. -/
def Task.acts : Task → Bool
  | .inserting _ _ | .sending _ _ => true
  | _ => false

theorem frame_advance (shared : Shared) (input : Input) {task : Task} (quiet : task.acts = false) :
    Frame shared (shared.advance input task).1 := by
  cases task with
  | inserting | sending => cases quiet
  | received =>
    dsimp only [Shared.advance, Shared.lookup]
    split <;> exact .refl shared
  | pruning =>
    refine ⟨.inl rfl, List.filter_sublist, .inl ⟨rfl, rfl⟩, List.Subset.refl _, ?_⟩
    intro row member stays
    have isOpen : shared.isOpen row.2 = true := stays
    exact List.mem_filter.mpr ⟨member, by simp [isOpen]⟩
  | counting =>
    dsimp only [Shared.advance, Shared.checkCount]
    split
    · exact .refl shared
    · split <;> exact .refl shared
  | trying packet candidates =>
    cases candidates with
    | nil => exact .refl shared
    | cons =>
      dsimp only [Shared.advance, Shared.openServerSession]
      split <;> exact .refl shared
  | connecting =>
    dsimp only [Shared.advance]
    cases input.addr with
    | none => exact .refl shared
    | some => exact .of_sessions rfl (.inl rfl) ⟨rfl, rfl⟩ (List.Subset.refl _)
  | reading =>
    dsimp only [Shared.advance, Shared.read]
    split
    · exact .refl shared
    · exact .of_sessions rfl (.inl rfl) ⟨rfl, rfl⟩ (List.Subset.refl _)

theorem insert_frame (shared : Shared) (packet : Packet) (session : UdpSession) :
    (shared.insert packet session).1.sessions =
        shared.sessions.upsert (packet.client, session) ∧
      (shared.insert packet session).1.generation = shared.generation ∧
      (shared.insert packet session).1.upstream = shared.upstream := by
  unfold Shared.insert
  split <;> exact ⟨rfl, rfl, rfl⟩

/-- What an insertion does to the history: it says so where it drops an open session. -/
theorem insert_history :
    (shared.insert packet session).1.history =
      match (shared.sessions.find packet.client).filter fun row => shared.isOpen row.2 with
      | none => shared.history
      | some old => .replaced old.2 :: shared.history := by
  unfold Shared.insert
  cases found : shared.sessions.find packet.client with
  | none => rfl
  | some old => cases isOpen : shared.isOpen old.2 <;> simp [Option.filter, Shared.goto, isOpen]

/-! ## What comes next -/

/-- The task that an access leaves. -/
inductive Follows (shared : Shared) : Task → Task → Prop
  | found (packet : Packet) : Follows shared (.received packet) (.reading packet)
  | missed (packet : Packet) (closed : shared.hasOpen packet.client = false) :
      Follows shared (.received packet) (.pruning packet)
  | pruned (packet : Packet) : Follows shared (.pruning packet) (.counting packet)
  | counted (packet : Packet) (candidates : List Nat)
      (room : shared.sessions.rows.length < maxSessions) :
      Follows shared (.counting packet) (.trying packet candidates)
  | skipped (packet : Packet) (candidates rest : List Nat) :
      Follows shared (.trying packet candidates) (.trying packet rest)
  | tried (packet : Packet) (candidates : List Nat) (started : Nat) (server : Server)
      (listed : server ∈ packet.upstream.servers) (rest : List Nat) :
      Follows shared (.trying packet candidates) (.connecting packet started server listed rest)
  | refused (packet : Packet) (started : Nat) (server : Server)
      (listed : server ∈ packet.upstream.servers) (rest : List Nat) :
      Follows shared (.connecting packet started server listed rest) (.trying packet rest)
  | connected (packet : Packet) (started : Nat) (server : Server)
      (listed : server ∈ packet.upstream.servers) (rest : List Nat) (id : Nat) (addr : SocketAddr) :
      Follows shared (.connecting packet started server listed rest) (.inserting packet
        ⟨id, packet.client, packet.generation, packet.upstream, server, listed, addr⟩)
  | inserted (packet : Packet) (session : UdpSession) :
      Follows shared (.inserting packet session) (.reading packet)
  | reads (packet : Packet) (session : UdpSession)
      (there : (packet.client, session) ∈ shared.sessions.rows) :
      Follows shared (.reading packet) (.sending packet session)

theorem follows_advance {input : Input} {task : Task} :
    ∀ next ∈ (shared.advance input task).2, Follows shared task next := by
  cases task with
  | received =>
    dsimp only [Shared.advance, Shared.lookup]
    split
    · rintro next ⟨⟩; exact .found _
    · rename_i closed
      rintro next ⟨⟩; exact .missed _ (Bool.not_eq_true _ ▸ closed)
  | pruning => rintro next ⟨⟩; exact .pruned _
  | counting =>
    dsimp only [Shared.advance, Shared.checkCount]
    split
    · rintro next ⟨⟩
    · rename_i room
      split
      · rintro next ⟨⟩
      · rintro next ⟨⟩; exact .counted _ _ (Nat.lt_of_not_le room)
  | trying packet candidates =>
    cases candidates with
    | nil => rintro next ⟨⟩
    | cons =>
      dsimp only [Shared.advance, Shared.openServerSession]
      split
      · rintro next ⟨⟩; exact .skipped ..
      · rintro next ⟨⟩; exact .tried ..
  | connecting =>
    dsimp only [Shared.advance]
    cases input.addr with
    | none => rintro next ⟨⟩; exact .refused ..
    | some => rintro next ⟨⟩; exact .connected ..
  | inserting =>
    dsimp only [Shared.advance, Shared.insert]
    split <;> · rintro next ⟨⟩; exact .inserted ..
  | reading =>
    dsimp only [Shared.advance, Shared.read]
    split
    next => rintro next ⟨⟩
    next row found =>
      obtain ⟨member, own⟩ := Table.mem_of_find found
      rintro next ⟨⟩; exact .reads _ _ (own ▸ member)
  | sending => rintro next ⟨⟩

/-! ## One session until it expires: the invariant -/

/-- The map has each session under its client, and an open one is the one in use. -/
structure Tidy (shared : Shared) : Prop where
  steady : Steady shared
  keyed : ∀ row ∈ shared.sessions.rows, row.2.client = row.1
  used : ∀ row ∈ shared.sessions.rows, shared.isOpen row.2 = true →
    ∀ used ∈ lastUsed row.1 shared.history, used = row.2

/-- What a task relies on. -/
structure Own (shared : Shared) (task : Task) : Prop where
  opens : ∀ client, task.opens = some client →
    shared.hasOpen client = false ∧ lastUsed client shared.history = none
  inserting : ∀ packet session, task = .inserting packet session → session.client = packet.client
  sending : ∀ packet session, task = .sending packet session → shared.isOpen session = true →
    (session.client, session) ∈ shared.sessions.rows

theorem hasOpen_eq_false {client : SocketAddr} :
    shared.hasOpen client = false ↔ ∀ row ∈ shared.sessions.rows, row.1 = client →
      shared.isOpen row.2 = false := by
  simp only [hasOpen, Option.any_eq_false, Table.find_eq_some, and_imp]

theorem mem_lastUsed_frame (frame : Frame before after) {client : SocketAddr} {used : UdpSession}
    (found : used ∈ lastUsed client after.history) : used ∈ lastUsed client before.history := by
  rcases frame.history with same | ⟨other, same⟩
  · rwa [same] at found
  · rw [same, lastUsed] at found
    split at found
    · cases found
    · exact found

theorem isOpen_of_subset (ended : before.ended ⊆ after.ended)
    (stays : after.isOpen session = true) : before.isOpen session = true :=
  decide_eq_true fun gone => of_decide_eq_true stays (ended gone)

theorem Frame.isOpen (frame : Frame before after) (stays : after.isOpen session = true) :
    before.isOpen session = true :=
  isOpen_of_subset frame.ended stays

theorem Tidy.frame (tidy : Tidy before) (frame : Frame before after) : Tidy after := by
  obtain ⟨⟨one, kept, small⟩, keyed, used⟩ := tidy
  have known := fun row (member : row ∈ after.sessions.rows) => frame.sessions.subset member
  refine ⟨⟨?_, ?_, Nat.le_trans frame.sessions.length_le small⟩,
    fun row member => keyed row (known row member), ?_⟩
  · rcases frame.history with same | ⟨client, same⟩ <;> rw [same]
    · exact one
    · exact one.cons (by simp)
  · rcases frame.history with same | ⟨client, same⟩ <;> rw [same]
    · exact kept
    · simpa using kept
  · intro row member stays other found
    exact used row (known row member) (frame.isOpen stays) other (mem_lastUsed_frame frame found)

theorem Own.frame {task : Task} (own : Own before task) (frame : Frame before after) :
    Own after task := by
  refine ⟨fun client opens => ?_, own.inserting, fun packet session same stays => ?_⟩
  · obtain ⟨closed, unused⟩ := own.opens client opens
    refine ⟨hasOpen_eq_false.mpr fun row member same => ?_, ?_⟩
    · by_contra isOpen
      have before := hasOpen_eq_false.mp closed row (frame.sessions.subset member) same
      rw [frame.isOpen (Bool.not_eq_false _ ▸ isOpen)] at before
      cases before
    · refine Option.eq_none_iff_forall_not_mem.mpr fun used found => ?_
      have earlier := mem_lastUsed_frame frame found
      rw [unused] at earlier
      cases earlier
  · exact frame.kept _ (own.sending packet session same (frame.isOpen stays)) stays

theorem Own.plain {task : Task} (quiet : task.acts = false)
    (opens : ∀ client, task.opens = some client →
      shared.hasOpen client = false ∧ lastUsed client shared.history = none) : Own shared task := by
  refine ⟨opens, ?_, ?_⟩ <;>
    · rintro packet session rfl
      cases quiet

/-- The task that an access leaves relies on what the access found. -/
theorem Own.next {task next : Task} (own : Own shared task) (tidy : Tidy shared)
    (follows : Follows shared task next)
    (unused : ∀ packet, task = .received packet → shared.hasOpen packet.client = false →
      lastUsed packet.client shared.history = none) : Own shared next := by
  cases follows with
  | missed packet closed =>
    refine .plain rfl fun client same => ?_
    cases same
    exact ⟨closed, unused packet rfl closed⟩
  | pruned | counted | skipped | tried | refused => exact .plain rfl own.opens
  | found | inserted => exact .plain rfl fun _ none => (by cases none)
  | connected =>
    refine ⟨own.opens, fun _ _ same => ?_, fun _ _ other => (by cases other)⟩
    cases same
    rfl
  | reads packet session there =>
    refine ⟨fun _ none => (by cases none), fun _ _ other => (by cases other), fun _ _ same _ => ?_⟩
    cases same
    have own := tidy.keyed _ there
    dsimp only at own
    rw [own]
    exact there

/-- A task opens a session for the client that it opened one for before, or that it missed. -/
theorem Follows.opens {task next : Task} {client : SocketAddr} (follows : Follows shared task next)
    (opens : next.opens = some client) : task.opens = some client ∨
      ∃ packet, task = .received packet ∧ packet.client = client ∧
        shared.hasOpen client = false := by
  cases follows with
  | missed packet closed =>
    cases opens
    exact .inr ⟨packet, rfl, rfl, closed⟩
  | pruned | counted | skipped | tried | refused | connected => exact .inl opens
  | found | inserted | reads => cases opens

theorem Follows.reserves {task next : Task} (follows : Follows shared task next)
    (reserves : next.reserves = true) : task.reserves = true ∨
      (∃ packet, task = .counting packet) ∧ shared.sessions.rows.length < maxSessions := by
  cases follows with
  | counted packet _ room => exact .inr ⟨⟨packet, rfl⟩, room⟩
  | skipped | tried | refused | connected => exact .inl rfl
  | found | missed | pruned | inserted | reads => cases reserves

/-- The session stands in the place of the others of its client. -/
structure Inserts (before after : Shared) (client : SocketAddr) (session : UdpSession) : Prop where
  rows : ∀ row, row ∈ after.sessions.rows ↔
    (row ∈ before.sessions.rows ∧ row.1 ≠ client) ∨ row = (client, session)
  ended : before.ended ⊆ after.ended
  history : after.history = before.history

/-- An insertion that finds no open session of its client. -/
theorem inserts_of_closed (closed : shared.hasOpen packet.client = false) (session : UdpSession) :
    Inserts shared (shared.insert packet session).1 packet.client session := by
  refine ⟨fun row => ?_, ?_, ?_⟩
  · rw [(insert_frame shared packet session).1]
    exact Table.mem_upsert
  · unfold Shared.insert
    split
    · exact List.Subset.refl _
    · exact List.subset_cons_self _ _
  · rw [hasOpen, Option.any_eq_false] at closed
    unfold Shared.insert
    split
    next => rfl
    next old found => simp [goto, closed old found]

theorem Tidy.insert {client : SocketAddr} (tidy : Tidy before)
    (inserts : Inserts before after client session) (own : session.client = client)
    (unused : lastUsed client before.history = none)
    (small : after.sessions.rows.length ≤ maxSessions) : Tidy after := by
  refine ⟨⟨?_, ?_, small⟩, fun row there => ?_, fun row there stays used found => ?_⟩
  · rw [inserts.history]
    exact tidy.steady.one
  · rw [inserts.history]
    exact tidy.steady.kept
  · rcases (inserts.rows row).mp there with ⟨known, -⟩ | rfl
    · exact tidy.keyed row known
    · exact own
  · rw [inserts.history] at found
    rcases (inserts.rows row).mp there with ⟨known, -⟩ | rfl
    · exact tidy.used row known (isOpen_of_subset inserts.ended stays) used found
    · rw [unused] at found
      cases found

/-- Nothing changes for a task that opens no session for the client. -/
theorem Own.insert {client : SocketAddr} {task : Task} (own : Own before task)
    (inserts : Inserts before after client session) (closed : before.hasOpen client = false)
    (away : task.opens ≠ some client) : Own after task := by
  refine ⟨fun other opens => ?_, own.inserting, fun packet sent same stays => ?_⟩
  · obtain ⟨theirs, unused⟩ := own.opens other opens
    refine ⟨hasOpen_eq_false.mpr fun row there same => ?_, by rwa [inserts.history]⟩
    rcases (inserts.rows row).mp there with ⟨earlier, -⟩ | rfl
    · by_contra stays
      have before := hasOpen_eq_false.mp theirs row earlier same
      rw [isOpen_of_subset inserts.ended (Bool.not_eq_false _ ▸ stays)] at before
      cases before
    · cases same
      exact absurd opens away
  · have isOpen := isOpen_of_subset inserts.ended stays
    have there := own.sending packet sent same isOpen
    refine (inserts.rows _).mpr (.inl ⟨there, fun same => ?_⟩)
    have before := hasOpen_eq_false.mp closed _ there same
    rw [isOpen] at before
    cases before

end Frames

/-! ## One session until it expires: runs -/

structure Inv (state : State) : Prop where
  tidy : Tidy state.shared
  own : ∀ p task, (p, task) ∈ state.tasks.rows → Own state.shared task
  solo : ∀ client, openers state client ≤ 1
  room : state.shared.sessions.rows.length + state.tally Task.reserves ≤ maxSessions

section Runs

variable {state : State} {p : Nat} {task : Task} {outcome : Shared × Option Task}

open Shared

theorem Inv.begin (inv : Inv state) (fresh : ∀ task, (p, task) ∉ state.tasks.rows) (call : Call) :
    Inv (state.settle p (state.shared.begin call)) := by
  have frame := frame_begin state.shared call
  have plain : ∀ next ∈ (state.shared.begin call).2, next.opens = none ∧ next.reserves = false ∧
      Own (state.shared.begin call).1 next := by
    intro next left
    cases call with
    | datagram =>
      cases left
      exact ⟨rfl, rfl, .plain rfl fun _ none => (by cases none)⟩
    | setup | reset | wait | reply | expire | socketError => cases left
  have none : ∀ {place : Task → Bool}, (∀ next ∈ (state.shared.begin call).2,
      place next = false) → (state.settle p (state.shared.begin call)).tally place =
        state.tally place := by
    intro place away
    have absent : (state.shared.begin call).2.any place = false := by
      rw [Option.any_eq_false]
      exact away
    rw [System.tally_settle_fresh fresh, absent]
    rfl
  refine ⟨inv.tidy.frame frame, fun q other member => ?_, fun client => ?_, ?_⟩
  · rcases System.mem_settle.mp member with ⟨known, -⟩ | ⟨-, left⟩
    · exact (inv.own q other known).frame frame
    · exact (plain other left).2.2
  · rw [openers, none fun next left => by simp [(plain next left).1]]
    exact inv.solo client
  · rw [none fun next left => (plain next left).2.1]
    exact Nat.le_trans (Nat.add_le_add_right frame.sessions.length_le _) inv.room

theorem Inv.quiet (inv : Inv state) (member : (p, task) ∈ state.tasks.rows) (input : Input)
    (quiet : task.acts = false) (calm : Calm state task) :
    Inv (state.settle p (state.shared.advance input task)) := by
  have frame := frame_advance state.shared input quiet
  have follows := @follows_advance state.shared input task
  have length := frame.sessions.length_le
  refine ⟨inv.tidy.frame frame, fun q other there => ?_, fun client => ?_, ?_⟩
  · rcases System.mem_settle.mp there with ⟨known, -⟩ | ⟨-, left⟩
    · exact (inv.own q other known).frame frame
    · refine ((inv.own p task member).next inv.tidy (follows other left) ?_).frame frame
      rintro packet rfl closed
      exact (calm closed).1
  · by_cases first : ∃ packet, task = .received packet ∧ packet.client = client ∧
        state.shared.hasOpen client = false
    · obtain ⟨packet, rfl, rfl, closed⟩ := first
      have alone := (calm closed).2
      have counted := System.tally_settle_mem member (state.shared.advance input (.received packet))
        fun task => task.opens = some packet.client
      have most := Bool.toNat_le ((state.shared.advance input (.received packet)).2.any
        fun task => decide (task.opens = some packet.client))
      rw [openers] at alone ⊢
      omega
    · refine Nat.le_trans (System.tally_settle_le member fun next left opens => ?_)
        (inv.solo client)
      rw [decide_eq_true_eq] at opens ⊢
      exact ((follows next left).opens opens).resolve_right first
  · by_cases last : (∃ packet, task = .counting packet) ∧
        state.shared.sessions.rows.length < maxSessions
    · obtain ⟨⟨packet, rfl⟩, room⟩ := last
      have more := calm room
      have counted := System.tally_settle_mem member (state.shared.advance input (.counting packet))
        Task.reserves
      have most := Bool.toNat_le ((state.shared.advance input (.counting packet)).2.any
        Task.reserves)
      rw [System.settle_shared]
      omega
    · have fewer : (state.settle p (state.shared.advance input task)).tally Task.reserves ≤
          state.tally Task.reserves := System.tally_settle_le member fun next left reserves =>
        ((follows next left).reserves reserves).resolve_right last
      exact Nat.le_trans (Nat.add_le_add length fewer) inv.room

theorem Inv.insert {packet : Packet} {session : UdpSession} (inv : Inv state)
    (member : (p, .inserting packet session) ∈ state.tasks.rows) :
    Inv (state.settle p (state.shared.insert packet session)) := by
  have own := inv.own p _ member
  obtain ⟨closed, unused⟩ := own.opens packet.client rfl
  have inserts := inserts_of_closed closed session
  have left : ∀ next ∈ (state.shared.insert packet session).2, next = .reading packet := by
    rw [Shared.insert]
    split <;> · rintro next ⟨⟩; rfl
  -- the session takes the place that the check left for it
  have room : (state.shared.insert packet session).1.sessions.rows.length +
      (state.settle p (state.shared.insert packet session)).tally Task.reserves ≤ maxSessions := by
    have counted := System.tally_settle_mem member (state.shared.insert packet session)
      Task.reserves
    have passed : (state.shared.insert packet session).2.any Task.reserves = false := by
      rw [Option.any_eq_false]
      intro next found
      rw [left next found]
      rfl
    have more := state.shared.sessions.length_upsert_le (packet.client, session)
    have before := inv.room
    rw [passed] at counted
    rw [(insert_frame state.shared packet session).1]
    simp only [Task.reserves, Bool.toNat_true, Bool.toNat_false] at counted
    omega
  refine ⟨inv.tidy.insert inserts (own.inserting packet session rfl) unused
    (Nat.le_trans (Nat.le_add_right _ _) room), fun q other there => ?_, fun client => ?_, room⟩
  · rcases System.mem_settle.mp there with ⟨known, different⟩ | ⟨-, next⟩
    · refine (inv.own q other known).insert inserts closed fun opens => different ?_
      exact System.eq_of_tally_le_one (inv.solo packet.client) member (decide_eq_true rfl) known
        (decide_eq_true opens)
    · rw [left other next]
      exact .plain rfl fun _ none => (by cases none)
  · refine Nat.le_trans (System.tally_settle_le member fun next found opens => ?_) (inv.solo client)
    rw [left next found] at opens
    cases opens

theorem Inv.send {packet : Packet} {session : UdpSession} (inv : Inv state)
    (member : (p, .sending packet session) ∈ state.tasks.rows)
    (stays : state.shared.isOpen session = true) :
    Inv (state.settle p (state.shared.send packet session)) := by
  have there := (inv.own p _ member).sending packet session rfl stays
  have fewer : ∀ place : Task → Bool,
      (state.settle p (state.shared.send packet session)).tally place ≤ state.tally place :=
    fun place => System.tally_settle_le member fun next found => (by cases found)
  refine ⟨⟨⟨?_, ?_, inv.tidy.steady.small⟩, inv.tidy.keyed, ?_⟩, ?_,
    fun client => Nat.le_trans (fewer _) (inv.solo client),
    Nat.le_trans (Nat.add_le_add_left (fewer _) _) inv.room⟩
  · exact inv.tidy.steady.one.sent fun used => inv.tidy.used _ there stays used
  · simpa [Shared.send, finish] using inv.tidy.steady.kept
  · intro row known isOpen used found
    dsimp only [System.settle_shared, Shared.send, finish, lastUsed] at found
    split at found
    · rename_i same
      cases found
      rw [state.shared.sessions.row_of_key known there same.symm]
    · exact inv.tidy.used row known isOpen used found
  · intro q other found
    rcases System.mem_settle.mp found with ⟨known, -⟩ | ⟨-, none⟩
    · have theirs := inv.own q other known
      refine ⟨fun client opens => ?_, theirs.inserting, theirs.sending⟩
      obtain ⟨closed, unused⟩ := theirs.opens client opens
      refine ⟨closed, ?_⟩
      dsimp only [System.settle_shared, Shared.send, finish, lastUsed]
      split
      · rename_i same
        have before := hasOpen_eq_false.mp closed _ there same
        rw [stays] at before
        cases before
      · exact unused
    · cases none

theorem Inv.step {event : Event Call Input} (inv : Inv state) (calm : Undisturbed state event) :
    Inv (program.step state event) := by
  rcases program.step_cases state event with
    same | ⟨p, call, rfl, fresh, same⟩ | ⟨p, input, task, rfl, member, same⟩
  · rwa [same]
  · rw [same]
    exact inv.begin fresh call
  · rw [same]
    have here := calm (p, task) (Table.find_eq_some.mpr ⟨member, rfl⟩)
    cases task with
    | inserting => exact inv.insert member
    | sending => exact inv.send member here
    | received | pruning | counting | trying | connecting | reading =>
      exact inv.quiet member input rfl here

/-- **The sessions of a port are steady** in every run in which no two tasks open a session for one
client, a client that has none used none since the last expiry, the bound is checked with the
sessions that are being opened, and no session ends between its read and the sending. -/
theorem sessions_stay_steady {now : Nat} {events : List (Event Call Input)}
    (undisturbed : Guarded program.step Undisturbed (start now) events) :
    Throughout program.step (fun state => Steady state.shared) (start now) events := by
  have first : Inv (start now) := by
    refine ⟨⟨⟨?_, fun _ => List.not_mem_nil, Nat.zero_le _⟩, ?_, ?_⟩, ?_, fun _ => Nat.zero_le _,
      Nat.zero_le _⟩
    · intro front middle back last first' g g' d d' split
      have empty : [] = front ++ Entry.sent last g d :: (middle ++ .sent first' g' d' :: back) :=
        split
      simp at empty
    · intro row member
      cases member
    · intro row member
      cases member
    · intro p task member
      cases member
  exact Guarded.throughout (fun _ _ inv calm => inv.step calm) (fun _ inv => inv.tidy.steady) first
    undisturbed

end Runs

/-- A proxy with the servers, in the group `group`. -/
def proxyTo (servers : List Server) (group : Nat) : UdpProxy :=
  ⟨servers.map some, defaultSessionIdleTimeout, defaultMaxDatagramSize, .roundRobin,
    defaultHealthCheck, group⟩

/-- Request `p` up to the insertion of its session, with the candidate and the address it is told. -/
def opening (p index : Nat) (addr : SocketAddr) : List (Event Call Input) :=
  List.replicate 5 (.advance p ⟨[index], some addr⟩)

/-- The rest of a request: the insertion of a new session, the read and the sending. -/
def rest (p steps : Nat) : List (Event Call Input) :=
  List.replicate steps (.advance p ⟨[], none⟩)

/-- The host `192.0.2.n`. -/
def host (n : Fin 256) (port : UInt16) : SocketAddr := (.v4 ⟨192, 0, 2, n⟩, port)

/-- The number and the server of the session that an entry is about. -/
def Entry.session? : Entry → Option (Nat × Server)
  | .sent session _ _ | .replaced session => some (session.id, session.server)
  | .expired _ => none

/-- Two clients come at once; one of them sends again through its session, and once more after it
expired. -/
def inTurn : List (Event Call Input) :=
  [.begin 0 (.setup [some (proxyTo [⟨"a", 53⟩, ⟨"b", 53⟩] 0)]),
      .begin 1 (.datagram (host 1 4000) [1]), .begin 2 (.datagram (host 1 5000) [2])] ++
    opening 1 0 (host 2 53) ++ opening 2 1 (host 3 53) ++ rest 1 3 ++ rest 2 3 ++
    [.begin 3 (.datagram (host 1 4000) [3])] ++ rest 3 3 ++
    [.begin 0 (.wait defaultSessionIdleTimeout), .begin 0 (.expire 0),
      .begin 4 (.datagram (host 1 4000) [4])] ++ opening 4 1 (host 3 53) ++ rest 4 3

theorem inTurn_steady :
    Guarded program.step Undisturbed (start 0) inTurn ∧
      Throughout program.step (fun state => Steady state.shared) (start 0) inTurn := by
  refine ⟨?undisturbed, sessions_stay_steady ?undisturbed⟩
  decide +kernel

/-- Two datagrams of one client come at once, and both open a session. -/
def burst : List (Event Call Input) :=
  [.begin 0 (.setup [some (proxyTo [⟨"a", 53⟩, ⟨"b", 53⟩] 0)]),
      .begin 1 (.datagram (host 1 4000) [1]), .begin 2 (.datagram (host 1 4000) [2])] ++
    opening 1 0 (host 2 53) ++ opening 2 1 (host 3 53) ++ rest 1 3 ++ rest 2 3

/-- The second insertion drops the first session, which is open, and the datagrams go to two
servers. -/
theorem burst_replaces_session :
    (exec program.step (start 0) burst).shared.history.map Entry.session? =
        [some (1, ⟨"b", 53⟩), some (0, ⟨"a", 53⟩), some (0, ⟨"a", 53⟩)] ∧
      ¬ Steady (exec program.step (start 0) burst).shared := by
  refine ⟨by decide +kernel, fun steady => ?_⟩
  have kept := steady.kept
  generalize found : (exec program.step (start 0) burst).shared.history = history at kept
  have middle : history.any (fun entry => entry matches .replaced _) = true := by
    rw [← found]
    decide +kernel
  obtain ⟨entry, member, isReplaced⟩ := List.any_eq_true.mp middle
  cases entry with
  | replaced session => exact kept session member
  | sent | expired => cases isReplaced

/-! ## Reloads -/

/-- What a reload is for: the map has only sessions of the current upstream, and no datagram went
to a server of an upstream older than the one it found. -/
structure Current (shared : Shared) : Prop where
  map : ∀ row ∈ shared.sessions.rows,
    row.2.generation = shared.generation ∧ row.2.upstream = shared.upstream
  sent : ∀ session g d, Entry.sent session g d ∈ shared.history → g ≤ session.generation

/-- Every insertion is made by a task that started after the last reload. -/
def UpToDate (state : State) : Event Call Input → Prop
  | .advance p _ =>
    ∀ slot ∈ state.tasks.find p, ∀ packet session, slot.2 = .inserting packet session →
      packet.generation = state.shared.generation
  | .begin _ _ => True

/-- The packet came in its generation. -/
structure CameIn (shared : Shared) (packet : Packet) : Prop where
  born : packet.generation ≤ shared.generation
  upstream : packet.generation = shared.generation → packet.upstream = shared.upstream

def Task.packet : Task → Packet
  | .received packet | .pruning packet | .counting packet | .trying packet _ | .reading packet
  | .connecting packet _ _ _ _ | .inserting packet _ | .sending packet _ => packet

/-- What a task knows about its packet and its session. -/
structure Dated (shared : Shared) (_ : Nat) (task : Task) : Prop where
  packet : CameIn shared task.packet
  inserting : ∀ packet session, task = .inserting packet session →
    session.generation = packet.generation ∧ session.upstream = packet.upstream
  sending : ∀ packet session, task = .sending packet session →
    packet.generation ≤ session.generation

section Reloads

variable {state : State} {shared before after : Shared} {packet : Packet} {session : UdpSession}
  {p : Nat} {task : Task} {event : Event Call Input}

/-- A reload makes every packet one of an earlier generation. -/
theorem Dated.mono (dated : Dated before p task)
    (step : Reloads before after) : Dated after p task := by
  refine ⟨?_, dated.inserting, dated.sending⟩
  have born := dated.packet.born
  rcases step with ⟨generation, upstream⟩ | ⟨reloaded, -⟩
  · exact ⟨by omega, fun same => by
      rw [upstream]
      exact dated.packet.upstream (same.trans generation)⟩
  · exact ⟨by omega, fun same => by omega⟩

theorem Frame.mem_sent (frame : Frame before after)
    (member : Entry.sent session g d ∈ after.history) :
    Entry.sent session g d ∈ before.history := by
  rcases frame.history with same | ⟨client, same⟩
  · rwa [same] at member
  · rw [same] at member
    simpa using member

theorem Current.frame (current : Current before) (frame : Frame before after) :
    Current after := by
  refine ⟨?_, fun session g d member => current.sent session g d (frame.mem_sent member)⟩
  intro row member
  rcases frame.upstream with ⟨generation, upstream⟩ | ⟨-, empty⟩
  · rw [generation, upstream]
    exact current.map row (frame.sessions.subset member)
  · rw [empty] at member
    cases member

theorem reloads_advance (shared : Shared) (input : Input) (task : Task) :
    Reloads shared (shared.advance input task).1 := by
  cases task with
  | inserting packet session => exact .inl (insert_frame shared packet session).2
  | sending => exact .inl ⟨rfl, rfl⟩
  | received | pruning | counting | trying | connecting | reading =>
    exact (frame_advance shared input rfl).upstream

theorem Current.insert (current : Current shared)
    (made : session.generation = shared.generation ∧ session.upstream = shared.upstream) :
    Current (shared.insert packet session).1 := by
  obtain ⟨sessions, generation, upstream⟩ := insert_frame shared packet session
  constructor
  · intro row member
    rw [generation, upstream]
    rw [sessions] at member
    rcases Table.mem_upsert.mp member with ⟨known, -⟩ | rfl
    · exact current.map row known
    · exact made
  · intro other g d member
    rw [insert_history] at member
    split at member
    · exact current.sent other g d member
    · exact current.sent other g d (by simpa using member)

/-- The task that an access leaves has the same packet, and a session of its generation. -/
theorem Dated.next {next : Task} (current : Current shared) (dated : Dated shared p task)
    (follows : Follows shared task next) : Dated shared p next := by
  have plain : ∀ {next : Task}, next.packet = task.packet → next.acts = false →
      Dated shared p next := by
    intro next same quiet
    refine ⟨by rw [same]; exact dated.packet, ?_, ?_⟩ <;>
      · rintro packet session rfl
        cases quiet
  cases follows with
  | connected =>
    refine ⟨dated.packet, ?_, fun _ _ other => by cases other⟩
    rintro _ _ ⟨⟩
    exact ⟨rfl, rfl⟩
  | reads packet session there =>
    refine ⟨dated.packet, fun _ _ other => (by cases other), ?_⟩
    rintro _ _ ⟨⟩
    rw [(current.map _ there).1]
    exact dated.packet.born
  | found | missed | pruned | counted | skipped | tried | refused | inserted => exact plain rfl rfl

theorem dated_advance {input : Input} (holds : Holds Current Dated state)
    (member : (p, task) ∈ state.tasks.rows)
    (upToDate : ∀ packet session, task = .inserting packet session →
      packet.generation = state.shared.generation) :
    Settles Current Dated state p (program.advance p state.shared task input) := by
  have current := holds.shared
  have own := holds.tasks p task member
  have reloads := reloads_advance state.shared input task
  refine ⟨?_, fun next left => (own.next current (follows_advance next left)).mono reloads,
    fun q other known _ => (holds.tasks q other known).mono reloads⟩
  cases task with
  | received | pruning | counting | trying | connecting | reading =>
    exact current.frame (frame_advance state.shared input rfl)
  | inserting packet session =>
    have now := upToDate packet session rfl
    obtain ⟨generation, same⟩ := own.inserting packet session rfl
    exact current.insert ⟨generation.trans now, same.trans (own.packet.upstream now)⟩
  | sending packet session =>
    refine ⟨current.map, ?_⟩
    intro other g d sent
    rcases List.mem_cons.mp sent with same | known
    · cases same
      exact own.sending packet session rfl
    · exact current.sent other g d known

theorem dated_begin {call : Call} (holds : Holds Current Dated state) :
    Settles Current Dated state p (program.begin p state.shared call) := by
  have frame := frame_begin state.shared call
  refine ⟨holds.shared.frame frame, ?_,
    fun q task member _ => (holds.tasks q task member).mono frame.upstream⟩
  intro task left
  cases call with
  | datagram =>
    cases left
    exact ⟨⟨Nat.le_refl _, fun _ => rfl⟩, fun _ _ other => (by cases other),
      fun _ _ other => (by cases other)⟩
  | setup | reset | wait | reply | expire | socketError => cases left

/-- A session that a task from before the last reload inserts is one of an old upstream. -/
theorem upToDate_of_current (holds : Holds Current Dated state)
    (next : Current (program.step state event).shared) : UpToDate state event := by
  cases event with
  | begin => trivial
  | advance p input =>
    rintro ⟨q, task⟩ found packet session rfl
    obtain ⟨member, -⟩ := Table.mem_of_find found
    have outcome : (program.step state (.advance p input)).shared =
        (state.shared.insert packet session).1 := by
      rw [Option.mem_def] at found
      simp only [Program.step, found, System.settle_shared]
      rfl
    rw [outcome] at next
    obtain ⟨sessions, generation, -⟩ := insert_frame state.shared packet session
    have inserted := (next.map (packet.client, session)
      (by rw [sessions]; exact Table.mem_upsert.mpr (.inr rfl))).1
    rw [generation] at inserted
    exact ((holds.tasks q _ member).inserting packet session rfl).1.symm.trans inserted

/-- A reload ends the sessions of the old upstream in a run exactly when every insertion is made by
a task that started after the last reload. -/
theorem reload_ends_sessions_iff (now : Nat) (events : List (Event Call Input)) :
    Throughout program.step (fun state => Current state.shared) (start now) events ↔
      Guarded program.step UpToDate (start now) events := by
  have keeps : ∀ (state : State) (event : Event Call Input), Holds Current Dated state →
      (fun _ _ => True) state event → UpToDate state event →
        Holds Current Dated (program.step state event) := by
    intro state event holds _ upToDate
    refine Holds.step (fun _ _ _ holds _ _ => dated_begin holds) ?_ holds upToDate
    intro state p task input holds member upToDate
    exact dated_advance holds member
      (upToDate (p, task) (Table.find_eq_some.mpr ⟨member, rfl⟩))
  have first : Holds Current Dated (start now) := by
    refine Holds.start ⟨?_, ?_⟩
    · intro row member
      cases member
    · intro session g d member
      cases member
  exact Run.throughout_iff_guarded_while keeps (fun _ holds => holds.shared)
    (fun _ _ holds _ next => upToDate_of_current holds next) first
    (Guarded.of_always (fun _ _ => trivial) _ _)

end Reloads

/-- A reload comes while a session is being opened; another datagram comes after it. -/
def reloadWhileOpening : List (Event Call Input) :=
  [.begin 0 (.setup [some (proxyTo [⟨"a", 53⟩] 0)]), .begin 1 (.datagram (host 1 4000) [1])] ++
    opening 1 0 (host 2 53) ++ [.begin 0 (.setup [some (proxyTo [⟨"b", 53⟩] 1)])] ++ rest 1 1 ++
    [.begin 2 (.datagram (host 1 4000) [2])] ++ rest 2 3

/-- The session of the old upstream is inserted after the map was cleared, and the later datagram
goes to the old server. -/
theorem late_insertion_survives_reload :
    (exec program.step (start 0) reloadWhileOpening).shared.upstream.servers = [⟨"b", 53⟩] ∧
      (exec program.step (start 0) reloadWhileOpening).shared.history.map Entry.session? =
        [some (0, ⟨"a", 53⟩)] ∧
      ¬ Current (exec program.step (start 0) reloadWhileOpening).shared := by
  refine ⟨by decide +kernel, by decide +kernel, fun current => ?_⟩
  have map := current.map
  have stale : ∀ row ∈ (exec program.step (start 0) reloadWhileOpening).shared.sessions.rows,
      row.2.generation ≠
        (exec program.step (start 0) reloadWhileOpening).shared.generation := by decide +kernel
  have some : (exec program.step (start 0) reloadWhileOpening).shared.sessions.rows ≠ [] := by
    decide +kernel
  obtain ⟨row, member⟩ := List.exists_mem_of_ne_nil _ some
  exact stale row member (map row member).1

end R3v3rs3.Proxy.Udp
