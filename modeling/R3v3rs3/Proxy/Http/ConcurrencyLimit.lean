/-
# R3v3rs3.Proxy.Http.ConcurrencyLimit -- the requests of a client that are under way

`acquire` looks at the count of a key and adds one, the drop of a guard takes one away, and each of
the two holds the entry of the key.  `guards_are_counted`: however they interleave, an entry counts
the live guards of its key and goes with the last one, and only a key with `max` guards is refused.
-/
import R3v3rs3.Proxy.Http.Headers
import R3v3rs3.Theory.NetAddr
import R3v3rs3.Theory.Run
import R3v3rs3.Theory.Table

namespace R3v3rs3.Proxy.Http.Concurrency
open Theory
open Theory.NetAddr (IpAddr)
open Theory.Run (exec Guarded)
set_option autoImplicit false

structure ConcurrencyLimit where
  max : Nat
  header : Option HeaderName

structure ConcurrencyLimiter where
  active : Table (Prod.fst : List Char × Nat → List Char)

structure ConcurrencyGuard where
  key : List Char
  deriving DecidableEq

/-- The limiter, and the guards that requests hold.  The limiter does not see the guards. -/
structure Requests where
  limiter : ConcurrencyLimiter
  guards : List ConcurrencyGuard

inductive Event where
  | acquire (headers : HeaderMap) (clientIp : IpAddr)
  /-- A request that holds the guard ends. -/
  | drop (guard : ConcurrencyGuard)

variable (config : ConcurrencyLimit)

def keyFor (headers : HeaderMap) (clientIp : IpAddr) : List Char :=
  let headerKey := do
    let text ← HeaderValue.toStr (← headers.get (← config.header))
    Option.guard (· ≠ []) (Api.Text.trimChars text)
  match headerKey with
  | some value => "hdr:".toList ++ value
  | none => "ip:".toList ++ clientIp.toCanonical.display

namespace ConcurrencyLimiter

variable (limiter : ConcurrencyLimiter)

def count (key : List Char) : Nat := (limiter.active.find key).elim 0 Prod.snd

def acquire (headers : HeaderMap) (clientIp : IpAddr) :
    ConcurrencyLimiter × Option ConcurrencyGuard :=
  let key := keyFor config headers clientIp
  if config.max ≤ limiter.count key then
    -- the entry that was looked at stays
    (⟨limiter.active.upsert (key, limiter.count key)⟩, none)
  else (⟨limiter.active.upsert (key, limiter.count key + 1)⟩, some ⟨key⟩)

def dropGuard (guard : ConcurrencyGuard) : ConcurrencyLimiter where
  active :=
    match limiter.active.find guard.key with
    | none => limiter.active
    | some (_, count) =>
      if count ≤ 1 then limiter.active.erase guard.key
      else limiter.active.upsert (guard.key, count - 1)

end ConcurrencyLimiter

namespace Requests

variable (requests : Requests)

/-- A request keeps the guard that it was given, until it drops it. -/
def step : Event → Requests
  | .acquire headers clientIp =>
    let (limiter, guard) := requests.limiter.acquire config headers clientIp
    ⟨limiter, guard.toList ++ requests.guards⟩
  | .drop guard =>
    if guard ∈ requests.guards then
      ⟨requests.limiter.dropGuard guard, requests.guards.erase guard⟩
    else requests

/-- The guards of the key that are alive. -/
def live (key : List Char) : Nat := requests.guards.count ⟨key⟩

/-- The entries are those of the keys with a live guard, and count these. -/
def Exact : Prop :=
  ∀ key, requests.live key ≤ config.max ∧ requests.limiter.active.find key =
    if requests.live key = 0 then none else some (key, requests.live key)

variable {config requests}

theorem Exact.count_eq (counted : Exact config requests) (key : List Char) :
    requests.limiter.count key = requests.live key := by
  rw [ConcurrencyLimiter.count, (counted key).2]
  split <;> simp_all

theorem Exact.step (positive : 1 ≤ config.max) (counted : Exact config requests) (event : Event) :
    Exact config (requests.step config event) := by
  intro key
  have here := counted key
  cases event with
  | acquire headers clientIp =>
    simp only [Requests.step, ConcurrencyLimiter.acquire, counted.count_eq]
    generalize keyFor config headers clientIp = own
    have there := counted own
    split <;> grind [Table.find_upsert, live]
  | drop guard =>
    obtain ⟨own⟩ := guard
    have there := counted own
    simp only [Requests.step, ConcurrencyLimiter.dropGuard]
    split
    · rw [there.2]
      grind [Table.find_upsert, Table.find_erase, live]
    · exact here

end Requests

open Requests

/-- **Every run of requests and guards**: the count of a key is the number of its live guards and at
most the limit, no other key has an entry, and a request is refused only where `max` guards of its
key are alive. -/
theorem guards_are_counted (positive : 1 ≤ config.max) (events : List Event) :
    let requests := exec (step config) ⟨⟨.empty⟩, []⟩ events
    Exact config requests ∧ ∀ headers clientIp,
      (requests.limiter.acquire config headers clientIp).2 = none →
        requests.live (keyFor config headers clientIp) = config.max := by
  intro requests
  have counted : Exact config requests := by
    refine Guarded.invariant (fun _ event held _ => Exact.step positive held event) ?_
      (Guarded.of_always (fun _ _ => trivial) _ events)
    exact fun key => ⟨Nat.zero_le _, rfl⟩
  refine ⟨counted, fun headers clientIp refused => Nat.le_antisymm (counted _).1 ?_⟩
  simp only [ConcurrencyLimiter.acquire] at refused
  split at refused
  · next full => rwa [counted.count_eq] at full
  · cases refused

/-- One request is under way and the next one is refused. -/
theorem second_request_is_refused :
    let requests := exec (step ⟨1, none⟩) ⟨⟨.empty⟩, []⟩ [.acquire ⟨[]⟩ (.v4 ⟨0, 0, 0, 0⟩)]
    (requests.limiter.acquire ⟨1, none⟩ ⟨[]⟩ (.v4 ⟨0, 0, 0, 0⟩)).2 = none ∧
      requests.live "ip:0.0.0.0".toList = 1 := by
  refine ⟨?refused, (guards_are_counted ⟨1, none⟩ (by decide) _).2 ⟨[]⟩ (.v4 ⟨0, 0, 0, 0⟩) ?refused⟩
  decide

end R3v3rs3.Proxy.Http.Concurrency
