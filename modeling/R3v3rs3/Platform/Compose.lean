/-
# R3v3rs3.Platform.Compose -- the ports that a Compose project opens on the host

The proxy is the only way to an app, so a Compose project may publish one port: the port of the
traffic service, on 127.0.0.1.  `checkPorts` looks at the model that `docker compose config`
reports, of which the platform reads the ports of each service and nothing else.  A deployment
checks before it starts the files; a rollback that finds the checkout of the earlier deployment
starts it as it is.

`start_confined_iff` says when a start opens nothing else: no service shares the network of the
host, and what a rollback finds passes the check.
-/
import Mathlib.Data.List.Basic

namespace R3v3rs3.Platform.Compose
set_option autoImplicit false

structure ComposePort where
  target : UInt16
  published : Option String
  hostIp : Option String
  deriving DecidableEq

/-- A service of the resolved model, with the network mode that the platform does not read. -/
structure ComposeService where
  ports : List ComposePort
  networkMode : Option String

/-- The services by name. -/
abbrev ComposeModel := List (String × ComposeService)

variable (model : ComposeModel) (service : String) (port : UInt16)

/-- The port that the override file sets. -/
def expected : ComposePort := ⟨port, none, some "127.0.0.1"⟩

def checkPorts : Except String Unit :=
  if service ∉ model.map Prod.fst then .error ("the Compose file has no service " ++ service)
  else
    match model.findSome? fun (name, entry) =>
        (entry.ports.find? fun p => name ≠ service ∨ p ≠ expected port).map (name, ·) with
    | some (name, published) =>
      .error ("the service " ++ name ++ " publishes its port " ++ toString published.target ++
        "; remove the ports of the Compose file, because r3v3rs3 publishes the port " ++
        toString port ++ " of the service " ++ service ++ " itself")
    | none => .ok ()

/-- The ways on which a project is started. -/
inductive Start where
  | composeUp
  /-- `rollback_compose`, and whether the checkout of the earlier deployment is still there. -/
  | rollbackCompose (checkout : Bool)

/-- The model that `docker compose up` starts. -/
def Start.started : Start → Option ComposeModel
  | .composeUp | .rollbackCompose false =>
    (checkPorts model service port).toOption.map fun _ => model
  | .rollbackCompose true => some model

/-- Nothing but the port of the traffic service on 127.0.0.1 reaches the host. -/
def Confined : Prop :=
  ∀ entry ∈ model, entry.2.networkMode ≠ some "host" ∧
    ∀ p ∈ entry.2.ports, entry.1 = service ∧ p.target = port ∧ p.hostIp = some "127.0.0.1"

variable {model service port}

theorem checkPorts_ok_iff :
    checkPorts model service port = .ok () ↔ service ∈ model.map Prod.fst ∧
      ∀ entry ∈ model, ∀ p ∈ entry.2.ports, entry.1 = service ∧ p = expected port := by
  have none_iff : (model.findSome? fun (name, entry) =>
        (entry.ports.find? fun p => name ≠ service ∨ p ≠ expected port).map (name, ·)) = none ↔
      ∀ entry ∈ model, ∀ p ∈ entry.2.ports, entry.1 = service ∧ p = expected port := by
    simp [List.findSome?_eq_none_iff, List.find?_eq_none, not_or]
  unfold checkPorts
  rw [← none_iff]
  split
  · rename_i absent
    exact iff_of_false nofun (fun both => absent both.1)
  · rename_i known
    split
    · rename_i found
      rw [found]
      exact iff_of_false nofun (fun both => Option.some_ne_none _ both.2)
    · rename_i found
      exact iff_of_true rfl ⟨Decidable.not_not.mp known, found⟩

theorem confined_iff (passed : checkPorts model service port = .ok ()) :
    Confined model service port ↔ ∀ entry ∈ model, entry.2.networkMode ≠ some "host" := by
  refine forall₂_congr (fun entry member => and_iff_left fun p published => ?_)
  obtain ⟨own, rfl⟩ := (checkPorts_ok_iff.mp passed).2 entry member p published
  exact ⟨own, rfl, rfl⟩

/-- **A start opens the one port if and only if no service shares the network of the host and
what a rollback finds passes the check.** -/
theorem start_confined_iff (start : Start) :
    (∀ started ∈ start.started model service port,
        checkPorts started service port = .ok () ∧ Confined started service port) ↔
      (start = .rollbackCompose true → checkPorts model service port = .ok ()) ∧
        (checkPorts model service port = .ok () →
          ∀ entry ∈ model, entry.2.networkMode ≠ some "host") := by
  cases passed : checkPorts model service port with
  | error => rcases start with _ | _ | _ <;> simp [Start.started, passed, Except.toOption]
  | ok =>
    have confined := confined_iff passed
    rcases start with _ | _ | _ <;> simp [Start.started, passed, Except.toOption, confined]

/-- A service in the network of the host passes the check and is started. -/
theorem host_network_started :
    let model : ComposeModel := [("db", ⟨[], some "host"⟩), ("web", ⟨[expected 80], none⟩)]
    Start.composeUp.started model "web" 80 = some model ∧ ¬ Confined model "web" 80 := by
  refine ⟨rfl, fun confined => ?_⟩
  exact (confined _ List.mem_cons_self).1 rfl

end R3v3rs3.Platform.Compose
