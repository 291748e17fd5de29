/-
# R3v3rs3.Platform.Records -- registries, webhooks and scheduled commands

The three tables of the platform database that take their ids from `ShortId::new()`, the
requests that create and delete their rows, and the payloads of webhook deliveries, whose
delivery id is taken from the same place.  The id columns are primary keys, so an `INSERT` under
an id that is in use is refused.

`NoCollision` is the promise: an accepted creation is stored under an unused id and changes
nothing else, creations without deletions add up, and no two payloads share a delivery id.
`noCollision_iff` says which runs keep it: those that create a record only while its table is
empty and build one payload at most.
-/
import R3v3rs3.Api.Requests
import R3v3rs3.Theory.Run
import R3v3rs3.Theory.Table

namespace R3v3rs3.Platform.Records
open Api
open Api.Text
open Theory
open Theory.Run
set_option autoImplicit false

/-- A sealed value: what was sealed, and the name it is bound to. -/
structure Sealed where
  aad : String
  plaintext : String

structure RegistryRow where
  id : ShortId
  server : String
  username : String
  secret : Sealed
  createdAt : Nat
  updatedAt : Nat

structure WebhookRow where
  id : ShortId
  name : String
  url : String
  secret : Option Sealed
  enabled : Bool
  events : List WebhookEvent
  createdAt : Nat
  updatedAt : Nat

structure CommandRow where
  id : ShortId
  appId : ShortId
  name : String
  schedule : String
  command : String
  enabled : Bool
  lastRunAt : Option Int
  lastStatus : Option String
  lastOutput : Option String
  createdAt : Int
  updatedAt : Int

/-- The clock as `build_payload` writes it: as text and in seconds. -/
structure Clock where
  text : String
  unixTimestamp : Int

structure WebhookPayload where
  id : String
  event : WebhookEvent
  createdAt : String
  timestamp : Int
  summary : String
  data : String

/-- The platform database, and every payload built so far. -/
structure Store where
  registries : Table RegistryRow.id
  webhooks : Table WebhookRow.id
  apps : List ShortId
  commands : Table CommandRow.id
  payloads : List WebhookPayload

def initial : Store := ⟨Table.empty, Table.empty, [], Table.empty, []⟩

def registryAad (id : ShortId) : String := "registry/" ++ id.display ++ "/secret"

def webhookAad (id : ShortId) : String := "outbound_webhook:" ++ id.display

/-- The answer of the database to an `INSERT` under an id that is in use. -/
def uniqueViolation : String := "UNIQUE constraint failed"

/-- What the three creation requests end with: a checked row goes to the database, which refuses
an id that is in use; a refusal leaves the store as it was. -/
def create {Row : Type} {key : Row → ShortId} (store : Store) (checked : Except Error Row)
    (table : Table key) (write : Table key → Store) (refusal : Error) :
    Store × Except Error Row :=
  match checked with
  | .error err => (store, .error err)
  | .ok row =>
    match table.insert row with
    | some next => (write next, .ok row)
    | none => (store, .error refusal)

/-! ## Registries -/

/-- `add_registry` before the `INSERT`: the row, or the reason it is refused. -/
def newRegistry (store : Store) (request : RegistryRequest) (now : Nat) :
    Except Error RegistryRow :=
  let server := trim request.server
  let username := trim request.username
  match validateRegistryFields server username with
  | .error err => .error err
  | .ok () =>
    let password := trim (request.password.getD "")
    if password = "" then .error (.invalidRegistry "password or token is required")
    -- `ensure_server_available`
    else if store.registries.rows.any (fun row => row.server = server) then
      .error (.registryExists server)
    else
      let id := ShortId.new
      .ok { id := id, server := server, username := username,
            secret := ⟨registryAad id, password⟩, createdAt := now, updatedAt := now }

def addRegistry (store : Store) (request : RegistryRequest) (now : Nat) :
    Store × Except Error RegistryRow :=
  create store (newRegistry store request now) store.registries
    (fun registries => { store with registries := registries }) (.database uniqueViolation)

def deleteRegistry (store : Store) (id : ShortId) : Store × Except Error Unit :=
  match store.registries.find id with
  | some _ => ({ store with registries := store.registries.erase id }, .ok ())
  | none => (store, .error (.idNotFound id.display))

/-! ## Webhooks -/

/-- `create_outbound_webhook` before the `INSERT`. -/
def newWebhook (urls : UrlParser) (request : CreateWebhookRequest) (now : Nat) :
    Except Error WebhookRow :=
  match request.validate urls with
  | .error err => .error err
  | .ok () =>
    let id := ShortId.new
    let secret := match request.secret with
      | some secret =>
        if trim secret = "" then none else some ⟨webhookAad id, trim secret⟩
      | none => none
    .ok { id := id, name := trim request.name, url := trim request.url, secret := secret,
          enabled := request.enabled, events := request.events,
          createdAt := now, updatedAt := now }

def createOutboundWebhook (urls : UrlParser) (store : Store) (request : CreateWebhookRequest)
    (now : Nat) : Store × Except Error WebhookRow :=
  create store (newWebhook urls request now) store.webhooks
    (fun webhooks => { store with webhooks := webhooks }) (.invalidWebhook uniqueViolation)

def deleteOutboundWebhook (store : Store) (id : ShortId) : Store × Except Error Unit :=
  match store.webhooks.find id with
  | some _ => ({ store with webhooks := store.webhooks.erase id }, .ok ())
  | none => (store, .error (.webhookNotFound id))

def buildPayload (event : WebhookEvent) (summary data : String) (now : Clock) :
    WebhookPayload where
  id := "evt_" ++ ShortId.new.display
  event := event
  createdAt := now.text
  timestamp := now.unixTimestamp
  summary := summary
  data := data

/-- Whether `dispatch_webhook_event` finds a webhook to deliver to. -/
def matching (store : Store) (event : WebhookEvent) : Bool :=
  store.webhooks.rows.any (fun row => row.enabled && row.events.contains event)

def dispatchWebhookEvent (store : Store) (event : WebhookEvent) (summary data : String)
    (now : Clock) : Store :=
  if matching store event then
    { store with payloads := store.payloads ++ [buildPayload event summary data now] }
  else store

structure TestWebhookRequest where
  webhookId : Option ShortId
  url : Option String
  event : Option WebhookEvent

/-- The address `test_outbound_webhook` delivers to. -/
def testTarget (urls : UrlParser) (store : Store) (request : TestWebhookRequest) :
    Except Error String :=
  match request.webhookId with
  | some id =>
    match store.webhooks.find id with
    | none => .error (.webhookNotFound id)
    | some row => (validateWebhookUrl urls row.url).map (fun _ => row.url)
  | none =>
    match request.url with
    | some url => (validateWebhookUrl urls url).map (fun _ => url)
    | none => .error (.invalidWebhook "either webhook_id or url is required")

/-- `test_outbound_webhook` up to the delivery: the payload that `test_webhook_url` builds. -/
def testOutboundWebhook (urls : UrlParser) (store : Store) (request : TestWebhookRequest)
    (data : String) (now : Clock) : Store :=
  match testTarget urls store request with
  | .error _ => store
  | .ok _ =>
    { store with payloads := store.payloads ++ [buildPayload (request.event.getD .testPing)
        "This is a test notification from r3v3rs3 webhook center." data now] }

/-! ## Scheduled commands -/

/-- `add_scheduled_command` before the `INSERT`. -/
def newCommand (store : Store) (appId : ShortId) (request : ScheduledCommandRequest) (now : Int) :
    Except Error CommandRow :=
  match request.validate with
  | .error err => .error err
  | .ok () =>
    if appId ∉ store.apps then .error (.idNotFound appId.display)
    else
      .ok { id := ShortId.new, appId := appId, name := trim request.name,
            schedule := trim request.schedule, command := trim request.command,
            enabled := request.enabled, lastRunAt := none, lastStatus := none,
            lastOutput := none, createdAt := now, updatedAt := now }

def addScheduledCommand (store : Store) (appId : ShortId) (request : ScheduledCommandRequest)
    (now : Int) : Store × Except Error CommandRow :=
  create store (newCommand store appId request now) store.commands
    (fun commands => { store with commands := commands }) (.database uniqueViolation)

def deleteScheduledCommand (store : Store) (appId cmdId : ShortId) : Store × Except Error Unit :=
  if appId ∉ store.apps then (store, .error (.idNotFound appId.display))
  else
    match store.commands.find cmdId with
    | none => (store, .error (.scheduledCommandNotFound cmdId))
    | some row =>
      if row.appId ≠ appId then (store, .error (.scheduledCommandNotFound cmdId))
      else ({ store with commands := store.commands.erase cmdId }, .ok ())

/-! ## Runs -/

inductive Event where
  | addRegistry (request : RegistryRequest) (now : Nat)
  | deleteRegistry (id : ShortId)
  | createWebhook (request : CreateWebhookRequest) (now : Nat)
  | deleteWebhook (id : ShortId)
  | dispatch (event : WebhookEvent) (summary data : String) (now : Clock)
  | test (request : TestWebhookRequest) (data : String) (now : Clock)
  | addCommand (appId : ShortId) (request : ScheduledCommandRequest) (now : Int)
  | deleteCommand (appId cmdId : ShortId)
  | addApp (id : ShortId)
  /-- The scheduled commands of the app go with it (`ON DELETE CASCADE`). -/
  | deleteApp (id : ShortId)

def step (urls : UrlParser) (store : Store) : Event → Store
  | .addRegistry request now => (addRegistry store request now).1
  | .deleteRegistry id => (deleteRegistry store id).1
  | .createWebhook request now => (createOutboundWebhook urls store request now).1
  | .deleteWebhook id => (deleteOutboundWebhook store id).1
  | .dispatch event summary data now => dispatchWebhookEvent store event summary data now
  | .test request data now => testOutboundWebhook urls store request data now
  | .addCommand appId request now => (addScheduledCommand store appId request now).1
  | .deleteCommand appId cmdId => (deleteScheduledCommand store appId cmdId).1
  | .addApp id => if id ∈ store.apps then store else { store with apps := store.apps ++ [id] }
  | .deleteApp id =>
    { store with
      apps := store.apps.filter (· ≠ id)
      commands := store.commands.discard (fun row => row.appId = id) }

def Event.deletes : Event → Bool
  | .deleteRegistry _ | .deleteWebhook _ | .deleteCommand _ _ | .deleteApp _ => true
  | _ => false

inductive Kind where
  | registry
  | webhook
  | command
  deriving DecidableEq

/-- A row of one of the three tables. -/
inductive Record where
  | registry (row : RegistryRow)
  | webhook (row : WebhookRow)
  | command (row : CommandRow)

namespace Record

def kind : Record → Kind
  | .registry _ => .registry
  | .webhook _ => .webhook
  | .command _ => .command

def id : Record → ShortId
  | .registry row => row.id
  | .webhook row => row.id
  | .command row => row.id

end Record

/-- What the list request of a kind answers, up to order. -/
def Store.records (store : Store) : Kind → List Record
  | .registry => store.registries.rows.map .registry
  | .webhook => store.webhooks.rows.map .webhook
  | .command => store.commands.rows.map .command

/-- The record that a creation request asks to store, once it has passed its checks. -/
def accepted (urls : UrlParser) (store : Store) : Event → Option Record
  | .addRegistry request now => (newRegistry store request now).toOption.map .registry
  | .createWebhook request now => (newWebhook urls request now).toOption.map .webhook
  | .addCommand appId request now => (newCommand store appId request now).toOption.map .command
  | _ => none

/-- An accepted creation stores its record under an id that is not in use, and leaves every
other record as it was. -/
def CreationLaw (urls : UrlParser) (store : Store) (event : Event) : Prop :=
  ∀ record, accepted urls store event = some record →
    record.id ∉ (store.records record.kind).map Record.id ∧
      ∀ kind, (step urls store event).records kind =
        if kind = record.kind then store.records kind ++ [record] else store.records kind

/-- How many creations of a kind a run accepts. -/
def created (urls : UrlParser) (kind : Kind) : Store → List Event → Nat
  | _, [] => 0
  | store, event :: rest =>
    (if (accepted urls store event).any (fun record => record.kind = kind) then 1 else 0) +
      created urls kind (step urls store event) rest

/-- **What a run promises**: created records do not collide. -/
structure NoCollision (urls : UrlParser) (events : List Event) : Prop where
  stored : Guarded (step urls) (CreationLaw urls) initial events
  counted : (∀ event ∈ events, event.deletes = false) → ∀ kind,
    ((exec (step urls) initial events).records kind).length = created urls kind initial events
  deliveries : ((exec (step urls) initial events).payloads.map WebhookPayload.id).Nodup

/-- Whether an event builds a payload: a webhook matches, or the test has a target. -/
def buildsPayload (urls : UrlParser) (store : Store) : Event → Bool
  | .dispatch event _ _ _ => matching store event
  | .test request _ _ => (testTarget urls store request).isOk
  | _ => false

/-- The condition on one step: a creation that passes its checks finds its table empty, and a
payload is built only as the first one. -/
def Vacant (urls : UrlParser) (store : Store) (event : Event) : Prop :=
  (∀ record, accepted urls store event = some record → store.records record.kind = []) ∧
    (buildsPayload urls store event = true → store.payloads = [])

section Create

variable {Row : Type} {key : Row → ShortId} {store : Store} {checked : Except Error Row}
  {table : Table key} {write : Table key → Store} {refusal : Error}

theorem create_refused (refused : checked.toOption = none) :
    (create store checked table write refusal).1 = store := by
  cases checked with
  | error => rfl
  | ok => simp [Except.toOption] at refused

theorem toOption_eq_some {row : Row} : checked.toOption = some row ↔ checked = .ok row := by
  cases checked <;> simp [Except.toOption]

/-- An accepted row is stored under an unused id, or nothing happens. -/
theorem create_accepted {row : Row} (passes : checked = .ok row) :
    (key row ∈ table.keys ∧ (create store checked table write refusal).1 = store) ∨
      (key row ∉ table.keys ∧ ∃ next : Table key, next.rows = table.rows ++ [row] ∧
        (create store checked table write refusal).1 = write next) := by
  subst passes
  cases outcome : table.insert row with
  | none => exact Or.inl ⟨Table.insert_eq_none.mp outcome, by simp [create, outcome]⟩
  | some next =>
    obtain ⟨fresh, rows⟩ := Table.insert_eq_some.mp outcome
    exact Or.inr ⟨fresh, next, rows, by simp [create, outcome]⟩

/-- The same for the records: `wrap` makes a row one of the kind `own`. -/
theorem create_effect {row : Row} {wrap : Row → Record} {own : Kind}
    (passes : checked = .ok row) (records : store.records own = table.rows.map wrap)
    (ids : ∀ row, (wrap row).id = key row) (isKind : (wrap row).kind = own)
    (writes : ∀ next kind, (write next).records kind =
      if kind = own then next.rows.map wrap else store.records kind)
    (payloads : ∀ next, (write next).payloads = store.payloads) :
    let after := (create store checked table write refusal).1
    ((wrap row).id ∈ (store.records (wrap row).kind).map Record.id ∧ after = store) ∨
      ((wrap row).id ∉ (store.records (wrap row).kind).map Record.id ∧
        after.payloads = store.payloads ∧
        ∀ kind, after.records kind =
          if kind = (wrap row).kind then store.records kind ++ [wrap row]
          else store.records kind) := by
  intro after
  have keys : (store.records own).map Record.id = table.keys := by
    rw [records, List.map_map, show Record.id ∘ wrap = key from funext ids, Table.keys]
  rw [isKind, keys, ids]
  rcases create_accepted passes with ⟨taken, same⟩ | ⟨fresh, next, rows, same⟩
  · exact .inl ⟨taken, same⟩
  · have isAfter : after = write next := same
    rw [isAfter]
    refine .inr ⟨fresh, payloads next, fun kind => ?_⟩
    rw [writes]
    split
    · rename_i here
      rw [here, rows, records, List.map_append, List.map_singleton]
    · rfl

end Create

section Steps

variable {urls : UrlParser} {store : Store} {event : Event} {record : Record}

theorem accepted_id (passes : accepted urls store event = some record) :
    record.id = ShortId.new := by
  cases event with
  | addRegistry | createWebhook | addCommand =>
    rw [accepted, Option.map_eq_some_iff] at passes
    obtain ⟨row, checked, rfl⟩ := passes
    replace checked := toOption_eq_some.mp checked
    dsimp only [newRegistry, newWebhook, newCommand] at checked
    repeat' split at checked
    all_goals cases checked <;> rfl
  | _ => cases passes

/-- What an accepted creation does, whatever its kind. -/
theorem step_accepted (passes : accepted urls store event = some record) :
    (record.id ∈ (store.records record.kind).map Record.id ∧ step urls store event = store) ∨
      (record.id ∉ (store.records record.kind).map Record.id ∧
        (step urls store event).payloads = store.payloads ∧
        ∀ kind, (step urls store event).records kind =
          if kind = record.kind then store.records kind ++ [record] else store.records kind) := by
  cases event with
  | addRegistry | createWebhook | addCommand =>
    rw [accepted, Option.map_eq_some_iff] at passes
    obtain ⟨row, checked, rfl⟩ := passes
    simp only [step, addRegistry, createOutboundWebhook, addScheduledCommand]
    exact create_effect (toOption_eq_some.mp checked) rfl (fun _ => rfl) rfl
      (fun _ kind => by cases kind <;> rfl) fun _ => rfl
  | _ => cases passes

/-- Every other step keeps or removes records. -/
theorem step_other (other : accepted urls store event = none) :
    (∀ kind, ((step urls store event).records kind).Sublist (store.records kind)) ∧
      (event.deletes = false → ∀ kind,
        (step urls store event).records kind = store.records kind) := by
  have of_same (same : ∀ kind, (step urls store event).records kind = store.records kind) :
      (∀ kind, ((step urls store event).records kind).Sublist (store.records kind)) ∧
        (event.deletes = false → ∀ kind,
          (step urls store event).records kind = store.records kind) := by
    simp [same]
  cases event with
  | addRegistry | createWebhook | addCommand =>
    rw [accepted, Option.map_eq_none_iff] at other
    refine of_same fun kind => ?_
    simp only [step, addRegistry, createOutboundWebhook, addScheduledCommand, create_refused other]
  | deleteRegistry =>
    refine ⟨fun kind => ?_, by simp [Event.deletes]⟩
    simp only [step, deleteRegistry]
    split
    · cases kind with
      | registry => exact List.filter_sublist.map _
      | webhook | command => exact List.Sublist.refl _
    · exact List.Sublist.refl _
  | deleteWebhook =>
    refine ⟨fun kind => ?_, by simp [Event.deletes]⟩
    simp only [step, deleteOutboundWebhook]
    split
    · cases kind with
      | webhook => exact List.filter_sublist.map _
      | registry | command => exact List.Sublist.refl _
    · exact List.Sublist.refl _
  | deleteCommand =>
    refine ⟨fun kind => ?_, by simp [Event.deletes]⟩
    simp only [step, deleteScheduledCommand]
    split
    · exact List.Sublist.refl _
    · split
      · exact List.Sublist.refl _
      · split
        · exact List.Sublist.refl _
        · cases kind with
          | command => exact List.filter_sublist.map _
          | registry | webhook => exact List.Sublist.refl _
  | deleteApp =>
    refine ⟨fun kind => ?_, by simp [Event.deletes]⟩
    cases kind with
    | command => exact List.filter_sublist.map _
    | registry | webhook => exact List.Sublist.refl _
  | addApp | dispatch | test =>
    refine of_same fun kind => ?_
    simp only [step, dispatchWebhookEvent, testOutboundWebhook]
    split <;> cases kind <;> rfl

/-- The delivery id that every payload carries. -/
def deliveryId : String := "evt_" ++ ShortId.new.display

theorem buildPayload_id (event : WebhookEvent) (summary data : String) (now : Clock) :
    (buildPayload event summary data now).id = deliveryId := by
  rw [buildPayload, deliveryId]

theorem step_payloads :
    (buildsPayload urls store event = true → ∃ payload : WebhookPayload,
        payload.id = deliveryId ∧
          (step urls store event).payloads = store.payloads ++ [payload]) ∧
      (buildsPayload urls store event = false →
        (step urls store event).payloads = store.payloads) := by
  cases event with
  | dispatch event summary data now =>
    constructor
    · intro builds
      refine ⟨_, buildPayload_id event summary data now, ?_⟩
      simp only [buildsPayload] at builds
      simp [step, dispatchWebhookEvent, builds]
    · intro idle
      simp only [buildsPayload] at idle
      simp [step, dispatchWebhookEvent, idle]
  | test request data now =>
    simp only [buildsPayload, step, testOutboundWebhook]
    cases testTarget urls store request with
    | error => simp [Except.isOk, Except.toBool]
    | ok =>
      refine ⟨fun _ => ⟨_, buildPayload_id _ _ data now, rfl⟩, ?_⟩
      simp [Except.isOk, Except.toBool]
  | addRegistry | createWebhook | addCommand =>
    refine ⟨by simp [buildsPayload], fun _ => ?_⟩
    simp only [step, addRegistry, createOutboundWebhook, addScheduledCommand, create]
    split
    · rfl
    · split <;> rfl
  | deleteRegistry | deleteWebhook | deleteCommand | addApp | deleteApp =>
    refine ⟨by simp [buildsPayload], fun _ => ?_⟩
    simp only [step, deleteRegistry, deleteOutboundWebhook, deleteScheduledCommand]
    repeat' split
    all_goals rfl

end Steps

/-! ## One id for every record -/

/-- Every record has the one id, and every payload the one delivery id. -/
structure OneId (store : Store) : Prop where
  records : ∀ kind, ∀ record ∈ store.records kind, record.id = ShortId.new
  payloads : ∀ payload ∈ store.payloads, payload.id = deliveryId

theorem initial_oneId : OneId initial :=
  ⟨fun kind => by cases kind <;> simp [initial, Store.records], by simp [initial]⟩

section Invariant

variable {urls : UrlParser} {store : Store}

theorem oneId_step (oneId : OneId store) (event : Event) : OneId (step urls store event) := by
  constructor
  · intro kind record member
    cases outcome : accepted urls store event with
    | none => exact oneId.records kind record ((step_other outcome).1 kind |>.subset member)
    | some =>
      rcases step_accepted outcome with ⟨-, same⟩ | ⟨-, -, rows⟩
      · exact oneId.records kind record (same ▸ member)
      · rw [rows kind] at member
        split at member
        · rcases List.mem_append.mp member with old | new
          · exact oneId.records kind record old
          · rw [List.mem_singleton.mp new, accepted_id outcome]
        · exact oneId.records kind record member
  · intro payload member
    cases builds : buildsPayload urls store event with
    | false => exact oneId.payloads payload (step_payloads.2 builds ▸ member)
    | true =>
      obtain ⟨added, addedId, grown⟩ := step_payloads.1 builds
      rw [grown, List.mem_append, List.mem_singleton] at member
      rcases member with old | rfl
      · exact oneId.payloads payload old
      · exact addedId

/-- With one id for all, an id is free exactly while the table is empty. -/
theorem free_iff_empty (oneId : OneId store) (kind : Kind) :
    ShortId.new ∉ (store.records kind).map Record.id ↔ store.records kind = [] := by
  constructor
  · intro free
    refine List.eq_nil_iff_forall_not_mem.mpr (fun record member => free ?_)
    exact List.mem_map.mpr ⟨record, member, oneId.records kind record member⟩
  · intro empty
    simp [empty]

theorem creationLaw_iff (oneId : OneId store) (event : Event) :
    CreationLaw urls store event ↔
      ∀ record, accepted urls store event = some record → store.records record.kind = [] := by
  constructor
  · intro law record passes
    have free := (law record passes).1
    rw [accepted_id passes] at free
    exact (free_iff_empty oneId _).mp free
  · intro vacant record passes
    have free := (free_iff_empty oneId _).mpr (vacant record passes)
    rw [← accepted_id passes] at free
    rcases step_accepted passes with ⟨taken, -⟩ | ⟨-, -, rows⟩
    · exact absurd taken free
    · exact ⟨free, rows⟩

end Invariant

/-! ## Whole runs -/

section Runs

variable {urls : UrlParser} {store : Store} {events : List Event}

/-- Creations that keep the law and are not deleted add up. -/
theorem records_length (law : Guarded (step urls) (CreationLaw urls) store events)
    (kept : ∀ event ∈ events, event.deletes = false) (kind : Kind) :
    ((exec (step urls) store events).records kind).length =
      (store.records kind).length + created urls kind store events := by
  induction events generalizing store with
  | nil => rfl
  | cons event rest ih =>
    have later := ih law.2 (fun other member => kept other (List.mem_cons_of_mem _ member))
    rw [exec_cons, later, created]
    cases outcome : accepted urls store event with
    | none =>
      rw [(step_other outcome).2 (kept event (by simp)) kind]
      simp
    | some record =>
      rw [(law.1 record outcome).2 kind]
      by_cases same : kind = record.kind
      · simp [same]
        omega
      · simp [same, Ne.symm same]

theorem payloads_grow (urls : UrlParser) (store : Store) (events : List Event) :
    store.payloads.length ≤ (exec (step urls) store events).payloads.length := by
  induction events generalizing store with
  | nil => exact Nat.le_refl _
  | cons event rest ih =>
    refine Nat.le_trans ?_ (ih (step urls store event))
    cases builds : buildsPayload urls store event with
    | false => exact Nat.le_of_eq (congrArg List.length (step_payloads.2 builds).symm)
    | true =>
      obtain ⟨payload, -, grown⟩ := step_payloads.1 builds
      simp [grown]

theorem short_step (store : Store) (event : Event) (short : store.payloads.length ≤ 1)
    (vacant : Vacant urls store event) : (step urls store event).payloads.length ≤ 1 := by
  cases builds : buildsPayload urls store event with
  | false => rwa [step_payloads.2 builds]
  | true =>
    obtain ⟨payload, -, grown⟩ := step_payloads.1 builds
    simp [grown, vacant.2 builds]

theorem first_of_short (short : (exec (step urls) store events).payloads.length ≤ 1)
    {event : Event} {rest : List Event} (known : events = event :: rest)
    (builds : buildsPayload urls store event = true) : store.payloads = [] := by
  subst known
  obtain ⟨payload, -, grown⟩ := step_payloads.1 builds
  have later := payloads_grow urls (step urls store event) rest
  rw [grown, List.length_append, List.length_singleton] at later
  rw [exec_cons] at short
  exact List.length_eq_zero_iff.mp (by omega)

theorem vacant_iff (oneId : OneId store) (short : store.payloads.length ≤ 1) :
    Guarded (step urls) (Vacant urls) store events ↔
      Guarded (step urls) (CreationLaw urls) store events ∧
        (exec (step urls) store events).payloads.length ≤ 1 := by
  constructor
  · intro vacant
    refine ⟨?_, vacant.invariant short_step short⟩
    exact vacant.imp (fun _ event oneId _ => oneId_step oneId event)
      (fun _ event oneId free => (creationLaw_iff oneId event).mpr free.1) oneId
  · rintro ⟨law, last⟩
    induction events generalizing store with
    | nil => trivial
    | cons event rest ih =>
      have vacant : Vacant urls store event :=
        ⟨(creationLaw_iff oneId event).mp law.1, first_of_short last rfl⟩
      exact ⟨vacant, ih (oneId_step oneId event) (short_step store event short vacant)
        law.2 last⟩

end Runs

/-- **Created records do not collide exactly in the runs that create a record only while its
table is empty and build at most one payload.** -/
theorem noCollision_iff (urls : UrlParser) (events : List Event) :
    NoCollision urls events ↔ Guarded (step urls) (Vacant urls) initial events := by
  have oneId : OneId (exec (step urls) initial events) :=
    (Guarded.of_always (fun _ _ => trivial) _ _).invariant
      (fun _ event held (_ : True) => oneId_step held event) initial_oneId
  have deliveries := nodup_map_constant_iff oneId.payloads
  rw [vacant_iff initial_oneId (by simp [initial])]
  constructor
  · intro law
    exact ⟨law.stored, deliveries.mp law.deliveries⟩
  · rintro ⟨stored, short⟩
    refine ⟨stored, fun kept kind => ?_, deliveries.mpr short⟩
    rw [records_length stored kept kind]
    cases kind <;> simp [initial, Store.records]

/-- A parser that knows no address. -/
def noUrls : UrlParser := ⟨fun _ => .error "empty host", fun _ => none⟩

/-- Two registries on different servers. -/
def twoRegistries : List Event :=
  [.addRegistry ⟨"ghcr.io", "deploy", some "token-1"⟩ 1,
    .addRegistry ⟨"docker.io", "deploy", some "token-2"⟩ 2]

/-- The second of two registries is refused, although no registry uses its server. -/
theorem twoRegistries_collide : ¬ NoCollision noUrls twoRegistries := by
  intro law
  have count := law.counted (by decide) .registry
  revert count
  decide

end R3v3rs3.Platform.Records
