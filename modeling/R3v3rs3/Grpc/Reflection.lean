/-
# R3v3rs3.Grpc.Reflection -- answers of the reflection service

A list of services, and the descriptor of a file with its messages, services and methods.  Each
parser is the loop over fields with its own table (`R3v3rs3.Grpc.Proto`); what it does not know it
skips.

`decoders_return_iff` puts the decoders of everything that a gRPC server sends side by side: each
returns, without a panic, for just the data whose fields are in order.  The length of a frame never
does harm.  `reflection_answer_panics` has an answer of sixteen bytes on which the list of services
panics, and one on which it does not end.
-/
import R3v3rs3.Grpc.Health
import R3v3rs3.Grpc.Json
import R3v3rs3.Theory.Table

namespace R3v3rs3.Grpc
open Theory Theory.Walk
set_option autoImplicit false

/-! ## The list of services -/

def reflectionV1 : String := "grpc.reflection.v1.ServerReflection"

def reflectionV1Alpha : String := "grpc.reflection.v1alpha.ServerReflection"

variable (num wire : Nat)

def serviceResponseField : Field (Option String) :=
  match num, wire with
  | 1, 2 => .lastText fun name _ => some name
  | _, _ => .skip

variable (turns : Nat)

def parseServiceResponse (data : Bytes) : Checked (Option String) :=
  (fieldLoop turns serviceResponseField data none).map fun (name, _) => name

/-- The reflection service itself is not listed. -/
def listService (services : List String) : Option String → List String
  | some svc =>
    if svc ≠ reflectionV1 ∧ svc ≠ reflectionV1Alpha then services ++ [svc] else services
  | none => services

def listServicesField : Field (List String) :=
  match num, wire with
  | 1, 2 => .strict fun turns bytes services =>
    (parseServiceResponse turns bytes).map (listService services)
  | _, _ => .skip

def parseListServicesResponse (data : Bytes) : Checked (List String) :=
  (fieldLoop turns listServicesField data []).map fun (services, _) => services

def reflectionField : Field (List String) :=
  match num, wire with
  | 5, 2 => .last fun turns bytes _ => parseListServicesResponse turns bytes
  | _, _ => .skip

/-- The payload of a `ServerReflectionResponse`. -/
def parseReflectionPayload (payload : Bytes) : Checked (List String) :=
  (fieldLoop turns reflectionField payload []).map fun (services, _) => services

def parseServicesFromReflectionResponse (buf : Bytes) : Checked (List String) := do
  match ← decodeFramedGrpcMessage buf with
  | none => .ok []
  | some (_, payload) => parseReflectionPayload turns payload

/-! ## Descriptors -/

structure MethodFields where
  name : String := ""
  inputType : String := ""
  outputType : String := ""
  clientStreaming : Bool := false
  serverStreaming : Bool := false

structure GrpcMethodInfo where
  name : String
  fullName : String
  inputType : String
  outputType : String
  clientStreaming : Bool
  serverStreaming : Bool

structure GrpcServiceInfo where
  name : String
  methods : List GrpcMethodInfo

def handleMethodField : Field MethodFields :=
  match num, wire with
  | 1, 2 => .text fun text fields => { fields with name := text }
  | 2, 2 => .text fun text fields => { fields with inputType := text }
  | 3, 2 => .text fun text fields => { fields with outputType := text }
  | 5, 0 => .number fun val fields => { fields with clientStreaming := val != 0 }
  | 6, 0 => .number fun val fields => { fields with serverStreaming := val != 0 }
  | _, _ => .skip

/-- A name inside a package. -/
def qualified (package name : String) : String :=
  if package.isEmpty then name else package ++ "." ++ name

def buildMethodInfo (fields : MethodFields) (package service : String) : Option GrpcMethodInfo :=
  if fields.name.isEmpty then none
  else some
    { name := fields.name
      fullName := "/" ++ qualified package service ++ "/" ++ fields.name
      inputType := fields.inputType
      outputType := fields.outputType
      clientStreaming := fields.clientStreaming
      serverStreaming := fields.serverStreaming }

def parseMethodDescriptor (data : Bytes) (package service : String) :
    Checked (Option GrpcMethodInfo) :=
  (fieldLoop turns handleMethodField data {}).map fun (fields, complete) =>
    if complete then buildMethodInfo fields package service else none

/-- The service as far as it was read. -/
structure ServiceFields where
  name : String := ""
  methods : List GrpcMethodInfo := []

def handleServiceField (package : String) (num wire : Nat) : Field ServiceFields :=
  match num, wire with
  | 1, 2 => .text fun text fields => { fields with name := text }
  | 2, 2 => .message fun turns bytes fields =>
    (parseMethodDescriptor turns bytes package fields.name).map fun found =>
      { fields with methods := fields.methods ++ found.toList }
  | _, _ => .skip

def parseServiceDescriptor (data : Bytes) (package : String) : Checked (Option GrpcServiceInfo) :=
  (fieldLoop turns (handleServiceField package) data {}).map fun (fields, complete) =>
    if !complete || fields.name.isEmpty then none
    else some { name := qualified package fields.name, methods := fields.methods }

structure ProtoFieldInfo where
  name : String := ""
  number : Nat := 0
  typeName : String := ""

def handleFieldTag : Field ProtoFieldInfo :=
  match num, wire with
  | 1, 2 => .text fun text field => { field with name := text }
  | 3, 0 => .number fun val field => { field with number := val.toUInt32.toNat }
  | 6, 2 => .text fun text field => { field with typeName := text }
  | _, _ => .skip

def parseFieldDescriptor (data : Bytes) : Checked (Option ProtoFieldInfo) :=
  (fieldLoop turns handleFieldTag data {}).map fun (field, complete) =>
    if !complete || field.name.isEmpty then none else some field

structure ProtoMessageSchema where
  name : String := ""
  fields : List ProtoFieldInfo := []

def messageField : Field ProtoMessageSchema :=
  match num, wire with
  | 1, 2 => .text fun text message => { message with name := text }
  | 2, 2 => .message fun turns bytes message =>
    (parseFieldDescriptor turns bytes).map fun found =>
      { message with fields := message.fields ++ found.toList }
  | _, _ => .skip

def parseMessageDescriptor (data : Bytes) : Checked (Option ProtoMessageSchema) :=
  (fieldLoop turns messageField data {}).map fun (message, complete) =>
    if !complete || message.name.isEmpty then none else some message

structure ParsedFileDescriptor where
  package : String := ""
  services : List GrpcServiceInfo := []
  messageFields : Table ProtoMessageSchema.name := .empty

def handleFileProtoItem : Field ParsedFileDescriptor :=
  match num, wire with
  | 2, 2 => .text fun text result => { result with package := text }
  | 4, 2 => .message fun turns bytes result =>
    (parseMessageDescriptor turns bytes).map fun
      | some message => { result with messageFields := result.messageFields.upsert message }
      | none => result
  | 6, 2 => .message fun turns bytes result =>
    (parseServiceDescriptor turns bytes result.package).map fun found =>
      { result with services := result.services ++ found.toList }
  | _, _ => .skip

def parseFileDescriptorProto (data : Bytes) : Checked ParsedFileDescriptor :=
  (fieldLoop turns handleFileProtoItem data {}).map fun (result, _) => result

/-! ## The data that are in order -/

/-- The fields of a message without messages in it. -/
def Flat {Acc : Type} (table : Nat → Nat → Field Acc) (data : Bytes) : Prop :=
  Orderly (tableSpan table data) fun _ _ => True

variable (data : Bytes)

def ListOrderly : Prop :=
  Orderly (tableSpan listServicesField data) fun _ => Flat serviceResponseField

def ReflectionOrderly (payload : Bytes) : Prop :=
  Orderly (tableSpan reflectionField payload) fun _ => ListOrderly

def MessageOrderly : Prop :=
  Orderly (tableSpan messageField data) fun _ => Flat handleFieldTag

/-- Where the fields of a service lie does not depend on the package. -/
def ServiceOrderly : Prop :=
  Orderly (tableSpan (handleServiceField "") data) fun _ => Flat handleMethodField

def FileOrderly : Prop :=
  Orderly (tableSpan handleFileProtoItem data) fun num =>
    if num = 4 then MessageOrderly else ServiceOrderly

/-! ## Each parser returns for just these -/

/-- A table without messages and fields of a fixed size. -/
theorem flat_exact {Acc : Type} {table : Nat → Nat → Field Acc}
    (plain : ∀ num wire, (table num wire).decoder? = none ∧
      ∀ size store, table num wire ≠ .fixed size store) :
    Exact (fun turns data acc => fieldLoop turns table data acc) (Flat table) := by
  refine fieldLoop_exact ⟨?_, ?_⟩
  · intro num wire size store same
    exact absurd same ((plain num wire).2 size store)
  · intro num wire decode known
    rw [(plain num wire).1] at known
    cases known

theorem parseServiceResponse_exact :
    Exact (fun turns data (_ : Unit) => parseServiceResponse turns data)
      (Flat serviceResponseField) := by
  have loop : Exact (fun turns data acc => fieldLoop turns serviceResponseField data acc)
      (Flat serviceResponseField) := by
    refine flat_exact fun num wire => ?_
    unfold serviceResponseField
    split <;> exact ⟨rfl, nofun⟩
  exact loop.post (fun _ => none) _

theorem listServicesField_exact :
    ExactTable listServicesField fun _ => Flat serviceResponseField := by
  constructor
  · intro num wire size store same
    unfold listServicesField at same
    split at same <;> cases same
  · intro num wire decode known
    unfold listServicesField at known
    split at known <;> cases known
    exact parseServiceResponse_exact.post (fun _ => ()) listService

theorem listServices_exact :
    Exact (fun turns data (_ : Unit) => parseListServicesResponse turns data) ListOrderly :=
  (fieldLoop_exact listServicesField_exact).post (fun _ => []) _

theorem reflectionField_exact : ExactTable reflectionField fun _ => ListOrderly := by
  constructor
  · intro num wire size store same
    unfold reflectionField at same
    split at same <;> cases same
  · intro num wire decode known
    unfold reflectionField at known
    split at known <;> cases known
    refine ⟨?_, ?_⟩
    · intro turns data result _ fits ok
      exact listServices_exact.sound () fits ok
    · intro turns data _ fits enough good
      exact listServices_exact.complete () fits enough good

theorem reflectionPayload_exact :
    Exact (fun turns data (_ : Unit) => parseReflectionPayload turns data) ReflectionOrderly :=
  (fieldLoop_exact reflectionField_exact).post (fun _ => []) _

theorem methodDescriptor_exact :
    Exact (fun turns data (names : String × String) =>
      parseMethodDescriptor turns data names.1 names.2) (Flat handleMethodField) := by
  have loop : Exact (fun turns data acc => fieldLoop turns handleMethodField data acc)
      (Flat handleMethodField) := by
    refine flat_exact fun num wire => ?_
    unfold handleMethodField
    split <;> exact ⟨rfl, nofun⟩
  exact loop.post (fun (_ : String × String) => {}) fun names (fields, complete) =>
    if complete then buildMethodInfo fields names.1 names.2 else none

theorem tableSpan_handleServiceField (package : String) (data : Bytes) :
    tableSpan (handleServiceField package) data = tableSpan (handleServiceField "") data := by
  have same : ∀ num wire offset,
      (handleServiceField package num wire).span num data offset wire =
        (handleServiceField "" num wire).span num data offset wire := by
    intro num wire offset
    unfold handleServiceField
    split <;> rfl
  funext q
  unfold tableSpan
  simp only [same]

theorem handleServiceField_exact (package : String) :
    ExactTable (handleServiceField package) fun _ => Flat handleMethodField := by
  constructor
  · intro num wire size store same
    unfold handleServiceField at same
    split at same <;> cases same
  · intro num wire decode known
    unfold handleServiceField at known
    split at known <;> cases known
    exact methodDescriptor_exact.post (fun (fields : ServiceFields) => (package, fields.name))
      fun fields found => { fields with methods := fields.methods ++ found.toList }

theorem serviceDescriptor_exact :
    Exact (fun turns data (package : String) => parseServiceDescriptor turns data package)
      ServiceOrderly := by
  have loop : ∀ package, Exact (fun turns data (acc : ServiceFields) =>
      fieldLoop turns (handleServiceField package) data acc) ServiceOrderly := by
    intro package
    have exact := fieldLoop_exact (handleServiceField_exact package)
    simp only [tableSpan_handleServiceField] at exact
    exact exact
  have post := fun package => (loop package).post (fun (_ : Unit) => {}) fun _ (fields, complete) =>
    if !complete || fields.name.isEmpty then none
    else some (GrpcServiceInfo.mk (qualified package fields.name) fields.methods)
  constructor
  · intro turns data result package fits ok
    exact (post package).sound () fits ok
  · intro turns data package fits enough good
    exact (post package).complete () fits enough good

theorem fieldDescriptor_exact :
    Exact (fun turns data (_ : Unit) => parseFieldDescriptor turns data) (Flat handleFieldTag) := by
  have loop : Exact (fun turns data acc => fieldLoop turns handleFieldTag data acc)
      (Flat handleFieldTag) := by
    refine flat_exact fun num wire => ?_
    unfold handleFieldTag
    split <;> exact ⟨rfl, nofun⟩
  exact loop.post (fun _ => {}) fun _ (field, complete) =>
    if !complete || field.name.isEmpty then none else some field

theorem messageField_exact : ExactTable messageField fun _ => Flat handleFieldTag := by
  constructor
  · intro num wire size store same
    unfold messageField at same
    split at same <;> cases same
  · intro num wire decode known
    unfold messageField at known
    split at known <;> cases known
    exact fieldDescriptor_exact.post (fun (_ : ProtoMessageSchema) => ())
      fun message found => { message with fields := message.fields ++ found.toList }

theorem messageDescriptor_exact :
    Exact (fun turns data (_ : Unit) => parseMessageDescriptor turns data) MessageOrderly :=
  (fieldLoop_exact messageField_exact).post (fun _ => {}) fun _ (message, complete) =>
    if !complete || message.name.isEmpty then none else some message

theorem handleFileProtoItem_exact :
    ExactTable handleFileProtoItem fun num =>
      if num = 4 then MessageOrderly else ServiceOrderly := by
  constructor
  · intro num wire size store same
    unfold handleFileProtoItem at same
    split at same <;> cases same
  · intro num wire decode known
    unfold handleFileProtoItem at known
    split at known <;> cases known
    · exact messageDescriptor_exact.post (fun (_ : ParsedFileDescriptor) => ()) _
    · exact serviceDescriptor_exact.post (fun (result : ParsedFileDescriptor) => result.package)
        fun result found => { result with services := result.services ++ found.toList }

theorem fileDescriptor_exact :
    Exact (fun turns data (_ : Unit) => parseFileDescriptorProto turns data) FileOrderly :=
  (fieldLoop_exact handleFileProtoItem_exact).post (fun _ => {}) fun _ (result, _) => result

/-! ## The decoders of what a server sends -/

/-- With enough turns. -/
theorem Exact.returns_iff {Input Result : Type} {decode : Nat → Bytes → Input → Checked Result}
    {fine : Bytes → Prop} (exact : Exact decode fine) {data : Bytes}
    (fits : data.length ≤ maxSlice) (input : Input) :
    (∃ turns result, decode turns data input = .ok result) ↔ fine data := by
  constructor
  · rintro ⟨turns, result, ok⟩
    exact exact.sound input fits ok
  · intro good
    exact ⟨data.length + 1, exact.complete input fits (Nat.lt_succ_self _) good⟩

theorem services_return_iff {buf : Bytes} (fits : buf.length ≤ maxSlice) :
    (∃ turns services, parseServicesFromReflectionResponse turns buf = .ok services) ↔
      ∀ flag payload, decodeFramedGrpcMessage buf = .ok (some (flag, payload)) →
        ReflectionOrderly payload := by
  unfold parseServicesFromReflectionResponse
  rcases decodeFramedGrpcMessage_ok buf with bare | ⟨flag, payload, framed, short⟩
  · rw [bare]
    constructor
    · intro _ flag payload absurd
      cases absurd
    · intro _
      exact ⟨0, [], rfl⟩
  · rw [framed]
    have payloads := reflectionPayload_exact.returns_iff (Nat.le_trans short fits) ()
    constructor
    · rintro returns _ _ same
      cases same
      exact payloads.mp returns
    · intro orderly
      exact payloads.mpr (orderly flag payload rfl)

/-- **Which data are decoded.**  A decoder returns, and so takes no slice that is not inside its
data, for just the data whose fields are in order: no slice has a length that wraps, and no skip
leads back to a field that was read before. -/
theorem decoders_return_iff (data : Bytes) (fits : data.length ≤ maxSlice) :
    (∀ schema, (∃ turns value, protobufToJson turns data schema = .ok value) ↔
        WholeMessage maxRecursionDepth data) ∧
      ((∃ turns services, parseServicesFromReflectionResponse turns data = .ok services) ↔
        ∀ flag payload, decodeFramedGrpcMessage data = .ok (some (flag, payload)) →
          ReflectionOrderly payload) ∧
      ((∃ turns file, parseFileDescriptorProto turns data = .ok file) ↔ FileOrderly data) ∧
      ((∃ turns status, parseHealthCheckResponse turns data = .ok status) ↔
        ∀ q, Reaches (healthNext data) 0 q → ¬ Returns (healthNext data) q) :=
  ⟨fun schema => (json_exact schema).returns_iff fits (), services_return_iff fits,
    fileDescriptor_exact.returns_iff fits (), parseHealthCheckResponse_ends_iff data⟩

/-- The frame of a response with one field that is skipped. -/
def skippedAnswer : Bytes := [0x00, 0x00, 0x00, 0x00, 0x02, 0x08, 0x01]

theorem skippedAnswer_decoded :
    skippedAnswer.length ≤ maxSlice ∧ WholeMessage maxRecursionDepth skippedAnswer ∧
      ReflectionOrderly [0x08, 0x01] ∧ FileOrderly skippedAnswer := by
  have fits : skippedAnswer.length ≤ maxSlice := by decide
  obtain ⟨json, services, file, -⟩ := decoders_return_iff skippedAnswer fits
  refine ⟨fits, (json fun _ => none).mp ⟨8, .object [], rfl⟩, ?_, file.mp ⟨8, {}, rfl⟩⟩
  exact services.mp ⟨8, [], rfl⟩ 0x00 [0x08, 0x01] rfl

/-- A field of number 5 with the length `2 ^ 64 - 1`. -/
def wrappedAnswer : Bytes :=
  [0x00, 0x00, 0x00, 0x00, 0x0b,
    0x2a, 0xff, 0xff, 0xff, 0xff, 0xff, 0xff, 0xff, 0xff, 0xff, 0x01]

theorem reflectionLoop_endlessAnswer (outer turns : Nat) :
    run .unfinished (turn outer reflectionField endlessAnswer) turns (0, []) =
      .error .unfinished := by
  have again : turn outer reflectionField endlessAnswer (0, []) = .ok (.next (0, [])) := rfl
  induction turns with
  | zero => rfl
  | succ turns ih =>
    rw [run, again]
    exact ih

/-- The sum of the offset 11 and the length is 10, which passes the check; the slice `11..10` is a
panic.  A length that is only skipped leads back to the first field, and the parser does not end. -/
theorem reflection_answer_panics :
    (∀ turns, parseServicesFromReflectionResponse (turns + 1) wrappedAnswer = .error .panic) ∧
      ∀ turns, parseServicesFromReflectionResponse turns
        ([0x00, 0x00, 0x00, 0x00, 0x0b] ++ endlessAnswer) = .error .unfinished := by
  refine ⟨fun turns => rfl, fun turns => ?_⟩
  have framed : decodeFramedGrpcMessage ([0x00, 0x00, 0x00, 0x00, 0x0b] ++ endlessAnswer) =
      .ok (some (0x00, endlessAnswer)) := rfl
  rw [parseServicesFromReflectionResponse, framed]
  have loop := reflectionLoop_endlessAnswer turns turns
  show parseReflectionPayload turns endlessAnswer = .error .unfinished
  rw [parseReflectionPayload, fieldLoop, loop]
  rfl

end R3v3rs3.Grpc
