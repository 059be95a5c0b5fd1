import HouseGate.WireReader

namespace HouseGate.QueryCodec

open WireReader Text List

/-!
# The Query packet

`decodeQuery` and `encodeQuery` are written separately, field by field, with
the fields of later protocol revisions left out for earlier ones.  The revision
a feature needs and the layout of a setting and a parameter belong to the
protocol library, the text form of a trace state to the tracing library, so all
of them are parameters.
-/

section Types

/-- The first protocol revision that carries each group of fields. -/
structure Features where
  clientWriteInfo : Int
  settingsSerializedAsStrings : Int
  interserverExternallyGrantedRoles : Int
  interServerSecret : Int
  parameters : Int
  queryStartTime : Int
  quotaKeyInClientInfo : Int
  distributedDepth : Int
  versionPatch : Int
  openTelemetry : Int
  parallelReplicas : Int
  queryAndLineNumbers : Int

def interserverJWT : Int := 54476

def isIn (feature revision : Int) : Bool := feature ≤ revision

def interfaceTCP : UInt8 := 1

def clientCodeQuery : UInt8 := 1

/--
Trace states and their text: printing a state and parsing the text gives the
state back, and the empty state alone prints as the empty text.
-/
structure TraceStates (τ : Type) where
  empty : τ
  parse : Text → Option τ
  text : τ → Text
  parse_text : ∀ state, text state ≠ Text.empty → parse (text state) = some state
  text_empty : text empty = Text.empty
  empty_of_text : ∀ state, text state = Text.empty → state = empty

/-- The trace that a query belongs to. -/
structure SpanContext (τ : Type) where
  traceID : FixedBytes 16
  spanID : FixedBytes 8
  traceState : τ
  traceFlags : UInt8
  remote : Bool
deriving DecidableEq

/--
How the protocol library reads and writes a keyed record, a setting or a
parameter.  A record is read off the front of the stream whatever stands behind
it, and comes back from what is written for it.  The empty text, and nothing
else, is read as a record without a key.
-/
structure RecordCodec (ρ : Type) where
  key : ρ → Text
  decode : Reader ρ
  encode : ρ → List UInt8
  decode_encode : ∀ record, key record ≠ Text.empty → Spells decode (encode record) record
  spelled : ∀ {before after : Stream} {record : ρ}, Reads decode before record after →
      after.shortest = true →
      before.shortest = true ∧
        ∃ bytes, Spells decode bytes record ∧ before.input = bytes ++ after.input
  ends : ∃ record, key record = Text.empty ∧ Spells decode (putText Text.empty) record
  ended : ∀ {bytes : List UInt8} {record : ρ}, key record = Text.empty →
      Spells decode bytes record → bytes = putText Text.empty

/-- A setting of the format before settings were texts. -/
structure OldSetting where
  key : Text
  value : UInt64
deriving DecidableEq

/-- Who asked first, and when. -/
structure QueryOrigin where
  query : UInt8
  initialUser : Text
  initialQueryID : Text
  initialAddress : Text
  initialTime : Int64
deriving DecidableEq

/-- The program that sent the query. -/
structure ClientProgram where
  interface : UInt8
  osUser : Text
  clientHostname : Text
  clientName : Text
  major : Int64
  minor : Int64
  protocolVersion : Int64
deriving DecidableEq

/-- The quota key, the distributed depth and the patch version. -/
structure ClientQuota where
  quotaKey : Text
  distributedDepth : Int64
  patch : Int64
deriving DecidableEq

/-- The client's part in a parallel read. -/
structure ReplicaRole where
  collaborateWithInitiator : Bool
  countParticipatingReplicas : Int64
  numberOfCurrentReplica : Int64
deriving DecidableEq

/-- All that a query packet says of its client. -/
structure ClientInfo (τ : Type) extends
    QueryOrigin, ClientProgram, ClientQuota, ReplicaRole where
  span : SpanContext τ
deriving DecidableEq

/-- Where in a script the query stands. -/
structure ScriptNumbers where
  scriptQueryNumber : UInt64
  scriptLineNumber : UInt64
deriving DecidableEq

/-- The client's own token. -/
structure Credential where
  hasJWT : Bool
  jwt : Text
deriving DecidableEq

/-- The fields of a query that come with the client info. -/
structure ClientPart (τ : Type) extends ScriptNumbers, Credential where
  info : ClientInfo τ
  hasTrace : Bool
deriving DecidableEq

abbrev ClientPart.version {τ : Type} (client : ClientPart τ) : ClientProgram × ClientQuota :=
  (client.info.toClientProgram, client.info.toClientQuota)

abbrev ClientPart.trace {τ : Type} (client : ClientPart τ) : Bool × SpanContext τ :=
  (client.hasTrace, client.info.span)

/-- The settings of a query, in the format of its revision. -/
structure SettingsPart (σ : Type) where
  settings : List σ
  oldSettings : List OldSetting
deriving DecidableEq

/-- A Query packet. -/
structure Query (τ σ ρ : Type) extends ClientPart τ, SettingsPart σ where
  id : Text
  secret : Text
  stage : UInt8
  compression : UInt8
  body : Text
  parameters : List ρ
  externalRoles : Text
deriving DecidableEq

end Types

section ZeroValues

variable {τ : Type}

def zeroBytes (count : Nat) : FixedBytes count := ⟨replicate count 0, length_replicate⟩

def SpanContext.zero (states : TraceStates τ) : SpanContext τ where
  traceID := zeroBytes 16
  spanID := zeroBytes 8
  traceState := states.empty
  traceFlags := 0
  remote := false

def ReplicaRole.zero : ReplicaRole where
  collaborateWithInitiator := false
  countParticipatingReplicas := 0
  numberOfCurrentReplica := 0

def ScriptNumbers.zero : ScriptNumbers where
  scriptQueryNumber := 0
  scriptLineNumber := 0

def Credential.zero : Credential where
  hasJWT := false
  jwt := Text.empty

def ClientPart.zero (states : TraceStates τ) : ClientPart τ where
  toScriptNumbers := .zero
  toCredential := .zero
  hasTrace := false
  info := {
    query := 0
    initialUser := empty
    initialQueryID := empty
    initialAddress := empty
    initialTime := 0
    interface := 0
    osUser := empty
    clientHostname := empty
    clientName := empty
    major := 0
    minor := 0
    protocolVersion := 0
    quotaKey := empty
    distributedDepth := 0
    patch := 0
    toReplicaRole := .zero
    span := .zero states }

end ZeroValues

section ByteOrder

/-- Each group of eight bytes in reverse. -/
def swap64 (bytes : List UInt8) : List UInt8 :=
  if 8 ≤ bytes.length then (bytes.take 8).reverse ++ swap64 (bytes.drop 8) else bytes
termination_by bytes.length
decreasing_by
  rw [length_drop]
  omega

theorem length_swap64 (bytes : List UInt8) : (swap64 bytes).length = bytes.length := by
  fun_induction swap64 bytes with
  | case1 bytes long inductionHypothesis =>
    rw [length_append, inductionHypothesis, length_reverse, length_take, length_drop]
    omega
  | case2 bytes short => rfl

theorem swap64_swap64 (bytes : List UInt8) : swap64 (swap64 bytes) = bytes := by
  fun_induction swap64 bytes with
  | case1 bytes long inductionHypothesis =>
    have width : (bytes.take 8).reverse.length = 8 := by
      rw [length_reverse, length_take]
      omega
    have stillLong : 8 ≤ ((bytes.take 8).reverse ++ swap64 (bytes.drop 8)).length := by
      rw [length_append]
      omega
    rw [swap64, if_pos stillLong, take_left' width,
      drop_left' width, reverse_reverse, inductionHypothesis,
      take_append_drop]
  | case2 bytes short => rw [swap64, if_neg short]

def swapped {count : Nat} (bytes : FixedBytes count) : FixedBytes count :=
  ⟨swap64 bytes.val, by rw [length_swap64]; exact bytes.property⟩

theorem swapped_swapped {count : Nat} (bytes : FixedBytes count) :
    swapped (swapped bytes) = bytes :=
  Subtype.ext (swap64_swap64 bytes.val)

theorem eq_swapped_iff {count : Nat} {left right : FixedBytes count} :
    left = swapped right ↔ swapped left = right :=
  ⟨fun same => by rw [same, swapped_swapped], fun same => by rw [← same, swapped_swapped]⟩

end ByteOrder

section Decoding

variable {τ σ ρ : Type}
  (states : TraceStates τ)
  (settingCodec : RecordCodec σ)
  (parameterCodec : RecordCodec ρ)
  (features : Features)
  (revision : Int)

/-- The next record of a list, up to the one without a key. -/
def RecordCodec.decodeNext {ρ : Type} (codec : RecordCodec ρ) : Reader (Option ρ) := do
  let record ← codec.decode
  pure (if codec.key record = empty then none else some record)

/-- A record of the format before settings were texts. -/
def decodeOldSetting : Reader (Option OldSetting) := do
  let key ← within "OldSetting.Key" text
  if key = empty then
    pure none
  else
    let value ← within "OldSetting.Value" uint64
    pure (some { key := key, value := value })

def decodeOrigin : Reader QueryOrigin := do
  let query ← within "query kind" uint8
  let initialUser ← within "initial user" text
  let initialQueryID ← within "initial query id" text
  let initialAddress ← within "initial address" text
  let initialTime ← whenCarried (isIn features.queryStartTime revision) 0
    (within "query start time" int64)
  pure {
    query := query
    initialUser := initialUser
    initialQueryID := initialQueryID
    initialAddress := initialAddress
    initialTime := initialTime }

def decodeProgram : Reader ClientProgram := do
  let interface ← within "interface" uint8
  let osUser ← within "os user" text
  let clientHostname ← within "client hostname" text
  let clientName ← within "client name" text
  let major ← within "major version" int
  let minor ← within "minor version" int
  let protocolVersion ← within "protocol version" int
  pure {
    interface := interface
    osUser := osUser
    clientHostname := clientHostname
    clientName := clientName
    major := major
    minor := minor
    protocolVersion := protocolVersion }

def decodeQuota (interface : UInt8) : Reader ClientQuota := do
  let quotaKey ←
    whenCarried (isIn features.quotaKeyInClientInfo revision) empty (within "quota key" text)
  let distributedDepth ←
    whenCarried (isIn features.distributedDepth revision) 0 (within "distributed depth" int)
  let patch ← whenCarried (isIn features.versionPatch revision && interface == interfaceTCP) 0
      (within "patch version" int)
  pure {
    quotaKey := quotaKey
    distributedDepth := distributedDepth
    patch := patch }

def decodeVersion : Reader (ClientProgram × ClientQuota) := do
  let program ← decodeProgram
  let quota ← decodeQuota features revision program.interface
  pure (program, quota)

def parseTraceState (stateText : Text) : Reader τ :=
  if stateText = empty then
    pure states.empty
  else
    match states.parse stateText with
    | some state => pure state
    | none => throw (.refused "trace state")

def decodeTraceState : Reader τ := do
  let stateText ← within "trace state" text
  within "parse trace state" (parseTraceState states stateText)

def decodeSpan : Reader (SpanContext τ) := do
  let traceID ← within "trace id" (raw 16)
  let spanID ← within "span id" (raw 8)
  let traceState ← decodeTraceState states
  let traceFlags ← within "trace flags" uint8
  pure {
    traceID := swapped traceID
    spanID := swapped spanID
    traceState := traceState
    traceFlags := traceFlags
    remote := false }

def decodeTrace : Reader (Bool × SpanContext τ) :=
  flagged "open telemetry flag" (.zero states) (decodeSpan states)

def decodeCollaborate : Reader Bool := do
  let collaborate ← within "parallel replicas" int
  pure (collaborate == 1)

def decodeReplicas : Reader ReplicaRole := do
  let collaborate ← decodeCollaborate
  let count ← within "count participating replicas" int
  let number ← within "number of current replica" int
  pure {
    collaborateWithInitiator := collaborate
    countParticipatingReplicas := count
    numberOfCurrentReplica := number }

def decodeScript : Reader ScriptNumbers := do
  let queryNumber ← within "script query number" uvarint
  let lineNumber ← within "script line number" uvarint
  pure {
    scriptQueryNumber := queryNumber
    scriptLineNumber := lineNumber }

def decodeCredential : Reader Credential := do
  let jwt ← flagged "jwt flag" empty (within "jwt" text)
  pure { hasJWT := jwt.1, jwt := jwt.2 }

def decodeClientInfo : Reader (ClientPart τ) := do
  let origin ← decodeOrigin features revision
  let version ← decodeVersion features revision
  let trace ← whenCarried (isIn features.openTelemetry revision)
      (false, SpanContext.zero states) (decodeTrace states)
  let replicas ← whenCarried (isIn features.parallelReplicas revision) .zero decodeReplicas
  let script ← whenCarried (isIn features.queryAndLineNumbers revision) .zero decodeScript
  let credential ← whenCarried (isIn interserverJWT revision) .zero decodeCredential
  pure {
    toScriptNumbers := script
    toCredential := credential
    hasTrace := trace.1
    info := {
      toQueryOrigin := origin
      toClientProgram := version.1
      toClientQuota := version.2
      toReplicaRole := replicas
      span := trace.2 } }

/-- The settings in the one format or the other. -/
def decodeSettings : Reader (SettingsPart σ) :=
  if isIn features.settingsSerializedAsStrings revision then do
    let settings ← allRows (within "Setting" settingCodec.decodeNext)
    pure { settings := settings, oldSettings := [] }
  else do
    let oldSettings ← allRows decodeOldSetting
    pure { settings := [], oldSettings := oldSettings }

/-- A number of which the query keeps the low byte. -/
def decodeByte (field : String) : Reader UInt8 := do
  let number ← within field uvarint
  pure number.toUInt8

def decodeQuery : Reader (Query τ σ ρ) := do
  let id ← within "QueryID" text
  let client ← whenCarried (isIn features.clientWriteInfo revision) (.zero states)
      (within "ClientInfo" (decodeClientInfo states features revision))
  let settings ← decodeSettings settingCodec features revision
  let externalRoles ← whenCarried (isIn features.interserverExternallyGrantedRoles revision)
      empty (within "ExternalRoles" text)
  let secret ← whenCarried (isIn features.interServerSecret revision) empty
      (within "InterServerSecret" text)
  let stage ← decodeByte "Stage"
  let compression ← decodeByte "Compression"
  let body ← within "Body" text
  let parameters ← whenCarried (isIn features.parameters revision) []
      (allRows (within "Parameter" parameterCodec.decodeNext))
  pure {
    toClientPart := client
    toSettingsPart := settings
    id := id
    secret := secret
    stage := stage
    compression := compression
    body := body
    parameters := parameters
    externalRoles := externalRoles }

end Decoding

section Encoding

variable {τ σ ρ : Type}
  (states : TraceStates τ)
  (settingCodec : RecordCodec σ)
  (parameterCodec : RecordCodec ρ)
  (features : Features)
  (revision : Int)

def encodeOldSetting (setting : OldSetting) : List UInt8 :=
  putText setting.key ++ putUint64 setting.value

def encodeOrigin (origin : QueryOrigin) : List UInt8 :=
  [origin.query] ++ putText origin.initialUser ++
    putText origin.initialQueryID ++ putText origin.initialAddress ++
    writtenWhen (isIn features.queryStartTime revision) (putInt64 origin.initialTime)

def encodeProgram (program : ClientProgram) : List UInt8 :=
  [program.interface] ++ putText program.osUser ++
    putText program.clientHostname ++ putText program.clientName ++
    putInt program.major ++ putInt program.minor ++
    putInt program.protocolVersion

def encodeQuota (interface : UInt8) (quota : ClientQuota) : List UInt8 :=
  writtenWhen (isIn features.quotaKeyInClientInfo revision) (putText quota.quotaKey) ++
    writtenWhen (isIn features.distributedDepth revision) (putInt quota.distributedDepth) ++
    writtenWhen (isIn features.versionPatch revision && interface == interfaceTCP)
      (putInt quota.patch)

def encodeVersion (version : ClientProgram × ClientQuota) : List UInt8 :=
  encodeProgram version.1 ++ encodeQuota features revision version.1.interface version.2

/-- A span with the given text for its trace state. -/
def putSpan (stateText : Text) (span : SpanContext τ) : List UInt8 :=
  (swapped span.traceID).val ++ (swapped span.spanID).val ++ putText stateText ++ [span.traceFlags]

def encodeTrace (trace : Bool × SpanContext τ) : List UInt8 :=
  putFlagged putSpan (states.text trace.2.traceState) trace

/-- The replica fields with the given number for the collaboration flag. -/
def putReplicas (collaborate : Int64) (role : ReplicaRole) : List UInt8 :=
  putInt collaborate ++ putInt role.countParticipatingReplicas ++ putInt role.numberOfCurrentReplica

def encodeReplicas (role : ReplicaRole) : List UInt8 :=
  putReplicas (if role.collaborateWithInitiator then 1 else 0) role

def encodeScript (script : ScriptNumbers) : List UInt8 :=
  putUvarint script.scriptQueryNumber ++ putUvarint script.scriptLineNumber

def encodeCredential (credential : Credential) : List UInt8 :=
  putFlagged (fun _ => putText) () (credential.hasJWT, credential.jwt)

def encodeClientInfo (client : ClientPart τ) : List UInt8 :=
  encodeOrigin features revision client.info.toQueryOrigin ++
    encodeVersion features revision client.version ++
    writtenWhen (isIn features.openTelemetry revision) (encodeTrace states client.trace) ++
    writtenWhen (isIn features.parallelReplicas revision)
      (encodeReplicas client.info.toReplicaRole) ++
    writtenWhen (isIn features.queryAndLineNumbers revision)
      (encodeScript client.toScriptNumbers) ++
    writtenWhen (isIn interserverJWT revision) (encodeCredential client.toCredential)

def encodeSettings (part : SettingsPart σ) : List UInt8 :=
  if isIn features.settingsSerializedAsStrings revision then
    part.settings.flatMap settingCodec.encode ++ putText empty
  else
    part.oldSettings.flatMap encodeOldSetting ++ putText Text.empty

def encodeQuery (query : Query τ σ ρ) : List UInt8 := [clientCodeQuery] ++ putText query.id ++
    writtenWhen (isIn features.clientWriteInfo revision)
      (encodeClientInfo states features revision query.toClientPart) ++
    encodeSettings settingCodec features revision query.toSettingsPart ++
    writtenWhen (isIn features.interserverExternallyGrantedRoles revision)
      (putText query.externalRoles) ++
    writtenWhen (isIn features.interServerSecret revision) (putText query.secret) ++
    putUvarint query.stage.toUInt64 ++
    putUvarint query.compression.toUInt64 ++
    putText query.body ++
    writtenWhen (isIn features.parameters revision)
      (query.parameters.flatMap parameterCodec.encode ++ putText empty)

end Encoding

end HouseGate.QueryCodec
