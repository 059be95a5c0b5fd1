import Mathlib.Data.List.Forall2
import HouseGate.QueryRoundTrip

namespace HouseGate.QueryCodec

open WireReader Text List ClientPart UInt64

/-!
# Whole Query packets

A query whose fields its revision carries is read back from its packet.  A
packet that is accepted is written back unchanged exactly when the query keeps
all that its numbers, its trace state and its records say.
-/

variable {present : Bool}

section ClientPackets

variable {τ : Type} (states : TraceStates τ) (features : Features) (revision : Int)

/-- The revision carries the fields of the client info that are set. -/
structure ClientCarried (client : ClientPart τ) : Prop where
  origin : originCarried features revision client.info.toQueryOrigin
  quota : quotaCarried features revision client.info.interface client.info.toClientQuota
  hasTrace : KeptWhen (isIn features.openTelemetry revision) false client.hasTrace
  span : KeptWhen client.hasTrace (.zero states) client.info.span
  isLocal : client.info.span.remote = false
  replicas : KeptWhen (isIn features.parallelReplicas revision) .zero client.info.toReplicaRole
  script : KeptWhen (isIn features.queryAndLineNumbers revision) .zero client.toScriptNumbers
  hasJWT : KeptWhen (isIn interserverJWT revision) false client.hasJWT
  jwt : credentialCarried client.toCredential

/-- The trace state text and the flag number from which the info was read. -/
structure DescribesClient (wire : Text × Int64) (client : ClientPart τ) : Prop where
  carried : ClientCarried states features revision client
  state :
    if client.hasTrace then
      describesState states wire.1 client.info.span.traceState
    else
      wire.1 = empty
  collaborate :
    if isIn features.parallelReplicas revision then
      describesReplicas wire.2 client.info.toReplicaRole
    else
      wire.2 = 0

/-- The client info with the given trace state text and flag number. -/
def putClientInfo (wire : Text × Int64) (client : ClientPart τ) : List UInt8 :=
  encodeOrigin features revision client.info.toQueryOrigin ++
    encodeVersion features revision client.version ++
    writtenWhen (isIn features.openTelemetry revision) (putFlagged putSpan wire.1 client.trace) ++
    writtenWhen (isIn features.parallelReplicas revision)
      (putReplicas wire.2 client.info.toReplicaRole) ++
    writtenWhen (isIn features.queryAndLineNumbers revision)
      (encodeScript client.toScriptNumbers) ++
    writtenWhen (isIn interserverJWT revision) (encodeCredential client.toCredential)

theorem gated_iff
    {α : Type}
    {absent value : α}
    {described unset : Prop} :
    (if present then described else unset ∧ value = absent) ↔ KeptWhen present absent value ∧
        if present then described else unset := by
  unfold KeptWhen
  cases present with
  | true => simp
  | false => simp [and_comm]

theorem trace_described_iff {stateText : Text} {trace : Bool × SpanContext τ} :
    (if present then describesTrace states stateText trace
      else stateText = empty ∧ trace = (false, .zero states)) ↔
      KeptWhen present false trace.1 ∧
        KeptWhen trace.1 (.zero states) trace.2 ∧ trace.2.remote = false ∧
        if trace.1 then describesState states stateText trace.2.traceState
        else stateText = empty := by
  obtain ⟨hasTrace, span⟩ := trace
  unfold describesTrace describesSpan KeptWhen
  cases present with
  | true =>
    cases hasTrace with
    | true => simp
    | false =>
      constructor
      · rintro ⟨noText, isZero⟩
        exact ⟨nofun, fun _ => isZero, by rw [isZero]; rfl, noText⟩
      · rintro ⟨_, isZero, _, noText⟩
        exact ⟨noText, isZero rfl⟩
  | false =>
    constructor
    · rintro ⟨noText, same⟩
      cases same
      exact ⟨fun _ => rfl, fun _ => rfl, rfl, noText⟩
    · rintro ⟨untraced, isZero, _, noText⟩
      obtain rfl := untraced rfl
      exact ⟨noText, congrArg (Prod.mk false) (isZero rfl)⟩

theorem credential_described_iff {credential : Credential} :
    (if present then credentialCarried credential
      else () = () ∧ credential = .zero) ↔
      KeptWhen present false credential.hasJWT ∧ credentialCarried credential := by
  obtain ⟨hasJWT, jwt⟩ := credential
  unfold credentialCarried KeptWhen
  cases present with
  | true => simp
  | false =>
    cases hasJWT with
    | true | false => simp [Credential.zero]

theorem decodeClientInfo_described : Described (decodeClientInfo states features revision)
    (putClientInfo features revision)
    (DescribesClient states features revision) := by
  refine (Segment.field (decodeOrigin_mirror features revision)
    (fun client : ClientPart τ => client.info.toQueryOrigin) fun _ =>
    .field (decodeVersion_mirror features revision) version fun _ =>
    .wire ((decodeTrace_described states).gated _ empty _) trace fun _ =>
    .wire (decodeReplicas_described.gated _ 0 _)
      (fun client : ClientPart τ => client.info.toReplicaRole) fun _ =>
    .field (decodeScript_mirror.optional _ _) toScriptNumbers fun _ =>
    .wire (decodeCredential_mirror.gated _ () _) toCredential fun _ => .done ?_).recast
    (fun wire => (wire.1, wire.2, (), ())) (fun wire => (wire.1, wire.2.1))
    (fun _ => rfl) (fun _ => rfl) ?_ ?_
  · rintro ⟨script, credential, ⟨origin, program, quota, role, span⟩, hasTrace⟩
    simp only [mk.injEq, ClientInfo.mk.injEq, Prod.ext_iff]
    tauto
  · intro wire client _
    simp [putClientInfo]
  intro wire client _
  rw [trace_described_iff, gated_iff, credential_described_iff]
  constructor
  · rintro ⟨⟨origin, quota, hasTrace, span, isLocal, replicas, script,
      hasJWT, jwt⟩, state, collaborate⟩
    exact ⟨origin, quota, ⟨hasTrace, span, isLocal, state⟩,
      ⟨replicas, collaborate⟩, script, ⟨hasJWT, jwt⟩, trivial⟩
  · rintro ⟨origin, quota, ⟨hasTrace, span, isLocal, state⟩,
      ⟨replicas, collaborate⟩, script, ⟨hasJWT, jwt⟩, _⟩
    exact ⟨⟨origin, quota, hasTrace, span, isLocal, replicas, script,
      hasJWT, jwt⟩, state, collaborate⟩

end ClientPackets

section SettingsPackets

variable {σ : Type} (settingCodec : RecordCodec σ) (features : Features) (revision : Int)

/-- The settings, those that are texts with the given bytes. -/
def putSettings (wires : List (List UInt8)) (part : SettingsPart σ) : List UInt8 :=
  if isIn features.settingsSerializedAsStrings revision then
    wires.flatten ++ putText empty
  else
    part.oldSettings.flatMap encodeOldSetting ++ putText empty

/-- The bytes from which the settings that are texts were read. -/
def DescribesSettings (wires : List (List UInt8)) (part : SettingsPart σ) : Prop :=
  if isIn features.settingsSerializedAsStrings revision then
    Forall₂ settingCodec.describes wires part.settings ∧ part.oldSettings = []
  else
    wires = [] ∧ part.settings = [] ∧ ∀ setting ∈ part.oldSettings, setting.key ≠ empty

theorem describesOldSetting_iff {wires : List (List UInt8)} {settings : List OldSetting} :
    Forall₂ describesOldSetting wires settings ↔
      wires = settings.map encodeOldSetting ∧ ∀ setting ∈ settings, setting.key ≠ empty := by
  constructor
  · intro described
    induction described with
    | nil => exact ⟨rfl, nofun⟩
    | cons describesHead _ inductionHypothesis =>
      rw [describesHead.2, inductionHypothesis.1]
      exact ⟨rfl, forall_mem_cons.mpr ⟨describesHead.1, inductionHypothesis.2⟩⟩
  · rintro ⟨rfl, keyed⟩
    rw [forall₂_map_left_iff, forall₂_same]
    exact fun setting isSetting => ⟨keyed setting isSetting, rfl⟩

theorem decodeSettings_described : Described (decodeSettings settingCodec features revision)
    (putSettings features revision)
    (DescribesSettings settingCodec features revision) := by
  unfold decodeSettings putSettings DescribesSettings
  cases isIn features.settingsSerializedAsStrings revision with
  | true =>
    have rows := (settingCodec.listed.named "Setting").described
    refine ⟨?_, ?_, ?_⟩
    · rintro wires ⟨settings, oldSettings⟩ rest shortest _ ⟨described, rfl⟩
      exact reads_then (rows.reads rest shortest trivial described) (reads_pure.mpr ⟨rfl, rfl⟩)
    · intro before after part read shortest
      obtain ⟨settings, middle, readRows, read⟩ := reads_bind.mp read
      obtain ⟨rfl, rfl⟩ := reads_pure.mp read
      obtain ⟨beforeShortest, _, wires, described, beforeInput⟩ := rows.written readRows shortest
      exact ⟨beforeShortest, trivial, wires, ⟨described, rfl⟩, beforeInput⟩
    · rintro left right part leftRest rightRest _ ⟨describesLeft, _⟩ ⟨describesRight, _⟩ same
      exact rows.determined trivial describesLeft describesRight same
  | false =>
    have rows := decodeOldSetting_listed.described
    refine ⟨?_, ?_, ?_⟩
    · rintro wires ⟨settings, oldSettings⟩ rest shortest _ ⟨rfl, rfl, keyed⟩
      have read := rows.reads rest shortest trivial (describesOldSetting_iff.mpr ⟨rfl, keyed⟩)
      exact reads_then read (reads_pure.mpr ⟨rfl, rfl⟩)
    · intro before after part read shortest
      obtain ⟨oldSettings, middle, readRows, read⟩ := reads_bind.mp read
      obtain ⟨rfl, rfl⟩ := reads_pure.mp read
      obtain ⟨beforeShortest, _, wires, described, beforeInput⟩ := rows.written readRows shortest
      obtain ⟨rfl, keyed⟩ := describesOldSetting_iff.mp described
      exact ⟨beforeShortest, trivial, [], ⟨rfl, rfl, keyed⟩, beforeInput⟩
    · rintro left right part leftRest rightRest _ ⟨rfl, _⟩ ⟨rfl, _⟩ same
      exact ⟨rfl, append_cancel_left same⟩

end SettingsPackets

section Packets

/-- What stands on the wire where a query may keep less than stands there. -/
structure WireForm where
  traceState : Text
  collaborate : Int64
  settings : List (List UInt8)
  stage : UInt64
  compression : UInt64
  parameters : List (List UInt8)

variable {τ σ ρ : Type}
  (states : TraceStates τ)
  (settingCodec : RecordCodec σ)
  (parameterCodec : RecordCodec ρ)
  (features : Features)
  (revision : Int)

/-- Every setting and parameter has a key. -/
def Query.Keyed (query : Query τ σ ρ) : Prop :=
  (∀ setting ∈ query.settings, settingCodec.key setting ≠ empty) ∧
    (∀ setting ∈ query.oldSettings, setting.key ≠ empty) ∧
    ∀ parameter ∈ query.parameters, parameterCodec.key parameter ≠ empty

/-- The revision carries every field of the query that is set. -/
structure Query.Carried (query : Query τ σ ρ) : Prop where
  client :
    if isIn features.clientWriteInfo revision then
      ClientCarried states features revision query.toClientPart
    else
      query.toClientPart = .zero states
  settings :
    if isIn features.settingsSerializedAsStrings revision then
      query.oldSettings = []
    else
      query.settings = []
  externalRoles : KeptWhen (isIn features.interserverExternallyGrantedRoles revision)
      empty query.externalRoles
  secret : KeptWhen (isIn features.interServerSecret revision) empty query.secret
  parameters : KeptWhen (isIn features.parameters revision) [] query.parameters

/-- A packet after its type byte, with the given form on the wire. -/
def putQuery (form : WireForm) (query : Query τ σ ρ) : List UInt8 := putText query.id ++
    writtenWhen (isIn features.clientWriteInfo revision) (putClientInfo features revision
        (form.traceState, form.collaborate) query.toClientPart) ++
    putSettings features revision form.settings query.toSettingsPart ++
    writtenWhen (isIn features.interserverExternallyGrantedRoles revision)
      (putText query.externalRoles) ++
    writtenWhen (isIn features.interServerSecret revision) (putText query.secret) ++
    putUvarint form.stage ++
    putUvarint form.compression ++
    putText query.body ++
    writtenWhen (isIn features.parameters revision) (form.parameters.flatten ++ putText empty)

/-- The query is what the code keeps of a packet with the given form. -/
structure DescribesQuery (form : WireForm) (query : Query τ σ ρ) : Prop where
  client :
    if isIn features.clientWriteInfo revision then
      DescribesClient states features revision
        (form.traceState, form.collaborate) query.toClientPart
    else
      (form.traceState, form.collaborate) = (empty, 0) ∧ query.toClientPart = .zero states
  settings : DescribesSettings settingCodec features revision form.settings query.toSettingsPart
  externalRoles : KeptWhen (isIn features.interserverExternallyGrantedRoles revision)
      empty query.externalRoles
  secret : KeptWhen (isIn features.interServerSecret revision) empty query.secret
  stage : query.stage = form.stage.toUInt8
  compression : query.compression = form.compression.toUInt8
  parameters :
    if isIn features.parameters revision then
      Forall₂ parameterCodec.describes form.parameters query.parameters
    else
      form.parameters = [] ∧ query.parameters = []

theorem decodeQuery_described :
    Described (decodeQuery states settingCodec parameterCodec features revision)
      (putQuery features revision)
      (DescribesQuery states settingCodec parameterCodec features revision) := by
  refine (Segment.field (text_mirror.named _) Query.id fun _ =>
    .wire (((decodeClientInfo_described states features revision).named
      _).gated _ (empty, 0) _) Query.toClientPart fun _ =>
    .wire (decodeSettings_described settingCodec features revision) Query.toSettingsPart fun _ =>
    .field ((text_mirror.named _).optional _ _) Query.externalRoles fun _ =>
    .field ((text_mirror.named _).optional _ _) Query.secret fun _ =>
    .wire ((uvarint_mirror.named _).keeping toUInt8) Query.stage fun _ =>
    .wire ((uvarint_mirror.named _).keeping toUInt8) Query.compression fun _ =>
    .field (text_mirror.named _) Query.body fun _ =>
    .wire ((parameterCodec.listed.named _).described.gated _ [] _) Query.parameters
      fun _ => .done ?_).recast
    (fun form =>
      ((form.traceState, form.collaborate), form.settings,
        form.stage, form.compression, form.parameters, ()))
    (fun wire => ⟨wire.1.1, wire.1.2, wire.2.1, wire.2.2.1, wire.2.2.2.1, wire.2.2.2.2.1⟩)
    (fun _ => rfl) (fun _ => rfl) ?_ ?_
  · rintro ⟨⟩
    simp only [Query.mk.injEq]
    tauto
  · intro form query _
    simp [putQuery]
  intro form query _
  constructor
  · rintro ⟨client, settings, roles, secret, stage, compression, parameters⟩
    exact ⟨trivial, client, settings, roles, secret, stage, compression,
      trivial, parameters, trivial⟩
  · rintro ⟨_, client, settings, roles, secret, stage, compression, _, parameters, _⟩
    exact ⟨client, settings, roles, secret, stage, compression, parameters⟩

end Packets

variable {form : WireForm}

section RoundTrips

variable {τ σ ρ : Type}
  (states : TraceStates τ)
  (settingCodec : RecordCodec σ)
  (parameterCodec : RecordCodec ρ)
  (features : Features)
  (revision : Int)

/-- The trace state text and the flag number of the client info written. -/
def ClientPart.wire (client : ClientPart τ) : Text × Int64 :=
  (if client.hasTrace then states.text client.info.span.traceState
    else empty,
    if client.info.collaborateWithInitiator then 1 else 0)

/-- The form in which a query is written. -/
def Query.wireForm (query : Query τ σ ρ) : WireForm where
  traceState := (query.toClientPart.wire states).1
  collaborate := (query.toClientPart.wire states).2
  settings := query.settings.map settingCodec.encode
  stage := query.stage.toUInt64
  compression := query.compression.toUInt64
  parameters := query.parameters.map parameterCodec.encode

/-- The text is what its own trace state prints. -/
def TraceStates.Normal (stateText : Text) : Prop :=
  ∀ state, describesState states stateText state → states.text state = stateText

/-- The bytes are those the library writes for the record they stand for. -/
def RecordCodec.Normal {ρ : Type} (codec : RecordCodec ρ) (bytes : List UInt8) : Prop :=
  ∀ record, codec.describes bytes record → codec.encode record = bytes

/-- The query keeps all that stands on the wire. -/
structure WireForm.Exact (form : WireForm) : Prop where
  traceState : states.Normal form.traceState
  collaborate : form.collaborate = 0 ∨ form.collaborate = 1
  settings : ∀ bytes ∈ form.settings, settingCodec.Normal bytes
  stage : form.stage.toNat < 256
  compression : form.compression.toNat < 256
  parameters : ∀ bytes ∈ form.parameters, parameterCodec.Normal bytes

/-- However the bytes are read as a packet, its form is exact. -/
def ExactPacket (bytes : List UInt8) : Prop := ∀ (form : WireForm) (query : Query τ σ ρ),
    DescribesQuery states settingCodec parameterCodec features revision form query →
    bytes = putQuery features revision form query →
    form.Exact states settingCodec parameterCodec

theorem encodeClientInfo_eq (client : ClientPart τ) :
    encodeClientInfo states features revision client =
      putClientInfo features revision (client.wire states) client := by
  have trace :
      encodeTrace states client.trace = putFlagged putSpan (client.wire states).1 client.trace := by
    unfold encodeTrace putFlagged wire
    change (if client.hasTrace then _ else _) =
      if client.hasTrace then _ else _
    cases client.hasTrace with
    | true | false => rfl
  rw [encodeClientInfo, putClientInfo, trace]
  rfl

theorem encodeQuery_eq (query : Query τ σ ρ) :
    encodeQuery states settingCodec parameterCodec features revision query = clientCodeQuery ::
        putQuery features revision (query.wireForm states settingCodec parameterCodec) query := by
  unfold encodeQuery putQuery
  rw [encodeClientInfo_eq, encodeSettings, putSettings]
  rfl

theorem describesClient_wire
    {client : ClientPart τ} (carried : ClientCarried states features revision client) :
    DescribesClient states features revision (client.wire states) client where
  carried := carried
  state := by
    unfold wire
    cases client.hasTrace with
    | true => exact describesState_text states _
    | false => rfl
  collaborate := by
    unfold wire describesReplicas
    cases present : isIn features.parallelReplicas revision with
    | true =>
      cases client.info.collaborateWithInitiator with
      | true | false => rfl
    | false =>
      have absent := carried.replicas present
      have apart : client.info.collaborateWithInitiator = false :=
        congrArg ReplicaRole.collaborateWithInitiator absent
      rw [apart]
      rfl

theorem RecordCodec.describes_encode
    {ρ : Type}
    (codec : RecordCodec ρ)
    {records : List ρ}
    (keyed : ∀ record ∈ records, codec.key record ≠ empty) :
    Forall₂ codec.describes (records.map codec.encode) records := by
  rw [forall₂_map_left_iff, forall₂_same]
  exact fun record isRecord =>
    ⟨keyed record isRecord, codec.decode_encode record (keyed record isRecord)⟩

theorem describesSettings_encode
    {part : SettingsPart σ}
    (keyed : ∀ setting ∈ part.settings, settingCodec.key setting ≠ empty)
    (oldKeyed : ∀ setting ∈ part.oldSettings, setting.key ≠ empty)
    (carried :
      if isIn features.settingsSerializedAsStrings revision then
        part.oldSettings = []
      else
        part.settings = []) :
    DescribesSettings settingCodec features revision
      (part.settings.map settingCodec.encode) part := by
  unfold DescribesSettings
  split_ifs at carried ⊢ with present
  · exact ⟨settingCodec.describes_encode keyed, carried⟩
  · refine ⟨?_, carried, oldKeyed⟩
    rw [carried]
    rfl

variable {query : Query τ σ ρ}

theorem describesQuery_wireForm
    (keyed : query.Keyed settingCodec parameterCodec)
    (carried : query.Carried states features revision) :
    DescribesQuery states settingCodec parameterCodec features revision
      (query.wireForm states settingCodec parameterCodec) query where
  client := by
    have client := carried.client
    split_ifs at client ⊢ with present
    · exact describesClient_wire states features revision client
    · refine ⟨?_, client⟩
      change query.toClientPart.wire states = _
      rw [client]
      rfl
  settings :=
    describesSettings_encode settingCodec features revision keyed.1 keyed.2.1 carried.settings
  externalRoles := carried.externalRoles
  secret := carried.secret
  stage := (UInt8.toUInt8_toUInt64 query.stage).symm
  compression := (UInt8.toUInt8_toUInt64 query.compression).symm
  parameters := by
    cases present : isIn features.parameters revision with
    | true => exact parameterCodec.describes_encode keyed.2.2
    | false =>
      have absent := carried.parameters present
      refine ⟨?_, absent⟩
      rw [Query.wireForm, absent]
      rfl

theorem eq_wire {wire : Text × Int64} {client : ClientPart τ}
    (described : DescribesClient states features revision wire client)
    (normal : states.Normal wire.1) (small : wire.2 = 0 ∨ wire.2 = 1) :
    wire = client.wire states := by
  have state := described.state
  have replicas := described.collaborate
  apply Prod.ext
  · change wire.1 = if client.hasTrace then _ else _
    split_ifs at state ⊢ with traced
    · exact (normal _ state).symm
    · exact state
  · unfold ClientPart.wire
    cases present : isIn features.parallelReplicas revision with
    | true =>
      rw [present] at replicas
      have read : client.info.collaborateWithInitiator = (wire.2 == 1) := replicas
      rw [read]
      rcases small with isZero | isOne
      · rw [isZero]
        rfl
      · rw [isOne]
        rfl
    | false =>
      rw [present] at replicas
      have apart : client.info.collaborateWithInitiator = false :=
        congrArg ReplicaRole.collaborateWithInitiator (described.carried.replicas present)
      rw [apart]
      exact replicas

theorem RecordCodec.eq_encode {ρ : Type} (codec : RecordCodec ρ)
    {wires : List (List UInt8)}
    {records : List ρ}
    (described : Forall₂ codec.describes wires records)
    (normal : ∀ bytes ∈ wires, codec.Normal bytes) :
    wires = records.map codec.encode := by
  induction described with
  | nil => rfl
  | cons describesHead _ inductionHypothesis =>
    rw [forall_mem_cons] at normal
    rw [map_cons, normal.1 _ describesHead, ← inductionHypothesis normal.2]

theorem eq_toUInt64_of_lt
    {number : UInt64}
    {byte : UInt8}
    (kept : byte = number.toUInt8)
    (small : number.toNat < 256) :
    number = byte.toUInt64 := by
  apply UInt64.toNat_inj.mp
  rw [kept, UInt8.toNat_toUInt64, UInt64.toNat_toUInt8]
  omega

theorem eq_wireForm
    (described : DescribesQuery states settingCodec parameterCodec features revision form query)
    (isExact : form.Exact states settingCodec parameterCodec) :
    form = query.wireForm states settingCodec parameterCodec := by
  have client := described.client
  have settings := described.settings
  have parameters := described.parameters
  have sameWire : (form.traceState, form.collaborate) = query.toClientPart.wire states := by
    split_ifs at client with present
    · exact eq_wire states features revision client isExact.traceState isExact.collaborate
    · rw [client.1, client.2]
      rfl
  have sameSettings : form.settings = query.settings.map settingCodec.encode := by
    unfold DescribesSettings at settings
    split_ifs at settings with present
    · exact settingCodec.eq_encode settings.1 isExact.settings
    · rw [settings.1, settings.2.1]
      rfl
  have sameParameters : form.parameters = query.parameters.map parameterCodec.encode := by
    split_ifs at parameters with present
    · exact parameterCodec.eq_encode parameters isExact.parameters
    · rw [parameters.1, parameters.2]
      rfl
  have sameStage := eq_toUInt64_of_lt described.stage isExact.stage
  have sameCompression := eq_toUInt64_of_lt described.compression isExact.compression
  unfold Query.wireForm
  rw [← sameSettings, ← sameParameters, ← sameStage, ← sameCompression, ← sameWire]

/-- What the library writes for a keyed record stands for no other record. -/
theorem RecordCodec.normal_encode {ρ : Type} (codec : RecordCodec ρ)
    {record : ρ}
    (keyed : codec.key record ≠ empty) :
    codec.Normal (codec.encode record) := by
  intro other described
  have readOther := described.2 [] true
  have readRecord := codec.decode_encode record keyed [] true
  rw [(readOther.unique readRecord).1]

theorem normal_text (state : τ) : states.Normal (states.text state) := by
  intro other described
  have itself := describesState_text states state
  unfold describesState at described itself
  split_ifs at described itself with isEmpty
  · rw [described, itself]
  · rw [itself, Option.some.injEq] at described
    rw [described]

theorem exact_wireForm (keyed : query.Keyed settingCodec parameterCodec) :
    (query.wireForm states settingCodec parameterCodec).Exact
      states settingCodec parameterCodec where
  traceState := by
    change states.Normal (if query.hasTrace then
      states.text query.info.span.traceState else empty)
    cases query.hasTrace with
    | true => exact normal_text states _
    | false =>
      intro state described
      rw [show state = states.empty from described, states.text_empty]
      rfl
  collaborate := by
    change (if query.info.collaborateWithInitiator then (1 : Int64)
      else 0) = 0 ∨ (if _ then (1 : Int64) else 0) = 1
    cases query.info.collaborateWithInitiator with
    | true => exact .inr rfl
    | false => exact .inl rfl
  settings := by
    intro bytes isWritten
    obtain ⟨setting, isSetting, rfl⟩ := mem_map.mp isWritten
    exact settingCodec.normal_encode (keyed.1 setting isSetting)
  stage := by
    change query.stage.toUInt64.toNat < 256
    exact query.stage.toNat_lt
  compression := by
    change query.compression.toUInt64.toNat < 256
    exact query.compression.toNat_lt
  parameters := by
    intro bytes isWritten
    obtain ⟨parameter, isParameter, rfl⟩ := mem_map.mp isWritten
    exact parameterCodec.normal_encode (keyed.2.2 parameter isParameter)

theorem RecordCodec.keyed_of_describes {ρ : Type} (codec : RecordCodec ρ)
    {wires : List (List UInt8)}
    {records : List ρ}
    (described : Forall₂ codec.describes wires records) :
    ∀ record ∈ records, codec.key record ≠ empty := by
  induction described with
  | nil => exact nofun
  | cons describesHead _ inductionHypothesis =>
    exact forall_mem_cons.mpr ⟨describesHead.1, inductionHypothesis⟩

theorem keyed_of_describes
    (described : DescribesQuery states settingCodec parameterCodec features revision form query) :
    query.Keyed settingCodec parameterCodec := by
  have settings := described.settings
  have parameters := described.parameters
  refine ⟨?_, ?_, ?_⟩
  · unfold DescribesSettings at settings
    split_ifs at settings with present
    · exact settingCodec.keyed_of_describes settings.1
    · rw [settings.2.1]
      exact nofun
  · unfold DescribesSettings at settings
    split_ifs at settings with present
    · rw [settings.2]
      exact nofun
    · exact settings.2.2
  · split_ifs at parameters with present
    · exact parameterCodec.keyed_of_describes parameters
    · rw [parameters.2]
      exact nofun

theorem carried_of_describes
    (described : DescribesQuery states settingCodec parameterCodec features revision form query) :
    query.Carried states features revision where
  client := by
    have client := described.client
    split_ifs at client ⊢ with present
    · exact client.carried
    · exact client.2
  settings := by
    have settings := described.settings
    unfold DescribesSettings at settings
    split_ifs at settings ⊢ with present
    · exact settings.2
    · exact settings.2.1
  externalRoles := described.externalRoles
  secret := described.secret
  parameters := by
    intro absent
    have parameters := described.parameters
    rw [absent] at parameters
    exact parameters.2

theorem decodeQuery_encodeQuery
    (keyed : query.Keyed settingCodec parameterCodec)
    (carried : query.Carried states features revision) :
    ∃ body,
      encodeQuery states settingCodec parameterCodec features revision query =
          clientCodeQuery :: body ∧
        Reads (decodeQuery states settingCodec parameterCodec features revision)
          ⟨body, true⟩ query ⟨[], true⟩ := by
  refine ⟨_, encodeQuery_eq states settingCodec parameterCodec features revision query, ?_⟩
  have read := (decodeQuery_described states settingCodec parameterCodec features revision).reads
    [] true trivial
    (describesQuery_wireForm states settingCodec parameterCodec features revision keyed carried)
  rw [append_nil] at read
  exact read

theorem encodeQuery_decodeQuery_iff
    {bytes : List UInt8}
    (read : Reads (decodeQuery states settingCodec parameterCodec features revision)
      ⟨bytes, true⟩ query ⟨[], true⟩) :
    encodeQuery states settingCodec parameterCodec features revision query =
        clientCodeQuery :: bytes ↔
      ExactPacket states settingCodec parameterCodec features revision bytes := by
  have packet := decodeQuery_described states settingCodec parameterCodec features revision
  obtain ⟨_, _, form, described, input⟩ := packet.written read rfl
  rw [append_nil] at input
  rw [encodeQuery_eq, cons.injEq, eq_self_iff_true, true_and]
  constructor
  · intro same otherForm other describesOther otherInput
    have readOther := packet.reads [] true trivial describesOther
    rw [append_nil, ← otherInput] at readOther
    obtain ⟨rfl, _⟩ := readOther.unique read
    have keyed := keyed_of_describes states settingCodec parameterCodec features revision
      describesOther
    have describesWritten := describesQuery_wireForm states settingCodec parameterCodec features
      revision keyed
      (carried_of_describes states settingCodec parameterCodec features revision describesOther)
    have sameBytes : putQuery features revision otherForm other ++ [] =
        putQuery features revision
          (other.wireForm states settingCodec parameterCodec) other ++ [] := by
      rw [← otherInput, same]
    obtain ⟨rfl, _⟩ := packet.determined trivial describesOther describesWritten sameBytes
    exact exact_wireForm states settingCodec parameterCodec keyed
  · intro isExact
    have same := eq_wireForm states settingCodec parameterCodec features revision described
      (isExact form query described input)
    rw [← same]
    exact input.symm

/--
A query whose settings and parameters are keyed and whose fields the revision
carries comes back from its packet with nothing left over; a packet accepted
whole with its numbers in shortest form is written back unchanged exactly when
the query keeps all that stands there.
-/
theorem query_packet_round_trips :
    (∀ query : Query τ σ ρ,
      query.Keyed settingCodec parameterCodec →
      query.Carried states features revision →
      ∃ body,
        encodeQuery states settingCodec parameterCodec features revision query =
            clientCodeQuery :: body ∧
          Reads (decodeQuery states settingCodec parameterCodec features revision)
            ⟨body, true⟩ query ⟨[], true⟩) ∧
    ∀ (bytes : List UInt8) (query : Query τ σ ρ),
      Reads (decodeQuery states settingCodec parameterCodec features revision)
        ⟨bytes, true⟩ query ⟨[], true⟩ →
      (encodeQuery states settingCodec parameterCodec features revision query =
          clientCodeQuery :: bytes ↔
        ExactPacket states settingCodec parameterCodec features revision bytes) :=
  ⟨fun _ keyed carried =>
      decodeQuery_encodeQuery states settingCodec parameterCodec features revision keyed carried,
    fun _ _ read =>
      encodeQuery_decodeQuery_iff states settingCodec parameterCodec features revision read⟩

end RoundTrips

section SamplePackets

/-- The revisions of the protocol library. -/
def protocolFeatures : Features where
  clientWriteInfo := 54420
  settingsSerializedAsStrings := 54429
  interserverExternallyGrantedRoles := 54472
  interServerSecret := 54441
  parameters := 54459
  queryStartTime := 54449
  quotaKeyInClientInfo := 54060
  distributedDepth := 54448
  versionPatch := 54401
  openTelemetry := 54442
  parallelReplicas := 54453
  queryAndLineNumbers := 54475

/-- Trace states kept as their text. -/
def textStates : TraceStates Text where
  empty := empty
  parse := some
  text := id
  parse_text _ _ := rfl
  text_empty := rfl
  empty_of_text _ isEmpty := isEmpty

/-- A key and a value with flags between them. -/
structure FlaggedText where
  key : Text
  flags : UInt64
  value : Text
deriving DecidableEq

/-- A record of which only the key is written when it is empty. -/
def decodeFlaggedText : Reader FlaggedText := do
  let key ← text
  if key = empty then
    pure { key := empty, flags := 0, value := empty }
  else
    let flags ← uvarint
    let value ← text
    pure { key := key, flags := flags, value := value }

def encodeFlaggedText (record : FlaggedText) : List UInt8 :=
  putText record.key ++ (putUvarint record.flags ++ putText record.value)

theorem spells_encodeFlaggedText
    {record : FlaggedText}
    (keyed : record.key ≠ empty) :
    Spells decodeFlaggedText (encodeFlaggedText record) record := by
  intro rest shortest
  rw [encodeFlaggedText, append_assoc, append_assoc]
  refine reads_then (text_mirror.back _ shortest trivial) ?_
  rw [if_neg keyed]
  refine reads_then (uvarint_mirror.back _ shortest trivial) ?_
  exact reads_then (text_mirror.back _ shortest trivial) (reads_pure.mpr ⟨rfl, rfl⟩)

theorem spells_empty :
    Spells decodeFlaggedText (putText empty) { key := empty, flags := 0, value := empty } := by
  intro rest shortest
  refine reads_then (text_mirror.back rest shortest trivial) ?_
  rw [if_pos rfl]
  exact reads_pure.mpr ⟨rfl, rfl⟩

/-- A record read in shortest form is the empty text or what is written for it. -/
theorem reads_decodeFlaggedText
    {before after : Stream}
    {record : FlaggedText}
    (read : Reads decodeFlaggedText before record after)
    (shortest : after.shortest = true) :
    before.shortest = true ∧
      (record = { key := empty, flags := 0, value := empty } ∧
          before.input = putText empty ++ after.input ∨
        record.key ≠ empty ∧ before.input = encodeFlaggedText record ++ after.input) := by
  obtain ⟨key, keyed, readKey, read⟩ := reads_bind.mp read
  split_ifs at read with isLast
  · obtain ⟨rfl, rfl⟩ := reads_pure.mp read
    obtain ⟨beforeShortest, _, _, _, beforeInput⟩ := text_mirror.written readKey shortest
    exact ⟨beforeShortest, .inl ⟨rfl, isLast ▸ beforeInput⟩⟩
  obtain ⟨flags, flagged, readFlags, read⟩ := reads_bind.mp read
  obtain ⟨value, valued, readValue, read⟩ := reads_bind.mp read
  obtain ⟨rfl, rfl⟩ := reads_pure.mp read
  obtain ⟨flaggedShortest, _, _, _, flaggedInput⟩ := text_mirror.written readValue shortest
  obtain ⟨keyedShortest, _, _, _, keyedInput⟩ := uvarint_mirror.written readFlags flaggedShortest
  obtain ⟨beforeShortest, _, _, _, beforeInput⟩ := text_mirror.written readKey keyedShortest
  refine ⟨beforeShortest, .inr ⟨isLast, ?_⟩⟩
  rw [beforeInput, keyedInput, flaggedInput, encodeFlaggedText, append_assoc, append_assoc]

/-- Records that keep their flags as they stand. -/
def flaggedTexts : RecordCodec FlaggedText where
  key := FlaggedText.key
  decode := decodeFlaggedText
  encode := encodeFlaggedText
  decode_encode _ keyed := spells_encodeFlaggedText keyed
  spelled := by
    intro before after record read shortest
    obtain ⟨beforeShortest, ⟨rfl, input⟩ | ⟨keyed, input⟩⟩ :=
      reads_decodeFlaggedText read shortest
    · exact ⟨beforeShortest, _, spells_empty, input⟩
    · exact ⟨beforeShortest, _, spells_encodeFlaggedText keyed, input⟩
  ends := ⟨_, rfl, spells_empty⟩
  ended := by
    intro bytes record keyless spells
    obtain ⟨_, ⟨_, input⟩ | ⟨keyed, _⟩⟩ := reads_decodeFlaggedText (spells [] true) rfl
    · exact append_cancel_right input
    · exact absurd keyless keyed

/-- A query with the given stage, settings and parameters. -/
def sampleQuery (stage : UInt8) (settings parameters : List FlaggedText) :
    Query Text FlaggedText FlaggedText where
  toClientPart := .zero textStates
  settings := settings
  oldSettings := []
  id := empty
  secret := empty
  stage := stage
  compression := 0
  body := empty
  parameters := parameters
  externalRoles := empty

/-- The packet of a query without settings and parameters, its stage given as bytes. -/
def stagePacket (stage : List UInt8) : List UInt8 := replicate 28 0 ++ stage ++ [0, 0, 0]

theorem sampleQuery_carried (stage : UInt8) (settings parameters : List FlaggedText) :
    (sampleQuery stage settings parameters).Carried textStates protocolFeatures 54470 where
  client := {
    origin := fun _ => rfl
    quota := ⟨fun _ => rfl, fun _ => rfl, fun _ => rfl⟩
    hasTrace := fun _ => rfl
    span := fun _ => rfl
    isLocal := rfl
    replicas := fun _ => rfl
    script := fun _ => rfl
    hasJWT := fun _ => rfl
    jwt := fun _ => rfl }
  settings := rfl
  externalRoles := fun _ => rfl
  secret := fun _ => rfl
  parameters := nofun

/-- The settings `final = 1` and, marked as important, `log_id = 27`. -/
def sampleSettings : List FlaggedText :=
  [{ key := ⟨[102, 105, 110, 97, 108], by decide⟩, flags := 0, value := ⟨[49], by decide⟩ },
    { key := ⟨[108, 111, 103, 95, 105, 100], by decide⟩, flags := 1,
      value := ⟨[50, 55], by decide⟩ }]

/-- The parameter `id = '7'`, written as a custom setting. -/
def sampleParameters : List FlaggedText :=
  [{ key := ⟨[105, 100], by decide⟩, flags := 2, value := ⟨[39, 55, 39], by decide⟩ }]

/-- The packet of a query with these settings and parameters. -/
def samplePacket : List UInt8 :=
  replicate 26 0 ++
    [5, 102, 105, 110, 97, 108, 0, 1, 49] ++
    [6, 108, 111, 103, 95, 105, 100, 1, 2, 50, 55] ++
    [0, 0, 2, 0, 0] ++
    [2, 105, 100, 2, 3, 39, 55, 39, 0]

/-- A query with settings and parameters. -/
theorem query_packet_round_trips_sample :
    (∃ body,
      encodeQuery textStates flaggedTexts flaggedTexts protocolFeatures 54470
          (sampleQuery 2 sampleSettings sampleParameters) =
          clientCodeQuery :: body ∧
        Reads (decodeQuery textStates flaggedTexts flaggedTexts protocolFeatures 54470)
          ⟨body, true⟩ (sampleQuery 2 sampleSettings sampleParameters) ⟨[], true⟩) ∧
    (encodeQuery textStates flaggedTexts flaggedTexts protocolFeatures 54470
        (sampleQuery 2 sampleSettings sampleParameters) =
        clientCodeQuery :: samplePacket ∧
      ExactPacket textStates flaggedTexts flaggedTexts protocolFeatures 54470 samplePacket) := by
  obtain ⟨encoded, decoded⟩ :=
    query_packet_round_trips textStates flaggedTexts flaggedTexts protocolFeatures 54470
  have written : encodeQuery textStates flaggedTexts flaggedTexts protocolFeatures 54470
      (sampleQuery 2 sampleSettings sampleParameters) = clientCodeQuery :: samplePacket := by
    decide +kernel
  refine ⟨encoded _ ⟨?_, nofun, ?_⟩ (sampleQuery_carried 2 _ _),
    written, (decoded _ _ ?_).mp written⟩
  · change ∀ setting ∈ sampleSettings, setting.key ≠ empty
    decide
  · change ∀ parameter ∈ sampleParameters, parameter.key ≠ empty
    decide
  · unfold Reads
    decide +kernel

/--
Stage 258 in shortest form is accepted as stage 2, and written back as stage 2.
-/
theorem stage_packet_not_reproduced :
    Reads (decodeQuery textStates flaggedTexts flaggedTexts protocolFeatures 54470)
        ⟨stagePacket [0x82, 0x02], true⟩ (sampleQuery 2 [] []) ⟨[], true⟩ ∧
      encodeQuery textStates flaggedTexts flaggedTexts protocolFeatures 54470
          (sampleQuery 2 [] []) ≠
        clientCodeQuery :: stagePacket [0x82, 0x02] := by
  unfold Reads
  decide +kernel

end SamplePackets

end HouseGate.QueryCodec
