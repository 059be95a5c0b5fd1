import HouseGate.QueryCodec

namespace HouseGate.QueryCodec

open WireReader Text ClientProgram Segment QueryOrigin List

/-!
# What the Query packet keeps

Each part of a packet is read back from the bytes written for it.  The other
way round the stage, the compression and the collaboration flag are kept in
fewer bits than the wire has, a trace state is kept as its meaning rather than
its text, and a setting or a parameter as what the library's record keeps of it.
-/

variable {before after : Stream}

section Records

variable {ρ : Type}

/-- The bytes stand for the record, which has a key. -/
def RecordCodec.describes (codec : RecordCodec ρ) (bytes : List UInt8) (record : ρ) : Prop :=
  codec.key record ≠ empty ∧ Spells codec.decode bytes record

theorem RecordCodec.listed (codec : RecordCodec ρ) :
    Listed codec.decodeNext codec.describes (putText empty) where
  spells := by
    rintro bytes record ⟨keyed, spells⟩ rest shortest
    exact reads_then (spells rest shortest) (reads_pure.mpr ⟨if_neg keyed, rfl⟩)
  ends := by
    obtain ⟨record, keyless, spells⟩ := codec.ends
    intro rest shortest
    exact reads_then (spells rest shortest) (reads_pure.mpr ⟨if_pos keyless, rfl⟩)
  ended := by
    intro before after read shortest
    obtain ⟨record, middle, readRecord, read⟩ := reads_bind.mp read
    obtain ⟨isLast, rfl⟩ := reads_pure.mp read
    obtain ⟨beforeShortest, bytes, spells, beforeInput⟩ := codec.spelled readRecord shortest
    have keyless : codec.key record = empty := by
      by_contra keyed
      rw [if_neg keyed] at isLast
      cases isLast
    exact ⟨beforeShortest, codec.ended keyless spells ▸ beforeInput⟩
  written := by
    intro before after item read shortest
    obtain ⟨record, middle, readRecord, read⟩ := reads_bind.mp read
    obtain ⟨isItem, rfl⟩ := reads_pure.mp read
    obtain ⟨beforeShortest, bytes, spells, beforeInput⟩ := codec.spelled readRecord shortest
    split_ifs at isItem with keyless
    cases isItem
    exact ⟨beforeShortest, bytes, ⟨keyless, spells⟩, beforeInput⟩

/-- The bytes are those of the setting, which has a key. -/
def describesOldSetting (bytes : List UInt8) (setting : OldSetting) : Prop :=
  setting.key ≠ empty ∧ bytes = encodeOldSetting setting

theorem decodeOldSetting_listed :
    Listed decodeOldSetting describesOldSetting (putText empty) where
  spells := by
    rintro _ setting ⟨keyed, rfl⟩ rest shortest
    rw [encodeOldSetting, append_assoc]
    refine reads_then ((text_mirror.named _).back _ shortest trivial) ?_
    rw [if_neg keyed]
    exact reads_then ((uint64_mirror.named _).back rest shortest trivial)
      (reads_pure.mpr ⟨rfl, rfl⟩)
  ends rest shortest := by
    refine reads_then ((text_mirror.named _).back rest shortest trivial) ?_
    rw [if_pos rfl]
    exact reads_pure.mpr ⟨rfl, rfl⟩
  ended := by
    intro before after read shortest
    obtain ⟨key, keyed, readKey, read⟩ := reads_bind.mp read
    split_ifs at read with isLast
    · obtain ⟨-, rfl⟩ := reads_pure.mp read
      obtain ⟨beforeShortest, _, _, _, beforeInput⟩ :=
        (text_mirror.named _).written readKey shortest
      exact ⟨beforeShortest, isLast ▸ beforeInput⟩
    · obtain ⟨value, valued, _, read⟩ := reads_bind.mp read
      cases (reads_pure.mp read).1
  written := by
    intro before after setting read shortest
    obtain ⟨key, keyed, readKey, read⟩ := reads_bind.mp read
    split_ifs at read with isLast
    · cases (reads_pure.mp read).1
    obtain ⟨value, valued, readValue, read⟩ := reads_bind.mp read
    obtain ⟨⟨⟩, rfl⟩ := reads_pure.mp read
    obtain ⟨keyedShortest, _, _, _, keyedInput⟩ :=
      (uint64_mirror.named _).written readValue shortest
    obtain ⟨beforeShortest, _, _, _, beforeInput⟩ :=
      (text_mirror.named _).written readKey keyedShortest
    refine ⟨beforeShortest, _, ⟨isLast, rfl⟩, ?_⟩
    rw [beforeInput, keyedInput, encodeOldSetting, append_assoc]

end Records

section ClientSegments

variable {τ : Type} (states : TraceStates τ) (features : Features) (revision : Int)

def originCarried (origin : QueryOrigin) : Prop :=
  KeptWhen (isIn features.queryStartTime revision) 0 origin.initialTime

def quotaCarried (interface : UInt8) (quota : ClientQuota) : Prop :=
  KeptWhen (isIn features.quotaKeyInClientInfo revision) empty quota.quotaKey ∧
    KeptWhen (isIn features.distributedDepth revision) 0 quota.distributedDepth ∧
    KeptWhen (isIn features.versionPatch revision && interface == interfaceTCP) 0 quota.patch

def credentialCarried (credential : Credential) : Prop :=
  KeptWhen credential.hasJWT empty credential.jwt

theorem decodeOrigin_mirror :
    Mirror (decodeOrigin features revision) (encodeOrigin features revision)
      (originCarried features revision) := by
  refine (field (uint8_mirror.named _) query fun _ =>
    .field (text_mirror.named _) initialUser fun _ =>
    .field (text_mirror.named _) initialQueryID fun _ =>
    .field (text_mirror.named _) initialAddress fun _ =>
    .field ((int64_mirror.named _).optional _ _) initialTime
      fun _ => .done ?_).recast id id (fun _ => rfl) (fun _ => rfl) ?_ ?_
  · rintro ⟨⟩
    simp [and_assoc]
  · intro _ origin _
    simp [encodeOrigin]
  · intro _ origin _
    simp [originCarried]

theorem decodeProgram_mirror : Mirror decodeProgram encodeProgram (fun _ => True) := by
  refine (field (uint8_mirror.named _) interface fun _ =>
    .field (text_mirror.named _) osUser fun _ =>
    .field (text_mirror.named _) clientHostname fun _ =>
    .field (text_mirror.named _) clientName fun _ =>
    .field (int_mirror.named _) major fun _ =>
    .field (int_mirror.named _) minor fun _ =>
    .field (int_mirror.named _) protocolVersion
      fun _ => .done ?_).recast id id (fun _ => rfl) (fun _ => rfl) ?_ ?_
  · rintro ⟨⟩
    simp [and_assoc]
  · intro _ program _
    simp [encodeProgram]
  · intro _ program _
    simp

theorem decodeQuota_mirror (interface : UInt8) : Mirror (decodeQuota features revision interface)
    (encodeQuota features revision interface)
    (quotaCarried features revision interface) := by
  refine (field ((text_mirror.named _).optional _ _) ClientQuota.quotaKey fun _ =>
    .field ((int_mirror.named _).optional _ _) ClientQuota.distributedDepth fun _ =>
    .field ((int_mirror.named _).optional _ _) ClientQuota.patch
      fun _ => .done ?_).recast id id (fun _ => rfl) (fun _ => rfl) ?_ ?_
  · rintro ⟨⟩
    simp [and_assoc]
  · intro _ quota _
    simp [encodeQuota]
  · intro _ quota _
    simp [quotaCarried]

theorem decodeVersion_mirror :
    Mirror (decodeVersion features revision) (encodeVersion features revision) (fun version =>
        quotaCarried features revision version.1.interface version.2) := by
  refine (field decodeProgram_mirror Prod.fst fun _ => .after (
    .field (decodeQuota_mirror features revision _) Prod.snd
      fun _ => .done ?_)).recast id id (fun _ => rfl) (fun _ => rfl) ?_ ?_
  · rintro ⟨program, quota⟩
    simp
  · intro _ version _
    simp [encodeVersion]
  · intro _ version _
    simp

theorem decodeScript_mirror : Mirror decodeScript encodeScript (fun _ => True) := by
  refine (field (uvarint_mirror.named _) ScriptNumbers.scriptQueryNumber fun _ =>
    .field (uvarint_mirror.named _) ScriptNumbers.scriptLineNumber
      fun _ => .done ?_).recast id id (fun _ => rfl) (fun _ => rfl) ?_ ?_
  · rintro ⟨⟩
    simp
  · intro _ script _
    simp [encodeScript]
  · intro _ script _
    simp

theorem decodeCredential_mirror : Mirror decodeCredential encodeCredential credentialCarried := by
  refine (wire ((text_mirror.named _).flagged _ () _)
    (fun credential => (credential.hasJWT, credential.jwt))
      fun _ => .done ?_).recast (fun _ => ((), ())) (fun _ => ())
    (fun _ => rfl) (fun _ => rfl) ?_ ?_
  · rintro ⟨hasJWT, jwt⟩
    simp [Prod.ext_iff]
  · intro _ credential _
    simp [encodeCredential]
  · rintro _ ⟨hasJWT, jwt⟩ _
    cases hasJWT with
    | true | false => simp [credentialCarried, KeptWhen]

end ClientSegments

section Trace

variable {τ : Type} (states : TraceStates τ)
  (stateText : Text)

/-- The text stands for the trace state. -/
def describesState (state : τ) : Prop :=
  if stateText = empty then state = states.empty else states.parse stateText = some state

theorem reads_parseTraceState
    {stateText : Text}
    {state : τ}
    {before after : Stream} :
    Reads (parseTraceState states stateText) before state after ↔
      describesState states stateText state ∧ before = after := by
  unfold parseTraceState describesState
  by_cases isEmpty : stateText = empty
  · rw [if_pos isEmpty, if_pos isEmpty, reads_pure]
    exact and_congr_left' eq_comm
  rw [if_neg isEmpty, if_neg isEmpty]
  cases states.parse stateText with
  | none =>
    simp only [reduceCtorEq, false_and, iff_false]
    exact nofun
  | some parsed =>
    rw [Option.some.injEq]
    exact reads_pure

theorem describesState_text (state : τ) : describesState states (states.text state) state := by
  unfold describesState
  by_cases isEmpty : states.text state = empty
  · rw [if_pos isEmpty]
    exact states.empty_of_text state isEmpty
  · rw [if_neg isEmpty]
    exact states.parse_text state isEmpty

theorem decodeTraceState_described :
    Described (decodeTraceState states) (fun stateText _ => putText stateText)
      (describesState states) where
  reads := by
    intro stateText state rest shortest _ described
    exact reads_then ((text_mirror.named _).back rest shortest trivial)
      (reads_within.mpr ((reads_parseTraceState states).mpr ⟨described, rfl⟩))
  written := by
    intro before after state read shortest
    obtain ⟨stateText, middle, readText, readState⟩ := reads_bind.mp read
    obtain ⟨described, rfl⟩ := (reads_parseTraceState states).mp (reads_within.mp readState)
    obtain ⟨beforeShortest, _, _, _, beforeInput⟩ := (text_mirror.named _).written readText shortest
    exact ⟨beforeShortest, trivial, stateText, described, beforeInput⟩
  determined _ _ _ same := text_mirror.cancel same

/-- What the wire's trace state text says of a span. -/
def describesSpan (span : SpanContext τ) : Prop :=
  span.remote = false ∧ describesState states stateText span.traceState

theorem decodeSpan_described : Described (decodeSpan states) putSpan (describesSpan states) := by
  have span : Segment (decodeSpan states) (fun span => span.remote = false)
      (fun stateText span => putSpan stateText span)
      (fun stateText span => describesState states stateText span.traceState) := by
    refine (field ((raw_mirror 16).named _) (fun span => swapped span.traceID) fun _ =>
      .field ((raw_mirror 8).named _) (fun span => swapped span.spanID) fun _ =>
      .wire (decodeTraceState_described states) SpanContext.traceState fun _ =>
      .field (uint8_mirror.named _) SpanContext.traceFlags
        fun _ => .done ?_).recast (fun stateText => (stateText, ())) Prod.fst
      (fun _ => rfl) (fun _ => rfl) ?_ ?_
    · rintro ⟨traceID, spanID, state, flags, remote⟩
      simp only [SpanContext.mk.injEq, eq_swapped_iff]
      tauto
    · intro _ span _
      simp [putSpan]
    · intro _ span _
      simp
  exact span.described

/-- What the wire's trace state text says of the flag and the span. -/
def describesTrace (trace : Bool × SpanContext τ) : Prop :=
  if trace.1 then
    describesSpan states stateText trace.2
  else
    stateText = empty ∧ trace.2 = .zero states

theorem decodeTrace_described :
    Described (decodeTrace states) (putFlagged putSpan) (describesTrace states) :=
  (decodeSpan_described states).flagged _ empty _

end Trace

section Replicas

/-- Only the number one stands for collaboration. -/
def describesReplicas (collaborate : Int64) (role : ReplicaRole) : Prop :=
  role.collaborateWithInitiator = (collaborate == 1)

theorem decodeReplicas_described : Described decodeReplicas putReplicas describesReplicas := by
  refine (wire ((int_mirror.named _).keeping (· == 1)) ReplicaRole.collaborateWithInitiator fun _ =>
    .field (int_mirror.named _) ReplicaRole.countParticipatingReplicas fun _ =>
    .field (int_mirror.named _) ReplicaRole.numberOfCurrentReplica
      fun _ => .done ?_).recast (fun number => (number, ())) Prod.fst
    (fun _ => rfl) (fun _ => rfl) ?_ ?_
  · rintro ⟨⟩
    simp [and_assoc]
  · intro _ role _
    simp [putReplicas]
  · intro _ role _
    simp [describesReplicas]

end Replicas

end HouseGate.QueryCodec
