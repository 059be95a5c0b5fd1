import HouseGate.JsonRunes
import HouseGate.ProgramPool
import HouseGate.ReplayManifest
import HouseGate.StableStorage

namespace HouseGate.PayloadSpool

open DecimalText AsciiText EffectProgram JsonDocument Replay StableStorage ProgramPool UInt64
open Function

/-!
# The payload spool

Payload bytes are kept by content hash in a local directory before they are
put into the remote store.  Two files belong to a hash: the bytes, and a record
that says whether the remote store has them and under which reference.  Calls
run side by side; every file access, remote call and look at the clock is one
action.  A file is replaced atomically, and a replacement whose directory sync
failed is visible but may be lost in a crash.
-/

section Records

/-- How far a spooled payload got. -/
inductive PayloadSpoolState where
  | pending
  | uploaded
  | other (text : Bytes)
  deriving DecidableEq

def PayloadSpoolState.text : PayloadSpoolState → Bytes
  | .pending => ascii "PENDING"
  | .uploaded => ascii "UPLOADED"
  | .other text => text

def PayloadSpoolState.ofText (text : Bytes) : PayloadSpoolState :=
  if text = ascii "PENDING" then .pending
  else if text = ascii "UPLOADED" then .uploaded
  else .other text

/-- The record beside a payload's file. -/
structure PayloadSpoolRecord where
  payloadHash : Bytes
  payloadLength : UInt64
  state : PayloadSpoolState
  remotePayloadRef : Bytes
  remoteState : Bytes
  leaseExpiresUnixMS : UInt64
  updatedAtUnixMS : Int64

/-- The result of a durable put. -/
structure PayloadPutResult where
  payloadRef : Bytes
  state : Bytes
  leaseExpiresUnixMS : UInt64
  deduplicated : Bool

def omitEmptyText (name : String) (text : Bytes) : List (String × Json) :=
  if text.isEmpty then [] else [(name, encodeText text)]

def PayloadSpoolRecord.json (record : PayloadSpoolRecord) : Json := .object ([
    ("payload_hash", encodeText record.payloadHash),
    ("payload_length", encodeUint record.payloadLength.toNat),
    ("state", encodeText record.state.text)] ++
    omitEmptyText "remote_payload_ref" record.remotePayloadRef ++
    omitEmptyText "remote_state" record.remoteState ++
    (if record.leaseExpiresUnixMS = 0 then []
      else [("lease_expires_unix_ms", encodeUint record.leaseExpiresUnixMS.toNat)]) ++
    [("updated_at_unix_ms", encodeInt record.updatedAtUnixMS.toInt)])

/-- A text member; what is not UTF-8 is replaced on reading too. -/
def readText (value : Json) : Option Bytes := (decodeText value).map Utf8Text.coerce

def int64Magnitude : Nat := 2 ^ 63

def PayloadSpoolRecord.ofJson (value : Json) :
    Option PayloadSpoolRecord := do
  guard (value.isObject ∨ value matches .null)
  let payloadHash ← readText (value.field "payload_hash")
  let payloadLength ← decodeUint uint64Size (value.field "payload_length")
  let state ← readText (value.field "state")
  let remotePayloadRef ← readText (value.field "remote_payload_ref")
  let remoteState ← readText (value.field "remote_state")
  let leaseExpiresUnixMS ← decodeUint uint64Size (value.field "lease_expires_unix_ms")
  let updatedAtUnixMS ← decodeInt int64Magnitude (value.field "updated_at_unix_ms")
  return {
    payloadHash
    payloadLength := ofNat payloadLength
    state := PayloadSpoolState.ofText state
    remotePayloadRef
    remoteState
    leaseExpiresUnixMS := ofNat leaseExpiresUnixMS
    updatedAtUnixMS := Int64.ofInt updatedAtUnixMS }

end Records

section Directory

/-- The files of the spool, by the stem of their names. -/
structure Files where
  payloads : Bytes → Option Bytes
  records : Bytes → Option Json

/-- The calls of the spool's users. -/
inductive Call where
  | putPayload (payload payloadHash : Bytes) (payloadLength : UInt64)
  | storePayload (payload payloadHash : Bytes) (payloadLength : UInt64)
  | markUploaded (payloadHash : Bytes) (put : PayloadPutResult)
  | loadPayload (payloadHash : Bytes)

def Call.payloadHash : Call → Bytes
  | .putPayload _ payloadHash _ => payloadHash
  | .storePayload _ payloadHash _ => payloadHash
  | .markUploaded payloadHash _ => payloadHash
  | .loadPayload payloadHash => payloadHash

/-- What the scheduler and the world around the spool decide. -/
inductive Input where
  | proceed
  | finish
  | call (call : Call)
  | crash (lostPayloads lostRecords : List Bytes)
  | context (cancelled : Bool)
  | read (fails : Bool)
  | write (outcome : WriteOutcome)
  | remote (answer : Option PayloadPutResult)
  | clock (nanoseconds : Int)

/-- The directory as readers find it and as a crash would leave it. -/
structure Disk where
  visible : Files
  synced : Files

/-- The disk, the file stem that each running call may write, and the answers given so far. -/
structure Spool (θ : Type) extends Disk where
  working : θ → Option (Option Bytes)
  puts : List (Bytes × PayloadPutResult)
  loads : List (Bytes × Bytes)

def Spool.opened (files : Files) : Spool θ :=
  { visible := files
    synced := files
    working := fun _ => none
    puts := []
    loads := [] }

/-- A replacement whose directory sync succeeded makes earlier ones last. -/
def Disk.replacing (disk : Disk) (outcome : WriteOutcome) (files : Files) : Disk :=
  { visible := outcome.apply disk.visible files
    synced := if outcome.succeeded then files else disk.synced }

def Files.withPayload (files : Files) (stem payload : Bytes) : Files :=
  { files with payloads := update files.payloads stem payload }

def Files.withRecord (files : Files) (stem : Bytes) (record : Json) : Files :=
  { files with records := update files.records stem record }

/-- A crash ends every call and may lose what was not synced. -/
def Spool.crashed (spool : Spool θ) (lostPayloads lostRecords : List Bytes) : Spool θ :=
  let kept : Files :=
    { payloads := fun stem =>
        if stem ∈ lostPayloads then spool.synced.payloads stem
        else spool.visible.payloads stem
      records := fun stem =>
        if stem ∈ lostRecords then spool.synced.records stem
        else spool.visible.records stem }
  { spool with
    visible := kept
    synced := kept
    working := fun _ => none }

end Directory

section Actions

/-- A step of a call; calls share nothing but the disk. -/
abbrev Action (α : Type) := Program Disk Input α

/-- Whether a payload is missing or cannot be had. -/
inductive SpoolError where
  | notExist
  | failed

def contextErr : Action Bool := .ask fun
    | .context cancelled, _ => some cancelled
    | _, _ => none

def clockNow : Action Int := .ask fun
    | .clock nanoseconds, _ => some nanoseconds
    | _, _ => none

def remotePut : Action (Option PayloadPutResult) := .ask fun
    | .remote answer, _ => some answer
    | _, _ => none

/-- `os.ReadFile`. -/
def readFile (contents : Files → Option α) : Action (Except SpoolError α) :=
  .ask fun
    | .read true, _ => some (.error .failed)
    | .read false, disk => some ((contents disk.visible).elim (.error .notExist) .ok)
    | _, _ => none

/-- `atomicWriteFile`; the answer is whether it returned no error. -/
def atomicWriteFile (change : Files → Files) : Action Bool := .act fun input disk =>
    match input with
    | .write outcome => some (outcome.succeeded, disk.replacing outcome (change disk.visible))
    | _ => none

end Actions

section Calls

variable (sum256 : Bytes → Bytes) (refreshBefore : Int)
  (payloadHash : Bytes)

def safePayloadHash : Bytes := HexText.encodeHex (sum256 payloadHash)

def unixMilli (nanoseconds : Int) : Int64 := Int64.ofInt (nanoseconds / 1000000)

variable (payload payloadHash : Bytes)
  (payloadLength : UInt64)

def validatePayloadCommitment : Bool :=
  payload ≠ [] && payloadLength ≠ 0 && ofNat payload.length == payloadLength &&
    payloadHash ≠ [] && digestBytes sum256 payload == payloadHash

/-- The record of the requested hash, if the file holds it. -/
def checkRecord (document : Json) : Option PayloadSpoolRecord :=
  match PayloadSpoolRecord.ofJson document with
  | none => none
  | some record =>
    if record.payloadHash = payloadHash then some record else none

variable (record : PayloadSpoolRecord)

def checkPayload (payload : Bytes) : Except SpoolError (Bytes × PayloadSpoolRecord) :=
  if digestBytes sum256 payload ≠ payloadHash then
    .error .failed
  else if ofNat payload.length ≠ record.payloadLength then
    .error .failed
  else
    .ok (payload, record)

/-- A missing payload file counts as not existing, as a missing record does. -/
def loadPayload : Action (Except SpoolError (Bytes × PayloadSpoolRecord)) := do
  let stem := safePayloadHash sum256 payloadHash
  if ← contextErr then
    return .error .failed
  match ← readFile (fun files => files.records stem) with
  | .error reason => return .error reason
  | .ok document =>
    match checkRecord payloadHash document with
    | none => return .error .failed
    | some record =>
      match ← readFile (fun files => files.payloads stem) with
      | .error reason => return .error reason
      | .ok payload => return checkPayload sum256 payloadHash record payload

def writePayloadFile (payloadHash payload : Bytes) : Action Bool := do
  let stem := safePayloadHash sum256 payloadHash
  match ← readFile (fun files => files.payloads stem) with
  | .ok existing => return digestBytes sum256 existing = payloadHash
  | .error .failed => return false
  | .error .notExist => atomicWriteFile fun files => files.withPayload stem payload

def writeRecord : Action Bool :=
  atomicWriteFile fun files =>
    files.withRecord (safePayloadHash sum256 record.payloadHash) record.json

def pendingRecord (nanoseconds : Int) : PayloadSpoolRecord :=
  { payloadHash
    payloadLength
    state := .pending
    remotePayloadRef := []
    remoteState := []
    leaseExpiresUnixMS := 0
    updatedAtUnixMS := unixMilli nanoseconds }

def storePayload : Action (Except SpoolError PayloadSpoolRecord) := do
  if ¬ validatePayloadCommitment sum256 payload payloadHash payloadLength then
    return .error .failed
  if ← contextErr then
    return .error .failed
  match ← loadPayload sum256 payloadHash with
  | .ok (_, record) => return .ok record
  | .error .failed => return .error .failed
  | .error .notExist =>
    if ← writePayloadFile sum256 payloadHash payload then
      let nanoseconds ← clockNow
      let record := pendingRecord payloadHash payloadLength nanoseconds
      if ← writeRecord sum256 record then return .ok record else return .error .failed
    else
      return .error .failed

def uploadedRecord (put : PayloadPutResult) (nanoseconds : Int) : PayloadSpoolRecord :=
  { record with
    state := .uploaded
    remotePayloadRef := put.payloadRef
    remoteState := put.state
    leaseExpiresUnixMS := put.leaseExpiresUnixMS
    updatedAtUnixMS := unixMilli nanoseconds }

def markUploaded (put : PayloadPutResult) : Action Bool := do
  if ← contextErr then
    return false
  match ← loadPayload sum256 payloadHash with
  | .error _ => return false
  | .ok (payload, record) =>
    if ofNat payload.length ≠ record.payloadLength then
      return false
    if put.payloadRef = [] then
      return false
    let nanoseconds ← clockNow
    writeRecord sum256 (uploadedRecord record put nanoseconds)

/-- `leaseReusable`: the lease outlasts the clock by the refresh margin. -/
def leaseOutlasts (nanoseconds : Int) : Bool :=
  nanoseconds + max refreshBefore 0 < record.leaseExpiresUnixMS.toInt64.toInt * 1000000

def leaseReusable : Action Bool := do
  if record.leaseExpiresUnixMS = 0 then
    return false
  let nanoseconds ← clockNow
  return leaseOutlasts refreshBefore record nanoseconds

/-- The answer that the record of an earlier upload stands for. -/
def recordedPut : PayloadPutResult :=
  { payloadRef := record.remotePayloadRef
    state := record.remoteState
    leaseExpiresUnixMS := record.leaseExpiresUnixMS
    deduplicated := false }

/-- The remote put of a spooled payload and the record of its reference. -/
def uploadPayload : Action (Option PayloadPutResult) := do
  match ← remotePut with
  | none => return none
  | some put =>
    if record.remotePayloadRef ≠ [] ∧ put.payloadRef ≠ record.remotePayloadRef then
      return none
    if ← markUploaded sum256 payloadHash put then return some put else return none

def putPayload : Action (Option PayloadPutResult) := do
  match ← storePayload sum256 payload payloadHash payloadLength with
  | .error _ => return none
  | .ok record =>
    if record.state = .uploaded ∧ record.remotePayloadRef ≠ [] then
      if ← leaseReusable refreshBefore record then
        return some (recordedPut record)
      else
        uploadPayload sum256 payloadHash record
    else
      uploadPayload sum256 payloadHash record

end Calls

section Threads

variable {θ : Type} [DecidableEq θ] (sum256 : Bytes → Bytes) (refreshBefore : Int)

/-- The stem of the files that a call may write; a load writes none. -/
def Call.stem : Call → Option Bytes
  | .loadPayload _ => none
  | call => some (safePayloadHash sum256 call.payloadHash)

/-- A call begins, or the machine crashes. -/
def nextCall (thread : θ) : Program (Spool θ) Input (Option Call) := .act fun input spool =>
    match input with
    | .call call =>
      some (some call, { spool with
        working := update spool.working thread (some (call.stem sum256)) })
    | .crash lostPayloads lostRecords => some (none, spool.crashed lostPayloads lostRecords)
    | _ => none

/-- A call returns; a successful answer is noted. -/
def finish (thread : θ) (note : Spool θ → Spool θ) : Program (Spool θ) Input Unit :=
  .act fun input spool =>
    match input with
    | .finish =>
      some ((), { note spool with
        working := update spool.working thread none })
    | _ => none

def notePut (payloadHash : Bytes) : Option PayloadPutResult → Spool θ → Spool θ
  | none, spool => spool
  | some put, spool => { spool with puts := (payloadHash, put) :: spool.puts }

def noteLoad (payloadHash : Bytes) :
    Except SpoolError (Bytes × PayloadSpoolRecord) → Spool θ → Spool θ
  | .error _, spool => spool
  | .ok (payload, _), spool => { spool with loads := (payloadHash, payload) :: spool.loads }

/-- The steps of a call on the disk of the spool. -/
def onDisk (action : Action α) : Program (Spool θ) Input α :=
  action.onPart Spool.toDisk fun spool disk => { spool with toDisk := disk }

def serve (thread : θ) (call : Call) : Program (Spool θ) Input Unit := do
  match call with
  | .putPayload payload payloadHash payloadLength =>
    let answer ← onDisk (putPayload sum256 refreshBefore payload payloadHash payloadLength)
    finish thread (notePut payloadHash answer)
  | .storePayload payload payloadHash payloadLength =>
    let _ ← onDisk (storePayload sum256 payload payloadHash payloadLength)
    finish thread id
  | .markUploaded payloadHash put =>
    let _ ← onDisk (markUploaded sum256 payloadHash put)
    finish thread id
  | .loadPayload payloadHash =>
    let answer ← onDisk (loadPayload sum256 payloadHash)
    finish thread (noteLoad payloadHash answer)

/-- Every thread serves one call after the other. -/
def code : Code θ (Spool θ) Input Unit :=
  fun thread _ => do
    match ← nextCall sum256 thread with
    | none => return some ()
    | some call =>
      serve sum256 refreshBefore thread call
      return some ()

/-- The threads over a spool directory with the given files. -/
def launched (files : Files) : Pool θ (Spool θ) Input Unit :=
  start (Spool.opened files) fun _ => some ()

end Threads

end HouseGate.PayloadSpool
