import HouseGate.PayloadSpool

namespace HouseGate.PayloadSpool

open DecimalText EffectProgram JsonDocument ProgramPool Replay StableStorage AsciiText HexText Or
open Prod
open Function
open Option
open PayloadSpoolRecord
open JsonText Utf8Text

/-!
# Runs of the payload spool

Loaded bytes have the requested hash in every run.  The reference of a hash is
stable in orderly runs: the calls that may write one pair of files do not
overlap, no crash loses what a call has seen, references are UTF-8, and a
direct mark does not name a second reference.  A load may run beside any call.
While a call works on its files nobody else changes them, so what it read is
still there when it writes.
-/

variable {document : Json}

section RecordFile

theorem digestBytes_ascii (sum256 : Bytes → Bytes) (content : Bytes) :
    ∀ byte ∈ digestBytes sum256 content, byte.toNat < 0x80 := by
  have leading : (ascii "0x").all (·.toNat < 0x80) = true := by
    decide
  have digit : ∀ half < 16, (hexDigit half).toNat < 0x80 := by
    decide
  intro byte member
  rw [digestBytes, List.mem_append] at member
  rcases member with lead | rest
  · exact of_decide_eq_true (List.all_eq_true.mp leading byte lead)
  simp only [encodeHex, List.mem_flatMap, List.mem_cons, List.not_mem_nil, or_false] at rest
  obtain ⟨source, -, high | low⟩ := rest
  · rw [high]
    exact digit _ (by have := source.toNat_lt; omega)
  · rw [low]
    exact digit _ (by omega)

theorem readText_encodeText (text : Bytes) : readText (encodeText text) = some (coerce text) := by
  have again := coerce_eq_self_iff.mpr (isValid_coerce text)
  simp [readText, again]

@[simp] theorem readText_null : readText .null = some [] :=
  rfl

@[simp] theorem coerce_nil : coerce [] = [] :=
  rfl

@[simp] theorem decodeUint_null (bound : Nat) : decodeUint bound .null = some 0 :=
  rfl

/-- What a reader finds of a record that was written. -/
theorem ofJson_json (record : PayloadSpoolRecord) : ∃ found, ofJson record.json = some found ∧
    found.payloadHash = coerce record.payloadHash ∧
    found.remotePayloadRef = coerce record.remotePayloadRef := by
  rcases record with
    ⟨payloadHash, payloadLength, state, reference, remoteState, lease, updated⟩
  have lengthRead :
      decodeUint uint64Size (encodeUint payloadLength.toNat) = some payloadLength.toNat :=
    decodeUint_encodeUint payloadLength.toNat_lt
  have leaseRead : decodeUint uint64Size (encodeUint lease.toNat) = some lease.toNat :=
    decodeUint_encodeUint lease.toNat_lt
  have updatedRead : decodeInt int64Magnitude (encodeInt updated.toInt) = some updated.toInt :=
    decodeInt_encodeInt updated.le_toInt updated.toInt_lt
  -- the three members that may be left out
  cases reference <;> cases remoteState <;> by_cases leased : lease = 0 <;>
    simp [json, ofJson, omitEmptyText,
      Json.field, Json.isObject, readText_encodeText, leased, lengthRead,
      leaseRead, updatedRead]

/-- References that were read are UTF-8. -/
theorem isValid_remotePayloadRef
    {record : PayloadSpoolRecord} (read : ofJson document = some record) :
    isValid record.remotePayloadRef = true := by
  simp only [ofJson, bind_eq_bind, bind_eq_some_iff, pure_def, some.injEq] at read
  obtain ⟨-, -, -, -, -, -, -, -, reference, referenceRead, -, -, -, -, -, -,
    rfl⟩ := read
  rw [readText, map_eq_some_iff] at referenceRead
  obtain ⟨text, -, rfl⟩ := referenceRead
  exact isValid_coerce text

theorem checkRecord_eq_some_iff {payloadHash : Bytes} {record : PayloadSpoolRecord} :
    checkRecord payloadHash document = some record ↔
      ofJson document = some record ∧ record.payloadHash = payloadHash := by
  unfold checkRecord
  cases ofJson document with
  | none => simp
  | some found =>
    by_cases same : found.payloadHash = payloadHash
    · simp only [same, if_true, some.injEq]
      constructor
      · rintro rfl
        exact ⟨rfl, same⟩
      · exact And.left
    · simp only [same, if_false, reduceCtorEq, some.injEq, false_iff]
      rintro ⟨rfl, equal⟩
      exact same equal

end RecordFile

section Ownership

variable {θ : Type} (sum256 : Bytes → Bytes)

/-- The two files of a stem and the answers that were given for it. -/
structure View where
  record : Option Json
  payload : Option Bytes
  puts : List (Bytes × PayloadPutResult)

variable (spool : Spool θ)

def viewOf (stem : Bytes) : View :=
  { record := spool.visible.records stem
    payload := spool.visible.payloads stem
    puts := spool.puts.filter fun entry => safePayloadHash sum256 entry.1 == stem }

/-- The record on file vouches for an answer that was given. -/
def View.Vouches (view : View) (entry : Bytes × PayloadPutResult) : Prop :=
  ∃ document record payload, view.record = some document ∧
    checkRecord entry.1 document = some record ∧
    record.remotePayloadRef = entry.2.payloadRef ∧
    record.remotePayloadRef ≠ [] ∧ view.payload = some payload

def View.Settled (view : View) : Prop :=
  ∀ entry ∈ view.puts, view.Vouches entry

/-- No other call may write the same files. -/
def Separate : Prop :=
  ∀ ⦃thread other stem⦄,
    spool.working thread = some (some stem) →
    spool.working other = some (some stem) → thread = other

/-- No two writers meet, and every answer still stands. -/
structure Sound : Prop where
  separate : Separate spool
  settled : ∀ stem, (viewOf sum256 spool stem).Settled

variable (thread : θ)

/-- A call is over, or nobody touched its files. -/
def Undisturbed (before after : Spool θ) : Prop :=
  after.working thread = none ∨ (after.working thread = before.working thread ∧
      ∀ stem, before.working thread = some (some stem) →
        viewOf sum256 after stem = viewOf sum256 before stem)

/-- A direct mark repeats the reference on file, if there is one. -/
def Call.AgreesWith (call : Call) (files : Files) : Prop :=
  match call with
  | .markUploaded payloadHash put =>
    ∀ document record, files.records (safePayloadHash sum256 payloadHash) = some document →
      ofJson document = some record →
      record.remotePayloadRef = [] ∨ record.remotePayloadRef = put.payloadRef
  | _ => True

/--
The steps of an orderly run: no other call may write the files that a new call
may write, a crash loses nothing that was visible and ends all calls, and the remote
store answers with references in UTF-8.
-/
def orderly (before : Spool θ) (input : Input) (_ : Spool θ) : Prop :=
  match input with
  | .proceed => True
  | .call call =>
    (∀ stem, call.stem sum256 = some stem → ∀ other, before.working other ≠ some (some stem)) ∧
      call.AgreesWith sum256 before.visible
  | .crash lostPayloads lostRecords =>
    (∀ stem ∈ lostPayloads, before.synced.payloads stem = before.visible.payloads stem) ∧
    ∀ stem ∈ lostRecords, before.synced.records stem = before.visible.records stem
  | .remote (some put) => before.working thread ≠ none ∧ isValid put.payloadRef = true
  | _ => before.working thread ≠ none

def spoolContract : Contract θ (Spool θ) Input Unit where
  allowed := orderly sum256
  invariant := Sound sum256
  rely := Undisturbed sum256
  guarantee := fun thread before after =>
    ∀ other, other ≠ thread → Undisturbed sum256 other before after
  heads := fun thread _ spool => spool.working thread = none

/-- A call works on a stem and knows what is on file for it. -/
structure Owns
    (stem : Bytes)
    (view : View)
    (spool : Spool θ) : Prop where
  working : spool.working thread = some (some stem)
  sees : viewOf sum256 spool stem = view

/-- A call works on the stem of a payload. -/
abbrev OwnsPayload (payloadHash : Bytes) : View → Spool θ → Prop :=
  Owns sum256 thread (safePayloadHash sum256 payloadHash)

/-- A call in an orderly run. -/
abbrev MeetsOrderly
    (thread : θ)
    (program : Program (Spool θ) Input α)
    (ensures : α → Spool θ → Prop)
    (spool : Spool θ) :
    Prop :=
  MeetsWhen (orderly sum256 thread) ((spoolContract sum256).rules thread) program ensures spool

/-- A part of a call, on the disk, in an orderly run. -/
abbrev ActsOrderly (thread : θ) (action : Action α) : (α → Spool θ → Prop) → Spool θ → Prop :=
  MeetsOrderly sum256 thread (onDisk action)

def Input.InCall : Input → Prop
  | .proceed | .call _ | .crash _ _ => False
  | _ => True

variable {sum256} {thread} {stem : Bytes} {view : View} {spool} {before after : Spool θ}
  {input : Input}

theorem working_of_orderly
    (inCall : input.InCall) (allowed : orderly sum256 thread before input after) :
    before.working thread ≠ none := by
  cases input with
  | proceed | call call | crash lostPayloads lostRecords => exact inCall.elim
  | remote answer =>
    cases answer with
    | none => exact allowed
    | some put => exact allowed.1
  | _ => exact allowed

theorem Owns.later
    (owns : Owns sum256 thread stem view spool)
    (others : Undisturbed sum256 thread spool before)
    (alive : before.working thread ≠ none) :
    Owns sum256 thread stem view before := by
  rcases others with ended | ⟨working, unchanged⟩
  · exact (alive ended).elim
  · exact ⟨working.trans owns.working, (unchanged stem owns.working).trans owns.sees⟩

/-- A change that leaves all other stems alone. -/
theorem Sound.change (sound : Sound sum256 before)
    (owns : before.working thread = some (some stem))
    (working : ∀ other, other ≠ thread → after.working other = before.working other)
    (own : after.working thread = some (some stem) ∨ after.working thread = none)
    (elsewhere : ∀ other, other ≠ stem → viewOf sum256 after other = viewOf sum256 before other)
    (settled : (viewOf sum256 after stem).Settled) :
    Sound sum256 after ∧ ∀ other, other ≠ thread → Undisturbed sum256 other before after := by
  have held : ∀ other held,
      after.working other = some (some held) → before.working other = some (some held) := by
    intro other held works
    by_cases same : other = thread
    · subst same
      rcases own with still | ended
      · rw [still] at works
        rw [← works]
        exact owns
      · rw [ended] at works
        cases works
    · rw [← working other same]
      exact works
  refine ⟨⟨?_, ?_⟩, ?_⟩
  · intro first second shared firstWorks secondWorks
    exact sound.separate (held first shared firstWorks) (held second shared secondWorks)
  · intro other
    by_cases same : other = stem
    · rw [same]
      exact settled
    · rw [elsewhere other same]
      exact sound.settled other
  · intro other different
    refine inr ⟨working other different, ?_⟩
    intro held works
    apply elsewhere
    rintro rfl
    exact different (sound.separate works owns)

theorem acts_bind
    {action : Action α}
    {later : α → Action β}
    {ensures : β → Spool θ → Prop}
    (acts : ActsOrderly sum256 thread action
      (fun answer => ActsOrderly sum256 thread (later answer) ensures) spool) :
    ActsOrderly sum256 thread (action >>= later) ensures spool := by
  unfold ActsOrderly onDisk
  rw [Program.onPart_bind]
  exact meetsWhen_bind acts

theorem acts_seq
    {action : Action α}
    {later : α → Action β}
    {first : α → Spool θ → Prop}
    {ensures : β → Spool θ → Prop}
    (acts : ActsOrderly sum256 thread action first spool)
    (rest : ∀ answer spool, first answer spool →
      ActsOrderly sum256 thread (later answer) ensures spool) :
    ActsOrderly sum256 thread (action >>= later) ensures spool :=
  acts_bind (acts.weaken rest)

variable {step : Input → Disk → Option (α × Disk)}

/-- An action of a call that changes nothing but its own files. -/
theorem meets_own {ensures : α → Spool θ → Prop} (owns : Owns sum256 thread stem view spool)
    (own : ∀ (before : Spool θ) input answer disk, step input before.toDisk = some (answer, disk) →
        input.InCall ∧ (Owns sum256 thread stem view before → Sound sum256 before →
            orderly sum256 thread before input before →
            (∀ other, other ≠ stem →
                viewOf sum256 { before with toDisk := disk } other =
                  viewOf sum256 before other) ∧
              (viewOf sum256 { before with toDisk := disk } stem).Settled ∧
              ensures answer { before with toDisk := disk })) :
    ActsOrderly sum256 thread (.act step) ensures spool := by
  apply meetsWhen_act
  intro before others sound input answer after performed allowed
  obtain ⟨⟨answer, disk⟩, stepped, same⟩ := Option.map_eq_some_iff.mp performed
  cases same
  obtain ⟨inCall, effect⟩ := own before input answer disk stepped
  have owned := owns.later others (working_of_orderly inCall allowed)
  obtain ⟨elsewhere, settled, ensured⟩ := effect owned sound allowed
  obtain ⟨kept, guaranteed⟩ := @Sound.change _ _ _ _ _ { before with toDisk := disk }
    sound owned.working (fun _ _ => rfl) (inl owned.working) elsewhere settled
  exact ⟨kept, guaranteed, ensured⟩

/-- An action of a call that only looks. -/
theorem meets_ask
    {read : Input → Disk → Option α}
    (found : α → Prop)
    (owns : Owns sum256 thread stem view spool)
    (finds : ∀ (before : Spool θ) input answer, read input before.toDisk = some answer →
      input.InCall ∧ (viewOf sum256 before stem = view →
        orderly sum256 thread before input before → found answer)) :
    ActsOrderly sum256 thread (.ask read) (fun answer final =>
        Owns sum256 thread stem view final ∧ found answer) spool := by
  apply meets_own owns
  intro before input answer disk stepped
  obtain ⟨_, given, same⟩ := Option.map_eq_some_iff.mp stepped
  cases same
  obtain ⟨inCall, found⟩ := finds before input answer given
  refine ⟨inCall, ?_⟩
  intro owned sound allowed
  exact ⟨fun _ _ => rfl, sound.settled stem, owned, found owned.sees allowed⟩

end Ownership

variable
  {files : Files} {payload : Bytes} {entry : Bytes × PayloadPutResult} {payloadLength : UInt64}
  {put : PayloadPutResult}

section Calls

variable
  {θ : Type} {sum256 : Bytes → Bytes} {thread : θ} {stem : Bytes} {view : View} {spool : Spool θ}

theorem meets_contextErr (owns : Owns sum256 thread stem view spool) :
    ActsOrderly sum256 thread contextErr
      (fun _ final => Owns sum256 thread stem view final) spool := by
  refine (meets_ask (fun _ => True) owns ?_).weaken fun _ _ => And.left
  intro before input answer isAnswer
  cases input with
  | context cancelled =>
    exact ⟨trivial, fun _ _ => trivial⟩
  | _ =>
    cases isAnswer

theorem meets_clockNow (owns : Owns sum256 thread stem view spool) :
    ActsOrderly sum256 thread clockNow
      (fun _ final => Owns sum256 thread stem view final) spool := by
  refine (meets_ask (fun _ => True) owns ?_).weaken fun _ _ => And.left
  intro before input answer isAnswer
  cases input with
  | clock nanoseconds =>
    exact ⟨trivial, fun _ _ => trivial⟩
  | _ =>
    cases isAnswer

theorem meets_remotePut (owns : Owns sum256 thread stem view spool) :
    ActsOrderly sum256 thread remotePut
      (fun answer final =>
        Owns sum256 thread stem view final ∧
          ∀ put, answer = some put → isValid put.payloadRef = true) spool := by
  apply meets_ask _ owns
  intro before input answer isAnswer
  cases input with
  | remote given =>
    cases isAnswer
    refine ⟨trivial, ?_⟩
    rintro _ allowed put rfl
    exact allowed.2
  | _ =>
    cases isAnswer

/-- A read that fails, or the file as it is. -/
theorem meets_readFile
    {contents : Files → Option α}
    (content : Option α)
    (owns : Owns sum256 thread stem view spool)
    (seen :
      ∀ before : Spool θ, viewOf sum256 before stem = view → contents before.visible = content) :
    ActsOrderly sum256 thread (readFile contents) (fun answer final =>
        Owns sum256 thread stem view final ∧
          (answer = .error .failed ∨ answer = content.elim (.error .notExist) .ok)) spool := by
  apply meets_ask _ owns
  intro before input answer isAnswer
  cases input with
  | read fails =>
    cases fails with
    | true =>
      cases isAnswer
      exact ⟨trivial, fun _ _ => inl rfl⟩
    | false =>
      cases isAnswer
      refine ⟨trivial, fun sees _ => inr ?_⟩
      rw [seen before sees]
  | _ => cases isAnswer

variable (sum256) in
/-- What a load says about the files. -/
def View.Loads (view : View) (payloadHash : Bytes) :
    Except SpoolError (Bytes × PayloadSpoolRecord) → Prop
  | .error .failed => True
  | .error .notExist => view.record = none ∨ view.payload = none
  | .ok (payload, record) =>
    view.payload = some payload ∧ digestBytes sum256 payload = payloadHash ∧
      ∃ document, view.record = some document ∧ checkRecord payloadHash document = some record

variable {payloadHash : Bytes} {record : PayloadSpoolRecord}

theorem meets_loadPayload (owns : OwnsPayload sum256 thread payloadHash view spool) :
    ActsOrderly sum256 thread (loadPayload sum256 payloadHash) (fun answer final =>
        OwnsPayload sum256 thread payloadHash view final ∧
          view.Loads sum256 payloadHash answer) spool := by
  apply acts_seq (meets_contextErr owns)
  intro cancelled spool owns
  cases cancelled with
  | true => exact ⟨owns, trivial⟩
  | false =>
    refine acts_seq (meets_readFile view.record owns ?_) ?_
    · intro before sees
      exact congrArg View.record sees
    rintro recordRead spool ⟨owns, rfl | rfl⟩
    · exact ⟨owns, trivial⟩
    cases record : view.record with
    | none => exact ⟨owns, inl record⟩
    | some document =>
      simp only [elim_some]
      cases checked : checkRecord payloadHash document with
      | none => exact ⟨owns, trivial⟩
      | some found =>
        refine acts_seq (meets_readFile view.payload owns ?_) ?_
        · intro before sees
          exact congrArg View.payload sees
        rintro payloadRead spool ⟨owns, rfl | rfl⟩
        · exact ⟨owns, trivial⟩
        cases stored : view.payload with
        | none => exact ⟨owns, inr stored⟩
        | some payload =>
          refine meetsWhen_pure ⟨owns, ?_⟩
          unfold checkPayload
          split_ifs with digest length
          · trivial
          · trivial
          · exact ⟨stored, not_not.mp digest, document, record, checked⟩

/-- A write ends with the old or the new files, and success with the new. -/
theorem viewOf_replacing
    (spool : Spool θ)
    (outcome : WriteOutcome)
    (files : Files) :
    (viewOf sum256 { spool with toDisk := spool.toDisk.replacing outcome files } stem =
        viewOf sum256 spool stem ∧ outcome.succeeded = false) ∨
      viewOf sum256 { spool with toDisk := spool.toDisk.replacing outcome files } stem =
        { viewOf sum256 spool stem with
          record := files.records stem
          payload := files.payloads stem } := by
  cases outcome with
  | failedBeforeRename => exact inl ⟨rfl, rfl⟩
  | stored | failedAfterRename => exact inr rfl

/-- A replacement of one of the call's own files. -/
theorem meets_atomicWriteFile
    {change : Files → Files}
    (next : View)
    (owns : Owns sum256 thread stem view spool)
    (elsewhere : ∀ files other, other ≠ stem →
        (change files).payloads other = files.payloads other ∧
          (change files).records other = files.records other)
    (here : ∀ before : Spool θ, viewOf sum256 before stem = view → { viewOf sum256 before stem with
        record := (change before.visible).records stem
        payload := (change before.visible).payloads stem } = next)
    (settled : view.Settled → next.Settled) :
    ActsOrderly sum256 thread (atomicWriteFile change) (fun written final =>
        if written then Owns sum256 thread stem next final
        else
          Owns sum256 thread stem view final ∨ Owns sum256 thread stem next final) spool := by
  apply meets_own owns
  intro before input answer after performed
  cases input with
  | write outcome =>
    cases performed
    refine ⟨trivial, ?_⟩
    intro owned sound _
    have replaced := here before owned.sees
    refine ⟨?_, ?_⟩
    · intro other different
      obtain ⟨payloads, records⟩ := elsewhere before.visible other different
      cases outcome with
      | failedBeforeRename => rfl
      | stored | failedAfterRename => simp [viewOf, Disk.replacing, payloads, records]
    have was : view.Settled := by
      rw [← owned.sees]
      exact sound.settled stem
    rcases viewOf_replacing before outcome (change before.visible) with
      ⟨old, failed⟩ | new
    · rw [old, owned.sees, failed]
      exact ⟨was, inl ⟨owned.working, old.trans owned.sees⟩⟩
    rw [new, replaced]
    have owned' : Owns sum256 thread stem next { before with
        toDisk := before.toDisk.replacing outcome (change before.visible) } :=
      ⟨owned.working, new.trans replaced⟩
    refine ⟨settled was, ?_⟩
    cases outcome.succeeded with
    | true => exact owned'
    | false => exact inr owned'
  | _ => cases performed

/-- The payload file is written only while no answer rests on it. -/
theorem meets_writePayloadFile (owns : OwnsPayload sum256 thread payloadHash view spool)
    (fresh : view.puts = []) :
    ActsOrderly sum256 thread (writePayloadFile sum256 payloadHash payload) (fun _ final =>
        ∃ stored, OwnsPayload sum256 thread payloadHash
            { view with payload := stored } final) spool := by
  refine acts_seq (meets_readFile view.payload owns ?_) ?_
  · intro before sees
    exact congrArg View.payload sees
  rintro payloadRead spool ⟨owns, rfl | rfl⟩
  · exact ⟨view.payload, owns⟩
  cases stored : view.payload with
  | some existing => exact ⟨view.payload, owns⟩
  | none =>
    have settled : ({ view with payload := some payload } : View).Settled := by
      intro entry member
      rw [show ({ view with payload := some payload } : View).puts =
        view.puts from rfl, fresh] at member
      cases member
    refine (meets_atomicWriteFile _ owns ?_ ?_ (fun _ => settled)).weaken ?_
    · intro files other different
      simp [Files.withPayload, different]
    · intro before sees
      simp [Files.withPayload, ← sees, viewOf]
    intro written final owned
    cases written with
    | true => exact ⟨some payload, owned⟩
    | false =>
      rcases owned with owned | owned
      · exact ⟨view.payload, owned⟩
      · exact ⟨some payload, owned⟩

theorem meets_writeRecord
    (record : PayloadSpoolRecord) (owns : OwnsPayload sum256 thread record.payloadHash view spool)
    (settled : view.Settled → ({ view with record := some record.json } : View).Settled) :
    ActsOrderly sum256 thread (writeRecord sum256 record) (fun written final =>
        if written then
          OwnsPayload sum256 thread record.payloadHash
            { view with record := some record.json } final
        else
          ∃ left, OwnsPayload sum256 thread record.payloadHash
              left final) spool := by
  refine (meets_atomicWriteFile _ owns ?_ ?_ settled).weaken ?_
  · intro files other different
    simp [Files.withRecord, different]
  · intro before sees
    simp [Files.withRecord, ← sees, viewOf]
  intro written final owned
  cases written with
  | true => exact owned
  | false =>
    rcases owned with owned | owned <;> exact ⟨_, owned⟩

/-- What the record that a store returned says about the files. -/
structure View.Stores
    (view : View)
    (payloadHash : Bytes)
    (record : PayloadSpoolRecord) : Prop where
  settled : view.Settled
  agrees :
    ∀ entry ∈ view.puts, record.remotePayloadRef = entry.2.payloadRef ∧ record.remotePayloadRef ≠ []
  uploaded : record.state = .uploaded → ∃ document payload, view.record = some document ∧
        checkRecord payloadHash document = some record ∧ view.payload = some payload

theorem View.Settled.puts_eq_nil
    (settled : view.Settled) (missing : view.record = none ∨ view.payload = none) :
    view.puts = [] := by
  rw [List.eq_nil_iff_forall_not_mem]
  intro entry member
  obtain ⟨document, record, payload, recorded, -, -, -, stored⟩ := settled entry member
  rcases missing with noRecord | noPayload
  · rw [noRecord] at recorded
    cases recorded
  · rw [noPayload] at stored
    cases stored

/-- The record on file has the reference of every answer given. -/
theorem View.Settled.agrees (settled : view.Settled) (recorded : view.record = some document)
    (checked : checkRecord payloadHash document = some record) (member : entry ∈ view.puts) :
    payloadHash = entry.1 ∧
      record.remotePayloadRef = entry.2.payloadRef ∧ record.remotePayloadRef ≠ [] := by
  obtain ⟨same, found, payload, sameRecorded, foundChecked, reference,
    present, -⟩ := settled entry member
  rw [recorded, some.injEq] at sameRecorded
  subst sameRecorded
  rw [checkRecord_eq_some_iff] at checked foundChecked
  obtain rfl : record = found := some.inj (checked.1.symm.trans foundChecked.1)
  exact ⟨checked.2.symm.trans foundChecked.2, reference, present⟩

theorem meets_storePayload (owns : OwnsPayload sum256 thread payloadHash view spool)
    (settled : view.Settled) :
    ActsOrderly sum256 thread (storePayload sum256 payload payloadHash payloadLength)
      (fun answer final =>
        ∃ left, OwnsPayload sum256 thread payloadHash left final ∧
            ∀ record, answer = .ok record → left.Stores payloadHash record) spool := by
  unfold storePayload
  split_ifs with valid
  swap
  · exact ⟨view, owns, nofun⟩
  apply acts_seq (meets_contextErr owns)
  intro cancelled spool owns
  cases cancelled with
  | true => exact ⟨view, owns, nofun⟩
  | false =>
    apply acts_seq (meets_loadPayload owns)
    rintro loaded spool ⟨owns, loads⟩
    cases loaded with
    | ok found =>
      obtain ⟨bytes, record⟩ := found
      obtain ⟨stored, -, document, recorded, checked⟩ := loads
      refine meetsWhen_pure ⟨view, owns, ?_⟩
      intro same equal
      obtain rfl : record = same := Except.ok.inj equal
      refine ⟨settled, ?_, fun _ => ⟨document, bytes, recorded, checked, stored⟩⟩
      intro entry member
      exact (settled.agrees recorded checked member).2
    | error reason =>
      cases reason with
      | failed => exact ⟨view, owns, nofun⟩
      | notExist =>
        -- nothing was answered for these files yet
        have fresh := settled.puts_eq_nil loads
        apply acts_seq (meets_writePayloadFile owns fresh)
        rintro written spool ⟨stored, owns⟩
        cases written with
        | false => exact ⟨_, owns, nofun⟩
        | true =>
          apply acts_seq (meets_clockNow owns)
          intro nanoseconds spool owns
          refine acts_seq (meets_writeRecord
            (pendingRecord payloadHash payloadLength nanoseconds)
            owns ?_) ?_
          · intro _ entry member
            rw [fresh] at member
            cases member
          intro written spool owned
          cases written with
          | false =>
            obtain ⟨left, owns⟩ := owned
            exact ⟨left, owns, nofun⟩
          | true =>
            refine meetsWhen_pure ⟨_, owned, ?_⟩
            intro record equal
            obtain rfl := Except.ok.inj equal
            refine ⟨?_, ?_, nofun⟩
            · intro entry member
              rw [fresh] at member
              cases member
            · intro entry member
              rw [fresh] at member
              cases member

/-- The record of an upload vouches for its reference. -/
theorem vouches_uploaded (nanoseconds : Int)
    (loads : view.Loads sum256 payloadHash (.ok (payload, record))) (same : payloadHash = entry.1)
    (reference : put.payloadRef = entry.2.payloadRef) (valid : isValid put.payloadRef = true)
    (present : put.payloadRef ≠ []) :
    ({ view with
        record := some (uploadedRecord record put nanoseconds).json } :
      View).Vouches entry := by
  obtain ⟨stored, digest, document, -, checked⟩ := loads
  rw [checkRecord_eq_some_iff] at checked
  have hashKept : coerce payloadHash = payloadHash := by
    apply coerce_of_ascii
    rw [← digest]
    exact digestBytes_ascii sum256 payload
  have referenceKept := coerce_eq_self_iff.mpr valid
  obtain ⟨found, read, foundHash, foundReference⟩ :=
    ofJson_json (uploadedRecord record put nanoseconds)
  have foundIs : found.remotePayloadRef = put.payloadRef := foundReference.trans referenceKept
  refine ⟨_, found, payload, rfl, ?_, foundIs.trans reference, ?_, stored⟩
  · rw [checkRecord_eq_some_iff, ← same]
    refine ⟨read, foundHash.trans ?_⟩
    rw [show (uploadedRecord record put nanoseconds).payloadHash = payloadHash from checked.2]
    exact hashKept
  · rw [foundIs]
    exact present

theorem meets_markUploaded
    (owns : OwnsPayload sum256 thread payloadHash view spool) (settled : view.Settled)
    (agrees : ∀ entry ∈ view.puts, put.payloadRef = entry.2.payloadRef) :
    ActsOrderly sum256 thread (markUploaded sum256 payloadHash put) (fun written final =>
        ∃ left, OwnsPayload sum256 thread payloadHash left final ∧ (written = true →
            isValid put.payloadRef = true → left.Vouches (payloadHash, put))) spool := by
  apply acts_seq (meets_contextErr owns)
  intro cancelled spool owns
  cases cancelled with
  | true => exact ⟨view, owns, nofun⟩
  | false =>
    apply acts_seq (meets_loadPayload owns)
    rintro loaded spool ⟨owns, loads⟩
    cases loaded with
    | error reason => exact ⟨view, owns, nofun⟩
    | ok found =>
      obtain ⟨payload, record⟩ := found
      dsimp only
      split_ifs with length unnamed
      · exact ⟨view, owns, nofun⟩
      · exact ⟨view, owns, nofun⟩
      apply acts_seq (meets_clockNow owns)
      intro nanoseconds spool owns
      obtain ⟨-, -, document, recorded, checked⟩ := id loads
      have hash : (uploadedRecord record put nanoseconds).payloadHash = payloadHash :=
        (checkRecord_eq_some_iff.mp checked).2
      rw [← hash] at owns ⊢
      refine (meets_writeRecord _ owns ?_).weaken ?_
      · intro _ entry member
        obtain ⟨same, reference, -⟩ := settled.agrees recorded checked member
        have valid := isValid_remotePayloadRef (checkRecord_eq_some_iff.mp checked).1
        rw [reference, ← agrees entry member] at valid
        exact vouches_uploaded nanoseconds loads same (agrees entry member) valid unnamed
      · intro written spool owned
        cases written with
        | true =>
          refine ⟨_, owned, fun _ valid => ?_⟩
          rw [hash]
          exact vouches_uploaded nanoseconds loads rfl rfl valid unnamed
        | false =>
          obtain ⟨left, owns⟩ := owned
          exact ⟨left, owns, nofun⟩

theorem meets_uploadPayload (owns : OwnsPayload sum256 thread payloadHash view spool)
    (stores : view.Stores payloadHash record) :
    ActsOrderly sum256 thread (uploadPayload sum256 payloadHash record) (fun answer final =>
        ∃ left, OwnsPayload sum256 thread payloadHash left final ∧
            ∀ put, answer = some put → left.Vouches (payloadHash, put)) spool := by
  apply acts_seq (meets_remotePut owns)
  rintro answer spool ⟨owns, valid⟩
  cases answer with
  | none => exact ⟨view, owns, nofun⟩
  | some put =>
    dsimp only
    split_ifs with changed
    · exact ⟨view, owns, nofun⟩
    apply acts_bind
    have agrees : ∀ entry ∈ view.puts, put.payloadRef = entry.2.payloadRef := by
      intro entry member
      obtain ⟨reference, present⟩ := stores.agrees entry member
      rw [← reference]
      by_contra different
      exact changed ⟨present, different⟩
    refine (meets_markUploaded owns stores.settled agrees).weaken ?_
    rintro written spool ⟨left, owns, vouches⟩
    cases written with
    | false => exact ⟨left, owns, nofun⟩
    | true =>
      refine meetsWhen_pure ⟨left, owns, ?_⟩
      intro given equal
      obtain rfl := some.inj equal
      exact vouches rfl (valid put rfl)

theorem meets_putPayload {refreshBefore : Int}
    (owns : OwnsPayload sum256 thread payloadHash view spool) (settled : view.Settled) :
    ActsOrderly sum256 thread (putPayload sum256 refreshBefore payload payloadHash payloadLength)
      (fun answer final =>
        ∃ left, OwnsPayload sum256 thread payloadHash left final ∧
            ∀ put, answer = some put → left.Vouches (payloadHash, put)) spool := by
  apply acts_seq (meets_storePayload owns settled)
  rintro stored spool ⟨left, owns, stores⟩
  cases stored with
  | error reason => exact ⟨left, owns, nofun⟩
  | ok record =>
    have holds := stores record rfl
    dsimp only
    split_ifs with reusable
    swap
    · exact meets_uploadPayload owns holds
    apply acts_bind
    unfold leaseReusable
    split_ifs with unleased
    · exact meets_uploadPayload owns holds
    apply acts_seq (meets_clockNow owns)
    intro nanoseconds spool owns
    refine meetsWhen_pure ?_
    split_ifs with outlasts
    swap
    · exact meets_uploadPayload owns holds
    refine meetsWhen_pure ⟨left, owns, ?_⟩
    intro put equal
    obtain rfl := some.inj equal
    obtain ⟨document, bytes, recorded, checked, kept⟩ := holds.uploaded reusable.1
    exact ⟨document, record, bytes, recorded, checked, rfl, reusable.2, kept⟩

end Calls

variable (payloadHash : Bytes)

section Looks

variable {sum256 : Bytes → Bytes}

variable (sum256) in
/-- A load that succeeded has the requested bytes. -/
def LoadsRight (payloadHash : Bytes) : Except SpoolError (Bytes × PayloadSpoolRecord) → Prop
  | .error _ => True
  | .ok (payload, _) => digestBytes sum256 payload = payloadHash

/-- A load only looks. -/
theorem bounded_loadPayload :
    Bounded Eq (LoadsRight sum256 payloadHash) (loadPayload sum256 payloadHash) := by
  apply bounded_seq (bounded_ask Eq.refl)
  intro cancelled
  cases cancelled with
  | true => exact bounded_pure trivial
  | false =>
    apply bounded_seq (bounded_ask Eq.refl)
    intro recordRead
    cases recordRead with
    | error reason => exact bounded_pure trivial
    | ok document =>
      dsimp only
      cases checkRecord payloadHash document with
      | none => exact bounded_pure trivial
      | some record =>
        apply bounded_seq (bounded_ask Eq.refl)
        intro payloadRead
        cases payloadRead with
        | error reason => exact bounded_pure trivial
        | ok payload =>
          apply bounded_pure
          unfold checkPayload
          split_ifs with digest length
          · trivial
          · trivial
          · exact not_not.mp digest

theorem bounded_load_onDisk {θ : Type} : Bounded Eq (LoadsRight sum256 payloadHash)
    (onDisk (loadPayload sum256 payloadHash) : Program (Spool θ) Input _) := by
  apply (bounded_loadPayload payloadHash).onPart
  rintro spool _ rfl
  rfl

end Looks

section Orderly

variable {θ : Type} [DecidableEq θ] {sum256 : Bytes → Bytes} {refreshBefore : Int} {thread : θ}
  {stem : Bytes} {view : View} {spool : Spool θ}

variable (sum256) in
/-- Answers are noted for the call's own files, which vouch for them. -/
def Notes (stem : Bytes) (view : View) (note : Spool θ → Spool θ) : Prop := ∀ spool,
    (note spool).visible = spool.visible ∧ ∃ entries, (note spool).puts = entries ++ spool.puts ∧
        ∀ entry ∈ entries, safePayloadHash sum256 entry.1 = stem ∧ view.Vouches entry

omit [DecidableEq θ] in
theorem notes_notePut {payloadHash : Bytes} {answer : Option PayloadPutResult}
    (vouches : ∀ put, answer = some put → view.Vouches (payloadHash, put)) :
    Notes sum256 (safePayloadHash sum256 payloadHash) view
      (notePut payloadHash answer : Spool θ → Spool θ) := by
  intro spool
  cases answer with
  | none => exact ⟨rfl, [], rfl, nofun⟩
  | some put =>
    refine ⟨rfl, [(payloadHash, put)], rfl, ?_⟩
    intro entry member
    rw [List.mem_singleton] at member
    subst member
    exact ⟨rfl, vouches put rfl⟩

omit [DecidableEq θ] in
theorem notes_id : Notes sum256 stem view (id : Spool θ → Spool θ) :=
  fun _ => ⟨rfl, [], rfl, nofun⟩

theorem meets_finish {note : Spool θ → Spool θ} (owns : Owns sum256 thread stem view spool)
    (notes : Notes sum256 stem view note) :
    MeetsOrderly sum256 thread (finish thread note)
      (fun _ final => final.working thread = none) spool := by
  apply meetsWhen_act
  intro before others sound input answer after performed allowed
  cases input with
  | finish =>
    cases performed
    have owned := owns.later others allowed
    obtain ⟨visible, entries, puts, vouched⟩ := notes before
    have ended : update before.working thread none thread = none :=
      update_self thread none before.working
    refine and_assoc.mp ⟨sound.change owned.working ?_ (inr ended) ?_ ?_, ended⟩
    · intro other different
      exact update_of_ne different none before.working
    · intro other different
      have elsewhere :
          entries.filter (fun entry => safePayloadHash sum256 entry.1 == other) = [] := by
        rw [List.filter_eq_nil_iff]
        intro entry member
        rw [(vouched entry member).1, beq_iff_eq]
        exact different.symm
      simp [viewOf, visible, puts, elsewhere]
    · intro entry member
      have known : View.Vouches (viewOf sum256 before stem) entry := by
        simp only [viewOf, puts, List.filter_append, List.mem_append] at member
        rcases member with new | old
        · rw [owned.sees]
          exact (vouched entry (List.mem_of_mem_filter new)).2
        · exact sound.settled stem entry old
      simp only [View.Vouches, viewOf, visible] at known ⊢
      exact known
  | _ => cases performed

/-- A load changes no file and no put, so it needs no files of its own. -/
theorem meets_load : MeetsOrderly sum256 thread
    (serve sum256 refreshBefore thread (.loadPayload payloadHash))
    (fun _ final => final.working thread = none) spool := by
  refine meetsWhen_seq (meetsWhen_of_bounded (bounded_load_onDisk payloadHash)
    (fun _ _ _ _ => trivial) ?_ trivial) ?_
  · rintro before _ rfl sound _
    exact ⟨sound, fun other _ => inr ⟨rfl, fun _ _ => rfl⟩, trivial⟩
  intro answer _ _
  apply meetsWhen_act
  intro before _ sound input _ after performed _
  cases input with
  | finish =>
    cases performed
    have same : ∀ stem, viewOf sum256 { noteLoad payloadHash answer before with
        working := update before.working thread none } stem = viewOf sum256 before stem := by
      cases answer with
      | error reason | ok found => exact fun _ => rfl
    refine ⟨⟨?_, ?_⟩, ?_, update_self thread none before.working⟩
    · intro first second stem firstWorks secondWorks
      simp only [update_apply] at firstWorks secondWorks
      split_ifs at firstWorks secondWorks
      exact sound.separate firstWorks secondWorks
    · intro stem
      rw [same]
      exact sound.settled stem
    · intro other different
      exact inr ⟨update_of_ne different none before.working, fun stem _ => same stem⟩
  | _ => cases performed

/-- A direct mark in an orderly run repeats what was answered before. -/
theorem View.Settled.agrees_of_agreesWith {payloadHash : Bytes} (settled : view.Settled)
    (recorded : view.record = files.records (safePayloadHash sum256 payloadHash))
    (agrees : (Call.markUploaded payloadHash put).AgreesWith sum256 files)
    (member : entry ∈ view.puts) :
    put.payloadRef = entry.2.payloadRef := by
  obtain ⟨document, record, -, isRecorded, checked, reference, present, -⟩ := settled entry member
  rw [recorded] at isRecorded
  rcases agrees document record isRecorded (checkRecord_eq_some_iff.mp checked).1 with empty | same
  · exact (present empty).elim
  · rw [← same]
    exact reference

theorem meets_serve {call : Call}
    (owned : call.stem sum256 = some (safePayloadHash sum256 call.payloadHash) →
      OwnsPayload sum256 thread call.payloadHash view spool)
    (settled : view.Settled)
    (recorded : view.record = files.records (safePayloadHash sum256 call.payloadHash))
    (agrees : call.AgreesWith sum256 files) :
    MeetsOrderly sum256 thread (serve sum256 refreshBefore thread call)
      (fun _ final => final.working thread = none) spool := by
  cases call with
  | putPayload payload payloadHash payloadLength =>
    apply meetsWhen_seq (meets_putPayload (owned rfl) settled)
    rintro answer spool ⟨left, owns, vouches⟩
    exact meets_finish owns (notes_notePut vouches)
  | storePayload payload payloadHash payloadLength =>
    apply meetsWhen_seq (meets_storePayload (owned rfl) settled)
    rintro answer spool ⟨left, owns, -⟩
    exact meets_finish owns notes_id
  | markUploaded payloadHash put =>
    refine meetsWhen_seq (meets_markUploaded (owned rfl) settled ?_) ?_
    · intro entry member
      exact settled.agrees_of_agreesWith recorded agrees member
    rintro answer spool ⟨left, owns, -⟩
    exact meets_finish owns notes_id
  | loadPayload payloadHash => exact meets_load payloadHash

omit [DecidableEq θ] in
variable (sum256) in
/-- A crash of an orderly run leaves the files as they were seen. -/
theorem viewOf_crashed {lostPayloads lostRecords : List Bytes}
    (payloads : ∀ stem ∈ lostPayloads, spool.synced.payloads stem = spool.visible.payloads stem)
    (records : ∀ stem ∈ lostRecords, spool.synced.records stem = spool.visible.records stem)
    (stem : Bytes) :
    viewOf sum256 (spool.crashed lostPayloads lostRecords) stem = viewOf sum256 spool stem := by
  unfold viewOf Spool.crashed
  congr 1
  · dsimp only
    split_ifs with lost
    · exact records stem lost
    · rfl
  · dsimp only
    split_ifs with lost
    · exact payloads stem lost
    · rfl

/-- The start of a call in an orderly run. -/
theorem Sound.starts
    {call : Call}
    (sound : Sound sum256 spool)
    (free : ∀ stem, call.stem sum256 = some stem →
      ∀ other, spool.working other ≠ some (some stem)) :
    let after : Spool θ := { spool with
      working := update spool.working thread (some (call.stem sum256)) }
    Sound sum256 after ∧ ∀ other, other ≠ thread → Undisturbed sum256 other spool after := by
  refine ⟨⟨?_, sound.settled⟩, ?_⟩
  · intro first second stem firstWorks secondWorks
    simp only [update_apply] at firstWorks secondWorks
    split_ifs at firstWorks secondWorks with isFirst isSecond isSecond
    · exact isFirst.trans isSecond.symm
    · exact (free stem (some.inj firstWorks) second secondWorks).elim
    · exact (free stem (some.inj secondWorks) first firstWorks).elim
    · exact sound.separate firstWorks secondWorks
  · intro other different
    refine inr ⟨?_, fun _ _ => rfl⟩
    exact update_of_ne different _ spool.working

theorem meets_code : (spoolContract sum256).Meets thread
    (code sum256 refreshBefore thread ()) spool := by
  apply meetsWhen_bind
  apply meetsWhen_act
  intro before others sound input answer after performed allowed
  cases input with
  | call call =>
    cases performed
    obtain ⟨kept, guaranteed⟩ := sound.starts allowed.1
    refine ⟨kept, guaranteed, ?_⟩
    refine meetsWhen_seq (meets_serve ?_ (kept.settled _) rfl allowed.2) ?_
    · intro writes
      exact ⟨(update_self thread _ before.working).trans (congrArg some writes), rfl⟩
    · intro _ final ended
      exact ended
  | crash lostPayloads lostRecords =>
    cases performed
    have same := viewOf_crashed sum256 allowed.1 allowed.2
    refine ⟨⟨?_, ?_⟩, fun other _ => inl rfl, ?_⟩
    · intro first second stem impossible
      cases impossible
    · intro stem
      rw [same]
      exact sound.settled stem
    · exact meetsWhen_pure rfl
  | _ => cases performed

theorem spoolContract_kept : (spoolContract sum256 : Contract θ (Spool θ) Input Unit).Kept
    (code sum256 refreshBefore) where
  reflexive := inr ⟨rfl, fun _ _ => rfl⟩
  transitive := by
    intro thread first second third earlier later
    rcases later with ended | ⟨working, unchanged⟩
    · exact inl ended
    rcases earlier with ended | ⟨worked, kept⟩
    · exact inl (working.trans ended)
    · refine inr ⟨working.trans worked, ?_⟩
      intro stem works
      exact (unchanged stem (worked.trans works)).trans (kept stem works)
  compatible := by
    intro thread other before after different guaranteed
    exact guaranteed thread different
  stable := by
    intro thread head before after others idle
    rcases others with ended | ⟨working, -⟩
    · exact ended
    · exact working.trans idle
  bodies := by
    intro thread head spool _ _
    exact meets_code

theorem sound_of_orderly {inputs : List (θ × Input)}
    (admitted : (spoolContract sum256).Admits (code sum256 refreshBefore) (launched files) inputs) :
    Sound sum256 (run (code sum256 refreshBefore) (launched files) inputs).shared := by
  have initially : (spoolContract sum256).Holds (launched files : Pool θ (Spool θ) Input Unit) := by
    refine ⟨⟨?_, ?_⟩, fun _ => rfl⟩
    · intro thread other stem impossible
      cases impossible
    · intro stem entry member
      cases member
  exact (initially.run spoolContract_kept admitted).invariant

end Orderly

section Loads

variable {θ : Type} {sum256 : Bytes → Bytes} {refreshBefore : Int}

/-- The loads noted so far are untouched. -/
def SameLoads (before after : Spool θ) : Prop := after.loads = before.loads

/-- Steps on the disk note no load. -/
theorem sameLoads_onDisk (action : Action α) :
    Within SameLoads (onDisk action : Program (Spool θ) Input α) :=
  (bounded_any action).onPart fun _ _ _ => rfl

/-- Every load noted so far has the bytes of its hash. -/
def LoadsSound (sum256 : Bytes → Bytes) (spool : Spool θ) : Prop :=
  ∀ entry ∈ spool.loads, digestBytes sum256 entry.2 = entry.1

/-- No condition on the steps, and nothing to rely on. -/
def loadContract (sum256 : Bytes → Bytes) : Contract θ (Spool θ) Input Unit where
  allowed := fun _ _ _ _ => True
  invariant := LoadsSound sum256
  rely := fun _ _ _ => True
  guarantee := fun _ _ _ => True
  heads := fun _ _ _ => True

variable {thread : θ} {spool : Spool θ}

theorem meets_of_sameLoads
    {program : Program (Spool θ) Input α}
    {result : α → Prop}
    (bounded : Bounded SameLoads result program) :
    MeetsWhen ((loadContract sum256).allowed thread) ((loadContract sum256).rules thread) program
      (fun answer _ => result answer) spool := by
  refine (meetsWhen_of_bounded bounded
    (fun _ _ _ _ => trivial) ?_ trivial).weaken fun _ _ => And.left
  intro before after same sound _
  refine ⟨?_, trivial, trivial⟩
  intro entry member
  rw [same] at member
  exact sound entry member

variable [DecidableEq θ]

theorem meets_finish_loads {note : Spool θ → Spool θ}
    (notes : ∀ before, LoadsSound sum256 before → LoadsSound sum256 (note before)) :
    MeetsWhen ((loadContract sum256).allowed thread)
      ((loadContract sum256).rules thread) (finish thread note)
      (fun _ _ => True) spool := by
  apply meetsWhen_act
  intro before _ sound input answer after performed _
  cases input with
  | finish =>
    cases performed
    exact ⟨notes before sound, trivial, trivial⟩
  | _ => cases performed

theorem loads_of_serve (call : Call) : MeetsWhen ((loadContract sum256).allowed thread)
    ((loadContract sum256).rules thread)
    (serve sum256 refreshBefore thread call)
    (fun _ _ => True) spool := by
  cases call with
  | putPayload payload payloadHash payloadLength =>
    apply meetsWhen_seq (meets_of_sameLoads (sameLoads_onDisk _))
    intro answer spool _
    apply meets_finish_loads
    intro before sound
    cases answer with
    | none | some put => exact sound
  | storePayload payload payloadHash payloadLength =>
    apply meetsWhen_seq (meets_of_sameLoads (sameLoads_onDisk _))
    intro answer spool _
    exact meets_finish_loads fun before sound => sound
  | markUploaded payloadHash put =>
    apply meetsWhen_seq (meets_of_sameLoads (sameLoads_onDisk _))
    intro answer spool _
    exact meets_finish_loads fun before sound => sound
  | loadPayload payloadHash =>
    apply meetsWhen_seq (meets_of_sameLoads ((bounded_load_onDisk _).weaken
      (fun _ _ same => congrArg Spool.loads same.symm) fun _ => id))
    intro answer spool right
    apply meets_finish_loads
    intro before sound
    cases answer with
    | error reason => exact sound
    | ok found =>
      intro entry member
      rcases List.mem_cons.mp member with rfl | old
      · exact right
      · exact sound entry old

theorem loadContract_kept : (loadContract sum256 : Contract θ (Spool θ) Input Unit).Kept
    (code sum256 refreshBefore) where
  reflexive := trivial
  transitive := fun _ _ => trivial
  compatible := fun _ _ => trivial
  stable := fun _ _ => trivial
  bodies := by
    intro thread head spool _ _
    apply meetsWhen_bind
    apply meetsWhen_act
    intro before _ sound input answer after performed _
    cases input with
    | call call =>
      cases performed
      refine ⟨sound, trivial, ?_⟩
      apply meetsWhen_seq (loads_of_serve call)
      intro _ _ _
      exact meetsWhen_pure trivial
    | crash lostPayloads lostRecords =>
      cases performed
      exact ⟨sound, trivial, meetsWhen_pure trivial⟩
    | _ => cases performed

theorem loads_sound (files : Files) (inputs : List (θ × Input)) :
    LoadsSound sum256 (run (code sum256 refreshBefore) (launched files) inputs).shared := by
  have initially : (loadContract sum256).Holds (launched files : Pool θ (Spool θ) Input Unit) := by
    refine ⟨?_, fun _ => trivial⟩
    intro entry member
    cases member
  exact (initially.run loadContract_kept
    (Contract.admits_of_inputs fun _ _ _ _ => trivial)).invariant

end Loads

section References

variable {θ : Type} [DecidableEq θ]

/--
Loaded bytes have the requested hash in every run.  In every orderly run all
successful puts of a hash answer with one reference.
-/
theorem loads_sound_and_refs_stable
    (sum256 : Bytes → Bytes)
    (refreshBefore : Int)
    (files : Files)
    (inputs : List (θ × Input)) :
    let spool := (run (code sum256 refreshBefore) (launched files) inputs).shared
    (∀ entry ∈ spool.loads, digestBytes sum256 entry.2 = entry.1) ∧
    ((spoolContract sum256).Admits (code sum256 refreshBefore) (launched files) inputs →
      ∀ first ∈ spool.puts, ∀ second ∈ spool.puts,
        first.1 = second.1 → first.2.payloadRef = second.2.payloadRef) := by
  refine ⟨loads_sound files inputs, ?_⟩
  intro admitted first firstMember second secondMember same
  have settled := (sound_of_orderly admitted).settled (safePayloadHash sum256 first.1)
  obtain ⟨document, record, -, recorded, checked, reference, -, -⟩ :=
    settled first (by simp [viewOf, firstMember])
  rw [← reference]
  exact (settled.agrees recorded checked (by simp [viewOf, secondMember, same])).2.1

/-- A hash function whose digests are all the text `0x`. -/
def emptySum : Bytes → Bytes := fun _ => []

def emptyFiles : Files := { payloads := fun _ => none, records := fun _ => none }

def putAnswer (payloadRef : Bytes) : PayloadPutResult :=
  { payloadRef
    state := ascii "AVAILABLE"
    leaseExpiresUnixMS := 0
    deduplicated := false }

def putCall : Input := .call (.putPayload [1] (ascii "0x") 1)

/-- A put up to the remote store, on an empty and on a filled spool. -/
def storingInputs : List Input := [.proceed, putCall, .context false, .context false, .read false,
    .read false, .write .stored, .clock 0, .write .stored]

def foundInputs : List Input :=
  [.proceed, putCall, .context false, .context false, .read false, .read false]

def uploadInputs (payloadRef : Bytes) : List Input :=
  [.remote (some (putAnswer payloadRef)), .context false, .context false,
    .read false, .read false, .clock 0, .write .stored, .finish]

def loadInputs : List Input :=
  [.proceed, .call (.loadPayload (ascii "0x")), .context false, .read false, .read false, .finish]

/-- One put after the other, with a load in the middle of the first. -/
def sequentialInputs : List (Bool × Input) :=
  storingInputs.map (mk false) ++ loadInputs.map (mk true) ++
    (uploadInputs [65]).map (mk false) ++ (foundInputs ++ uploadInputs [65]).map (mk true)

theorem sequentialInputs_orderly :
    (spoolContract emptySum).Admits (code emptySum 0) (launched emptyFiles) sequentialInputs := by
  have busy {stem : Option Bytes} : some stem ≠ none := nofun
  refine ⟨trivial, ⟨nofun, trivial⟩, busy, busy, busy, busy, busy, busy, busy,
    trivial, ⟨nofun, trivial⟩, busy, busy, busy, busy, ⟨busy, rfl⟩, busy, busy, busy,
    busy, busy, busy, busy, trivial,
    ⟨?_, trivial⟩, busy, busy, busy, busy, ⟨busy, rfl⟩, busy, busy, busy,
    busy, busy, busy, busy, trivial⟩
  intro _ _ other
  cases other with
  | false | true => nofun

/-- Two puts, one after the other, and a load. -/
theorem sequential_puts_agree :
    let spool := (run (code emptySum 0) (launched emptyFiles) sequentialInputs).shared
    spool.loads = [(ascii "0x", [1])] ∧ spool.puts.length = 2 ∧
    ∀ first ∈ spool.puts, ∀ second ∈ spool.puts,
      first.1 = second.1 → first.2.payloadRef = second.2.payloadRef :=
  ⟨rfl, rfl, (loads_sound_and_refs_stable emptySum 0 emptyFiles
    sequentialInputs).2 sequentialInputs_orderly⟩

/-- Two puts that both find no reference on file keep a reference each. -/
theorem racing_puts_disagree : (run (code emptySum 0) (launched emptyFiles)
    (storingInputs.map (mk false) ++ foundInputs.map (mk true) ++
      (uploadInputs [65]).map (mk false) ++
      (uploadInputs [66]).map (mk true))).shared.puts =
      [(ascii "0x", putAnswer [66]), (ascii "0x", putAnswer [65])] := by
  rfl

end References

end HouseGate.PayloadSpool
