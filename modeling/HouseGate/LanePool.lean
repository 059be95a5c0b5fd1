import HouseGate.SeqCounter

namespace HouseGate.LanePool

open DecimalText JsonDocument AscendingList StableStorage SeqCounter Utf8Text Nat List

/-!
# Client lanes: the lane file and one acquired lane

This module embeds `laneFile`, `readLaneFile` and the methods of `LanedStore`.
A lane keeps its next seq, its free list and the abandoned mark in one JSON
file.  As in the legacy counter, every operation takes the outcome of its file
replacement.  Who may hold a lane is decided by lock files, which belong to the
module of the runs.
-/

abbrev Lane := Bytes

def clientLaneHexLen : Nat := 16

def laneFileVersion : Int := 1

/-- `int64` fields hold values below this magnitude. -/
def int64Magnitude : Nat := 2 ^ 63

def isLowerHexByte (byte : UInt8) : Bool := (48 ≤ byte && byte ≤ 57) || (97 ≤ byte && byte ≤ 102)

/-- `ValidClientLane`: exactly 16 lowercase hex characters. -/
def validClientLane (lane : Lane) : Bool :=
  lane.length == clientLaneHexLen && lane.all isLowerHexByte

def hexDigit (nibble : UInt8) : UInt8 :=
  if nibble < 10 then 48 + nibble else 87 + nibble

/-- `hex.EncodeToString`. -/
def hexEncode (bytes : Bytes) : Lane :=
  bytes.flatMap (fun byte => [hexDigit (byte / 16), hexDigit (byte % 16)])

/-- The contents of `<lane>.json`. -/
structure LaneFile where
  version : Int
  lane : Lane
  next : Nat
  free : List Nat
  abandoned : Bool

/-- Why a lane could not be used. -/
inductive LaneError where
  | readFile
  | decode
  | unsupportedVersion (version : Int)
  | namesOtherLane (lane : Lane)
  | nextIsZero
  | tooManyFree (entries : Nat)
  | freeNotAscending (free : List Nat) (next : Nat)
  | laneClosed (lane : Lane)
  | laneExhausted (lane : Lane)
  | laneReused (supplied : Nat) (lane : Lane) (next : Nat)
  | neverReserved (seq : Nat) (lane : Lane)
  | persist

def laneFileFields : List String := ["version", "lane", "next", "free", "abandoned"]

def laneDocument (file : LaneFile) : Json := .object [("version", encodeInt file.version),
    ("lane", encodeText file.lane),
    ("next", encodeUint file.next),
    ("free", encodeSlice encodeUint (some file.free)),
    ("abandoned", encodeBool file.abandoned)]

/-- Decode with unknown fields disallowed; an absent free list reads empty. -/
def decodeLaneFile (document : Json) : Option LaneFile := do
  guard (document.isObject && document.onlyFields laneFileFields)
  let version ← decodeInt int64Magnitude (document.field "version")
  let lane ← decodeText (document.field "lane")
  let next ← decodeUint uint64Size (document.field "next")
  let free ← decodeSlice (decodeUint uint64Size) (document.field "free")
  let abandoned ← decodeBool (document.field "abandoned")
  return ⟨version, lane, next, free.getD [], abandoned⟩

/-- The loop of `readLaneFile` over the free list. -/
def freeAscendingBelow (next : Nat) (free : List Nat) : Bool :=
  let inRange := fun seq => !(seq == 0) && !(next ≤ seq)
  (firstMisplaced inRange 0 none free).isNone

/-- `readLaneFile`; `none` is a file that cannot be read. -/
def readLaneFile (document : Option Json) (lane : Lane) : Except LaneError LaneFile :=
  match document with
  | none => .error .readFile
  | some document =>
    match decodeLaneFile document with
    | none => .error .decode
    | some file =>
      if file.version ≠ laneFileVersion then
        .error (.unsupportedVersion file.version)
      else if file.lane ≠ lane then
        .error (.namesOtherLane file.lane)
      else if file.next = 0 then
        .error .nextIsZero
      else if maxFreeSeqs < file.free.length then
        .error (.tooManyFree file.free.length)
      else if freeAscendingBelow file.next file.free then
        .ok file
      else
        .error (.freeNotAscending file.free file.next)

/-- What `mint` writes for a new lane. -/
def mintedFile (lane : Lane) : LaneFile where
  version := laneFileVersion
  lane := lane
  next := 1
  free := []
  abandoned := false

/-- One acquired lane in memory. -/
structure LanedStore where
  lane : Lane
  state : LaneFile
  closed : Bool
  retired : Bool

/-- Answers over the store in memory and its lane file. -/
abbrev StoreOutcome := Outcome LaneError LanedStore (Option Json)

namespace LanedStore

variable (store : LanedStore)
  (write : WriteOutcome)

def persist (next : LaneFile) (file : Option Json) : StoreOutcome Unit :=
  replace write .persist { store with state := next } store (some (laneDocument next)) file

def reserve (file : Option Json) : StoreOutcome Nat :=
  if store.closed then
    refuse (.laneClosed store.lane) store file
  else
    match store.state.free with
    | seq :: rest => (store.persist write { store.state with free := rest } file).returning seq
    | [] =>
      if store.state.next = maxUint64 then
        refuse (.laneExhausted store.lane) store file
      else
        (store.persist write { store.state with
            next := (store.state.next + 1) % uint64Size }
          file).returning store.state.next

def reserveSupplied (seq : Nat) (file : Option Json) : StoreOutcome Unit :=
  if store.closed then
    refuse (.laneClosed store.lane) store file
  else if seq = maxUint64 then
    refuse (.laneExhausted store.lane) store file
  else if seq < store.state.next then
    refuse (.laneReused seq store.lane store.state.next) store file
  else
    store.persist write { store.state with next := (seq + 1) % uint64Size } file

/-- Its answer tells whether the cap burned the largest entry. -/
def release (seq : Nat) (file : Option Json) : StoreOutcome Bool :=
  if store.closed then
    refuse (.laneClosed store.lane) store file
  else if seq = 0 ∨ store.state.next ≤ seq then
    refuse (.neverReserved seq store.lane) store file
  else if
      store.state.free[searchIndex store.state.free seq]? = some seq then
    -- Releasing a free seq again is a no-op, not an error.
    ⟨.ok false, store, file⟩
  else
    (store.persist write { store.state with
        free := freeAfterRelease store.state.free seq }
      file).returning (maxFreeSeqs < (insertSorted store.state.free seq).length)

/-- A successful abandon also closes the store. -/
def abandon (file : Option Json) : StoreOutcome Unit :=
  if store.closed then
    refuse (.laneClosed store.lane) store file
  else
    let outcome := store.persist write { store.state with abandoned := true } file
    match outcome.answer with
    | .error _ => outcome
    | .ok () =>
      { outcome with
        memory := { outcome.memory with closed := true } }

end LanedStore

/-! ## Lane files that are read back -/

/-- An intact file of a lane; the free list lies strictly below `next`. -/
structure LaneFileValid (lane : Lane) (file : LaneFile) : Prop where
  version : file.version = laneFileVersion
  named : file.lane = lane
  positive : 0 < file.next
  fits : file.next < uint64Size
  free : FreeListValid (file.next - 1) file.free

variable {seq : Nat}

namespace LaneFileValid

variable {lane : Lane} {file : LaneFile}

theorem minted (lane : Lane) : LaneFileValid lane (mintedFile lane) where
  version := rfl
  named := rfl
  positive := one_pos
  fits := by
    change 1 < uint64Size
    decide
  free := .nil 0

variable (valid : LaneFileValid lane file)

include valid

theorem below (member : seq ∈ file.free) : 0 < seq ∧ seq < file.next := by
  have bounds := valid.free.issued seq member
  omega

theorem raise
    {next : Nat}
    (raised : file.next ≤ next)
    (fits : next < uint64Size) :
    LaneFileValid lane { file with next := next } :=
  { valid with
    positive := lt_of_lt_of_le valid.positive raised
    fits
    free := valid.free.mono (Nat.sub_le_sub_right raised 1) }

theorem withFree {free : List Nat} (freeValid : FreeListValid (file.next - 1) free) :
    LaneFileValid lane { file with free := free } :=
  { valid with free := freeValid }

theorem abandon : LaneFileValid lane { file with abandoned := true } :=
  { valid with }

end LaneFileValid

variable {lane : Lane}

theorem ascii_of_validClientLane (valid : validClientLane lane = true) :
    ∀ byte ∈ lane, byte.toNat < 0x80 := by
  have small : ∀ byte, isLowerHexByte byte = true → byte.toNat < 0x80 := by
    apply forall_byte
    decide +kernel
  intro byte member
  simp only [validClientLane, Bool.and_eq_true, all_eq_true] at valid
  exact small byte (valid.2 byte member)

/-- Eight random bytes make a valid lane. -/
theorem validClientLane_hexEncode {bytes : Bytes} (eight : bytes.length = 8) :
    validClientLane (hexEncode bytes) = true := by
  have length : (hexEncode bytes).length = 16 := by
    simp [hexEncode, length_flatMap, eight]
  have digits : ∀ byte, isLowerHexByte (hexDigit (byte / 16)) = true ∧
      isLowerHexByte (hexDigit (byte % 16)) = true := by
    apply forall_byte
    decide +kernel
  have hex : ∀ byte ∈ hexEncode bytes, isLowerHexByte byte = true := by
    intro digit member
    obtain ⟨byte, _, isDigit⟩ := mem_flatMap.mp member
    simp only [mem_cons, not_mem_nil, or_false] at isDigit
    rcases isDigit with rfl | rfl
    · exact (digits byte).1
    · exact (digits byte).2
  simp only [validClientLane, clientLaneHexLen, length, Bool.and_eq_true, all_eq_true]
  exact ⟨rfl, hex⟩

/-- A valid file of a valid lane is read back as it was written. -/
theorem readLaneFile_document
    {file : LaneFile}
    (validLane : validClientLane lane = true)
    (valid : LaneFileValid lane file) :
    readLaneFile (some (laneDocument file)) lane = .ok file := by
  have roundTrip : ∀ list ∈ some file.free, ∀ seq ∈ list,
      decodeUint uint64Size (encodeUint seq) = some (id seq) := by
    intro list same seq member
    cases same
    exact decodeUint_encodeUint (lt_trans (valid.below member).2 valid.fits)
  have free : decodeSlice (decodeUint uint64Size) (encodeSlice encodeUint (some file.free)) =
      some (some file.free) := by
    simpa using decodeSlice_encodeSlice roundTrip
  have text : coerce file.lane = file.lane := by
    rw [valid.named]
    exact coerce_of_ascii (ascii_of_validClientLane validLane)
  have version : decodeInt int64Magnitude (encodeInt file.version) = some file.version := by
    rw [valid.version]
    decide
  have decoded : decodeLaneFile (laneDocument file) = some file := by
    simp [decodeLaneFile, laneDocument, laneFileFields, Json.isObject,
      Json.onlyFields, Json.field, version, text, free, valid.fits]
  have placed :
      firstMisplaced (fun seq => !(seq == 0) && !(file.next ≤ seq)) 0 none file.free = none := by
    apply firstMisplaced_of_ascending valid.free.ascending
    · intro seq member
      have bounds := valid.below member
      simp [ne_of_gt bounds.1, bounds.2]
    · intro before impossible
      cases impossible
  have ascending : freeAscendingBelow file.next file.free = true := by
    simp [freeAscendingBelow, placed]
  have capped := not_lt.mpr valid.free.capped
  have positive := ne_of_gt valid.positive
  simp [readLaneFile, decoded, valid.version, valid.named, positive, capped, ascending]

/-! ## Operations keep held sequences out of the free list -/

/-- A valid file under which no held seq can be issued again. -/
structure SafeFor
    (held : Nat → Prop)
    (lane : Lane)
    (file : LaneFile) : Prop where
  valid : LaneFileValid lane file
  below : ∀ seq, held seq → seq < file.next
  notFree : ∀ seq, held seq → seq ∉ file.free

theorem SafeFor.mono
    {held fewer : Nat → Prop}
    {file : LaneFile}
    (safe : SafeFor held lane file)
    (subset : ∀ seq, fewer seq → held seq) :
    SafeFor fewer lane file where
  valid := safe.valid
  below := fun seq member => safe.below seq (subset seq member)
  notFree := fun seq member => safe.notFree seq (subset seq member)

/--
What an operation other than a successful abandon leaves behind: the same
store with a safe state, over a file that reads as a safe state too.
-/
structure Kept
    (held : Nat → Prop)
    (store : LanedStore)
    (outcome : StoreOutcome α) : Prop where
  sameStore : outcome.memory = { store with state := outcome.memory.state }
  notAbandoned : outcome.memory.state.abandoned = store.state.abandoned
  memory : SafeFor held store.lane outcome.memory.state
  disk : ∃ stored, outcome.disk = some (laneDocument stored) ∧ SafeFor held store.lane stored

variable {answer : Except LaneError α} {state : LaneFile}
  {next : LaneFile}

section Operations

variable {held : Nat → Prop} {store : LanedStore} {file : Option Json} {stored : LaneFile}

/-- An operation that changed neither copy. -/
theorem kept_unchanged
    (onDisk : file = some (laneDocument stored)) (safeDisk : SafeFor held store.lane stored)
    (safeMemory : SafeFor held store.lane store.state) :
    Kept held store (⟨answer, store, file⟩ : StoreOutcome α) where
  sameStore := rfl
  notAbandoned := rfl
  memory := safeMemory
  disk := ⟨stored, onDisk, safeDisk⟩

/-- A write that readers see, whether or not memory followed it. -/
theorem kept_replaced
    (safeNext : SafeFor held store.lane next) (safeState : SafeFor held store.lane state)
    (sameMark : state.abandoned = store.state.abandoned) :
    Kept held store (⟨answer, { store with state := state },
        some (laneDocument next)⟩ : StoreOutcome α) where
  sameStore := rfl
  notAbandoned := sameMark
  memory := safeState
  disk := ⟨next, rfl, safeNext⟩

/-- The state `reserve` writes when it takes a free seq. -/
theorem SafeFor.takeFree
    {rest : List Nat}
    (safe : SafeFor held lane state)
    (available : state.free = seq :: rest) :
    SafeFor (fun query => query = seq ∨ held query) lane { state with free := rest } ∧
      ¬ held seq ∧ 0 < seq ∧ seq < uint64Size := by
  have inFree : seq ∈ state.free := by
    simp [available]
  have bounds := safe.valid.below inFree
  have freeValid := safe.valid.free
  rw [available] at freeValid
  refine ⟨⟨?_, ?_, ?_⟩, ?_, bounds.1, ?_⟩
  · exact safe.valid.withFree freeValid.tail
  · intro query member
    rcases member with same | earlier
    · subst same
      exact bounds.2
    · exact safe.below query earlier
  · intro query member inRest
    rcases member with same | earlier
    · subst same
      exact freeValid.ascending.head_not_mem inRest
    · apply safe.notFree query earlier
      simp [available, inRest]
  · intro member
    exact safe.notFree seq member inFree
  · exact lt_trans bounds.2 safe.valid.fits

/-- The state written for a seq at or above `next`. -/
theorem SafeFor.advance
    (safe : SafeFor held lane state)
    (fresh : state.next ≤ seq)
    (fits : seq + 1 < uint64Size) :
    SafeFor (fun query => query = seq ∨ held query) lane { state with next := seq + 1 } ∧
      ¬ held seq ∧ 0 < seq ∧ seq < uint64Size := by
  have positive := safe.valid.positive
  refine ⟨⟨?_, ?_, ?_⟩, ?_, lt_of_lt_of_le positive fresh, ?_⟩
  · exact safe.valid.raise (le_succ_of_le fresh) fits
  · intro query member
    rcases member with same | earlier
    · subst same
      exact lt_succ_self query
    · have below := safe.below query earlier
      exact lt_of_lt_of_le below (le_succ_of_le fresh)
  · intro query member inFree
    rcases member with same | earlier
    · subst same
      exact not_lt.mpr fresh (safe.valid.below inFree).2
    · exact safe.notFree query earlier inFree
  · intro member
    exact not_lt.mpr fresh (safe.below seq member)
  · exact lt_of_succ_lt fits

/-- What an issuing operation promises about its answer. -/
def Issues (held : Nat → Prop) (store : LanedStore) (seqOf : α → Nat)
    (outcome : StoreOutcome α) : Prop :=
  match outcome.answer with
  | .ok value =>
    (¬ held (seqOf value) ∧ 0 < seqOf value ∧ seqOf value < uint64Size) ∧
      Kept (fun query => query = seqOf value ∨ held query) store outcome
  | .error _ => Kept held store outcome

variable (onDisk : file = some (laneDocument stored)) (safeDisk : SafeFor held store.lane stored)
  (safeMemory : SafeFor held store.lane store.state)

include onDisk safeDisk safeMemory

variable (write : WriteOutcome)

include write

/-- One write of an issuing operation, under each of its outcomes. -/
theorem persist_issues {seqOf : α → Nat} {value : α}
    (safeNext : SafeFor (fun query => query = seqOf value ∨ held query) store.lane next ∧
        ¬ held (seqOf value) ∧ 0 < seqOf value ∧ seqOf value < uint64Size)
    (sameMark : next.abandoned = store.state.abandoned) :
    Issues held store seqOf ((store.persist write next file).returning value) := by
  obtain ⟨safe, fresh⟩ := safeNext
  cases write with
  | stored => exact ⟨fresh, kept_replaced safe safe sameMark⟩
  | failedBeforeRename => exact kept_unchanged onDisk safeDisk safeMemory
  | failedAfterRename =>
    have fewer := safe.mono (fun query (member : held query) => Or.inr member)
    exact kept_replaced fewer safeMemory rfl

theorem reserve_issues : Issues held store id (store.reserve write file) := by
  unfold LanedStore.reserve
  split
  · exact kept_unchanged onDisk safeDisk safeMemory
  split
  · rename_i seq rest available
    exact persist_issues onDisk safeDisk safeMemory write (safeMemory.takeFree available) rfl
  split
  · exact kept_unchanged onDisk safeDisk safeMemory
  rename_i notExhausted
  have inRange : store.state.next + 1 < uint64Size := by
    have fits := safeMemory.valid.fits
    simp only [maxUint64] at notExhausted
    omega
  rw [mod_eq_of_lt inRange]
  exact persist_issues onDisk safeDisk safeMemory write (safeMemory.advance le_rfl inRange) rfl

theorem reserveSupplied_issues (fits : seq < uint64Size) :
    Issues held store (fun _ => seq) (store.reserveSupplied write seq file) := by
  unfold LanedStore.reserveSupplied
  split
  · exact kept_unchanged onDisk safeDisk safeMemory
  split
  · exact kept_unchanged onDisk safeDisk safeMemory
  split
  · exact kept_unchanged onDisk safeDisk safeMemory
  rename_i notMax notReused
  have inRange : seq + 1 < uint64Size := by
    simp only [maxUint64] at notMax
    omega
  rw [mod_eq_of_lt inRange]
  have issued : Issues held store (fun _ => seq)
      ((store.persist write { store.state with next := seq + 1 } file).returning ()) :=
    persist_issues onDisk safeDisk safeMemory write
      (safeMemory.advance (Nat.le_of_not_lt notReused) inRange)
      rfl
  cases write with
  | stored | failedBeforeRename | failedAfterRename => exact issued

/-- Whether a release may be found by the next reader of the file. -/
def releaseVisible (write : WriteOutcome) : Except LaneError Bool → Bool
  | .ok _ => true
  | .error .persist => write.replaced
  | .error _ => false

theorem release_kept (seq : Nat) :
    let outcome := store.release write seq file
    if releaseVisible write outcome.answer then
      Kept (fun query => query ≠ seq ∧ held query) store outcome
    else
      Kept held store outcome := by
  have fewerDisk := safeDisk.mono (fun query (member : query ≠ seq ∧ held query) => member.2)
  have fewerMemory := safeMemory.mono (fun query (member : query ≠ seq ∧ held query) => member.2)
  unfold LanedStore.release
  split
  · exact kept_unchanged onDisk safeDisk safeMemory
  split
  · exact kept_unchanged onDisk safeDisk safeMemory
  split
  · exact kept_unchanged onDisk fewerDisk fewerMemory
  rename_i reserved notFree
  rw [not_or] at reserved
  have released : SafeFor (fun query => query ≠ seq ∧ held query) store.lane { store.state with
        free := freeAfterRelease store.state.free seq } := by
    have freeValid := safeMemory.valid.free
    have notMember : seq ∉ store.state.free := by
      intro member
      exact notFree ((getElem?_searchIndex_eq_some_iff freeValid.ascending).mpr member)
    refine ⟨?_, fewerMemory.below, ?_⟩
    · apply safeMemory.valid.withFree
      apply freeValid.release
      · exact pos_of_ne_zero reserved.1
      · exact Nat.le_sub_one_of_lt (Nat.lt_of_not_le reserved.2)
      · exact notMember
    · intro query member inFree
      rcases mem_freeAfterRelease inFree with same | earlier
      · exact member.1 same
      · exact safeMemory.notFree query member.2 earlier
  cases write with
  | stored => exact kept_replaced released released rfl
  | failedBeforeRename => exact kept_unchanged onDisk safeDisk safeMemory
  | failedAfterRename => exact kept_replaced released fewerMemory rfl

/-- A successful abandon marks the file and closes the store. -/
theorem abandon_spec (isOpen : store.closed = false) :
    let outcome := store.abandon write file
    match outcome.answer with
    | .ok () =>
      outcome.memory.closed = true ∧
      outcome.memory.lane = store.lane ∧
      ∃ marked, outcome.disk = some (laneDocument marked) ∧
          marked.abandoned = true ∧ SafeFor held store.lane marked
    | .error _ =>
      Kept held store outcome := by
  have marked : SafeFor held store.lane { store.state with abandoned := true } :=
    ⟨safeMemory.valid.abandon, safeMemory.below, safeMemory.notFree⟩
  simp only [LanedStore.abandon, isOpen]
  cases write with
  | stored => exact ⟨rfl, rfl, _, rfl, rfl, marked⟩
  | failedBeforeRename => exact kept_unchanged onDisk safeDisk safeMemory
  | failedAfterRename => exact kept_replaced marked safeMemory rfl

end Operations

end HouseGate.LanePool
