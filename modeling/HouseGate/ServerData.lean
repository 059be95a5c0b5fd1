import HouseGate.CheckedSteps
import HouseGate.WireReader

namespace HouseGate.ServerData

open CheckedSteps LittleEndian List WireReader

/-!
# The decoding copy of a server Data packet

The BlockInfo section of a captured packet is replaced by its two ordinary
fields.  Where the section ends is added up from the shortest lengths of the
numbers that were decoded, so a number in a longer form leaves bytes of the
section in front of the columns.
-/

/-- The block info fields of a server's block. -/
structure BlockInfoCompat where
  overflows : Bool
  bucketNum : Int32
  outOfOrderBuckets : List Int32
  hasOutOfOrderBuckets : Bool
  deriving DecidableEq

def uvarintEncLen (value : Nat) : Nat :=
  if value < 0x80 then 1 else uvarintEncLen (value / 128) + 1
termination_by value
decreasing_by omega

def int32 : Reader Int32 := do
  let bytes ← raw 4
  pure (UInt32.ofNat (ofLittleEndian bytes.val)).toInt32

def putInt32 (value : Int32) : List UInt8 := littleEndian 4 value.toUInt32.toNat

/-- The entries of field 3 from an index on. -/
def outOfOrderBuckets (index : Nat) : Nat → Reader (List Int32)
  | 0 => pure []
  | count + 1 => do
    let bucket ← within s!"BlockInfo out_of_order_buckets[{index}]" int32
    let buckets ← outOfOrderBuckets (index + 1) count
    pure (bucket :: buckets)

/-- The loop over the fields; the source sets no bound on its rounds. -/
def decodeBlockInfoCompat : Nat → BlockInfoCompat → Nat → Reader (BlockInfoCompat × Nat)
  | 0, _, _ => throw .unterminated
  | rounds + 1, info, consumed => do
    let field ← within "BlockInfo field id" uvarint
    let consumed := consumed + uvarintEncLen field.toNat
    match field.toNat with
    | 0 => pure (info, consumed)
    | 1 =>
      let overflows ← within "BlockInfo overflows" boolean
      decodeBlockInfoCompat rounds { info with overflows } (consumed + 1)
    | 2 =>
      let bucketNum ← within "BlockInfo bucket_num" int32
      decodeBlockInfoCompat rounds { info with bucketNum } (consumed + 4)
    | 3 =>
      let count ← within "BlockInfo out_of_order_buckets count" uvarint
      let buckets ← outOfOrderBuckets 0 count.toNat
      decodeBlockInfoCompat rounds
        { info with outOfOrderBuckets := buckets, hasOutOfOrderBuckets := true }
        (consumed + uvarintEncLen count.toNat + 4 * count.toNat)
    | unknown => throw (.refused s!"BlockInfo unknown field {unknown} (cannot skip safely)")

def BlockInfoCompat.initial : BlockInfoCompat := ⟨false, -1, [], false⟩

def serverCodeData : UInt64 := 1

/-- The packet code and the name of the block, which is passed over. -/
def serverDataHead : Reader Unit := do
  let code ← within "server Data code" uvarint
  if code ≠ serverCodeData then
    throw (.refused s!"packet type {code} is not ServerData")
  let nameLen ← within "server Data name length" uvarint
  fun before =>
    if before.input.length < nameLen.toNat then
      .error (.refused "server Data name exceeds packet length")
    else
      .ok ((), { before with input := before.input.drop nameLen.toNat })

/--
What the rewrite takes from the library of the protocol: the first revision
whose blocks carry the section, and the writer of a section with the two
ordinary fields.
-/
structure Library where
  featureBlockInfo : Int
  encodeBlockInfo : (overflows : Bool) → (bucketNum : Int32) → List UInt8

/-- The rewrite of a packet; `rounds` is a bound on the fields of the section. -/
def normalizeServerDataBlockInfo
    (library : Library)
    (rounds : Nat)
    (packet : List UInt8)
    (revision : Int) :
    Except ReadError (List UInt8) := do
  if revision ≤ 0 then
    throw (.refused "server Data revision is required")
  let (_, behind) ← serverDataHead ⟨packet, true⟩
  let start := packet.length - behind.input.length
  if revision < library.featureBlockInfo then
    return packet
  let ((info, consumed), _) ←
    within "server Data BlockInfo" (decodeBlockInfoCompat rounds .initial 0) ⟨behind.input, true⟩
  return packet.take start ++ library.encodeBlockInfo info.overflows info.bucketNum ++
    packet.drop (start + consumed)

/-! ## The layout of a packet -/

/-- A field of the section as it stands on the wire, with the forms of its numbers. -/
inductive InfoField where
  | overflows (id : List UInt8) (value : Bool)
  | bucketNum (id : List UInt8) (value : Int32)
  | outOfOrderBuckets (id count : List UInt8) (buckets : List Int32)

namespace InfoField

/-- The bytes of a field. -/
def bytes : InfoField → List UInt8
  | .overflows id value => id ++ putBoolean value
  | .bucketNum id value => id ++ putInt32 value
  | .outOfOrderBuckets id count buckets => id ++ (count ++ buckets.flatMap putInt32)

/-- The numbers of a field are its id and, of field 3, how many entries follow. -/
def WellFormed : InfoField → Prop
  | .overflows id _ => Form id 1
  | .bucketNum id _ => Form id 2
  | .outOfOrderBuckets id count buckets => Form id 3 ∧ Form count buckets.length

/-- Every number of a field stands in its shortest form. -/
def Shortest : InfoField → Prop
  | .overflows id _ => id = putVarint 1
  | .bucketNum id _ => id = putVarint 2
  | .outOfOrderBuckets id count buckets => id = putVarint 3 ∧ count = putVarint buckets.length

/-- The length that a field has with its numbers in their shortest form. -/
def shortestLength : InfoField → Nat
  | .overflows _ _ => uvarintEncLen 1 + 1
  | .bucketNum _ _ => uvarintEncLen 2 + 4
  | .outOfOrderBuckets _ _ buckets =>
    uvarintEncLen 3 + uvarintEncLen buckets.length + 4 * buckets.length

/-- The value of field 1. -/
def overflows? : InfoField → Option Bool
  | .overflows _ value => some value
  | _ => none

/-- The value of field 2. -/
def bucketNum? : InfoField → Option Int32
  | .bucketNum _ value => some value
  | _ => none

end InfoField

/-- The overflows that a section tells, by its last field 1. -/
def overflowsOf (absent : Bool) (fields : List InfoField) : Bool :=
  (fields.filterMap InfoField.overflows?).getLast?.getD absent

/-- The bucket that a section tells, by its last field 2. -/
def bucketNumOf (absent : Int32) (fields : List InfoField) : Int32 :=
  (fields.filterMap InfoField.bucketNum?).getLast?.getD absent

/-- The parts of a packet, with the forms of its numbers. -/
structure Layout where
  code : List UInt8
  nameLen : List UInt8
  name : List UInt8
  fields : List InfoField
  sentinel : List UInt8
  columns : List UInt8

namespace Layout

variable (layout : Layout)

/-- Everything in front of the section. -/
def head : List UInt8 := layout.code ++ (layout.nameLen ++ layout.name)

/-- The section, up to its end sentinel. -/
def info : List UInt8 := layout.fields.flatMap InfoField.bytes ++ layout.sentinel

/-- The layout is one of this packet. -/
structure Of (packet : List UInt8) : Prop where
  bytes : packet = layout.head ++ (layout.info ++ layout.columns)
  code : Form layout.code serverCodeData.toNat
  nameLen : Form layout.nameLen layout.name.length
  fields : ∀ field ∈ layout.fields, field.WellFormed
  sentinel : Form layout.sentinel 0

/-- Every number of the section stands in its shortest form. -/
def Shortest : Prop :=
  (∀ field ∈ layout.fields, field.Shortest) ∧ layout.sentinel = putVarint 0

/-- The packet with only its section replaced by the overflows and the bucket that it tells. -/
def normalized (library : Library) : List UInt8 :=
  layout.head ++
    (library.encodeBlockInfo (overflowsOf false layout.fields) (bucketNumOf (-1) layout.fields) ++
      layout.columns)

end Layout

/-! ## Lengths -/

theorem length_putVarint (number : Nat) : (putVarint number).length = uvarintEncLen number := by
  induction number using uvarintEncLen.induct with
  | case1 number below =>
    rw [putVarint, uvarintEncLen, if_pos below, if_pos below, length_singleton]
  | case2 number wide inductionHypothesis =>
    rw [putVarint, uvarintEncLen, if_neg wide, if_neg wide, length_cons, inductionHypothesis]

theorem length_putInt32 (value : Int32) : (putInt32 value).length = 4 :=
  length_littleEndian 4 _

theorem length_buckets (buckets : List Int32) :
    (buckets.flatMap putInt32).length = 4 * buckets.length := by
  induction buckets with
  | nil => rfl
  | cons bucket rest inductionHypothesis =>
    rw [flatMap_cons, length_append, length_putInt32, inductionHypothesis, length_cons]
    omega

/-- A form is as long as the shortest one only if it is the shortest one. -/
theorem uvarintEncLen_of_form
    {bytes : List UInt8}
    {number : Nat}
    (form : Form bytes number) :
    uvarintEncLen number ≤ bytes.length ∧
      (bytes.length = uvarintEncLen number ↔ bytes = putVarint number) := by
  rw [← length_putVarint]
  exact WireReader.Form.long form

theorem InfoField.WellFormed.long
    {field : InfoField}
    (wellFormed : field.WellFormed) :
    field.shortestLength ≤ field.bytes.length ∧
      (field.bytes.length = field.shortestLength ↔ field.Shortest) := by
  cases field with
  | overflows id value =>
    have id := uvarintEncLen_of_form wellFormed
    simp only [shortestLength, bytes, Shortest, length_append, putBoolean, length_singleton, ← id.2]
    omega
  | bucketNum id value =>
    have id := uvarintEncLen_of_form wellFormed
    simp only [shortestLength, bytes, Shortest, length_append, length_putInt32, ← id.2]
    omega
  | outOfOrderBuckets id count buckets =>
    have id := uvarintEncLen_of_form wellFormed.1
    have count := uvarintEncLen_of_form wellFormed.2
    simp only [shortestLength, bytes, Shortest, length_append, length_buckets, ← id.2, ← count.2]
    omega

/-- Fields are as long as their shortest forms only if they have them. -/
theorem fields_long
    {fields : List InfoField}
    (wellFormed : ∀ field ∈ fields, field.WellFormed) :
    (fields.map InfoField.shortestLength).sum ≤ (fields.flatMap InfoField.bytes).length ∧
      ((fields.flatMap InfoField.bytes).length = (fields.map InfoField.shortestLength).sum ↔
        ∀ field ∈ fields, field.Shortest) := by
  induction fields with
  | nil => simp
  | cons field rest inductionHypothesis =>
    have here := (wellFormed field mem_cons_self).long
    have behind := inductionHypothesis fun other member =>
      wellFormed other (mem_cons_of_mem field member)
    rw [forall_mem_cons, ← here.2, ← behind.2, flatMap_cons, map_cons, sum_cons, length_append]
    omega

/-! ## What the readers make of a layout -/

variable {before after : Stream}

theorem input_of_reads_int32
    {field : String}
    {value : Int32}
    (read : Reads (within field int32) before value after) :
    before.input = putInt32 value ++ after.input := by
  obtain ⟨bytes, middle, taken, returned⟩ := reads_bind.mp (reads_within.mp read)
  obtain ⟨rfl, rfl⟩ := reads_pure.mp returned
  rw [(reads_raw taken).2]
  congr 1
  obtain ⟨bytes, width⟩ := bytes
  have small := ofLittleEndian_lt bytes
  rw [width] at small
  have back : (UInt32.ofNat (ofLittleEndian bytes)).toNat = ofLittleEndian bytes := by
    rw [UInt32.toNat_ofNat']
    omega
  simp only [putInt32, UInt32.toUInt32_toInt32, back]
  rw [← width]
  exact (littleEndian_ofLittleEndian bytes).symm

/-- Four bytes end where they end, whatever number they are. -/
theorem putInt32_cancel
    {left right : Int32}
    {leftRest rightRest : List UInt8}
    (same : putInt32 left ++ leftRest = putInt32 right ++ rightRest) :
    left = right ∧ leftRest = rightRest := by
  obtain ⟨bytes, rest⟩ := append_inj same (by simp only [length_putInt32])
  refine ⟨?_, rest⟩
  have numbers := congrArg ofLittleEndian bytes
  have leftBack : ofLittleEndian (putInt32 left) = left.toUInt32.toNat :=
    ofLittleEndian_of_lt left.toUInt32.toNat_lt
  have rightBack : ofLittleEndian (putInt32 right) = right.toUInt32.toNat :=
    ofLittleEndian_of_lt right.toUInt32.toNat_lt
  rw [leftBack, rightBack, UInt32.toNat_inj] at numbers
  rw [← Int32.toInt32_toUInt32 left, numbers, Int32.toInt32_toUInt32]

theorem input_of_reads_outOfOrderBuckets
    {index count : Nat}
    {buckets : List Int32}
    (read : Reads (outOfOrderBuckets index count) before buckets after) :
    buckets.length = count ∧ before.input = buckets.flatMap putInt32 ++ after.input := by
  induction count generalizing index buckets before with
  | zero =>
    obtain ⟨rfl, rfl⟩ := reads_pure.mp read
    exact ⟨rfl, rfl⟩
  | succ count inductionHypothesis =>
    obtain ⟨bucket, middle, first, read⟩ := reads_bind.mp read
    obtain ⟨rest, last, others, read⟩ := reads_bind.mp read
    obtain ⟨rfl, rfl⟩ := reads_pure.mp read
    obtain ⟨counted, input⟩ := inductionHypothesis others
    refine ⟨congrArg (· + 1) counted, ?_⟩
    rw [input_of_reads_int32 first, input, flatMap_cons, append_assoc]

/-- What the loop accepts is a section: fields and an end sentinel. -/
theorem fields_of_reads
    {rounds consumed total : Nat}
    {info found : BlockInfoCompat}
    (read : Reads (decodeBlockInfoCompat rounds info consumed) before (found, total) after) :
    ∃ (fields : List InfoField) (sentinel : List UInt8),
      (∀ field ∈ fields, field.WellFormed) ∧ Form sentinel 0 ∧
      before.input = fields.flatMap InfoField.bytes ++ sentinel ++ after.input := by
  induction rounds generalizing info consumed before with
  | zero => cases read
  | succ rounds inductionHypothesis =>
    obtain ⟨number, middle, readNumber, read⟩ := reads_bind.mp read
    obtain ⟨id, form, input, -⟩ := reads_uvarint (reads_within.mp readNumber)
    -- one more field in front of those that the rest of the loop reads
    have more : ∀ (field : InfoField) {later : Stream} {next : BlockInfoCompat} {claimed : Nat},
        field.WellFormed → before.input = field.bytes ++ later.input →
        Reads (decodeBlockInfoCompat rounds next claimed) later (found, total) after →
        ∃ (fields : List InfoField) (sentinel : List UInt8),
      (∀ field ∈ fields, field.WellFormed) ∧ Form sentinel 0 ∧
          before.input = fields.flatMap InfoField.bytes ++ sentinel ++ after.input := by
      intro field later next claimed wellFormed whole readRest
      obtain ⟨fields, sentinel, others, ends, rest⟩ := inductionHypothesis readRest
      refine ⟨field :: fields, sentinel, forall_mem_cons.mpr ⟨wellFormed, others⟩, ends, ?_⟩
      rw [whole, rest, flatMap_cons]
      simp only [append_assoc]
    dsimp only at read
    split at read
    · rename_i ends
      obtain ⟨-, rfl⟩ := reads_pure.mp read
      rw [ends] at form
      exact ⟨[], id, by simp, form, input⟩
    · rename_i one
      obtain ⟨overflows, later, readOverflows, read⟩ := reads_bind.mp read
      rw [one] at form
      refine more (.overflows id overflows) form ?_ read
      rw [input, (reads_boolean (reads_within.mp readOverflows)).2, InfoField.bytes,
        append_assoc]
    · rename_i two
      obtain ⟨bucketNum, later, readBucket, read⟩ := reads_bind.mp read
      rw [two] at form
      refine more (.bucketNum id bucketNum) form ?_ read
      rw [input, input_of_reads_int32 readBucket, InfoField.bytes, append_assoc]
    · rename_i three
      obtain ⟨count, counted, readCount, read⟩ := reads_bind.mp read
      obtain ⟨countBytes, countForm, countInput, -⟩ := reads_uvarint (reads_within.mp readCount)
      obtain ⟨buckets, later, readBuckets, read⟩ := reads_bind.mp read
      obtain ⟨length, bucketsInput⟩ := input_of_reads_outOfOrderBuckets readBuckets
      rw [three] at form
      rw [← length] at countForm
      refine more (.outOfOrderBuckets id countBytes buckets) ⟨form, countForm⟩ ?_ read
      rw [input, countInput, bucketsInput, InfoField.bytes]
      simp only [append_assoc]
    · cases read

theorem overflowsOf_cons
    (absent : Bool)
    (field : InfoField)
    (fields : List InfoField) :
    overflowsOf absent (field :: fields) = overflowsOf (field.overflows?.getD absent) fields := by
  cases field <;> simp [overflowsOf, InfoField.overflows?, getLast?_cons]

theorem bucketNumOf_cons
    (absent : Int32)
    (field : InfoField)
    (fields : List InfoField) :
    bucketNumOf absent (field :: fields) = bucketNumOf (field.bucketNum?.getD absent) fields := by
  cases field <;> simp [bucketNumOf, InfoField.bucketNum?, getLast?_cons]

/-- The loop over a section reads what its fields tell and adds up their shortest lengths. -/
theorem reads_section
    {fields : List InfoField}
    {sentinel columns : List UInt8}
    {rounds consumed total : Nat}
    {info found : BlockInfoCompat}
    {shortest : Bool}
    (wellFormed : ∀ field ∈ fields, field.WellFormed)
    (ends : Form sentinel 0)
    (read : Reads (decodeBlockInfoCompat rounds info consumed)
      ⟨fields.flatMap InfoField.bytes ++ sentinel ++ columns, shortest⟩ (found, total) after) :
    after.input = columns ∧ found.overflows = overflowsOf info.overflows fields ∧
      found.bucketNum = bucketNumOf info.bucketNum fields ∧
      total = consumed + (fields.map InfoField.shortestLength).sum + uvarintEncLen 0 := by
  induction fields generalizing rounds consumed info shortest with
  | nil =>
    cases rounds with
    | zero => cases read
    | succ rounds =>
      obtain ⟨number, middle, readNumber, read⟩ := reads_bind.mp read
      obtain ⟨isEnd, rest⟩ := ends.read (reads_within.mp readNumber)
      simp only [isEnd] at read
      obtain ⟨same, rfl⟩ := reads_pure.mp read
      cases same
      exact ⟨rest, rfl, rfl, rfl⟩
  | cons field fields inductionHypothesis =>
    cases rounds with
    | zero => cases read
    | succ rounds =>
      have own := wellFormed field mem_cons_self
      have others := fun other member => wellFormed other (mem_cons_of_mem field member)
      obtain ⟨number, ⟨input, known⟩, readNumber, read⟩ := reads_bind.mp read
      rw [reads_within] at readNumber
      rw [overflowsOf_cons, bucketNumOf_cons, map_cons, sum_cons]
      cases field with
      | overflows id value =>
        simp only [flatMap_cons, InfoField.bytes, append_assoc] at readNumber
        obtain ⟨isOne, rfl⟩ := Form.read own readNumber
        simp only [isOne] at read
        obtain ⟨overflows, later, readOverflows, read⟩ := reads_bind.mp read
        have bytes := (reads_boolean (reads_within.mp readOverflows)).2
        obtain ⟨rfl, rest⟩ := boolean_mirror.cancel bytes
        obtain ⟨later, laterKnown⟩ := later
        subst rest
        rw [← append_assoc] at read
        obtain ⟨behind, flag, bucket, sum⟩ := inductionHypothesis others read
        refine ⟨behind, flag, bucket, ?_⟩
        rw [sum, InfoField.shortestLength]
        omega
      | bucketNum id value =>
        simp only [flatMap_cons, InfoField.bytes, append_assoc] at readNumber
        obtain ⟨isTwo, rfl⟩ := Form.read own readNumber
        simp only [isTwo] at read
        obtain ⟨bucketNum, later, readBucket, read⟩ := reads_bind.mp read
        obtain ⟨rfl, rest⟩ := putInt32_cancel (input_of_reads_int32 readBucket)
        obtain ⟨later, laterKnown⟩ := later
        subst rest
        rw [← append_assoc] at read
        obtain ⟨behind, flag, bucket, sum⟩ := inductionHypothesis others read
        refine ⟨behind, flag, bucket, ?_⟩
        rw [sum, InfoField.shortestLength]
        omega
      | outOfOrderBuckets id count buckets =>
        simp only [flatMap_cons, InfoField.bytes, append_assoc] at readNumber
        obtain ⟨isThree, rfl⟩ := Form.read own.1 readNumber
        simp only [isThree] at read
        obtain ⟨counted, ⟨countInput, countKnown⟩, readCount, read⟩ := reads_bind.mp read
        obtain ⟨isCount, rfl⟩ := Form.read own.2 (reads_within.mp readCount)
        obtain ⟨others', later, readBuckets, read⟩ := reads_bind.mp read
        rw [isCount] at readBuckets read
        obtain ⟨length, bytes⟩ := input_of_reads_outOfOrderBuckets readBuckets
        obtain ⟨-, rest⟩ := append_inj bytes (by simp only [length_buckets, length])
        obtain ⟨later, laterKnown⟩ := later
        subst rest
        rw [← append_assoc] at read
        obtain ⟨behind, flag, bucket, sum⟩ := inductionHypothesis others read
        refine ⟨behind, flag, bucket, ?_⟩
        rw [sum, InfoField.shortestLength]
        omega

/-! ## The head of a packet -/

theorem reads_head
    {layout : Layout}
    {packet : List UInt8}
    (isOf : layout.Of packet)
    (read : Reads serverDataHead ⟨packet, true⟩ () after) :
    after.input = layout.info ++ layout.columns := by
  obtain ⟨code, ⟨coded, codeKnown⟩, readCode, read⟩ := reads_bind.mp read
  simp only [isOf.bytes, Layout.head, append_assoc] at readCode
  obtain ⟨-, rfl⟩ := isOf.code.read (reads_within.mp readCode)
  dsimp only at read
  split at read
  · cases read
  obtain ⟨nameLen, ⟨named, nameKnown⟩, readName, read⟩ := reads_bind.mp read
  obtain ⟨isLength, rfl⟩ := isOf.nameLen.read (reads_within.mp readName)
  simp only [Reads, StateT.run] at read
  split at read
  · cases read
  · cases read
    rw [isLength]
    exact drop_left

/-- What the rewrite accepts as a head is one. -/
theorem head_of_reads
    (read : Reads serverDataHead before () after) :
    ∃ code nameLen name, Form code serverCodeData.toNat ∧ Form nameLen name.length ∧
      before.input = code ++ (nameLen ++ (name ++ after.input)) := by
  obtain ⟨number, coded, readCode, read⟩ := reads_bind.mp read
  obtain ⟨code, codeForm, codeInput, -⟩ := reads_uvarint (reads_within.mp readCode)
  dsimp only at read
  split at read
  · cases read
  rename_i isData
  rw [not_not.mp isData] at codeForm
  obtain ⟨length, named, readName, read⟩ := reads_bind.mp read
  obtain ⟨nameLen, nameForm, nameInput, -⟩ := reads_uvarint (reads_within.mp readName)
  simp only [Reads, StateT.run] at read
  split at read
  · cases read
  · rename_i enough
    cases read
    have long : (named.input.take length.toNat).length = length.toNat :=
      length_take_of_le (not_lt.mp enough)
    refine ⟨code, nameLen, named.input.take length.toNat, codeForm, ?_, ?_⟩
    · rw [long]
      exact nameForm
    · rw [take_append_drop, codeInput, nameInput]

/-! ## Exactness -/

/--
An accepted packet has a layout, and it comes out with only its section
replaced if and only if every number of the section stands in its shortest form.
-/
theorem normalized_exact_iff
    {library : Library}
    {revision : Int}
    {rounds : Nat}
    {packet output : List UInt8}
    (carried : library.featureBlockInfo ≤ revision)
    (accepted : normalizeServerDataBlockInfo library rounds packet revision = .ok output) :
    (∃ layout : Layout, layout.Of packet) ∧
      ∀ layout : Layout, layout.Of packet →
        (output = layout.normalized library ↔ layout.Shortest) := by
  simp only [normalizeServerDataBlockInfo, if_neg (not_lt.mpr carried)] at accepted
  split_ifs at accepted
  · cases accepted
  obtain ⟨⟨_, behind⟩, named, accepted⟩ := bind_eq_ok_iff.mp accepted
  obtain ⟨⟨⟨info, consumed⟩, columns⟩, decoded, accepted⟩ := bind_eq_ok_iff.mp accepted
  have read := reads_within.mp decoded
  constructor
  · obtain ⟨code, nameLen, name, codeForm, nameForm, head⟩ := head_of_reads named
    obtain ⟨fields, sentinel, wellFormed, ends, shape⟩ := fields_of_reads read
    refine ⟨⟨code, nameLen, name, fields, sentinel, columns.input⟩, ?_, codeForm, nameForm,
      wellFormed, ends⟩
    simp only [Layout.head, Layout.info, append_assoc] at head shape ⊢
    rw [head, shape]
  intro layout isOf
  have inside := reads_head isOf named
  rw [inside, Layout.info] at read
  obtain ⟨rest, overflows, bucketNum, total⟩ := reads_section isOf.fields isOf.sentinel read
  have fields := fields_long isOf.fields
  have sentinel := uvarintEncLen_of_form isOf.sentinel
  have start : packet.length - behind.input.length = layout.head.length := by
    rw [inside, isOf.bytes, length_append, Nat.add_sub_cancel]
  have short : consumed ≤ layout.info.length := by
    rw [Layout.info, length_append]
    omega
  -- what is left of the section stands in front of the columns
  have cut : packet.drop (layout.head.length + consumed) =
      layout.info.drop consumed ++ layout.columns := by
    rw [isOf.bytes, ← drop_drop, drop_left, drop_append_of_le_length short]
  have front : packet.take layout.head.length = layout.head := by
    rw [isOf.bytes, take_left]
  cases accepted
  rw [Layout.normalized, start, front, cut, overflows, bucketNum, append_assoc,
    append_cancel_left_eq]
  rw [BlockInfoCompat.initial, append_cancel_left_eq, append_left_eq_self, drop_eq_nil_iff,
    Layout.Shortest, ← fields.2, ← sentinel.2, Layout.info, length_append]
  omega

/-- The two ordinary fields and the sentinel, each number in its shortest form. -/
def shortSection (overflows : Bool) (bucketNum : Int32) : List UInt8 :=
  putVarint 1 ++ putBoolean overflows ++ putVarint 2 ++ putInt32 bucketNum ++ putVarint 0

/-- A section with all three fields: the third one goes, the two others are kept. -/
theorem normalized_exact_fields :
    (∃ layout : Layout,
      layout.Of [1, 1, 116, 1, 1, 3, 1, 9, 0, 0, 0, 2, 5, 0, 0, 0, 0, 7]) ∧
      ∀ layout : Layout,
        layout.Of [1, 1, 116, 1, 1, 3, 1, 9, 0, 0, 0, 2, 5, 0, 0, 0, 0, 7] →
        ([1, 1, 116, 1, 1, 2, 5, 0, 0, 0, 0, 7] = layout.normalized ⟨51903, shortSection⟩ ↔
          layout.Shortest) :=
  @normalized_exact_iff ⟨51903, shortSection⟩ 54470 9 _ _ (by decide) (by decide +kernel)

/-- A sentinel of two bytes: the second stays in front of the columns. -/
theorem normalized_long_sentinel :
    normalizeServerDataBlockInfo ⟨51903, shortSection⟩ 1 [1, 0, 0x80, 0, 7] 54470 =
        .ok [1, 0, 1, 0, 2, 255, 255, 255, 255, 0, 0, 7] ∧
      Layout.Of ⟨[1], [0], [], [], [0x80, 0], [7]⟩ [1, 0, 0x80, 0, 7] ∧
      Layout.normalized ⟨[1], [0], [], [], [0x80, 0], [7]⟩ ⟨51903, shortSection⟩ =
        [1, 0, 1, 0, 2, 255, 255, 255, 255, 0, 7] := by
  refine ⟨by decide +kernel, ⟨rfl, rfl, rfl, by simp, rfl⟩, by decide +kernel⟩

end HouseGate.ServerData
