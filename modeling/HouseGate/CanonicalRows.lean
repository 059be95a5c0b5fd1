import HouseGate.PayloadExecutor
import HouseGate.RunMerge
import HouseGate.LittleEndian

namespace HouseGate.SnapshotOutput

open CheckedSteps DecimalText AsciiText LtHash LittleEndian Replay Utf8Text List

/-!
# Canonical rows of a snapshot query

Every declared column type resolves to a profile that fixes the values a column
can hold.  A row is measured before anything of it is copied, its values are
normalized to one representation, and the normalized row is written twice: as
the canonical key that rows are ordered and hashed by, and as a typed record
from which the values are read back.  The tables of time zones and the
rendering of floats and times are parameters.
-/

section Profiles

/-- Bytes of an integer column. -/
inductive IntWidth where
  | one
  | two
  | four
  | eight
  deriving DecidableEq

def IntWidth.bytes : IntWidth → Nat
  | .one => 1
  | .two => 2
  | .four => 4
  | .eight => 8

/-- The admitted column types, each with the data that it declares. -/
inductive ColumnProfile where
  | string
  | fixedString (width : Nat)
  | bool
  | float32
  | float64
  | uint (width : IntWidth)
  | int (width : IntWidth)
  | date
  | dateTime
  | dateTime64 (precision : Fin 10)

def scalarColumnProfiles : List (Bytes × ColumnProfile) :=
  [(ascii "String", .string), (ascii "Bool", .bool),
    (ascii "Float32", .float32), (ascii "Float64", .float64),
    (ascii "UInt8", .uint .one), (ascii "UInt16", .uint .two),
    (ascii "UInt32", .uint .four), (ascii "UInt64", .uint .eight),
    (ascii "Int8", .int .one), (ascii "Int16", .int .two),
    (ascii "Int32", .int .four), (ascii "Int64", .int .eight),
    (ascii "Date", .date), (ascii "DateTime", .dateTime)]

/-- `strconv.ParseInt` in base ten, 64 bits wide. -/
def parseInt : Bytes → Option Int
  | [] => none
  | sign :: rest =>
    if sign = 45 then
      match rest, digitsValue? 0 rest with
      | _ :: _, some value =>
        if value ≤ 2 ^ 63 then some (-value) else none
      | _, _ => none
    else
      let digits := if sign = 43 then rest else sign :: rest
      match digits, digitsValue? 0 digits with
      | _ :: _, some value =>
        if value < 2 ^ 63 then some value else none
      | _, _ => none

/-- What stands between an opening of a type and its closing bracket. -/
def typeArgument? (opening typeName : Bytes) : Option Bytes :=
  if opening.isPrefixOf typeName ∧ typeName.getLast? = some 41 then
    some ((typeName.drop opening.length).dropLast)
  else
    none

def fixedStringAdmittedWidths : List Int := [32]

def resolveFixedStringProfile (typeName : Bytes) : Option ColumnProfile := do
  let argument ← typeArgument? (ascii "FixedString(") typeName
  let width ← parseInt (trimUnicodeSpace argument)
  if width ≤ 0 then
    none
  else if width ∈ fixedStringAdmittedWidths then
    some (.fixedString width.toNat)
  else
    none

variable (loadLocation : Bytes → Bool)

/-- A single-quoted name of a time zone that can be loaded. -/
def isQuotedTimezone (raw : Bytes) : Bool :=
  let text := trimUnicodeSpace raw
  let name := (text.drop 1).dropLast
  decide (3 ≤ text.length) && text.head? == some 39 &&
    text.getLast? == some 39 && !name.contains 39 && !name.contains 92 &&
    loadLocation name

def resolveDateTimeProfile (typeName : Bytes) : Option ColumnProfile := do
  let argument ← typeArgument? (ascii "DateTime(") typeName
  if isQuotedTimezone loadLocation argument then some .dateTime else none

def resolveDateTime64Profile (typeName : Bytes) : Option ColumnProfile := do
  let inner ← typeArgument? (ascii "DateTime64(") typeName
  let precisionText := inner.takeWhile (· != 44)
  let precision ← parseInt (trimUnicodeSpace precisionText)
  -- a comma after the precision announces a time zone
  if inner.contains 44 ∧ isQuotedTimezone loadLocation
      (inner.drop (precisionText.length + 1)) = false then
    none
  else if 0 ≤ precision then
    if small : precision.toNat < 10 then some (.dateTime64 ⟨precision.toNat, small⟩) else none
  else
    none

def resolveColumnProfile (typeName : Bytes) : Option ColumnProfile :=
  (scalarColumnProfiles.lookup typeName).or ((resolveFixedStringProfile typeName).or
      ((resolveDateTimeProfile loadLocation typeName).or
        (resolveDateTime64Profile loadLocation typeName)))

end Profiles

section Values

/-- An instant, as its seconds and the nanoseconds within the second. -/
structure Instant where
  unix : Int64
  nanosecond : Fin 1000000000
  deriving DecidableEq

/-- The Go values of a row; floats are kept as their bits. -/
inductive Value where
  | string (text : Bytes)
  | bytes (text : Bytes)
  | bool (flag : Bool)
  | float32 (bits : UInt32)
  | float64 (bits : UInt64)
  | uint (width : IntWidth) (value : BitVec (8 * width.bytes))
  | int (width : IntWidth) (value : BitVec (8 * width.bytes))
  | time (instant : Instant)
  deriving DecidableEq

/-- The value has the Go type of the profile, and its fixed width. -/
def ColumnProfile.fits : ColumnProfile → Value → Bool
  | .string, .string _ => true
  | .fixedString width, .bytes text => text.length == width
  | .bool, .bool _ => true
  | .float32, .float32 _ => true
  | .float64, .float64 _ => true
  | .uint width, .uint valueWidth _ => width == valueWidth
  | .int width, .int valueWidth _ => width == valueWidth
  | .date, .time _ | .dateTime, .time _ | .dateTime64 _, .time _ => true
  | _, _ => false

/-- The bytes of a value in the key. -/
def Value.keyBytes : Value → Nat
  | .string text | .bytes text => text.length
  | .bool _ => 1
  | .float32 _ => 4
  | .float64 _ => 8
  | .uint width _ | .int width _ => width.bytes
  | .time _ => 8

/-- The bytes of a value in a typed record; a time takes two words. -/
def Value.typedBytes : Value → Nat
  | .time _ => 16
  | value => value.keyBytes

end Values

section Counters

def checkedAdd (left right : Nat) : Option Nat :=
  if left + right < uint64Size then some (left + right) else none

def checkedMul (left right : Nat) : Option Nat :=
  if left * right < uint64Size then some (left * right) else none

def fitInt (size : Nat) : Option Unit :=
  if size < 2 ^ 63 then some () else none

def maxUint32 : Nat := 2 ^ 32 - 1

/-- The sizes of a row's key and values, and a bound for its partition. -/
structure RowLayout where
  keySize : Nat
  typedSize : Nat
  partitionBound : Nat

end Counters

section Layout

variable (loadLocation : Bytes → Bool) (schema : TableSchema)

def layoutCell (layout : RowLayout) (cell : Column × Value) : Option RowLayout := do
  let (column, value) := cell
  let profile ← resolveColumnProfile loadLocation column.type
  if profile.fits value = false then
    none
  else if maxUint32 ≤ value.keyBytes ∨ maxUint32 < column.name.length ∨
      maxUint32 < column.type.length then
    none
  else do
    let keySize ←
      checkedAdd layout.keySize (13 + column.name.length + column.type.length + value.keyBytes)
    let typedSize ← checkedAdd layout.typedSize (8 + value.typedBytes)
    let partitionBound ←
      if column.name = schema.partitionBy then
        checkedAdd layout.partitionBound value.typedBytes
      else
        some layout.partitionBound
    return { keySize, typedSize, partitionBound }

/-- The sizes of a row; nothing is copied or encoded yet. -/
def rowLayout (values : List Value) : Option RowLayout := do
  if maxUint32 < schema.tableID.length ∨
      maxUint32 < schema.columns.length ∨ values.length ≠ schema.columns.length then
    none
  else do
    let layout ← (schema.columns.zip values).foldlM (layoutCell loadLocation schema)
        { keySize := 4 + 20 + 4 + schema.tableID.length + 4
          typedSize := 0
          partitionBound := 64 }
    fitInt layout.keySize
    fitInt layout.typedSize
    return layout

end Layout

section Normalization

def isNaN32 (bits : UInt32) : Bool :=
  decide (0x7f800000 < bits.toNat % 0x80000000)

def isNaN64 (bits : UInt64) : Bool :=
  decide (0x7ff0000000000000 < bits.toNat % 0x8000000000000000)

/-- One pattern for every NaN and one for both zeros. -/
def canonicalFloat32Bits (bits : UInt32) : UInt32 :=
  if isNaN32 bits then 0x7fc00000
  else if bits.toNat % 0x80000000 = 0 then 0
  else bits

def canonicalFloat64Bits (bits : UInt64) : UInt64 :=
  if isNaN64 bits then 0x7ff8000000000000
  else if bits.toNat % 0x8000000000000000 = 0 then 0
  else bits

variable (instant : Instant)

/-- `UnixNano`, which wraps around. -/
def Instant.unixNano : Int64 :=
  instant.unix * 1000000000 + Int64.ofNat instant.nanosecond

/-- `time.Unix(0, nanoseconds)`. -/
def Instant.ofNano (nanoseconds : Int64) : Instant :=
  { unix := Int64.ofInt (nanoseconds.toInt / 1000000000)
    nanosecond := ⟨(nanoseconds.toInt % 1000000000).toNat, by omega⟩ }

/-- Whole days, rounded towards the epoch. -/
def Instant.dayStart : Instant :=
  { unix := instant.unix / 86400 * 86400, nanosecond := 0 }

def Instant.secondStart : Instant := { instant with nanosecond := 0 }

def Instant.truncated (precision : Fin 10) (instant : Instant) : Instant :=
  let unit := 10 ^ (9 - precision.val)
  { instant with
    nanosecond := ⟨instant.nanosecond.val / unit * unit,
        Nat.lt_of_le_of_lt (Nat.div_mul_le_self _ _) instant.nanosecond.isLt⟩ }

def normalizeTime : ColumnProfile → Instant → Option Instant
  | .date, instant => some instant.dayStart
  | .dateTime, instant => some instant.secondStart
  | .dateTime64 precision, instant =>
    if Instant.ofNano instant.unixNano ≠ instant then
      none
    else
      let shortened := instant.truncated precision
      if Instant.ofNano shortened.unixNano ≠ shortened then none else some shortened
  | _, instant => some instant

def normalizeValue (profile : ColumnProfile) : Value → Option Value
  | .float32 bits => some (.float32 (canonicalFloat32Bits bits))
  | .float64 bits => some (.float64 (canonicalFloat64Bits bits))
  | .time instant => (normalizeTime profile instant).map .time
  | value => some value

variable (loadLocation : Bytes → Bool) (schema : TableSchema)

def normalizeCell (cell : Column × Value) : Option Value := do
  let profile ← resolveColumnProfile loadLocation cell.1.type
  normalizeValue profile cell.2

def normalizeRow (values : List Value) : Option (List Value) := do
  let _ ← rowLayout loadLocation schema values
  (schema.columns.zip values).mapM (normalizeCell loadLocation)

end Normalization

section TypedRecords

def Value.typedContent : Value → Bytes
  | .string text | .bytes text => text
  | .bool flag => [if flag then 1 else 0]
  | .float32 bits => littleEndian 4 bits.toNat
  | .float64 bits => littleEndian 8 bits.toNat
  | .uint width value | .int width value => littleEndian width.bytes value.toNat
  | .time instant => littleEndian 8 instant.unix.toUInt64.toNat ++ littleEndian 8 instant.nanosecond

def encodeTyped (values : List Value) : Bytes :=
  values.flatMap fun value => littleEndian 8 value.typedContent.length ++ value.typedContent

def decodeInstant (content : Bytes) : Option Value :=
  let nanosecond := ofLittleEndian (content.drop 8)
  if content.length ≠ 16 then
    none
  else if small : nanosecond < 1000000000 then
    some (.time {
      unix := (UInt64.ofNat (ofLittleEndian (content.take 8))).toInt64
      nanosecond := ⟨nanosecond, small⟩ })
  else
    none

/-- One field of a typed record, by the profile of its column. -/
def decodeValue (content : Bytes) : ColumnProfile → Option Value
  | .string => some (.string content)
  | .fixedString width =>
    if content.length = width then some (.bytes content) else none
  | .bool =>
    match content with
    | [byte] =>
      if byte.toNat ≤ 1 then some (.bool (byte == 1)) else none
    | _ => none
  | .float32 =>
    if content.length = 4 then some (.float32 (UInt32.ofNat (ofLittleEndian content))) else none
  | .float64 =>
    if content.length = 8 then some (.float64 (UInt64.ofNat (ofLittleEndian content))) else none
  | .uint width =>
    if content.length = width.bytes then
      some (.uint width (BitVec.ofNat _ (ofLittleEndian content)))
    else
      none
  | .int width =>
    if content.length = width.bytes then
      some (.int width (BitVec.ofNat _ (ofLittleEndian content)))
    else
      none
  | .date | .dateTime | .dateTime64 _ => decodeInstant content

variable (loadLocation : Bytes → Bool)

def decodeColumns : List Column → Bytes → Option (List Value)
  | [], data =>
    if data = [] then some [] else none
  | column :: columns, data => do
      let size := ofLittleEndian (data.take 8)
      let body := data.drop 8
      if data.length < 8 ∨ body.length < size then
        none
      else do
        let profile ← resolveColumnProfile loadLocation column.type
        let value ← decodeValue (body.take size) profile
        let values ← decodeColumns columns (body.drop size)
        return value :: values

def decodeTyped (schema : TableSchema) (data : Bytes) : Option (List Value) :=
  decodeColumns loadLocation schema.columns data

end TypedRecords

variable {profile : ColumnProfile} {value : Value} {cell : Column × Value} {columns : List Column}

section ReadBack

theorem decodeInstant_typedContent (instant : Instant) :
    decodeInstant (Value.time instant).typedContent = some (.time instant) := by
  have secondsBack :
      ofLittleEndian (littleEndian 8 instant.unix.toUInt64.toNat) = instant.unix.toUInt64.toNat :=
    ofLittleEndian_of_lt instant.unix.toUInt64.toNat_lt
  have nanosecondsBack :
      ofLittleEndian (littleEndian 8 instant.nanosecond) = instant.nanosecond := by
    apply ofLittleEndian_of_lt
    omega
  have first :
      (Value.time instant).typedContent.take 8 = littleEndian 8 instant.unix.toUInt64.toNat :=
    take_left' (length_littleEndian 8 _)
  have second : (Value.time instant).typedContent.drop 8 = littleEndian 8 instant.nanosecond :=
    drop_left' (length_littleEndian 8 _)
  have wide : (Value.time instant).typedContent.length = 16 := by
    simp [Value.typedContent]
  simp [decodeInstant, wide, first, second, nanosecondsBack, secondsBack]

/-- A value that fits its column is read back from its typed field. -/
theorem decodeValue_typedContent (fits : profile.fits value = true) :
    decodeValue value.typedContent profile = some value := by
  have scalar {width : IntWidth} (number : BitVec (8 * width.bytes)) :
      BitVec.ofNat (8 * width.bytes) (ofLittleEndian (littleEndian width.bytes number.toNat)) =
        number := by
    rw [ofLittleEndian_of_lt, BitVec.ofNat_toNat, BitVec.setWidth_eq]
    have small := number.isLt
    rwa [pow_mul] at small
  cases value with
  | string text | bytes text =>
    cases profile <;> simp_all [ColumnProfile.fits, decodeValue, Value.typedContent]
  | bool flag =>
    cases flag <;> cases profile <;>
      simp_all [ColumnProfile.fits, decodeValue, Value.typedContent]
  | float32 bits =>
    have back := ofLittleEndian_of_lt (show bits.toNat < 256 ^ 4 from bits.toNat_lt)
    cases profile <;> simp_all [ColumnProfile.fits, decodeValue, Value.typedContent]
  | float64 bits =>
    have back := ofLittleEndian_of_lt (show bits.toNat < 256 ^ 8 from bits.toNat_lt)
    cases profile <;> simp_all [ColumnProfile.fits, decodeValue, Value.typedContent]
  | uint width number =>
    cases profile with
    | uint declared =>
      obtain rfl : declared = width := by
        simpa [ColumnProfile.fits] using fits
      simp [decodeValue, Value.typedContent, scalar]
    | _ => simp [ColumnProfile.fits] at fits
  | int width number =>
    cases profile with
    | int declared =>
      obtain rfl : declared = width := by
        simpa [ColumnProfile.fits] using fits
      simp [decodeValue, Value.typedContent, scalar]
    | _ => simp [ColumnProfile.fits] at fits
  | time instant =>
    have back := decodeInstant_typedContent instant
    cases profile <;> simp_all [ColumnProfile.fits, decodeValue]

theorem length_typedContent (value : Value) : value.typedContent.length = value.typedBytes := by
  cases value <;>
    simp [Value.typedContent, Value.typedBytes, Value.keyBytes]

/-- A value that a column takes and whose length can be framed. -/
structure CellFits (loadLocation : Bytes → Bool) (cell : Column × Value) : Prop where
  profile : ∃ profile,
      resolveColumnProfile loadLocation cell.1.type = some profile ∧ profile.fits cell.2 = true
  framed : cell.2.keyBytes < maxUint32

variable {loadLocation : Bytes → Bool} {schema : TableSchema} {values normal : List Value}

theorem CellFits.typed_lt (fits : CellFits loadLocation cell) :
    cell.2.typedContent.length < 256 ^ 8 := by
  rw [length_typedContent]
  have framed := fits.framed
  unfold maxUint32 at framed
  cases shape : cell.2 with
  | time instant => simp [Value.typedBytes]
  | _ =>
    rw [shape] at framed
    simp only [Value.typedBytes]
    omega

theorem decodeColumns_encodeTyped
    {values : List Value} (sameLength : values.length = columns.length)
    (fits : ∀ cell ∈ columns.zip values, CellFits loadLocation cell) :
    decodeColumns loadLocation columns (encodeTyped values) = some values := by
  induction columns generalizing values with
  | nil =>
    obtain rfl : values = [] := eq_nil_of_length_eq_zero sameLength
    rfl
  | cons column columns inductionHypothesis =>
    cases values with
    | nil => cases sameLength
    | cons value values =>
      have cellFits := fits (column, value) (by simp)
      obtain ⟨profile, resolved, profileFits⟩ := cellFits.profile
      have rest :=
        inductionHypothesis (Nat.succ.inj sameLength)
          (fun cell member => fits cell (by simp [member]))
      have sizeBack := ofLittleEndian_of_lt cellFits.typed_lt
      have shape : encodeTyped (value :: values) = littleEndian 8 value.typedContent.length ++
          (value.typedContent ++ encodeTyped values) := by
        simp [encodeTyped]
      have header :
          (encodeTyped (value :: values)).take 8 = littleEndian 8 value.typedContent.length := by
        exact take_left' (length_littleEndian 8 _)
      have body :
          (encodeTyped (value :: values)).drop 8 = value.typedContent ++ encodeTyped values := by
        exact drop_left' (length_littleEndian 8 _)
      have wide : ¬ (encodeTyped (value :: values)).length < 8 := by
        rw [shape, length_append, length_littleEndian]
        omega
      simp only [decodeColumns, header, body, sizeBack, wide, length_append, false_or]
      simp [resolved, decodeValue_typedContent profileFits, rest]

theorem layoutCell_fits
    {before after : RowLayout} (laidOut : layoutCell loadLocation schema before cell = some after) :
    CellFits loadLocation cell := by
  obtain ⟨column, value⟩ := cell
  simp only [layoutCell, bind_eq_some_iff] at laidOut
  obtain ⟨profile, resolved, rest⟩ := laidOut
  by_cases misfit : profile.fits value = false
  · rw [if_pos misfit] at rest
    cases rest
  rw [if_neg misfit] at rest
  by_cases oversized :
      maxUint32 ≤ value.keyBytes ∨ maxUint32 < column.name.length ∨ maxUint32 < column.type.length
  · rw [if_pos oversized] at rest
    cases rest
  exact ⟨⟨profile, resolved, Bool.eq_true_of_not_eq_false misfit⟩,
    not_le.mp (not_or.mp oversized).1⟩

/-- A fold that succeeds took a step at every element. -/
theorem exists_step_of_foldlM
    {step : σ → α → Option σ}
    {items : List α}
    {start final : σ}
    (folded : items.foldlM step start = some final)
    {item : α}
    (member : item ∈ items) :
    ∃ before after, step before item = some after := by
  induction items generalizing start with
  | nil => cases member
  | cons first rest inductionHypothesis =>
    rw [foldlM_cons, Option.bind_eq_bind, Option.bind_eq_some_iff] at folded
    obtain ⟨next, stepped, folded⟩ := folded
    rcases mem_cons.mp member with rfl | later
    · exact ⟨start, next, stepped⟩
    · exact inductionHypothesis folded later

/-- The row has a value that fits for every column. -/
structure RowFits
    (loadLocation : Bytes → Bool)
    (schema : TableSchema)
    (values : List Value) :
    Prop where
  sameLength : values.length = schema.columns.length
  cells : ∀ cell ∈ schema.columns.zip values, CellFits loadLocation cell

theorem rowFits_of_rowLayout {values : List Value} {layout : RowLayout}
    (laidOut : rowLayout loadLocation schema values = some layout) :
    RowFits loadLocation schema values := by
  unfold rowLayout at laidOut
  split_ifs at laidOut with oversized
  simp only [not_or, not_not] at oversized
  simp only [bind_eq_some_iff] at laidOut
  obtain ⟨result, folded, -⟩ := laidOut
  refine ⟨oversized.2.2, ?_⟩
  intro cell member
  obtain ⟨before, after, stepped⟩ := exists_step_of_foldlM folded member
  exact layoutCell_fits stepped

theorem normalizeValue_keeps
    {normal : Value} (normalized : normalizeValue profile value = some normal) :
    profile.fits normal = profile.fits value ∧ normal.keyBytes = value.keyBytes := by
  cases value with
  | time instant =>
    simp only [normalizeValue, Option.map_eq_some_iff] at normalized
    obtain ⟨shifted, -, rfl⟩ := normalized
    cases profile <;> exact ⟨rfl, rfl⟩
  | _ =>
    simp only [normalizeValue, Option.some.injEq] at normalized
    subst normalized
    cases profile <;> exact ⟨rfl, rfl⟩

theorem CellFits.normalized
    {column : Column}
    {normal : Value}
    (fits : CellFits loadLocation (column, value))
    (normalized : normalizeCell loadLocation (column, value) = some normal) :
    CellFits loadLocation (column, normal) := by
  obtain ⟨⟨profile, resolved, profileFits⟩, framed⟩ := fits
  rw [normalizeCell, Option.bind_eq_bind, Option.bind_eq_some_iff] at normalized
  obtain ⟨same, sameResolved, normalized⟩ := normalized
  obtain rfl : profile = same := Option.some.inj (resolved.symm.trans sameResolved)
  obtain ⟨keptFits, keptBytes⟩ := normalizeValue_keeps normalized
  exact ⟨⟨profile, resolved, keptFits.trans profileFits⟩, keptBytes.trans_lt framed⟩

theorem normalizedCells_fit (sameLength : values.length = columns.length)
    (fits : ∀ cell ∈ columns.zip values, CellFits loadLocation cell)
    (normalized : (columns.zip values).mapM (normalizeCell loadLocation) = some normal) :
    normal.length = columns.length ∧ ∀ cell ∈ columns.zip normal, CellFits loadLocation cell := by
  induction columns generalizing values normal with
  | nil =>
    simp only [zip_nil_left, mapM_nil, Option.pure_def, Option.some.injEq] at normalized
    subst normalized
    exact ⟨rfl, fun cell member => by cases member⟩
  | cons column columns inductionHypothesis =>
    cases values with
    | nil => cases sameLength
    | cons value values =>
      simp only [zip_cons_cons, mapM_cons, bind_eq_some_iff,
        pure_eq_some_iff]
        at normalized
      obtain ⟨first, firstNormal, rest, restNormal, rfl⟩ := normalized
      have firstFits := (fits (column, value) (by simp)).normalized firstNormal
      obtain ⟨restLength, restFits⟩ :=
        inductionHypothesis (Nat.succ.inj sameLength)
          (fun cell member => fits cell (by simp [member])) restNormal
      refine ⟨by simp [restLength], ?_⟩
      intro cell member
      rcases mem_cons.mp member with rfl | later
      · exact firstFits
      · exact restFits cell later

variable (normalized : normalizeRow loadLocation schema values = some normal)

include normalized

theorem rowFits_of_normalizeRow : RowFits loadLocation schema normal := by
  rw [normalizeRow, Option.bind_eq_bind, Option.bind_eq_some_iff] at normalized
  obtain ⟨layout, laidOut, normalized⟩ := normalized
  have fits := rowFits_of_rowLayout laidOut
  obtain ⟨sameLength, cells⟩ := normalizedCells_fit fits.sameLength fits.cells normalized
  exact ⟨sameLength, cells⟩

/-- A normalized row is read back from its typed record. -/
theorem decodeTyped_encodeTyped :
    decodeTyped loadLocation schema (encodeTyped normal) = some normal := by
  have fits := rowFits_of_normalizeRow normalized
  exact decodeColumns_encodeTyped fits.sameLength fits.cells

end ReadBack

section Keys

def kindInt : UInt8 := 1

def kindUint : UInt8 := 2

def kindFloat : UInt8 := 3

def kindString : UInt8 := 4

def kindBool : UInt8 := 5

def kindTime : UInt8 := 6

def encodeTime (column : Column) (instant : Instant) : Bytes :=
  let payload : Int64 :=
    if (ascii "DateTime64").isPrefixOf column.type then instant.unixNano
    else if (ascii "Date").isPrefixOf column.type then
      if (ascii "DateTime").isPrefixOf column.type then instant.unix
      else instant.unix / 86400
    else instant.unix
  kindTime :: littleEndian 8 payload.toUInt64.toNat

def encodeValue (column : Column) : Value → Option Bytes
  | .int width value => some (kindInt :: littleEndian width.bytes value.toNat)
  | .uint width value => some (kindUint :: littleEndian width.bytes value.toNat)
  | .float32 bits => some (kindFloat :: littleEndian 4 (canonicalFloat32Bits bits).toNat)
  | .float64 bits => some (kindFloat :: littleEndian 8 (canonicalFloat64Bits bits).toNat)
  | .string text | .bytes text => some (kindString :: text)
  | .bool flag => some [kindBool, if flag then 1 else 0]
  | .time instant => some (encodeTime column instant)

/-- The key that rows are ordered by. -/
def rowKey (schema : TableSchema) (values : List Value) : Option Bytes :=
  encodeRow encodeValue schema.tableID schema.columns values

end Keys

section Partitions

/-- `FormatFloat` and `Format`, whose layouts are given as text. -/
structure Renderers where
  float32 : UInt32 → Bytes
  float64 : UInt64 → Bytes
  time : Bytes → Instant → Bytes

variable (loadLocation : Bytes → Bool) (renderers : Renderers)

def formatInt (number : Int) : Bytes :=
  if number < 0 then 45 :: formatUint number.natAbs
  else formatUint number.natAbs

def dateLayout : Bytes := ascii "2006-01-02"

def dateTimeLayout : Bytes := ascii "2006-01-02 15:04:05"

def temporalPartitionValueString (profile : ColumnProfile) (instant : Instant) : Bytes :=
  match profile with
  | .date => renderers.time dateLayout instant
  | .dateTime64 precision =>
    if 0 < precision.val then
      renderers.time (dateTimeLayout ++ ascii "." ++ replicate precision.val 48) instant
    else
      renderers.time dateTimeLayout instant
  | _ => renderers.time dateTimeLayout instant

def ColumnProfile.isTemporal : ColumnProfile → Bool
  | .date | .dateTime | .dateTime64 _ => true
  | _ => false

def partitionValueString (profile : ColumnProfile) (value : Value) : Option Bytes :=
  match profile.isTemporal, value with
  | true, .time instant => some (temporalPartitionValueString renderers profile instant)
  | true, _ => none
  | false, .string text | false, .bytes text => some text
  | false, .bool flag => some (if flag then ascii "true" else ascii "false")
  | false, .uint _ number => some (formatUint number.toNat)
  | false, .int _ number => some (formatInt number.toInt)
  | false, .float32 bits =>
    some (if bits.toNat % 0x80000000 = 0 then ascii "0"
      else renderers.float32 bits)
  | false, .float64 bits =>
    some (if bits.toNat % 0x8000000000000000 = 0 then ascii "0"
      else renderers.float64 bits)
  | false, .time _ => none

def partitionIDForRow (schema : TableSchema) (values : List Value) : Option Bytes :=
  if values.length ≠ schema.columns.length then
    none
  else if schema.partitionBy = [] then
    some (ascii "all")
  else
    match (schema.columns.zip values).find? (fun cell => cell.1.name == schema.partitionBy) with
    | none => none
    | some (column, value) => do
        let profile ← resolveColumnProfile loadLocation column.type
        let raw ← partitionValueString renderers profile value
        return ascii "p_" ++ raw

end Partitions

end HouseGate.SnapshotOutput
