import HouseGate.LittleEndian

namespace HouseGate.WireReader

open LittleEndian List UInt64 Nat

/-!
# Reading values off a byte stream

A reader takes a value off the front of a stream or fails; numbers of variable
length are seven bits a byte, low bits first.  `Segment` pairs a reader with the
writer of its values: what is written is read back with the bytes after it
untouched, and what is read with every number in its shortest form is what
would be written.  The wire may say more than a value keeps; what more it says
is an argument of the writer.
-/

/--
The bytes still to be read, and whether every variable-length number read so
far stood in its shortest form.
-/
structure Stream where
  input : List UInt8
  shortest : Bool
deriving DecidableEq

/-- Why a value could not be read. -/
inductive ReadError where
  | unexpectedEnd
  | overflow
  | negativeSize
  | invalidBoolean (value : UInt8)
  | unterminated
  | refused (reason : String)
  | within (field : String) (cause : ReadError)
deriving DecidableEq

abbrev Reader (α : Type) := StateT Stream (Except ReadError) α

/-- The reader takes this value off the first stream and leaves the second. -/
def Reads {α : Type} (reader : Reader α) (before : Stream) (value : α) (after : Stream) : Prop :=
  reader.run before = .ok (value, after)

variable {before : Stream}

section Sequences

variable {α β : Type} {value : α}

theorem reads_pure {result : α} {before after : Stream} :
    Reads (pure value) before result after ↔ value = result ∧ before = after := by
  unfold Reads
  constructor
  · intro same
    cases same
    exact ⟨rfl, rfl⟩
  · rintro ⟨rfl, rfl⟩
    rfl

variable {reader : Reader α}

theorem reads_bind
    {next : α → Reader β}
    {after : Stream}
    {result : β} :
    Reads (reader >>= next) before result after ↔ ∃ value middle,
        Reads reader before value middle ∧ Reads (next value) middle result after := by
  unfold Reads
  rw [StateT.run_bind]
  constructor
  · intro finished
    cases first : reader.run before with
    | error failure =>
      rw [first] at finished
      cases finished
    | ok outcome =>
      rw [first] at finished
      exact ⟨outcome.1, outcome.2, rfl, finished⟩
  · rintro ⟨value, middle, first, second⟩
    rw [first]
    exact second

theorem reads_then
    {next : α → Reader β}
    {middle after : Stream}
    {result : β}
    (first : Reads reader before value middle)
    (second : Reads (next value) middle result after) :
    Reads (reader >>= next) before result after :=
  reads_bind.mpr ⟨value, middle, first, second⟩

theorem Reads.unique
    {left right : Stream}
    {first second : α}
    (readFirst : Reads reader before first left)
    (readSecond : Reads reader before second right) :
    first = second ∧ left = right := by
  unfold Reads at readFirst readSecond
  rw [readFirst] at readSecond
  cases readSecond
  exact ⟨rfl, rfl⟩

/-- A reader whose failures say which field they were found in. -/
def within (field : String) (reader : Reader α) : Reader α :=
  fun before =>
    match reader before with
    | .ok outcome => .ok outcome
    | .error cause => .error (.within field cause)

@[simp] theorem reads_within {field : String} {after : Stream} :
    Reads (within field reader) before value after ↔ Reads reader before value after := by
  change (match reader before with
    | .ok outcome => Except.ok outcome
    | .error cause => Except.error (ReadError.within field cause)) = _ ↔ reader before = _
  cases reader before with
  | ok outcome => rfl
  | error cause => simp

/-- A field that only some versions of a format carry. -/
def whenCarried (carried : Bool) (absent : α) (reader : Reader α) : Reader α :=
  if carried then reader else pure absent

def writtenWhen (carried : Bool) (bytes : List UInt8) : List UInt8 :=
  if carried then bytes else []

end Sequences

section Segments

variable {α β ω ω₁ ω₂ : Type}

/-- A field is at its absent value where it is not carried. -/
def KeptWhen (present : Bool) (absent value : α) : Prop := present = false → value = absent

variable (reader)

/--
A reader and the writer of its values.  `describes` holds of what more stood on
the wire and the value read; `known` is what earlier fields say of the value.
-/
structure Segment
    (known : α → Prop)
    (write : ω → α → List UInt8)
    (describes : ω → α → Prop) :
    Prop where
  reads : ∀ {wire : ω} {value : α} (rest : List UInt8) (shortest : Bool), known value →
      describes wire value →
      Reads reader ⟨write wire value ++ rest, shortest⟩ value ⟨rest, shortest⟩
  written : ∀ {before after : Stream} {value : α}, Reads reader before value after →
      after.shortest = true →
      before.shortest = true ∧ known value ∧
        ∃ wire, describes wire value ∧ before.input = write wire value ++ after.input
  determined : ∀ {left right : ω} {value : α} {leftRest rightRest : List UInt8}, known value →
      describes left value →
      describes right value →
      write left value ++ leftRest = write right value ++ rightRest →
      left = right ∧ leftRest = rightRest

/-- A reader of which nothing is known before. -/
abbrev Described (write : ω → α → List UInt8) (describes : ω → α → Prop) : Prop :=
  Segment reader (fun _ => True) write describes

/-- A reader whose values say all that stands on the wire. -/
abbrev Mirror (write : α → List UInt8) (carried : α → Prop) : Prop :=
  Described reader (fun _ : Unit => write) (fun _ => carried)

variable {reader}

theorem Mirror.of
    {reader : Reader α}
    {write : α → List UInt8}
    {carried : α → Prop}
    (reads : ∀ {value : α} (rest : List UInt8) (shortest : Bool),
        carried value → Reads reader ⟨write value ++ rest, shortest⟩ value ⟨rest, shortest⟩)
    (written : ∀ {before after : Stream} {value : α}, Reads reader before value after →
        after.shortest = true →
        before.shortest = true ∧ carried value ∧ before.input = write value ++ after.input) :
    Mirror reader write carried where
  reads rest shortest _ isCarried := reads rest shortest isCarried
  written read shortest := by
    obtain ⟨beforeShortest, isCarried, input⟩ := written read shortest
    exact ⟨beforeShortest, trivial, (), isCarried, input⟩
  determined _ _ _ same := ⟨rfl, append_cancel_left same⟩

theorem Segment.back
    {reader : Reader α}
    {write : α → List UInt8}
    {carried : α → Prop}
    (mirror : Mirror reader write carried)
    {value : α}
    (rest : List UInt8)
    (shortest : Bool)
    (isCarried : carried value) :
    Reads reader ⟨write value ++ rest, shortest⟩ value ⟨rest, shortest⟩ :=
  @Segment.reads _ _ _ _ _ _ mirror () value rest shortest trivial isCarried

variable
  {reader : Reader α} {known : α → Prop} {write : ω → α → List UInt8} {describes : ω → α → Prop}

theorem Segment.named
    (segment : Segment reader known write describes)
    (field : String) :
    Segment (within field reader) known write describes where
  reads rest shortest isKnown described :=
    reads_within.mpr (segment.reads rest shortest isKnown described)
  written read := segment.written (reads_within.mp read)
  determined := segment.determined

theorem Segment.gated
    (segment : Described reader write describes)
    (present : Bool)
    (absentWire : ω)
    (absent : α) :
    Described (whenCarried present absent reader)
      (fun wire value => writtenWhen present (write wire value))
      (fun wire value =>
        if present then describes wire value
        else wire = absentWire ∧ value = absent) := by
  cases present with
  | true => exact ⟨segment.reads, segment.written, segment.determined⟩
  | false =>
    refine ⟨?_, ?_, ?_⟩
    · rintro wire value rest shortest _ ⟨rfl, rfl⟩
      exact reads_pure.mpr ⟨rfl, rfl⟩
    · intro before after value read shortest
      obtain ⟨rfl, rfl⟩ := reads_pure.mp read
      exact ⟨shortest, trivial, absentWire, ⟨rfl, rfl⟩, rfl⟩
    · rintro left right value leftRest rightRest _ ⟨rfl, rfl⟩ ⟨rfl, _⟩ same
      exact ⟨rfl, same⟩

/-- The same layout with its conditions in other words. -/
theorem Segment.recast
    {write' : ω₁ → α → List UInt8}
    {describes' : ω₁ → α → Prop}
    (segment : Segment reader known write describes)
    (toWire : ω₁ → ω)
    (ofWire : ω → ω₁)
    (back : ∀ wire, ofWire (toWire wire) = wire)
    (forth : ∀ wire, toWire (ofWire wire) = wire)
    (sameWrite : ∀ wire value, known value → write' wire value = write (toWire wire) value)
    (sameDescribes :
      ∀ wire value, known value → (describes' wire value ↔ describes (toWire wire) value)) :
    Segment reader known write' describes' where
  reads := by
    intro wire value rest shortest isKnown described
    rw [sameWrite wire value isKnown]
    exact segment.reads rest shortest isKnown ((sameDescribes wire value isKnown).mp described)
  written := by
    intro before after value read shortest
    obtain ⟨beforeShortest, isKnown, wire, described, input⟩ := segment.written read shortest
    refine ⟨beforeShortest, isKnown, ofWire wire, ?_, ?_⟩
    · rw [sameDescribes _ value isKnown, forth]
      exact described
    · rw [sameWrite _ value isKnown, forth]
      exact input
  determined := by
    intro left right value leftRest rightRest isKnown describesLeft describesRight same
    rw [sameWrite _ value isKnown, sameWrite _ value isKnown] at same
    obtain ⟨sameWire, sameRest⟩ := segment.determined isKnown
      ((sameDescribes left value isKnown).mp describesLeft)
      ((sameDescribes right value isKnown).mp describesRight) same
    exact ⟨by rw [← back left, sameWire, back], sameRest⟩

/-- A layout that depends on an earlier field. -/
theorem Segment.after
    {item : β}
    {field : α → β}
    {write : β → ω → α → List UInt8}
    {describes : β → ω → α → Prop}
    (segment : Segment reader (fun value => known value ∧ item = field value)
        (write item) (describes item)) :
    Segment reader (fun value => known value ∧ item = field value)
      (fun wire value => write (field value) wire value)
      (fun wire value => describes (field value) wire value) :=
  segment.recast id id (fun _ => rfl) (fun _ => rfl)
    (fun wire value isKnown => by rw [isKnown.2]; rfl)
    (fun wire value isKnown => by rw [isKnown.2]; rfl)

/-- What is known of a value is part of what describes it. -/
theorem Segment.described (segment : Segment reader known write describes) :
    Described reader write (fun wire value => known value ∧ describes wire value) where
  reads rest shortest _ described := segment.reads rest shortest described.1 described.2
  written read shortest := by
    obtain ⟨beforeShortest, isKnown, wire, described, input⟩ := segment.written read shortest
    exact ⟨beforeShortest, trivial, wire, ⟨isKnown, described⟩, input⟩
  determined _ describesLeft describesRight :=
    segment.determined describesLeft.1 describesLeft.2 describesRight.2

/-- A carried field followed by the rest of a record. -/
theorem Segment.wire
    {part : Reader β}
    {writePart : ω₁ → β → List UInt8}
    {describesPart : ω₁ → β → Prop}
    {next : β → Reader α}
    {writeRest : ω₂ → α → List UInt8}
    {describesRest : ω₂ → α → Prop}
    (first : Described part writePart describesPart)
    (field : α → β)
    (rest : ∀ item, Segment (next item) (fun value => known value ∧ item = field value)
        writeRest describesRest) :
    Segment (part >>= next) known
      (fun wire value => writePart wire.1 (field value) ++ writeRest wire.2 value)
      (fun (wire : ω₁ × ω₂) value =>
        describesPart wire.1 (field value) ∧ describesRest wire.2 value) where
  reads := by
    intro wire value left shortest isKnown described
    rw [append_assoc]
    exact reads_then (first.reads _ shortest trivial described.1)
      ((rest _).reads left shortest ⟨isKnown, rfl⟩ described.2)
  written := by
    intro before after value read shortest
    obtain ⟨item, middle, readPart, readRest⟩ := reads_bind.mp read
    obtain ⟨middleShortest, ⟨isKnown, rfl⟩, restWire, restDescribed,
      middleInput⟩ := (rest item).written readRest shortest
    obtain ⟨beforeShortest, _, partWire, partDescribed, beforeInput⟩ :=
      first.written readPart middleShortest
    refine ⟨beforeShortest, isKnown, (partWire, restWire), ⟨partDescribed, restDescribed⟩, ?_⟩
    rw [beforeInput, middleInput, append_assoc]
  determined := by
    intro left right value leftRest rightRest isKnown describesLeft describesRight same
    rw [append_assoc, append_assoc] at same
    obtain ⟨samePart, same⟩ := first.determined trivial describesLeft.1 describesRight.1 same
    obtain ⟨sameWire, sameRest⟩ :=
      (rest (field value)).determined ⟨isKnown, rfl⟩ describesLeft.2 describesRight.2 same
    exact ⟨Prod.ext samePart sameWire, sameRest⟩

/-- The same for a field that says all that stands on the wire. -/
theorem Segment.field
    {part : Reader β}
    {writePart : β → List UInt8}
    {carried : β → Prop}
    {next : β → Reader α}
    {writeRest : ω → α → List UInt8}
    {describesRest : ω → α → Prop}
    (first : Mirror part writePart carried)
    (field : α → β)
    (rest : ∀ item, Segment (next item) (fun value => known value ∧ item = field value)
        writeRest describesRest) :
    Segment (part >>= next) known
      (fun wire value => writePart (field value) ++ writeRest wire value)
      (fun wire value => carried (field value) ∧ describesRest wire value) :=
  (Segment.wire first field rest).recast (fun wire => ((), wire)) Prod.snd
    (fun _ => rfl) (fun _ => rfl) (fun _ _ _ => rfl) (fun _ _ _ => Iff.rfl)

theorem Segment.done
    {value : α}
    (fixed : ∀ other, known other ↔ value = other) :
    Segment (pure value) known (fun (_ : Unit) _ => []) (fun _ _ => True) where
  reads _ _ isKnown _ := reads_pure.mpr ⟨(fixed _).mp isKnown, rfl⟩
  written := by
    intro before after other read shortest
    obtain ⟨rfl, rfl⟩ := reads_pure.mp read
    exact ⟨shortest, (fixed value).mpr rfl, (), trivial, rfl⟩
  determined _ _ _ same := ⟨rfl, same⟩

/-- A field that stands at its absent value where it is not carried. -/
theorem Segment.optional
    {write : α → List UInt8}
    (mirror : Mirror reader write (fun _ => True))
    (present : Bool)
    (absent : α) :
    Mirror (whenCarried present absent reader) (fun value => writtenWhen present (write value))
      (KeptWhen present absent) := by
  refine (mirror.gated present () absent).recast id id (fun _ => rfl)
    (fun _ => rfl) (fun _ _ _ => rfl) ?_
  intro _ value _
  cases present with
  | true => exact ⟨fun _ => trivial, fun _ => nofun⟩
  | false => exact ⟨fun kept => ⟨rfl, kept rfl⟩, fun absentValue _ => absentValue.2⟩

/-- The same bytes read as values of another type. -/
theorem Segment.map
    {write : α → List UInt8}
    (mirror : Mirror reader write (fun _ => True))
    {toValue : α → β}
    {ofValue : β → α}
    (back : ∀ item, ofValue (toValue item) = item)
    (forth : ∀ value, toValue (ofValue value) = value) :
    Mirror (do
        let item ← reader
        pure (toValue item))
      (fun value => write (ofValue value))
      (fun _ => True) := by
  have fixed : ∀ item value, (True ∧ item = ofValue value) ↔ toValue item = value :=
    fun item value =>
      ⟨fun same => by rw [same.2, forth], fun same => ⟨trivial, by rw [← same, back]⟩⟩
  refine (Segment.field mirror ofValue fun item =>
    .done (fixed item)).recast id id (fun _ => rfl) (fun _ => rfl)
    (fun _ _ _ => (append_nil _).symm) (fun _ _ _ => (and_self_iff (a := True)).symm)

/-- What a mirror writes ends where it ends. -/
theorem Segment.cancel
    {write : α → List UInt8}
    (mirror : Mirror reader write (fun _ => True))
    {left right : α}
    {leftRest rightRest : List UInt8}
    (same : write left ++ leftRest = write right ++ rightRest) :
    left = right ∧ leftRest = rightRest := by
  have readLeft : Reads reader ⟨write left ++ leftRest, true⟩ left _ :=
    mirror.back leftRest true trivial
  have readRight : Reads reader ⟨write right ++ rightRest, true⟩ right _ :=
    mirror.back rightRest true trivial
  rw [same] at readLeft
  obtain ⟨sameValue, sameRest⟩ := readLeft.unique readRight
  exact ⟨sameValue, congrArg Stream.input sameRest⟩

/-- A value of which only a part is kept. -/
theorem Segment.keeping
    {write : α → List UInt8}
    (mirror : Mirror reader write (fun _ => True))
    (keep : α → β) :
    Described (do
        let item ← reader
        pure (keep item))
      (fun item _ => write item)
      (fun item kept => kept = keep item) where
  reads := by
    rintro item _ rest shortest _ rfl
    exact reads_then (mirror.back rest shortest trivial) (reads_pure.mpr ⟨rfl, rfl⟩)
  written := by
    intro before after kept read shortest
    obtain ⟨item, middle, readItem, read⟩ := reads_bind.mp read
    obtain ⟨rfl, rfl⟩ := reads_pure.mp read
    obtain ⟨beforeShortest, _, _, _, beforeInput⟩ := mirror.written readItem shortest
    exact ⟨beforeShortest, trivial, item, rfl, beforeInput⟩
  determined _ _ _ same := mirror.cancel same

end Segments

variable {count : Nat}

section Numbers

/-- Seven bits a byte, low bits first, with the high bit set on all but the last. -/
def putVarint (number : Nat) : List UInt8 :=
  if number < 128 then
    [UInt8.ofNat number]
  else
    UInt8.ofNat (number % 128 + 128) :: putVarint (number / 128)
termination_by number
decreasing_by omega

/--
The number at the front of the input, of at most the given count of bytes; a
last byte allowed by the count holds one bit.
-/
def scanVarint : Nat → List UInt8 → Except ReadError (Nat × List UInt8)
  | 0, _ => .error .overflow
  | _ + 1, [] => .error .unexpectedEnd
  | count + 1, byte :: rest =>
    if byte.toNat < 128 then
      if count = 0 ∧ 1 < byte.toNat then .error .overflow else .ok (byte.toNat, rest)
    else
      match scanVarint count rest with
      | .error failure => .error failure
      | .ok (high, left) => .ok (byte.toNat - 128 + 128 * high, left)

def uvarint : Reader UInt64 :=
  fun before =>
    match scanVarint 10 before.input with
    | .error failure => .error failure
    | .ok (number, rest) =>
      .ok (ofNat number,
        { input := rest
          shortest := before.shortest && before.input == putVarint number ++ rest })

def putUvarint (value : UInt64) : List UInt8 := putVarint value.toNat

theorem scanVarint_putVarint
    (count number : Nat)
    (rest : List UInt8)
    (small : number < 2 * 128 ^ count) :
    scanVarint (count + 1) (putVarint number ++ rest) = .ok (number, rest) := by
  induction count generalizing number with
  | zero =>
    have below : number < 128 := by
      omega
    have byte : (UInt8.ofNat number).toNat = number := by
      rw [UInt8.toNat_ofNat']
      omega
    rw [putVarint, if_pos below, singleton_append, scanVarint, byte, if_pos below,
      if_neg (by omega)]
  | succ count inductionHypothesis =>
    rw [putVarint]
    split_ifs with below
    · have byte : (UInt8.ofNat number).toNat = number := by
        rw [UInt8.toNat_ofNat']
        omega
      rw [singleton_append, scanVarint, byte, if_pos below, if_neg (by omega)]
    · have byte : (UInt8.ofNat (number % 128 + 128)).toNat = number % 128 + 128 := by
        rw [UInt8.toNat_ofNat']
        omega
      have high : number / 128 < 2 * 128 ^ count := by
        omega
      have whole : number % 128 + 128 - 128 + 128 * (number / 128) = number := by
        omega
      rw [cons_append, scanVarint, byte, if_neg (by omega), inductionHypothesis _ high]
      simp only [whole]

theorem putVarint_length_pos (number : Nat) : 0 < (putVarint number).length := by
  unfold putVarint
  split_ifs
  · exact one_pos
  · exact succ_pos _

/--
A number that was scanned fits, and it took no fewer bytes than its shortest
form, which is the only one of its length.
-/
theorem scanVarint_spec {number : Nat} {input rest : List UInt8}
    (scanned : scanVarint count input = .ok (number, rest)) :
    number < 2 * 128 ^ (count - 1) ∧
      ∃ bytes, input = bytes ++ rest ∧ (putVarint number).length ≤ bytes.length ∧
        (bytes.length = (putVarint number).length → bytes = putVarint number) := by
  induction count generalizing number input with
  | zero => cases scanned
  | succ count inductionHypothesis =>
    cases input with
    | nil => cases scanned
    | cons byte left =>
      have small := byte.toNat_lt
      have wide : 0 < 128 ^ count := Nat.pow_pos (by decide)
      rw [scanVarint] at scanned
      by_cases below : byte.toNat < 128
      · rw [if_pos below] at scanned
        split_ifs at scanned with overflows
        cases scanned
        refine ⟨?_, [byte], rfl, ?_⟩
        · rw [Nat.add_sub_cancel]
          cases count with
          | zero => omega
          | succ count => omega
        · rw [putVarint, if_pos below, UInt8.ofNat_toNat]
          exact ⟨le_refl _, fun _ => rfl⟩
      · rw [if_neg below] at scanned
        cases scannedHigh : scanVarint count left with
        | error failure =>
          rw [scannedHigh] at scanned
          cases scanned
        | ok outcome =>
          rw [scannedHigh] at scanned
          cases scanned
          obtain ⟨high, bytes, rfl, long, unique⟩ := inductionHypothesis scannedHigh
          refine ⟨?_, byte :: bytes, rfl, ?_⟩
          · cases count with
            | zero => cases scannedHigh
            | succ count =>
              rw [Nat.add_sub_cancel] at high ⊢
              omega
          have positive := putVarint_length_pos outcome.1
          rw [putVarint]
          split_ifs with narrow
          · simp only [length_cons, length_nil]
            omega
          have low : (byte.toNat - 128 + 128 * outcome.1) % 128 + 128 = byte.toNat := by
            omega
          have high : (byte.toNat - 128 + 128 * outcome.1) / 128 = outcome.1 := by
            omega
          rw [low, high, UInt8.ofNat_toNat]
          simp only [length_cons, add_le_add_iff_right, add_left_inj]
          exact ⟨long, fun same => by rw [unique same]⟩

/-- A form in which a number may stand on the wire, its shortest one or a longer one. -/
def Form (bytes : List UInt8) (number : Nat) : Prop := scanVarint 10 bytes = .ok (number, [])

/-- What is scanned off an input is a front of it that is scanned alone. -/
theorem scanVarint_eq_ok_iff {number : Nat} {input rest : List UInt8} :
    scanVarint count input = .ok (number, rest) ↔
      ∃ bytes, input = bytes ++ rest ∧ scanVarint count bytes = .ok (number, []) := by
  induction count generalizing number input with
  | zero => simp [scanVarint]
  | succ count inductionHypothesis =>
    constructor
    · intro scanned
      cases input with
      | nil => cases scanned
      | cons byte left =>
        simp only [scanVarint] at scanned
        by_cases below : byte.toNat < 128
        · rw [if_pos below] at scanned
          split_ifs at scanned with overflows
          cases scanned
          exact ⟨[byte], rfl, by simp only [scanVarint, if_pos below, if_neg overflows]⟩
        · rw [if_neg below] at scanned
          split at scanned
          · cases scanned
          rename_i high others scannedHigh
          cases scanned
          obtain ⟨bytes, rfl, alone⟩ := inductionHypothesis.mp scannedHigh
          exact ⟨byte :: bytes, rfl, by simp only [scanVarint, if_neg below, alone]⟩
    · rintro ⟨bytes, rfl, scanned⟩
      cases bytes with
      | nil => cases scanned
      | cons byte left =>
        simp only [scanVarint, cons_append] at scanned ⊢
        by_cases below : byte.toNat < 128
        · rw [if_pos below] at scanned ⊢
          split_ifs at scanned ⊢ with overflows
          cases scanned
          rfl
        · rw [if_neg below] at scanned ⊢
          split at scanned
          · cases scanned
          rename_i high others scannedHigh
          cases scanned
          have behind := inductionHypothesis.mpr ⟨left, rfl, scannedHigh⟩
          rw [behind]

theorem reads_uvarint
    {value : UInt64}
    {after : Stream}
    (read : Reads uvarint before value after) :
    ∃ bytes, Form bytes value.toNat ∧ before.input = bytes ++ after.input ∧
      (after.shortest = true ↔ before.shortest = true ∧ bytes = putUvarint value) := by
  change uvarint before = _ at read
  unfold uvarint at read
  split at read
  · cases read
  rename_i number rest scanned
  cases read
  obtain ⟨bytes, input, alone⟩ := scanVarint_eq_ok_iff.mp scanned
  obtain ⟨small, -⟩ := scanVarint_spec scanned
  have back : (ofNat number).toNat = number := by
    rw [toNat_ofNat']
    omega
  rw [putUvarint, back]
  refine ⟨bytes, alone, input, ?_⟩
  rw [Bool.and_eq_true, beq_iff_eq, input, append_cancel_right_eq]

theorem uvarint_mirror : Mirror uvarint putUvarint (fun _ => True) := by
  refine Mirror.of ?_ ?_
  · intro value rest shortest _
    have scanned : scanVarint 10 (putVarint value.toNat ++ rest) = .ok (value.toNat, rest) := by
      apply scanVarint_putVarint
      have small := value.toNat_lt
      omega
    change uvarint ⟨putVarint value.toNat ++ rest, shortest⟩ = _
    unfold uvarint
    simp only [scanned, beq_self_eq_true, Bool.and_true, UInt64.ofNat_toNat]
  · intro before after value read shortest
    obtain ⟨bytes, -, input, isShortest⟩ := reads_uvarint read
    obtain ⟨beforeShortest, rfl⟩ := isShortest.mp shortest
    exact ⟨beforeShortest, trivial, input⟩

end Numbers

section FixedWidth

/-- Exactly the given number of bytes. -/
abbrev FixedBytes (count : Nat) : Type := { bytes : List UInt8 // bytes.length = count }

def raw (count : Nat) : Reader (FixedBytes count) :=
  fun before =>
    if enough : count ≤ before.input.length then
      .ok (⟨before.input.take count, length_take_of_le enough⟩,
        { before with input := before.input.drop count })
    else
      .error .unexpectedEnd

theorem reads_raw
    {after : Stream}
    {bytes : FixedBytes count}
    (read : Reads (raw count) before bytes after) :
    before.shortest = after.shortest ∧ before.input = bytes.val ++ after.input := by
  change raw count before = _ at read
  unfold raw at read
  split_ifs at read
  cases read
  exact ⟨rfl, (take_append_drop _ _).symm⟩

theorem raw_mirror (count : Nat) : Mirror (raw count) (fun bytes => bytes.val) (fun _ => True) := by
  refine Mirror.of ?_ ?_
  · rintro ⟨bytes, rfl⟩ rest shortest _
    change raw bytes.length ⟨bytes ++ rest, shortest⟩ = _
    unfold raw
    simp
  · intro before after value read shortest
    obtain ⟨same, input⟩ := reads_raw read
    exact ⟨same.trans shortest, trivial, input⟩

def uint8 : Reader UInt8 :=
  fun before =>
    match before.input with
    | [] => .error .unexpectedEnd
    | byte :: rest => .ok (byte, { before with input := rest })

theorem uint8_mirror : Mirror uint8 (fun byte => [byte]) (fun _ => True) := by
  refine Mirror.of (fun _ _ _ => rfl) ?_
  intro before after value read shortest
  obtain ⟨input, short⟩ := before
  cases input with
  | nil => cases read
  | cons byte rest =>
    cases read
    exact ⟨shortest, trivial, rfl⟩

def uint64Bytes (value : UInt64) : FixedBytes 8 :=
  ⟨littleEndian 8 value.toNat, length_littleEndian 8 _⟩

def putUint64 (value : UInt64) : List UInt8 := littleEndian 8 value.toNat

def ofUint64Bytes (bytes : FixedBytes 8) : UInt64 := ofNat (ofLittleEndian bytes.val)

def uint64 : Reader UInt64 := do
  let bytes ← raw 8
  pure (ofUint64Bytes bytes)

theorem ofUint64Bytes_uint64Bytes (value : UInt64) : ofUint64Bytes (uint64Bytes value) = value := by
  have back : ofLittleEndian (littleEndian 8 value.toNat) = value.toNat :=
    ofLittleEndian_of_lt value.toNat_lt
  rw [ofUint64Bytes, uint64Bytes, back, UInt64.ofNat_toNat]

theorem uint64Bytes_ofUint64Bytes (bytes : FixedBytes 8) :
    uint64Bytes (ofUint64Bytes bytes) = bytes := by
  obtain ⟨bytes, width⟩ := bytes
  have small := ofLittleEndian_lt bytes
  rw [width] at small
  have back : (ofNat (ofLittleEndian bytes)).toNat = ofLittleEndian bytes := by
    rw [toNat_ofNat']
    omega
  apply Subtype.ext
  change littleEndian 8 (ofNat (ofLittleEndian bytes)).toNat = bytes
  rw [back, ← width]
  exact littleEndian_ofLittleEndian bytes

theorem uint64_mirror : Mirror uint64 putUint64 (fun _ => True) :=
  (raw_mirror 8).map uint64Bytes_ofUint64Bytes ofUint64Bytes_uint64Bytes

def putInt64 (value : Int64) : List UInt8 := putUint64 value.toUInt64

def int64 : Reader Int64 := do
  let value ← uint64
  pure value.toInt64

theorem int64_mirror : Mirror int64 putInt64 (fun _ => True) :=
  uint64_mirror.map toUInt64_toInt64 Int64.toInt64_toUInt64

/-- A machine integer as the unsigned number of the same bits. -/
def putInt (value : Int64) : List UInt8 := putUvarint value.toUInt64

def int : Reader Int64 := do
  let value ← uvarint
  pure value.toInt64

theorem int_mirror : Mirror int putInt (fun _ => True) :=
  uvarint_mirror.map toUInt64_toInt64 Int64.toInt64_toUInt64

def boolean : Reader Bool :=
  fun before =>
    match before.input with
    | [] => .error .unexpectedEnd
    | byte :: rest =>
      if byte = 1 then
        .ok (true, { before with input := rest })
      else if byte = 0 then
        .ok (false, { before with input := rest })
      else
        .error (.invalidBoolean byte)

def putBoolean (value : Bool) : List UInt8 := [if value then 1 else 0]

theorem reads_boolean
    {after : Stream}
    {value : Bool}
    (read : Reads boolean before value after) :
    before.shortest = after.shortest ∧ before.input = putBoolean value ++ after.input := by
  obtain ⟨input, shortest⟩ := before
  cases input with
  | nil => cases read
  | cons byte rest =>
    change boolean ⟨byte :: rest, shortest⟩ = _ at read
    unfold boolean at read
    dsimp only at read
    split_ifs at read with isOne isZero
    · cases read
      rw [isOne]
      exact ⟨rfl, rfl⟩
    · cases read
      rw [isZero]
      exact ⟨rfl, rfl⟩

theorem boolean_mirror : Mirror boolean putBoolean (fun _ => True) := by
  refine Mirror.of ?_ ?_
  · intro value rest shortest _
    cases value with
    | true | false => rfl
  · intro before after value read shortest
    obtain ⟨same, input⟩ := reads_boolean read
    exact ⟨same.trans shortest, trivial, input⟩

/-- A part that stands on the wire only if its flag is set. -/
def flagged {α : Type} (field : String) (absent : α) (reader : Reader α) : Reader (Bool × α) := do
  let flag ← within field boolean
  if flag then
    let item ← reader
    pure (true, item)
  else
    pure (false, absent)

def putFlagged {α ω : Type} (write : ω → α → List UInt8) (wire : ω) (value : Bool × α) :
    List UInt8 :=
  if value.1 then 1 :: write wire value.2 else [0]

theorem Segment.flagged
    {α ω : Type}
    {reader : Reader α}
    {write : ω → α → List UInt8}
    {describes : ω → α → Prop}
    (segment : Described reader write describes)
    (field : String)
    (absentWire : ω)
    (absent : α) :
    Described (flagged field absent reader) (putFlagged write) (fun wire value =>
        if value.1 then describes wire value.2
        else wire = absentWire ∧ value.2 = absent) where
  reads := by
    rintro wire ⟨flag, item⟩ rest shortest _ described
    cases flag with
    | true =>
      refine reads_then (reads_within.mpr rfl) ?_
      exact reads_then (segment.reads rest shortest trivial described) (reads_pure.mpr ⟨rfl, rfl⟩)
    | false =>
      obtain ⟨rfl, rfl⟩ := described
      refine reads_then (reads_within.mpr rfl) ?_
      exact reads_pure.mpr ⟨rfl, rfl⟩
  written := by
    intro before after value read shortest
    obtain ⟨flag, middle, readFlag, read⟩ := reads_bind.mp read
    cases flag with
    | true =>
      obtain ⟨item, last, readItem, read⟩ := reads_bind.mp read
      obtain ⟨rfl, rfl⟩ := reads_pure.mp read
      obtain ⟨middleShortest, _, wire, described, middleInput⟩ := segment.written readItem shortest
      obtain ⟨beforeShortest, _, _, _, beforeInput⟩ :=
        (boolean_mirror.named _).written readFlag middleShortest
      refine ⟨beforeShortest, trivial, wire, described, ?_⟩
      rw [beforeInput, middleInput]
      rfl
    | false =>
      obtain ⟨rfl, rfl⟩ := reads_pure.mp read
      obtain ⟨beforeShortest, _, _, _, beforeInput⟩ :=
        (boolean_mirror.named _).written readFlag shortest
      exact ⟨beforeShortest, trivial, absentWire, ⟨rfl, rfl⟩, beforeInput⟩
  determined := by
    rintro left right ⟨flag, item⟩ leftRest rightRest _ describesLeft describesRight same
    cases flag with
    | true => exact segment.determined trivial describesLeft describesRight (cons.inj same).2
    | false =>
      obtain ⟨rfl, _⟩ := describesLeft
      obtain ⟨rfl, _⟩ := describesRight
      exact ⟨rfl, append_cancel_left same⟩

end FixedWidth

section Texts

/-- A byte string whose length is a machine integer. -/
abbrev Text : Type := { bytes : List UInt8 // bytes.length < 2 ^ 63 }

namespace Text

def empty : Text := ⟨[], by decide⟩

/-- The length as the machine writes it. -/
def size (text : Text) : UInt64 := ofNat text.val.length

theorem toNat_size (text : Text) : text.size.toNat = text.val.length := by
  rw [size, toNat_ofNat']
  omega

end Text

def putText (text : Text) : List UInt8 := putUvarint text.size ++ text.val

def textOfSize (size : Nat) (small : size < 2 ^ 63) : Reader Text := do
  let bytes ← raw size
  pure ⟨bytes.val, by rw [bytes.property]; exact small⟩

def text : Reader Text := do
  let size ← uvarint
  if small : size.toNat < 2 ^ 63 then textOfSize size.toNat small else throw .negativeSize

theorem reads_textOfSize
    {size : Nat}
    {small : size < 2 ^ 63}
    {after : Stream}
    {value : Text} :
    Reads (textOfSize size small) before value after ↔
      ∃ bytes : FixedBytes size, Reads (raw size) before bytes after ∧ bytes.val = value.val := by
  constructor
  · intro read
    obtain ⟨bytes, middle, readRaw, rest⟩ := reads_bind.mp read
    obtain ⟨rfl, rfl⟩ := reads_pure.mp rest
    exact ⟨bytes, readRaw, rfl⟩
  · rintro ⟨bytes, readRaw, same⟩
    exact reads_then readRaw (reads_pure.mpr ⟨Subtype.ext same, rfl⟩)

theorem text_mirror : Mirror text putText (fun _ => True) := by
  refine Mirror.of ?_ ?_
  · intro value rest shortest _
    let bytes : FixedBytes value.size.toNat := ⟨value.val, value.toNat_size.symm⟩
    have sized :
        Reads (raw value.size.toNat) ⟨bytes.val ++ rest, shortest⟩ bytes ⟨rest, shortest⟩ :=
      (raw_mirror value.size.toNat).back rest shortest trivial
    have small : value.size.toNat < 2 ^ 63 := by
      rw [value.toNat_size]
      exact value.property
    rw [putText, append_assoc]
    refine reads_then (uvarint_mirror.back _ shortest trivial) ?_
    rw [dif_pos small]
    exact reads_textOfSize.mpr ⟨_, sized, rfl⟩
  · intro before after value read shortest
    obtain ⟨size, middle, readSize, rest⟩ := reads_bind.mp read
    by_cases small : size.toNat < 2 ^ 63
    · rw [dif_pos small] at rest
      obtain ⟨bytes, readRaw, same⟩ := reads_textOfSize.mp rest
      obtain ⟨middleShortest, _, _, _, middleInput⟩ :=
        (raw_mirror size.toNat).written readRaw shortest
      obtain ⟨beforeShortest, _, _, _, beforeInput⟩ :=
        uvarint_mirror.written readSize middleShortest
      have sizeBack : value.size = size := by
        apply UInt64.toNat_inj.mp
        rw [value.toNat_size, ← same, bytes.property]
      refine ⟨beforeShortest, trivial, ?_⟩
      rw [beforeInput, middleInput, putText, sizeBack, same, append_assoc]
    · rw [dif_neg small] at rest
      cases rest

end Texts

section Forms

variable {after : Stream} {bytes : List UInt8}

theorem Form.long
    {number : Nat}
    (form : Form bytes number) :
    (putVarint number).length ≤ bytes.length ∧
      (bytes.length = (putVarint number).length ↔ bytes = putVarint number) := by
  obtain ⟨-, taken, input, long, unique⟩ := scanVarint_spec form
  rw [append_nil] at input
  subst input
  exact ⟨long, unique, congrArg length⟩

/-- A reader takes a form off as a whole, whichever form it is. -/
theorem Form.read
    {number : Nat}
    {rest : List UInt8}
    {shortest : Bool}
    {value : UInt64}
    (form : Form bytes number)
    (read : Reads uvarint ⟨bytes ++ rest, shortest⟩ value after) :
    value.toNat = number ∧ after.input = rest := by
  have scanned : scanVarint 10 (bytes ++ rest) = .ok (number, rest) :=
    scanVarint_eq_ok_iff.mpr ⟨bytes, rfl, form⟩
  obtain ⟨small, -⟩ := scanVarint_spec scanned
  change uvarint _ = _ at read
  simp only [uvarint, scanned] at read
  cases read
  refine ⟨?_, rfl⟩
  rw [toNat_ofNat']
  omega

end Forms

section Rows

variable {α : Type}

/-- Records up to the one that ends them, at most the given number. -/
def rows (record : Reader (Option α)) : Nat → Reader (List α)
  | 0 => throw .unterminated
  | count + 1 => do
      match ← record with
      | none => pure []
      | some item =>
        let items ← rows record count
        pure (item :: items)

/-- All records up to the one that ends them. -/
def allRows (record : Reader (Option α)) : Reader (List α) :=
  fun before => rows record (before.input.length + 1) before

/-- The bytes are read as this value, whatever stands behind them. -/
def Spells {α : Type} (reader : Reader α) (bytes : List UInt8) (value : α) : Prop :=
  ∀ rest shortest, Reads reader ⟨bytes ++ rest, shortest⟩ value ⟨rest, shortest⟩

/-- Bytes that spell one value end where they end. -/
theorem Spells.cancel
    {reader : Reader α}
    {left right : List UInt8}
    {value : α}
    {leftRest rightRest : List UInt8}
    (spellsLeft : Spells reader left value)
    (spellsRight : Spells reader right value)
    (same : left ++ leftRest = right ++ rightRest) :
    left = right ∧ leftRest = rightRest := by
  have readLeft := spellsLeft leftRest true
  rw [same] at readLeft
  obtain ⟨_, sameRest⟩ := readLeft.unique (spellsRight rightRest true)
  have rests : leftRest = rightRest := congrArg Stream.input sameRest
  rw [rests] at same
  exact ⟨append_cancel_right same, rests⟩

/--
Records one after the other up to the bytes that end them.  `describes` says
which bytes stand for a record.
-/
structure Listed
    (record : Reader (Option α))
    (describes : List UInt8 → α → Prop)
    (last : List UInt8) :
    Prop where
  spells : ∀ {bytes : List UInt8} {item : α}, describes bytes item →
      Spells record bytes (some item)
  ends : Spells record last none
  ended : ∀ {before after : Stream}, Reads record before none after →
      after.shortest = true → before.shortest = true ∧ before.input = last ++ after.input
  written : ∀ {before after : Stream} {item : α}, Reads record before (some item) after →
      after.shortest = true →
      before.shortest = true ∧
        ∃ bytes, describes bytes item ∧ before.input = bytes ++ after.input

variable {items : List α}

theorem reads_rows_succ {record : Reader (Option α)} {after : Stream} :
    Reads (rows record (count + 1)) before items after ↔
      (items = [] ∧ Reads record before none after) ∨ ∃ item rest middle, items = item :: rest ∧
          Reads record before (some item) middle ∧
          Reads (rows record count) middle rest after := by
  rw [rows, reads_bind]
  constructor
  · rintro ⟨result, middle, readRecord, read⟩
    cases result with
    | none =>
      obtain ⟨rfl, rfl⟩ := reads_pure.mp read
      exact .inl ⟨rfl, readRecord⟩
    | some item =>
      obtain ⟨rest, last, readRest, read⟩ := reads_bind.mp read
      obtain ⟨rfl, rfl⟩ := reads_pure.mp read
      exact .inr ⟨item, rest, middle, rfl, readRecord, readRest⟩
  · rintro (⟨rfl, readRecord⟩ | ⟨item, rest, middle, rfl, readRecord, readRest⟩)
    · exact ⟨none, after, readRecord, reads_pure.mpr ⟨rfl, rfl⟩⟩
    · exact ⟨some item, middle, readRecord, reads_then readRest (reads_pure.mpr ⟨rfl, rfl⟩)⟩

variable {record : Reader (Option α)} {describes : List UInt8 → α → Prop} {last : List UInt8}
  (listed : Listed record describes last)

include listed

theorem Listed.named (field : String) : Listed (within field record) describes last where
  spells described rest shortest := reads_within.mpr (listed.spells described rest shortest)
  ends rest shortest := reads_within.mpr (listed.ends rest shortest)
  ended read := listed.ended (reads_within.mp read)
  written read := listed.written (reads_within.mp read)

variable {wires : List (List UInt8)}

theorem Listed.rows_reads
    (described : Forall₂ describes wires items)
    (rest : List UInt8)
    (shortest : Bool)
    (enough : items.length < count) :
    Reads (rows record count) ⟨wires.flatten ++ (last ++ rest), shortest⟩ items
      ⟨rest, shortest⟩ := by
  induction described generalizing count with
  | nil =>
    obtain ⟨count, rfl⟩ := exists_eq_succ_of_ne_zero (ne_of_gt (zero_lt_of_lt enough))
    exact reads_rows_succ.mpr (.inl ⟨rfl, listed.ends rest shortest⟩)
  | @cons bytes item wires items describesItem _ inductionHypothesis =>
    obtain ⟨count, rfl⟩ := exists_eq_succ_of_ne_zero (ne_of_gt (zero_lt_of_lt enough))
    refine reads_rows_succ.mpr (.inr ⟨item, items, _, rfl, ?_,
      inductionHypothesis (lt_of_succ_lt_succ enough)⟩)
    rw [flatten_cons, append_assoc]
    exact listed.spells describesItem _ shortest

/-- No bytes at all would both stand for a record and end the list. -/
theorem Listed.length_pos
    {bytes : List UInt8}
    {item : α}
    (described : describes bytes item) :
    0 < bytes.length := by
  cases bytes with
  | nil =>
    have readItem := listed.spells described (last ++ []) true
    have readEnd := listed.ends [] true
    cases (readItem.unique readEnd).1
  | cons _ _ => exact Nat.succ_pos _

theorem Listed.length_le (described : Forall₂ describes wires items) :
    items.length ≤ wires.flatten.length := by
  induction described with
  | nil => exact zero_le _
  | @cons bytes item wires items describesItem _ inductionHypothesis =>
    have positive := listed.length_pos describesItem
    simp only [flatten_cons, length_append, length_cons]
    omega

theorem Listed.allRows_reads
    (described : Forall₂ describes wires items)
    (rest : List UInt8)
    (shortest : Bool) :
    Reads (allRows record) ⟨wires.flatten ++ (last ++ rest), shortest⟩ items
      ⟨rest, shortest⟩ := by
  apply listed.rows_reads described
  have long := listed.length_le described
  simp only [length_append]
  omega

theorem Listed.rows_written
    {after : Stream} (read : Reads (rows record count) before items after)
    (shortest : after.shortest = true) :
    before.shortest = true ∧ ∃ wires, Forall₂ describes wires items ∧
        before.input = wires.flatten ++ (last ++ after.input) := by
  induction count generalizing before items with
  | zero => cases read
  | succ count inductionHypothesis =>
    rcases reads_rows_succ.mp read with ⟨rfl, readRecord⟩ |
      ⟨item, rest, middle, rfl, readRecord, readRest⟩
    · obtain ⟨beforeShortest, beforeInput⟩ := listed.ended readRecord shortest
      exact ⟨beforeShortest, [], .nil, beforeInput⟩
    obtain ⟨middleShortest, wires, described, middleInput⟩ := inductionHypothesis readRest
    obtain ⟨beforeShortest, bytes, describesItem, beforeInput⟩ :=
      listed.written readRecord middleShortest
    refine ⟨beforeShortest, bytes :: wires, .cons describesItem described, ?_⟩
    rw [beforeInput, middleInput, flatten_cons, append_assoc]

theorem Listed.determined {left right : List (List UInt8)} {leftRest rightRest : List UInt8}
    (describesLeft : Forall₂ describes left items)
    (describesRight : Forall₂ describes right items)
    (same : left.flatten ++ leftRest = right.flatten ++ rightRest) :
    left = right ∧ leftRest = rightRest := by
  induction describesLeft generalizing right with
  | nil =>
    cases describesRight
    exact ⟨rfl, same⟩
  | cons describesHead _ inductionHypothesis =>
    obtain _ | ⟨describesOther, describesRest⟩ := describesRight
    rw [flatten_cons, flatten_cons, append_assoc, append_assoc] at same
    obtain ⟨sameBytes, sameRest⟩ :=
      (listed.spells describesHead).cancel (listed.spells describesOther) same
    obtain ⟨sameWires, sameEnd⟩ := inductionHypothesis describesRest sameRest
    exact ⟨by rw [sameBytes, sameWires], sameEnd⟩

theorem Listed.described : Described (allRows record)
    (fun wires _ => wires.flatten ++ last)
    (Forall₂ describes) where
  reads := by
    intro wires items rest shortest _ described
    rw [append_assoc]
    exact listed.allRows_reads described rest shortest
  written := by
    intro before after items read shortest
    obtain ⟨beforeShortest, wires, described, beforeInput⟩ := listed.rows_written read shortest
    refine ⟨beforeShortest, trivial, wires, described, ?_⟩
    rw [beforeInput, append_assoc]
  determined := by
    intro left right items leftRest rightRest _ describesLeft describesRight same
    rw [append_assoc, append_assoc] at same
    obtain ⟨sameWires, sameRest⟩ := listed.determined describesLeft describesRight same
    exact ⟨sameWires, append_cancel_left sameRest⟩

end Rows

end HouseGate.WireReader
