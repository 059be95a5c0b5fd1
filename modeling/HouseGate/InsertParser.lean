import HouseGate.AsciiText

namespace HouseGate.InsertParser

open DecimalText AsciiText List

/-!
# The INSERT parser of the signed lane

`ParseInsertTarget` with its scanner.  A position of the scanner is the text
that is left.
-/

/-- Why a text names no INSERT target. -/
inductive InsertError where
  | notInsert
  | insertIntoFunction
  | backslashEscapedIdentifier
  | nestedBlockComment
  | bareHash
  | unterminatedBlockComment
  | emptyQuotedIdentifier
  | unterminatedQuotedIdentifier
  | requiresInto
  | requiresTarget
  | requiresTableTarget
  | emptyTableSegment
  | tooManySegments
  deriving DecidableEq

def isStorageSpace (value : UInt8) : Bool :=
  value == 32 || value == 9 || value == 10 || value == 13 || value == 12

def isStorageIdentStart (value : UInt8) : Bool := isWordStart value

def isStorageIdentPart (value : UInt8) : Bool := isWordPart value

/-! ## The scanner -/

/-- The text behind a block comment; a second opener is refused. -/
def skipBlockComment : Bytes → Except InsertError Bytes
  | first :: second :: rest =>
    if first = slash ∧ second = star then
      .error .nestedBlockComment
    else if first = star ∧ second = slash then
      .ok rest
    else
      skipBlockComment (second :: rest)
  | _ => .error .unterminatedBlockComment

/-- The line feed that ends a line comment stays in the text. -/
def skipLineComment (sql : Bytes) : Bytes := sql.dropWhile fun value => value != newline

variable {sql next : Bytes}

theorem length_skipBlockComment (skipped : skipBlockComment sql = .ok next) :
    next.length ≤ sql.length := by
  fun_induction skipBlockComment sql with
  | case1 | case4 => cases skipped
  | case2 =>
    cases skipped
    simp only [length_cons]
    omega
  | case3 _ _ _ _ _ inductionHypothesis =>
    have short := inductionHypothesis skipped
    simp only [length_cons] at short ⊢
    omega

theorem length_skipLineComment (sql : Bytes) : (skipLineComment sql).length ≤ sql.length :=
  (dropWhile_sublist _).length_le

/-- White space and comments in front of a token. -/
def skip (sql : Bytes) : Except InsertError Bytes :=
  match sql with
  | [] => .ok []
  | value :: rest =>
    if isStorageSpace value then
      skip rest
    else if value = hash then
      if rest.head? ≠ some space ∧ rest.head? ≠ some bang then
        .error .bareHash
      else
        skip (skipLineComment rest.tail)
    else if value = dash ∧ rest.head? = some dash then
      skip (skipLineComment rest.tail)
    else if value = slash ∧ rest.head? = some star then
      match _skipped : skipBlockComment rest.tail with
      | .error failure => .error failure
      | .ok next => skip next
    else
      .ok (value :: rest)
termination_by sql.length
decreasing_by
  · simp
  · have short := length_skipLineComment rest.tail
    simp only [length_tail] at short
    simp only [length_cons]
    omega
  · have short := length_skipLineComment rest.tail
    simp only [length_tail] at short
    simp only [length_cons]
    omega
  · have short := length_skipBlockComment _skipped
    simp only [length_tail] at short
    simp only [length_cons]
    omega

/-- The word at the front of a text and what follows it. -/
def takeBareWord : Bytes → Bytes × Bytes
  | [] => ([], [])
  | value :: rest => (value :: rest.takeWhile isStorageIdentPart, rest.dropWhile isStorageIdentPart)

/-- The bare word at a position behind blanks. -/
def bareWordAt : Bytes → Option Bytes × Bytes
  | [] => (none, [])
  | value :: rest =>
    if isStorageIdentStart value then
      let (word, next) := takeBareWord (value :: rest)
      (some word, next)
    else
      (none, value :: rest)

def bareWord (sql : Bytes) : Except InsertError (Option Bytes × Bytes) := (skip sql).map bareWordAt

/-- A quoted identifier after its opening quote, still possibly empty. -/
def quotedIdentifier (delimiter : UInt8) : Bytes → Except InsertError (Bytes × Bytes)
  | [] => .error .unterminatedQuotedIdentifier
  | value :: rest =>
    if value = backslash then
      .error .backslashEscapedIdentifier
    else if value = delimiter then
      match rest with
      | [] => .ok ([], [])
      | following :: rest =>
        if following = delimiter then
          (quotedIdentifier delimiter rest).map fun (name, next) => (delimiter :: name, next)
        else
          .ok ([], following :: rest)
    else
      (quotedIdentifier delimiter rest).map fun (name, next) => (value :: name, next)

/-- A name, and whether it was quoted. -/
structure Identifier where
  value : Bytes
  quoted : Bool

/-- The identifier at a position behind blanks. -/
def identifierAt : Bytes → Except InsertError (Option Identifier × Bytes)
  | [] => .ok (none, [])
  | value :: rest =>
    if value = backtick ∨ value = doubleQuote then
      match quotedIdentifier value rest with
      | .error failure => .error failure
      | .ok (name, next) =>
        if name = [] then .error .emptyQuotedIdentifier else .ok (some ⟨name, true⟩, next)
    else if isStorageIdentStart value then
      let (word, next) := takeBareWord (value :: rest)
      .ok (some ⟨word, false⟩, next)
    else
      .ok (none, value :: rest)

def identifier (sql : Bytes) : Except InsertError (Option Identifier × Bytes) := do
  identifierAt (← skip sql)

/-- The text behind an expected byte. -/
def take (expected : UInt8) : Bytes → Option Bytes
  | [] => none
  | value :: rest =>
    if value = expected then some rest else none

/-! ## The target -/

/-- The table that an INSERT writes to. -/
structure InsertTarget where
  database : Bytes
  table : Bytes
  explicitDatabase : Bool

end HouseGate.InsertParser
