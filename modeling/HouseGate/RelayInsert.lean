import HouseGate.InsertPayload

namespace HouseGate.RelayInsert

open DecimalText AsciiText InsertParser InsertPayload List

/-!
# The relay's reading of an INSERT

`queryMayStreamClientData` of `pkg/proxy/relay.go` decides from the query text
whether client data follows it.  Its tokens are those of the ingress scanner,
found by other rules: a carriage return ends a line comment, and a backslash
escapes in every kind of quotes.  The two scanners go in step up to the first
byte for which a rule differs; what the relay answers is then decided by what
it reads from there on.
-/

@[simp] abbrev carriageReturn : UInt8 := 13

/-- The rules of `skipSQLLineComment` and `skipSQLQuoted`. -/
def relayRules : ScanRules :=
  { endsLine := fun value => value == newline || value == carriageReturn
    escapesIn := fun _ => true }

abbrev nextSQLToken : Bytes → Option (StorageSQLToken × Bytes) := relayRules.nextToken

/-- The answers of `insertSourceKeyword`. -/
inductive SourceKeyword where
  | absent
  | format
  | formatInline
  | values
  | select
  | withSelect

/-- Whether client data follows a statement with this source. -/
def SourceKeyword.streams : SourceKeyword → Bool
  | .absent | .format => true
  | .formatInline | .values | .select | .withSelect => false

/-- The answer behind the keyword FORMAT. -/
def formatKeyword (sql : Bytes) : SourceKeyword :=
  match nextSQLToken sql with
  | some (.word _, behind) =>
    if hasInlineData behind then .formatInline else .format
  | _ => .format

/-- The loop of `insertSourceKeyword` behind the first token. -/
def sourceKeywordFrom (depth : Nat) (sql : Bytes) : SourceKeyword :=
  match _read : nextSQLToken sql with
  | none => .absent
  | some (.leftParen, rest) => sourceKeywordFrom (depth + 1) rest
  | some (.rightParen, rest) => sourceKeywordFrom (depth - 1) rest
  | some (.other, rest) => sourceKeywordFrom depth rest
  | some (.word word, rest) =>
    if depth ≠ 0 then
      sourceKeywordFrom depth rest
    else
      match payloadSourceOf word with
      | some .format => formatKeyword rest
      | some .values => .values
      | some .select => .select
      | some .withSelect => .withSelect
      | some .absent | none => sourceKeywordFrom depth rest
termination_by sql.length
decreasing_by
  all_goals exact relayRules.length_nextToken _read

/-- The keyword that a text starting with INSERT takes its data from. -/
def insertSourceKeyword (sql : Bytes) : Option SourceKeyword :=
  match nextSQLToken sql with
  | some (.word word, rest) =>
    if word = ascii "INSERT" then some (sourceKeywordFrom 0 rest) else none
  | _ => none

/-- Whether a query with this body may stream client data. -/
def queryMayStreamClientData (body : Bytes) : Bool :=
  (insertSourceKeyword body).any SourceKeyword.streams

/-! ## Where the scanners part -/

/-- A place in a text, with what the scan is looking for there. -/
inductive Place where
  | opening (sql : Bytes)
  | source (depth : Nat) (sql : Bytes)
  | formatName (sql : Bytes)

/-- What the relay answers if it goes on from a place. -/
def Place.streams : Place → Bool
  | .opening sql => queryMayStreamClientData sql
  | .source depth sql => (sourceKeywordFrom depth sql).streams
  | .formatName sql => (formatKeyword sql).streams

variable {sql encoding : Bytes}

end HouseGate.RelayInsert
