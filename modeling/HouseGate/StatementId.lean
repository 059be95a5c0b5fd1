import HouseGate.AsciiText
import HouseGate.LanePool

namespace HouseGate.StatementId

open DecimalText AsciiText Utf8Text LanePool

/-!
# Statement ids

The flat forms `account:seq:nonce` and `account:lane:seq:nonce`, their parser
and `ownLanedStatementID`, which decides whether a query id that a client sent
is a statement id of the agent's own account.
-/

def colon : UInt8 := 58

/-- The lane is empty for the legacy default lane. -/
structure StatementID where
  account : Bytes
  lane : Lane
  seq : Nat
  nonce : Bytes
  deriving DecidableEq

/-- Why a text is no statement id. -/
inductive IdError where
  | shape
  | lane (lane : Bytes)
  | account
  | seqNotCanonical
  | seqZero
  | nonce
  deriving DecidableEq

def toLowerByte (byte : UInt8) : UInt8 :=
  if isUpper byte then byte + 32 else byte

/-- `strings.ToLower` on the ASCII part of a text. -/
def toLower (text : Bytes) : Bytes := text.map toLowerByte

def isLowerHex (text : Bytes) : Bool := text != [] && text.all isLowerHexByte

def isDecimalDigits (text : Bytes) : Bool := text != [] && text.all isDigit

/-- The checks on the parts that both forms share. -/
def statementIDOf (account : Bytes) (lane : Lane)
    (seqText nonce : Bytes) : Except IdError StatementID :=
  if account = [] ∨ seqText = [] ∨ nonce = [] then
    .error .shape
  else if account ≠ toLower account ∨
      ¬ (ascii "0x").isPrefixOf account ∨ ¬ isLowerHex (account.drop 2) then
    .error .account
  else if (1 < seqText.length ∧ seqText.head? = some 48) ∨ ¬ isDecimalDigits seqText then
    .error .seqNotCanonical
  else
    match parseUint seqText with
    | none => .error .seqZero
    | some seq =>
      if seq = 0 then
        .error .seqZero
      else if trimUnicodeSpace nonce ≠ nonce then
        .error .nonce
      else
        .ok ⟨account, lane, seq, nonce⟩

def parseStatementID (flat : Bytes) : Except IdError StatementID :=
  match flat.splitOn colon with
  | [account, seqText, nonce] => statementIDOf account [] seqText nonce
  | [account, lane, seqText, nonce] =>
    if validClientLane lane then statementIDOf account lane seqText nonce else .error (.lane lane)
  | _ => .error .shape

def StatementID.flat (id : StatementID) : Bytes :=
  if id.lane = [] then
    id.account ++ colon :: formatUint id.seq ++ colon :: id.nonce
  else
    id.account ++ colon :: id.lane ++ colon :: formatUint id.seq ++ colon :: id.nonce

example : parseStatementID (ascii "0xab:7:n") = .ok ⟨ascii "0xab", [], 7, ascii "n"⟩ := by
  decide +kernel

/-- Why an id of the agent's own does not fit its lane. -/
inductive OwnIdError where
  | useLane (lane : Lane)
  | legacyWhileLanesOff

/--
The agent's own statement id in a query id, if it is one.  The account of an
agent is ASCII, so the comparison without regard to case is one of bytes.
-/
def ownLanedStatementID (queryID ownAccount : Bytes)
    (lane : Lane) : Except OwnIdError (Option StatementID) :=
  let trimmed := trimUnicodeSpace queryID
  let account := trimmed.takeWhile (· ≠ colon)
  match trimmed.dropWhile (· ≠ colon) with
  | [] => .ok none
  | _ :: rest =>
    if ¬ equalFold account ownAccount then
      .ok none
    else
      let segments := rest.splitOn colon
      if lane ≠ [] ∧ (segments.length ≠ 3 ∨ segments.head? ≠ some lane) then
        .error (.useLane lane)
      else if lane = [] ∧ segments.length = 3 then
        .error .legacyWhileLanesOff
      else
        match parseStatementID (toLower account ++ colon :: rest) with
        | .error _ => .ok none
        | .ok id =>
          if id.account = toLower ownAccount then .ok (some id) else .ok none

end HouseGate.StatementId
