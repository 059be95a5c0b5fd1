import HouseGate.InsertParser
import HouseGate.SqlSurface

namespace HouseGate.FailoverStatement

open DecimalText AsciiText InsertParser SqlSurface

/-!
# Statements that may move to another upstream

A read may be sent again to a replica host.  `classifyFailoverStatement` takes
for a read what starts with SELECT, and a WITH list that leads a SELECT; the
list is read by its top-level shape only.  `Leads` is that shape as a grammar
over tokens, and the reader accepts nothing outside it.
-/

def isWord (word : String) (token : Token) : Bool :=
  token.kind == .word && equalFold token.text (ascii word)

def isPunct (byte : UInt8) (token : Token) : Bool := token.kind == .punct && token.text == [byte]

def isName (token : Token) : Bool := token.kind == .word || token.kind == .quoted

/-- The tokens behind a group whose opening parenthesis comes first. -/
def skipGroup : Nat → List Token → Option (List Token)
  | _, [] => none
  | depth, token :: rest =>
    if isPunct leftParen token then
      skipGroup (depth + 1) rest
    else if isPunct rightParen token then
      if depth ≤ 1 then some rest else skipGroup (depth - 1) rest
    else
      skipGroup depth rest

variable {tokens rest : List Token}

theorem length_skipGroup {depth : Nat} (skipped : skipGroup depth tokens = some rest) :
    rest.length < tokens.length := by
  induction tokens generalizing depth with
  | nil => cases skipped
  | cons token tokens inductionHypothesis =>
    rw [List.length_cons]
    unfold skipGroup at skipped
    split at skipped
    · have shorter := inductionHypothesis skipped
      omega
    split at skipped
    · split at skipped
      · cases skipped
        omega
      · have shorter := inductionHypothesis skipped
        omega
    · have shorter := inductionHypothesis skipped
      omega

/-- The tokens behind the top-level AS of a list element. -/
def afterAs (started : Bool) : List Token → Option (List Token)
  | [] => none
  | token :: rest =>
    if isWord "AS" token then
      if started then some rest else none
    else if isPunct rightParen token || isPunct comma token then
      none
    else if isPunct leftParen token then
      match skipped : skipGroup 0 (token :: rest) with
      | none => none
      | some behind =>
        have := length_skipGroup skipped
        afterAs true behind
    else
      afterAs true rest
termination_by tokens => tokens.length
decreasing_by
  · assumption
  · simp

/-- The tokens behind the subquery or the alias that AS introduces. -/
def afterDefinition : List Token → Option (List Token)
  | [] => none
  | token :: rest =>
    if isPunct leftParen token then
      skipGroup 0 (token :: rest)
    else if isName token then
      some rest
    else
      none

theorem length_afterAs {started : Bool} (read : afterAs started tokens = some rest) :
    rest.length < tokens.length := by
  fun_induction afterAs started tokens with
  | case1 | case3 | case4 | case5 => cases read
  | case2 =>
    cases read
    simp
  | case6 _ _ _ _ _ _ _ _ shorter inductionHypothesis =>
    exact Nat.lt_trans (inductionHypothesis read) shorter
  | case7 _ _ _ _ _ _ inductionHypothesis =>
    have shorter := inductionHypothesis read
    simp only [List.length_cons]
    omega

theorem length_afterDefinition (read : afterDefinition tokens = some rest) :
    rest.length < tokens.length := by
  unfold afterDefinition at read
  split at read
  · cases read
  split at read
  · exact length_skipGroup read
  · split at read
    · cases read
      simp
    · cases read

/-- Elements separated by commas, and a SELECT behind the last one. -/
def elementsLeadSelect (tokens : List Token) : Bool :=
  match introduced : afterAs false tokens with
  | none => false
  | some definition =>
    match defined : afterDefinition definition with
    | none => false
    | some [] => false
    | some (token :: rest) =>
      if isPunct comma token then
        have := length_afterAs introduced
        have := length_afterDefinition defined
        elementsLeadSelect rest
      else
        isWord "SELECT" token
termination_by tokens.length
decreasing_by
  simp only [List.length_cons] at *
  omega

variable (sql : Bytes)

/-- The first token is the WITH the statement starts with. -/
def withListLeadsASelect : Bool :=
  match scanWith .stringEscapes sql with
  | .error _ => false
  | .ok surfaces =>
    match surfaces.tokens.drop 1 with
    | [] => false
    | token :: rest =>
      if isWord "RECURSIVE" token then elementsLeadSelect rest
      else elementsLeadSelect (token :: rest)

/-- The upper-cased first bare word of a statement. -/
def leadingKeyword : Option Bytes :=
  match bareWord sql with
  | .ok (some word, _) => some (toUpper word)
  | _ => none

/-- The target of a standalone USE. -/
def parseUseDatabaseStrict : Except InsertError (Option Bytes) := do
  let (word, rest) ← bareWord sql
  if word.any (equalFold · (ascii "USE")) then
    let (database, rest) ← identifier rest
    match database with
    | none => return none
    | some database =>
      let behind ← skip rest
      let behind ←
        match take semicolon behind with
        | some rest => skip rest
        | none => pure behind
      return if behind = [] then some database.value else none
  else
    return none

/-- What a statement means for a change of upstream. -/
inductive Kind where
  | other
  | read
  | use (database : Bytes)
  deriving DecidableEq

def classifyFailoverStatement : Kind :=
  match leadingKeyword sql with
  | none => .other
  | some keyword =>
    if keyword = ascii "SELECT" then
      .read
    else if keyword = ascii "WITH" then
      if withListLeadsASelect sql then .read else .other
    else if keyword = ascii "USE" then
      match parseUseDatabaseStrict sql with
      | .ok (some database) =>
        if database = [] then .other else .use database
      | _ => .other
    else
      .other

end HouseGate.FailoverStatement
