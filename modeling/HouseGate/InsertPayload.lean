import HouseGate.InsertParser
import HouseGate.Utf8Text

namespace HouseGate.InsertPayload

open DecimalText AsciiText InsertParser Utf8Text List

/-!
# The payload source of an INSERT

`InsertPayloadEncoding` with the token scanner it uses, which is not the one of
the target parser: it skips quoted text anywhere, takes any hash sign for a
comment and ends a block comment at the first closer.  The relay has a scanner
of its own with two other rules, so the rules are a parameter.
-/

/-- A token; words are in upper case. -/
inductive StorageSQLToken where
  | other
  | word (text : Bytes)
  | leftParen
  | rightParen
  deriving DecidableEq

/-- What is left behind a block comment; an unclosed one leaves one byte. -/
def behindBlockComment : Bytes → Bytes
  | first :: second :: rest =>
    if first = star ∧ second = slash then rest else behindBlockComment (second :: rest)
  | rest => rest

variable (sql : Bytes)

theorem behindBlockComment_suffix : behindBlockComment sql <:+ sql := by
  induction sql with
  | nil =>
    exact suffix_rfl
  | cons first tail inductionHypothesis =>
    cases tail with
    | nil =>
      exact suffix_rfl
    | cons second rest =>
      change (if first = star ∧ second = slash then rest
        else behindBlockComment (second :: rest)) <:+ first :: second :: rest
      split
      · exact (suffix_cons _ _).trans (suffix_cons _ _)
      · exact inductionHypothesis.trans (suffix_cons _ _)

/-- The token that starts at a byte outside blanks and quotes, and the text behind it. -/
def tokenAt (value : UInt8) (rest : Bytes) : StorageSQLToken × Bytes :=
  if value = leftParen then
    (.leftParen, rest)
  else if value = rightParen then
    (.rightParen, rest)
  else if isWordStart value then
    (.word (toUpper (value :: rest.takeWhile isWordPart)), rest.dropWhile isWordPart)
  else
    (.other, rest)

theorem tokenAt_suffix (value : UInt8) (rest : Bytes) : (tokenAt value rest).2 <:+ rest := by
  unfold tokenAt
  split_ifs
  · exact suffix_rfl
  · exact suffix_rfl
  · exact dropWhile_suffix _
  · exact suffix_rfl

/-- What two scanners of INSERT texts may do differently. -/
structure ScanRules where
  /-- The bytes that a line comment ends at. -/
  endsLine : UInt8 → Bool
  /-- The quotes in which a backslash escapes. -/
  escapesIn : UInt8 → Bool

namespace ScanRules

variable (rules : ScanRules)

/-- What is left behind a line comment, from its line end on. -/
def behindLineComment : Bytes := sql.dropWhile fun value => !rules.endsLine value

theorem behindLineComment_suffix : rules.behindLineComment sql <:+ sql := dropWhile_suffix _

/-- What is left behind blanks and comments. -/
def skipSpaceAndComments (sql : Bytes) : Bytes :=
  match sql with
  | [] => []
  | value :: rest =>
    if isStorageSpace value then
      skipSpaceAndComments rest
    else if value = hash then
      skipSpaceAndComments (rules.behindLineComment rest)
    else if value = dash ∧ rest.head? = some dash then
      skipSpaceAndComments (rules.behindLineComment rest.tail)
    else if value = slash ∧ rest.head? = some star then
      skipSpaceAndComments (behindBlockComment rest.tail)
    else
      value :: rest
termination_by sql.length
decreasing_by
  · simp
  · have comment := (rules.behindLineComment_suffix rest).length_le
    simp only [length_cons]
    omega
  · have comment := (rules.behindLineComment_suffix rest.tail).length_le
    simp only [length_tail] at comment
    simp only [length_cons]
    omega
  · have comment := (behindBlockComment_suffix rest.tail).length_le
    simp only [length_tail] at comment
    simp only [length_cons]
    omega

theorem skipSpaceAndComments_suffix : rules.skipSpaceAndComments sql <:+ sql := by
  fun_induction skipSpaceAndComments rules sql with
  | case1 | case6 =>
    exact suffix_rfl
  | case2 _ _ _ inductionHypothesis =>
    exact inductionHypothesis.trans (suffix_cons _ _)
  | case3 rest _ inductionHypothesis =>
    exact (inductionHypothesis.trans (dropWhile_suffix _)).trans (suffix_cons _ _)
  | case4 _ rest _ _ _ inductionHypothesis =>
    exact ((inductionHypothesis.trans (dropWhile_suffix _)).trans
      (tail_suffix _)).trans (suffix_cons _ _)
  | case5 _ rest _ _ _ _ inductionHypothesis =>
    exact ((inductionHypothesis.trans
      (behindBlockComment_suffix _)).trans (tail_suffix _)).trans (suffix_cons _ _)

/-- What is left behind quoted text after its opening quote. -/
def skipQuoted (delimiter : UInt8) : Bytes → Bytes
  | [] => []
  | value :: rest =>
    if rules.escapesIn delimiter ∧ value = backslash then
      match rest with
      | [] => []
      | _ :: rest => skipQuoted delimiter rest
    else if value = delimiter then
      match rest with
      | [] => []
      | following :: rest =>
        if following = delimiter then skipQuoted delimiter rest else following :: rest
    else
      skipQuoted delimiter rest

theorem skipQuoted_suffix (delimiter : UInt8) (sql : Bytes) :
    rules.skipQuoted delimiter sql <:+ sql := by
  fun_induction skipQuoted rules delimiter sql with
  | case1 =>
    exact suffix_rfl
  | case2 | case4 =>
    exact nil_suffix
  | case6 =>
    exact suffix_cons _ _
  | case3 _ _ _ _ inductionHypothesis | case5 _ _ inductionHypothesis =>
    exact (inductionHypothesis.trans (suffix_cons _ _)).trans (suffix_cons _ _)
  | case7 _ _ _ _ inductionHypothesis =>
    exact inductionHypothesis.trans (suffix_cons _ _)

/-- The next token outside quotes and the text behind it. -/
def nextToken (sql : Bytes) : Option (StorageSQLToken × Bytes) :=
  match _skipped : rules.skipSpaceAndComments sql with
  | [] => none
  | value :: rest =>
    if value = quote ∨ value = doubleQuote ∨ value = backtick then
      nextToken (rules.skipQuoted value rest)
    else
      some (tokenAt value rest)
termination_by sql.length
decreasing_by
  have blanks := (rules.skipSpaceAndComments_suffix sql).length_le
  have token := (rules.skipQuoted_suffix value rest).length_le
  rw [_skipped] at blanks
  simp only [length_cons] at blanks
  omega

/-- A token takes at least one byte off the text. -/
theorem length_nextToken {sql next : Bytes} {token : StorageSQLToken}
    (read : rules.nextToken sql = some (token, next)) :
    next.length < sql.length := by
  have behind {sql rest next : Bytes} {value : UInt8}
      (skipped : rules.skipSpaceAndComments sql = value :: rest) (short : next <:+ rest) :
      next.length < sql.length := by
    have blanks := rules.skipSpaceAndComments_suffix sql
    rw [skipped] at blanks
    exact short.length_le.trans_lt blanks.length_le
  fun_induction nextToken rules sql with
  | case1 =>
    cases read
  | case2 sql value rest skipped _ inductionHypothesis =>
    exact (inductionHypothesis read).trans
      (behind skipped (rules.skipQuoted_suffix value rest))
  | case3 sql value rest skipped =>
    have short := tokenAt_suffix value rest
    rw [Option.some.inj read] at short
    exact behind skipped short

section Openings

variable {value : UInt8} {rest : Bytes}

variable (notBlank : ¬isStorageSpace value = true)

include notBlank

variable (notHash : value ≠ hash)

include notHash

variable (notDashes : ¬(value = dash ∧ rest.head? = some dash))

include notDashes

end Openings

end ScanRules

/-- The keyword that a statement's rows come behind. -/
inductive PayloadSource where
  | absent
  | format
  | values
  | select
  | withSelect
  deriving DecidableEq

/-- The keyword that a top-level word selects. -/
def payloadSourceOf (word : Bytes) : Option PayloadSource :=
  if word = ascii "FORMAT" then
    some .format
  else if word = ascii "VALUES" then
    some .values
  else if word = ascii "SELECT" then
    some .select
  else if word = ascii "WITH" then
    some .withSelect
  else
    none

/-- Whether data follows a format name, but for one final semicolon. -/
def hasInlineData (behind : Bytes) : Bool :=
  let rest := trimUnicodeSpace behind
  let rest :=
    if rest.getLast? = some semicolon then rest.dropLast else rest
  trimUnicodeSpace rest != []

end HouseGate.InsertPayload
