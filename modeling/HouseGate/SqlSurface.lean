import HouseGate.AsciiText

namespace HouseGate.SqlSurface

open DecimalText AsciiText List

/-!
# The lexical surfaces of a SQL text

`ScanWith` splits a text into the executable text with literals blanked, the
same text with literals kept, and a token stream.  Offsets of the source are
suffixes here: a function that advances returns what is left of the text.  A
bare word is carried along until the byte that ends it.
-/

/-- Why a text was not scanned. -/
inductive ScanError where
  | stringLiteralBackslash
  | escapedQuotedIdentifier
  | strayDollar
  | bareHash
  | nonASCII
  | undecodableStringEscape
  | undecodableIdentifierEscape
  | unterminatedStringLiteral
  | unterminatedHeredoc
  | unterminatedBlockComment
  | unterminatedQuotedIdentifier
  deriving DecidableEq

/-- The kinds of token. -/
inductive TokenKind where
  | word
  | quoted
  | string
  | punct
  deriving DecidableEq

/-- A token and its text. -/
structure Token where
  kind : TokenKind
  text : Bytes
  deriving DecidableEq

/-- A text without comments, with its tokens. -/
structure Surfaces where
  outsideLiterals : Bytes
  withLiterals : Bytes
  tokens : List Token
  deriving DecidableEq

/-- The escapes that a caller admits. -/
structure Options where
  allowStringEscapes : Bool
  decodeStringEscapes : Bool
  decodeIdentifierEscapes : Bool

/-- The options of a scan that keeps string escapes as written. -/
def Options.stringEscapes : Options := ⟨true, false, false⟩

variable (value : UInt8)

def isIdentifierByte : Bool := isWordPart value

def isSpace : Bool :=
  value == 32 || value == 9 || value == 10 || value == 13 || value == 12 || value == 11

def isHexDigit : Bool :=
  isDigit value || (97 ≤ value && value ≤ 102) || (65 ≤ value && value ≤ 70)

def hexValue : UInt8 :=
  if 97 ≤ value then
    value - 97 + 10
  else if 65 ≤ value then
    value - 65 + 10
  else
    value - 48

/-- What a backslash followed by a byte other than `x` stands for. -/
def decodeEscape : Bytes :=
  if value = 48 then [0]
  else if value = 78 then []
  else if value = 97 then [7]
  else if value = 98 then [8]
  else if value = 101 then [27]
  else if value = 102 then [12]
  else if value = 110 then [10]
  else if value = 114 then [13]
  else if value = 116 then [9]
  else if value = 118 then [11]
  else if value = doubleQuote ∨ value = quote ∨ value = slash ∨
      value = equals ∨ value = backslash ∨ value = backtick then
    [value]
  else if value < 32 then [value]
  else [backslash, value]

/-- Decode the escape of a byte that follows a backslash. -/
def decodeBackslash (undecodable : ScanError) (escaped : UInt8)
    (rest : Bytes) : Except ScanError (Bytes × Bytes) :=
  if escaped = 120 then
    match rest with
    | high :: low :: rest =>
      if isHexDigit high && isHexDigit low then
        .ok ([hexValue high <<< 4 ||| hexValue low], rest)
      else
        .error undecodable
    | _ => .error undecodable
  else
    .ok (decodeEscape escaped, rest)

variable {next : Bytes}

theorem length_decodeBackslash
    {undecodable : ScanError}
    {escaped : UInt8}
    {rest text : Bytes}
    (decoded : decodeBackslash undecodable escaped rest = .ok (text, next)) :
    next.length ≤ rest.length := by
  unfold decodeBackslash at decoded
  split at decoded
  · split at decoded
    · split at decoded
      · cases decoded
        simp
        omega
      · cases decoded
    · cases decoded
  · cases decoded
    exact le_refl _

/-- Put text in front of what a consumer read. -/
def prepend (text : Bytes) : Except ScanError (Bytes × Bytes) → Except ScanError (Bytes × Bytes)
  | .error failure => .error failure
  | .ok (later, rest) => .ok (text ++ later, rest)

/-- The literal after an opening single quote and the text behind it. -/
def consumeStringLiteral (opts : Options) (sql : Bytes) : Except ScanError (Bytes × Bytes) :=
  match sql with
  | [] => .error .unterminatedStringLiteral
  | value :: rest =>
    if value = backslash then
      if !opts.allowStringEscapes && !opts.decodeStringEscapes then
        .error .stringLiteralBackslash
      else
        match rest with
        | [] => .error .unterminatedStringLiteral
        | escaped :: rest =>
          if !opts.decodeStringEscapes then
            prepend [value, escaped] (consumeStringLiteral opts rest)
          else
            match _decoded : decodeBackslash .undecodableStringEscape escaped rest with
            | .error failure => .error failure
            | .ok (text, next) => prepend text (consumeStringLiteral opts next)
    else if value = quote then
      match rest with
      | [] => .ok ([], [])
      | following :: rest =>
        if following = quote then
          prepend [if opts.decodeStringEscapes then quote else space]
            (consumeStringLiteral opts rest)
        else
          .ok ([], following :: rest)
    else
      prepend [value] (consumeStringLiteral opts rest)
termination_by sql.length
decreasing_by
  · simp
  · have shorter := length_decodeBackslash _decoded
    simp
    omega
  · simp
  · simp

/-- The name after an opening delimiter and the text behind it. -/
def consumeQuotedIdentifier (opts : Options) (delimiter : UInt8)
    (sql : Bytes) : Except ScanError (Bytes × Bytes) :=
  match sql with
  | [] => .error .unterminatedQuotedIdentifier
  | value :: rest =>
    if value = backslash then
      if !opts.decodeIdentifierEscapes then
        .error .escapedQuotedIdentifier
      else
        match rest with
        | [] => .error .unterminatedQuotedIdentifier
        | escaped :: rest =>
          match _decoded : decodeBackslash .undecodableIdentifierEscape escaped rest with
          | .error failure => .error failure
          | .ok (text, next) => prepend text (consumeQuotedIdentifier opts delimiter next)
    else if value ≠ delimiter then
      prepend [value] (consumeQuotedIdentifier opts delimiter rest)
    else
      match rest with
      | [] => .ok ([], [])
      | following :: rest =>
        if following = delimiter then
          prepend [delimiter] (consumeQuotedIdentifier opts delimiter rest)
        else
          .ok ([], following :: rest)
termination_by sql.length
decreasing_by
  · have shorter := length_decodeBackslash _decoded
    simp
    omega
  · simp
  · simp

/-- The line feed that ends a line comment stays in the text. -/
def consumeLineComment (sql : Bytes) : Bytes := sql.dropWhile fun value => value != newline

/-- The text behind a block comment, with the openers still to be closed. -/
def consumeBlockComment : Nat → Bytes → Except ScanError Bytes
  | depth, first :: second :: rest =>
    if first = slash ∧ second = star then
      consumeBlockComment (depth + 1) rest
    else if first = star ∧ second = slash then
      if depth = 1 then .ok rest else consumeBlockComment (depth - 1) rest
    else
      consumeBlockComment depth (second :: rest)
  | _, _ => .error .unterminatedBlockComment

def isHeredocTagByte (leading : Bool) : Bool :=
  isWordStart value || (!leading && isDigit value)

/-- Cut a text at the first occurrence of a delimiter. -/
def cutAt (delimiter : Bytes) : Bytes → Option (Bytes × Bytes)
  | [] =>
    if delimiter = [] then some ([], []) else none
  | value :: rest =>
    if delimiter.isPrefixOf (value :: rest) then
      some ([], (value :: rest).drop delimiter.length)
    else
      (cutAt delimiter rest).map fun (body, behind) => (value :: body, behind)

/-- The longest tag at the front of a text. -/
def heredocTag : Bytes → Bytes
  | [] => []
  | value :: rest =>
    if isHeredocTagByte value true then
      value :: rest.takeWhile fun later => isHeredocTagByte later false
    else
      []

/-- The body after an opening dollar sign and the text behind it. -/
def consumeHeredoc (sql : Bytes) : Except ScanError (Bytes × Bytes) :=
  let tag := heredocTag sql
  match sql.drop tag.length with
  | value :: rest =>
    if value = dollar then
      match cutAt ([dollar] ++ tag ++ [dollar]) rest with
      | none => .error .unterminatedHeredoc
      | some (body, behind) => .ok (body, behind)
    else
      .error .strayDollar
  | [] => .error .strayDollar

variable {read : Except ScanError (Bytes × Bytes)}

theorem prepend_eq_ok
    {text later rest : Bytes} (prepended : prepend text read = .ok (later, rest)) :
    ∃ tail, read = .ok (tail, rest) ∧ later = text ++ tail := by
  cases read with
  | error failure => cases prepended
  | ok pair =>
    obtain ⟨tail, behind⟩ := pair
    cases prepended
    exact ⟨tail, rfl, rfl⟩

theorem length_of_prepend
    {text literal : Bytes}
    {bound : Nat}
    (prepended : prepend text read = .ok (literal, next))
    (short : ∀ {tail : Bytes}, read = .ok (tail, next) → next.length ≤ bound) :
    next.length ≤ bound := by
  obtain ⟨tail, same, -⟩ := prepend_eq_ok prepended
  exact short same

variable {opts : Options} {sql : Bytes}

theorem length_consumeStringLiteral
    {literal : Bytes} (consumed : consumeStringLiteral opts sql = .ok (literal, next)) :
    next.length ≤ sql.length := by
  fun_induction consumeStringLiteral opts sql generalizing literal with
  | case1 | case2 | case3 | case5 => cases consumed
  | case4 _ _ _ _ inductionHypothesis | case8 _ _ inductionHypothesis
  | case10 _ _ _ _ inductionHypothesis =>
    have short := length_of_prepend consumed inductionHypothesis
    simp only [length_cons]
    omega
  | case6 _ _ _ _ _ _ decoded inductionHypothesis =>
    have short := length_of_prepend consumed inductionHypothesis
    have shorter := length_decodeBackslash decoded
    simp only [length_cons]
    omega
  | case7 | case9 =>
    cases consumed
    simp

theorem length_consumeQuotedIdentifier {delimiter : UInt8} {identifier : Bytes}
    (consumed : consumeQuotedIdentifier opts delimiter sql = .ok (identifier, next)) :
    next.length ≤ sql.length := by
  fun_induction consumeQuotedIdentifier opts delimiter sql generalizing identifier with
  | case1 | case2 | case3 | case4 => cases consumed
  | case5 _ _ _ _ _ decoded inductionHypothesis =>
    have short := length_of_prepend consumed inductionHypothesis
    have shorter := length_decodeBackslash decoded
    simp only [length_cons]
    omega
  | case6 _ _ _ _ inductionHypothesis | case8 _ _ _ _ inductionHypothesis =>
    have short := length_of_prepend consumed inductionHypothesis
    simp only [length_cons]
    omega
  | case7 | case9 =>
    cases consumed
    simp

theorem length_consumeLineComment (sql : Bytes) : (consumeLineComment sql).length ≤ sql.length :=
  (dropWhile_sublist _).length_le

theorem length_consumeBlockComment
    {depth : Nat} (consumed : consumeBlockComment depth sql = .ok next) :
    next.length ≤ sql.length := by
  fun_induction consumeBlockComment depth sql with
  | case1 _ _ _ _ _ inductionHypothesis | case3 _ _ _ _ _ _ _ inductionHypothesis =>
    have short := inductionHypothesis consumed
    simp only [length_cons]
    omega
  | case2 =>
    cases consumed
    simp only [length_cons]
    omega
  | case4 _ _ _ _ _ _ inductionHypothesis =>
    have short := inductionHypothesis consumed
    simp only [length_cons] at short ⊢
    omega
  | case5 => cases consumed

theorem length_cutAt
    {delimiter body behind : Bytes} (cut : cutAt delimiter sql = some (body, behind)) :
    behind.length ≤ sql.length := by
  induction sql generalizing body with
  | nil =>
    simp only [cutAt] at cut
    split at cut <;> cases cut
    exact le_refl _
  | cons value rest inductionHypothesis =>
    simp only [cutAt] at cut
    split at cut
    · cases cut
      simp
    cases later : cutAt delimiter rest with
    | none => simp [later] at cut
    | some pair =>
      simp only [later, Option.map_some, Option.some.injEq, Prod.mk.injEq] at cut
      obtain ⟨-, same⟩ := cut
      subst same
      have short := inductionHypothesis later
      simp only [length_cons]
      omega

theorem length_consumeHeredoc {body : Bytes} (consumed : consumeHeredoc sql = .ok (body, next)) :
    next.length ≤ sql.length := by
  unfold consumeHeredoc at consumed
  simp only at consumed
  split at consumed
  · rename_i value rest dropped
    have short := congrArg length dropped
    simp only [length_drop, length_cons] at short
    split at consumed
    · split at consumed
      · cases consumed
      · rename_i cut
        cases consumed
        have behind := length_cutAt cut
        omega
    · cases consumed
  · cases consumed

/-- End the bare word that is being read, if any. -/
def flushWord (word : Bytes) (tokens : List Token) : List Token :=
  if word = [] then tokens else ⟨.word, word⟩ :: tokens

/-- The surfaces of a blank followed by other surfaces. -/
def Surfaces.afterBlank (word : Bytes) (later : Surfaces) : Surfaces where
  outsideLiterals := space :: later.outsideLiterals
  withLiterals := space :: later.withLiterals
  tokens := flushWord word later.tokens

/-- The surfaces of a string literal or heredoc followed by others. -/
def Surfaces.afterString (word literal : Bytes) (later : Surfaces) : Surfaces where
  outsideLiterals := space :: later.outsideLiterals
  withLiterals := [space] ++ literal ++ [space] ++ later.withLiterals
  tokens := flushWord word (⟨.string, literal⟩ :: later.tokens)

/-- The surfaces of a quoted identifier followed by others. -/
def Surfaces.afterQuoted (word identifier : Bytes) (later : Surfaces) : Surfaces where
  outsideLiterals := [space] ++ identifier ++ [space] ++ later.outsideLiterals
  withLiterals := [space] ++ identifier ++ [space] ++ later.withLiterals
  tokens := flushWord word (⟨.quoted, identifier⟩ :: later.tokens)

/-- The surfaces of one copied byte followed by others. -/
def Surfaces.afterByte (tokens : List Token) (later : Surfaces) : Surfaces where
  outsideLiterals := value :: later.outsideLiterals
  withLiterals := value :: later.withLiterals
  tokens := tokens

/-- What the loop of `ScanWith` reads in one round. -/
inductive Piece where
  | string (literal : Bytes)
  | comment
  | quoted (identifier : Bytes)
  | wordByte (value : UInt8)
  | blank (value : UInt8)
  | punct (value : UInt8)

/-- The bare word that goes on behind a piece. -/
def Piece.carry (word : Bytes) : Piece → Bytes
  | .wordByte value => word ++ [value]
  | _ => []

/-- The surfaces of a piece followed by others. -/
def Piece.join (word : Bytes) (later : Surfaces) : Piece → Surfaces
  | .string literal => later.afterString word literal
  | .comment => later.afterBlank word
  | .quoted identifier => later.afterQuoted word identifier
  | .wordByte value => later.afterByte value later.tokens
  | .blank value => later.afterByte value (flushWord word later.tokens)
  | .punct value => later.afterByte value (flushWord word (⟨.punct, [value]⟩ :: later.tokens))

/--
One round of the loop of `ScanWith` from inside or outside a bare word.  The
byte before a dollar sign is an identifier byte exactly when a word is being
read.
-/
def readPiece (opts : Options) (word : Bytes) (value : UInt8)
    (rest : Bytes) : Except ScanError (Piece × Bytes) :=
  if value = quote then
    (consumeStringLiteral opts rest).map fun (literal, next) => (.string literal, next)
  else if value = hash ∧ rest.head? ≠ some space ∧ rest.head? ≠ some bang then
    .error .bareHash
  else if (value = dash ∧ rest.head? = some dash) ∨
      (value = slash ∧ rest.head? = some slash) ∨ value = hash then
    .ok (.comment, consumeLineComment rest)
  else if value = slash ∧ rest.head? = some star then
    (consumeBlockComment 1 rest.tail).map fun next => (.comment, next)
  else if value = backtick ∨ value = doubleQuote then
    (consumeQuotedIdentifier opts value rest).map fun (identifier, next) =>
      (.quoted identifier, next)
  else if value = dollar then
    if word ≠ [] then
      .error .strayDollar
    else
      (consumeHeredoc rest).map fun (body, next) => (.string body, next)
  else if 128 ≤ value then
    .error .nonASCII
  else if isIdentifierByte value then
    .ok (.wordByte value, rest)
  else if isSpace value then
    .ok (.blank value, rest)
  else
    .ok (.punct value, rest)

theorem map_eq_ok
    {ε α β : Type}
    {read : Except ε α}
    {change : α → β}
    {result : β}
    (mapped : read.map change = .ok result) :
    ∃ answer, read = .ok answer ∧ change answer = result := by
  cases read with
  | error failure => cases mapped
  | ok answer => exact ⟨answer, rfl, Except.ok.inj mapped⟩

theorem length_readPiece
    {value : UInt8}
    {opts : Options}
    {word rest next : Bytes}
    {piece : Piece}
    (read : readPiece opts word value rest = .ok (piece, next)) :
    next.length ≤ rest.length := by
  unfold readPiece at read
  split_ifs at read
  · obtain ⟨⟨literal, behind⟩, consumed, same⟩ := map_eq_ok read
    cases same
    exact length_consumeStringLiteral consumed
  · cases read
    exact length_consumeLineComment rest
  · obtain ⟨behind, consumed, same⟩ := map_eq_ok read
    cases same
    exact (length_consumeBlockComment consumed).trans (by simp)
  · obtain ⟨⟨identifier, behind⟩, consumed, same⟩ := map_eq_ok read
    cases same
    exact length_consumeQuotedIdentifier consumed
  · obtain ⟨⟨body, behind⟩, consumed, same⟩ := map_eq_ok read
    cases same
    exact length_consumeHeredoc consumed
  · cases read
    exact le_rfl
  · cases read
    exact le_rfl
  · cases read
    exact le_rfl

/-- The loop of `ScanWith`. -/
def scanFrom (opts : Options) (word sql : Bytes) : Except ScanError Surfaces :=
  match sql with
  | [] => .ok ⟨[], [], flushWord word []⟩
  | value :: rest =>
    match _read : readPiece opts word value rest with
    | .error failure => .error failure
    | .ok (piece, next) => (scanFrom opts (piece.carry word) next).map (piece.join word)
termination_by sql.length
decreasing_by exact Nat.lt_succ_of_le (length_readPiece _read)

def scanWith (opts : Options) (sql : Bytes) : Except ScanError Surfaces := scanFrom opts [] sql

end HouseGate.SqlSurface
