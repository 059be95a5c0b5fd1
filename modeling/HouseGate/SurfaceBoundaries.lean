import HouseGate.SqlSurface

namespace HouseGate.SqlSurface

open DecimalText AsciiText Token

/-!
# Token boundaries do not depend on the options

The options say which escapes a scan accepts and how it decodes them.  Every
scan that succeeds ends its literals and quoted identifiers where the scan with
the widest options ends them, so its tokens begin and end at the same places.
-/

/-- The options that accept every escape and decode none in a literal. -/
def Options.widest : Options := ⟨true, false, true⟩

@[simp] theorem Options.widest_decodes : Options.widest.decodeIdentifierEscapes = true := rfl

/-- The kind of a token, with the text that no option touches. -/
def Token.outline (token : Token) : TokenKind × Option Bytes :=
  match token.kind with
  | .word | .punct => (token.kind, some token.text)
  | .quoted | .string => (token.kind, none)

variable {opts : Options} {sql next : Bytes}

theorem consumeStringLiteral_plain
    {value : UInt8}
    (noEscape : value ≠ backslash)
    (noQuote : value ≠ quote) :
    consumeStringLiteral opts (value :: sql) = prepend [value] (consumeStringLiteral opts sql) := by
  rw [consumeStringLiteral.eq_def]
  simp only [noEscape, noQuote, if_false]

theorem consumeStringLiteral_escaped (escaped : UInt8) :
    consumeStringLiteral .widest (backslash :: escaped :: sql) =
      prepend [backslash, escaped] (consumeStringLiteral .widest sql) := by
  rw [consumeStringLiteral]
  rfl

theorem plain_of_isHexDigit {value : UInt8} (hex : isHexDigit value = true) :
    value ≠ backslash ∧ value ≠ quote := by
  constructor
  · rintro rfl
    revert hex
    decide
  · rintro rfl
    revert hex
    decide

/-- The digits of an escape end no literal. -/
theorem consumeStringLiteral_decoded
    {undecodable : ScanError}
    {escaped : UInt8}
    {rest text raw : Bytes}
    (decoded : decodeBackslash undecodable escaped rest = .ok (text, sql))
    (consumed : consumeStringLiteral opts sql = .ok (raw, next)) :
    ∃ raw, consumeStringLiteral opts rest = .ok (raw, next) := by
  unfold decodeBackslash at decoded
  split at decoded
  · split at decoded
    · split at decoded
      · rename_i hex
        cases decoded
        rw [Bool.and_eq_true] at hex
        obtain ⟨highEscape, highQuote⟩ := plain_of_isHexDigit hex.1
        obtain ⟨lowEscape, lowQuote⟩ := plain_of_isHexDigit hex.2
        rw [consumeStringLiteral_plain highEscape highQuote,
          consumeStringLiteral_plain lowEscape lowQuote, consumed]
        exact ⟨_, rfl⟩
      · cases decoded
    · cases decoded
  · cases decoded
    exact ⟨raw, consumed⟩

theorem consumeStringLiteral_widest
    {literal : Bytes} (consumed : consumeStringLiteral opts sql = .ok (literal, next)) :
    ∃ raw, consumeStringLiteral .widest sql = .ok (raw, next) := by
  fun_induction consumeStringLiteral opts sql generalizing literal with
  | case1 | case2 | case3 | case5 => cases consumed
  | case4 accepts escaped rest keeps inductionHypothesis =>
    obtain ⟨tail, read, -⟩ := prepend_eq_ok consumed
    obtain ⟨raw, wide⟩ := inductionHypothesis read
    rw [consumeStringLiteral_escaped, wide]
    exact ⟨_, rfl⟩
  | case6 accepts escaped rest decodes text next decoded inductionHypothesis =>
    obtain ⟨tail, read, -⟩ := prepend_eq_ok consumed
    obtain ⟨raw, wide⟩ := inductionHypothesis read
    obtain ⟨behind, wide⟩ := consumeStringLiteral_decoded decoded wide
    rw [consumeStringLiteral_escaped, wide]
    exact ⟨_, rfl⟩
  | case7 =>
    cases consumed
    rw [consumeStringLiteral]
    simp
  | case8 rest _ inductionHypothesis =>
    obtain ⟨tail, read, -⟩ := prepend_eq_ok consumed
    obtain ⟨raw, wide⟩ := inductionHypothesis read
    rw [consumeStringLiteral]
    simp [wide, prepend]
  | case9 =>
    cases consumed
    rw [consumeStringLiteral]
    simp_all
  | case10 value rest noEscape noQuote inductionHypothesis =>
    obtain ⟨tail, read, -⟩ := prepend_eq_ok consumed
    obtain ⟨raw, wide⟩ := inductionHypothesis read
    rw [consumeStringLiteral_plain noEscape noQuote, wide]
    exact ⟨_, rfl⟩

/-- A scan that refuses escapes in names has met none. -/
theorem consumeQuotedIdentifier_widest {delimiter : UInt8} {identifier : Bytes}
    (consumed : consumeQuotedIdentifier opts delimiter sql = .ok (identifier, next)) :
    consumeQuotedIdentifier .widest delimiter sql = .ok (identifier, next) := by
  fun_induction consumeQuotedIdentifier opts delimiter sql generalizing identifier with
  | case1 | case2 | case3 | case4 => cases consumed
  | case5 accepts escaped rest text next decoded inductionHypothesis =>
    obtain ⟨tail, read, rfl⟩ := prepend_eq_ok consumed
    rw [consumeQuotedIdentifier.eq_def]
    simp only [if_true, Options.widest_decodes, Bool.not_true, Bool.false_eq_true, if_false]
    split
    · rename_i failed
      cases decoded.symm.trans failed
    · rename_i same
      cases decoded.symm.trans same
      rw [inductionHypothesis read]
      rfl
  | case6 value rest noEscape noDelimiter inductionHypothesis =>
    obtain ⟨tail, read, rfl⟩ := prepend_eq_ok consumed
    rw [consumeQuotedIdentifier.eq_def]
    simp only [noEscape, noDelimiter, if_false, if_true, ne_eq, not_false_eq_true]
    rw [inductionHypothesis read]
    rfl
  | case7 noEscape isDelimiter | case9 =>
    cases consumed
    rw [consumeQuotedIdentifier.eq_def]
    simp_all
  | case8 value noEscape isDelimiter rest inductionHypothesis =>
    obtain ⟨tail, read, rfl⟩ := prepend_eq_ok consumed
    rw [consumeQuotedIdentifier.eq_def]
    simp only [noEscape, isDelimiter, if_false, if_true]
    rw [inductionHypothesis read]
    rfl

/-! ## Boundaries -/

variable {word rest : Bytes} {value : UInt8} {piece : Piece} {surfaces : Surfaces}

/-- What holds of no text and of one more piece holds of every scan. -/
theorem scan_induction {motive : Bytes → Bytes → Surfaces → Prop}
    (done : ∀ word, motive word [] ⟨[], [], flushWord word []⟩)
    (step : ∀ {word value rest piece next later},
        readPiece opts word value rest = .ok (piece, next) →
        motive (piece.carry word) next later → motive word (value :: rest) (piece.join word later))
    (scanned : scanFrom opts word sql = .ok surfaces) :
    motive word sql surfaces := by
  fun_induction scanFrom opts word sql generalizing surfaces with
  | case1 word =>
    cases scanned
    exact done word
  | case2 =>
    cases scanned
  | case3 word value rest piece next read inductionHypothesis =>
    obtain ⟨later, scannedLater, rfl⟩ := map_eq_ok scanned
    exact step read (inductionHypothesis scannedLater)

/-- The outline of the token that a piece is, if it is one. -/
def Piece.outline : Piece → Piece
  | .string _ => .string []
  | .quoted _ => .quoted []
  | piece => piece

theorem Piece.carry_outline (piece : Piece) : piece.outline.carry word = piece.carry word := by
  cases piece <;> rfl

theorem outline_join
    (piece : Piece)
    {first second : Surfaces}
    {other : Piece}
    (samePiece : piece.outline = other.outline)
    (same : first.tokens.map outline = second.tokens.map outline) :
    (piece.join word first).tokens.map outline = (other.join word second).tokens.map outline := by
  have flushed : ∀ {left right : List Token},
      left.map outline = right.map outline →
      (flushWord word left).map outline = (flushWord word right).map outline := by
    intro left right sameLater
    unfold flushWord
    split
    · exact sameLater
    · rw [List.map_cons, List.map_cons, sameLater]
  cases piece <;> cases other <;> cases samePiece
  · exact flushed (congrArg (_ :: ·) same)
  · exact flushed same
  · exact flushed (congrArg (_ :: ·) same)
  · exact same
  · exact flushed same
  · exact flushed (congrArg (_ :: ·) same)

/-- The same piece ends at the same place under the widest options. -/
theorem readPiece_widest (read : readPiece opts word value rest = .ok (piece, next)) : ∃ wide,
    readPiece .widest word value rest = .ok (wide, next) ∧ wide.outline = piece.outline := by
  unfold readPiece at read ⊢
  split_ifs at read ⊢
  · obtain ⟨⟨literal, behind⟩, consumed, same⟩ := map_eq_ok read
    cases same
    obtain ⟨raw, wide⟩ := consumeStringLiteral_widest consumed
    rw [wide]
    exact ⟨_, rfl, rfl⟩
  · exact ⟨piece, read, rfl⟩
  · exact ⟨piece, read, rfl⟩
  · obtain ⟨⟨identifier, behind⟩, consumed, same⟩ := map_eq_ok read
    cases same
    rw [consumeQuotedIdentifier_widest consumed]
    exact ⟨_, rfl, rfl⟩
  · exact ⟨piece, read, rfl⟩
  · exact ⟨piece, read, rfl⟩
  · exact ⟨piece, read, rfl⟩
  · exact ⟨piece, read, rfl⟩

/-- Tokens begin and end where the widest scan has them. -/
theorem scanFrom_widest (scanned : scanFrom opts word sql = .ok surfaces) : ∃ wide,
    scanFrom .widest word sql = .ok wide ∧
      wide.tokens.map outline = surfaces.tokens.map outline := by
  refine scan_induction (motive := fun word sql surfaces =>
      ∃ wide, scanFrom .widest word sql = .ok wide ∧
          wide.tokens.map outline = surfaces.tokens.map outline) ?done ?step scanned
  case done =>
    intro word
    exact ⟨_, by rw [scanFrom], rfl⟩
  case step =>
    rintro word value rest piece next later read ⟨wide, scanned, same⟩
    obtain ⟨widePiece, readWide, samePiece⟩ := readPiece_widest read
    refine ⟨_, ?_, outline_join widePiece samePiece same⟩
    rw [scanFrom, readWide]
    simp only
    rw [← Piece.carry_outline, samePiece, Piece.carry_outline, scanned]
    rfl

/--
Scans of one text under any two options that both succeed read tokens of the
same kinds in the same order, with the same words and punctuation.
-/
theorem options_keep_boundaries
    (left right : Options)
    (sql : Bytes)
    {leftSurfaces rightSurfaces : Surfaces}
    (leftScanned : scanWith left sql = .ok leftSurfaces)
    (rightScanned : scanWith right sql = .ok rightSurfaces) :
    leftSurfaces.tokens.length = rightSurfaces.tokens.length ∧
      leftSurfaces.tokens.map outline = rightSurfaces.tokens.map outline := by
  obtain ⟨wide, scannedWide, sameLeft⟩ := scanFrom_widest leftScanned
  obtain ⟨_, scannedAgain, sameRight⟩ := scanFrom_widest rightScanned
  cases scannedWide.symm.trans scannedAgain
  have same := sameLeft.symm.trans sameRight
  exact ⟨by simpa using congrArg List.length same, same⟩

/-- A literal with an escape that one scan keeps and the other decodes. -/
theorem options_keep_boundaries_escape : let raw : Surfaces :=
    ⟨ascii "a ", ascii "a \\x41 ", [⟨.word, ascii "a"⟩, ⟨.string, ascii "\\x41"⟩]⟩
    let decoded : Surfaces := ⟨ascii "a ", ascii "a A ", [⟨.word, ascii "a"⟩, ⟨.string, ascii "A"⟩]⟩
    raw.tokens.length = decoded.tokens.length ∧
      raw.tokens.map outline = decoded.tokens.map outline :=
  options_keep_boundaries ⟨true, false, false⟩ ⟨false, true, true⟩
    (ascii "a'\\x41'") (by decide +kernel) (by decide +kernel)

end HouseGate.SqlSurface
