import HouseGate.SurfaceBoundaries
import HouseGate.Utf8Text

namespace HouseGate.ReservedNames

open DecimalText AsciiText SqlSurface Utf8Text List Bool

/-!
# Guards of the reserved names

The guards of privileged, peer and ordinary sessions look for reserved names
on a surface, which is one flat text.  No token is lost or merged there: every
literal and quoted identifier stands between blanks, so the runs of identifier
bytes of a token are runs of the surface.
-/

/-- `Identifiers`, with the run that is being read. -/
def identifiersFrom (run : Bytes) : Bytes → List Bytes
  | [] => if run = [] then [] else [run]
  | value :: rest =>
    if isIdentifierByte value then
      identifiersFrom (run ++ [value]) rest
    else if run = [] then
      identifiersFrom [] rest
    else
      run :: identifiersFrom [] rest

def identifiers (surface : Bytes) : List Bytes := identifiersFrom [] surface

/-- The names that the plugin keeps from clients. -/
structure Plugin where
  reservedDatabases : List Bytes
  reservedRowIDColumn : Bytes

def Plugin.names (plugin : Plugin) : List Bytes :=
  plugin.reservedDatabases ++ [plugin.reservedRowIDColumn]

/-- Why a query was refused. -/
inductive Refusal where
  | unscannable (failure : ScanError)
  | identifierPlaceholder
  | reservedName (name : Bytes)
  | carrierCallable (name : Bytes)
  | computedCarrierArgument (callable : Bytes)

def peerScanOptions : Options := ⟨false, true, true⟩

section Guards

/- `strings.EqualFold` and `strings.ToLower`: nothing depends on what they compute. -/
variable (equalFold : Bytes → Bytes → Bool) (toLower : Bytes → Bytes)

/-- The first run that is one of the names; an empty name reserves nothing. -/
def reservedNamespaceViolationOnSurface (names : List Bytes) (surface : Bytes) : Option Bytes :=
  (identifiers surface).findSome? fun identifier =>
    (names.filter (· ≠ [])).find? (equalFold identifier)

/-- A `name:Identifier` between braces. -/
def isIdentifierPlaceholder (inside : Bytes) : Bool :=
  match inside.dropWhile (· != 58) with
  | [] => false
  | _ :: parameterType =>
    trimUnicodeSpace (inside.takeWhile (· != 58)) ≠ [] &&
      equalFold (trimUnicodeSpace parameterType) (ascii "Identifier")

def containsIdentifierPlaceholder (sql : Bytes) : Bool :=
  match _opened : sql.dropWhile (· != leftBrace) with
  | [] => false
  | _ :: behind =>
    match _closed : behind.dropWhile (· != rightBrace) with
    | [] => false
    | _ :: next =>
      isIdentifierPlaceholder equalFold (behind.takeWhile (· != rightBrace)) ||
        containsIdentifierPlaceholder next
termination_by sql.length
decreasing_by
  have opened := (sql.dropWhile_sublist (· != leftBrace)).length_le
  have closed := (behind.dropWhile_sublist (· != rightBrace)).length_le
  simp only [_opened, _closed, length_cons] at opened closed
  omega

def objectCarrierNames : List Bytes :=
  ["remote", "remotesecure", "cluster", "clusterallreplicas", "merge", "loop", "dictionary",
    "timeseriesdata", "timeseriestags", "timeseriesmetrics", "timeseriesselector",
    "prometheusquery", "prometheusqueryrange", "distributed", "buffer", "clickhouse", "mysql",
    "postgresql", "mongodb", "jdbc", "odbc"].map ascii

def isObjectCarrierName (name : Bytes) : Bool :=
  objectCarrierNames.contains (toLower name) || (ascii "mergetree").isPrefixOf (toLower name)

def objectCarrierCallable (sql : Bytes) : Option Bytes :=
  match _found : sql.dropWhile (!isIdentifierByte ·) with
  | [] => none
  | first :: rest =>
    let name := first :: rest.takeWhile isIdentifierByte
    let behind := rest.dropWhile isIdentifierByte
    if (behind.dropWhile ([space, 9, 13, newline].contains ·)).head? = some leftParen ∧
        isObjectCarrierName toLower name then
      some name
    else
      objectCarrierCallable behind
termination_by sql.length
decreasing_by
  have found := (sql.dropWhile_sublist (!isIdentifierByte ·)).length_le
  have shorter := (rest.dropWhile_sublist isIdentifierByte).length_le
  simp only [_found, length_cons] at found
  omega

/-- A scan, a rule, the reserved names and another rule, in this order. -/
def guarded (opts : Options) (first : Surfaces → Option Refusal) (names : List Bytes)
    (later : Surfaces → Option Refusal) (sql : Bytes) : Option Refusal :=
  match scanWith opts sql with
  | .error failure => some (.unscannable failure)
  | .ok surfaces =>
    match first surfaces with
    | some refusal => some refusal
    | none =>
      match reservedNamespaceViolationOnSurface equalFold names surfaces.withLiterals with
      | some name => some (.reservedName name)
      | none => later surfaces

def operatorRefusal (plugin : Plugin) (sql : Bytes) : Option Refusal :=
  guarded equalFold ⟨false, false, false⟩ (fun surfaces =>
      if containsIdentifierPlaceholder equalFold surfaces.outsideLiterals then
        some .identifierPlaceholder
      else
        none)
    plugin.names
    (fun surfaces =>
      (objectCarrierCallable toLower surfaces.outsideLiterals).map .carrierCallable)
    sql

def isPunctToken (token : Token) (value : UInt8) : Bool :=
  token.kind = .punct && token.text = [value]

def isName (token : Token) : Bool := token.kind = .word || token.kind = .quoted

def identifierPlaceholderToken : List Token → Bool
  | [] => false
  | opening :: rest =>
    (match rest with
    | name :: colon :: parameterType :: closing :: _ =>
      isPunctToken opening leftBrace && isName name && isPunctToken colon 58 &&
        isName parameterType && equalFold parameterType.text (ascii "Identifier") &&
        isPunctToken closing rightBrace
    | _ => false) || identifierPlaceholderToken rest

def digitsOnly (word : Bytes) : Bool := word ≠ [] && word.all isDigit

def literalArgument : List Token → Bool
  | [argument] => argument.kind = .string || argument.kind = .word && digitsOnly argument.text
  | _ => false

/-- The loop of `literalCallArguments`, with the argument that is being read. -/
def literalCallArgumentsFrom (first : Bool) (argument : List Token) : List Token → Bool
  | [] => false
  | token :: rest =>
    if !isPunctToken token comma && !isPunctToken token rightParen then
      literalCallArgumentsFrom false (argument ++ [token]) rest
    else if !(first && token.text = [rightParen]) && !literalArgument argument then
      false
    else if token.text = [rightParen] then
      true
    else
      literalCallArgumentsFrom false [] rest

def literalCallArguments (tokens : List Token) : Bool := literalCallArgumentsFrom true [] tokens

def carrierArgumentViolation : List Token → Option Bytes
  | name :: call :: rest =>
    if isName name && isPunctToken call leftParen && isObjectCarrierName toLower name.text &&
        !literalCallArguments rest then
      some name.text
    else
      carrierArgumentViolation (call :: rest)
  | _ => none

def peerRefusal (plugin : Plugin) (sql : Bytes) : Option Refusal :=
  guarded equalFold peerScanOptions (fun surfaces =>
      if identifierPlaceholderToken equalFold surfaces.tokens then
        some .identifierPlaceholder
      else
        none)
    plugin.names
    (fun surfaces =>
      (carrierArgumentViolation toLower surfaces.tokens).map .computedCarrierArgument)
    sql

/-- `Check` of the table-reference guard; its rules behind the first are a parameter. -/
def check (later : Surfaces → Option Refusal) (reserved : List Bytes) (sql : Bytes) :
    Option Refusal :=
  guarded equalFold ⟨false, true, false⟩ (fun _ => none) reserved later sql

end Guards

/-! ## Runs of identifier bytes -/

/-- A run of identifier bytes that cannot be made longer. -/
def MaximalRun (run text : Bytes) : Prop := ∃ before after,
    text = before ++ (run ++ after) ∧ run ≠ [] ∧ (∀ byte ∈ run, isIdentifierByte byte = true) ∧
      (∀ byte ∈ before.getLast?, isIdentifierByte byte = false) ∧
      ∀ byte ∈ after.head?, isIdentifierByte byte = false

variable {run word text : Bytes} {value : UInt8}

theorem identifiersFrom_append (ends : isIdentifierByte value = false) (run front behind : Bytes) :
    identifiersFrom run (front ++ value :: behind) =
      identifiersFrom run front ++ identifiers behind := by
  induction front generalizing run with
  | nil =>
    by_cases empty : run = [] <;> simp [identifiersFrom, identifiers, ends, empty]
  | cons first front inductionHypothesis =>
    simp only [cons_append, identifiersFrom, inductionHypothesis]
    split_ifs <;> rfl

theorem identifiersFrom_word (part : ∀ byte ∈ word, isIdentifierByte byte = true) (run : Bytes) :
    identifiersFrom run word = identifiersFrom (run ++ word) [] := by
  induction word generalizing run with
  | nil => rw [append_nil]
  | cons first rest inductionHypothesis =>
    obtain ⟨own, later⟩ := forall_mem_cons.mp part
    have step : identifiersFrom run (first :: rest) = identifiersFrom (run ++ [first]) rest := by
      rw [identifiersFrom, if_pos own]
    rw [step, inductionHypothesis later, append_assoc, singleton_append]

theorem MaximalRun.mem_identifiers (maximal : MaximalRun run text) : run ∈ identifiers text := by
  obtain ⟨before, after, rfl, nonempty, part, starts, ends⟩ := maximal
  have first : run ∈ identifiers (run ++ after) := by
    have whole : run ∈ identifiers run := by
      rw [identifiers, identifiersFrom_word part]
      simp [identifiersFrom, nonempty]
    cases after with
    | nil => rwa [append_nil]
    | cons byte after =>
      rw [identifiers, identifiersFrom_append (ends byte rfl)]
      exact mem_append_left _ whole
  rcases before.eq_nil_or_concat with rfl | ⟨front, byte, rfl⟩
  · exact first
  · rw [concat_eq_append, append_assoc, identifiers, singleton_append,
      identifiersFrom_append (starts byte (by simp))]
    exact mem_append_right _ first

/-! ## Tokens on the surface -/

variable {opts : Options} {sql : Bytes} {surfaces : Surfaces} {tokens : List Token}

/-- All runs of the tokens are found on a text. -/
def Survive (tokens : List Token) (found : List Bytes) : Prop :=
  ∀ token ∈ tokens, token.kind ≠ .punct → ∀ run ∈ identifiers token.text, run ∈ found

theorem survive_flushWord
    (part : ∀ byte ∈ word, isIdentifierByte byte = true) (ends : isIdentifierByte value = false)
    (own : Survive tokens (identifiers text)) :
    Survive (flushWord word tokens) (identifiersFrom word (value :: text)) := by
  rw [← nil_append (value :: text), identifiersFrom_append ends]
  intro token member kind run held
  apply mem_append.mpr
  unfold flushWord at member
  split at member
  · exact .inr (own token member kind run held)
  · rcases mem_cons.mp member with rfl | later
    · left
      rwa [identifiers, identifiersFrom_word part] at held
    · exact .inr (own token later kind run held)

/-- A literal or a quoted identifier between blanks. -/
theorem survive_span
    (kind : TokenKind)
    (literal : Bytes)
    (later : Survive tokens (identifiers text)) :
    Survive (⟨kind, literal⟩ :: tokens) (identifiers (literal ++ space :: text)) := by
  rw [identifiers, identifiersFrom_append (by decide)]
  intro token member notPunct run held
  rcases mem_cons.mp member with rfl | member
  · exact mem_append_left _ held
  · exact mem_append_right _ (later token member notPunct run held)

/-- Only a piece of a word is an identifier byte. -/
def Sorted : Piece → Prop
  | .wordByte byte => isIdentifierByte byte = true
  | .blank byte | .punct byte => isIdentifierByte byte = false
  | _ => True

theorem sorted_of_readPiece {rest next : Bytes} {piece : Piece}
    (read : readPiece opts word value rest = .ok (piece, next)) :
    Sorted piece := by
  have mapped {α : Type} {consumed : Except ScanError α} {change : α → Piece × Bytes}
      (read : consumed.map change = .ok (piece, next))
      (spans : ∀ answer, Sorted (change answer).1) : Sorted piece := by
    obtain ⟨answer, -, same⟩ := map_eq_ok read
    have span := spans answer
    rwa [same] at span
  unfold readPiece at read
  split_ifs at read with _ _ _ _ _ _ _ _ part
  · exact mapped read fun _ => trivial
  · cases read
    trivial
  · exact mapped read fun _ => trivial
  · exact mapped read fun _ => trivial
  · exact mapped read fun _ => trivial
  · cases read
    exact part
  · cases read
    exact eq_false_of_ne_true part
  · cases read
    exact eq_false_of_ne_true part

theorem survive_scan (scanned : scanWith opts sql = .ok surfaces) :
    Survive surfaces.tokens (identifiers surfaces.withLiterals) := by
  refine scan_induction (motive := fun word _ surfaces =>
      (∀ byte ∈ word, isIdentifierByte byte = true) →
        Survive surfaces.tokens (identifiersFrom word surfaces.withLiterals))
    ?done ?step scanned (forall_mem_nil _)
  case done =>
    intro word part token member _ run held
    unfold flushWord at member
    split at member
    · cases member
    · rw [mem_singleton.mp member, identifiers, identifiersFrom_word part] at held
      exact held
  case step =>
    intro word value rest piece next later read inductionHypothesis part
    have bytes := sorted_of_readPiece read
    have span (kind : TokenKind) (literal : Bytes)
        (behind : Survive later.tokens (identifiers later.withLiterals)) :
        Survive (flushWord word (⟨kind, literal⟩ :: later.tokens))
          (identifiersFrom word ([space] ++ literal ++ [space] ++ later.withLiterals)) := by
      simpa using survive_flushWord part (by decide) (survive_span kind literal behind)
    cases piece with
    | string literal => exact span .string literal (inductionHypothesis (forall_mem_nil _))
    | quoted name => exact span .quoted name (inductionHypothesis (forall_mem_nil _))
    | comment =>
      exact survive_flushWord part (by decide) (inductionHypothesis (forall_mem_nil _))
    | blank byte =>
      exact survive_flushWord part bytes (inductionHypothesis (forall_mem_nil _))
    | punct byte =>
      apply survive_flushWord part bytes
      intro token member notPunct
      rcases mem_cons.mp member with rfl | member
      · exact absurd rfl notPunct
      · exact inductionHypothesis (forall_mem_nil _) token member notPunct
    | wordByte byte =>
      have isPart : isIdentifierByte byte = true := bytes
      have longer :=
        inductionHypothesis (forall_mem_append.mpr ⟨part, forall_mem_singleton.mpr isPart⟩)
      simpa [Piece.join, Piece.carry, Surfaces.afterByte, identifiersFrom, isPart] using longer

/-! ## What the guards let pass -/

section Passed

variable {equalFold : Bytes → Bytes → Bool} {toLower : Bytes → Bytes} {names : List Bytes}

/-- No token of the scan has a run that is one of the names. -/
def Unmentioned
    (equalFold : Bytes → Bytes → Bool) (names : List Bytes) (tokens : List Token) : Prop :=
  ∀ token ∈ tokens, token.kind ≠ .punct →
    ∀ run, MaximalRun run token.text → ∀ name ∈ names, name ≠ [] → equalFold run name = false

theorem unmentioned_of_guarded {first later : Surfaces → Option Refusal}
    (passed : guarded equalFold opts first names later sql = none) :
    ∃ surfaces, scanWith opts sql = .ok surfaces ∧ Unmentioned equalFold names surfaces.tokens ∧
        later surfaces = none := by
  unfold guarded at passed
  split at passed
  · cases passed
  rename_i surfaces scanned
  split at passed
  · cases passed
  split at passed
  · cases passed
  rename_i unfound
  refine ⟨surfaces, scanned, ?_, passed⟩
  intro token member kind run maximal name listed nonempty
  have found := survive_scan scanned token member kind run maximal.mem_identifiers
  have unequal := findSome?_eq_none_iff.mp unfound run found
  simpa using find?_eq_none.mp unequal name (by simp [listed, nonempty])

/-- A string literal or an unsigned decimal number. -/
def IsLiteral (token : Token) : Prop := token.kind = .string ∨
    token.kind = .word ∧ token.text ≠ [] ∧ ∀ byte ∈ token.text, isDigit byte = true

/-- Literals separated by commas, up to the closing parenthesis. -/
inductive LiteralArguments : List Token → Prop where
  | last {argument : Token} {behind : List Token} (literal : IsLiteral argument) :
      LiteralArguments (argument :: ⟨.punct, [rightParen]⟩ :: behind)
  | more {argument : Token} {behind : List Token} (literal : IsLiteral argument)
      (later : LiteralArguments behind) :
      LiteralArguments (argument :: ⟨.punct, [comma]⟩ :: behind)

/-- What follows the opening parenthesis of a call with literals only. -/
def LiteralCall (tokens : List Token) : Prop :=
  tokens.head? = some ⟨.punct, [rightParen]⟩ ∨ LiteralArguments tokens

theorem eq_of_isPunctToken {token : Token} (punct : isPunctToken token value = true) :
    token = ⟨.punct, [value]⟩ := by
  obtain ⟨kind, text⟩ := token
  simpa [isPunctToken] using punct

theorem isLiteral_of_literalArgument {argument : List Token} (literal : literalArgument argument) :
    ∃ only, argument = [only] ∧ IsLiteral only := by
  unfold literalArgument at literal
  split at literal
  · rename_i only
    refine ⟨only, rfl, ?_⟩
    simpa [digitsOnly, IsLiteral, or_iff_not_imp_left] using literal
  · cases literal

/-- Inside an argument, or in front of the first one, where the call may also be empty. -/
theorem literal_of_literalCallArgumentsFrom {first : Bool} {argument : List Token}
    (passed : literalCallArgumentsFrom first argument tokens = true) :
    LiteralArguments (argument ++ tokens) ∨
      first = true ∧ tokens.head? = some ⟨.punct, [rightParen]⟩ := by
  induction tokens generalizing first argument with
  | nil => cases passed
  | cons token rest inductionHypothesis =>
    rw [literalCallArgumentsFrom] at passed
    split_ifs at passed with inside computed closes
    · rcases inductionHypothesis passed with longer | ⟨impossible, -⟩
      · rw [append_assoc] at longer
        exact .inl longer
      · cases impossible
    all_goals
      have separator : token = ⟨.punct, [comma]⟩ ∨ token = ⟨.punct, [rightParen]⟩ := by
        simp only [and_eq_true, not_eq_true', not_and_or, not_eq_false] at inside
        exact inside.imp eq_of_isPunctToken eq_of_isPunctToken
      simp only [and_eq_true, not_eq_true', not_and_or, not_eq_false] at computed
    · obtain rfl := separator.resolve_left (by rintro rfl; cases closes)
      rcases computed with empty | literal
      · exact .inr ⟨empty.1, rfl⟩
      · obtain ⟨only, rfl, isLiteral⟩ := isLiteral_of_literalArgument literal
        exact .inl (.last isLiteral)
    · obtain rfl := separator.resolve_right (by rintro rfl; exact closes rfl)
      obtain ⟨only, rfl, isLiteral⟩ :=
        isLiteral_of_literalArgument (computed.resolve_left (by simp))
      rcases inductionHypothesis passed with longer | ⟨impossible, -⟩
      · exact .inl (.more isLiteral longer)
      · cases impossible

/-- A call of an object carrier that is not refused has literal arguments only. -/
theorem literalCall_of_carrier {before behind : List Token} {name opening : Token}
    (passed : carrierArgumentViolation toLower (before ++ name :: opening :: behind) = none)
    (named : isName name = true) (opens : isPunctToken opening leftParen = true)
    (carrier : isObjectCarrierName toLower name.text = true) :
    LiteralCall behind := by
  induction before with
  | nil =>
    rw [nil_append, carrierArgumentViolation] at passed
    split_ifs at passed with computed
    have literal : literalCallArguments behind = true := by
      simpa [named, opens, carrier] using computed
    exact (literal_of_literalCallArgumentsFrom literal).symm.imp_left And.right
  | cons first before inductionHypothesis =>
    apply inductionHypothesis
    cases before <;>
      (simp only [cons_append, nil_append] at passed
       rw [carrierArgumentViolation] at passed
       split_ifs at passed
       exact passed)

/--
A statement that a guard lets pass mentions none of the names that the guard
reserves, and a peer's statement passes only literals to object carriers.
-/
theorem reserved_guards_sound
    (equalFold : Bytes → Bytes → Bool)
    (toLower : Bytes → Bytes)
    (plugin : Plugin)
    (sql : Bytes) :
    (operatorRefusal equalFold toLower plugin sql = none → ∃ surfaces,
        scanWith ⟨false, false, false⟩ sql = .ok surfaces ∧
          Unmentioned equalFold plugin.names surfaces.tokens) ∧
    (peerRefusal equalFold toLower plugin sql = none → ∃ surfaces,
        scanWith peerScanOptions sql = .ok surfaces ∧
          Unmentioned equalFold plugin.names surfaces.tokens ∧
          ∀ before name opening behind, surfaces.tokens = before ++ name :: opening :: behind →
            isName name = true →
            isPunctToken opening leftParen = true →
            isObjectCarrierName toLower name.text = true → LiteralCall behind) ∧
    ∀ later, check equalFold later plugin.reservedDatabases sql = none →
      ∃ surfaces, scanWith ⟨false, true, false⟩ sql = .ok surfaces ∧
          Unmentioned equalFold plugin.reservedDatabases surfaces.tokens := by
  refine ⟨fun passed => ?_, fun passed => ?_, fun later passed => ?_⟩
  · obtain ⟨surfaces, scanned, unmentioned, -⟩ := unmentioned_of_guarded passed
    exact ⟨surfaces, scanned, unmentioned⟩
  · obtain ⟨surfaces, scanned, unmentioned, literal⟩ := unmentioned_of_guarded passed
    refine ⟨surfaces, scanned, unmentioned, ?_⟩
    intro before name opening behind shape
    rw [Option.map_eq_none_iff, shape] at literal
    exact literalCall_of_carrier literal
  · obtain ⟨surfaces, scanned, unmentioned, -⟩ := unmentioned_of_guarded passed
    exact ⟨surfaces, scanned, unmentioned⟩

/-- A call with literals passes for operators where it calls no carrier, and for peers always. -/
theorem reserved_guards_sound_calls :
    let plugin : Plugin := ⟨[ascii "hg_safe"], ascii "_row"⟩
    (∃ surfaces, scanWith ⟨false, false, false⟩ (ascii "f('a', 1)") = .ok surfaces ∧
        Unmentioned AsciiText.equalFold plugin.names surfaces.tokens) ∧
    ∃ surfaces, scanWith peerScanOptions (ascii "remote('a', 1)") = .ok surfaces ∧
        Unmentioned AsciiText.equalFold plugin.names surfaces.tokens := by
  intro plugin
  have operator := (reserved_guards_sound AsciiText.equalFold id plugin (ascii "f('a', 1)")).1
  have peer := (reserved_guards_sound AsciiText.equalFold id plugin (ascii "remote('a', 1)")).2.1
  obtain ⟨surfaces, scanned, unmentioned, -⟩ := peer (by decide +kernel)
  exact ⟨operator (by decide +kernel), surfaces, scanned, unmentioned⟩

end Passed

end HouseGate.ReservedNames
