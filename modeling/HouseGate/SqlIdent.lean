import HouseGate.InsertParser
import HouseGate.Utf8Text

namespace HouseGate.SqlIdent

open DecimalText AsciiText Utf8Text InsertParser List

/-!
# Identifier paths

`pkg/sqlident/ident.go`: a dot-separated path is split outside backticks, each
part is trimmed and unquoted, and the normal form writes every segment bare
where it can and in backticks otherwise.  Splitting, unquoting and writing are
three loops; the normal form is read back by the first two as the segments it
was written from.
-/

variable (value : Bytes)

/-- `strings.ReplaceAll` of every backtick by two. -/
def doubleBackticks : Bytes := value.flatMap fun byte =>
    if byte = backtick then [byte, byte] else [byte]

def quote : Bytes := backtick :: doubleBackticks value ++ [backtick]

/-- The loop of `splitPath`: parts, the open part and the quoting flag. -/
def splitFrom : List Bytes → Bytes → Bool → Bytes → List Bytes
  | _, _, true, [] => []
  | parts, part, false, [] => parts ++ [part]
  | parts, part, true, 96 :: 96 :: rest => splitFrom parts (part ++ [96, 96]) true rest
  | parts, part, inQuoted, 96 :: rest => splitFrom parts (part ++ [96]) (!inQuoted) rest
  | parts, part, false, 46 :: rest => splitFrom (parts ++ [part]) [] false rest
  | parts, part, inQuoted, byte :: rest => splitFrom parts (part ++ [byte]) inQuoted rest

def splitPath : List Bytes :=
  let value := trimUnicodeSpace value
  if value = [] then [] else splitFrom [] [] false value

/-- Undouble the backticks of a quoted body. -/
def unquoteBody : Bytes → Option Bytes
  | [] => some []
  | 96 :: 96 :: rest => (unquoteBody rest).map (96 :: ·)
  | 96 :: _ => none
  | byte :: rest => (unquoteBody rest).map (byte :: ·)

def unquote : Option Bytes :=
  let value := trimUnicodeSpace value
  if value.length < 2 ∨ value.head? ≠ some backtick ∨ value.getLast? ≠ some backtick then
    none
  else
    unquoteBody value.tail.dropLast

def parseSegment : Option Bytes :=
  let value := trimUnicodeSpace value
  if value = [] then
    none
  else if value.head? = some backtick ∨ value.getLast? = some backtick then
    unquote value
  else if backtick ∈ value then
    none
  else
    some value

def parsePath : Option (List Bytes) :=
  match splitPath value with
  | [] => none
  | part :: parts => (part :: parts).mapM fun part => (parseSegment part).filter (· != [])

def isBareIdentifier : Bytes → Bool
  | [] => false
  | first :: rest => isWordStart first && rest.all isWordPart

def canonicalSegment : Bytes :=
  if isBareIdentifier value then value else quote value

/-- The canonical segments of a path, `none` where it is malformed. -/
def canonicalParts : Option (List Bytes) :=
  match parsePath value with
  | none => none
  | some segments =>
    if segments = [] ∨ [] ∈ segments then none else some (segments.map canonicalSegment)

def normalizePath : Bytes :=
  match canonicalParts value with
  | none => []
  | some parts => [dot].intercalate parts

def splitLastPath : Bytes × Bytes :=
  match canonicalParts value with
  | none => ([], [])
  | some [part] => ([], part)
  | some parts => ([dot].intercalate parts.dropLast, parts.getLastD [])

/-- `InsertTarget.CanonicalID`. -/
def canonicalID (target : InsertTarget) : Bytes :=
  if target.database = [] ∨ target.table = [] then
    []
  else
    normalizePath (quote target.database ++ [dot] ++ quote target.table)

/-! ## Texts that trimming leaves alone -/

/-- The bytes at either end of a written segment. -/
def isEdge (byte : UInt8) : Bool := isWordPart byte || byte == backtick

theorem trimUnicodeSpace_of_edges
    {text : Bytes}
    (first : text.head?.any isEdge)
    (last : text.getLast?.any isEdge) :
    trimUnicodeSpace text = text :=
  trimUnicodeSpace_of_ends (by decide) (by decide) first last

/-! ## Writing a segment and reading it back -/

@[simp] theorem getLast?_quote : (quote value).getLast? = some backtick :=
  getLast?_concat

variable {byte : UInt8}

section Written

variable {text segment rest : Bytes}

/-- A segment as a path may show it: bare, or between backticks. -/
def Writes (text segment : Bytes) : Prop :=
  (isBareIdentifier segment ∧ text = segment) ∨ text = quote segment

theorem splitFrom_byte
    {inQuoted : Bool}
    (noTick : byte ≠ backtick)
    (noDot : inQuoted = true ∨ byte ≠ dot)
    (parts : List Bytes)
    (part : Bytes) :
    splitFrom parts part inQuoted (byte :: rest) =
      splitFrom parts (part ++ [byte]) inQuoted rest := by
  rw [splitFrom]
  · exact noTick
  · rintro - - isTick -
    exact noTick isTick
  · rintro rfl rfl
    simp at noDot

/-- The body of a quoted segment is passed over as one piece. -/
theorem splitFrom_doubled
    (ends : rest.head? ≠ some backtick)
    (parts : List Bytes)
    (part : Bytes) :
    splitFrom parts part true (doubleBackticks segment ++ backtick :: rest) =
      splitFrom parts (part ++ doubleBackticks segment ++ [backtick]) false
        rest := by
  induction segment generalizing part with
  | nil =>
    cases rest with
    | nil => simp [splitFrom, doubleBackticks]
    | cons next tail =>
      have other : next ≠ 96 := by simpa using ends
      simp [splitFrom, doubleBackticks, other]
  | cons byte segment inductionHypothesis =>
    unfold doubleBackticks at inductionHypothesis ⊢
    by_cases tick : byte = backtick
    · subst tick
      simp [splitFrom, inductionHypothesis]
    · simp only [flatMap_cons, if_neg tick, cons_append, nil_append]
      rw [splitFrom_byte tick (Or.inl rfl), inductionHypothesis]
      simp

theorem ne_of_isWordPart (word : isWordPart byte) : byte ≠ backtick ∧ byte ≠ dot := by
  constructor <;>
    rintro rfl <;>
    simp [isWordPart, isWordStart, isUpper, isLower, isDigit] at word

theorem splitFrom_bare
    (bare : segment.all isWordPart)
    (parts : List Bytes)
    (part : Bytes) :
    splitFrom parts part false (segment ++ rest) =
      splitFrom parts (part ++ segment) false rest := by
  induction segment generalizing part with
  | nil => simp
  | cons byte segment inductionHypothesis =>
    simp only [all_cons, Bool.and_eq_true] at bare
    obtain ⟨noTick, noDot⟩ := ne_of_isWordPart bare.1
    rw [cons_append, splitFrom_byte noTick (Or.inr noDot), inductionHypothesis bare.2]
    simp

theorem isBareIdentifier_all (bare : isBareIdentifier segment) : segment.all isWordPart := by
  cases segment with
  | nil => rfl
  | cons first rest =>
    simp only [isBareIdentifier, Bool.and_eq_true] at bare
    simp [isWordPart, bare.1, bare.2]

variable (writes : Writes text segment)

include writes

/-- A written segment is passed over, up to the dot or the end behind it. -/
theorem splitFrom_writes (ends : rest.head? ≠ some backtick) (parts : List Bytes) :
    splitFrom parts [] false (text ++ rest) = splitFrom parts text false rest := by
  rcases writes with ⟨bare, rfl⟩ | rfl
  · exact splitFrom_bare (isBareIdentifier_all bare) parts []
  · simp only [quote, cons_append, append_assoc, nil_append]
    rw [splitFrom, Bool.not_false, splitFrom_doubled ends]
    · simp
    · simp

omit writes in
theorem unquoteBody_doubleBackticks (value : Bytes) :
    unquoteBody (doubleBackticks value) = some value := by
  induction value with
  | nil => rfl
  | cons byte value inductionHypothesis =>
    unfold doubleBackticks at inductionHypothesis ⊢
    by_cases tick : byte = backtick
    · subst tick
      simp [unquoteBody, inductionHypothesis]
    simp only [flatMap_cons, if_neg tick, cons_append, nil_append]
    rw [unquoteBody, inductionHypothesis]
    · rfl
    · rintro - rfl
      exact absurd rfl tick
    · exact tick

theorem Writes.head_edge : text.head?.any isEdge := by
  rcases writes with ⟨bare, rfl⟩ | rfl
  · cases text with
    | nil => simp [isBareIdentifier] at bare
    | cons first rest =>
      simp only [isBareIdentifier, Bool.and_eq_true] at bare
      simp [isEdge, isWordPart, bare.1]
  · simp [quote, isEdge]

theorem Writes.last_edge : text.getLast?.any isEdge := by
  rcases writes with ⟨bare, rfl⟩ | rfl
  · cases last : text.getLast? with
    | none => simp [getLast?_eq_none_iff.mp last, isBareIdentifier] at bare
    | some byte =>
      have word := all_eq_true.mp (isBareIdentifier_all bare) byte (mem_of_getLast? last)
      simp [isEdge, word]
  · simp [isEdge]

theorem parseSegment_writes : parseSegment text = some segment := by
  have trimmed := trimUnicodeSpace_of_edges writes.head_edge writes.last_edge
  rcases writes with ⟨bare, rfl⟩ | rfl
  · have noTick : backtick ∉ text := by
      intro member
      have word := all_eq_true.mp (isBareIdentifier_all bare) _ member
      exact (ne_of_isWordPart word).1 rfl
    have nonempty : text ≠ [] := by
      rintro rfl
      simp [isBareIdentifier] at bare
    have open_ : ¬ (text.head? = some backtick ∨ text.getLast? = some backtick) := by
      rintro (first | last)
      · exact noTick (mem_of_head? first)
      · exact noTick (mem_of_getLast? last)
    simp [parseSegment, trimmed, if_neg nonempty, if_neg open_, if_neg noTick]
  · have unquoted : unquote (quote segment) = some segment := by
      simp only [unquote, trimmed, getLast?_quote]
      simp [quote, unquoteBody_doubleBackticks]
    simp only [parseSegment, trimmed, unquoted]
    simp [quote]

end Written

/-! ## Paths -/

/-- Every segment of a path is shown by one text. -/
abbrev Shows (texts segments : List Bytes) : Prop := Forall₂ Writes texts segments

variable {value}

section Paths

variable {texts segments : List Bytes}
  (shows : Shows texts segments)

include shows

theorem splitFrom_join (nonempty : texts ≠ []) (parts : List Bytes) :
    splitFrom parts [] false ([dot].intercalate texts) = parts ++ texts := by
  induction shows generalizing parts with
  | nil => exact absurd rfl nonempty
  | @cons text segment texts segments writes shows inductionHypothesis =>
    cases texts with
    | nil =>
      have ends : ([] : Bytes).head? ≠ some backtick := by simp
      have whole := splitFrom_writes writes ends parts
      rw [append_nil, splitFrom] at whole
      rwa [intercalate_singleton]
    | cons next texts =>
      rw [intercalate_cons_cons, append_assoc,
        splitFrom_writes writes (by simp), singleton_append,
        splitFrom, inductionHypothesis (by simp)]
      simp

theorem head_edge_join (nonempty : texts ≠ []) : ([dot].intercalate texts).head?.any isEdge := by
  cases shows with
  | nil => exact absurd rfl nonempty
  | @cons text segment texts segments writes shows =>
    have edge := writes.head_edge
    cases text with
    | nil => simp at edge
    | cons first rest =>
      cases texts with
      | nil | cons next texts => simpa using edge

theorem last_edge_join (nonempty : texts ≠ []) : ([dot].intercalate texts).getLast?.any isEdge := by
  induction shows with
  | nil => exact absurd rfl nonempty
  | @cons text segment texts segments writes shows inductionHypothesis =>
    cases texts with
    | nil => simpa using writes.last_edge
    | cons next texts =>
      have edge := inductionHypothesis (by simp)
      rw [intercalate_cons_cons, getLast?_append]
      cases last : ([dot].intercalate (next :: texts)).getLast? with
      | none => simp [last] at edge
      | some byte => simpa [last] using edge

/-- A path that shows non-empty segments parses to exactly these. -/
theorem parsePath_join (nonempty : segments ≠ []) (full : [] ∉ segments) :
    parsePath ([dot].intercalate texts) = some segments := by
  have someText : texts ≠ [] := by
    rintro rfl
    cases shows
    exact nonempty rfl
  have edge := head_edge_join shows someText
  have someByte : [dot].intercalate texts ≠ [] := by
    intro empty
    simp [empty] at edge
  have split : splitPath ([dot].intercalate texts) = texts := by
    simp [splitPath, if_neg someByte, splitFrom_join shows someText,
      trimUnicodeSpace_of_edges edge (last_edge_join shows someText)]
  have read : texts.mapM (fun part =>
      (parseSegment part).filter (· != [])) = some segments := by
    clear split edge someByte someText nonempty
    induction shows with
    | nil => rfl
    | cons writes shows inductionHypothesis =>
      simp only [mem_cons, not_or] at full
      have kept := inductionHypothesis full.2
      rw [mapM_cons, kept, parseSegment_writes writes]
      simp [Option.filter, Ne.symm full.1]
  unfold parsePath
  rw [split]
  cases texts with
  | nil => exact absurd rfl someText
  | cons text texts => exact read

omit shows in
theorem shows_canonicalSegment (segments : List Bytes) :
    Shows (segments.map canonicalSegment) segments := by
  rw [Shows, forall₂_map_left_iff, forall₂_same]
  intro segment _
  unfold Writes canonicalSegment
  split <;> simp [*]

omit shows in
theorem canonicalParts_some {parts : List Bytes} (found : canonicalParts value = some parts) :
    ∃ segments, parsePath value = some segments ∧ segments ≠ [] ∧
      [] ∉ segments ∧ parts = segments.map canonicalSegment := by
  unfold canonicalParts at found
  cases parsed : parsePath value with
  | none => simp [parsed] at found
  | some segments =>
    rw [parsed] at found
    dsimp only at found
    split at found
    · simp at found
    · next full =>
        rw [not_or] at full
        exact ⟨segments, rfl, full.1, full.2, (Option.some.inj found).symm⟩

theorem canonicalParts_join (nonempty : segments ≠ []) (full : [] ∉ segments) :
    canonicalParts ([dot].intercalate texts) = some (segments.map canonicalSegment) := by
  simp [canonicalParts, parsePath_join shows nonempty full, nonempty, full]

omit shows

/-- A non-empty normal form parses to the segments of the path. -/
theorem parsePath_normalizePath (nonempty : normalizePath value ≠ []) :
    parsePath (normalizePath value) = parsePath value := by
  unfold normalizePath at nonempty ⊢
  cases found : canonicalParts value with
  | none => simp [found] at nonempty
  | some parts =>
    obtain ⟨segments, parsed, someSegment, full, rfl⟩ := canonicalParts_some found
    rw [parsed]
    exact parsePath_join (shows_canonicalSegment segments) someSegment full

theorem normalizePath_congr {first second : Bytes} (same : parsePath first = parsePath second) :
    normalizePath first = normalizePath second := by
  simp [normalizePath, canonicalParts, same]

theorem normalizePath_idem (value : Bytes) :
    normalizePath (normalizePath value) = normalizePath value := by
  by_cases empty : normalizePath value = []
  · rw [empty]
    decide
  · exact normalizePath_congr (parsePath_normalizePath empty)

theorem splitLastPath_quote {segment : Bytes} (full : segment ≠ []) :
    splitLastPath (quote segment) = ([], canonicalSegment segment) := by
  have shows : Shows [quote segment] [segment] := Forall₂.cons (Or.inr rfl) Forall₂.nil
  have parts := canonicalParts_join shows (by simp) (by simp [full.symm])
  rw [intercalate_singleton] at parts
  simp [splitLastPath, parts]

theorem parsePath_canonicalID {target : InsertTarget} (database : target.database ≠ [])
    (table : target.table ≠ []) :
    parsePath (canonicalID target) = some [target.database, target.table] := by
  have shows : Shows [quote target.database, quote target.table] [target.database, target.table] :=
    Forall₂.cons (Or.inr rfl) (Forall₂.cons (Or.inr rfl) Forall₂.nil)
  have full : [] ∉ [target.database, target.table] := by
    simp [database.symm, table.symm]
  have parts := canonicalParts_join shows (by simp) full
  have joined : canonicalID target =
      [dot].intercalate ([target.database, target.table].map canonicalSegment) := by
    rw [intercalate_cons_cons, intercalate_singleton] at parts
    rw [canonicalID, if_neg (by simp [database, table]), normalizePath, parts]
  rw [joined]
  exact parsePath_join (shows_canonicalSegment _) (by simp) full

end Paths

/--
The normal form of an identifier path.  A malformed path and a target without
database or table have the empty text as their normal form, and `SplitLastPath`
returns segments in canonical spelling.
-/
theorem identifier_normal_form :
    (∀ value, normalizePath (normalizePath value) = normalizePath value) ∧
    (∀ first second, normalizePath first ≠ [] → normalizePath second ≠ [] →
      (normalizePath first = normalizePath second ↔ parsePath first = parsePath second)) ∧
    (∀ segment, segment ≠ [] →
      splitLastPath (quote segment) = ([], canonicalSegment segment) ∧
      parsePath (canonicalSegment segment) = some [segment]) ∧
    splitLastPath (quote []) = ([], []) ∧
    (∀ target : InsertTarget, canonicalID target = [] ↔ target.database = [] ∨ target.table = []) ∧
    ∀ first second : InsertTarget, canonicalID first ≠ [] → canonicalID first = canonicalID second →
        first.database = second.database ∧ first.table = second.table := by
  have noneEmpty (target : InsertTarget) :
      canonicalID target = [] ↔ target.database = [] ∨ target.table = [] := by
    constructor
    · intro empty
      by_contra full
      rw [not_or] at full
      have parsed := parsePath_canonicalID full.1 full.2
      have malformed : parsePath [] = none := by decide
      simp [empty, malformed] at parsed
    · intro empty
      exact if_pos empty
  refine ⟨normalizePath_idem, ?_, ?_, by decide, noneEmpty, ?_⟩
  · intro first second someFirst someSecond
    refine ⟨fun same => ?_, normalizePath_congr⟩
    rw [← parsePath_normalizePath someFirst, same, parsePath_normalizePath someSecond]
  · intro segment full
    refine ⟨splitLastPath_quote full, ?_⟩
    have parsed := parsePath_join (shows_canonicalSegment [segment]) (by simp) (by simp [full.symm])
    rwa [map_singleton, intercalate_singleton] at parsed
  · intro first second nonempty same
    have someFirst := nonempty
    rw [Ne, noneEmpty, not_or] at someFirst
    rw [same, Ne, noneEmpty, not_or] at nonempty
    have parsed := parsePath_canonicalID someFirst.1 someFirst.2
    rw [same, parsePath_canonicalID nonempty.1 nonempty.2] at parsed
    simp only [Option.some.injEq, cons.injEq, and_true] at parsed
    exact ⟨parsed.1.symm, parsed.2.symm⟩

/-- Blanks and quotes around the same two names. -/
theorem identifier_normal_form_tenant :
    normalizePath (ascii " tenant . events ") = normalizePath (ascii "`tenant`.events") :=
  (identifier_normal_form.2.1 _ _ (by decide) (by decide)).mpr (by decide)

/--
The last segment comes back as its canonical spelling, and targets without a
database all have the empty identifier.
-/
theorem splitLastPath_spelling_and_empty_identifier :
    splitLastPath (quote (ascii "a-b")) = ([], ascii "`a-b`") ∧
      canonicalID ⟨[], ascii "a", false⟩ = canonicalID ⟨[], ascii "b", false⟩ := by
  decide

end HouseGate.SqlIdent
