import Mathlib.Algebra.BigOperators.Group.List.Basic
import HouseGate.PayloadExecutor

namespace HouseGate.Replay

open DecimalText KeyedSort LtHash CheckedSteps MapFolds List AList PartGroups

/-!
# What one statement and one block add

The parts of a statement are specified by the rows it carries: one part for
every partition that a row names, whose hash is the sum of the hashes of the
rows of that partition.  A block appends the parts of its statements, in order,
to the entries of their partitions and leaves every other entry alone.
-/

variable {α : Type} {primitives : Primitives α}
  {schema : TableSchema} {parts : List PartManifestEntry}
  {partitionID : Bytes}

section Grouping

/-- What a row adds to its partition. -/
def rowHash (primitives : Primitives α) (schema : TableSchema) (row : Row α) : Hash :=
  (rowElementHash primitives schema row).getD 0

/-- The sum of the rows of one partition. -/
def rowHashSum
    (primitives : Primitives α) (schema : TableSchema) (rows : List (Row α)) (partitionID : Bytes) :
    Hash :=
  ((rows.filter (fun row => row.partitionID == partitionID)).map (rowHash primitives schema)).sum

theorem rowHashSum_of_absent
    {rows : List (Row α)} (absent : ∀ row ∈ rows, row.partitionID ≠ partitionID) :
    rowHashSum primitives schema rows partitionID = 0 := by
  have empty : rows.filter (fun row => row.partitionID == partitionID) = [] := by
    rw [filter_eq_nil_iff]
    intro row member
    simpa using absent row member
  simp [rowHashSum, empty]

/-- The totals of the rows that are read already. -/
structure Grouped
    (primitives : Primitives α)
    (schema : TableSchema)
    (rows : List (Row α))
    (groups : PartGroups) :
    Prop where
  orderNodup : groups.partitionOrder.Nodup
  order :
    ∀ partitionID, partitionID ∈ groups.partitionOrder ↔ ∃ row ∈ rows, row.partitionID = partitionID
  absent : ∀ partitionID, partitionID ∉ groups.partitionOrder →
      groups.byPartition.lookup partitionID = none
  totals : ∀ partitionID ∈ groups.partitionOrder, ∃ totals,
      groups.byPartition.lookup partitionID = some totals ∧
      totals.acc = rowHashSum primitives schema rows partitionID
  accepted : ∀ row ∈ rows, row.partitionID ≠ [] ∧ (rowElement primitives schema row).isSome

theorem grouped_empty (primitives : Primitives α) (schema : TableSchema) :
    Grouped primitives schema [] empty where
  orderNodup := nodup_nil
  order := by
    simp [empty]
  absent := by
    intro partitionID _
    exact lookup_empty partitionID
  totals := by
    simp [empty]
  accepted := forall_mem_nil _

/-- What one turn of the loop does when it does not fail. -/
theorem addRow_ok {groups after : PartGroups} {row : Row α}
    (added : addRow primitives schema groups row = .ok after) :
    row.partitionID ≠ [] ∧
    (rowElement primitives schema row).isSome ∧
    after.partitionOrder = (groups.enter row.partitionID).2 ∧
    ∃ totals : PartAgg, totals.acc = (groups.enter row.partitionID).1.acc +
        rowHash primitives schema row ∧
      after.byPartition = groups.byPartition.insert row.partitionID totals := by
  simp only [addRow, guard_eq_ok_iff] at added
  obtain ⟨_, named, rest⟩ := added
  cases hashed : rowElementHash primitives schema row with
  | none => simp [hashed] at rest
  | some hash =>
    simp only [hashed, guard_eq_ok_iff] at rest
    obtain ⟨_, same⟩ := rest
    have present : (rowElement primitives schema row).isSome := by
      have some := congrArg Option.isSome hashed
      simpa [rowElementHash] using some
    have value : rowHash primitives schema row = hash := by
      simp [rowHash, hashed]
    cases same
    refine ⟨named, present, rfl, _, ?_, rfl⟩
    rw [value]

section Reading

variable {rows : List (Row α)} {groups after : PartGroups} {row : Row α}
  (grouped : Grouped primitives schema rows groups)

include grouped

/-- A partition is entered with the sum of its rows so far, which is zero for a new one. -/
theorem Grouped.enter (partitionID : Bytes) : (groups.enter partitionID).2.Nodup ∧
    (∀ other, other ∈ (groups.enter partitionID).2 ↔
      other = partitionID ∨ other ∈ groups.partitionOrder) ∧
    (groups.enter partitionID).1.acc = rowHashSum primitives schema rows partitionID := by
  by_cases known : partitionID ∈ groups.partitionOrder
  · obtain ⟨totals, lookedUp, acc⟩ := grouped.totals partitionID known
    have entered : groups.enter partitionID = (totals, groups.partitionOrder) := by
      simp [PartGroups.enter, lookedUp]
    rw [entered]
    refine ⟨grouped.orderNodup, ?_, acc⟩
    intro other
    constructor
    · exact .inr
    · rintro (rfl | listed)
      · exact known
      · exact listed
  · have entered : groups.enter partitionID =
        (PartAgg.new, groups.partitionOrder ++ [partitionID]) := by
      simp [PartGroups.enter, grouped.absent _ known]
    rw [entered]
    refine ⟨?_, ?_, ?_⟩
    · apply Nodup.append grouped.orderNodup (nodup_singleton _)
      simpa using known
    · intro other
      rw [mem_append, mem_singleton, or_comm]
    · refine (rowHashSum_of_absent ?_).symm
      intro row member same
      exact known ((grouped.order _).mpr ⟨row, member, same⟩)

theorem Grouped.addRow (added : Replay.addRow primitives schema groups row = .ok after) :
    Grouped primitives schema (rows ++ [row]) after := by
  obtain ⟨named, present, orderEq, totals, accEq, mapEq⟩ := addRow_ok added
  obtain ⟨nodup, listed, before⟩ := grouped.enter row.partitionID
  rw [← orderEq] at nodup listed
  rw [before] at accEq
  refine ⟨nodup, ?_, ?_, ?_, ?_⟩
  · intro partitionID
    rw [listed, grouped.order]
    simp [or_and_right, exists_or, or_comm, eq_comm]
  · intro partitionID unlisted
    rw [listed, not_or] at unlisted
    rw [mapEq, lookup_insert_ne unlisted.1]
    exact grouped.absent partitionID unlisted.2
  · intro partitionID member
    have sums : rowHashSum primitives schema (rows ++ [row]) partitionID =
        rowHashSum primitives schema rows partitionID +
          rowHashSum primitives schema [row] partitionID := by
      simp [rowHashSum]
    rw [mapEq, sums]
    by_cases same : partitionID = row.partitionID
    · subst same
      have own :
          rowHashSum primitives schema [row] row.partitionID = rowHash primitives schema row := by
        simp [rowHashSum]
      rw [lookup_insert, own]
      exact ⟨totals, rfl, accEq⟩
    · have others : rowHashSum primitives schema [row] partitionID = 0 :=
        rowHashSum_of_absent (forall_mem_singleton.mpr (Ne.symm same))
      rw [lookup_insert_ne same, others, add_zero]
      exact grouped.totals partitionID (((listed partitionID).mp member).resolve_left same)
  · exact forall_mem_append.mpr ⟨grouped.accepted, forall_mem_singleton.mpr ⟨named, present⟩⟩

end Reading

/-- The parts that a statement was cut into. -/
structure BuiltParts
    (primitives : Primitives α)
    (schema : TableSchema)
    (blockSeq statementSeq : UInt64)
    (rows : List (Row α))
    (parts : List PartManifestEntry) :
    Prop where
  distinct : (parts.map PartManifestEntry.partitionID).Nodup
  partitions : ∀ partitionID, partitionID ∈ parts.map PartManifestEntry.partitionID ↔
      ∃ row ∈ rows, row.partitionID = partitionID
  built : ∀ part ∈ parts, ∃ totals : PartAgg, part =
      newPart primitives schema blockSeq statementSeq part.partitionID totals ∧
      totals.acc = rowHashSum primitives schema rows part.partitionID
  accepted : ∀ row ∈ rows, row.partitionID ≠ [] ∧ (rowElement primitives schema row).isSome

theorem buildParts_ok {blockSeq statementSeq : UInt64} {source : RowSource α}
    (built : buildParts primitives schema blockSeq statementSeq source = .ok parts) :
    source.ending = .endOfStream ∧
    BuiltParts primitives schema blockSeq statementSeq source.rows parts := by
  simp only [buildParts, bind_eq_ok_iff, guard_eq_ok_iff] at built
  obtain ⟨groups, grouping, notFailed, same⟩ := built
  cases same
  have grouped : Grouped primitives schema source.rows groups :=
    foldlM_processed (Grouped primitives schema)
      (fun _ _ _ _ _ stepped before => before.addRow stepped)
      grouping (grouped_empty primitives schema)
  have atEnd : source.ending = .endOfStream := by
    cases ending : source.ending with
    | endOfStream => rfl
    | failed => exact absurd ending notFailed
  have listed : ∀ partitionID, partitionID ∈ sortTexts groups.partitionOrder ↔
      partitionID ∈ groups.partitionOrder :=
    fun _ => mem_sortBy
  have found : ∀ partitionID ∈ sortTexts groups.partitionOrder, ∃ part,
      (groups.byPartition.lookup partitionID).map
        (newPart primitives schema blockSeq statementSeq partitionID) = some part ∧
      part.partitionID = partitionID := by
    intro partitionID member
    obtain ⟨totals, lookedUp, _⟩ := grouped.totals partitionID ((listed partitionID).mp member)
    exact ⟨_, by rw [lookedUp, Option.map_some], rfl⟩
  have ids := map_filterMap_eq_self found
  refine ⟨atEnd, ?_, ?_, ?_, grouped.accepted⟩
  · rw [ids]
    exact (sortBy_perm _ _).nodup_iff.mpr grouped.orderNodup
  · intro partitionID
    rw [ids, listed, grouped.order]
  intro part member
  obtain ⟨partitionID, inOrder, made⟩ := mem_filterMap.mp member
  obtain ⟨totals, lookedUp, accEq⟩ := grouped.totals partitionID ((listed partitionID).mp inOrder)
  rw [lookedUp, Option.map_some, Option.some.injEq] at made
  subst made
  exact ⟨totals, rfl, accEq⟩

end Grouping

variable {state : AppendState} {built : List (List PartManifestEntry)}

section Appending

/-- The parts of a list that belong to one partition of one table. -/
def partsAt (parts : List PartManifestEntry) (tableID partitionID : Bytes) :
    List PartManifestEntry :=
  parts.filter fun part => part.tableID == tableID && part.partitionID == partitionID

theorem partsAt_append (first second : List PartManifestEntry) (tableID partitionID : Bytes) :
    partsAt (first ++ second) tableID partitionID = partsAt first tableID partitionID ++
        partsAt second tableID partitionID :=
  filter_append ..

variable {schemas : Map TableSchema} {blockSeq : UInt64} {start : LedgerParts}
  {batches : List (StatementRows α)} {part : PartManifestEntry} {batch : StatementRows α}

@[simp] theorem mem_partsAt {tableID : Bytes} : part ∈ partsAt parts tableID partitionID ↔
    part ∈ parts ∧ part.tableID = tableID ∧ part.partitionID = partitionID := by
  simp [partsAt]

/-- The entries under one partition of one table. -/
def entriesAt (parts : LedgerParts) (tableID partitionID : Bytes) : List PartManifestEntry :=
  ((parts.lookup tableID).bind (fun byPartition => byPartition.lookup partitionID)).getD []

/-- The partition is listed, with or without entries. -/
def HasPartition (parts : LedgerParts) (tableID partitionID : Bytes) : Prop :=
  ∃ byPartition, parts.lookup tableID = some byPartition ∧ partitionID ∈ byPartition

/-- A ledger after some parts were appended to it. -/
structure AppendedTo (start : LedgerParts) (state : AppendState) : Prop where
  tables : ∀ tableID, tableID ∈ state.parts ↔ tableID ∈ start
  partitions : ∀ tableID partitionID, HasPartition state.parts tableID partitionID ↔
      HasPartition start tableID partitionID ∨
      ∃ part ∈ state.affected, part.tableID = tableID ∧ part.partitionID = partitionID
  entries : ∀ tableID partitionID, entriesAt state.parts tableID partitionID =
      entriesAt start tableID partitionID ++ partsAt state.affected tableID partitionID
  placed : ∀ part ∈ state.affected, part.tableID ∈ start

theorem appendedTo_start (start : LedgerParts) :
    AppendedTo start { parts := start, touched := [], affected := [] } where
  tables := fun _ => Iff.rfl
  partitions := by
    simp
  entries := by
    simp [partsAt]
  placed := forall_mem_nil _

theorem appendPart_mem {byPartition : Map (List PartManifestEntry)} :
    partitionID ∈ appendPart byPartition part ↔
      partitionID = part.partitionID ∨ partitionID ∈ byPartition :=
  mem_insert byPartition

theorem appendPart_lookup
    (byPartition : Map (List PartManifestEntry))
    (part : PartManifestEntry)
    (partitionID : Bytes) :
    ((appendPart byPartition part).lookup partitionID).getD [] =
      (byPartition.lookup partitionID).getD [] ++
        if part.partitionID = partitionID then [part] else [] := by
  by_cases same : part.partitionID = partitionID
  · subst same
    simp [appendPart, lookup_insert]
  · rw [appendPart, lookup_insert_ne (Ne.symm same), if_neg same, append_nil]

section Insert

variable {parts : LedgerParts} {tableID : Bytes} {byPartition : Map (List PartManifestEntry)}

theorem hasPartition_of_lookup (found : parts.lookup tableID = some byPartition) :
    HasPartition parts tableID partitionID ↔ partitionID ∈ byPartition := by
  simp [HasPartition, found]

theorem entriesAt_of_lookup (found : parts.lookup tableID = some byPartition)
    (partitionID : Bytes) :
    entriesAt parts tableID partitionID = (byPartition.lookup partitionID).getD [] := by
  simp [entriesAt, found]

/-- A part is appended to its own partition and to no other. -/
theorem entriesAt_appended (found : parts.lookup part.tableID = some byPartition)
    (tableID partitionID : Bytes) :
    (HasPartition (parts.insert part.tableID (appendPart byPartition part)) tableID partitionID ↔
      HasPartition parts tableID partitionID ∨
        part.tableID = tableID ∧ part.partitionID = partitionID) ∧
    entriesAt (parts.insert part.tableID (appendPart byPartition part)) tableID partitionID =
      entriesAt parts tableID partitionID ++ partsAt [part] tableID partitionID := by
  by_cases own : tableID = part.tableID
  · subst own
    have after : (parts.insert part.tableID (appendPart byPartition part)).lookup part.tableID =
        some (appendPart byPartition part) := lookup_insert _
    rw [hasPartition_of_lookup after, hasPartition_of_lookup found, entriesAt_of_lookup after,
      entriesAt_of_lookup found, appendPart_mem, appendPart_lookup]
    by_cases same : part.partitionID = partitionID
    · simp [partsAt, same]
    · simp [partsAt, same, Ne.symm same]
  · simp [HasPartition, entriesAt, partsAt, lookup_insert_ne own, Ne.symm own]

end Insert

/-- Appending a part leaves everything but its own partition alone. -/
theorem AppendedTo.appendNewPart {before after : AppendState} (appended : AppendedTo start before)
    (stepped : Replay.appendNewPart before part = .ok after) :
    AppendedTo start after ∧ after.affected = before.affected ++ [part] := by
  unfold Replay.appendNewPart at stepped
  cases found : before.parts.lookup part.tableID with
  | none => simp [found] at stepped
  | some byPartition =>
    simp only [found, Except.ok.injEq] at stepped
    subst stepped
    have tableListed : part.tableID ∈ before.parts := mem_iff_lookup.mpr ⟨byPartition, found⟩
    refine ⟨⟨?_, ?_, ?_, ?_⟩, rfl⟩
    · intro tableID
      rw [mem_insert, ← appended.tables]
      constructor
      · rintro (rfl | listed)
        · exact tableListed
        · exact listed
      · exact .inr
    · intro tableID partitionID
      rw [(entriesAt_appended found tableID partitionID).1, appended.partitions]
      simp [or_assoc, or_and_right, exists_or]
    · intro tableID partitionID
      rw [(entriesAt_appended found tableID partitionID).2, appended.entries, append_assoc,
        ← partsAt_append]
    · refine forall_mem_append.mpr ⟨appended.placed, forall_mem_singleton.mpr ?_⟩
      rw [← appended.tables]
      exact tableListed

theorem liftBuild_eq_ok_iff {step : Except BuildRefusal β} {value : β} :
    liftBuild step = .ok value ↔ step = .ok value := by
  cases step with
  | error reason | ok built => simp [liftBuild]

/-- The schema that the rows of a statement are read with. -/
def targetSchema (schemas : Map TableSchema) (batch : StatementRows α) : TableSchema :=
  (schemas.lookup batch.targetTableID).getD TableSchema.zero

/-- The parts that one statement of a block was cut into. -/
def BuiltFrom (primitives : Primitives α) (schemas : Map TableSchema) (blockSeq : UInt64)
    (batch : StatementRows α) (parts : List PartManifestEntry) :
    Prop :=
  ∃ source, batch.rows = some source ∧ buildParts primitives (targetSchema schemas batch) blockSeq
      batch.statementSeq source = .ok parts

theorem AppendedTo.appendStatement {before after : AppendState} (appended : AppendedTo start before)
    (stepped : Replay.appendStatement primitives schemas blockSeq before batch = .ok after) :
    AppendedTo start after ∧
    ∃ parts, BuiltFrom primitives schemas blockSeq batch parts ∧
      after.affected = before.affected ++ parts := by
  unfold Replay.appendStatement at stepped
  cases supplied : batch.rows with
  | none => simp [supplied] at stepped
  | some source =>
    simp only [supplied, bind_eq_ok_iff, liftBuild_eq_ok_iff] at stepped
    obtain ⟨parts, built, folded⟩ := stepped
    have result : AppendedTo start after ∧ after.affected = before.affected ++ parts :=
      foldlM_processed (fun processed state =>
          AppendedTo start state ∧ state.affected = before.affected ++ processed)
        (fun processed part state next _ step holds => by
          obtain ⟨kept, grown⟩ := holds.1.appendNewPart step
          refine ⟨kept, ?_⟩
          rw [grown, holds.2, append_assoc])
        folded ⟨appended, by simp⟩
    exact ⟨result.1, parts, ⟨source, supplied, built⟩, result.2⟩

/-- What the statements of a block have added to a ledger. -/
structure BlockAppended
    (primitives : Primitives α)
    (schemas : Map TableSchema)
    (blockSeq : UInt64)
    (batches : List (StatementRows α))
    (start : LedgerParts)
    (state : AppendState) :
    Prop where
  appended : AppendedTo start state
  built : ∃ parts, Forall₂ (BuiltFrom primitives schemas blockSeq) batches parts ∧
      state.affected = parts.flatten

theorem appendStatements_ok (folded : batches.foldlM (appendStatement primitives schemas blockSeq)
    { parts := start, touched := [], affected := [] } = .ok state) :
    BlockAppended primitives schemas blockSeq batches start state := by
  have result := foldlM_processed (fun processed state =>
      AppendedTo start state ∧
      ∃ parts, Forall₂ (BuiltFrom primitives schemas blockSeq) processed parts ∧
        state.affected = parts.flatten)
      (fun processed batch before after _ stepped holds => by
        obtain ⟨appended, parts, paired, collected⟩ := holds
        obtain ⟨next, newParts, built, grown⟩ := appended.appendStatement stepped
        refine ⟨next, parts ++ [newParts], ?_, ?_⟩
        · exact rel_append paired (Forall₂.cons built Forall₂.nil)
        · rw [grown, collected, flatten_append]
          simp)
      folded
      ⟨appendedTo_start start, [], Forall₂.nil, rfl⟩
  exact ⟨result.1, result.2⟩

/-- Every statement of a block was read to the end of its rows. -/
theorem BlockAppended.source (block : BlockAppended primitives schemas blockSeq batches start state)
    (member : batch ∈ batches) :
    ∃ source, batch.rows = some source ∧ source.ending = .endOfStream := by
  obtain ⟨built, paired, _⟩ := block.built
  obtain ⟨parts, _, source, supplied, made⟩ := exists_paired paired member
  exact ⟨source, supplied, (buildParts_ok made).1⟩

end Appending

end HouseGate.Replay
