import HouseGate.CanonicalSort

namespace HouseGate.SnapshotOutput

open CheckedSteps DecimalText KeyedSort Replay RunMerge List

/-!
# The output of a snapshot query is its rows in order

Every step of the sort moves records between memory and runs without adding or
dropping one, and every run stays in order.  So the one run at the end holds
the records of the normalized input in order of their keys, whatever runs were
spilled and however they were merged.
-/

variable {written : SortRun} {record : SortRecord} {previous : Option Bytes}

section Steps

variable {host : Host} {call : Call} {state after : SortState}

/-- What the accounting leaves alone. -/
structure Keeps (before after : SortState) : Prop where
  rows : after.rows = before.rows
  records : after.records = before.records
  levels : after.levels = before.levels

theorem Keeps.refl (state : SortState) : Keeps state state := ⟨rfl, rfl, rfl⟩

theorem Keeps.trans
    {first second third : SortState}
    (earlier : Keeps first second)
    (later : Keeps second third) :
    Keeps first third :=
  ⟨later.rows.trans earlier.rows, later.records.trans earlier.records,
    later.levels.trans earlier.levels⟩

theorem keeps_attempt (attempted : attempt host state = some after) : Keeps state after := by
  unfold attempt at attempted
  split_ifs at attempted
  obtain rfl := Option.some.inj attempted
  exact ⟨rfl, rfl, rfl⟩

theorem keeps_chargeSpill {bytes : Nat} (charged : chargeSpill call state bytes = some after) :
    Keeps state after := by
  rw [chargeSpill, bind_eq_some_iff] at charged
  obtain ⟨spill, -, charged⟩ := charged
  split_ifs at charged
  obtain rfl := Option.some.inj charged
  exact ⟨rfl, rfl, rfl⟩

variable {run : SortRun} {records : List SortRecord}

theorem newWriter_eq_some (opened : newWriter host call state = some (run, after)) :
    run.records = [] ∧ Keeps state after := by
  simp only [newWriter, bind_eq_some_iff, pure_eq_some_iff, Prod.mk.injEq] at opened
  obtain ⟨first, attempted, second, charged, third, attemptedAgain, rfl,
    rfl⟩ := opened
  exact ⟨rfl, (keeps_attempt attempted).trans
    ((keeps_chargeSpill charged).trans (keeps_attempt attemptedAgain))⟩

/-- The sizes of the records that a run was written with are known to it. -/
def SortRun.Covers (run : SortRun) : Prop :=
  ∀ record ∈ run.records, record.size ≤ run.maxRecord ∧ record.size ≤ run.size

theorem writeRecord_eq_some
    {run : SortRun} (wrote : writeRecord host call (run, state) record = some (written, after)) :
    written.records = run.records ++ [record] ∧
      (run.Covers → written.Covers) ∧ Keeps state after := by
  simp only [writeRecord, bind_eq_some_iff, pure_eq_some_iff, Prod.mk.injEq] at wrote
  obtain ⟨charged, chargedEq, attempted, attemptedEq, rfl, rfl⟩ := wrote
  refine ⟨rfl, ?_, (keeps_chargeSpill chargedEq).trans (keeps_attempt attemptedEq)⟩
  intro covers listed member
  rcases mem_append.mp member with earlier | new
  · obtain ⟨belowMax, belowSize⟩ := covers listed earlier
    exact ⟨le_max_of_le_left belowMax, Nat.le_add_right_of_le belowSize⟩
  · rw [mem_singleton.mp new]
    exact ⟨le_max_right _ _, Nat.le_add_left _ _⟩

theorem foldlM_writeRecord {run : SortRun}
    (wrote : records.foldlM (writeRecord host call) (run, state) = some (written, after)) :
    written.records = run.records ++ records ∧ Keeps state after := by
  induction records generalizing run state with
  | nil =>
    obtain ⟨rfl, rfl⟩ : run = written ∧ state = after := by
      simpa using wrote
    exact ⟨(append_nil _).symm, Keeps.refl _⟩
  | cons record records inductionHypothesis =>
    rw [foldlM_cons, bind_eq_some_iff] at wrote
    obtain ⟨⟨next, middle⟩, first, rest⟩ := wrote
    obtain ⟨nextRecords, -, kept⟩ := writeRecord_eq_some first
    obtain ⟨all, keptRest⟩ := inductionHypothesis rest
    refine ⟨?_, kept.trans keptRest⟩
    rw [all, nextRecords, append_assoc, singleton_append]

theorem writeRun_eq_some (wrote : writeRun host call state records = some (run, after)) :
    run.records = records ∧ Keeps state after := by
  simp only [writeRun, bind_eq_some_iff, pure_eq_some_iff, Prod.mk.injEq] at wrote
  obtain ⟨⟨empty, opened⟩, openedEq, ⟨full, middle⟩, folded, last, attempted, rfl, rfl⟩ := wrote
  obtain ⟨emptyRecords, kept⟩ := newWriter_eq_some openedEq
  obtain ⟨all, keptFold⟩ := foldlM_writeRecord folded
  refine ⟨?_, kept.trans (keptFold.trans (keeps_attempt attempted))⟩
  rw [all, emptyRecords, nil_append]

theorem readRecords_eq_some (read : readRecords host call run previous records state = some after) :
    recordsCheck host call run previous records = some () ∧ Keeps state after := by
  induction records generalizing previous state with
  | nil =>
    obtain rfl : state = after := by
      simpa [readRecords] using read
    exact ⟨rfl, Keeps.refl _⟩
  | cons record records inductionHypothesis =>
    simp only [readRecords, bind_eq_some_iff] at read
    obtain ⟨middle, attempted, ⟨⟩, checked, rest⟩ := read
    obtain ⟨restChecked, kept⟩ := inductionHypothesis rest
    refine ⟨?_, (keeps_attempt attempted).trans kept⟩
    simp [recordsCheck, checked, restChecked]

theorem readRun_eq_some (read : readRun host call state run = some (records, after)) :
    records = run.records ∧
      recordsCheck host call run none run.records = some () ∧ Keeps state after := by
  simp only [readRun, bind_eq_some_iff, pure_eq_some_iff, Prod.mk.injEq] at read
  obtain ⟨opened, openedEq, middle, readEq, last, attempted, rfl, rfl⟩ := read
  obtain ⟨checked, kept⟩ := readRecords_eq_some readEq
  exact ⟨rfl, checked, (keeps_attempt openedEq).trans (kept.trans (keeps_attempt attempted))⟩

theorem merge_eq_some {first second merged : SortRun}
    (done : merge host call state first second = some (merged, after)) :
    merged.records = mergeRuns SortRecord.order first.records second.records ∧
      Keeps state after := by
  simp only [merge, bind_eq_some_iff, pure_eq_some_iff, Prod.mk.injEq] at done
  obtain ⟨-, -, ⟨firstRecords, afterFirst⟩, firstRead,
    ⟨secondRecords, afterSecond⟩, secondRead, ⟨run, afterWrite⟩, wrote,
    last, attempted, rfl, rfl⟩ := done
  obtain ⟨rfl, -, keptFirst⟩ := readRun_eq_some firstRead
  obtain ⟨rfl, -, keptSecond⟩ := readRun_eq_some secondRead
  obtain ⟨records, keptWrite⟩ := writeRun_eq_some wrote
  exact ⟨records, keptFirst.trans (keptSecond.trans (keptWrite.trans (keeps_attempt attempted)))⟩

end Steps

variable {levels : List (Option SortRun)}

section Levels

variable {host : Host} {call : Call} {state after : SortState}

/-- The records of a level; a free one has none. -/
def levelRecords : Option SortRun → List SortRecord
  | none => []
  | some run => run.records

variable (levels)

def spilled : List SortRecord := levels.flatMap levelRecords

def LevelsOrdered : Prop :=
  ∀ level ∈ levels, Ordered SortRecord.order (levelRecords level)

variable {levels}

/-- A carry loses no record and leaves every level in order. -/
theorem carry_eq_some {carried : List (Option SortRun)} {run : SortRun}
    (done : carry host call state levels run = some (carried, after)) :
    (spilled carried).Perm (run.records ++ spilled levels) ∧
      (LevelsOrdered levels → Ordered SortRecord.order run.records → LevelsOrdered carried) ∧
      Keeps state after := by
  induction levels generalizing run carried state with
  | nil => cases done
  | cons level higher inductionHypothesis =>
    cases level with
    | none =>
      obtain ⟨rfl, rfl⟩ : some run :: higher = carried ∧ state = after := by
        simpa [carry] using done
      refine ⟨Perm.refl _, ?_, Keeps.refl _⟩
      intro ordered runOrdered level member
      rcases mem_cons.mp member with rfl | later
      · exact runOrdered
      · exact ordered level (mem_cons_of_mem _ later)
    | some taken =>
      simp only [carry, bind_eq_some_iff, pure_eq_some_iff, Prod.mk.injEq] at done
      obtain ⟨⟨merged, middle⟩, mergedEq, ⟨rest, last⟩, restEq, rfl,
        rfl⟩ := done
      obtain ⟨records, kept⟩ := merge_eq_some mergedEq
      obtain ⟨permuted, orderedRest, keptRest⟩ := inductionHypothesis restEq
      refine ⟨?_, ?_, kept.trans keptRest⟩
      · calc
          (spilled rest).Perm (merged.records ++ spilled higher) := permuted
          _ = mergeRuns SortRecord.order taken.records run.records ++ spilled higher := by
            rw [records]
          Perm _ ((run.records ++ taken.records) ++ spilled higher) :=
            ((mergeRuns_perm _ _).trans perm_append_comm).append_right _
          _ = run.records ++ spilled (some taken :: higher) := by
            simp [spilled, levelRecords]
      · intro ordered runOrdered
        have takenOrdered := ordered (some taken) mem_cons_self
        have mergedOrdered : Ordered SortRecord.order merged.records := by
          rw [records]
          exact mergeRuns_ordered takenOrdered runOrdered
        have above := orderedRest (fun level member => ordered level (mem_cons_of_mem _ member))
            mergedOrdered
        intro level member
        rcases mem_cons.mp member with rfl | later
        · exact Pairwise.nil
        · exact above level later

/-- All records of a state, in memory and spilled. -/
def held (state : SortState) : List SortRecord := state.records ++ spilled state.levels

/-- A step that adds records to those held and leaves the levels in order. -/
structure Adds (new : List SortRecord) (before after : SortState) : Prop where
  rows : after.rows = before.rows + new.length
  held : (held after).Perm (held before ++ new)
  ordered : LevelsOrdered before.levels → LevelsOrdered after.levels

theorem Keeps.adds (kept : Keeps state after) : Adds [] state after := by
  refine ⟨kept.rows, ?_, ?_⟩
  · rw [held, held, kept.records, kept.levels, append_nil]
  · rw [kept.levels]
    exact id

theorem Adds.trans {new later : List SortRecord} {first second third : SortState}
    (earlier : Adds new first second) (rest : Adds later second third) :
    Adds (new ++ later) first third := by
  refine ⟨?_, ?_, fun ordered => rest.ordered (earlier.ordered ordered)⟩
  · rw [rest.rows, earlier.rows, length_append, Nat.add_assoc]
  · rw [← append_assoc]
    exact rest.held.trans (earlier.held.append_right _)

/-- Everything in memory goes to the levels. -/
theorem flush_eq_some (flushed : flush host call state = some after) :
    after.records = [] ∧ Adds [] state after := by
  unfold flush at flushed
  split_ifs at flushed with empty
  · have kept := keeps_attempt flushed
    exact ⟨kept.records.trans empty, kept.adds⟩
  simp only [bind_eq_some_iff, pure_eq_some_iff] at flushed
  obtain ⟨first, firstEq, second, secondEq, ⟨run, third⟩, wrote,
    ⟨levels, fourth⟩, carriedEq, rfl⟩ := flushed
  have kept := (keeps_attempt firstEq).trans (keeps_attempt secondEq)
  obtain ⟨records, keptWrite⟩ := writeRun_eq_some wrote
  obtain ⟨permuted, ordered, keptCarry⟩ := carry_eq_some carriedEq
  have all := kept.trans keptWrite
  have sortedPerm : run.records.Perm state.records := by
    rw [records, (keeps_attempt firstEq).records]
    exact host.slices.perm state.records
  have sortedOrdered : Ordered SortRecord.order run.records := by
    rw [records]
    exact host.slices.ordered first.records
  rw [all.levels] at permuted ordered
  refine ⟨keptCarry.records, keptCarry.rows.trans all.rows, ?_,
    fun levelsOrdered => ordered levelsOrdered sortedOrdered⟩
  rw [append_nil, held, keptCarry.records, nil_append]
  exact permuted.trans (sortedPerm.append_right _)

end Levels

section Gathering

variable {host : Host} {call : Call} {state after : SortState}

theorem gather_eq_some {gathered next : Option SortRun} {level : Option SortRun}
    (done : gather host call (gathered, state) level = some (next, after)) :
    (levelRecords next).Perm (levelRecords gathered ++ levelRecords level) ∧
      (Ordered SortRecord.order (levelRecords gathered) →
        Ordered SortRecord.order (levelRecords level) →
        Ordered SortRecord.order (levelRecords next)) ∧
      Keeps state after := by
  cases level with
  | none =>
    obtain ⟨rfl, rfl⟩ : gathered = next ∧ state = after := by
      simpa [gather] using done
    refine ⟨?_, fun ordered _ => ordered, Keeps.refl _⟩
    rw [levelRecords.eq_1, append_nil]
  | some run =>
    cases gathered with
    | none =>
      obtain ⟨rfl, rfl⟩ : some run = next ∧ state = after := by
        simpa [gather] using done
      exact ⟨Perm.refl _, fun _ ordered => ordered, Keeps.refl _⟩
    | some sofar =>
      simp only [gather, bind_eq_some_iff, pure_eq_some_iff, Prod.mk.injEq] at done
      obtain ⟨⟨merged, middle⟩, mergedEq, rfl, rfl⟩ := done
      obtain ⟨records, kept⟩ := merge_eq_some mergedEq
      simp only [levelRecords, records]
      exact ⟨mergeRuns_perm _ _, mergeRuns_ordered, kept⟩

theorem foldlM_gather {gathered final : Option SortRun}
    (done : levels.foldlM (gather host call) (gathered, state) = some (final, after)) :
    (levelRecords final).Perm (levelRecords gathered ++ spilled levels) ∧
      (Ordered SortRecord.order (levelRecords gathered) →
        LevelsOrdered levels → Ordered SortRecord.order (levelRecords final)) ∧
      Keeps state after := by
  induction levels generalizing gathered state with
  | nil =>
    obtain ⟨rfl, rfl⟩ : gathered = final ∧ state = after := by
      simpa using done
    refine ⟨?_, fun ordered _ => ordered, Keeps.refl _⟩
    rw [spilled, flatMap_nil, append_nil]
  | cons level levels inductionHypothesis =>
    rw [foldlM_cons, bind_eq_some_iff] at done
    obtain ⟨⟨next, middle⟩, first, rest⟩ := done
    obtain ⟨permuted, ordered, kept⟩ := gather_eq_some first
    obtain ⟨restPermuted, restOrdered, keptRest⟩ := inductionHypothesis rest
    refine ⟨?_, ?_, kept.trans keptRest⟩
    · rw [spilled, flatMap_cons, ← append_assoc]
      exact restPermuted.trans (permuted.append_right _)
    intro gatheredOrdered levelsOrdered
    apply restOrdered
    · exact ordered gatheredOrdered (levelsOrdered level mem_cons_self)
    · intro later member
      exact levelsOrdered later (mem_cons_of_mem _ member)

theorem finishRuns_eq_some
    {run : Option SortRun} (done : finishRuns host call state = some (run, after)) :
    after.rows = state.rows ∧ (levelRecords run).Perm (spilled state.levels) ∧
      (LevelsOrdered state.levels → Ordered SortRecord.order (levelRecords run)) := by
  simp only [finishRuns, bind_eq_some_iff, pure_eq_some_iff, Prod.mk.injEq] at done
  obtain ⟨⟨gathered, middle⟩, folded, last, attempted, rfl, rfl⟩ := done
  obtain ⟨permuted, ordered, kept⟩ := foldlM_gather folded
  exact ⟨(keeps_attempt attempted).rows.trans kept.rows, permuted, ordered Pairwise.nil⟩

end Gathering

variable {charge : RowCharge} {values : List Value}

section Input

variable {host : Host} {call : Call} {state after : SortState}

/-- The record that a normalized row is sorted as. -/
def plainRecord (schema : TableSchema) (normal : List Value) : Option SortRecord :=
  (rowKey schema normal).map fun key =>
    { key := key, typed := encodeTyped normal, id := [], partition := [] }

theorem makeRoom_eq_some (room : makeRoom host call state = some after) : Adds [] state after := by
  unfold makeRoom at room
  split_ifs at room with empty
  · obtain rfl := Option.some.inj room
    exact (Keeps.refl _).adds
  · exact (flush_eq_some room).2

theorem reserve_eq_some
    {runMemory : Nat} (reserved : reserve host call state charge = some (runMemory, after)) :
    Adds [] state after := by
  rw [reserve, bind_eq_some_iff] at reserved
  obtain ⟨grown, -, reserved⟩ := reserved
  split_ifs at reserved with fits
  · obtain ⟨-, rfl⟩ : grown = runMemory ∧ state = after := by
      simpa using reserved
    exact (Keeps.refl _).adds
  · simp only [bind_eq_some_iff, pure_eq_some_iff, Prod.mk.injEq] at reserved
    obtain ⟨middle, room, -, -, -, rfl⟩ := reserved
    exact makeRoom_eq_some room

theorem chargeRow_rows (charged : chargeRow host call state values = some charge) :
    charge.rows = state.rows + 1 := by
  rw [chargeRow, bind_eq_some_iff] at charged
  obtain ⟨rows, rowsEq, charged⟩ := charged
  split_ifs at charged with tooMany
  simp only [bind_eq_some_iff, pure_eq_some_iff] at charged
  obtain ⟨-, -, layout, -, workspace, -, reservation, -, total, -, retained, -, rfl⟩ := charged
  unfold checkedAdd at rowsEq
  split_ifs at rowsEq
  exact (Option.some.inj rowsEq).symm

theorem recordRow_eq_some {projectedOutput projected : Nat} {layout : RowLayout}
    (recorded : recordRow host call projectedOutput layout values = some (projected, record)) :
    ∃ normal, normalizeRow host.loadLocation call.schema values = some normal ∧
        plainRecord call.schema normal = some record := by
  simp only [recordRow, bind_eq_some_iff] at recorded
  obtain ⟨content, -, minimum, -, total, -, recorded⟩ := recorded
  split_ifs at recorded with tooLong
  simp only [bind_eq_some_iff] at recorded
  obtain ⟨normal, normalized, partition, -, grown, -, recorded⟩ := recorded
  split_ifs at recorded with tooLongKey
  simp only [bind_eq_some_iff] at recorded
  obtain ⟨key, keyEq, recorded⟩ := recorded
  split_ifs at recorded with wrongSize
  obtain ⟨-, rfl⟩ := recorded
  exact ⟨normal, normalized, by simp [plainRecord, keyEq]⟩

/-- An accepted row adds the record of its normal form. -/
theorem add_eq_some (added : add host call state values = some after) : ∃ normal record,
    normalizeRow host.loadLocation call.schema values = some normal ∧
    plainRecord call.schema normal = some record ∧ Adds [record] state after := by
  simp only [add, bind_eq_some_iff] at added
  obtain ⟨charge, charged, ⟨runMemory, middle⟩, reservedEq,
    ⟨projected, record⟩, recordedEq, added⟩ := added
  obtain ⟨normal, normalized, recorded⟩ := recordRow_eq_some recordedEq
  have reserved := reserve_eq_some reservedEq
  refine ⟨normal, record, normalized, recorded, ?_⟩
  have appended : Adds [record] state (middle.withRecord charge runMemory projected record) := by
    refine ⟨chargeRow_rows charged, ?_, reserved.ordered⟩
    have all := reserved.held.append_right [record]
    rw [append_nil] at all
    refine Perm.trans ?_ all
    rw [held, held, SortState.withRecord, append_assoc, append_assoc]
    exact perm_append_comm.append_left _
  split_ifs at added with full
  · exact appended.trans (flush_eq_some added).2
  · exact appended.trans (keeps_attempt added).adds

end Input

variable {rows : List (List Value)}

section Collected

variable {host : Host} {call : Call} {start state : SortState}

/-- After any number of rows the state holds one record for each. -/
theorem foldlM_addRow (folded : rows.foldlM (addRow host call) start = some state) :
    ∃ normals records, rows.mapM (normalizeRow host.loadLocation call.schema) = some normals ∧
      normals.mapM (plainRecord call.schema) = some records ∧
      records.length = rows.length ∧ Adds records start state := by
  induction rows generalizing start with
  | nil =>
    obtain rfl : start = state := by
      simpa using folded
    exact ⟨[], [], rfl, rfl, rfl, (Keeps.refl _).adds⟩
  | cons values rows inductionHypothesis =>
    rw [foldlM_cons, bind_eq_some_iff] at folded
    obtain ⟨next, first, rest⟩ := folded
    rw [addRow, bind_eq_some_iff] at first
    obtain ⟨looked, attempted, added⟩ := first
    obtain ⟨normal, record, normalized, recorded, adds⟩ := add_eq_some added
    obtain ⟨normals, records, restNormalized, restRecorded, count, restAdds⟩ :=
      inductionHypothesis rest
    refine ⟨normal :: normals, record :: records, ?_, ?_, congrArg Nat.succ count, ?_⟩
    · simp [normalized, restNormalized]
    · simp [recorded, restRecorded]
    · exact (keeps_attempt attempted).adds.trans (adds.trans restAdds)

theorem newSortState_held (opened : newSortState host call = some state) :
    held state = [] ∧ state.rows = 0 ∧ LevelsOrdered state.levels := by
  simp only [newSortState, bind_eq_some_iff] at opened
  obtain ⟨directory, -, first, -, second, -, base, -, -, -, opened⟩ := opened
  split_ifs at opened with refused
  obtain rfl := Option.some.inj opened
  refine ⟨?_, rfl, ?_⟩
  · simp [held, spilled, levelRecords]
  · intro level member
    rw [eq_of_mem_replicate member]
    exact Pairwise.nil

end Collected

section Lists

variable {α β γ : Type} {f : α → Option β} {items : List α} {images : List β}
  (mapped : items.mapM f = some images)

include mapped

theorem eq_filterMap_of_mapM : images = items.filterMap f := by
  induction items generalizing images with
  | nil => simpa using mapped.symm
  | cons item items inductionHypothesis =>
    simp only [mapM_cons, bind_eq_some_iff, pure_eq_some_iff] at mapped
    obtain ⟨image, imageEq, rest, restMapped, rfl⟩ := mapped
    rw [filterMap_cons_some imageEq, inductionHypothesis restMapped]

omit mapped in
theorem mapM_perm {left right : List α} {leftImages rightImages : List β}
    (same : left.Perm right) (leftMapped : left.mapM f = some leftImages)
    (rightMapped : right.mapM f = some rightImages) :
    leftImages.Perm rightImages := by
  rw [eq_filterMap_of_mapM leftMapped, eq_filterMap_of_mapM rightMapped]
  exact same.filterMap f

theorem exists_of_mapM {image : β} (member : image ∈ images) :
    ∃ item ∈ items, f item = some image := by
  rw [eq_filterMap_of_mapM mapped] at member
  exact mem_filterMap.mp member

/-- What every image is mapped to, in terms of its item. -/
theorem mapM_of_mapM {back : β → Option γ} {target : α → γ}
    (inverse : ∀ item ∈ items, ∀ image, f item = some image → back image = some (target item)) :
    images.mapM back = some (items.map target) := by
  induction items generalizing images with
  | nil =>
    obtain rfl : images = [] := by
      simpa using mapped.symm
    rfl
  | cons item items inductionHypothesis =>
    simp only [mapM_cons, bind_eq_some_iff, pure_eq_some_iff] at mapped
    obtain ⟨image, imageEq, rest, restMapped, rfl⟩ := mapped
    have restBack :=
      inductionHypothesis restMapped fun later member =>
        inverse later (mem_cons_of_mem item member)
    simp [inverse item mem_cons_self image imageEq, restBack]

end Lists

variable {input : Option SortRun} {records : List SortRecord} {output : CanonicalOutput}

section Writing

variable {host : Host} {call : Call} {state after : SortState}

theorem outputRecord_eq_some {ordinal : Nat} {final : SortRecord}
    (recorded : outputRecord host call ordinal record = some final) :
    ∃ values, decodeTyped host.loadLocation call.schema record.typed = some values ∧
      partitionIDForRow host.loadLocation host.renderers call.schema values = some final.partition ∧
      final.id = rowID host call.networkID call.schema.tableID call.statementID ordinal ∧
      final.key = record.key ∧ final.typed = record.typed := by
  unfold outputRecord at recorded
  split_ifs at recorded with final
  simp only [bind_eq_some_iff, pure_eq_some_iff] at recorded
  obtain ⟨values, decoded, partition, placed, rfl⟩ := recorded
  exact ⟨values, decoded, placed, rfl, rfl, rfl⟩

theorem writeOutput_eq_some {run : SortRun} {numbered : SortRecord × Nat}
    (wrote : writeOutput host call (run, state) numbered = some (written, after)) :
    ∃ final, outputRecord host call numbered.2 numbered.1 = some final ∧
      written.records = run.records ++ [final] ∧
      (run.Covers → written.Covers) ∧ after.rows = state.rows := by
  simp only [writeOutput, bind_eq_some_iff] at wrote
  obtain ⟨final, finalEq, outputBytes, -, wrote⟩ := wrote
  split_ifs at wrote with tooLong
  obtain ⟨records, covers, kept⟩ := writeRecord_eq_some wrote
  exact ⟨final, finalEq, records, covers, kept.rows⟩

theorem foldlM_writeOutput {numbered : List (SortRecord × Nat)} {run : SortRun}
    (wrote : numbered.foldlM (writeOutput host call) (run, state) = some (written, after)) :
    ∃ finals, numbered.mapM (fun entry => outputRecord host call entry.2 entry.1) = some finals ∧
      written.records = run.records ++ finals ∧
      (run.Covers → written.Covers) ∧ after.rows = state.rows := by
  induction numbered generalizing run state with
  | nil =>
    obtain ⟨rfl, rfl⟩ : run = written ∧ state = after := by
      simpa using wrote
    exact ⟨[], rfl, (append_nil _).symm, id, rfl⟩
  | cons entry numbered inductionHypothesis =>
    rw [foldlM_cons, bind_eq_some_iff] at wrote
    obtain ⟨⟨next, middle⟩, first, rest⟩ := wrote
    obtain ⟨final, finalEq, records, covers, counted⟩ := writeOutput_eq_some first
    obtain ⟨finals, finalsEq, allRecords, allCovers, allCounted⟩ := inductionHypothesis rest
    refine ⟨final :: finals, ?_, ?_, fun covered =>
      allCovers (covers covered), allCounted.trans counted⟩
    · simp [finalEq, finalsEq]
    · rw [allRecords, records, append_assoc, singleton_append]

/-- What a finished call says about the sorted records. -/
structure Finished
    (host : Host)
    (call : Call)
    (sorted : List SortRecord)
    (rows : Nat)
    (output : CanonicalOutput) :
    Prop where
  count : sorted.length = rows
  checked : ∃ run, recordsCheck host call run none sorted = some ()
  records : sorted.zipIdx.mapM (fun entry => outputRecord host call entry.2 entry.1) =
      some output.run.records
  covers : output.run.Covers
  hashes : output.hashes = sorted.map fun record => digestBytes host.primitives.sum256 record.key
  root : outputCommitmentHash host call output.hashes rows = some output.root
  partitions : output.partitions = sortTexts (output.run.records.map SortRecord.partition).dedup

theorem readSorted_eq_some (read : readSorted host call state input = some (records, after)) :
    records = levelRecords input ∧
      (∃ run, recordsCheck host call run none records = some ()) ∧ after.rows = state.rows := by
  cases input with
  | none =>
    obtain ⟨rfl, rfl⟩ : [] = records ∧ state = after := by
      simpa [readSorted] using read
    exact ⟨rfl, ⟨⟨[], 0, 0⟩, rfl⟩, rfl⟩
  | some run =>
    obtain ⟨rfl, checked, kept⟩ := readRun_eq_some read
    exact ⟨rfl, ⟨run, checked⟩, kept.rows⟩

theorem finishOutput_eq_some (done : finishOutput host call state input = some output) :
    Finished host call (levelRecords input) state.rows output := by
  simp only [finishOutput, bind_eq_some_iff] at done
  obtain ⟨-, -, ⟨run, opened⟩, openedEq, ⟨records, read⟩, readEq, done⟩ := done
  split_ifs at done with miscounted
  simp only [bind_eq_some_iff, pure_eq_some_iff] at done
  obtain ⟨⟨written, last⟩, folded, root, rootEq, -, -, rfl⟩ := done
  obtain ⟨empty, keptOpen⟩ := newWriter_eq_some openedEq
  obtain ⟨rfl, checked, readRows⟩ := readSorted_eq_some readEq
  obtain ⟨finals, finalsEq, all, covers, counted⟩ := foldlM_writeOutput folded
  have rows : read.rows = state.rows := readRows.trans keptOpen.rows
  have written : written.records = finals := by
    rw [all, empty, nil_append]
  refine ⟨(not_not.mp miscounted).trans rows, checked, ?_, covers ?_, rfl, ?_, rfl⟩
  · rw [finalsEq, written]
  · intro record member
    rw [empty] at member
    cases member
  · rw [← rows, ← counted]
    exact rootEq

end Writing

section Reading

variable {host : Host} {call : Call}

theorem fitInt_eq_some_iff {size : Nat} : fitInt size = some () ↔ size < 2 ^ 63 := by
  unfold fitInt
  by_cases small : size < 2 ^ 63
  · rw [if_pos small]
    exact iff_of_true rfl small
  · rw [if_neg small]
    exact iff_of_false nofun small

theorem checkRead_eq_some_iff {run : SortRun} {record : SortRecord} :
    checkRead host call run previous record = some () ↔
      (record.size ≤ run.maxRecord ∧ record.size ≤ run.size ∧ record.size < 2 ^ 63) ∧
      (∃ values normal, decodeTyped host.loadLocation call.schema record.typed = some values ∧
        normalizeRow host.loadLocation call.schema values = some normal ∧
        rowKey call.schema normal = some record.key ∧ encodeTyped normal = record.typed) ∧
      previous.any (fun earlier => decide (textKey record.key < textKey earlier)) = false := by
  unfold checkRead
  by_cases tooLong : run.maxRecord < record.size ∨ run.size < record.size
  · rw [if_pos tooLong]
    refine iff_of_false nofun ?_
    rintro ⟨⟨belowMax, belowSize, -⟩, -⟩
    omega
  rw [if_neg tooLong]
  simp only [not_or, not_lt] at tooLong
  simp only [bind_eq_some_iff]
  constructor
  · rintro ⟨⟨⟩, fits, values, decoded, normal, normalized, key, keyed, done⟩
    by_cases different : key ≠ record.key ∨ encodeTyped normal ≠ record.typed
    · rw [if_pos different] at done
      cases done
    rw [if_neg different] at done
    simp only [not_or, not_not] at different
    obtain ⟨rfl, typed⟩ := different
    refine ⟨⟨tooLong.1, tooLong.2, fitInt_eq_some_iff.mp fits⟩,
      ⟨values, normal, decoded, normalized, keyed, typed⟩, ?_⟩
    by_contra disordered
    rw [if_pos (Bool.eq_true_of_not_eq_false disordered)] at done
    cases done
  · rintro ⟨⟨-, -, small⟩, ⟨values, normal, decoded, normalized, keyed, typed⟩, inOrder⟩
    refine ⟨(), fitInt_eq_some_iff.mpr small, values, decoded, normal,
      normalized, record.key, keyed, ?_⟩
    simp [typed, inOrder]

variable {sorted finals : List SortRecord}

/-- Records with the same keys and values pass the reader of their run. -/
theorem recordsCheck_finals {run final : SortRun}
    (checked : recordsCheck host call run previous sorted = some ())
    (keys : finals.map SortRecord.key = sorted.map SortRecord.key)
    (typed : finals.map SortRecord.typed = sorted.map SortRecord.typed)
    (sizes : ∀ record ∈ finals,
        record.size ≤ final.maxRecord ∧ record.size ≤ final.size ∧ record.size < 2 ^ 63) :
    recordsCheck host call final previous finals = some () := by
  induction sorted generalizing previous finals with
  | nil =>
    obtain rfl : finals = [] := map_eq_nil_iff.mp keys
    rfl
  | cons record sorted inductionHypothesis =>
    cases finals with
    | nil => cases keys
    | cons first rest =>
      simp only [map_cons, cons.injEq] at keys typed
      simp only [recordsCheck, bind_eq_some_iff] at checked ⊢
      obtain ⟨⟨⟩, firstChecked, restChecked⟩ := checked
      rw [checkRead_eq_some_iff] at firstChecked
      refine ⟨(), ?_, ?_⟩
      · rw [checkRead_eq_some_iff, keys.1, typed.1]
        exact ⟨sizes first mem_cons_self, firstChecked.2⟩
      · rw [keys.1]
        exact inductionHypothesis restChecked keys.2 typed.2
          fun later member => sizes later (mem_cons_of_mem first member)

/-- The row that a reader hands out for a record and its values. -/
def finalRow (final : SortRecord) (values : List Value) : Row Value :=
  { rowID := final.id
    values := values
    partitionID := final.partition
    rawBytes := UInt64.ofNat final.size }

/-- The rows of the finals: their values, ids and partitions. -/
structure RowsOf
    (host : Host)
    (call : Call)
    (output : CanonicalOutput)
    (start : Nat)
    (sorted finals : List SortRecord)
    (rows : List (Row Value)) :
    Prop where
  read : (finals.zipIdx start).mapM (outputRow host call output) = some rows
  values : sorted.mapM (fun record => decodeTyped host.loadLocation call.schema record.typed) =
      some (rows.map Row.values)
  partitions : (rows.map Row.values).mapM
      (partitionIDForRow host.loadLocation host.renderers call.schema) =
      some (finals.map SortRecord.partition)
  ids : ∀ index row, rows[index]? = some row → row.rowID =
      rowID host call.networkID call.schema.tableID call.statementID (start + index)
  keys : finals.map SortRecord.key = sorted.map SortRecord.key
  typed : finals.map SortRecord.typed = sorted.map SortRecord.typed

theorem exists_rowsOf {start : Nat}
    (recorded : (sorted.zipIdx start).mapM (fun entry => outputRecord host call entry.2 entry.1) =
        some finals)
    (hashes : ∀ index, output.hashes[start + index]? =
        (sorted.map fun record => digestBytes host.primitives.sum256 record.key)[index]?) :
    ∃ rows, RowsOf host call output start sorted finals rows := by
  induction sorted generalizing start finals with
  | nil =>
    obtain rfl : finals = [] := by
      simpa using recorded.symm
    exact ⟨[], rfl, rfl, rfl, nofun, rfl, rfl⟩
  | cons record sorted inductionHypothesis =>
    simp only [zipIdx_cons, mapM_cons, bind_eq_some_iff, pure_eq_some_iff] at recorded
    obtain ⟨final, finalEq, rest, restEq, rfl⟩ := recorded
    obtain ⟨values, decoded, placed, identified, keyed, typed⟩ := outputRecord_eq_some finalEq
    obtain ⟨rows, rowsOf⟩ :=
      inductionHypothesis restEq (fun index => by
        have later := hashes (index + 1)
        rw [show start + (index + 1) = start + 1 + index by omega] at later
        simpa using later)
    have own := hashes 0
    simp only [Nat.add_zero, map_cons, getElem?_cons_zero] at own
    have row : outputRow host call output (final, start) = some (finalRow final values) := by
      simp [outputRow, keyed, own, identified, typed, decoded, placed, finalRow]
    refine ⟨finalRow final values :: rows, ?_, ?_, ?_, ?_, ?_, ?_⟩
    · simp only [zipIdx_cons, mapM_cons, row, rowsOf.read]
      rfl
    · simp [decoded, rowsOf.values, finalRow]
    · have rest := rowsOf.partitions
      simp [placed, rest, finalRow]
    · intro index found foundEq
      cases index with
      | zero =>
        obtain rfl := Option.some.inj foundEq
        exact identified
      | succ index =>
        have later := rowsOf.ids index found (by simpa using foundEq)
        rwa [show start + (index + 1) = start + 1 + index by omega]
    · simp [keyed, rowsOf.keys]
    · simp [typed, rowsOf.typed]

end Reading

variable {normal : List Value}

section Sorted

variable {host : Host} {call : Call}

/-- The records of an accepted input, in order, and the output over them. -/
structure SortedInput
    (host : Host)
    (call : Call)
    (rows : List (List Value))
    (output : CanonicalOutput)
    (normals : List (List Value))
    (records sorted : List SortRecord) :
    Prop where
  normalized : rows.mapM (normalizeRow host.loadLocation call.schema) = some normals
  recorded : normals.mapM (plainRecord call.schema) = some records
  permuted : sorted.Perm records
  ordered : Ordered SortRecord.order sorted
  finished : Finished host call sorted rows.length output

theorem canonicalize_eq_some
    {input : RowStream} (accepted : canonicalize host call input = some output) :
    ∃ normals records sorted, SortedInput host call input.rows output normals records sorted := by
  rw [canonicalize, Option.ite_none_left_eq_some] at accepted
  obtain ⟨-, accepted⟩ := accepted
  simp only [bind_eq_some_iff, Option.ite_none_left_eq_some] at accepted
  obtain ⟨start, opened, looked, lookedEq, filled, folded, -, accepted⟩ := accepted
  obtain ⟨closed, closedEq, flushed, flushedEq, ⟨run, gathered⟩, gatheredEq, finished⟩ := accepted
  obtain ⟨startHeld, startRows, startOrdered⟩ := newSortState_held opened
  obtain ⟨normals, records, normalized, recorded, count, filledAdds⟩ := foldlM_addRow folded
  obtain ⟨emptied, flushedAdds⟩ := flush_eq_some flushedEq
  obtain ⟨gatheredRows, gatheredHeld, gatheredOrdered⟩ := finishRuns_eq_some gatheredEq
  have adds := (keeps_attempt lookedEq).adds.trans
    (filledAdds.trans ((keeps_attempt closedEq).adds.trans flushedAdds))
  simp only [nil_append, append_nil] at adds
  have rows : gathered.rows = input.rows.length := by
    rw [gatheredRows, adds.rows, startRows, Nat.zero_add, count]
  have all := adds.held
  rw [held, emptied, startHeld, nil_append, nil_append] at all
  refine ⟨normals, records, levelRecords run, normalized, recorded, gatheredHeld.trans all,
    gatheredOrdered (adds.ordered startOrdered), ?_⟩
  rw [← rows]
  exact finishOutput_eq_some finished

variable {normals : List (List Value)} {sorted : List SortRecord}

theorem SortedInput.stands
    (input : SortedInput host call rows output normals records sorted)
    (member : normal ∈ normals)
    (recorded : plainRecord call.schema normal = some record) :
    decodeTyped host.loadLocation call.schema record.typed = some normal ∧
      rowKey call.schema normal = some record.key := by
  obtain ⟨values, -, normalized⟩ := exists_of_mapM input.normalized member
  rw [plainRecord, Option.map_eq_some_iff] at recorded
  obtain ⟨key, keyed, rfl⟩ := recorded
  exact ⟨decodeTyped_encodeTyped normalized, keyed⟩

/-- The values of the sorted records are the normalized rows. -/
theorem SortedInput.values_perm
    (input : SortedInput host call rows output normals records sorted) {values : List (List Value)}
    (decoded : sorted.mapM (fun record => decodeTyped host.loadLocation call.schema record.typed) =
        some values) :
    values.Perm normals := by
  have back : records.mapM (fun record => decodeTyped host.loadLocation call.schema record.typed) =
      some (normals.map id) :=
    mapM_of_mapM input.recorded fun _ member _ recorded => (input.stands member recorded).1
  rw [map_id] at back
  exact mapM_perm input.permuted decoded back

theorem SortedInput.keys
    (input : SortedInput host call rows output normals records sorted)
    {values : List (List Value)}
    (decoded : sorted.mapM (fun record => decodeTyped host.loadLocation call.schema record.typed) =
        some values) :
    values.mapM (rowKey call.schema) = some (sorted.map SortRecord.key) := by
  apply mapM_of_mapM decoded
  intro record member value valueEq
  obtain ⟨normal, normalMember, recorded⟩ :=
    exists_of_mapM input.recorded (input.permuted.mem_iff.mp member)
  obtain ⟨stands, key⟩ := input.stands normalMember recorded
  obtain rfl := Option.some.inj (stands.symm.trans valueEq)
  exact key

end Sorted

section Results

/-- What the rows of an output are, for the rows that came in. -/
structure OutputOf
    (host : Host)
    (call : Call)
    (input : List (List Value))
    (output : CanonicalOutput)
    (rows : List (Row Value)) :
    Prop where
  read : output.run.records.zipIdx.mapM (outputRow host call output) = some rows
  reopened :
    (∀ record ∈ output.run.records, record.size < 2 ^ 63) → outputRows host call output = some rows
  values : ∃ normals, input.mapM (normalizeRow host.loadLocation call.schema) = some normals ∧
      (rows.map Row.values).Perm normals
  ordered : ∃ keys, (rows.map Row.values).mapM (rowKey call.schema) = some keys ∧
      keys.Pairwise (fun left right => textKey left ≤ textKey right)
  ids : ∀ index row, rows[index]? = some row → row.rowID =
      rowID host call.networkID call.schema.tableID call.statementID index
  rowCount : output.rowCount = input.length

variable {host other : Host} {call otherCall : Call} {normals : List (List Value)}

theorem SortedInput.outputOf
    {sorted : List SortRecord} (input : SortedInput host call rows output normals records sorted) :
    ∃ handed, OutputOf host call rows output handed := by
  have finished := input.finished
  obtain ⟨handed, rowsOf⟩ :=
    exists_rowsOf finished.records (fun index => by
      rw [finished.hashes, Nat.zero_add])
  have reopened : (∀ record ∈ output.run.records, record.size < 2 ^ 63) →
      outputRows host call output = some handed := by
    intro small
    obtain ⟨run, checked⟩ := finished.checked
    have passed := recordsCheck_finals checked rowsOf.keys rowsOf.typed (fun record member =>
        ⟨(finished.covers record member).1, (finished.covers record member).2, small record member⟩)
    simp [outputRows, passed, rowsOf.read]
  refine ⟨handed, rowsOf.read, reopened,
    ⟨normals, input.normalized, input.values_perm rowsOf.values⟩,
    ⟨_, input.keys rowsOf.values, pairwise_map.mpr input.ordered⟩,
    ?_, ?_⟩
  · intro index row found
    have identified := rowsOf.ids index row found
    rwa [Nat.zero_add] at identified
  · have sameLength := congrArg length rowsOf.keys
    rw [length_map, length_map] at sameLength
    exact sameLength.trans finished.count

/-- The parts of a call that the root and the partitions may depend on. -/
structure SameTarget (host other : Host) (call otherCall : Call) : Prop where
  primitives : other.primitives = host.primitives
  loadLocation : other.loadLocation = host.loadLocation
  renderers : other.renderers = host.renderers
  networkID : otherCall.networkID = call.networkID
  schema : otherCall.schema = call.schema

theorem SortedInput.partitions
    {sorted : List SortRecord}
    (input : SortedInput host call rows output normals records sorted) :
    ∃ values : List (List Value), values.Perm normals ∧
      values.mapM (partitionIDForRow host.loadLocation host.renderers call.schema) =
        some (output.run.records.map SortRecord.partition) := by
  obtain ⟨handed, rowsOf⟩ :=
    exists_rowsOf input.finished.records (fun index => by
      rw [input.finished.hashes, Nat.zero_add])
  exact ⟨_, input.values_perm rowsOf.values, rowsOf.partitions⟩

/-- Calls on one target agree when their normalized rows do. -/
theorem SortedInput.agree
    {otherRows : List (List Value)}
    {otherOutput : CanonicalOutput}
    {others : List (List Value)}
    {sorted otherRecords otherSorted : List SortRecord}
    (input : SortedInput host call rows output normals records sorted)
    (otherInput : SortedInput other otherCall otherRows otherOutput others otherRecords otherSorted)
    (same : SameTarget host other call otherCall)
    (permuted : normals.Perm others) :
    output.root = otherOutput.root ∧ output.partitions = otherOutput.partitions := by
  have otherRecorded := otherInput.recorded
  rw [same.schema] at otherRecorded
  have recordsPerm : sorted.Perm otherSorted := input.permuted.trans
      ((mapM_perm permuted input.recorded otherRecorded).trans otherInput.permuted.symm)
  have keys : sorted.map SortRecord.key = otherSorted.map SortRecord.key := by
    have orders := input.ordered.keys_eq otherInput.ordered recordsPerm
    apply map_injective_iff.mpr textKey_injective
    rw [map_map, map_map]
    exact orders
  have hashes : otherOutput.hashes = output.hashes := by
    rw [input.finished.hashes, otherInput.finished.hashes, same.primitives]
    have images := congrArg (map (digestBytes host.primitives.sum256)) keys
    rw [map_map, map_map] at images
    exact images.symm
  have count : otherRows.length = rows.length := by
    rw [← input.finished.count, ← otherInput.finished.count]
    exact recordsPerm.length_eq.symm
  refine ⟨?_, ?_⟩
  · have root := input.finished.root
    have otherRoot := otherInput.finished.root
    simp only [outputCommitmentHash, outputCommitmentJson, same.primitives, same.networkID,
      same.schema, hashes, count] at root otherRoot
    exact Option.some.inj (root.symm.trans otherRoot)
  · obtain ⟨values, valuesPerm, placed⟩ := input.partitions
    obtain ⟨otherValues, otherPerm, otherPlaced⟩ := otherInput.partitions
    rw [same.loadLocation, same.renderers, same.schema] at otherPlaced
    rw [input.finished.partitions, otherInput.finished.partitions]
    have same := mapM_perm (valuesPerm.trans (permuted.trans otherPerm.symm)) placed otherPlaced
    exact sortBy_eq_of_perm ((nodup_dedup _).map textKey_injective) same.dedup

/--
An accepted call hands out the normalized rows in order of their keys with
their row ids, and its root and partitions are those of any accepted call on
the same target whose normalized rows are the same up to order: with another
memory limit, other spilled runs and another order of equal rows.
-/
theorem canonicalize_sorts
    (host : Host)
    (call : Call)
    (input : RowStream)
    (output : CanonicalOutput)
    (accepted : canonicalize host call input = some output) :
    (∃ rows, OutputOf host call input.rows output rows) ∧
    ∀ other otherCall otherInput otherOutput normals others, SameTarget host other call otherCall →
      canonicalize other otherCall otherInput = some otherOutput →
      input.rows.mapM (normalizeRow host.loadLocation call.schema) = some normals →
      otherInput.rows.mapM (normalizeRow other.loadLocation otherCall.schema) = some others →
      normals.Perm others →
      output.root = otherOutput.root ∧ output.partitions = otherOutput.partitions := by
  obtain ⟨ownNormals, records, sorted, own⟩ := canonicalize_eq_some accepted
  refine ⟨own.outputOf, ?_⟩
  intro other otherCall otherInput otherOutput normals others same
    otherAccepted normalized otherNormalized permuted
  obtain ⟨theirNormals, otherRecords, otherSorted, theirs⟩ := canonicalize_eq_some otherAccepted
  obtain rfl := Option.some.inj (own.normalized.symm.trans normalized)
  obtain rfl := Option.some.inj (theirs.normalized.symm.trans otherNormalized)
  exact own.agree theirs same permuted

/-- A host whose sort keeps equal keys in place and where nothing fails. -/
def flagHost : Host :=
  { primitives :=
      { sum256 := fun _ => []
        elementHash := fun _ => 0
        encodeValue := fun _ _ => none
        decodeTableSchema := fun _ => none
        validateTableSchemaColumns := fun _ => true }
    blake3 := fun _ => []
    loadLocation := fun _ => false
    renderers :=
      { float32 := fun _ => []
        float64 := fun _ => []
        time := fun _ _ => [] }
    slices :=
      { sort := sortBy SortRecord.order
        perm := sortBy_perm SortRecord.order
        ordered := sortBy_pairwise SortRecord.order }
    fails := fun _ => false }

/-- A table of flags, partitioned by the flag. -/
def flagCall (maxSortMemoryBytes : UInt64) : Call :=
  { networkID := [110]
    statementID := [115]
    schema :=
      { tableID := [116]
        partitionBy := [118]
        columns := [{ name := [118], type := AsciiText.ascii "Bool" }] }
    limits :=
      { maxSQLBytes := 1
        maxDescriptorBytes := 1
        maxOutputRows := 10
        maxOutputBytes := 100000
        maxRestoreBytes := 1
        maxSortMemoryBytes := maxSortMemoryBytes
        maxSpillBytes := 100000
        maxExecutionMS := 1 }
    tempDir := [] }

def flagInput (flags : List Bool) : RowStream :=
  { rows := flags.map fun flag => [.bool flag], ending := .endOfStream }

/-- Three flags in two orders, with room for one row and for all of them. -/
theorem canonicalize_sorts_flags : ∃ output otherOutput,
    canonicalize flagHost (flagCall 74000)
        (flagInput [true, false, true]) = some output ∧
    canonicalize flagHost (flagCall 1000000)
        (flagInput [false, true, true]) = some otherOutput ∧
    (∃ rows,
      OutputOf flagHost (flagCall 74000)
        (flagInput [true, false, true]).rows output rows) ∧
    output.root = otherOutput.root ∧ output.partitions = otherOutput.partitions := by
  obtain ⟨output, accepted⟩ :
      ∃ output,
        canonicalize flagHost (flagCall 74000) (flagInput [true, false, true]) = some output :=
    Option.isSome_iff_exists.mp (by decide +kernel)
  obtain ⟨otherOutput, otherAccepted⟩ :
      ∃ output,
        canonicalize flagHost (flagCall 1000000) (flagInput [false, true, true]) = some output :=
    Option.isSome_iff_exists.mp (by decide +kernel)
  obtain ⟨rows, agree⟩ :=
    canonicalize_sorts flagHost (flagCall 74000) (flagInput [true, false, true]) output accepted
  obtain ⟨root, partitions⟩ :=
    agree flagHost (flagCall 1000000) (flagInput [false, true, true])
      otherOutput (flagInput [true, false, true]).rows
      (flagInput [false, true, true]).rows
      ⟨rfl, rfl, rfl, rfl, rfl⟩ otherAccepted (by decide +kernel)
      (by decide +kernel) (by decide)
  exact ⟨output, otherOutput, accepted, otherAccepted, rows, root, partitions⟩

end Results

end HouseGate.SnapshotOutput
