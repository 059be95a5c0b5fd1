import HouseGate.AscendingList
import HouseGate.JsonDocument
import HouseGate.StableStorage

namespace HouseGate.SeqCounter

open DecimalText JsonDocument AscendingList StableStorage

/-!
# The durable per-account client sequence counter

This module embeds `SeqCounter` of the agent's statement plugin.  A counter
keeps a high watermark and a free list in memory and in two separately written
files, `<account>.seq` and `<account>.seq.free`.  Every operation takes the
outcome of its file replacement as an argument, so that half-failed writes are
ordinary inputs.  The state directory and the account are fixed; the exclusive
lock on `<account>.seq.lock` lives in the module of the runs.
-/

/-- Cap of the durable free list. -/
def maxFreeSeqs : Nat := 64

def freeListVersion : Nat := 1

/-- Why no number was issued. -/
inductive SeqError where
  | clientSeqExhausted
  | clientSeqReused (supplied watermark : Nat)
  | seqClosed
  | seqLocked
  | stateDir
  | readFile
  | corruptSeqFile
  | freeListDecode
  | freeListUnsupportedVersion (version : Nat)
  | freeListTooLong (entries : Nat)
  | freeListNotAscending (seq index : Nat)
  | persistSeq (next : Nat)
  | persistFree
  | releaseNeverIssued (seq last : Nat)
  | alreadyFree (seq : Nat)

/-- The two files of one account; `none` is a file that does not exist. -/
structure Files where
  seq : Option Bytes
  free : Option Json

/-- A counter in memory. -/
structure Counter where
  last : Nat
  free : List Nat
  closed : Bool

variable (last : Nat)

/-- Contents of `<account>.seq` for a watermark. -/
def seqFileText : Bytes := formatUint last ++ [10]

/-- Contents of `<account>.seq.free`; an empty list is written as `[]`. -/
def freeListDocument (free : List Nat) : Json :=
  .object [("version", encodeUint freeListVersion), ("free", encodeSlice encodeUint (some free))]

/-- The first half of `load`: the watermark. -/
def loadLast : Option Bytes → Except SeqError Nat
  | none => .ok 0
  | some text =>
    match parseUint (trimSpace text) with
    | none => .error .corruptSeqFile
    | some last => .ok last

/-- The loop of `load` over the decoded entries. -/
def checkFree (free : List Nat) : Except SeqError Unit :=
  let inRange := fun seq => !(seq == 0) && !(last < seq)
  match firstMisplaced inRange 0 none free with
  | some (seq, index) => .error (.freeListNotAscending seq index)
  | none => .ok ()

/-- The second half of `load`: the free list under a loaded watermark. -/
def loadFree : Option Json → Except SeqError (List Nat)
  | none => .ok []
  | some document =>
    match document.isObject, decodeUint uint64Size (document.field "version"),
        decodeSlice (decodeUint uint64Size) (document.field "free") with
    | true, some version, some entries =>
      let free := entries.getD []
      if version ≠ freeListVersion then
        .error (.freeListUnsupportedVersion version)
      else if maxFreeSeqs < free.length then
        .error (.freeListTooLong free.length)
      else
        match checkFree last free with
        | .error failure => .error failure
        | .ok () => .ok free
    | _, _, _ => .error .freeListDecode

def load (files : Files) : Except SeqError Counter :=
  match loadLast files.seq with
  | .error failure => .error failure
  | .ok last =>
    match loadFree last files.free with
    | .error failure => .error failure
    | .ok free => .ok { last := last, free := free, closed := false }

abbrev CounterOutcome := Outcome SeqError Counter Files

variable (write : WriteOutcome)

/-- Write the watermark; memory follows only a successful write. -/
def persistLocked (next : Nat) (counter : Counter) (files : Files) : CounterOutcome Unit :=
  replace write (.persistSeq next) { counter with last := next } counter
    { files with seq := some (seqFileText next) } files

/-- Write the free list; memory follows only a successful write. -/
def persistFreeLocked (free : List Nat) (counter : Counter) (files : Files) : CounterOutcome Unit :=
  replace write .persistFree { counter with free := free } counter
    { files with free := some (freeListDocument free) } files

/-- `Reserve`: the smallest free seq, removed durably first, else `last + 1`. -/
def reserve (counter : Counter) (files : Files) : CounterOutcome Nat :=
  if counter.closed then
    refuse .seqClosed counter files
  else
    match counter.free with
    | seq :: rest => (persistFreeLocked write rest counter files).returning seq
    | [] =>
      if counter.last = maxUint64 then
        refuse .clientSeqExhausted counter files
      else
        let next := (counter.last + 1) % uint64Size
        (persistLocked write next counter files).returning next

/-- `ReserveSupplied`: accept a fresh seq above the watermark only. -/
def reserveSupplied (seq : Nat) (counter : Counter) (files : Files) : CounterOutcome Unit :=
  if counter.closed then
    refuse .seqClosed counter files
  else if seq = maxUint64 then
    refuse .clientSeqExhausted counter files
  else if seq ≤ counter.last then
    refuse (.clientSeqReused seq counter.last) counter files
  else
    persistLocked write seq counter files

/-- The free list `Release` writes: the seq at its place, capped. -/
def freeAfterRelease (free : List Nat) (seq : Nat) : List Nat :=
  let next := insertSorted free seq
  if maxFreeSeqs < next.length then next.take maxFreeSeqs else next

/-- `Release`: its answer tells whether the cap dropped the largest entry. -/
def release (seq : Nat) (counter : Counter) (files : Files) : CounterOutcome Bool :=
  if counter.closed then
    refuse .seqClosed counter files
  else if seq = 0 ∨ counter.last < seq then
    refuse (.releaseNeverIssued seq counter.last) counter files
  else if counter.free[searchIndex counter.free seq]? = some seq then
    refuse (.alreadyFree seq) counter files
  else
    (persistFreeLocked write (freeAfterRelease counter.free seq)
      counter files).returning (maxFreeSeqs < (insertSorted counter.free seq).length)

/-! ## Free lists that `load` accepts -/

/-- Ascending issued sequences below a watermark, at most the cap. -/
structure FreeListValid (free : List Nat) : Prop where
  ascending : Ascending free
  issued : ∀ seq ∈ free, 0 < seq ∧ seq ≤ last
  capped : free.length ≤ maxFreeSeqs

variable {free : List Nat} {last}
  {seq : Nat}

namespace FreeListValid

theorem nil (last : Nat) : FreeListValid last [] where
  ascending := List.Pairwise.nil
  issued := by
    intro seq member
    cases member
  capped := by
    simp [maxFreeSeqs]

/-- Raising the watermark keeps a free list valid. -/
theorem mono
    {lower upper : Nat}
    (valid : FreeListValid lower free)
    (raised : lower ≤ upper) :
    FreeListValid upper free where
  ascending := valid.ascending
  issued := by
    intro seq member
    have bounds := valid.issued seq member
    exact ⟨bounds.1, le_trans bounds.2 raised⟩
  capped := valid.capped

theorem tail {rest : List Nat} (valid : FreeListValid last (seq :: rest)) :
    FreeListValid last rest where
  ascending := valid.ascending.tail
  issued := by
    intro later member
    exact valid.issued later (List.mem_cons_of_mem seq member)
  capped := by
    have capped := valid.capped
    simp only [List.length_cons] at capped
    omega

end FreeListValid

theorem mem_freeAfterRelease {other : Nat} (member : other ∈ freeAfterRelease free seq) :
    other = seq ∨ other ∈ free := by
  apply mem_insertSorted.mp
  simp only [freeAfterRelease] at member
  split at member
  · exact List.mem_of_mem_take member
  · exact member

variable (valid : FreeListValid last free)

include valid

/-- A released seq that was not free leaves a valid list, capped or not. -/
theorem FreeListValid.release
    (positive : 0 < seq)
    (issued : seq ≤ last)
    (notFree : seq ∉ free) :
    FreeListValid last (freeAfterRelease free seq) where
  ascending := by
    have inserted := ascending_insertSorted valid.ascending notFree
    simp only [freeAfterRelease]
    split
    · exact inserted.take maxFreeSeqs
    · exact inserted
  issued := by
    intro other member
    rcases mem_freeAfterRelease member with same | inFree
    · subst same
      exact ⟨positive, issued⟩
    · exact valid.issued other inFree
  capped := by
    simp only [freeAfterRelease]
    split
    · simp
    · rename_i small
      exact Nat.le_of_not_lt small

/-- The loop of `load` accepts every valid list. -/
theorem FreeListValid.checked : checkFree last free = .ok () := by
  have placed : firstMisplaced (fun seq => !(seq == 0) && !(last < seq)) 0 none free = none := by
    apply firstMisplaced_of_ascending valid.ascending
    · intro seq member
      have bounds := valid.issued seq member
      simp [Nat.ne_of_gt bounds.1, bounds.2]
    · intro before impossible
      cases impossible
  simp only [checkFree, placed]

/-- A valid list is read back from the file written for it. -/
theorem loadFree_document (fits : last < uint64Size) :
    loadFree last (some (freeListDocument free)) = .ok free := by
  have roundTrip :
      ∀ list ∈ some free, ∀ seq ∈ list, decodeUint uint64Size (encodeUint seq) = some (id seq) := by
    intro list same seq member
    cases same
    have bounds := valid.issued seq member
    exact decodeUint_encodeUint (by omega)
  have entries : decodeSlice (decodeUint uint64Size) (encodeSlice encodeUint (some free)) =
      some (some free) := by
    simpa using decodeSlice_encodeSlice roundTrip
  have version : decodeUint uint64Size (encodeUint freeListVersion) = some freeListVersion :=
    decodeUint_encodeUint (by decide)
  have capped : ¬ maxFreeSeqs < free.length := Nat.not_lt.mpr valid.capped
  simp [loadFree, freeListDocument, Json.field, Json.isObject,
    entries, version, valid.checked, capped]

omit valid

theorem loadLast_text (fits : last < uint64Size) :
    loadLast (some (seqFileText last)) = .ok last := by
  simp [loadLast, seqFileText, fits]

end HouseGate.SeqCounter
