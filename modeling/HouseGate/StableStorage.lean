namespace HouseGate.StableStorage

/-!
# Atomic replacement of a file

A durable write goes to a temporary file that is synced, renamed over the
target and followed by a sync of the directory.  A caller therefore sees one
of three outcomes: the replacement succeeded, it failed before the rename and
the target is unchanged, or it failed after the rename, in which case the call
reports an error although readers already find the new contents.
-/

/-- How an atomic write ended. -/
inductive WriteOutcome where
  | stored
  | failedBeforeRename
  | failedAfterRename

namespace WriteOutcome

/-- Whether the call returned no error. -/
def succeeded : WriteOutcome → Bool
  | .stored => true
  | _ => false

/-- Whether readers find the new contents. -/
def replaced : WriteOutcome → Bool
  | .failedBeforeRename => false
  | _ => true

/-- The contents of the target after the call. -/
def apply (outcome : WriteOutcome) (old new : α) : α :=
  if outcome.replaced then new else old

@[simp] theorem succeeded_failedBeforeRename : failedBeforeRename.succeeded = false := rfl

@[simp] theorem apply_stored (old new : α) : stored.apply old new = new := rfl

@[simp] theorem apply_failedBeforeRename (old new : α) :
    failedBeforeRename.apply old new = old := rfl

@[simp] theorem apply_failedAfterRename (old new : α) : failedAfterRename.apply old new = new := rfl

end WriteOutcome

/--
What an operation over one memory and one stable copy leaves behind, together
with its answer.
-/
structure Outcome (ε μ δ α : Type) where
  answer : Except ε α
  memory : μ
  disk : δ

variable {ε μ δ α : Type}

/-- Answer a finished operation with a value. -/
def Outcome.returning (outcome : Outcome ε μ δ Unit) (value : α) : Outcome ε μ δ α where
  answer :=
    match outcome.answer with
    | .ok () => .ok value
    | .error failure => .error failure
  memory := outcome.memory
  disk := outcome.disk

/-- An error that touches neither copy. -/
def refuse (failure : ε) (memory : μ) (disk : δ) : Outcome ε μ δ α where
  answer := .error failure
  memory := memory
  disk := disk

@[simp] theorem answer_refuse
    {failure : ε}
    {memory : μ}
    {disk : δ} :
    (refuse failure memory disk : Outcome ε μ δ α).answer = .error failure := rfl

/-- Replace the disk; memory follows only a successful write. -/
def replace {ε μ δ : Type} (write : WriteOutcome) (failure : ε) (newMemory memory : μ)
    (newDisk disk : δ) : Outcome ε μ δ Unit where
  answer :=
    if write.succeeded then .ok () else .error failure
  memory :=
    if write.succeeded then newMemory else memory
  disk := write.apply disk newDisk

end HouseGate.StableStorage
