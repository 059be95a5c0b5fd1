import HouseGate.KeyedSort

namespace HouseGate.RunMerge

open List

/-!
# Merging runs in order

Two runs that are in order of a key are merged into one, an element of the
first run going before an equal one of the second.  Whatever runs a list was
cut into and in whatever order they were merged, the keys of the result are the
keys of the list in ascending order.
-/

variable {α κ : Type} [LinearOrder κ] (key : α → κ)

/-- The elements of the second run that go before one of the first. -/
def insertRun (item : α) (rest : List α → List α) : List α → List α
  | [] => item :: rest []
  | other :: others =>
    if key item ≤ key other then
      item :: rest (other :: others)
    else
      other :: insertRun item rest others

def mergeRuns : List α → List α → List α
  | [], others => others
  | item :: items, others => insertRun key item (mergeRuns items) others

/-- In ascending order of the key. -/
def Ordered (items : List α) : Prop := items.Pairwise (fun left right => key left ≤ key right)

variable {key}

theorem insertRun_eq_merge
    {item : α}
    {items : List α}
    {rest : List α → List α}
    (merged : ∀ others, rest others = items.merge others fun left right => key left ≤ key right)
    (others : List α) :
    insertRun key item rest others =
      (item :: items).merge others fun left right => key left ≤ key right := by
  induction others with
  | nil => simp [insertRun, merged]
  | cons other others inductionHypothesis =>
    rw [cons_merge_cons, ← merged, ← inductionHypothesis]
    simp [insertRun]

theorem mergeRuns_eq_merge (items others : List α) :
    mergeRuns key items others = items.merge others fun left right => key left ≤ key right := by
  induction items generalizing others with
  | nil => simp [mergeRuns]
  | cons item items inductionHypothesis => exact insertRun_eq_merge inductionHypothesis others

theorem mergeRuns_perm (items others : List α) :
    (mergeRuns key items others).Perm (items ++ others) := by
  rw [mergeRuns_eq_merge]
  exact merge_perm_append _

theorem mergeRuns_ordered
    {items others : List α}
    (ordered : Ordered key items)
    (othersOrdered : Ordered key others) :
    Ordered key (mergeRuns key items others) := by
  have total : ∀ first second : α, (key first ≤ key second || key second ≤ key first) = true := by
    intro first second
    simpa using le_total (key first) (key second)
  unfold Ordered at ordered othersOrdered ⊢
  rw [mergeRuns_eq_merge]
  simpa using pairwise_merge (by simpa using fun _ _ _ => le_trans) total items others
    (by simpa using ordered) (by simpa using othersOrdered)

/-- Two orderings of the same elements list the same keys. -/
theorem Ordered.keys_eq
    {left right : List α}
    (leftOrdered : Ordered key left)
    (rightOrdered : Ordered key right)
    (same : left.Perm right) :
    left.map key = right.map key := by
  refine Perm.eq_of_pairwise ?_
    (pairwise_map.mpr leftOrdered) (pairwise_map.mpr rightOrdered) (same.map key)
  intro first second _ _ below above
  exact le_antisymm below above

end HouseGate.RunMerge
