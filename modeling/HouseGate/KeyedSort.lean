import Mathlib.Data.List.Sort
import Mathlib.Data.List.Lex
import Mathlib.Data.Prod.Lex
import HouseGate.DecimalText

namespace HouseGate.KeyedSort

open DecimalText List

/-!
# Sorting by a key

A list of records is put in order by a key of its records.  Records with
distinct keys come out in one order only, whatever order they were listed in,
so that a commitment over the sorted list does not depend on the listing.
Byte strings are compared byte by byte, the shorter one first when it is a
beginning of the longer one.
-/

section Records

variable {α κ : Type} [LinearOrder κ]

/-- The records in the order of their keys. -/
def sortBy (key : α → κ) (items : List α) : List α :=
  items.insertionSort (fun left right => key left ≤ key right)

theorem sortBy_perm (key : α → κ) (items : List α) : (sortBy key items).Perm items :=
  perm_insertionSort _ items

variable {key : α → κ} {items : List α}

@[simp] theorem mem_sortBy {item : α} : item ∈ sortBy key items ↔ item ∈ items :=
  (sortBy_perm key items).mem_iff

theorem sortBy_pairwise (key : α → κ) (items : List α) :
    (sortBy key items).Pairwise (fun left right => key left ≤ key right) :=
  pairwise_insertionSort _ items

/-- A list in order is left as it is. -/
theorem sortBy_eq_self (ordered : items.Pairwise (fun left right => key left ≤ key right)) :
    sortBy key items = items :=
  ordered.insertionSort_eq

@[simp] theorem sortBy_sortBy (key : α → κ) (items : List α) :
    sortBy key (sortBy key items) = sortBy key items :=
  sortBy_eq_self (sortBy_pairwise key items)

theorem nodup_map_sortBy {β : Type} {label : α → β} :
    ((sortBy key items).map label).Nodup ↔ (items.map label).Nodup :=
  ((sortBy_perm key items).map label).nodup_iff

omit [LinearOrder κ] in
/-- Records with distinct labels have distinct keys, if the key tells the label. -/
theorem nodup_map_key
    {β : Type}
    {label : α → β}
    (distinct : (items.map label).Nodup)
    (tells : ∀ left right, key left = key right → label left = label right) :
    (items.map key).Nodup := by
  rw [Nodup, pairwise_map] at distinct ⊢
  exact distinct.imp fun different same => different (tells _ _ same)

/-- Records with distinct keys are sorted into one list only. -/
theorem sortBy_eq_of_perm
    {left right : List α}
    (distinct : (left.map key).Nodup)
    (same : left.Perm right) :
    sortBy key left = sortBy key right := by
  have permuted : (sortBy key left).Perm (sortBy key right) :=
    (sortBy_perm key left).trans (same.trans (sortBy_perm key right).symm)
  refine Perm.eq_of_pairwise ?_ (sortBy_pairwise key left) (sortBy_pairwise key right) permuted
  intro first second firstMember secondMember below above
  have firstListed : first ∈ left := mem_sortBy.mp firstMember
  have secondListed : second ∈ left := same.mem_iff.mpr (mem_sortBy.mp secondMember)
  exact inj_on_of_nodup_map distinct firstListed secondListed (le_antisymm below above)

/-- The order of a sort by a coarser key is kept by a map of the records. -/
theorem sortBy_map
    {β : Type}
    (key : α → κ)
    (image : α → β)
    (imageKey : β → κ)
    (keeps : ∀ item, imageKey (image item) = key item)
    (items : List α) :
    sortBy imageKey (items.map image) = (sortBy key items).map image := by
  symm
  apply map_insertionSort
  intro left _ right _
  rw [keeps, keeps]

end Records

section Texts

/-- The bytes of a text as numbers, in the order in which texts compare. -/
def textKey (text : Bytes) : List Nat := text.map UInt8.toNat

theorem textKey_injective : Function.Injective textKey :=
  map_injective_iff.mpr (fun _ _ same => UInt8.toNat_inj.mp same)

@[simp] theorem textKey_inj {left right : Bytes} : textKey left = textKey right ↔ left = right :=
  textKey_injective.eq_iff

/-- Texts in ascending order. -/
def sortTexts (texts : List Bytes) : List Bytes := sortBy textKey texts

end Texts

end HouseGate.KeyedSort
