import Mathlib.Data.List.AList

namespace HouseGate.MapFolds

open List AList

/-!
# Maps filled by a loop

A map is often filled by walking a list and inserting one entry for every item.
The lemmas give the lookup of the filled map in terms of the list.
-/

abbrev Table (κ β : Type) := AList (fun _ : κ => β)

section Filled

variable {κ α β : Type} [DecidableEq κ]

/-- Insert one entry for every item of a list. -/
def insertAll (key : α → κ) (value : α → β) (items : List α) (start : Table κ β) : Table κ β :=
  items.foldl (fun table item => table.insert (key item) (value item)) start

variable {sought : κ} {key : α → κ} {value : α → β} {items : List α}

theorem mem_iff_lookup {table : Table κ β} :
    sought ∈ table ↔ ∃ value, table.lookup sought = some value := by
  rw [← lookup_isSome, Option.isSome_iff_exists]

theorem not_mem_iff_lookup {table : Table κ β} : sought ∉ table ↔ table.lookup sought = none := by
  rw [← lookup_eq_none]

variable {start : Table κ β}

omit [DecidableEq κ] in
/-- The keys of a map whose every step adds the key of its item. -/
theorem mem_foldl_iff {step : Table κ β → α → Table κ β}
    (adds : ∀ table item, sought ∈ step table item ↔ sought = key item ∨ sought ∈ table) :
    sought ∈ items.foldl step start ↔ sought ∈ start ∨ ∃ item ∈ items, key item = sought := by
  induction items generalizing start with
  | nil => simp
  | cons item rest inductionHypothesis =>
    rw [foldl_cons, inductionHypothesis, adds]
    constructor
    · rintro ((same | present) | ⟨later, member, same⟩)
      · exact .inr ⟨item, mem_cons_self, same.symm⟩
      · exact .inl present
      · exact .inr ⟨later, mem_cons_of_mem _ member, same⟩
    · rintro (present | ⟨later, member, same⟩)
      · exact .inl (.inr present)
      · rcases mem_cons.mp member with rfl | member
        · exact .inl (.inl same.symm)
        · exact .inr ⟨later, member, same⟩

theorem mem_insertAll : sought ∈ insertAll key value items start ↔
    sought ∈ start ∨ ∃ item ∈ items, key item = sought :=
  mem_foldl_iff fun _ _ => mem_insert _

/-- Remove every listed key. -/
def eraseAll (keys : List κ) (start : Table κ β) : Table κ β :=
  keys.foldl (fun table key => table.erase key) start

variable {keys : List κ}

theorem lookup_eraseAll : (eraseAll keys start).lookup sought =
      if sought ∈ keys then none else start.lookup sought := by
  induction keys generalizing start with
  | nil => rfl
  | cons first rest inductionHypothesis =>
    refine inductionHypothesis.trans ?_
    by_cases same : sought = first
    · subst same
      simp
    · simp [same]

theorem mem_eraseAll : sought ∈ eraseAll keys start ↔ sought ∈ start ∧ sought ∉ keys := by
  rw [← lookup_isSome, lookup_eraseAll, ← lookup_isSome]
  split_ifs with gone <;> simp [gone]

theorem lookup_insertAll_of_notMem (absent : sought ∉ items.map key) :
    (insertAll key value items start).lookup sought = start.lookup sought := by
  induction items generalizing start with
  | nil => rfl
  | cons item rest inductionHypothesis =>
    rw [map_cons, mem_cons, not_or] at absent
    have kept : (insertAll key value rest (start.insert (key item) (value item))).lookup sought =
        (start.insert (key item) (value item)).lookup sought :=
      inductionHypothesis absent.2
    rw [lookup_insert_ne absent.1] at kept
    exact kept

/-- The last item of a key is the one that is found under it. -/
theorem lookup_insertAll_of_last
    {before : α → α → Prop}
    {item : α}
    (ordered : items.Pairwise before)
    (member : item ∈ items)
    (last : ∀ other ∈ items, key other = key item → ¬before item other) :
    (insertAll key value items start).lookup (key item) = some (value item) := by
  induction items generalizing start with
  | nil =>
    cases member
  | cons first rest inductionHypothesis =>
    obtain ⟨front, behind⟩ := pairwise_cons.mp ordered
    rcases mem_cons.mp member with rfl | later
    · have absent : key item ∉ rest.map key := by
        intro listed
        obtain ⟨other, inRest, same⟩ := mem_map.mp listed
        exact last other (mem_cons_of_mem item inRest) same (front other inRest)
      exact (lookup_insertAll_of_notMem absent).trans (lookup_insert _)
    · exact inductionHypothesis behind later fun other inRest =>
        last other (mem_cons_of_mem first inRest)

variable (distinct : (items.map key).Nodup)

include distinct

/-- With distinct keys every item is found under its own key. -/
theorem lookup_insertAll_of_mem {item : α} (member : item ∈ items) :
    (insertAll key value items start).lookup (key item) = some (value item) :=
  lookup_insertAll_of_last (pairwise_map.mp distinct) member fun _ _ same apart =>
    apart same.symm

/-- With distinct keys an entry is that of an item or an earlier one. -/
theorem lookup_insertAll_eq_some_iff {found : β} :
    (insertAll key value items ∅).lookup sought = some found ↔
      ∃ item ∈ items, key item = sought ∧ value item = found := by
  constructor
  · intro lookedUp
    have listed : sought ∈ items.map key := by
      by_contra absent
      rw [lookup_insertAll_of_notMem absent, lookup_empty] at lookedUp
      cases lookedUp
    obtain ⟨item, member, rfl⟩ := mem_map.mp listed
    rw [lookup_insertAll_of_mem distinct member] at lookedUp
    exact ⟨item, member, rfl, Option.some.inj lookedUp⟩
  · rintro ⟨item, member, rfl, rfl⟩
    exact lookup_insertAll_of_mem distinct member

/-- Removing keys from a filled map is leaving their items out. -/
theorem lookup_insertAll_filter {keep : α → Bool}
    (keeps : ∀ item, keep item = true ↔ key item ∉ keys) :
    (insertAll key value (items.filter keep) ∅).lookup sought =
      (eraseAll keys (insertAll key value items ∅)).lookup sought := by
  have kept := distinct.sublist ((filter_sublist (p := keep)).map key)
  apply Option.ext
  intro found
  rw [lookup_insertAll_eq_some_iff kept, lookup_eraseAll]
  split_ifs with gone
  · simp only [mem_filter, keeps, iff_false]
    rintro ⟨item, ⟨_, there⟩, rfl, _⟩
    exact there gone
  rw [lookup_insertAll_eq_some_iff distinct]
  constructor
  · rintro ⟨item, member, same⟩
    exact ⟨item, (mem_filter.mp member).1, same⟩
  · rintro ⟨item, member, rfl, same⟩
    exact ⟨item, mem_filter.mpr ⟨member, (keeps item).mpr gone⟩, rfl, same⟩

omit distinct

/-- Filling depends on the lookups of the map that is filled. -/
theorem lookup_insertAll_congr {other : Table κ β}
    (same : ∀ sought, start.lookup sought = other.lookup sought) :
    (insertAll key value items start).lookup sought =
      (insertAll key value items other).lookup sought := by
  induction items generalizing start other with
  | nil => exact same sought
  | cons first rest inductionHypothesis =>
    apply inductionHypothesis
    intro sought
    by_cases own : sought = key first
    · rw [own, lookup_insert, lookup_insert]
    · rw [lookup_insert_ne own, lookup_insert_ne own, same]

end Filled

/-- Walking keys that all have an entry meets every key once. -/
theorem map_filterMap_eq_self
    {ι υ : Type}
    {items : List ι}
    {look : ι → Option υ}
    {label : υ → ι}
    (found : ∀ item ∈ items, ∃ value, look item = some value ∧ label value = item) :
    (items.filterMap look).map label = items := by
  induction items with
  | nil => rfl
  | cons item rest inductionHypothesis =>
    obtain ⟨value, present, named⟩ := found item mem_cons_self
    rw [filterMap_cons_some present, map_cons, named,
      inductionHypothesis (fun later member => found later (mem_cons_of_mem _ member))]

/-- Only one group of a concatenation passes a filter. -/
theorem filter_flatMap_eq
    {β γ : Type}
    {items : List β}
    {image : β → List γ}
    {keep : γ → Bool}
    {item : β}
    (distinct : items.Nodup)
    (member : item ∈ items)
    (others : ∀ other ∈ items, other ≠ item → ∀ entry ∈ image other, keep entry = false) :
    (items.flatMap image).filter keep = (image item).filter keep := by
  obtain ⟨before, after, rfl⟩ := append_of_mem member
  have apart := nodup_middle.mp distinct
  have dropped : ∀ other ∈ before ++ after, (image other).filter keep = [] := by
    intro other listed
    rw [filter_eq_nil_iff]
    intro entry inImage
    have different : other ≠ item := by
      rintro rfl
      exact (nodup_cons.mp apart).1 listed
    simp [others other (perm_middle.mem_iff.mpr (.tail _ listed)) different entry inImage]
  obtain ⟨noneBefore, noneAfter⟩ := forall_mem_append.mp dropped
  rw [filter_flatMap, flatMap_append, flatMap_cons,
    flatMap_eq_nil_iff.mpr noneBefore, flatMap_eq_nil_iff.mpr noneAfter]
  simp

/-- With distinct labels a filter by a label finds its one item. -/
theorem filter_label_eq_singleton
    {β κ : Type}
    [BEq κ]
    [LawfulBEq κ]
    {label : β → κ}
    {items : List β}
    (distinct : (items.map label).Nodup)
    {item : β}
    (member : item ∈ items) :
    items.filter (fun other => label other == label item) = [item] := by
  induction items with
  | nil => cases member
  | cons first rest inductionHypothesis =>
    rw [map_cons, nodup_cons] at distinct
    rcases mem_cons.mp member with rfl | later
    · have none_later : rest.filter (fun other => label other == label item) = [] := by
        rw [filter_eq_nil_iff]
        intro other listed same
        exact distinct.1 (mem_map.mpr ⟨other, listed, beq_iff_eq.mp same⟩)
      simp [none_later]
    · have different : label first ≠ label item := by
        intro same
        exact distinct.1 (mem_map.mpr ⟨item, later, same.symm⟩)
      simp [different, inductionHypothesis distinct.2 later]

end HouseGate.MapFolds
