import Mathlib.Logic.Function.Basic

namespace HouseGate.KeyedSlots

open List Function

/-!
# Owners that share one store by key

Owners enter with a key, act on the slot of that key and leave.  Keys are not
required to be different, so owners with one key act on one slot.  The private
system gives every owner a slot of its own.  While no owner enters with the
key of another that has not left, both systems give the same answers.
-/

/--
One slot and what may be done to it.  `permit` says which actions an owner may
take at a point of its life and what its life is afterwards.
-/
structure Machine (σ life α ρ : Type) where
  empty : σ
  born : life
  left : life → Bool
  permit : life → α → Option life
  act : Nat → α → σ → ρ × σ

/-- The key that an owner drew, and its life. -/
structure Owner (κ life : Type) where
  key : κ
  life : life

/-- An action of an owner and its reply. -/
structure Event (α ρ : Type) where
  owner : Nat
  action : α
  reply : ρ

/-- The history is newest first. -/
structure World (σ κ life α ρ : Type) where
  owners : List (Owner κ life)
  store : κ → σ
  history : List (Event α ρ)

/-- The same owners, each with a slot of its own. -/
structure PrivateWorld (σ κ life α ρ : Type) where
  owners : List (Owner κ life)
  slots : Nat → σ
  history : List (Event α ρ)

variable {σ κ life α ρ : Type}
  (machine : Machine σ life α ρ)

def World.enter (key : κ) (world : World σ κ life α ρ) : World σ κ life α ρ :=
  { world with owners := world.owners ++ [⟨key, machine.born⟩] }

/-- An action that is not permitted does nothing. -/
def World.act [DecidableEq κ] (machine : Machine σ life α ρ) (number : Nat) (action : α)
    (world : World σ κ life α ρ) : World σ κ life α ρ :=
  match world.owners[number]? with
  | none => world
  | some owner =>
    match machine.permit owner.life action with
    | none => world
    | some life =>
      let outcome := machine.act number action (world.store owner.key)
      { owners := world.owners.set number { owner with life := life }
        store := update world.store owner.key outcome.2
        history := ⟨number, action, outcome.1⟩ :: world.history }

def PrivateWorld.enter (key : κ) (world : PrivateWorld σ κ life α ρ) : PrivateWorld σ κ life α ρ :=
  { world with owners := world.owners ++ [⟨key, machine.born⟩] }

def PrivateWorld.act (number : Nat) (action : α) (world : PrivateWorld σ κ life α ρ) :
    PrivateWorld σ κ life α ρ :=
  match world.owners[number]? with
  | none => world
  | some owner =>
    match machine.permit owner.life action with
    | none => world
    | some life =>
      let outcome := machine.act number action (world.slots number)
      { owners := world.owners.set number { owner with life := life }
        slots := update world.slots number outcome.2
        history := ⟨number, action, outcome.1⟩ :: world.history }

/-- No owner with this key is still there. -/
def KeyFree (key : κ) (owners : List (Owner κ life)) : Prop :=
  ∀ owner ∈ owners, owner.key = key → machine.left owner.life = true

/-- What a machine owes: an owner that leaves has emptied its slot. -/
structure Tidy (coherent : life → σ → Prop) : Prop where
  born : coherent machine.born machine.empty
  act : ∀ life later number action slot, coherent life slot →
      machine.permit life action = some later → coherent later (machine.act number action slot).2
  left : ∀ life slot, coherent life slot → machine.left life = true → slot = machine.empty
  silent : ∀ life action, machine.left life = true → machine.permit life action = none

theorem Tidy.present
    {machine : Machine σ life α ρ}
    {coherent : life → σ → Prop}
    {here later : life}
    {action : α}
    (tidy : Tidy machine coherent)
    (permitted : machine.permit here action = some later) :
    machine.left here = false := by
  cases gone : machine.left here with
  | false => rfl
  | true =>
    rw [tidy.silent here action gone] at permitted
    cases permitted

/-- The shared store shows to every owner its private slot. -/
structure Agree (coherent : life → σ → Prop) (shared : World σ κ life α ρ)
    (separate : PrivateWorld σ κ life α ρ) : Prop where
  owners : shared.owners = separate.owners
  history : shared.history = separate.history
  kept : ∀ number owner,
      shared.owners[number]? = some owner → coherent owner.life (separate.slots number)
  fresh : ∀ number, shared.owners.length ≤ number → separate.slots number = machine.empty
  same : ∀ number owner, shared.owners[number]? = some owner →
      machine.left owner.life = false → shared.store owner.key = separate.slots number
  free : ∀ key, KeyFree machine key shared.owners → shared.store key = machine.empty
  distinct : ∀ (first second : Nat) (owner other : Owner κ life),
      shared.owners[first]? = some owner →
      shared.owners[second]? = some other →
      machine.left owner.life = false →
      machine.left other.life = false → owner.key = other.key → first = second

section Agreement

variable {machine} {coherent : life → σ → Prop} {shared : World σ κ life α ρ}
  {separate : PrivateWorld σ κ life α ρ}

theorem agree_enter
    {key : κ}
    (tidy : Tidy machine coherent)
    (agree : Agree machine coherent shared separate)
    (keyFree : KeyFree machine key shared.owners) :
    Agree machine coherent (shared.enter machine key) (separate.enter machine key) := by
  have emptyStore : shared.store key = machine.empty := agree.free key keyFree
  have emptySlot : separate.slots shared.owners.length = machine.empty :=
    agree.fresh _ (Nat.le_refl _)
  -- An owner of the longer list is an earlier one or the one that entered.
  have found : ∀ {number : Nat} {owner : Owner κ life},
      (shared.enter machine key).owners[number]? = some owner →
      shared.owners[number]? = some owner ∨
        number = shared.owners.length ∧ owner = ⟨key, machine.born⟩ := by
    intro number owner listed
    rw [World.enter, getElem?_append] at listed
    split at listed
    · exact .inl listed
    rw [getElem?_singleton] at listed
    split at listed
    · cases listed
      exact .inr ⟨by omega, rfl⟩
    · cases listed
  constructor
  · simp [World.enter, PrivateWorld.enter, agree.owners]
  · exact agree.history
  · intro number owner listed
    rcases found listed with before | ⟨rfl, rfl⟩
    · exact agree.kept number owner before
    · rw [PrivateWorld.enter, emptySlot]
      exact tidy.born
  · intro number beyond
    apply agree.fresh number
    simp only [World.enter, length_append, length_singleton] at beyond
    omega
  · intro number owner listed present
    rcases found listed with before | ⟨rfl, rfl⟩
    · exact agree.same number owner before present
    · exact emptyStore.trans emptySlot.symm
  · intro other free
    apply agree.free other
    intro owner member
    exact free owner (mem_append_left _ member)
  · intro first second owner other firstListed secondListed firstPresent secondPresent sameKey
    rcases found firstListed with firstBefore | ⟨rfl, rfl⟩
    · rcases found secondListed with secondBefore | ⟨rfl, rfl⟩
      · exact agree.distinct first second owner other firstBefore
          secondBefore firstPresent secondPresent sameKey
      · have gone := keyFree owner (mem_of_getElem? firstBefore) sameKey
        rw [firstPresent] at gone
        cases gone
    · rcases found secondListed with secondBefore | ⟨rfl, -⟩
      · have gone := keyFree other (mem_of_getElem? secondBefore) sameKey.symm
        rw [secondPresent] at gone
        cases gone
      · rfl

/-- The owner of a list after one of its members was replaced. -/
theorem getElem?_set_cases
    {owners : List (Owner κ life)}
    {number position : Nat}
    {replacement owner : Owner κ life}
    (listed : (owners.set number replacement)[position]? = some owner) :
    position = number ∧ owner = replacement ∨
      position ≠ number ∧ owners[position]? = some owner := by
  rw [getElem?_set] at listed
  split at listed
  · rename_i same
    split at listed
    · cases listed
      exact .inl ⟨same.symm, rfl⟩
    · cases listed
  · rename_i different
    exact .inr ⟨Ne.symm different, listed⟩

theorem agree_permitted
    [DecidableEq κ]
    {number : Nat}
    {action : α}
    {owner : Owner κ life}
    {later : life}
    (tidy : Tidy machine coherent)
    (agree : Agree machine coherent shared separate)
    (listed : shared.owners[number]? = some owner)
    (permitted : machine.permit owner.life action = some later) :
    Agree machine coherent
      { owners := shared.owners.set number { owner with life := later }
        store :=
          update shared.store owner.key (machine.act number action (shared.store owner.key)).2
        history := ⟨number, action, (machine.act number action (shared.store owner.key)).1⟩ ::
            shared.history }
      { owners := shared.owners.set number { owner with life := later }
        slots := update separate.slots number (machine.act number action (separate.slots number)).2
        history := ⟨number, action, (machine.act number action (separate.slots number)).1⟩ ::
            separate.history } := by
  have present : machine.left owner.life = false := tidy.present permitted
  have inside : number < shared.owners.length := (List.getElem?_eq_some_iff.mp listed).1
  have sameSlot : shared.store owner.key = separate.slots number :=
    agree.same number owner listed present
  have coherentAfter : coherent later (machine.act number action (separate.slots number)).2 :=
    tidy.act owner.life later number action _ (agree.kept number owner listed) permitted
  -- The key of the acting owner is that of no other owner still there.
  have alone : ∀ {position : Nat} {other : Owner κ life}, position ≠ number →
      shared.owners[position]? = some other →
      machine.left other.life = false → other.key ≠ owner.key := by
    intro position other different otherListed otherPresent sameKey
    exact different
      (agree.distinct position number other owner otherListed listed otherPresent present sameKey)
  rw [sameSlot]
  constructor
  · rfl
  · rw [agree.history]
  · intro position other found
    rcases getElem?_set_cases found with ⟨rfl, rfl⟩ | ⟨different, before⟩
    · simpa using coherentAfter
    · simpa [different] using agree.kept position other before
  · intro position beyond
    simp only [length_set] at beyond
    have different : position ≠ number := by
      omega
    simpa [different] using agree.fresh position beyond
  · intro position other found otherPresent
    rcases getElem?_set_cases found with ⟨rfl, rfl⟩ | ⟨different, before⟩
    · simp
    · have differentKey := alone different before otherPresent
      simpa [different, differentKey] using agree.same position other before otherPresent
  · intro key free
    by_cases sameKey : key = owner.key
    · -- The acting owner is gone as well, so it has emptied its slot.
      subst sameKey
      have gone : machine.left later = true := free _ (mem_set inside _) rfl
      simpa using tidy.left later _ coherentAfter gone
    · have freeBefore : KeyFree machine key shared.owners := by
        intro other member otherKey
        obtain ⟨position, otherListed⟩ := getElem?_of_mem member
        have different : position ≠ number := by
          rintro rfl
          rw [listed] at otherListed
          cases otherListed
          exact sameKey otherKey.symm
        apply free other _ otherKey
        apply mem_of_getElem?
        rw [getElem?_set_ne (Ne.symm different)]
        exact otherListed
      simpa [sameKey] using agree.free key freeBefore
  · intro first second one other firstFound secondFound firstPresent secondPresent sameKey
    rcases getElem?_set_cases firstFound with
      ⟨rfl, rfl⟩ | ⟨firstDifferent, firstBefore⟩
    · rcases getElem?_set_cases secondFound with
        ⟨rfl, -⟩ | ⟨secondDifferent, secondBefore⟩
      · rfl
      · exact (alone secondDifferent secondBefore secondPresent sameKey.symm).elim
    · rcases getElem?_set_cases secondFound with
        ⟨rfl, rfl⟩ | ⟨-, secondBefore⟩
      · exact (alone firstDifferent firstBefore firstPresent sameKey).elim
      · exact agree.distinct first second one other firstBefore
          secondBefore firstPresent secondPresent sameKey

theorem agree_act
    [DecidableEq κ]
    (number : Nat)
    (action : α)
    (tidy : Tidy machine coherent)
    (agree : Agree machine coherent shared separate) :
    Agree machine coherent (shared.act machine number action)
      (separate.act machine number action) := by
  unfold World.act PrivateWorld.act
  rw [← agree.owners]
  cases listed : shared.owners[number]? with
  | none => exact agree
  | some owner =>
    cases permitted : machine.permit owner.life action with
    | none =>
      simp only [permitted]
      exact agree
    | some later =>
      simp only [permitted]
      exact agree_permitted tidy agree listed permitted

end Agreement

end HouseGate.KeyedSlots
