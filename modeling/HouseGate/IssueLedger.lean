import Mathlib.Logic.Basic
import Mathlib.Tactic.ByContra

namespace HouseGate.IssueLedger

/-!
# Histories that issue and release keys

A ledger reads some events of a history as the issue of a key and some as its
release; the newest event of a history comes first.  A history issues every key
at most once between two releases of it when no issue finds its key
outstanding.
-/

/-- Which events issue a key and which release one. -/
structure Ledger (ε κ : Type) where
  issued : ε → Option κ
  released : ε → Option κ
  exclusive : ∀ event key, issued event = some key → released event = none

namespace Ledger

variable
  {ε κ : Type} {ledger : Ledger ε κ} {event : ε} {key query : κ} {earlier later between : List ε}

/-- Issued, and not released since. -/
def Outstanding (ledger : Ledger ε κ) : List ε → κ → Prop
  | [], _ => False
  | event :: earlier, query =>
    ledger.issued event = some query ∨
      (ledger.released event ≠ some query ∧ ledger.Outstanding earlier query)

/-- Every issue was of a key that nobody held. -/
def IssuedOnce (ledger : Ledger ε κ) : List ε → Prop
  | [] => True
  | event :: earlier =>
    (∀ key, ledger.issued event = some key →
      ¬ ledger.Outstanding earlier key) ∧ ledger.IssuedOnce earlier

theorem outstanding_cons_issued (issue : ledger.issued event = some key) :
    ledger.Outstanding (event :: earlier) query ↔
      query = key ∨ ledger.Outstanding earlier query := by
  simp [Outstanding, issue, ledger.exclusive event key issue, eq_comm]

theorem outstanding_cons_released (release : ledger.released event = some key) :
    ledger.Outstanding (event :: earlier) query ↔
      query ≠ key ∧ ledger.Outstanding earlier query := by
  have notIssued : ledger.issued event = none := by
    cases issue : ledger.issued event with
    | none => rfl
    | some other =>
      rw [ledger.exclusive event other issue] at release
      cases release
  simp [Outstanding, notIssued, release, eq_comm]

theorem outstanding_cons_other
    (notIssued : ledger.issued event = none) (notReleased : ledger.released event = none) :
    ledger.Outstanding (event :: earlier) query ↔ ledger.Outstanding earlier query := by
  simp [Outstanding, notIssued, notReleased]

theorem IssuedOnce.cons_other
    (notIssued : ledger.issued event = none) (once : ledger.IssuedOnce earlier) :
    ledger.IssuedOnce (event :: earlier) := by
  refine ⟨?_, once⟩
  intro key issue
  rw [notIssued] at issue
  cases issue

theorem IssuedOnce.cons_issued
    (issue : ledger.issued event = some key) (fresh : ¬ ledger.Outstanding earlier key)
    (once : ledger.IssuedOnce earlier) :
    ledger.IssuedOnce (event :: earlier) := by
  refine ⟨?_, once⟩
  intro other otherIssue
  rw [issue] at otherIssue
  cases otherIssue
  exact fresh

theorem IssuedOnce.of_append (once : ledger.IssuedOnce (later ++ earlier)) :
    ledger.IssuedOnce earlier := by
  induction later with
  | nil => exact once
  | cons event rest inductionHypothesis => exact inductionHypothesis once.2

/-- A key stays outstanding until an event releases it. -/
theorem outstanding_of_unreleased (issue : ledger.issued event = some key)
    (unreleased : ∀ middle ∈ between, ledger.released middle ≠ some key) :
    ledger.Outstanding (between ++ event :: earlier) key := by
  induction between with
  | nil => exact Or.inl issue
  | cons middle rest inductionHypothesis =>
    refine Or.inr ⟨unreleased middle (by simp), ?_⟩
    apply inductionHypothesis
    intro other member
    exact unreleased other (by simp [member])

/-- Between two issues of one key lies a release of it. -/
theorem IssuedOnce.released_between
    {second first : ε} (once : ledger.IssuedOnce (later ++ second :: (between ++ first :: earlier)))
    (secondIssue : ledger.issued second = some key) (firstIssue : ledger.issued first = some key) :
    ∃ middle ∈ between, ledger.released middle = some key := by
  by_contra none
  have unreleased : ∀ middle ∈ between, ledger.released middle ≠ some key := by
    intro middle member release
    exact none ⟨middle, member, release⟩
  exact once.of_append.1 key secondIssue (outstanding_of_unreleased firstIssue unreleased)

end Ledger

end HouseGate.IssueLedger
