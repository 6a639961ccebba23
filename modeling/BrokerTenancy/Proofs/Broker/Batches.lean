import BrokerTenancy.Broker.Basic
import BrokerTenancy.Cycle.Basic
import BrokerTenancy.Proofs.Sorted.Set

/-!
What the calls of a cycle do to the bindings of a broker. A call that creates adds all bindings but
the refused ones. A call with a filter for each binding removes all bindings but the refused ones,
and tells of each in the order of the filters.
-/

namespace BrokerTenancy

/-- The bindings of a call when the refused ones fail and the others succeed. -/
def Batch.split (refused bindings : List Binding) : Batch where
  succeeded := bindings.filter (· ∉ refused)
  failed := bindings.filter (· ∈ refused)

namespace Broker

theorem mem_create_all (broker : Broker) (bindings : List Binding) (binding : Binding) :
    binding ∈ (broker.createAll bindings).1.bindings ↔
      binding ∈ broker.bindings ∨ binding ∈ bindings ∧ binding ∉ broker.refused := by
  simp only [createAll, SortedSet.mem_insert_all, List.mem_filter, Bool.not_eq_true',
    List.contains_eq_mem, decide_eq_false_iff_not]
  exact or_comm

theorem of_creations (broker : Broker) (bindings : List Binding) :
    Batch.ofCreations (bindings.map broker.creation) = .split broker.refused bindings := by
  induction bindings with
  | nil => rfl
  | cons head rest induction =>
      simp only [Batch.ofCreations, Batch.split, Batch.mk.injEq] at induction ⊢
      by_cases rejected : head ∈ broker.refused
      · have outcome : broker.creation head = (head, .error (refusal head)) := by
          simp [creation, rejected]
        simp only [List.map_cons, List.filterMap_cons, outcome, induction.1, induction.2,
          List.filter_cons, rejected, not_true_eq_false, decide_false, Bool.false_eq_true,
          if_false, decide_true, if_true, and_self]
      · have outcome : broker.creation head = (head, .ok ()) := by
          simp [creation, rejected]
        simp only [List.map_cons, List.filterMap_cons, outcome, induction.1, induction.2,
          List.filter_cons, rejected, not_false_eq_true, decide_true, if_true, decide_false,
          Bool.false_eq_true, if_false, and_self]

theorem matched_exactly (bindings : BindingSet) (wanted : Binding) :
    (bindings.filter (BindingFilter.exactly wanted).isMatch).toList =
      if wanted ∈ bindings then [wanted] else [] := by
  have sameTest : (BindingFilter.exactly wanted).isMatch = (· == wanted) := by
    funext binding
    rw [Bool.eq_iff_iff, BindingFilter.is_match_exactly, beq_iff_eq]
    exact eq_comm
  rw [sameTest, SortedSet.to_list_filter, List.filter_beq, bindings.to_list_nodup.count]
  simp only [SortedSet.mem_to_list]
  split <;> rfl

theorem delete_matching_blocked {refused : List Binding} {bindings : BindingSet}
    {filter : BindingFilter} {binding : Binding} (held : binding ∈ bindings)
    (matching : filter.isMatch binding = true) (rejected : binding ∈ refused) :
    ∃ blocked, deleteMatching refused bindings filter =
      (bindings, (filter, .error (refusal blocked))) := by
  cases found : (bindings.filter filter.isMatch).toList.find?
      (fun binding => refused.contains binding) with
  | none =>
      have member := (SortedSet.mem_filter bindings filter.isMatch binding).mpr ⟨held, matching⟩
      exact absurd (List.contains_iff_mem.mpr rejected) (List.find?_eq_none.mp found _ member)
  | some blocked => exact ⟨blocked, by simp only [deleteMatching, found]⟩

theorem delete_matching_free {refused : List Binding} {bindings : BindingSet}
    {filter : BindingFilter}
    (free : ∀ binding ∈ bindings, filter.isMatch binding = true → binding ∉ refused) :
    deleteMatching refused bindings filter =
      (bindings.filter fun binding => !filter.isMatch binding,
        (filter, .ok (bindings.filter filter.isMatch).toList)) := by
  cases found : (bindings.filter filter.isMatch).toList.find?
      (fun binding => refused.contains binding) with
  | none => simp only [deleteMatching, found]
  | some blocked =>
      have held := (SortedSet.mem_filter _ _ _).mp (List.mem_of_find?_eq_some found)
      have rejected := List.contains_iff_mem.mp (List.find?_some found)
      exact absurd rejected (free blocked held.1 held.2)

theorem delete_matching_exactly (refused : List Binding) (bindings : BindingSet)
    (wanted : Binding) :
    deleteMatching refused bindings (.exactly wanted) =
      if wanted ∈ bindings ∧ wanted ∈ refused then
        (bindings, (.exactly wanted, .error (refusal wanted)))
      else
        (bindings.erase wanted,
          (.exactly wanted, .ok (if wanted ∈ bindings then [wanted] else []))) := by
  have kept : (bindings.filter fun binding => !(BindingFilter.exactly wanted).isMatch binding) =
      bindings.erase wanted := by
    apply congrArg bindings.filter
    funext binding
    rw [Bool.eq_iff_iff, Bool.not_eq_true', ← Bool.not_eq_true, BindingFilter.is_match_exactly,
      bne_iff_ne]
    exact not_congr eq_comm
  simp only [deleteMatching, matched_exactly, kept]
  by_cases held : wanted ∈ bindings
  · by_cases rejected : wanted ∈ refused <;> simp [held, rejected]
  · simp [held]

theorem mem_delete_all (refused wanted : List Binding) (bindings : BindingSet)
    (binding : Binding) :
    binding ∈ (deleteAll refused bindings (wanted.map BindingFilter.exactly)).1 ↔
      binding ∈ bindings ∧ (binding ∈ wanted → binding ∈ refused) := by
  induction wanted generalizing bindings with
  | nil => simp [deleteAll]
  | cons head rest induction =>
      simp only [List.map_cons, deleteAll, induction, delete_matching_exactly, List.mem_cons]
      -- Each filter changes the bindings that the next one meets, so they vary in the induction.
      split
      · next blocked =>
          constructor
          · rintro ⟨held, others⟩
            refine ⟨held, ?_⟩
            rintro (rfl | later)
            · exact blocked.2
            · exact others later
          · rintro ⟨held, all⟩
            exact ⟨held, fun later => all (.inr later)⟩
      · next passes =>
          rw [SortedSet.mem_erase]
          constructor
          · rintro ⟨⟨held, other⟩, others⟩
            exact ⟨held, fun either => others (either.resolve_left other)⟩
          · rintro ⟨held, all⟩
            refine ⟨⟨held, ?_⟩, fun later => all (.inr later)⟩
            rintro rfl
            exact passes ⟨held, all (.inl rfl)⟩

/-- Distinct bindings that the broker holds are removed unless they are refused. -/
theorem of_deletions (refused wanted : List Binding) (bindings : BindingSet)
    (distinct : wanted.Nodup) (held : ∀ binding ∈ wanted, binding ∈ bindings) :
    Batch.ofDeletions wanted (deleteAll refused bindings (wanted.map BindingFilter.exactly)).2 =
      .split refused wanted := by
  induction wanted generalizing bindings with
  | nil => rfl
  | cons head rest induction =>
      obtain ⟨fresh, distinctRest⟩ := List.nodup_cons.mp distinct
      have headHeld : head ∈ bindings := held head List.mem_cons_self
      have restHeld : ∀ binding ∈ rest, binding ∈ bindings :=
        fun binding later => held binding (List.mem_cons_of_mem _ later)
      simp only [Batch.ofDeletions, Batch.split, Batch.mk.injEq] at induction ⊢
      by_cases rejected : head ∈ refused
      · have parts := induction bindings distinctRest restHeld
        simp [deleteAll, delete_matching_exactly, headHeld, rejected, parts.1, parts.2]
      -- The bindings are distinct, so taking the first away leaves the others.
      · have stillHeld : ∀ binding ∈ rest, binding ∈ bindings.erase head := by
          intro binding later
          rw [SortedSet.mem_erase]
          exact ⟨restHeld binding later, fun same => fresh (same ▸ later)⟩
        have parts := induction (bindings.erase head) distinctRest stillHeld
        simp [deleteAll, delete_matching_exactly, headHeld, rejected, parts.1, parts.2]

/-- Two states of a broker that answers and refuses alike. -/
structure Alike (before after : Broker) : Prop where
  refused : after.refused = before.refused
  available : after.available = before.available
  latency : after.latency = before.latency

theorem perform_alike (broker : Broker) (call : AdminCall) :
    Alike broker (broker.perform call).1 := by
  unfold perform
  split
  · exact ⟨rfl, rfl, rfl⟩
  · cases call <;> exact ⟨rfl, rfl, rfl⟩

theorem perform_within_alike (broker : Broker) (bound : Nat) (late : Fault) (call : AdminCall) :
    Alike broker (broker.performWithin bound late call).1 := by
  unfold performWithin
  split
  · exact ⟨rfl, rfl, rfl⟩
  · exact perform_alike broker call

/-- The bindings that a broker refuses, as a set. -/
def rejects (broker : Broker) : Set Binding := {binding | binding ∈ broker.refused}

theorem rejects_of_refused {left right : Broker} (same : left.refused = right.refused) :
    left.rejects = right.rejects := by
  rw [rejects, same, rejects]

section Available

variable {broker : Broker} (available : broker.available = true)

include available

theorem perform_describe :
    broker.perform (.describe .any) =
      (broker.recordCall (.describe .any), .described (.ok broker.bindings.toList)) := by
  have everything : broker.bindings.toList.filter BindingFilter.any.isMatch =
      broker.bindings.toList :=
    List.filter_eq_self.mpr fun _ _ => rfl
  simp [perform, available, recordCall, everything]

theorem perform_creating (wanted : List Binding) :
    broker.perform (.create wanted) =
      (((broker.recordCall (.create wanted)).createAll wanted).1,
        .created (.ok (wanted.map broker.creation))) := by
  simp only [perform, available, Bool.not_true, Bool.false_eq_true, if_false]
  rfl

theorem perform_removing (unwanted : List Binding) :
    broker.perform (Cycle.removing unwanted) =
      let removed := deleteAll broker.refused broker.bindings (unwanted.map BindingFilter.exactly)
      ({ broker.recordCall (Cycle.removing unwanted) with bindings := removed.1 },
        .deleted (.ok removed.2)) := by
  simp only [perform, available, Bool.not_true, Bool.false_eq_true, if_false]
  rfl

theorem perform_create (wanted : BindingSet) :
    (broker.perform (.create wanted.toList)).2 =
        .created (.ok (wanted.toList.map broker.creation)) ∧
      (broker.perform (.create wanted.toList)).1.bindings.members =
        broker.bindings.members ∪ (wanted.members \ broker.rejects) := by
  rw [perform_creating available]
  refine ⟨rfl, ?_⟩
  ext binding
  exact mem_create_all (broker.recordCall (.create wanted.toList)) wanted.toList binding

theorem perform_delete (wanted : BindingSet) (held : wanted.members ⊆ broker.bindings.members) :
    ∃ deletions,
      (broker.perform (Cycle.removing wanted.toList)).2 = .deleted (.ok deletions) ∧
      Batch.ofDeletions wanted.toList deletions = .split broker.refused wanted.toList ∧
      (broker.perform (Cycle.removing wanted.toList)).1.bindings.members =
        broker.bindings.members \ (wanted.members \ broker.rejects) := by
  rw [perform_removing available]
  refine ⟨_, rfl, of_deletions broker.refused wanted.toList broker.bindings wanted.to_list_nodup
    fun binding member => held member, ?_⟩
  ext binding
  rw [SortedSet.mem_members, mem_delete_all, Set.mem_sdiff, Set.mem_sdiff, not_and_not_right]
  rfl

end Available

end Broker

end BrokerTenancy
