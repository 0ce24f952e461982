import Mathlib
import Traversal.Proofs.Verdict

/-! Cost rules in numbers. The loop rule compares the length of a log with the number of elements of its
set, so the order of the log is nothing to it, and it takes a third repetition of some edge to break
it. Each rule judges as if the other were not there. -/
namespace Traversal

variable {log log' : EdgeLog} {edge : String × String}

/-! ## Circling -/

/-- The different edges of a log are the elements of its set. -/
theorem distinctEdges_eq_card (log : EdgeLog) : distinctEdges log = log.toFinset.card := by
  cases log with
  | nil => rfl
  | cons edge rest =>
    have others : (rest.filter fun other => !other == edge).toFinset = rest.toFinset.erase edge := by
      ext other
      simp [and_comm]
    have ih := distinctEdges_eq_card (rest.filter fun other => !other == edge)
    rw [others] at ih
    calc distinctEdges (edge :: rest)
        = (rest.toFinset.erase edge).card + 1 := by
          rw [← ih, distinctEdges, List.eraseDups_cons, List.length_cons, distinctEdges]
      _ = (edge :: rest).toFinset.card := by
          rw [List.toFinset_cons]
          by_cases again : edge ∈ rest.toFinset
          · rw [Finset.insert_eq_of_mem again, Finset.card_erase_add_one again]
          · rw [Finset.erase_eq_of_notMem again, Finset.card_insert_of_notMem again]
  termination_by log.length
  decreasing_by
    rw [List.length_cons]
    exact Nat.lt_succ_of_le (List.length_filter_le _ _)

/-- Halves are rounded down, so a log circles if twice the number of its different edges falls short of
its length by two or more. -/
theorem checkLoops_eq_some_iff (log : EdgeLog) (violation : Violation) :
    checkLoops log = some violation ↔ 2 * log.toFinset.card + 2 ≤ log.length ∧
      violation = .loop log.toFinset.card log.length := by
  have half : log.toFinset.card < log.length / 2 ↔ 2 * log.toFinset.card + 2 ≤ log.length := by omega
  rw [checkLoops, distinctEdges_eq_card, ← half]
  by_cases circles : log.toFinset.card < log.length / 2
  · simp [circles, eq_comm]
  · simp [circles]

theorem checkLoops_eq_none_iff (log : EdgeLog) :
    checkLoops log = none ↔ log.length < 2 * log.toFinset.card + 2 := by
  rw [Option.eq_none_iff_forall_ne_some]
  constructor
  · intro passes
    by_contra circles
    apply passes (.loop log.toFinset.card log.length)
    exact (checkLoops_eq_some_iff _ _).mpr ⟨by omega, rfl⟩
  · intro short violation fails
    have circles := ((checkLoops_eq_some_iff _ _).mp fails).1
    omega

theorem checkLoops_perm (same : log.Perm log') : checkLoops log' = checkLoops log := by
  rw [checkLoops, checkLoops, distinctEdges_eq_card, distinctEdges_eq_card, same.length_eq,
    List.toFinset_eq_of_perm _ _ same]

/-- A log in which no edge occurs often is not much longer than its set is large. -/
theorem length_le_of_count_le {bound : Nat} (few : ∀ edge, log.count edge ≤ bound) :
    log.length ≤ log.toFinset.card * bound := by
  rw [← List.sum_toFinset_count_eq_length]
  apply Finset.sum_le_card_nsmul
  intro edge _
  rw [lawful_beq_subsingleton instBEqOfDecidableEq instBEqProd]
  exact few edge

theorem card_toFinset_concat (new : edge ∉ log) :
    (log ++ [edge]).toFinset.card = log.toFinset.card + 1 := by
  have fresh : edge ∉ log.toFinset := by simpa using new
  have added : (log ++ [edge]).toFinset = insert edge log.toFinset := by
    ext other
    simp
  rw [added, Finset.card_insert_of_notMem fresh]

/-! ## The judgement of several rules -/

theorem checkNodeCount_eq_some_iff (count max : Nat) (violation : Violation) :
    checkNodeCount count max = some violation ↔ max < count ∧ violation = .nodeCount count max := by
  rw [checkNodeCount]
  by_cases exceeds : max < count
  · simp [exceeds, eq_comm]
  · simp [exceeds]

namespace RuleSet

variable (rules : RuleSet) (log : EdgeLog) (count max : Nat)

/-- The violations that a judgement lists: none if it is good. -/
def reported : List Violation :=
  match rules.validate log count max with
  | .ok () => []
  | .error broken => broken

theorem validate_eq_error_iff (broken : List Violation) :
    rules.validate log count max = .error broken ↔
      violations rules log count max = broken ∧ broken ≠ [] := by
  rw [validate_eq]
  cases violations rules log count max with
  | nil => simp [eq_comm]
  | cons violation others =>
    simp only [Except.error.injEq]
    constructor
    · rintro rfl
      exact ⟨rfl, List.cons_ne_nil _ _⟩
    · exact And.left

theorem reported_eq_violations : rules.reported log count max = violations rules log count max := by
  rw [reported, validate_eq]
  cases violations rules log count max <;> rfl

theorem validate_fails_iff :
    (∃ broken, rules.validate log count max = .error broken) ↔
      (rules.loopCheck = true ∧ ∃ violation, checkLoops log = some violation) ∨
        (rules.nodeCountCheck = true ∧ ∃ violation, checkNodeCount count max = some violation) := by
  have listed : (∃ broken, rules.validate log count max = .error broken) ↔
      violations rules log count max ≠ [] := by
    simp [validate_eq_error_iff]
  rw [listed, violations, ne_eq, List.append_eq_nil_iff, not_and_or]
  apply or_congr
  · cases rules.loopCheck <;> cases checkLoops log <;> simp
  · cases rules.nodeCountCheck <;> cases checkNodeCount count max <;> simp

end RuleSet

/-- The rules are exact, blind to order, and independent. The loop rule fails if and only if twice the
number of different edges and two more fit into the log, and says both numbers. It says the same
of every order of the log, nothing if no edge occurs more than twice, and goes on to say nothing when a
new edge follows. A judgement fails if and only if an enabled rule does, and lists what the loop rule
lists alone and then what the other rule lists alone. -/
theorem rules_are_exact_and_independent (log : EdgeLog) :
    (∀ violation, checkLoops log = some violation ↔ 2 * log.toFinset.card + 2 ≤ log.length ∧
      violation = .loop log.toFinset.card log.length) ∧
    (∀ log', log.Perm log' → checkLoops log' = checkLoops log) ∧
    ((∀ edge, log.count edge ≤ 2) → checkLoops log = none) ∧
    (∀ edge, edge ∉ log → checkLoops log = none → checkLoops (log ++ [edge]) = none) ∧
    ∀ count max,
      (∀ violation, checkNodeCount count max = some violation ↔
        max < count ∧ violation = .nodeCount count max) ∧
      (∀ rules : RuleSet, (∃ broken, rules.validate log count max = .error broken) ↔
        (rules.loopCheck = true ∧ ∃ violation, checkLoops log = some violation) ∨
          (rules.nodeCountCheck = true ∧ ∃ violation, checkNodeCount count max = some violation)) ∧
      RuleSet.all.reported log count max =
        RuleSet.reported ⟨true, false⟩ log count max ++ RuleSet.reported ⟨false, true⟩ log count max ∧
      RuleSet.reported ⟨true, false⟩ log count max = (checkLoops log).toList ∧
      RuleSet.reported ⟨false, true⟩ log count max = (checkNodeCount count max).toList ∧
      ∀ (rules : RuleSet) (log' : EdgeLog), log.Perm log' →
        rules.validate log' count max = rules.validate log count max := by
  refine ⟨checkLoops_eq_some_iff log, fun _ => checkLoops_perm, ?_, ?_, fun count max => ?_⟩
  · intro few
    have bounded := length_le_of_count_le few
    rw [checkLoops_eq_none_iff]
    omega
  · intro edge new passes
    rw [checkLoops_eq_none_iff] at passes ⊢
    rw [card_toFinset_concat new, List.length_append, List.length_singleton]
    omega
  · simp only [RuleSet.reported_eq_violations]
    refine ⟨checkNodeCount_eq_some_iff count max, fun rules => rules.validate_fails_iff log count max,
      ?_, ?_, ?_, ?_⟩
    · simp [violations, RuleSet.all]
    · simp [violations]
    · simp [violations]
    · intro rules log' same
      rw [RuleSet.validate_eq, RuleSet.validate_eq, violations, violations, checkLoops_perm same]

/-- Six edges of which two are different circle, in any order. -/
theorem two_edges_in_six_circle :
    let go : String × String := ("a", "b")
    let back : String × String := ("b", "a")
    let log : EdgeLog := [go, back, go, back, go, back]
    (checkLoops log = some (.loop 2 6) ∧ checkLoops log.reverse = some (.loop 2 6)) ∧
      (checkLoops [go, back, go, back] = none ∧
        checkLoops [go, back, go, back, ("b", "c")] = none) ∧
      RuleSet.all.validate log 7 6 = .error [.loop 2 6, .nodeCount 7 6] := by
  intro go back log
  obtain ⟨fails, orders, -, -, judged⟩ := rules_are_exact_and_independent log
  obtain ⟨-, -, twice, extended, -⟩ := rules_are_exact_and_independent [go, back, go, back]
  have circles : checkLoops log = some (.loop 2 6) := (fails _).mpr (by decide)
  have passes : checkLoops [go, back, go, back] = none := by
    apply twice
    intro edge
    have listed : ∀ edge ∈ [go, back, go, back], [go, back, go, back].count edge ≤ 2 := by decide
    by_cases present : edge ∈ [go, back, go, back]
    · exact listed edge present
    · rw [List.count_eq_zero_of_not_mem present]
      exact Nat.zero_le 2
  refine ⟨⟨circles, ?_⟩, ⟨passes, extended ("b", "c") (by decide) passes⟩, ?_⟩
  · rw [orders log.reverse (List.reverse_perm log).symm, circles]
  · obtain ⟨counted, failing, both, loop, nodes, -⟩ := judged 7 6
    obtain ⟨broken, refused⟩ := (failing RuleSet.all).mpr (Or.inl ⟨rfl, _, circles⟩)
    have exceeds : checkNodeCount 7 6 = some (.nodeCount 7 6) := (counted _).mpr (by decide)
    rw [loop, nodes, circles, exceeds, RuleSet.reported, refused] at both
    rw [refused]
    exact congrArg Except.error both

end Traversal
