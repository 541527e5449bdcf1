import ReviewPrep.Priority
import Mathlib.Data.List.Perm.Basic
import Mathlib.Data.List.Pairwise

/-!
# Review order is a stable sort by priority

Files are queued for review by taking, for each priority in turn, the files of that priority in
the order given. That is a stable sort: the queue holds exactly the files given, as many times
each, their priorities never decrease along it, and the files of any one priority stand in the
order they were given (`prioritize_stable_sort`).
-/

namespace ReviewPrep

/-- The turns come in strictly increasing rank. -/
theorem Priority.all_rank_lt : Priority.all.Pairwise (fun p q => p.rank < q.rank) := by
  decide

/-- The files of priority `q`, kept if they have priority `p`: all of them when `p` is `q`,
none otherwise. -/
theorem filter_priority_filter (files : List FileInfo) (p q : Priority) :
    (files.filter (·.priority == q)).filter (·.priority == p) =
      if q = p then files.filter (·.priority == p) else [] := by
  split
  · next h =>
    subst h
    rw [List.filter_filter]
    simp
  · next h =>
    rw [List.filter_eq_nil_iff]
    intro a ha
    simp only [List.mem_filter, beq_iff_eq] at ha
    simp [ha.2, h]

/-- A file is among the files of a priority as often as it was given if it has that priority,
and never otherwise. -/
theorem count_filter_priority (files : List FileInfo) (f : FileInfo) (p : Priority) :
    (files.filter (·.priority == p)).count f = if f.priority = p then files.count f else 0 := by
  split
  · next h => exact List.count_filter (by simp [h])
  · next h => exact List.count_eq_zero.mpr fun hf => h (by simpa using (List.mem_filter.mp hf).2)

/-- The queue holds each file as many times as it was given. -/
theorem prioritize_perm (files : List FileInfo) : (prioritize files).Perm files := by
  rw [List.perm_iff_count]
  intro f
  rw [prioritize, List.count_flatMap]
  simp only [Function.comp_def, count_filter_priority]
  cases hp : f.priority <;> simp [Priority.all]

/-- Priorities never decrease along the queue. -/
theorem prioritize_pairwise (files : List FileInfo) :
    (prioritize files).Pairwise (fun a b => a.priority.rank ≤ b.priority.rank) := by
  rw [prioritize, List.pairwise_flatMap]
  refine ⟨fun p _ => List.pairwise_of_forall_mem_list fun a ha b hb => ?_, ?_⟩
  · simp only [List.mem_filter, beq_iff_eq] at ha hb
    exact Nat.le_of_eq (by rw [ha.2, hb.2])
  · refine Priority.all_rank_lt.imp fun hpq a ha b hb => ?_
    simp only [List.mem_filter, beq_iff_eq] at ha hb
    rw [ha.2, hb.2]
    exact Nat.le_of_lt hpq

/-- The files of one priority stand in the queue in the order given. -/
theorem prioritize_filter (files : List FileInfo) (p : Priority) :
    (prioritize files).filter (·.priority == p) = files.filter (·.priority == p) := by
  rw [prioritize, List.filter_flatMap]
  simp only [filter_priority_filter]
  cases p <;> simp [Priority.all]

/-- Ordering files for review is a stable sort by priority: the queue is a permutation of the
files given, the priorities never decrease along it, and files of equal priority keep their
input order. -/
theorem prioritize_stable_sort (files : List FileInfo) :
    (prioritize files).Perm files ∧
      (prioritize files).Pairwise (fun a b => a.priority.rank ≤ b.priority.rank) ∧
      ∀ p, (prioritize files).filter (·.priority == p) = files.filter (·.priority == p) :=
  ⟨prioritize_perm files, prioritize_pairwise files, prioritize_filter files⟩

end ReviewPrep
