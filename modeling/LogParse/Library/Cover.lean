import Mathlib.Data.List.Basic
import Mathlib.Data.List.Perm.Lattice

/-!
# Comparing two sets by their sizes

Two duplicate-free lists of equal length have as many elements missing from
one as from the other.  What is missing from the first is bounded by what is
extra in it, which may stand in for it.
-/

namespace LogParse

section Cover

variable {α : Type*} [DecidableEq α] {done asked lost : List α}

theorem length_filter_notMem_eq (doneNodup : done.Nodup)
    (askedNodup : asked.Nodup) (sameLength : done.length = asked.length) :
    (done.filter (· ∉ asked)).length = (asked.filter (· ∉ done)).length := by
  have shared : (done.filter (· ∈ asked)).Perm (asked.filter (· ∈ done)) := by
    apply (List.perm_ext_iff_of_nodup (doneNodup.filter _)
      (askedNodup.filter _)).mpr
    intro item
    simp [And.comm]
  have doneSplit := List.length_eq_length_filter_add (l := done)
    (fun item => decide (item ∈ asked))
  have askedSplit := List.length_eq_length_filter_add (l := asked)
    (fun item => decide (item ∈ done))
  have sharedLength := shared.length_eq
  simp only [← decide_not] at doneSplit askedSplit
  omega

/-- If no more items stand in than were lost, everything that was asked for is
done or lost. -/
theorem done_or_lost (doneNodup : done.Nodup) (askedNodup : asked.Nodup)
    (sameLength : done.length = asked.length)
    (apart : ∀ item ∈ done, item ∉ lost)
    (few : (done.filter (· ∉ asked)).length ≤
      (asked.filter (· ∈ lost)).length) :
    ∀ item ∈ asked, item ∈ done ∨ item ∈ lost := by
  have lostMissing : (asked.filter (· ∈ lost)).Sublist
      (asked.filter (· ∉ done)) := by
    apply List.monotone_filter_right
    intro item isLost
    simp only [decide_eq_true_eq] at isLost ⊢
    exact fun isDone => apart item isDone isLost
  have missingLost : asked.filter (· ∈ lost) = asked.filter (· ∉ done) := by
    apply lostMissing.eq_of_length_le
    rw [← length_filter_notMem_eq doneNodup askedNodup sameLength]
    exact few
  intro item member
  by_cases isDone : item ∈ done
  · exact Or.inl isDone
  · have missing : item ∈ asked.filter (· ∉ done) := by
      simpa [isDone] using member
    rw [← missingLost] at missing
    simp only [List.mem_filter, decide_eq_true_eq] at missing
    exact Or.inr missing.2

end Cover

end LogParse
