import SqlWorkload.Proofs.Random.Results
import Mathlib.Data.List.Sort
/-!
# Samples

A sample has no position twice. While it is built up, all positions are below a bound that rises by
one with each draw. A position that is drawn again goes to the end, and the newest one, which was
beyond the bound before, takes the place where it stood.

    a sample has as many positions as asked for, all distinct     (always_sample)
    sorted, it lists a part of a list in the order of the list    (sublist_of_positions)
-/

namespace SqlWorkload.Random.Draw

theorem mem_map_replace {α : Type} [DecidableEq α] {l : List α} {old new x : α}
    (h : x ∈ l.map fun y => if y = old then new else y) :
    x = new ∧ old ∈ l ∨ x ∈ l ∧ x ≠ old := by
  obtain ⟨y, hy, rfl⟩ := List.mem_map.1 h
  split
  · next heq => exact .inl ⟨rfl, heq ▸ hy⟩
  · next hne => exact .inr ⟨hy, hne⟩

theorem nodup_map_replace {α : Type} [DecidableEq α] {l : List α} {old new : α} (h : l.Nodup)
    (hnew : new ∉ l) : (l.map fun y => if y = old then new else y).Nodup := by
  refine List.pairwise_map.2 (h.imp_of_mem fun {x y} hx hy hne => ?_)
  split
  · split
    · next hx hy => exact fun _ => hne (hx.trans hy.symm)
    · exact fun heq => hnew (heq ▸ hy)
  · split
    · exact fun heq => hnew (heq ▸ hx)
    · exact hne

theorem always_nodup_sampleMore {length k : Nat} (h : k ≤ length) {chosen : List (Fin length)}
    (hd : chosen.Nodup) (hlt : ∀ x ∈ chosen, x.val < length - k) :
    (sampleMore length k h chosen).Always List.Nodup := by
  induction k generalizing chosen with
  | zero => exact always_pure hd
  | succ k ih =>
    apply always_bind
    intro i
    have hnewest : (⟨length - (k + 1), by omega⟩ : Fin length) ∉ chosen := fun hmem =>
      Nat.lt_irrefl _ (hlt _ hmem)
    apply ih
    · refine List.nodup_append.2 ⟨nodup_map_replace hd hnewest, by simp, ?_⟩
      intro x hx y hy heq
      rw [List.mem_singleton] at hy
      subst heq hy
      rcases mem_map_replace hx with ⟨heq, hmem⟩ | ⟨-, hne⟩
      · exact hnewest (heq ▸ hmem)
      · exact hne rfl
    · intro x hx
      rcases List.mem_append.1 hx with hx | hx
      · rcases mem_map_replace hx with ⟨rfl, -⟩ | ⟨hx, -⟩
        · simp
          omega
        · have := hlt x hx
          omega
      · rw [List.mem_singleton] at hx
        subst hx
        exact i.isLt

theorem always_sample {length amount : Nat} (h : amount ≤ length) :
    (sample length amount h).Always fun l => l.Nodup ∧ l.length = amount :=
  (always_nodup_sampleMore h .nil (by simp)).and (length_sample h)

/-- Distinct positions in ascending order list a part of the list. -/
theorem sublist_of_positions {α : Type} {l : List α} {positions : List (Fin l.length)}
    (hd : positions.Nodup) : ((positions.mergeSort (· ≤ ·)).map l.get).Sublist l := by
  have hsorted : (positions.mergeSort (· ≤ ·)).SortedLT :=
    List.sortedLT_iff_nodup_and_sortedLE.2 ⟨List.nodup_mergeSort.2 hd, List.sortedLE_mergeSort⟩
  exact List.map_getElem_sublist hsorted.pairwise

end SqlWorkload.Random.Draw
