import IndexAdvisor.Text.Sorted
import Mathlib.Data.List.Induction
import Mathlib.Data.List.Nodup
import Mathlib.Data.String.Basic

/-! # Texts in order

Sorted texts come in the order of their code points, each as often as it is given, so that the order
of two lists of distinct texts is the same if they have the same members.
-/

namespace IndexAdvisor.Text

variable {texts others : List String}

theorem mem_sorted {text : String} : text ∈ sorted texts ↔ text ∈ texts := List.mem_mergeSort

theorem nodup_sorted (distinct : texts.Nodup) : (sorted texts).Nodup :=
  (List.mergeSort_perm texts _).nodup_iff.mpr distinct

theorem pairwise_sorted (texts : List String) : (sorted texts).Pairwise (· ≤ ·) := by
  refine (List.pairwise_mergeSort ?_ ?_ texts).imp fun below => of_decide_eq_true below
  · intro a b c first second
    exact decide_eq_true (le_trans (of_decide_eq_true first) (of_decide_eq_true second))
  · intro a b
    simpa using le_total a b

/-- Distinct texts come in strictly ascending order. -/
theorem ascending_sorted (distinct : texts.Nodup) : (sorted texts).Pairwise (· < ·) := by
  refine ((pairwise_sorted texts).and (nodup_sorted distinct)).imp ?_
  rintro a b ⟨below, other⟩
  exact lt_of_le_of_ne below other

theorem sorted_perm (perm : texts.Perm others) : sorted texts = sorted others := by
  have same : (sorted texts).Perm (sorted others) :=
    (List.mergeSort_perm texts _).trans (perm.trans (List.mergeSort_perm others _).symm)
  exact same.eq_of_pairwise (fun _ _ _ _ => le_antisymm) (pairwise_sorted texts)
    (pairwise_sorted others)

theorem sorted_congr (distinct : texts.Nodup) (distinct' : others.Nodup)
    (same : ∀ text, text ∈ texts ↔ text ∈ others) : sorted texts = sorted others :=
  sorted_perm ((List.perm_ext_iff_of_nodup distinct distinct').mpr same)

section Distinct

variable {α β : Type} [BEq α] [LawfulBEq α] [BEq β] [LawfulBEq β]

theorem eraseDups_concat (items : List α) (last : α) : (items ++ [last]).eraseDups
    = if items.contains last then items.eraseDups else items.eraseDups ++ [last] := by
  rw [List.eraseDups_append]
  by_cases before : last ∈ items <;> simp [List.removeAll, List.eraseDups_cons, before]

theorem nodup_eraseDups (items : List α) : items.eraseDups.Nodup := by
  induction items using List.reverseRecOn with
  | nil => exact List.nodup_nil
  | append_singleton items last ih =>
      rw [eraseDups_concat]
      split
      · exact ih
      · next new =>
          have unlisted : last ∉ items.eraseDups := by simpa using new
          rw [← List.concat_eq_append]
          exact ih.concat unlisted

/-- Distinct items of a kind are found as if there were no others. -/
theorem filter_eraseDups (p : α → Bool) (items : List α) :
    items.eraseDups.filter p = (items.filter p).eraseDups := by
  induction items using List.reverseRecOn with
  | nil => rfl
  | append_singleton items last ih =>
      rw [eraseDups_concat, List.filter_append]
      cases kind : p last with
      | true =>
          have before : (items.filter p).contains last = items.contains last := by simp [kind]
          rw [List.filter_cons_of_pos kind, List.filter_nil, eraseDups_concat, before, ← ih]
          split
          · rfl
          · rw [List.filter_append, List.filter_cons_of_pos kind, List.filter_nil]
      | false =>
          rw [List.filter_cons_of_neg (by simp [kind]), List.filter_nil, List.append_nil, ← ih]
          split
          · rfl
          · simp [kind]

theorem map_eraseDups {f : α → β} {items : List α}
    (apart : ∀ a ∈ items, ∀ b ∈ items, f a = f b → a = b) :
    items.eraseDups.map f = (items.map f).eraseDups := by
  induction items using List.reverseRecOn with
  | nil => rfl
  | append_singleton items last ih =>
      have before : (items.map f).contains (f last) = items.contains last := by
        rw [Bool.eq_iff_iff, List.contains_iff_mem, List.contains_iff_mem, List.mem_map]
        constructor
        · rintro ⟨item, mem, same⟩
          have found : item = last := apart item (by simp [mem]) last (by simp) same
          exact found ▸ mem
        · intro mem
          exact ⟨last, mem, rfl⟩
      have earlier := ih fun a memA b memB => apart a (by simp [memA]) b (by simp [memB])
      rw [List.map_append, List.map_singleton, eraseDups_concat, eraseDups_concat, before, ← earlier]
      split
      · rfl
      · rw [List.map_append, List.map_singleton]

end Distinct

/-- Distinct texts with the members of a list are sorted as its distinct texts are. -/
theorem sortedDistinct_eq (distinct : texts.Nodup) (same : ∀ text, text ∈ texts ↔ text ∈ others) :
    sorted texts = sortedDistinct others :=
  sorted_congr distinct (nodup_eraseDups others) fun text => by rw [same, List.mem_eraseDups]

theorem sortedDistinct_congr (same : ∀ text, text ∈ texts ↔ text ∈ others) :
    sortedDistinct texts = sortedDistinct others :=
  sortedDistinct_eq (nodup_eraseDups texts) fun text => by rw [List.mem_eraseDups, same]

end IndexAdvisor.Text
