import Mathlib

/-! The values of a list in the order of their first use, each of them once, as
`List.eraseDups` gives them. It is the only list of the values in use whose first
places ascend. -/

namespace ChunkyPlanar.FirstUse

variable {α β : Type} [BEq α] [LawfulBEq α] [BEq β] [LawfulBEq β]

theorem eraseDups_append_of_mem {values : List α} {value : α} (used : value ∈ values) :
    (values ++ [value]).eraseDups = values.eraseDups := by
  rw [List.eraseDups_append]
  simp [List.removeAll, used]

theorem eraseDups_append_of_notMem {values : List α} {value : α}
    (unused : value ∉ values) :
    (values ++ [value]).eraseDups = values.eraseDups ++ [value] := by
  rw [List.eraseDups_append]
  simp [List.removeAll, unused, List.eraseDups_cons]

theorem pairwise_idxOf_eraseDups (values : List α) :
    values.eraseDups.Pairwise fun earlier later =>
      values.idxOf earlier < values.idxOf later := by
  induction values using List.reverseRecOn with
  | nil => exact .nil
  | append_singleton values value ih =>
      have kept : values.eraseDups.Pairwise fun earlier later =>
          (values ++ [value]).idxOf earlier < (values ++ [value]).idxOf later := by
        apply ih.imp_of_mem
        intro earlier later earlierUsed laterUsed less
        rw [List.mem_eraseDups] at earlierUsed laterUsed
        rwa [List.idxOf_append, if_pos earlierUsed, List.idxOf_append, if_pos laterUsed]
      by_cases used : value ∈ values
      · rwa [eraseDups_append_of_mem used]
      · rw [eraseDups_append_of_notMem used]
        refine List.pairwise_append.mpr ⟨kept, List.pairwise_singleton .., ?_⟩
        intro earlier earlierUsed later last
        rw [List.mem_eraseDups] at earlierUsed
        cases List.mem_singleton.mp last
        rw [List.idxOf_append, if_pos earlierUsed, List.idxOf_append, if_neg used]
        exact Nat.lt_add_left _ (List.idxOf_lt_length_of_mem earlierUsed)

omit [LawfulBEq α] in
theorem nodup_of_pairwise_idxOf {values listed : List α}
    (ascending : listed.Pairwise fun earlier later =>
      values.idxOf earlier < values.idxOf later) : listed.Nodup :=
  ascending.imp fun less equal => by
    rw [equal] at less
    exact Nat.lt_irrefl _ less

theorem nodup_eraseDups (values : List α) : values.eraseDups.Nodup :=
  nodup_of_pairwise_idxOf (pairwise_idxOf_eraseDups values)

theorem eraseDups_eq_iff {values listed : List α} :
    values.eraseDups = listed ↔
      (∀ value, value ∈ listed ↔ value ∈ values) ∧
        listed.Pairwise fun earlier later =>
          values.idxOf earlier < values.idxOf later := by
  constructor
  · rintro rfl
    exact ⟨fun _ => List.mem_eraseDups, pairwise_idxOf_eraseDups values⟩
  · intro parts
    obtain ⟨same, ascending⟩ := parts
    have members : ∀ value, value ∈ values.eraseDups ↔ value ∈ listed := fun value =>
      List.mem_eraseDups.trans (same value).symm
    exact List.Perm.eq_of_pairwise
      (fun _ _ _ _ less more => absurd more (Nat.lt_asymm less))
      (pairwise_idxOf_eraseDups values) ascending
      ((List.perm_ext_iff_of_nodup (nodup_eraseDups values)
        (nodup_of_pairwise_idxOf ascending)).mpr members)

/-- Labels that tell the values apart are first used where the values are. -/
theorem eraseDups_map {values : List α} {label : α → β}
    (injective : ∀ first ∈ values, ∀ second ∈ values,
      label first = label second → first = second) :
    (values.map label).eraseDups = values.eraseDups.map label := by
  induction values using List.reverseRecOn with
  | nil => rfl
  | append_singleton values value ih =>
      have shorter := ih fun first firstUsed second secondUsed =>
        injective first (List.mem_append_left _ firstUsed) second
          (List.mem_append_left _ secondUsed)
      rw [List.map_append, List.map_singleton]
      by_cases used : value ∈ values
      · rw [eraseDups_append_of_mem used,
          eraseDups_append_of_mem (List.mem_map_of_mem used), shorter]
      · have unused : label value ∉ values.map label := by
          rw [List.mem_map]
          rintro ⟨other, otherUsed, same⟩
          have equal := injective other (List.mem_append_left _ otherUsed) value
            (List.mem_append_right _ (List.mem_singleton_self value)) same
          exact used (equal ▸ otherUsed)
        rw [eraseDups_append_of_notMem used, eraseDups_append_of_notMem unused, shorter,
          List.map_append, List.map_singleton]

end ChunkyPlanar.FirstUse
