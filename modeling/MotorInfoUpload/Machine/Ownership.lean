import Mathlib.Algebra.BigOperators.Group.List.Basic

/-! Numbered items kept in places. Each item that has been issued is in exactly one
place, once; a transfer takes one item from one place to another. Nothing here
depends on what the places are. -/

namespace MotorInfoUpload.Machine

variable {Place : Type} {keys after : Place → List Nat} {issued : Nat}

/-- The items below `issued` have one owner each, and there are no others. -/
structure Owned (keys : Place → List Nat) (issued : Nat) : Prop where
  owner : ∀ key < issued, ∃ place, (keys place).count key = 1 ∧
    ∀ other, other ≠ place → (keys other).count key = 0
  fresh : ∀ key, issued ≤ key → ∀ place, (keys place).count key = 0

theorem Owned.owner_of_mem (owned : Owned keys issued) (member : key ∈ keys place) :
    (keys place).count key = 1 ∧ ∀ other, other ≠ place → (keys other).count key = 0 := by
  have positive : 0 < (keys place).count key := List.count_pos_iff.mpr member
  by_cases below : key < issued
  · obtain ⟨owner, once, elsewhere⟩ := owned.owner key below
    by_cases same : place = owner
    · exact same ▸ ⟨once, elsewhere⟩
    · have none := elsewhere place same
      omega
  · have none := owned.fresh key (Nat.le_of_not_lt below) place
    omega

theorem Owned.lt_issued (owned : Owned keys issued) (member : key ∈ keys place) : key < issued := by
  have positive : 0 < (keys place).count key := List.count_pos_iff.mpr member
  by_cases below : key < issued
  · exact below
  · have none := owned.fresh key (Nat.le_of_not_lt below) place
    omega

theorem Owned.nodup (owned : Owned keys issued) (place : Place) : (keys place).Nodup := by
  refine List.nodup_iff_count.mpr fun key => ?_
  by_cases member : key ∈ keys place
  · exact Nat.le_of_eq (owned.owner_of_mem member).1
  · rw [List.count_eq_zero.mpr member]
    exact Nat.zero_le _

theorem Owned.exists_unique (owned : Owned keys issued) (key : Nat) (below : key < issued) :
    ∃ place, key ∈ keys place ∧ ∀ other, key ∈ keys other → other = place := by
  obtain ⟨place, once, elsewhere⟩ := owned.owner key below
  refine ⟨place, List.count_pos_iff.mp (by omega), fun other member => ?_⟩
  refine Classical.byContradiction fun different => ?_
  have positive : 0 < (keys other).count key := List.count_pos_iff.mpr member
  have none := elsewhere other different
  omega

theorem Owned.empty (nothing : ∀ place, keys place = []) : Owned keys 0 where
  owner _ below := absurd below (Nat.not_lt_zero _)
  fresh key _ place := by rw [nothing place, List.count_nil]

theorem Owned.unmoved (owned : Owned keys issued) (same : ∀ place, (after place).Perm (keys place)) :
    Owned after issued where
  owner key below := by
    obtain ⟨place, once, elsewhere⟩ := owned.owner key below
    refine ⟨place, by rw [(same place).count_eq, once], fun other different => ?_⟩
    rw [(same other).count_eq, elsewhere other different]
  fresh key above place := by rw [(same place).count_eq, owned.fresh key above place]

theorem Owned.issue (owned : Owned keys issued) (target : Place)
    (gained : (after target).Perm (issued :: keys target))
    (others : ∀ place, place ≠ target → (after place).Perm (keys place)) :
    Owned after (issued + 1) := by
  have count_target (key : Nat) : (after target).count key =
      (keys target).count key + if issued = key then 1 else 0 := by
    rw [gained.count_eq, List.count_cons]
    simp only [beq_iff_eq]
  constructor
  · intro key below
    by_cases last : issued = key
    · subst last
      have nowhere := owned.fresh issued (Nat.le_refl _)
      refine ⟨target, by rw [count_target, nowhere target, if_pos rfl], fun other different => ?_⟩
      rw [(others other different).count_eq, nowhere other]
    · obtain ⟨place, once, elsewhere⟩ := owned.owner key (by omega)
      have same (other : Place) : (after other).count key = (keys other).count key := by
        by_cases here : other = target
        · rw [here, count_target, if_neg last, Nat.add_zero]
        · rw [(others other here).count_eq]
      exact ⟨place, by rw [same, once], fun other different => by
        rw [same, elsewhere other different]⟩
  · intro key above place
    have nowhere := owned.fresh key (by omega) place
    by_cases here : place = target
    · rw [here] at nowhere ⊢
      rw [count_target, nowhere, if_neg (by omega)]
    · rw [(others place here).count_eq, nowhere]

theorem Owned.transfer (owned : Owned keys issued) {source target : Place}
    (apart : source ≠ target) (moved : Nat) (lost : (keys source).Perm (moved :: after source))
    (gained : (after target).Perm (moved :: keys target))
    (others : ∀ place, place ≠ source → place ≠ target → (after place).Perm (keys place)) :
    Owned after issued := by
  have count_source (key : Nat) : (keys source).count key =
      (after source).count key + if moved = key then 1 else 0 := by
    rw [lost.count_eq, List.count_cons]
    simp only [beq_iff_eq]
  have count_target (key : Nat) : (after target).count key =
      (keys target).count key + if moved = key then 1 else 0 := by
    rw [gained.count_eq, List.count_cons]
    simp only [beq_iff_eq]
  have unmoved (key : Nat) (other : moved ≠ key) (place : Place) :
      (after place).count key = (keys place).count key := by
    by_cases atSource : place = source
    · rw [atSource, count_source, if_neg other, Nat.add_zero]
    by_cases atTarget : place = target
    · rw [atTarget, count_target, if_neg other, Nat.add_zero]
    · rw [(others place atSource atTarget).count_eq]
  have member : moved ∈ keys source := lost.mem_iff.mpr List.mem_cons_self
  obtain ⟨once, elsewhere⟩ := owned.owner_of_mem member
  constructor
  · intro key below
    by_cases same : moved = key
    · subst same
      refine ⟨target, ?_, fun place different => ?_⟩
      · rw [count_target, elsewhere target apart.symm, if_pos rfl]
      · by_cases atSource : place = source
        · have left := count_source moved
          rw [once, if_pos rfl] at left
          rw [atSource]
          omega
        · rw [(others place atSource different).count_eq, elsewhere place atSource]
    · obtain ⟨place, found, missing⟩ := owned.owner key below
      exact ⟨place, by rw [unmoved key same, found], fun other different => by
        rw [unmoved key same, missing other different]⟩
  · intro key above place
    have different : moved ≠ key := by
      have below := owned.lt_issued member
      omega
    rw [unmoved key different, owned.fresh key above place]

/-- The places together hold every issued item, once. -/
theorem Owned.perm (owned : Owned keys issued) (places : List Place) (once : places.Nodup)
    (all : ∀ place, place ∈ places) : (places.flatMap keys).Perm (List.range issued) := by
  classical
  refine List.perm_iff_count.mpr fun key => ?_
  rw [List.count_flatMap]
  by_cases below : key < issued
  · obtain ⟨owner, single, elsewhere⟩ := owned.owner key below
    have first := List.perm_cons_erase (all owner)
    have others : ((places.erase owner).map (List.count key ∘ keys)).sum = 0 := by
      refine List.sum_eq_zero fun count member => ?_
      obtain ⟨place, left, same⟩ := List.mem_map.mp member
      exact same ▸ elsewhere place (once.mem_erase_iff.mp left).1
    have total := (first.map (List.count key ∘ keys)).sum_eq
    rw [List.map_cons, List.sum_cons, others, Function.comp_apply, single] at total
    rw [total, List.nodup_range.count, if_pos (List.mem_range.mpr below)]
  · rw [List.count_eq_zero.mpr fun member => below (List.mem_range.mp member)]
    refine List.sum_eq_zero fun count member => ?_
    obtain ⟨place, -, same⟩ := List.mem_map.mp member
    exact same ▸ owned.fresh key (Nat.le_of_not_lt below) place

end MotorInfoUpload.Machine
