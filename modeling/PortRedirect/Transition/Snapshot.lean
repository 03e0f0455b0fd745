import Mathlib.Algebra.BigOperators.Group.Finset.Basic
import Mathlib.Algebra.Order.BigOperators.Group.Finset
import Mathlib.Data.List.Forall2

namespace PortRedirect.Transition

universe u v

/-! Registers that only grow, read one after another while they grow. -/

section Collected

variable {ι : Type u} {α : Type v} {held later : ι → α → Prop} {order : List ι}
  {values : List α}

/-- Each value read is one that its register held since the reading began. -/
def Collected (held : ι → α → Prop) (order : List ι) (values : List α) : Prop :=
  List.Forall₂ held (order.take values.length) values

theorem Collected.nil (held : ι → α → Prop) (order : List ι) : Collected held order [] :=
  List.Forall₂.nil

theorem Collected.mono (collected : Collected held order values)
    (kept : ∀ register value, held register value → later register value) :
    Collected later order values :=
  List.Forall₂.imp kept collected

theorem Collected.read (collected : Collected held order values) {register : ι} {value : α}
    (next : order[values.length]? = some register) (holds : held register value) :
    Collected held order (values ++ [value]) := by
  rw [Collected, List.length_append, List.length_singleton, List.take_add_one, next]
  exact List.rel_append collected (List.Forall₂.cons holds List.Forall₂.nil)

theorem Collected.exists_snapshot [DecidableEq ι] (collected : Collected held order values)
    (whole : values.length = order.length) (distinct : order.Nodup)
    (every : ∀ register, register ∈ order) :
    ∃ snapshot : ι → α, order.map snapshot = values ∧
      ∀ register, held register (snapshot register) := by
  rw [Collected, whole, List.take_length] at collected
  have inside (register : ι) : order.idxOf register < values.length := by
    rw [whole]
    exact List.idxOf_lt_length_iff.mpr (every register)
  let snapshot (register : ι) : α := values.get ⟨order.idxOf register, inside register⟩
  refine ⟨snapshot, ?_, ?_⟩
  · apply List.ext_getElem
    · rw [List.length_map, whole]
    · intro index bound bound'
      simp [snapshot, distinct.idxOf_getElem]
  · intro register
    have pair := (List.forall₂_iff_get.mp collected).2 (order.idxOf register)
      (whole ▸ inside register) (inside register)
    simpa [snapshot] using pair

end Collected

theorem pairwise_concat {α : Type u} {relation : α → α → Prop} {init : List α} {last : α}
    (pairs : init.Pairwise relation) (next : ∀ earlier ∈ init, relation earlier last) :
    (init ++ [last]).Pairwise relation := by
  rw [List.pairwise_append]
  refine ⟨pairs, List.pairwise_singleton _ _, ?_⟩
  intro earlier member later same
  rw [List.mem_singleton.mp same]
  exact next earlier member

/-- A chain of snapshots of counters is no longer than the counters can count. -/
theorem length_le_of_increasing {ι : Type u} [Fintype ι] {snapshots : List (ι → Nat)}
    {top : ι → Nat} (increasing : snapshots.Pairwise (· < ·))
    (bounded : ∀ snapshot ∈ snapshots, snapshot ≤ top) :
    snapshots.length ≤ (∑ register, top register) + 1 := by
  let total (snapshot : ι → Nat) : Nat := ∑ register, snapshot register
  have distinct : (snapshots.map total).Nodup := by
    rw [List.nodup_iff_pairwise_ne, List.pairwise_map]
    exact increasing.imp fun less => (Fintype.sum_strictMono less).ne
  have inside : (snapshots.map total).toFinset ⊆ Finset.range (total top + 1) := by
    intro sum member
    rw [List.mem_toFinset, List.mem_map] at member
    obtain ⟨snapshot, member, rfl⟩ := member
    rw [Finset.mem_range]
    exact Nat.lt_succ_of_le (Finset.sum_le_sum fun register _ => bounded snapshot member register)
  have size := Finset.card_le_card inside
  rwa [List.toFinset_card_of_nodup distinct, List.length_map, Finset.card_range] at size

end PortRedirect.Transition
