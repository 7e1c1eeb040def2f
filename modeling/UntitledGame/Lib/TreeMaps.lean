import Std.Data.ExtTreeMap.Lemmas
import Mathlib.Data.List.Perm.Basic
import Mathlib.Data.List.Nodup

/-!
# The entries of an ordered map, up to their order

`ExtTreeMap.toList` lists the entries of a map in the order of the keys. What a
new key and an erased key do to that list is a permutation away from consing
and from taking out, which is all that counting the entries needs.
-/

namespace UntitledGame.Lib.TreeMaps

open Std

variable {α β : Type*} {cmp : α → α → Ordering} [TransCmp cmp] [LawfulEqCmp cmp]

theorem nodup_toList (m : ExtTreeMap α β cmp) : m.toList.Nodup := by
  refine List.Pairwise.imp ?_ (ExtTreeMap.distinct_keys_toList (t := m))
  rintro a b hne rfl
  exact hne ReflCmp.compare_self

/-- A new key adds an entry. -/
theorem toList_insertIfNew (m : ExtTreeMap α β cmp) {k : α} (hfresh : k ∉ m) (v : β) :
    (m.insertIfNew k v).toList.Perm ((k, v) :: m.toList) := by
  have hnot : (k, v) ∉ m.toList := by
    intro hmem
    rw [ExtTreeMap.mem_toList_iff_getElem?_eq_some] at hmem
    exact hfresh (ExtTreeMap.mem_iff_isSome_getElem?.mpr (by rw [hmem]; rfl))
  refine (List.perm_ext_iff_of_nodup (nodup_toList _)
    (List.nodup_cons.mpr ⟨hnot, nodup_toList m⟩)).mpr ?_
  rintro ⟨k', v'⟩
  rw [ExtTreeMap.mem_toList_iff_getElem?_eq_some, List.mem_cons,
    ExtTreeMap.mem_toList_iff_getElem?_eq_some, ExtTreeMap.getElem?_insertIfNew, Prod.mk.injEq]
  by_cases hk : k = k'
  · subst hk
    rw [if_pos ⟨ReflCmp.compare_self, hfresh⟩, ExtTreeMap.getElem?_eq_none hfresh]
    simp [eq_comm]
  · rw [if_neg fun hc => hk (LawfulEqCmp.eq_of_compare hc.1)]
    simp [Ne.symm hk]

/-- An erased key takes an entry out. -/
theorem toList_erase (m : ExtTreeMap α β cmp) {k : α} {v : β} (hk : m[k]? = some v) :
    m.toList.Perm ((k, v) :: (m.erase k).toList) := by
  have hnot : (k, v) ∉ (m.erase k).toList := by
    rw [ExtTreeMap.mem_toList_iff_getElem?_eq_some, ExtTreeMap.getElem?_erase,
      if_pos ReflCmp.compare_self]
    exact (Option.some_ne_none v).symm
  refine (List.perm_ext_iff_of_nodup (nodup_toList m)
    (List.nodup_cons.mpr ⟨hnot, nodup_toList _⟩)).mpr ?_
  rintro ⟨k', v'⟩
  rw [ExtTreeMap.mem_toList_iff_getElem?_eq_some, List.mem_cons,
    ExtTreeMap.mem_toList_iff_getElem?_eq_some, ExtTreeMap.getElem?_erase, Prod.mk.injEq]
  by_cases hkk : k = k'
  · subst hkk
    rw [if_pos ReflCmp.compare_self, hk]
    simp [eq_comm]
  · rw [if_neg fun hc => hkk (LawfulEqCmp.eq_of_compare hc)]
    simp [Ne.symm hkk]

section Rekeyed

variable {κ : Type*} {cmp' : κ → κ → Ordering} [TransCmp cmp'] [LawfulEqCmp cmp']

/-- Keys that are renamed in their order leave the order of the entries. -/
theorem toList_rekey {m : ExtTreeMap α β cmp} {n : ExtTreeMap κ β cmp'} (f : α → κ)
    (hmono : ∀ a b, cmp a b = .lt → cmp' (f a) (f b) = .lt)
    (hentries : ∀ k v, n[k]? = some v ↔ ∃ a, f a = k ∧ m[a]? = some v) :
    n.toList = m.toList.map fun e => (f e.1, e.2) := by
  have hn : n.toList.Pairwise fun a b => cmp' a.1 b.1 = .lt := ExtTreeMap.ordered_keys_toList
  have hm : (m.toList.map fun e => (f e.1, e.2)).Pairwise fun a b => cmp' a.1 b.1 = .lt := by
    apply List.pairwise_map.mpr
    exact (ExtTreeMap.ordered_keys_toList (t := m)).imp fun {a b} hlt => hmono a.1 b.1 hlt
  have hnodup : ∀ {l : List (κ × β)}, l.Pairwise (fun a b => cmp' a.1 b.1 = .lt) → l.Nodup := by
    intro l hl
    refine hl.imp ?_
    rintro a b hlt rfl
    have heq : cmp' a.1 a.1 = .eq := ReflCmp.compare_self
    rw [heq] at hlt
    cases hlt
  have hperm : n.toList.Perm (m.toList.map fun e => (f e.1, e.2)) := by
    refine (List.perm_ext_iff_of_nodup (hnodup hn) (hnodup hm)).mpr ?_
    rintro ⟨k, v⟩
    rw [ExtTreeMap.mem_toList_iff_getElem?_eq_some, hentries, List.mem_map]
    constructor
    · rintro ⟨a, rfl, hv⟩
      exact ⟨(a, v), ExtTreeMap.mem_toList_iff_getElem?_eq_some.mpr hv, rfl⟩
    · rintro ⟨⟨a, w⟩, hmem, heq⟩
      obtain ⟨rfl, rfl⟩ := Prod.mk.inj heq
      exact ⟨a, rfl, ExtTreeMap.mem_toList_iff_getElem?_eq_some.mp hmem⟩
  refine hperm.eq_of_pairwise ?_ hn hm
  intro a b _ _ hab hba
  exact absurd hba (OrientedCmp.not_lt_of_lt hab)

end Rekeyed

end UntitledGame.Lib.TreeMaps
