import PositionLog.Table
import Mathlib.Data.List.Basic

/-!
# What a table holds

The names of a table that was built by insertions are in ascending order, each once.  So a table is
decided by what is found in it, and it does not matter in which order different names came in.
-/

namespace PositionLog.Table

variable {α : Type}

/-- The names are in ascending order, each once. -/
def Ascending (t : Table α) : Prop := t.entries.Pairwise fun e f => e.1 < f.1

theorem ascending_empty : ({} : Table α).Ascending := List.Pairwise.nil

theorem mem_place {k : String} {v : α} {l : List (String × α)} {e : String × α}
    (h : e ∈ place k v l) : e = (k, v) ∨ e ∈ l := by
  induction l with
  | nil => exact .inl (List.mem_singleton.mp h)
  | cons f l ih => grind [place]

theorem Ascending.insert {t : Table α} (h : t.Ascending) (k : String) (v : α) :
    (t.insert k v).Ascending := by
  obtain ⟨l⟩ := t
  change (place k v l).Pairwise fun e f => e.1 < f.1
  replace h : l.Pairwise fun e f => e.1 < f.1 := h
  induction l with
  | nil => exact List.pairwise_singleton _ _
  | cons e l ih =>
    obtain ⟨hlt, hl⟩ := List.pairwise_cons.mp h
    rw [place]
    split
    · next hk => exact List.pairwise_cons.mpr ⟨hk ▸ hlt, hl⟩
    · next hk =>
      split
      · next hbefore =>
        refine List.pairwise_cons.mpr ⟨fun f hf => ?_, h⟩
        rcases List.mem_cons.mp hf with rfl | hf
        · exact hbefore
        · exact String.lt_trans hbefore (hlt f hf)
      · next hbefore =>
        refine List.pairwise_cons.mpr ⟨fun f hf => ?_, ih hl⟩
        rcases mem_place hf with rfl | hf
        · grind
        · exact hlt f hf

theorem Ascending.merge {t : Table α} (h : t.Ascending) (u : Table α) : (t.merge u).Ascending := by
  obtain ⟨l⟩ := u
  rw [Table.merge]
  induction l generalizing t with
  | nil => exact h
  | cons e l ih => exact ih (h.insert e.1 e.2)

theorem Ascending.erase {t : Table α} (h : t.Ascending) (k : String) : (t.erase k).Ascending :=
  h.filter _

/-- A name that comes before all others is not among them. -/
theorem lookup_eq_none {k : String} {l : List (String × α)} (h : ∀ e ∈ l, k < e.1) :
    lookup k l = none := by
  induction l with
  | nil => rfl
  | cons e l ih =>
    obtain ⟨he, hl⟩ := List.forall_mem_cons.mp h
    have hne : k ≠ e.1 := fun heq => String.lt_irrefl k (heq ▸ he)
    rw [lookup, if_neg hne, ih hl]

/-- A name stands for the entry that has it. -/
theorem Ascending.mem_entries {t : Table α} (h : t.Ascending) {k : String} {v : α} :
    (k, v) ∈ t.entries ↔ t.get? k = some v := by
  obtain ⟨l⟩ := t
  change (k, v) ∈ l ↔ lookup k l = some v
  replace h : l.Pairwise fun e f => e.1 < f.1 := h
  induction l with
  | nil => simp [lookup]
  | cons e l ih =>
    obtain ⟨hlt, hl⟩ := List.pairwise_cons.mp h
    have ih : (k, v) ∈ l ↔ lookup k l = some v := ih hl
    rw [lookup, List.mem_cons, ih]
    split
    · next hk =>
      subst hk
      simp [Prod.ext_iff, lookup_eq_none hlt, eq_comm]
    · next hk => simp [Prod.ext_iff, hk]

/-- Tables in which the same is found are the same. -/
theorem Ascending.ext {t u : Table α} (ht : t.Ascending) (hu : u.Ascending)
    (h : ∀ k, t.get? k = u.get? k) : t = u := by
  have nodup {t : Table α} (h : t.Ascending) : t.entries.Nodup := by
    refine List.Pairwise.imp (fun {e f} hlt heq => ?_) h
    exact String.lt_irrefl f.1 (heq ▸ hlt)
  have hperm : t.entries.Perm u.entries := by
    refine (List.perm_ext_iff_of_nodup (nodup ht) (nodup hu)).mpr fun e => ?_
    rw [ht.mem_entries, hu.mem_entries, h]
  have hentries : t.entries = u.entries :=
    hperm.eq_of_pairwise (fun e f _ _ hef hfe => absurd hfe (String.lt_asymm hef)) ht hu
  exact congrArg mk hentries

/-- What is merged into a table takes the place of what was there. -/
theorem get?_merge (t : Table α) {u : Table α} (h : u.Ascending) (k : String) :
    (t.merge u).get? k = (u.get? k).or (t.get? k) := by
  obtain ⟨l⟩ := u
  change (l.foldl (fun t e => t.insert e.1 e.2) t).get? k = (lookup k l).or (t.get? k)
  replace h : l.Pairwise fun e f => e.1 < f.1 := h
  induction l generalizing t with
  | nil => rfl
  | cons e l ih =>
    obtain ⟨hlt, hl⟩ := List.pairwise_cons.mp h
    rw [List.foldl_cons, ih _ hl, get?_insert, lookup]
    split
    · next hk =>
      subst hk
      rw [lookup_eq_none hlt]
      rfl
    · rfl

theorem get?_erase (t : Table α) (k k' : String) :
    (t.erase k).get? k' = if k' = k then none else t.get? k' := by
  obtain ⟨l⟩ := t
  change lookup k' (l.filter (·.1 ≠ k)) = if k' = k then none else lookup k' l
  induction l with
  | nil => simp [lookup]
  | cons e l ih => grind [lookup]

end PositionLog.Table
