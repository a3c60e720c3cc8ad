import Mathlib.Order.Interval.Finset.Nat
import Society.Relational.Sums

namespace Society.Relational

/-- Different numbers from 1 to `k` are all of them exactly if there are `k` of them. -/
theorem full_iff {l : List Nat} {k : Nat} (hl : l.Nodup) (h : ∀ n ∈ l,1≤n ∧ n≤k) :
    (∀ n,1≤n → n≤k → n ∈ l) ↔ l.length=k := by
  have hsub : l.toFinset ⊆ Finset.Icc 1 k := by
    intro n hn
    exact Finset.mem_Icc.mpr (h n (List.mem_toFinset.mp hn))
  have hcard : (Finset.Icc 1 k).card=k := by simp
  rw [← List.toFinset_card_of_nodup hl]
  constructor
  · intro hall
    have heq : l.toFinset=Finset.Icc 1 k := by
      refine hsub.antisymm (fun n hn => ?_)
      obtain ⟨h₁,h₂⟩ := Finset.mem_Icc.mp hn
      exact List.mem_toFinset.mpr (hall n h₁ h₂)
    rw [heq,hcard]
  · intro hlen n h₁ h₂
    have heq := Finset.eq_of_subset_of_card_le hsub (by rw [hcard,hlen])
    exact List.mem_toFinset.mp (heq ▸ Finset.mem_Icc.mpr ⟨h₁,h₂⟩)

namespace Db
variable {T : Type} [Schema T] {s s' : Db T} {t u : T} {p q : Row t → Bool}

/-! Rows as members of a table, and how many of them there are. -/

/-- How many rows satisfy `p`. -/
def count (s : Db T) (t : T) (p : Row t → Bool) : Nat := (s.rows t).countP p

theorem count_rows (h : s'.rows t=s.rows t) : s'.count t p=s.count t p := by rw [count,h,count]

theorem modified_rows {f : Row t → Option (Row t)} (h : s'.rows t=s.rows t) :
    s'.modified t p f=s.modified t p f := by
  rw [modified,h,modified]

theorem count_congr (h : ∀ r ∈ s.rows t,p r=q r) : s.count t p=s.count t q := by
  refine List.countP_congr (fun r hr => ?_)
  rw [h r hr]

theorem count_zero (h : ∀ r ∈ s.rows t,p r=false) : s.count t p=0 := by
  refine List.countP_eq_zero.mpr (fun r hr => ?_)
  rw [h r hr]
  decide

variable [DecidableEq T]

@[simp] theorem mem_append {r a : Row t} {n : Nat} :
    a ∈ (s.append t r n).rows t ↔ a ∈ s.rows t ∨ a=r := by
  simp [rows]

@[simp] theorem rows_append_ne {r : Row t} {n : Nat} (h : u≠t) : (s.append t r n).rows u=s.rows u := by
  rw [rows,append_ne _ _ _ h,rows]

@[simp] theorem rows_modify_ne {f : Row t → Option (Row t)} (h : u≠t) :
    (s.modify t p f).rows u=s.rows u := by
  rw [rows,modify_ne _ _ _ h,rows]

/-- The rows after an update. -/
theorem mem_update {g : Row t → Row t} {a : Row t} :
    a ∈ (s.modify t p (fun r => some (g r))).rows t ↔ ∃ r ∈ s.rows t,(if p r then g r else r)=a := by
  rw [rows,modify_same,modified,List.mem_map]
  rfl

@[simp] theorem count_append {r : Row t} {n : Nat} :
    (s.append t r n).count t p=s.count t p+(if p r then 1 else 0) := by
  rw [count,rows,append_same,List.countP_append,List.countP_singleton,count]

/-- An update that does not touch what is counted. -/
theorem count_update (g : Row t → Row t) (h : ∀ r,q (g r)=q r) :
    (s.modify t p (fun r => some (g r))).count t q=s.count t q := by
  rw [count,rows,modify_same,modified,List.countP_map,count]
  refine List.countP_congr (fun r _ => ?_)
  by_cases hp : p r=true <;> simp [hp,h]

theorem sum_modify (g : Row t → Row t) {f : Row t → Nat} :
    (s.modify t p (fun r => some (g r))).sum t f=s.sum t (fun r => f (if p r then g r else r)) := by
  rw [sum,rows,modify_same,modified,List.map_map,sum]
  rfl

/-- `I` depends on the rows of the tables of `D` only. -/
def ReadsOnly (D : List T) (I : Db T → Prop) : Prop :=
  ∀ s s' : Db T,(∀ t ∈ D,s'.rows t=s.rows t) → I s → I s'

variable {D : List T} {I : Db T → Prop}

theorem ReadsOnly.append (h : ReadsOnly D I) (ht : t ∉ D) {r : Row t} {n : Nat} (hs : I s) :
    I (s.append t r n) := by
  refine h s _ (fun u hu => rows_append_ne ?_) hs
  intro he
  exact ht (he ▸ hu)

theorem ReadsOnly.modify (h : ReadsOnly D I) (ht : t ∉ D) {f : Row t → Option (Row t)} (hs : I s) :
    I (s.modify t p f) := by
  refine h s _ (fun u hu => rows_modify_ne ?_) hs
  intro he
  exact ht (he ▸ hu)

theorem ReadsOnly.mono {D' : List T} (h : ReadsOnly D I) (hd : ∀ t ∈ D,t ∈ D') : ReadsOnly D' I :=
  fun s s' hs => h s s' (fun t ht => hs t (hd t ht))

theorem ReadsOnly.and {J : Db T → Prop} (h : ReadsOnly D I) (h' : ReadsOnly D J) :
    ReadsOnly D (fun s => I s ∧ J s) :=
  fun s s' hs hi => ⟨h s s' hs hi.1,h' s s' hs hi.2⟩

/-- A transaction that writes none of the tables. -/
theorem rows_outside {W : List T} {ε α : Type} (m : Tx W ε α) (hd : ∀ t ∈ D,t ∉ W) :
    Tx.wp m (fun _ s' => ∀ t ∈ D,s'.rows t=s.rows t) s := by
  intro a s' hr t ht
  have hf : s' t=s t := Tx.wp_frame m (hd t ht) a s' hr
  rw [rows,hf,rows]

theorem ReadsOnly.outside {W : List T} {ε α : Type} (h : ReadsOnly D I) (m : Tx W ε α)
    (hd : ∀ t ∈ D,t ∉ W) (hs : I s) : Tx.wp m (fun _ s' => I s') s :=
  Tx.wp_mono (rows_outside m hd) (fun _ s' hr => h s s' hr hs)

end Db
end Society.Relational
