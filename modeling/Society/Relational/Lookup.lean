import Society.Relational.Rows

namespace Society.Relational
namespace Db
variable {T : Type} [Schema T] {s s' s'' : Db T} {t u : T}

/-! Tables as maps from identities to rows, and what single writes do to them. -/

/-- `t` is the same table in both states, row by row. -/
def Same (s s' : Db T) (t : T) : Prop := ∀ j,s'.find t j=s.find t j

theorem Same.of_eq (h : s' t=s t) : Same s s' t := fun j => by rw [find,find,rows,rows,h]

theorem find_none {k : Id t} : s.find t k=none ↔ ∀ r ∈ s.rows t,key t r≠k.val := by
  simp [find]

/-- The next identity is not in use. -/
theorem Valid.find_fresh (hv : s.Valid) (ht : serial t=true) {i : Id t} (hi : i.val=(s t).next) :
    s.find t i=none := by
  refine find_none.mpr (fun r hr => ?_)
  have := hv.fresh t ht r hr
  omega

theorem Valid.find_iff (hv : s.Valid) (ht : serial t=true) {k : Id t} {r : Row t} :
    s.find t k=some r ↔ r ∈ s.rows t ∧ key t r=k.val :=
  ⟨fun h => ⟨find_mem h,find_key h⟩,fun h => hv.find_eq ht h.1 h.2⟩

/-- Rows that violate a unique constraint together are one row. -/
theorem Valid.exclusive (hv : s.Valid) (hsymm : ∀ a b : Row t,conflict t a b=conflict t b a)
    {a b : Row t} (ha : a ∈ s.rows t) (hb : b ∈ s.rows t) (hc : conflict t a b=true) : a=b := by
  by_contra hne
  rw [hv.no_conflict hsymm ha hb hne] at hc
  cases hc

theorem has_find {k : Id t} : s.has t k.val=true ↔ ∃ r,s.find t k=some r := by
  rw [has_iff]
  constructor
  · rintro ⟨r,hr,hk⟩
    cases hf : s.find t k with
    | some q => exact ⟨q,rfl⟩
    | none => exact absurd hk (find_none.mp hf r hr)
  · rintro ⟨r,hr⟩
    exact ⟨r,find_mem hr,find_key hr⟩

variable [DecidableEq T]

/-- `s'` is `s` with the row `r` under the identity `k` of `t`. -/
def Sets (s s' : Db T) (t : T) (k : Id t) (r : Row t) : Prop :=
  ∀ j,s'.find t j=if j=k then some r else s.find t j

@[simp] theorem find_append_ne {r : Row t} {n : Nat} {k : Id u} (h : u≠t) :
    (s.append t r n).find u k=s.find u k := by
  rw [find,rows,append_ne _ _ _ h,find]

@[simp] theorem find_modify_ne {p : Row t → Bool} {f : Row t → Option (Row t)} {k : Id u}
    (h : u≠t) : (s.modify t p f).find u k=s.find u k := by
  rw [find,rows,modify_ne _ _ _ h,find]

@[simp] theorem has_append_ne {r : Row t} {n k : Nat} (h : u≠t) : (s.append t r n).has u k=s.has u k := by
  rw [has,rows,append_ne _ _ _ h,has]

@[simp] theorem has_modify_ne {p : Row t → Bool} {f : Row t → Option (Row t)} {k : Nat} (h : u≠t) :
    (s.modify t p f).has u k=s.has u k := by
  rw [has,rows,modify_ne _ _ _ h,has]

@[simp] theorem has_append {r : Row t} {n k : Nat} :
    (s.append t r n).has t k=(s.has t k || key t r==k) := by
  rw [has,rows,append_same,List.any_append,has]
  simp

/-- A row under an unused identity. -/
theorem find_append {r : Row t} {n : Nat} {i j : Id t} (hn : s.find t i=none)
    (hr : key t r=i.val) : (s.append t r n).find t j=if j=i then some r else s.find t j := by
  rw [find,rows,append_same,List.find?_append]
  by_cases hj : j=i
  · subst hj
    have hnone : (s.rows t).find? (fun q => key t q==j.val)=none := hn
    rw [if_pos rfl,hnone]
    simp [hr]
  · have hne : key t r≠j.val := fun he => hj (Id.ext (he.symm.trans hr))
    rw [if_neg hj]
    simp [hne,find]

/-- An update by identity. -/
theorem find_update {p : Row t → Bool} {g : Row t → Row t} {j k : Id t}
    (hp : ∀ q,p q=true ↔ key t q=k.val) (hg : ∀ q,key t (g q)=key t q) :
    (s.modify t p (fun q => some (g q))).find t j=
      if j=k then (s.find t k).map g else s.find t j := by
  rw [find_modify (by rintro q _ ⟨⟩; exact hg q)]
  by_cases hj : j=k
  · subst hj
    rw [if_pos rfl]
    cases hf : s.find t j with
    | none => rfl
    | some q => simp [(hp q).mpr (find_key hf)]
  · rw [if_neg hj]
    cases hf : s.find t j with
    | none => rfl
    | some q =>
      have hne : p q=false := by
        rw [Bool.eq_false_iff]
        exact fun h => hj (Id.ext ((find_key hf).symm.trans ((hp q).mp h)))
      simp [hne]

/-- An update by identity, seen through a view of the rows. -/
theorem view_update {β : Type} {p : Row t → Bool} {g : Row t → Row t} {k : Id t} (v : Row t → β)
    (f : β → β) (hp : ∀ q,p q=true ↔ key t q=k.val) (hg : ∀ q,key t (g q)=key t q)
    (hv : ∀ q,v (g q)=f (v q)) :
    (fun j => ((s.modify t p (fun q => some (g q))).find t j).map v)=
      Function.update (fun j => (s.find t j).map v) k (((s.find t k).map v).map f) := by
  funext j
  rw [find_update hp hg,Function.update_apply]
  split
  · simp [Function.comp_def,hv]
  · rfl

/-- A new row, seen through a view of the rows. -/
theorem view_append {β : Type} {r : Row t} {n : Nat} {i : Id t} (v : Row t → β)
    (hn : s.find t i=none) (hr : key t r=i.val) :
    (fun j => ((s.append t r n).find t j).map v)=
      Function.update (fun j => (s.find t j).map v) i (some (v r)) := by
  funext j
  rw [find_append hn hr,Function.update_apply]
  split <;> rfl

theorem sets_update {p : Row t → Bool} {g : Row t → Row t} {k : Id t} {q : Row t}
    (hp : ∀ q,p q=true ↔ key t q=k.val) (hg : ∀ q,key t (g q)=key t q)
    (hq : s.find t k=some q) : Sets s (s.modify t p (fun q => some (g q))) t k (g q) := by
  intro j
  rw [find_update hp hg,hq,Option.map_some]

end Db
end Society.Relational
