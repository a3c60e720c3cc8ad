import Mathlib.Data.List.Pairwise
import Society.Relational.Wp

namespace Society.Relational
namespace Db
variable {T : Type} [Schema T] {s : Db T} {t : T} {p : Row t → Bool} {f : Row t → Option (Row t)}

/-! Single rows: what they refer to, and their updates. -/

/-- A foreign key leads to a row. -/
theorem Valid.target (hv : s.Valid) {r : Row t} (hr : r ∈ s.rows t) {u : T} {k : Nat}
    (h : (u,k) ∈ refs t r) : ∃ q ∈ s.rows u,key u q=k :=
  has_iff.mp (List.all_eq_true.mp (hv.linked t r hr) (u,k) h)

theorem Valid.target_lt (hv : s.Valid) {r : Row t} (hr : r ∈ s.rows t) {u : T} {k : Nat}
    (hu : serial u=true) (h : (u,k) ∈ refs t r) : k<(s u).next := by
  obtain ⟨q,hq,rfl⟩ := hv.target hr h
  exact hv.fresh u hu q hq

theorem Valid.find_target (hv : s.Valid) {r : Row t} (hr : r ∈ s.rows t) {u : T} {k : Id u}
    (hu : serial u=true) (h : (u,k.val) ∈ refs t r) : ∃ q,s.find u k=some q := by
  obtain ⟨q,hq,hk⟩ := hv.target hr h
  exact ⟨q,hv.find_eq hu hq hk⟩

theorem map_untouched {l : List (Row t)} (h : ∀ a ∈ l,p a=false) :
    l.map (fun a => if p a then (f a).getD a else a)=l := by
  refine List.map_congr_left (g := id) ?_ |>.trans (List.map_id l)
  intro a ha
  simp [h a ha]

/-- An update that matches one row replaces it where it stands. -/
theorem modified_split {l₁ l₂ : List (Row t)} {r : Row t} (hs : s.rows t=l₁++r::l₂)
    (hr : p r=true) (h₁ : ∀ a ∈ l₁,p a=false) (h₂ : ∀ a ∈ l₂,p a=false) :
    s.modified t p f=l₁++(f r).getD r::l₂ := by
  unfold modified
  rw [hs,List.map_append,List.map_cons,map_untouched h₁,map_untouched h₂,if_pos hr]

/-- An update keeps keys, so it leads from a row to its new version. -/
theorem find_modify [DecidableEq T] {k : Id t} (hk : ∀ r r',f r=some r' → key t r'=key t r) :
    (s.modify t p f).find t k=(s.find t k).map (fun r => if p r then (f r).getD r else r) := by
  have hkey (r : Row t) : key t (if p r then (f r).getD r else r)=key t r := by
    split
    · cases hf : f r with
      | none => rfl
      | some r' => exact hk r r' hf
    · rfl
  rw [find,rows,modify_same,modified,List.find?_map,find]
  simp only [Function.comp_def,hkey]

/-- The rows around one row of a serial table. -/
theorem Valid.split (hv : s.Valid) (ht : serial t=true) {r : Row t} (hr : r ∈ s.rows t) :
    ∃ l₁ l₂,s.rows t=l₁++r::l₂ ∧ (∀ a ∈ l₁,key t a<key t r) ∧ ∀ a ∈ l₂,key t r<key t a := by
  obtain ⟨l₁,l₂,hs⟩ := List.append_of_mem hr
  have ho := hv.ordered t ht
  rw [hs,List.pairwise_append,List.pairwise_cons] at ho
  exact ⟨l₁,l₂,hs,fun a ha => ho.2.2 a ha r List.mem_cons_self,ho.2.1.1⟩

/-- Two different rows satisfy the unique constraints. -/
theorem Valid.no_conflict (hv : s.Valid) (hsymm : ∀ a b : Row t,conflict t a b=conflict t b a)
    {a b : Row t} (ha : a ∈ s.rows t) (hb : b ∈ s.rows t) (hne : a≠b) : conflict t a b=false := by
  have : Std.Symm (fun a b : Row t => conflict t a b=false) :=
    ⟨fun a b h => (hsymm b a).trans h⟩
  exact (hv.unique t).forall ha hb hne

/-- An update that leaves the unique columns alone is refused by row checks and foreign
keys only. -/
theorem Valid.admits_update (hv : s.Valid) {g : Row t → Row t}
    (hsymm : ∀ a b : Row t,conflict t a b=conflict t b a)
    (hsame : ∀ a b : Row t,conflict t (g a) b=conflict t a b)
    (hc : ∀ r ∈ s.rows t,p r=true → check t (g r)=true)
    (hl : ∀ r ∈ s.rows t,p r=true → s.linked t (g r)=true) :
    s.admitsModified t p (fun r => some (g r))=true := by
  refine admitsModified_iff.mpr ⟨?_,?_⟩
  · intro r hr hp
    refine ⟨g r,rfl,hc r hr hp,hl r hr hp,fun a ha hpa => ?_⟩
    have hne : a≠r := by
      rintro rfl
      rw [hp] at hpa
      cases hpa
    have h := hv.no_conflict hsymm ha hr hne
    rw [hsymm a,hsame,hsymm r]
    exact ⟨h,h⟩
  · rw [List.filterMap_eq_map',List.pairwise_map]
    refine ((hv.unique t).filter p).imp ?_
    intro a b hab
    rw [hsame,hsymm,hsame,hsymm]
    exact hab

end Db
end Society.Relational
