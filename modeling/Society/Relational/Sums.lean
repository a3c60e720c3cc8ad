import Society.Relational.Lookup

namespace Society.Relational
variable {T : Type} [Schema T]

/-! Totals over the rows of a table, and loops that move them row by row. -/

namespace Db
variable {s s' : Db T} {t u : T} {f g : Row t → Nat}

/-- The total of a column. -/
def sum (s : Db T) (t : T) (f : Row t → Nat) : Nat := ((s.rows t).map f).sum

theorem sum_rows (h : s'.rows t=s.rows t) : s'.sum t f=s.sum t f := by rw [sum,h,sum]

theorem sum_congr (h : ∀ r ∈ s.rows t,f r=g r) : s.sum t f=s.sum t g := by
  rw [sum,sum,List.map_congr_left h]

theorem sum_zero (h : ∀ r ∈ s.rows t,f r=0) : s.sum t f=0 := by
  rw [sum,List.map_congr_left h]
  simp

theorem le_sum {r : Row t} (hr : r ∈ s.rows t) : f r ≤ s.sum t f := by
  obtain ⟨l₁,l₂,hs⟩ := List.append_of_mem hr
  simp only [sum,hs,List.map_append,List.map_cons,List.sum_append,List.sum_cons]
  omega

/-- One row of a serial table changes its share of the total. -/
theorem Valid.sum_change (hv : s.Valid) (ht : serial t=true) {k : Id t} {r : Row t}
    (hr : s.find t k=some r) (h : ∀ q ∈ s.rows t,key t q≠k.val → f q=g q) :
    s.sum t f+g r=s.sum t g+f r := by
  have hk := find_key hr
  obtain ⟨l₁,l₂,hs,h₁,h₂⟩ := hv.split ht (find_mem hr)
  have hl₁ : l₁.map f=l₁.map g := by
    refine List.map_congr_left (fun q hq => h q (by simp [hs,hq]) ?_)
    have := h₁ q hq
    omega
  have hl₂ : l₂.map f=l₂.map g := by
    refine List.map_congr_left (fun q hq => h q (by simp [hs,hq]) ?_)
    have := h₂ q hq
    omega
  simp only [sum,hs,List.map_append,List.map_cons,List.sum_append,List.sum_cons,hl₁,hl₂]
  omega

variable [DecidableEq T]

@[simp] theorem sum_append {r : Row t} {n : Nat} : (s.append t r n).sum t f=s.sum t f+f r := by
  simp [sum,rows]

@[simp] theorem sum_append_ne {r : Row u} {n : Nat} (h : t≠u) :
    (s.append u r n).sum t f=s.sum t f := sum_rows (by simp [rows,h])

end Db

namespace Tx
variable {W : List T} {ε α : Type} {s : Db T}

/-- The loop rule with the elements that are done. -/
theorem wp_each_from {f : α → Tx W ε Unit} {l : List α} {I : List α → Db T → Prop}
    (hi : I [] s) (hf : ∀ done a rest,l=done++a::rest → ∀ s₁,I done s₁ →
      wp (f a) (fun _ s' => I (done++[a]) s') s₁) : wp (each f l) (fun _ s' => I l s') s := by
  have hgen : ∀ rest done s₁,l=done++rest → I done s₁ → wp (each f rest) (fun _ s' => I l s') s₁ := by
    intro rest
    induction rest with
    | nil =>
      intro done s₁ hl h₁
      rw [List.append_nil] at hl
      subst hl
      simpa [each] using h₁
    | cons a rest ih =>
      intro done s₁ hl h₁
      simp only [each,wp_andThen]
      refine wp_mono (hf done a rest hl s₁ h₁) ?_
      intro _ s₂ h₂
      exact ih (done++[a]) s₂ (by simp [hl]) h₂
  exact hgen l [] s rfl hi

end Tx
end Society.Relational
