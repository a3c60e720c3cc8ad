import Society.Relational.Wp

namespace Society.Relational
variable {T : Type} [Schema T]

/-! When a transaction is accepted. `total` also promises the acceptance that `wp` assumes. -/

namespace Tx
variable {W W' : List T} {ε ε' α β : Type} {s : Db T}

def total (m : Tx W ε α) (Q : α → Db T → Prop) (s : Db T) : Prop :=
  ∃ a s',m.run s=(.ok a,s') ∧ Q a s'

theorem total_mono {m : Tx W ε α} {Q Q' : α → Db T → Prop} (h : total m Q s)
    (hq : ∀ a s',Q a s' → Q' a s') : total m Q' s := by
  obtain ⟨a,s',hr,ha⟩ := h
  exact ⟨a,s',hr,hq a s' ha⟩

/-- What is accepted satisfies every postcondition of accepted runs. -/
theorem total_and {m : Tx W ε α} {Q Q' : α → Db T → Prop} (h : total m Q s) (h' : wp m Q' s) :
    total m (fun a s' => Q a s' ∧ Q' a s') s := by
  obtain ⟨a,s',hr,ha⟩ := h
  exact ⟨a,s',hr,ha,h' a s' hr⟩

theorem wp_of_total {m : Tx W ε α} {Q : α → Db T → Prop} (h : total m Q s) : wp m Q s := by
  obtain ⟨a,s',hr,ha⟩ := h
  intro b s₁ hb
  rw [hr] at hb
  cases hb
  exact ha

@[simp] theorem total_pure (a : α) (Q : α → Db T → Prop) :
    total (pure a : Tx W ε α) Q s ↔ Q a s := by
  constructor
  · rintro ⟨b,s',hr,hb⟩; cases hr; exact hb
  · intro h; exact ⟨a,s,rfl,h⟩

@[simp] theorem total_ret (a : α) (Q : α → Db T → Prop) :
    total (ret a : Tx W ε α) Q s ↔ Q a s := total_pure a Q

@[simp] theorem total_raise (e : ε) (Q : α → Db T → Prop) :
    total (raise e : Tx W ε α) Q s ↔ False := by
  refine iff_false_intro ?_
  rintro ⟨a,s',hr,_⟩
  cases hr

@[simp] theorem total_andThen (m : Tx W ε α) (f : α → Tx W ε β) (Q : β → Db T → Prop) :
    total (andThen m f) Q s ↔ total m (fun a s' => total (f a) Q s') s := by
  constructor
  · rintro ⟨b,s',hr,hb⟩
    obtain ⟨a,s₁,hm,hf⟩ := andThen_ok.mp hr
    exact ⟨a,s₁,hm,b,s',hf,hb⟩
  · rintro ⟨a,s₁,hm,b,s',hf,hb⟩
    exact ⟨b,s',andThen_ok.mpr ⟨a,s₁,hm,hf⟩,hb⟩

@[simp] theorem total_bind (m : Tx W ε α) (f : α → Tx W ε β) (Q : β → Db T → Prop) :
    total (m >>= f) Q s ↔ total m (fun a s' => total (f a) Q s') s := total_andThen m f Q

@[simp] theorem total_read (q : Db T → α) (Q : α → Db T → Prop) :
    total (read q : Tx W ε α) Q s ↔ Q (q s) s := by
  constructor
  · rintro ⟨b,s',hr,hb⟩; cases hr; exact hb
  · intro h; exact ⟨q s,s,rfl,h⟩

@[simp] theorem total_query (q : Db T → Except ε α) (Q : α → Db T → Prop) :
    total (query q : Tx W ε α) Q s ↔ ∃ a,q s=.ok a ∧ Q a s := by
  constructor
  · rintro ⟨b,s',hr,hb⟩
    obtain ⟨hq,rfl⟩ := Prod.mk.inj hr
    exact ⟨b,hq,hb⟩
  · rintro ⟨a,hq,ha⟩
    exact ⟨a,s,Prod.ext hq rfl,ha⟩

@[simp] theorem total_require (c : Bool) (e : ε) (Q : Unit → Db T → Prop) :
    total (require c e : Tx W ε Unit) Q s ↔ c=true ∧ Q () s := by
  cases c <;> simp [require]

@[simp] theorem total_the (o : Option α) (e : ε) (Q : α → Db T → Prop) :
    total (the o e : Tx W ε α) Q s ↔ ∃ a,o=some a ∧ Q a s := by
  cases o <;> simp [the]

@[simp] theorem total_get (t : T) (k : Id t) (e : ε) (Q : Row t → Db T → Prop) :
    total (get t k e : Tx W ε (Row t)) Q s ↔ ∃ r,s.find t k=some r ∧ Q r s := by
  simp [get]

@[simp] theorem total_ite (c : Prop) [Decidable c] (m m' : Tx W ε α) (Q : α → Db T → Prop) :
    total (if c then m else m') Q s ↔ (c → total m Q s) ∧ (¬c → total m' Q s) := by
  split <;> simp_all

@[simp] theorem total_widen (m : Tx W ε α) (h : ∀ t ∈ W,t ∈ W') (Q : α → Db T → Prop) :
    total (widen m h) Q s ↔ total m Q s := Iff.rfl

/-- A savepoint never refuses. -/
theorem total_savepoint (m : Tx W ε α) (Q : Except ε α → Db T → Prop) :
    total (savepoint m : Tx W ε' (Except ε α)) Q s ↔
      wp m (fun a s' => Q (.ok a) s') s ∧
        ∀ e s',m.run s=(.error e,s') → Q (.error e) (s.rollback s') := by
  have hwp : wp (savepoint m : Tx W ε' (Except ε α)) Q s ↔ _ := wp_savepoint m Q
  rw [← hwp]
  refine ⟨wp_of_total,fun h => ?_⟩
  rcases hr : (savepoint m : Tx W ε' (Except ε α)).run s with ⟨e | a,s'⟩
  · simp only [savepoint] at hr
    split at hr <;> cases hr
  · exact ⟨a,s',hr,h a s' hr⟩

section Writes
variable [DecidableEq T]

@[simp] theorem total_insert (t : T) (mk : Id t → Row t) (e : ε) (ht : t ∈ W)
    (hs : ∀ i,key t (mk i)=i.val) (Q : Id t → Db T → Prop) :
    total (insert t mk e ht hs) Q s ↔
      ∃ i : Id t,i.val=(s t).next ∧ s.admits t (mk i)=true ∧
        Q i (s.append t (mk i) (i.val+1)) := by
  constructor
  · rintro ⟨a,s',hr,ha⟩
    simp only [insert] at hr
    split at hr
    · split at hr
      · next hn hadm => cases hr; exact ⟨⟨_,hn⟩,rfl,hadm,ha⟩
      · cases hr
    · cases hr
  · rintro ⟨⟨n,hn⟩,hi,ha,hq⟩
    cases hi
    refine ⟨_,_,?_,hq⟩
    simp only [insert]
    rw [dif_pos hn,if_pos ha]

@[simp] theorem total_store (t : T) (r : Row t) (e : ε) (ht : t ∈ W) (hs : serial t=false)
    (Q : Unit → Db T → Prop) :
    total (store t r e ht hs) Q s ↔ s.admits t r=true ∧ Q () (s.append t r (s t).next) := by
  constructor
  · rintro ⟨a,s',hr,ha⟩
    simp only [store] at hr
    split at hr
    · next hadm => cases hr; exact ⟨hadm,ha⟩
    · cases hr
  · rintro ⟨hadm,hq⟩
    refine ⟨_,_,?_,hq⟩
    simp only [store]
    rw [if_pos hadm]

@[simp] theorem total_updateM (t : T) (p : Row t → Bool) (f : Row t → Option (Row t)) (e : ε)
    (ht : t ∈ W) (hk : ∀ r r',f r=some r' → key t r'=key t r) (Q : Nat → Db T → Prop) :
    total (updateM t p f e ht hk) Q s ↔
      s.admitsModified t p f=true ∧ Q ((s.rows t).countP p) (s.modify t p f) := by
  constructor
  · rintro ⟨a,s',hr,ha⟩
    simp only [updateM] at hr
    split at hr
    · next hadm => cases hr; exact ⟨hadm,ha⟩
    · cases hr
  · rintro ⟨hadm,hq⟩
    refine ⟨_,_,?_,hq⟩
    simp only [updateM]
    rw [if_pos hadm]

@[simp] theorem total_update (t : T) (p : Row t → Bool) (f : Row t → Row t) (e : ε) (ht : t ∈ W)
    (hk : ∀ r,key t (f r)=key t r) (Q : Nat → Db T → Prop) :
    total (update t p f e ht hk) Q s ↔
      s.admitsModified t p (fun r => some (f r))=true ∧
        Q ((s.rows t).countP p) (s.modify t p (fun r => some (f r))) := total_updateM ..

end Writes
end Tx
end Society.Relational
