import Society.Relational.Tx

namespace Society.Relational
variable {T : Type} [Schema T]

/-! What an accepted transaction can do. A refused one changes no row, so a
postcondition speaks only of accepted runs. -/

namespace Tx
variable {W W' : List T} {ε ε' α β : Type} {s : Db T}

/-- Every accepted run of `m` from `s` ends in `Q`. -/
def wp (m : Tx W ε α) (Q : α → Db T → Prop) (s : Db T) : Prop :=
  ∀ a s',m.run s=(.ok a,s') → Q a s'

theorem wp_mono {m : Tx W ε α} {Q Q' : α → Db T → Prop} (h : wp m Q s)
    (hq : ∀ a s',Q a s' → Q' a s') : wp m Q' s := fun a s' hr => hq a s' (h a s' hr)

theorem wp_and {m : Tx W ε α} {Q R : α → Db T → Prop} (h : wp m Q s) (h' : wp m R s) :
    wp m (fun a s' => Q a s' ∧ R a s') s := fun a s' hr => ⟨h a s' hr,h' a s' hr⟩

theorem wp_frame (m : Tx W ε α) {t : T} (ht : t ∉ W) : wp m (fun _ s' => s' t=s t) s := by
  intro a s' hr
  have hf := m.frame s t ht
  rw [hr] at hf
  exact hf

theorem wp_le (m : Tx W ε α) : wp m (fun _ s' => s.Le s') s := by
  intro a s' hr
  have hg := m.grows s
  rw [hr] at hg
  exact hg

theorem wp_valid (m : Tx W ε α) (hv : s.Valid) : wp m (fun _ s' => s'.Valid) s := by
  intro a s' hr
  have hk := m.keeps s hv
  rw [hr] at hk
  exact hk

/-- All that is known of a transaction whose text is not looked at. -/
theorem wp_outside (m : Tx W ε α) (hv : s.Valid) :
    wp m (fun _ s' => (∀ t,t ∉ W → s' t=s t) ∧ s'.Valid) s :=
  fun a s' hr => ⟨fun _ ht => wp_frame m ht a s' hr,wp_valid m hv a s' hr⟩

@[simp] theorem wp_pure (a : α) (Q : α → Db T → Prop) :
    wp (pure a : Tx W ε α) Q s ↔ Q a s := by
  constructor
  · intro h; exact h a s rfl
  · intro h b s' hr; cases hr; exact h

@[simp] theorem wp_ret (a : α) (Q : α → Db T → Prop) :
    wp (ret a : Tx W ε α) Q s ↔ Q a s := wp_pure a Q

@[simp] theorem wp_raise (e : ε) (Q : α → Db T → Prop) : wp (raise e : Tx W ε α) Q s ↔ True := by
  refine iff_true_intro ?_
  intro a s' hr
  cases hr

theorem andThen_ok {m : Tx W ε α} {f : α → Tx W ε β} {b : β} {s' : Db T} :
    (andThen m f).run s=(.ok b,s') ↔
      ∃ a s₁,m.run s=(.ok a,s₁) ∧ (f a).run s₁=(.ok b,s') := by
  simp only [andThen]
  rcases hm : m.run s with ⟨_ | a,s₁⟩
  · simp
  · simp

@[simp] theorem wp_andThen (m : Tx W ε α) (f : α → Tx W ε β) (Q : β → Db T → Prop) :
    wp (andThen m f) Q s ↔ wp m (fun a s' => wp (f a) Q s') s := by
  constructor
  · intro h a s₁ hm b s' hf
    exact h b s' (andThen_ok.mpr ⟨a,s₁,hm,hf⟩)
  · intro h b s' hr
    obtain ⟨a,s₁,hm,hf⟩ := andThen_ok.mp hr
    exact h a s₁ hm b s' hf

@[simp] theorem wp_bind (m : Tx W ε α) (f : α → Tx W ε β) (Q : β → Db T → Prop) :
    wp (m >>= f) Q s ↔ wp m (fun a s' => wp (f a) Q s') s := wp_andThen m f Q

@[simp] theorem wp_read (q : Db T → α) (Q : α → Db T → Prop) :
    wp (read q : Tx W ε α) Q s ↔ Q (q s) s := by
  constructor
  · intro h; exact h _ s rfl
  · intro h b s' hr; cases hr; exact h

@[simp] theorem wp_query (q : Db T → Except ε α) (Q : α → Db T → Prop) :
    wp (query q : Tx W ε α) Q s ↔ ∀ a,q s=.ok a → Q a s := by
  constructor
  · intro h a ha; exact h a s (Prod.ext ha rfl)
  · intro h a s' hr
    obtain ⟨ha,rfl⟩ := Prod.mk.inj hr
    exact h a ha

@[simp] theorem wp_require (c : Bool) (e : ε) (Q : Unit → Db T → Prop) :
    wp (require c e : Tx W ε Unit) Q s ↔ (c=true → Q () s) := by
  cases c <;> simp [require]

@[simp] theorem wp_the (o : Option α) (e : ε) (Q : α → Db T → Prop) :
    wp (the o e : Tx W ε α) Q s ↔ ∀ a,o=some a → Q a s := by
  cases o <;> simp [the]

@[simp] theorem wp_get (t : T) (k : Id t) (e : ε) (Q : Row t → Db T → Prop) :
    wp (get t k e : Tx W ε (Row t)) Q s ↔ ∀ r,s.find t k=some r → Q r s := by
  simp [get]

@[simp] theorem wp_ite (c : Prop) [Decidable c] (m m' : Tx W ε α) (Q : α → Db T → Prop) :
    wp (if c then m else m') Q s ↔ (c → wp m Q s) ∧ (¬c → wp m' Q s) := by
  split <;> simp_all

@[simp] theorem wp_widen (m : Tx W ε α) (h : ∀ t ∈ W,t ∈ W') (Q : α → Db T → Prop) :
    wp (widen m h) Q s ↔ wp m Q s := Iff.rfl

/-- The loop rule. -/
theorem wp_each {f : α → Tx W ε Unit} {l : List α} {I : Db T → Prop}
    (hf : ∀ a ∈ l,∀ s₁,I s₁ → wp (f a) (fun _ s' => I s') s₁) (hi : I s) :
    wp (each f l) (fun _ s' => I s') s := by
  induction l generalizing s with
  | nil => simpa [each] using hi
  | cons a l ih =>
    simp only [each,wp_andThen]
    refine wp_mono (hf a List.mem_cons_self s hi) ?_
    intro _ s' hs'
    exact ih (fun b hb => hf b (List.mem_cons_of_mem a hb)) hs'

theorem wp_savepoint (m : Tx W ε α) (Q : Except ε α → Db T → Prop) :
    wp (savepoint m : Tx W ε' (Except ε α)) Q s ↔
      wp m (fun a s' => Q (.ok a) s') s ∧
        ∀ e s',m.run s=(.error e,s') → Q (.error e) (s.rollback s') := by
  constructor
  · intro h
    constructor
    · intro a s' hr
      exact h (.ok a) s' (by simp only [savepoint,hr])
    · intro e s' hr
      exact h (.error e) _ (by simp only [savepoint,hr])
  · intro h a s' hr
    simp only [savepoint] at hr
    split at hr
    · next b s₁ hb => cases hr; exact h.1 _ _ hb
    · next e s₁ hb => cases hr; exact h.2 _ _ hb

section Writes
variable [DecidableEq T]

@[simp] theorem wp_insert (t : T) (mk : Id t → Row t) (e : ε) (ht : t ∈ W)
    (hs : ∀ i,key t (mk i)=i.val) (Q : Id t → Db T → Prop) :
    wp (insert t mk e ht hs) Q s ↔
      ∀ i : Id t,i.val=(s t).next → s.admits t (mk i)=true →
        Q i (s.append t (mk i) (i.val+1)) := by
  constructor
  · intro h i hi ha
    obtain ⟨n,hn⟩ := i
    cases hi
    refine h _ _ ?_
    simp only [insert]
    rw [dif_pos hn,if_pos ha]
  · intro h a s' hr
    simp only [insert] at hr
    split at hr
    · split at hr
      · next hn ha => cases hr; exact h ⟨_,hn⟩ rfl ha
      · cases hr
    · cases hr

@[simp] theorem wp_insertUnless (t : T) (mk : Id t → Row t) (same : Row t → Row t → Bool) (e : ε)
    (ht : t ∈ W) (hs : ∀ i,key t (mk i)=i.val) (Q : Unit → Db T → Prop) :
    wp (insertUnless t mk same e ht hs) Q s ↔
      ∀ i : Id t,i.val=(s t).next →
        ((s.rows t).any (same (mk i))=true → Q () (s.draw t)) ∧
        ((s.rows t).any (same (mk i))=false → s.admits t (mk i)=true →
          Q () (s.append t (mk i) (i.val+1))) := by
  constructor
  · intro h i hi
    obtain ⟨n,hn⟩ := i
    cases hi
    constructor
    · intro hc
      refine h _ _ ?_
      simp only [insertUnless]
      rw [dif_pos hn,if_pos hc]
    · intro hc ha
      refine h _ _ ?_
      simp only [insertUnless]
      rw [dif_pos hn,if_neg (by simp [hc]),if_pos ha]
  · intro h a s' hr
    simp only [insertUnless] at hr
    split at hr
    · next hn =>
      split at hr
      · next hc => cases hr; exact (h ⟨_,hn⟩ rfl).1 hc
      · next hc =>
        split at hr
        · next ha => cases hr; exact (h ⟨_,hn⟩ rfl).2 (by simpa using hc) ha
        · cases hr
    · cases hr

@[simp] theorem wp_store (t : T) (r : Row t) (e : ε) (ht : t ∈ W) (hs : serial t=false)
    (Q : Unit → Db T → Prop) :
    wp (store t r e ht hs) Q s ↔ (s.admits t r=true → Q () (s.append t r (s t).next)) := by
  constructor
  · intro h ha
    refine h _ _ ?_
    simp only [store]
    rw [if_pos ha]
  · intro h a s' hr
    simp only [store] at hr
    split at hr
    · next ha => cases hr; exact h ha
    · cases hr

@[simp] theorem wp_updateM (t : T) (p : Row t → Bool) (f : Row t → Option (Row t)) (e : ε)
    (ht : t ∈ W) (hk : ∀ r r',f r=some r' → key t r'=key t r) (Q : Nat → Db T → Prop) :
    wp (updateM t p f e ht hk) Q s ↔
      (s.admitsModified t p f=true → Q ((s.rows t).countP p) (s.modify t p f)) := by
  constructor
  · intro h ha
    refine h _ _ ?_
    simp only [updateM]
    rw [if_pos ha]
  · intro h a s' hr
    simp only [updateM] at hr
    split at hr
    · next ha => cases hr; exact h ha
    · cases hr

@[simp] theorem wp_update (t : T) (p : Row t → Bool) (f : Row t → Row t) (e : ε) (ht : t ∈ W)
    (hk : ∀ r,key t (f r)=key t r) (Q : Nat → Db T → Prop) :
    wp (update t p f e ht hk) Q s ↔
      (s.admitsModified t p (fun r => some (f r))=true →
        Q ((s.rows t).countP p) (s.modify t p (fun r => some (f r)))) := wp_updateM ..

end Writes
end Tx
end Society.Relational
