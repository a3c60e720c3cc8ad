import Mathlib.Order.Defs.Unbundled
import Society.Handler

namespace Society.Stateful.Handler
variable {σ ε α β : Type} {R : σ → σ → Prop}

/-! Calls that keep the object within a relation of what it was, whatever they answer. -/

structure Keeps (R : σ → σ → Prop) (m : Handler σ ε α) : Prop where
  run : ∀ s,wp m (fun _ t => R s t) (fun _ t => R s t) s

theorem Keeps.modify {f : σ → σ} (hf : ∀ s,R s (f s)) : Keeps R (modify f : Handler σ ε Unit) := ⟨hf⟩

theorem Keeps.attempt {m : Handler σ ε α} (hm : Keeps R m) : Keeps R (attempt m) :=
  ⟨fun s => (wp_attempt m).mpr (hm.run s)⟩

theorem Keeps.ite {p : Prop} [Decidable p] {m n : Handler σ ε α} (hm : Keeps R m) (hn : Keeps R n) :
    Keeps R (if p then m else n) := by
  split
  · exact hm
  · exact hn

theorem Keeps.bind [IsTrans σ R] {m : Handler σ ε α} {f : α → Handler σ ε β} (hm : Keeps R m)
    (hf : ∀ a,Keeps R (f a)) : Keeps R (m>>=f) := by
  refine ⟨fun s => (wp_bind ..).mpr (wp_mono (fun a t h => ?_) (fun _ _ h => h) (hm.run s))⟩
  exact wp_mono (fun _ _ h' => trans_of R h h') (fun _ _ h' => trans_of R h h') ((hf a).run t)

/-- What a call establishes outlives the calls after it that keep the relation. -/
theorem Keeps.after {P : σ → Prop} {m : Handler σ ε α} {f : α → Handler σ ε β} {s : σ}
    (hP : ∀ s t,R s t → P s → P t) (hm : wp m (fun _ => P) (fun _ => P) s)
    (hf : ∀ a,Keeps R (f a)) : wp (m>>=f) (fun _ => P) (fun _ => P) s := by
  refine (wp_bind ..).mpr (wp_mono (fun a t h => ?_) (fun _ _ h => h) hm)
  exact wp_mono (fun _ u hr => hP t u hr h) (fun _ u hr => hP t u hr h) ((hf a).run t)

section Refl
variable [Std.Refl R]

theorem Keeps.pure (a : α) : Keeps R (Pure.pure a : Handler σ ε α) := ⟨fun s => refl_of R s⟩

theorem Keeps.fail (e : ε) : Keeps R (fail e : Handler σ ε α) := ⟨fun s => refl_of R s⟩

theorem Keeps.get : Keeps R (get : Handler σ ε σ) := ⟨fun s => refl_of R s⟩

theorem Keeps.ensure (p : Prop) [Decidable p] (e : ε) : Keeps R (ensure p e : Handler σ ε Unit) :=
  ⟨fun s => (wp_ensure p e).mpr ⟨fun _ => refl_of R s,fun _ => refl_of R s⟩⟩

theorem Keeps.lift (r : Except ε α) : Keeps R (lift r : Handler σ ε α) :=
  ⟨fun s => (wp_lift r).mpr ⟨fun _ _ => refl_of R s,fun _ _ => refl_of R s⟩⟩

theorem Keeps.when {p : Prop} [Decidable p] {m : Handler σ ε Unit} (hm : Keeps R m) :
    Keeps R (when p m) :=
  ⟨fun s => (wp_when p m).mpr ⟨fun _ => hm.run s,fun _ => refl_of R s⟩⟩

end Refl
section Answers
variable {P : α → Prop} {Q : β → Prop} {m : Handler σ ε α}

/-- Every answer of a call has a property, whatever state it is made in. -/
structure Answers (m : Handler σ ε α) (P : α → Prop) : Prop where
  all : ∀ s,wp m (fun a _ => P a) (fun _ _ => True) s

theorem Answers.run (h : Answers m P) {s t : σ} {a : α} (hr : m s=(.ok a,t)) : P a := by
  have hs := h.all s
  rw [wp,hr] at hs
  exact hs

theorem Answers.any (m : Handler σ ε α) : Answers m (fun _ => True) := by
  refine ⟨fun s => ?_⟩
  unfold wp
  split <;> trivial

theorem Answers.bind {f : α → Handler σ ε β} (h : Answers m P) (hf : ∀ a,P a → Answers (f a) Q) :
    Answers (m>>=f) Q :=
  ⟨fun s => (wp_bind ..).mpr (wp_mono (fun a t ha => (hf a ha).all t) (fun _ _ _ => trivial) (h.all s))⟩

/-- A step whose answer does not matter. -/
theorem Answers.step {f : α → Handler σ ε β} (hf : ∀ a,Answers (f a) Q) : Answers (m>>=f) Q :=
  (Answers.any m).bind (fun a _ => hf a)

theorem Answers.pure {a : α} (h : P a) : Answers (Pure.pure a : Handler σ ε α) P := ⟨fun _ => h⟩

theorem Answers.fail (e : ε) : Answers (fail e : Handler σ ε α) P := ⟨fun _ => trivial⟩

theorem Answers.ensure (p : Prop) [Decidable p] (e : ε) :
    Answers (ensure p e : Handler σ ε Unit) (fun _ => p) :=
  ⟨fun _ => (wp_ensure p e).mpr ⟨fun h => h,fun _ => trivial⟩⟩

theorem Answers.lift (r : Except ε α) : Answers (lift r : Handler σ ε α) (fun a => r=.ok a) :=
  ⟨fun _ => (wp_lift r).mpr ⟨fun _ h => h,fun _ _ => trivial⟩⟩

theorem Answers.attempt (h : Answers m P) : Answers (attempt m) (fun r => ∀ a,r=.ok a → P a) := by
  refine ⟨fun s => (wp_attempt m).mpr (wp_mono (fun a t ha b hb => ?_) (fun _ _ _ _ hb => ?_) (h.all s))⟩
  · cases hb
    exact ha
  · cases hb

end Answers
end Society.Stateful.Handler
