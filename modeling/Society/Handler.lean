import Mathlib.Data.List.Basic

namespace Society.Stateful

/-! Computations whose state survives their failure, and runs of such calls. -/

variable {σ ε α β : Type}

/-- A call on a mutable object: its answer, and the object it leaves behind either way. -/
def Handler (σ ε α : Type) := σ → Except ε α × σ

namespace Handler

def ok (a : α) : Handler σ ε α := fun s => (.ok a,s)

def fail (e : ε) : Handler σ ε α := fun s => (.error e,s)

def andThen (m : Handler σ ε α) (f : α → Handler σ ε β) : Handler σ ε β := fun s =>
  match m s with
  | (.ok a,t) => f a t
  | (.error e,t) => (.error e,t)

instance : Monad (Handler σ ε) where
  pure := ok
  bind := andThen

def get : Handler σ ε σ := fun s => (.ok s,s)

def modify (f : σ → σ) : Handler σ ε Unit := fun s => (.ok (),f s)

/-- The early return of an error. -/
def ensure (c : Prop) [Decidable c] (e : ε) : Handler σ ε Unit := if c then ok () else fail e

def lift : Except ε α → Handler σ ε α
  | .ok a => ok a
  | .error e => fail e

/-- Clean up the object when the call fails. -/
def onError (f : σ → σ) (m : Handler σ ε α) : Handler σ ε α := fun s =>
  match m s with
  | (.ok a,t) => (.ok a,t)
  | (.error e,t) => (.error e,f t)

/-- The call with its error in the caller's terms. -/
def mapError {ε' : Type} (f : ε → ε') (m : Handler σ ε α) : Handler σ ε' α := fun s =>
  ((m s).1.mapError f,(m s).2)

/-- The branch that is taken or skipped. -/
def when (c : Prop) [Decidable c] (m : Handler σ ε Unit) : Handler σ ε Unit := if c then m else ok ()

/-- A call on a part of the object. -/
def within {τ : Type} (view : σ → τ) (put : σ → τ → σ) (m : Handler τ ε α) : Handler σ ε α := fun s =>
  match m (view s) with
  | (r,t) => (r,put s t)

/-- The call, whatever it answers. -/
def ignore (m : Handler σ ε α) : Handler σ ε Unit := fun s => (.ok (),(m s).2)

/-- The call with its outcome as an answer. -/
def attempt (m : Handler σ ε α) : Handler σ ε (Except ε α) := fun s => (.ok (m s).1,(m s).2)

/-- Each outcome of the call meets its postcondition. -/
def wp (m : Handler σ ε α) (Q : α → σ → Prop) (E : ε → σ → Prop) (s : σ) : Prop :=
  match m s with
  | (.ok a,t) => Q a t
  | (.error e,t) => E e t

variable {Q : α → σ → Prop} {E : ε → σ → Prop} {s : σ}

@[simp] theorem wp_pure (a : α) : wp (pure a : Handler σ ε α) Q E s ↔ Q a s := Iff.rfl

@[simp] theorem wp_ok (a : α) : wp (ok a : Handler σ ε α) Q E s ↔ Q a s := Iff.rfl

@[simp] theorem wp_fail (e : ε) : wp (fail e : Handler σ ε α) Q E s ↔ E e s := Iff.rfl

@[simp] theorem wp_bind (m : Handler σ ε β) (f : β → Handler σ ε α) :
    wp (m>>=f) Q E s ↔ wp m (fun b t => wp (f b) Q E t) E s := by
  change wp (andThen m f) Q E s ↔ _
  unfold wp andThen
  rcases m s with ⟨r,t⟩
  cases r <;> rfl

@[simp] theorem wp_get {R : σ → σ → Prop} : wp (get : Handler σ ε σ) R E s ↔ R s s := Iff.rfl

@[simp] theorem wp_modify {R : Unit → σ → Prop} (f : σ → σ) :
    wp (modify f : Handler σ ε Unit) R E s ↔ R () (f s) := Iff.rfl

@[simp] theorem wp_ensure {R : Unit → σ → Prop} (c : Prop) [Decidable c] (e : ε) :
    wp (ensure c e : Handler σ ε Unit) R E s ↔ (c → R () s) ∧ (¬c → E e s) := by
  unfold ensure
  split
  · next h => exact ⟨fun hr => ⟨fun _ => hr,fun hn => absurd h hn⟩,fun hr => hr.1 h⟩
  · next h => exact ⟨fun he => ⟨fun hc => absurd hc h,fun _ => he⟩,fun he => he.2 h⟩

@[simp] theorem wp_lift (r : Except ε α) :
    wp (lift r : Handler σ ε α) Q E s ↔ (∀ a,r=.ok a → Q a s) ∧ (∀ e,r=.error e → E e s) := by
  cases r <;> simp [lift]

@[simp] theorem wp_onError (f : σ → σ) (m : Handler σ ε α) :
    wp (onError f m) Q E s ↔ wp m Q (fun e t => E e (f t)) s := by
  unfold wp onError
  rcases m s with ⟨r,t⟩
  cases r <;> rfl

@[simp] theorem wp_when {R : Unit → σ → Prop} (c : Prop) [Decidable c] (m : Handler σ ε Unit) :
    wp (when c m) R E s ↔ (c → wp m R E s) ∧ (¬c → R () s) := by
  unfold when
  split
  · next h => exact ⟨fun hr => ⟨fun _ => hr,fun hn => absurd h hn⟩,fun hr => hr.1 h⟩
  · next h => exact ⟨fun hr => ⟨fun hc => absurd hc h,fun _ => hr⟩,fun hr => hr.2 h⟩

@[simp] theorem wp_within {τ : Type} (view : σ → τ) (put : σ → τ → σ) (m : Handler τ ε α) :
    wp (within view put m) Q E s ↔
      wp m (fun a t => Q a (put s t)) (fun e t => E e (put s t)) (view s) := by
  unfold wp within
  rcases m (view s) with ⟨r,t⟩
  cases r <;> rfl

@[simp] theorem wp_ignore {R : Unit → σ → Prop} (m : Handler σ ε α) :
    wp (ignore m) R E s ↔ wp m (fun _ t => R () t) (fun _ t => R () t) s := by
  unfold wp ignore
  rcases m s with ⟨r,t⟩
  cases r <;> rfl

@[simp] theorem wp_attempt {R : Except ε α → σ → Prop} (m : Handler σ ε α) :
    wp (attempt m) R E s ↔ wp m (fun a t => R (.ok a) t) (fun e t => R (.error e) t) s := by
  unfold wp attempt
  rcases m s with ⟨r,t⟩
  cases r <;> rfl

@[simp] theorem wp_mapError {ε' : Type} {E : ε' → σ → Prop} (f : ε → ε') (m : Handler σ ε α) :
    wp (m.mapError f) Q E s ↔ wp m Q (fun e t => E (f e) t) s := by
  unfold wp mapError
  rcases m s with ⟨r,t⟩
  cases r <;> rfl

theorem wp_mono {m : Handler σ ε α} {Q' : α → σ → Prop} {E' : ε → σ → Prop}
    (hQ : ∀ a t,Q a t → Q' a t) (hE : ∀ e t,E e t → E' e t) (h : wp m Q E s) : wp m Q' E' s := by
  unfold wp at h ⊢
  rcases hm : m s with ⟨r,t⟩
  rw [hm] at h
  cases r with
  | ok a => exact hQ a t h
  | error e => exact hE e t h

theorem wp_and {m : Handler σ ε α} {Q' : α → σ → Prop} {E' : ε → σ → Prop} (h : wp m Q E s)
    (h' : wp m Q' E' s) : wp m (fun a t => Q a t ∧ Q' a t) (fun e t => E e t ∧ E' e t) s := by
  unfold wp at h h' ⊢
  rcases hm : m s with ⟨r,t⟩
  rw [hm] at h h'
  cases r <;> exact ⟨h,h'⟩

theorem wp_state {m : Handler σ ε α} {P : σ → Prop} (h : wp m (fun _ => P) (fun _ => P) s) :
    P (m s).2 := by
  unfold wp at h
  rcases hm : m s with ⟨r,t⟩
  rw [hm] at h
  cases r <;> exact h

theorem wp_iff (m : Handler σ ε α) : wp m Q E s ↔
    (∀ a,(m s).1=.ok a → Q a (m s).2) ∧ (∀ e,(m s).1=.error e → E e (m s).2) := by
  unfold wp
  rcases m s with ⟨r,t⟩
  cases r <;> simp

/-! One step of a call whose outcome is known. -/

theorem bind_run {f : α → Handler σ ε β} {m : Handler σ ε α} {s t : σ} {a : α} (h : m s=(.ok a,t)) :
    (m>>=f) s=f a t := by
  simp only [bind,andThen,h]

theorem ensure_run {c : Prop} [Decidable c] {e : ε} {s : σ} (h : c) :
    (ensure c e : Handler σ ε Unit) s=(.ok (),s) := by
  rw [ensure,if_pos h]
  rfl

theorem mapError_run {ε' : Type} {f : ε → ε'} {m : Handler σ ε α} {s t : σ} {a : α}
    (h : m s=(.ok a,t)) : m.mapError f s=(.ok a,t) := by
  simp only [mapError,h,Except.mapError]

theorem attempt_run {m : Handler σ ε α} {s t : σ} {a : α} (h : m s=(.ok a,t)) :
    attempt m s=(.ok (.ok a),t) := by
  simp only [attempt,h]

end Handler

section Histories

variable {κ ρ : Type}

/-- A call with what it answered. -/
abbrev Entry (κ ε ρ : Type) := κ × Except ε ρ

/-- The states and the records of calls that `step` leads to by calls that meet a condition on
the record and the state before them, the oldest call first. -/
inductive Reached (step : κ → Handler σ ε ρ) (start : σ → Prop)
    (allowed : List (Entry κ ε ρ) → σ → κ → Prop) : List (Entry κ ε ρ) → σ → Prop
  | start {s : σ} : start s → Reached step start allowed [] s
  | call {h : List (Entry κ ε ρ)} {s : σ} (c : κ) : Reached step start allowed h s →
      allowed h s c → Reached step start allowed (h++[(c,(step c s).1)]) (step c s).2

variable {step : κ → Handler σ ε ρ} {start : σ → Prop}
  {allowed : List (Entry κ ε ρ) → σ → κ → Prop} {h : List (Entry κ ε ρ)} {s : σ}

namespace Reached

/-- A law of records and states that the start meets and each call keeps holds of every run. -/
theorem invariant (I : List (Entry κ ε ρ) → σ → Prop) (h0 : ∀ s,start s → I [] s)
    (hstep : ∀ h s c,Reached step start allowed h s → allowed h s c → I h s →
      Handler.wp (step c) (fun r t => I (h++[(c,.ok r)]) t) (fun e t => I (h++[(c,.error e)]) t) s)
    (hr : Reached step start allowed h s) : I h s := by
  induction hr with
  | start hg => exact h0 _ hg
  | @call h s c hr ha ih =>
    have hw := hstep h s c hr ha ih
    unfold Handler.wp at hw
    rcases hs : step c s with ⟨r,t⟩
    rw [hs] at hw
    cases r <;> exact hw

theorem mono {allowed' : List (Entry κ ε ρ) → σ → κ → Prop}
    (hm : ∀ h s c,allowed h s c → allowed' h s c) (hr : Reached step start allowed h s) :
    Reached step start allowed' h s := by
  induction hr with
  | start hg => exact .start hg
  | call c _ ha ih => exact .call c ih (hm _ _ _ ha)

/-- Each entry of the record was made in the state its predecessors led to. -/
theorem split {h₁ h₂ : List (Entry κ ε ρ)} {c : κ} {r : Except ε ρ}
    (hr : Reached step start allowed (h₁++(c,r)::h₂) s) :
    ∃ s₁,Reached step start allowed h₁ s₁ ∧ allowed h₁ s₁ c ∧ r=(step c s₁).1 := by
  generalize hh : h₁++(c,r)::h₂=h at hr
  induction hr generalizing h₂ with
  | start => simp at hh
  | @call h' s' c' hr ha ih =>
    rcases List.eq_nil_or_concat h₂ with rfl | ⟨h₂',e,rfl⟩
    · obtain ⟨rfl,he⟩ := List.append_inj' hh rfl
      simp only [List.cons.injEq,Prod.mk.injEq,and_true] at he
      obtain ⟨rfl,rfl⟩ := he
      exact ⟨s',hr,ha,rfl⟩
    · have hcons : h₁++(c,r)::h₂'.concat e=(h₁++(c,r)::h₂')++[e] := by simp
      rw [hcons] at hh
      exact ih (List.append_inj' hh rfl).1

end Reached

/-- The record and the state after a list of further calls. -/
def trace (step : κ → Handler σ ε ρ) :
    List (Entry κ ε ρ) → σ → List κ → List (Entry κ ε ρ) × σ
  | h,s,[] => (h,s)
  | h,s,c::calls => trace step (h++[(c,(step c s).1)]) (step c s).2 calls

/-- Each call of the list passes a test when it is made. -/
def passes (step : κ → Handler σ ε ρ) (test : List (Entry κ ε ρ) → σ → κ → Bool) :
    List (Entry κ ε ρ) → σ → List κ → Bool
  | _,_,[] => true
  | h,s,c::calls => test h s c && passes step test (h++[(c,(step c s).1)]) (step c s).2 calls

theorem Reached.trace {test : List (Entry κ ε ρ) → σ → κ → Bool}
    (ht : ∀ h s c,test h s c=true → allowed h s c) (calls : List κ)
    (hr : Reached step start allowed h s) (hp : passes step test h s calls=true) :
    Reached step start allowed (trace step h s calls).1 (trace step h s calls).2 := by
  induction calls generalizing h s with
  | nil => exact hr
  | cons c calls ih =>
    obtain ⟨hc,hrest⟩ := (Bool.and_eq_true ..).mp hp
    exact ih (.call c hr (ht h s c hc)) hrest

theorem passes_true (calls : List κ) : passes step (fun _ _ _ => true) h s calls=true := by
  induction calls generalizing h s with
  | nil => rfl
  | cons c calls ih => exact ih

end Histories
end Society.Stateful
