import Society.Latency.Choreography

namespace Society.Latency
open Society.Stateful

/-! What every run of calls on the record of a pair keeps: the two arms get their one correction
together, and only after both are exposed as their treatment says. -/

section Calls

/-- The calls that change the record of a pair. -/
inductive PairCall where
  | markSourceFrozen (treatment : TreatmentArm) (frozenForumHead : Kernel.I64)
  | markSuccessorExposed (treatment : TreatmentArm) (exposure : ForumExposure)
  | releaseMatchedCorrection
  | markSuccessorClosed (treatment : TreatmentArm)
  | invalidate
  deriving DecidableEq

def PairCall.run : PairCall → PairStateRecord.Step
  | markSourceFrozen t head => PairStateRecord.markSourceFrozen t head
  | markSuccessorExposed t exposure => PairStateRecord.markSuccessorExposed t exposure
  | releaseMatchedCorrection => PairStateRecord.releaseMatchedCorrection
  | markSuccessorClosed t => PairStateRecord.markSuccessorClosed t
  | invalidate => PairStateRecord.invalidate

/-- A run of calls on a record that starts out planned. -/
abbrev PairRun := Reached PairCall.run (fun r => ∃ c,r=.planned c) (fun _ _ _ => True)

end Calls

section Moves
variable {a : ArmStateRecord} {r r' : PairStateRecord} {Q : Unit → ArmStateRecord → Prop}
  {E : ChoreographyError → ArmStateRecord → Prop} {t : TreatmentArm}

theorem wp_markSourceFrozen (head : Kernel.I64) :
    Handler.wp (ArmStateRecord.markSourceFrozen head) Q E a ↔
      (a.lifecycle=.planned ∧ ¬head.val<0 →
        Q () { a with frozenForumHead := some head, lifecycle := .sourceFrozen }) ∧
      (¬(a.lifecycle=.planned ∧ ¬head.val<0) → E .invalidArmTransition a) := by
  simp only [ArmStateRecord.markSourceFrozen,Handler.wp_bind,Handler.wp_get,Handler.wp_ensure,
    Handler.wp_modify]

theorem wp_markSuccessorClosed : Handler.wp ArmStateRecord.markSuccessorClosed Q E a ↔
    (a.lifecycle=.correctionReleased → Q () { a with lifecycle := .successorClosed }) ∧
      (a.lifecycle≠.correctionReleased → E .invalidArmTransition a) := by
  simp only [ArmStateRecord.markSuccessorClosed,Handler.wp_bind,Handler.wp_get,Handler.wp_ensure,
    Handler.wp_modify,ne_eq]

/-- The frontier that the treatment of an arm calls for. -/
def ArmStateRecord.Fits (a : ArmStateRecord) (exposure : ForumExposure) : Prop :=
  match a.treatment with
  | .retained => exposure=.retainedSuccessor
  | .reset => a.expectedReset=some exposure

/-- What one call does to the record when it succeeds. -/
inductive PairMove (r : PairStateRecord) : PairCall → PairStateRecord → Prop
  | frozen (t : TreatmentArm) (head : Kernel.I64) : r.lifecycle t=.planned → 0≤head.val →
      PairMove r (.markSourceFrozen t head) (r.setArm t
        { r.arm t with frozenForumHead := some head, lifecycle := .sourceFrozen })
  | exposed (t : TreatmentArm) (exposure : ForumExposure) : r.lifecycle t=.sourceFrozen →
      (r.arm t).Fits exposure → PairMove r (.markSuccessorExposed t exposure) (r.setArm t
        { r.arm t with successorExposure := some exposure, lifecycle := .successorExposed })
  | released : r.correctionReleased=false → (∀ t,r.lifecycle t=.successorExposed) →
      PairMove r .releaseMatchedCorrection { r with
        retained := { r.retained with lifecycle := .correctionReleased },
        reset := { r.reset with lifecycle := .correctionReleased }, correctionReleased := true }
  | closed (t : TreatmentArm) : r.lifecycle t=.correctionReleased →
      PairMove r (.markSuccessorClosed t) (r.setArm t { r.arm t with lifecycle := .successorClosed })
  | invalidated : PairMove r .invalidate { r with
        retained := { r.retained with lifecycle := .invalidated },
        reset := { r.reset with lifecycle := .invalidated } }

theorem setArm_arm (r : PairStateRecord) (t : TreatmentArm) : r.setArm t (r.arm t)=r := by
  cases t <;> rfl

theorem wp_armMut (r : PairStateRecord) {m : ArmStateRecord.Step} {Q : Unit → PairStateRecord → Prop}
    {E : ChoreographyError → PairStateRecord → Prop} :
    Handler.wp (PairStateRecord.armMut t m) Q E r ↔ Handler.wp m (fun u a => Q u (r.setArm t a))
      (fun e a => E e (r.setArm t a)) (r.arm t) := Handler.wp_within ..

theorem markSuccessorExposed_wp (exposure : ForumExposure) :
    Handler.wp (ArmStateRecord.markSuccessorExposed exposure)
      (fun _ b => a.lifecycle=.sourceFrozen ∧ a.Fits exposure ∧
        b={ a with successorExposure := some exposure, lifecycle := .successorExposed })
      (fun _ b => b=a) a := by
  simp only [ArmStateRecord.markSuccessorExposed,Handler.wp_bind,Handler.wp_get,Handler.wp_ensure,
    Handler.wp_modify]
  refine ⟨fun hl => ⟨fun hreset => ⟨fun hretained => ⟨hl,?_,trivial⟩,fun _ => trivial⟩,
    fun _ => trivial⟩,fun _ => trivial⟩
  unfold ArmStateRecord.Fits
  cases ht : a.treatment with
  | retained =>
    have hnot : ¬exposure≠.retainedSuccessor := fun he => hretained ⟨ht,he⟩
    exact not_not.mp hnot
  | reset =>
    have hnot : ¬some exposure≠a.expectedReset := fun he => hreset ⟨ht,he⟩
    exact (not_not.mp hnot).symm

/-- A call does its one move, or it fails and the record is as it was. -/
theorem PairCall.run_wp (c : PairCall) (r : PairStateRecord) :
    Handler.wp c.run (fun _ r' => PairMove r c r') (fun _ r' => r'=r) r := by
  cases c with
  | markSourceFrozen t head =>
    rw [PairCall.run,PairStateRecord.markSourceFrozen,wp_armMut,wp_markSourceFrozen]
    exact ⟨fun h => .frozen t head h.1 (not_lt.mp h.2),fun _ => setArm_arm r t⟩
  | markSuccessorExposed t exposure =>
    rw [PairCall.run,PairStateRecord.markSuccessorExposed,wp_armMut]
    refine Handler.wp_mono ?_ ?_ (markSuccessorExposed_wp exposure)
    · rintro _ b ⟨hl,hfits,rfl⟩
      exact .exposed t exposure hl hfits
    · rintro _ b rfl
      exact setArm_arm r t
  | releaseMatchedCorrection =>
    simp only [PairCall.run,PairStateRecord.releaseMatchedCorrection,Handler.wp_bind,
      Handler.wp_get,Handler.wp_ensure,wp_armMut,ArmStateRecord.releaseCorrection,
      Handler.wp_modify]
    refine ⟨fun h => ?_,fun _ => trivial⟩
    have hretained : r.retained.lifecycle=.successorExposed := by
      by_contra hn
      exact h (.inr (.inl hn))
    have hreset : r.reset.lifecycle=.successorExposed := by
      by_contra hn
      exact h (.inr (.inr hn))
    have hflag : r.correctionReleased=false := by
      by_contra hn
      exact h (.inl (by simpa using hn))
    refine ⟨fun _ => ⟨fun _ => ?_,fun hn => absurd hreset hn⟩,fun hn => absurd hretained hn⟩
    exact .released hflag (fun t => by cases t <;> assumption)
  | markSuccessorClosed t =>
    rw [PairCall.run,PairStateRecord.markSuccessorClosed,wp_armMut,wp_markSuccessorClosed]
    exact ⟨fun h => .closed t h,fun _ => setArm_arm r t⟩
  | invalidate =>
    simp only [PairCall.run,PairStateRecord.invalidate,Handler.wp_bind,wp_armMut,
      ArmStateRecord.invalidate,Handler.wp_modify]
    exact .invalidated

end Moves

section Matching

/-- The correction is out for the arm. -/
def ArmLifecycle.Released (l : ArmLifecycle) : Prop := l=.correctionReleased ∨ l=.successorClosed

/-- The successor of the arm has its frontier. -/
def ArmLifecycle.Exposed (l : ArmLifecycle) : Prop := l=.successorExposed ∨ l.Released

/-- What an arm records of its frontiers. -/
structure ArmStateRecord.Recorded (t : TreatmentArm) (a : ArmStateRecord) : Prop where
  treatment : a.treatment=t
  unexposed : a.lifecycle=.planned → a.successorExposure=none
  exposed : a.lifecycle.Exposed → a.successorExposure≠none
  fits : ∀ e,a.successorExposure=some e → a.Fits e

/-- What ties the two arms of a record together. -/
structure PairStateRecord.Matched (r : PairStateRecord) : Prop where
  arms : ∀ t,(r.arm t).Recorded t
  together : r.correctionReleased=true → ∀ t,(r.lifecycle t).Released ∨ r.lifecycle t=.invalidated
  flagged : ∀ t,(r.lifecycle t).Released → r.correctionReleased=true
  invalidated : ∀ t t',r.lifecycle t=.invalidated → r.lifecycle t'=.invalidated

theorem planned_recorded (t : TreatmentArm) : (ArmStateRecord.planned t).Recorded t := by
  refine ⟨rfl,fun _ => rfl,fun h => ?_,fun e h => ?_⟩
  · rcases h with h | h | h <;> cases h
  · cases h

theorem planned_matched (c : PairChoreography) : (PairStateRecord.planned c).Matched := by
  refine ⟨fun t => ?_,fun h => ?_,fun t h => ?_,fun t t' h => ?_⟩
  · cases t
    · exact planned_recorded .retained
    · exact planned_recorded .reset
  · cases h
  · cases t <;> rcases h with h | h <;> cases h
  · cases t <;> cases h

section Arms
variable (r : PairStateRecord) (t : TreatmentArm) (a : ArmStateRecord)

@[simp] theorem arm_setArm_same : (r.setArm t a).arm t=a := by cases t <;> rfl

theorem arm_setArm_ne {t t' : TreatmentArm} (h : t'≠t) : (r.setArm t a).arm t'=r.arm t' := by
  cases t <;> cases t' <;> first | rfl | exact absurd rfl h

@[simp] theorem correctionReleased_setArm :
    (r.setArm t a).correctionReleased=r.correctionReleased := by cases t <;> rfl

end Arms

variable {r r' : PairStateRecord} {c : PairCall}

/-- An arm that moves on by itself, with no correction in play before or after. -/
theorem PairStateRecord.Matched.setArm (hr : r.Matched) {t : TreatmentArm} {a : ArmStateRecord}
    (ha : a.Recorded t) (hsame : a.lifecycle.Released ↔ (r.lifecycle t).Released)
    (hold : r.lifecycle t≠.invalidated) (hnew : a.lifecycle≠.invalidated) :
    (r.setArm t a).Matched := by
  have hvalid (t' : TreatmentArm) : r.lifecycle t'≠.invalidated :=
    fun h => hold (hr.invalidated t' t h)
  refine ⟨fun t' => ?_,fun h t' => ?_,fun t' h => ?_,fun t' t'' h => ?_⟩
  · by_cases he : t'=t
    · subst he
      rw [arm_setArm_same]
      exact ha
    · rw [arm_setArm_ne _ _ he]
      exact hr.arms t'
  · rw [correctionReleased_setArm] at h
    unfold PairStateRecord.lifecycle
    by_cases he : t'=t
    · subst he
      rw [arm_setArm_same]
      exact .inl (hsame.mpr ((hr.together h t').resolve_right hold))
    · rw [arm_setArm_ne _ _ he]
      exact hr.together h t'
  · rw [correctionReleased_setArm]
    unfold PairStateRecord.lifecycle at h
    by_cases he : t'=t
    · subst he
      rw [arm_setArm_same] at h
      exact hr.flagged t' (hsame.mp h)
    · rw [arm_setArm_ne _ _ he] at h
      exact hr.flagged t' h
  · unfold PairStateRecord.lifecycle at h
    by_cases he : t'=t
    · subst he
      rw [arm_setArm_same] at h
      exact absurd h hnew
    · rw [arm_setArm_ne _ _ he] at h
      exact absurd h (hvalid t')

theorem PairMove.matched (hm : PairMove r c r') (hr : r.Matched) : r'.Matched := by
  cases hm with
  | frozen t head hl hh =>
    have ha := hr.arms t
    have hnone := ha.unexposed hl
    refine hr.setArm ⟨ha.treatment,fun _ => hnone,fun h => ?_,fun e he => ?_⟩ ?_ ?_ ?_
    · rcases h with h | h | h <;> cases h
    · rw [hnone] at he
      cases he
    · rw [hl]
      constructor <;> (intro h; rcases h with h | h <;> cases h)
    · rw [hl]
      decide
    · intro h
      cases h
  | exposed t exposure hl hf =>
    have ha := hr.arms t
    refine hr.setArm ⟨ha.treatment,fun h => ?_,fun _ => ?_,fun e he => ?_⟩ ?_ ?_ ?_
    · cases h
    · exact Option.some_ne_none _
    · obtain rfl := Option.some.inj he
      exact hf
    · rw [hl]
      constructor <;> (intro h; rcases h with h | h <;> cases h)
    · rw [hl]
      decide
    · intro h
      cases h
  | released hflag hl =>
    refine ⟨fun t => ?_,fun _ t => ?_,fun _ _ => rfl,fun t t' h => ?_⟩
    · have ha := hr.arms t
      have hexposed := ha.exposed (.inl (hl t))
      cases t <;> exact ⟨ha.treatment,(fun h => by cases h),fun _ => hexposed,ha.fits⟩
    · cases t <;> exact .inl (.inl rfl)
    · cases t <;> cases h
  | closed t hl =>
    have ha := hr.arms t
    have hexposed := ha.exposed (.inr (.inl hl))
    refine hr.setArm ⟨ha.treatment,fun h => ?_,fun _ => hexposed,ha.fits⟩ ?_ ?_ ?_
    · cases h
    · exact ⟨fun _ => .inl hl,fun _ => .inr rfl⟩
    · rw [hl]
      decide
    · intro h
      cases h
  | invalidated =>
    refine ⟨fun t => ?_,fun _ t => ?_,fun t h => ?_,fun t t' _ => ?_⟩
    · have ha := hr.arms t
      have hnot : ¬ArmLifecycle.invalidated.Exposed := by
        rintro (h | h | h) <;> cases h
      cases t <;> exact ⟨ha.treatment,(fun h => by cases h),fun h => absurd h hnot,ha.fits⟩
    · cases t <;> exact .inr rfl
    · cases t <;> rcases h with h | h <;> cases h
    · cases t' <;> rfl

theorem PairRun.matched {h : List (Entry PairCall ChoreographyError Unit)} (hr : PairRun h r) :
    r.Matched := by
  refine hr.invariant (fun _ s => s.Matched) ?_ ?_
  · rintro _ ⟨c,rfl⟩
    exact planned_matched c
  · intro h s c _ _ hs
    refine Handler.wp_mono ?_ ?_ (c.run_wp s)
    · intro _ t hm
      exact hm.matched hs
    · rintro _ t rfl
      exact hs

end Matching

section Barrier
variable {r r' : PairStateRecord} {c : PairCall} {h : List (Entry PairCall ChoreographyError Unit)}

/-- The record of calls shows that the arm was exposed. -/
def WasExposed (h : List (Entry PairCall ChoreographyError Unit)) (t : TreatmentArm) : Prop :=
  ∃ exposure,(PairCall.markSuccessorExposed t exposure,Except.ok ())∈h

theorem PairMove.exposed_before (hm : PairMove r c r') {t : TreatmentArm}
    (h : (r'.lifecycle t).Exposed) :
    (r.lifecycle t).Exposed ∨ ∃ exposure,c=.markSuccessorExposed t exposure := by
  have hother {t' : TreatmentArm} {a : ArmStateRecord} (hne : t≠t') (hs : r'=r.setArm t' a) :
      (r.lifecycle t).Exposed := by
    subst hs
    unfold PairStateRecord.lifecycle at h
    rwa [arm_setArm_ne _ _ hne] at h
  cases hm with
  | frozen t' head =>
    by_cases he : t=t'
    · subst he
      unfold PairStateRecord.lifecycle at h
      rw [arm_setArm_same] at h
      rcases h with h | h | h <;> cases h
    · exact .inl (hother he rfl)
  | exposed t' exposure =>
    by_cases he : t=t'
    · subst he
      exact .inr ⟨exposure,rfl⟩
    · exact .inl (hother he rfl)
  | released _ hl => exact .inl (.inl (hl t))
  | closed t' hl =>
    by_cases he : t=t'
    · subst he
      exact .inl (.inr (.inl hl))
    · exact .inl (hother he rfl)
  | invalidated => cases t <;> rcases h with h | h | h <;> cases h

theorem PairRun.exposed (hr : PairRun h r) (t : TreatmentArm) (hl : (r.lifecycle t).Exposed) :
    WasExposed h t := by
  revert hl
  refine hr.invariant (fun h s => (s.lifecycle t).Exposed → WasExposed h t) ?_ ?_
  · rintro _ ⟨c,rfl⟩ hl
    cases t <;> rcases hl with hl | hl | hl <;> cases hl
  · intro h s c _ _ ih
    refine Handler.wp_mono ?_ ?_ (c.run_wp s)
    · intro _ s' hm hl
      rcases hm.exposed_before hl with hl | ⟨exposure,rfl⟩
      · obtain ⟨exposure,hmem⟩ := ih hl
        exact ⟨exposure,List.mem_append_left _ hmem⟩
      · exact ⟨exposure,by simp⟩
    · rintro _ s' rfl hl
      obtain ⟨exposure,hmem⟩ := ih hl
      exact ⟨exposure,List.mem_append_left _ hmem⟩

theorem PairRun.released_exposed {h₁ h₂ : List (Entry PairCall ChoreographyError Unit)}
    (hr : PairRun (h₁++(.releaseMatchedCorrection,.ok ())::h₂) r) (t : TreatmentArm) :
    WasExposed h₁ t := by
  obtain ⟨s,hs,_,hok⟩ := hr.split
  have hw := (Handler.wp_iff _).mp (PairCall.run_wp .releaseMatchedCorrection s)
  have hm := hw.1 () hok.symm
  generalize (PairCall.run .releaseMatchedCorrection s).2=s' at hm
  cases hm with
  | released _ hl => exact PairRun.exposed hs t (.inl (hl t))

end Barrier

section Laws
variable {r : PairStateRecord} {h : List (Entry PairCall ChoreographyError Unit)}

theorem ArmStateRecord.Recorded.retained {a : ArmStateRecord} (ha : a.Recorded .retained)
    {e : ForumExposure} (he : a.successorExposure=some e) : e.visibleFromMessageOrdinal.val=1 := by
  have hf := ha.fits e he
  rw [ArmStateRecord.Fits,ha.treatment] at hf
  subst hf
  rfl

theorem resetSuccessor_ok {head : Kernel.I64} {e : ForumExposure}
    (h : ForumExposure.resetSuccessor head=.ok e) :
    e.visibleFromMessageOrdinal.val=head.val+1 ∧ 0≤head.val := by
  unfold ForumExposure.resetSuccessor at h
  split at h
  · cases h
  · next h0 =>
    split at h
    · cases h
      exact ⟨rfl,not_lt.mp h0⟩
    · cases h

theorem ArmStateRecord.Recorded.reset {a : ArmStateRecord} (ha : a.Recorded .reset)
    {e : ForumExposure} (he : a.successorExposure=some e) :
    ∃ head,a.frozenForumHead=some head ∧ e.visibleFromMessageOrdinal.val=head.val+1 := by
  have hf := ha.fits e he
  rw [ArmStateRecord.Fits,ha.treatment] at hf
  obtain ⟨head,hhead,hok⟩ := Option.bind_eq_some_iff.mp hf
  refine ⟨head,hhead,?_⟩
  cases hs : ForumExposure.resetSuccessor head with
  | ok e' =>
    rw [hs] at hok
    obtain rfl := Option.some.inj hok
    exact (resetSuccessor_ok hs).1
  | error e' =>
    rw [hs] at hok
    cases hok

theorem PairCall.run_invalidated (c : PairCall) {t : TreatmentArm} (hr : r.Matched)
    (hl : r.lifecycle t=.invalidated) : (c.run r).2.lifecycle t=.invalidated := by
  have hall (t' : TreatmentArm) : r.lifecycle t'=.invalidated := hr.invalidated t t' hl
  refine Handler.wp_state (P := fun s => s.lifecycle t=.invalidated)
    (Handler.wp_mono ?_ ?_ (c.run_wp r))
  · intro _ s hm
    cases hm with
    | frozen t' head h => rw [hall] at h; cases h
    | exposed t' exposure h => rw [hall] at h; cases h
    | released _ h => have ht := h t; rw [hl] at ht; cases ht
    | closed t' h => rw [hall] at h; cases h
    | invalidated => cases t <;> rfl
  · rintro _ s rfl
    exact hl

theorem PairRun.trace (hr : PairRun h r) (calls : List PairCall) :
    PairRun (Stateful.trace PairCall.run h r calls).1 (Stateful.trace PairCall.run h r calls).2 :=
  Reached.trace (fun _ _ _ _ => trivial) calls hr (passes_true calls)

theorem PairRun.invalidated (hr : PairRun h r) {t : TreatmentArm} (hl : r.lifecycle t=.invalidated)
    (calls : List PairCall) : (Stateful.trace PairCall.run h r calls).2.lifecycle t=.invalidated := by
  induction calls generalizing h r with
  | nil => exact hl
  | cons c calls ih => exact ih (.call c hr trivial) (c.run_invalidated hr.matched hl)

/-- No arm gets its correction without the other, nor before both are exposed; the frontiers are
those of the treatments; invalidation is final; and a refused call changes nothing. -/
theorem pair_corrections_matched (hr : PairRun h r) :
    (∀ t t',(r.lifecycle t).Released → (r.lifecycle t').Released ∨ r.lifecycle t'=.invalidated) ∧
    (∀ h₁ h₂,h=h₁++(.releaseMatchedCorrection,.ok ())::h₂ → ∀ t,WasExposed h₁ t) ∧
    (∀ e,r.retained.successorExposure=some e → e.visibleFromMessageOrdinal.val=1) ∧
    (∀ e,r.reset.successorExposure=some e →
      ∃ head,r.reset.frozenForumHead=some head ∧ e.visibleFromMessageOrdinal.val=head.val+1) ∧
    (∀ t,r.lifecycle t=.invalidated → ∀ calls,
      (Stateful.trace PairCall.run h r calls).2.lifecycle t=.invalidated) ∧
    ∀ c e,(PairCall.run c r).1=.error e → (PairCall.run c r).2=r := by
  have hm := hr.matched
  refine ⟨fun t t' hl => hm.together (hm.flagged t hl) t',?_,fun e => (hm.arms .retained).retained,
    fun e => (hm.arms .reset).reset,fun t hl calls => hr.invalidated hl calls,fun c e he => ?_⟩
  · rintro h₁ h₂ rfl t
    exact hr.released_exposed t
  · exact ((Handler.wp_iff _).mp (c.run_wp r)).2 e he

/-- A planned pair, for whatever digests. -/
def firstPair : PairChoreography :=
  ⟨⟨"pair-a",by decide⟩,Kernel.plainDigest 1,Kernel.plainDigest 2,
    .new .retained,.new .reset⟩

/-- Both arms freeze, at heads 4 and 7, are exposed, and get their correction. -/
def matchedCalls : List PairCall :=
  [.markSourceFrozen .retained ⟨4,by decide⟩,.markSourceFrozen .reset ⟨7,by decide⟩,
    .markSuccessorExposed .retained .source,
    .markSuccessorExposed .reset ⟨⟨8,by decide⟩,by decide⟩,.releaseMatchedCorrection]

theorem pair_corrections_matched_released :
    (Stateful.trace PairCall.run [] (.planned firstPair) matchedCalls).2.lifecycle .reset=
      .correctionReleased ∧
    (((Stateful.trace PairCall.run [] (.planned firstPair) matchedCalls).2.lifecycle
      .retained).Released ∨ (Stateful.trace PairCall.run [] (.planned firstPair) matchedCalls).2.lifecycle
        .retained=.invalidated) := by
  have hr : PairRun [] (.planned firstPair) := .start ⟨firstPair,rfl⟩
  have hl : (Stateful.trace PairCall.run [] (.planned firstPair) matchedCalls).2.lifecycle .reset=
      .correctionReleased := by decide
  exact ⟨hl,(pair_corrections_matched (PairRun.trace hr matchedCalls)).1 .reset .retained (.inl hl)⟩

end Laws
end Society.Latency
