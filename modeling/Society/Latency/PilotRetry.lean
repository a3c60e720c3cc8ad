import Society.Latency.PilotLaws

namespace Society.Latency
open Society.Coding Society.Stateful
open Society.Kernel (Blake3Digest I64 blake3 nth)

/-! A pilot whose backend failed a call can be taken up again and brought to its end. -/

variable {hash : Bytes → Blake3Digest} {ε : Type}

section Retries
variable {s s' : PilotRun hash} {c : PilotCall hash ε} {b : PilotExecutionBackend hash ε}

theorem open_retry : (c.retry b).Open s ↔ c.Open s := by
  cases c <;> rfl

theorem Performs.open {p : Nat} {t : TreatmentArm} {phase : PopulationPhase}
    (h : Performs p t phase s s') (hopen : (PilotCall.executePopulation b p t phase).Open s) :
    (PilotCall.executePopulation b p t phase).Open s' := by
  unfold PilotCall.Open at hopen ⊢
  rw [h.frame]
  exact hopen

/-- The checks that a call passed before the backend failed it pass again. -/
theorem Outcome.open {e : ε} (h : Outcome s c (.error (.backend e)) s') : c.Open s' := by
  cases h with
  | refused _ _ _ hno => exact absurd rfl (hno e)
  | failed _ _ hopen => exact hopen
  | unstarted _ _ _ hopen => exact hopen
  | unpopulated _ p t phase _ _ hopen hp => exact hp.open hopen

/-- A call that passes its checks fails only as the backend or the analysis of its observations
makes it fail. -/
theorem Outcome.error {err : PilotRunnerError ε} (h : Outcome s c (.error err) s') (hopen : c.Open s) :
    (∃ e,err=.backend e ∧ c.Failure e) ∨ ∃ b e,c=.complete b ∧ err=.analysis e ∧
      ∃ observations,b.closedPairObservations=.ok observations ∧
        AnalysisArtifact.fromPreregisteredPlan s.runner.pilot.livePlan.analysis observations=.error e := by
  cases h with
  | refused _ _ hclosed => exact absurd hopen hclosed
  | failed _ e _ hf => exact .inl ⟨e,rfl,hf⟩
  | unstarted _ _ e _ _ hf => exact .inl ⟨e,rfl,hf⟩
  | unpopulated _ _ _ _ _ e _ _ hf => exact .inl ⟨e,rfl,hf⟩
  | unanalyzed b e _ ha => exact .inr ⟨b,e,rfl,rfl,ha⟩

/-- The outcome of the call as it is run. -/
theorem PilotCall.Follows.outcome (h : c.Follows s) : Outcome s c (c.run s).1 (c.run s).2 := by
  have hw := (Handler.wp_iff _).mp h
  rcases hr : (c.run s).1 with e | ⟨⟩
  · exact hw.2 e hr
  · exact hw.1 () hr

end Retries

section Driving
variable {s s' : PilotRun hash} {c : PilotCall hash ε} {b : PilotExecutionBackend hash ε}
  {p : Nat} {t : TreatmentArm} {r : PairStateRecord}

/-- A backend that fails no request of a call. -/
structure PilotExecutionBackend.Serves (b : PilotExecutionBackend hash ε) : Prop where
  admits : ∀ admission pilot,b.admitStudyRun admission pilot=.ok ()
  registers : ∀ p pair,b.registerPair p pair=.ok ()
  starts : b.startStudyRun=.ok ()
  executes : ∀ lifetime,b.executeActorLifetime lifetime=.ok ()
  freezes : ∀ p t,∃ head,b.freezeSource p t=.ok head ∧ t.SoundHead head
  exposes : ∀ p t exposure,b.exposeSuccessor p t exposure=.ok ()
  releases : ∀ p,b.releaseMatchedCorrection p=.ok ()
  closes : ∀ p t,b.closeSuccessor p t=.ok ()
  completes : b.completeStudyRun=.ok ()

/-- It serves, and its observations are those that the plan asks for. -/
structure PilotExecutionBackend.Succeeds (b : PilotExecutionBackend hash ε)
    (pilot : FeasibilityPilotPlan hash) : Prop where
  serves : b.Serves
  observes : ∃ observations artifact,b.closedPairObservations=.ok observations ∧
    AnalysisArtifact.fromPreregisteredPlan pilot.livePlan.analysis observations=.ok artifact

/-- Calls that meet the backend and all succeed lead from one state to the other. -/
inductive Driven (b : PilotExecutionBackend hash ε) : PilotRun hash → PilotRun hash → Prop
  | refl (s : PilotRun hash) : Driven b s s
  | step (c : PilotCall hash ε) {s s₁ s' : PilotRun hash} : (c.retry b).run s=(.ok (),s₁) →
      Driven b s₁ s' → Driven b s s'

theorem Driven.trans {s₁ s₂ s₃ : PilotRun hash} (h : Driven b s₁ s₂) (h' : Driven b s₂ s₃) :
    Driven b s₁ s₃ := by
  induction h with
  | refl => exact h'
  | step c hrun _ ih => exact .step c hrun (ih h')

theorem PilotExecutionBackend.Serves.no_failure (hb : b.Serves) {e : ε} : ¬(c.retry b).Failure e := by
  cases c with
  | sealInto => exact id
  | start =>
    rintro (⟨admission,pilot,h⟩ | ⟨p,pair,h⟩ | h)
    · rw [hb.admits] at h; cases h
    · rw [hb.registers] at h; cases h
    · rw [hb.starts] at h; cases h
  | executePopulation =>
    rintro ⟨lifetime,h⟩
    rw [hb.executes] at h
    cases h
  | freezeSource _ p t =>
    intro h
    obtain ⟨head,hhead,_⟩ := hb.freezes p t
    have h : b.freezeSource p t=.error e := h
    rw [hhead] at h
    cases h
  | exposeSuccessor _ p t =>
    rintro ⟨exposure,h⟩
    rw [hb.exposes] at h
    cases h
  | releaseMatchedCorrection _ p =>
    intro h
    have h : b.releaseMatchedCorrection p=.error e := h
    rw [hb.releases] at h
    cases h
  | closeSuccessor _ p t =>
    intro h
    have h : b.closeSuccessor p t=.error e := h
    rw [hb.closes] at h
    cases h
  | complete =>
    intro h
    have h : b.completeStudyRun=.error e := h
    rw [hb.completes] at h
    cases h

theorem PilotExecutionBackend.Serves.sound (hb : b.Serves)
    (hobserves : (∃ b',c=.complete b') → ∃ observations,b.closedPairObservations=.ok observations) :
    (c.retry b).Sound := by
  cases c with
  | freezeSource _ p t =>
    intro head hhead
    obtain ⟨head',hhead',hsound⟩ := hb.freezes p t
    obtain rfl := Except.ok.inj (hhead.symm.trans hhead')
    exact hsound
  | complete b' => exact fun _ => hobserves ⟨b',rfl⟩
  | _ => trivial

/-- A call that passes its checks succeeds with a backend that serves it. -/
theorem PilotExecutionBackend.Serves.meets (hb : b.Serves) (hs : s.Kept)
    (hc : ∀ b',c=.complete b' → b.Succeeds s.runner.pilot) (hopen : c.Open s) :
    (c.retry b).run s=(.ok (),((c.retry b).run s).2) ∧
      Outcome s (c.retry b) (.ok ()) ((c.retry b).run s).2 := by
  have hsound : (c.retry b).Sound := by
    refine hb.sound ?_
    rintro ⟨b',h⟩
    obtain ⟨observations,_,ho,_⟩ := (hc b' h).observes
    exact ⟨observations,ho⟩
  have ho := ((c.retry b).follows hs hsound).outcome
  rcases hr : (c.retry b).run s with ⟨e | ⟨⟩,s'⟩
  · rw [hr] at ho
    rcases ho.error (open_retry.mpr hopen) with ⟨e',_,hf⟩ | ⟨b',e',h,_,observations,hobs,ha⟩
    · exact absurd hf hb.no_failure
    · cases c with
      | complete b'' =>
        cases h
        obtain ⟨observations',artifact,hobs',ha'⟩ := (hc b'' rfl).observes
        obtain rfl := Except.ok.inj (hobs.symm.trans hobs')
        rw [ha] at ha'
        cases ha'
      | _ => cases h
  · rw [hr] at ho
    exact ⟨rfl,ho⟩

theorem PilotExecutionBackend.Serves.succeeds (hb : b.Serves) (hs : s.Kept)
    (hc : ∀ b',c≠.complete b') (hopen : c.Open s) :
    (c.retry b).run s=(.ok (),((c.retry b).run s).2) ∧
      Outcome s (c.retry b) (.ok ()) ((c.retry b).run s).2 :=
  hb.meets hs (fun b' h => absurd h (hc b')) hopen

section Measure

/-- How far an arm has come. -/
def ArmLifecycle.rank : ArmLifecycle → Nat
  | .planned => 0
  | .sourceFrozen => 1
  | .successorExposed => 2
  | .correctionReleased => 3
  | .successorClosed => 4
  | .invalidated => 0

theorem rank_le (l : ArmLifecycle) : l.rank≤4 := by
  cases l <;> decide

def PairStateRecord.rank (r : PairStateRecord) : Nat :=
  (r.lifecycle .retained).rank+(r.lifecycle .reset).rank

def PilotRun.progress (s : PilotRun hash) : Nat := (s.runner.pairStates.map (·.rank)).sum

theorem rank_setArm (r : PairStateRecord) (t : TreatmentArm) (a : ArmStateRecord) :
    (r.setArm t a).rank+(r.lifecycle t).rank=r.rank+a.lifecycle.rank := by
  cases t <;> simp only [PairStateRecord.rank,PairStateRecord.setArm,PairStateRecord.lifecycle,
    PairStateRecord.arm] <;> omega

theorem sum_map_set {α : Type} (f : α → Nat) {l : List α} {p : Nat} {a : α} (b : α)
    (h : l[p]?=some a) : ((l.set p b).map f).sum+f a=(l.map f).sum+f b := by
  induction l generalizing p with
  | nil => cases h
  | cons x l ih =>
    cases p with
    | zero =>
      obtain rfl := Option.some.inj h
      simp only [List.set_cons_zero,List.map_cons,List.sum_cons]
      omega
    | succ p =>
      have hl := ih (show l[p]?=some a from h)
      simp only [List.set_cons_succ,List.map_cons,List.sum_cons]
      omega

theorem progress_setPair {e : BackendSuccess} (hr : s.runner.pairStates[p]?=some r)
    (r' : PairStateRecord) :
    ((s.record e).setPair p r').progress+r.rank=s.progress+r'.rank :=
  sum_map_set (·.rank) r' hr

theorem progress_le : s.progress≤8*s.runner.pairStates.length := by
  have hrank (r : PairStateRecord) : r.rank≤8 := by
    have h1 := rank_le (r.lifecycle .retained)
    have h2 := rank_le (r.lifecycle .reset)
    unfold PairStateRecord.rank
    omega
  unfold PilotRun.progress
  generalize s.runner.pairStates=l
  induction l with
  | nil => simp
  | cons r l ih =>
    have hr := hrank r
    simp only [List.map_cons,List.sum_cons,List.length_cons]
    omega

end Measure

/-- A run that came further, and is otherwise as it was. -/
structure Advanced (s s' : PilotRun hash) : Prop where
  kept : s'.Kept
  running : s'.runner.lifecycle=.running
  pilot : s'.runner.pilot=s.runner.pilot
  pairs : s'.runner.pairStates.length=s.runner.pairStates.length
  further : s.progress < s'.progress

theorem advanced_setPair {e : BackendSuccess} {r' : PairStateRecord}
    (hkept : ((s.record e).setPair p r').Kept) (hl : s.runner.lifecycle=.running)
    (hr : s.runner.pairStates[p]?=some r) (hrank : r.rank < r'.rank) :
    Advanced s ((s.record e).setPair p r') := by
  have hprogress := progress_setPair (e := e) hr r'
  refine ⟨hkept,hl,rfl,List.length_set,?_⟩
  omega

theorem rank_setArm_lt {l : ArmLifecycle} {a : ArmStateRecord} (hl : r.lifecycle t=l)
    (ha : l.rank<a.lifecycle.rank) : r.rank<(r.setArm t a).rank := by
  have h := rank_setArm r t a
  rw [hl] at h
  omega

theorem drive_population (hb : b.Serves) (hs : s.Kept) (hl : s.runner.lifecycle=.running)
    (hr : s.runner.pairStates[p]?=some r) (phase : PopulationPhase)
    (hgate : r.lifecycle t=phase.gate) : ∃ s',Driven b s s' ∧ s'.Kept ∧
      s'.runner={ s.runner with executedLifetimes := s'.runner.executedLifetimes } ∧
      s'.runner.populationComplete p t phase=true := by
  have hopen : (PilotCall.executePopulation b p t phase).Open s := ⟨hl,r,hr,hgate⟩
  obtain ⟨hrun,ho⟩ := hb.succeeds (c := .executePopulation b p t phase) hs (fun _ h => by cases h) hopen
  refine ⟨_,.step _ hrun (.refl _),ho.kept hs,?_⟩
  generalize ((PilotCall.executePopulation b p t phase).retry b).run s=x at ho
  cases ho with
  | populated _ _ _ _ _ _ hp hdone => exact ⟨hp.frame,hdone⟩

theorem drive_freeze (hb : b.Serves) (hs : s.Kept) (hl : s.runner.lifecycle=.running)
    (hr : s.runner.pairStates[p]?=some r) (hgate : r.lifecycle t=.planned)
    (hdone : s.runner.populationComplete p t .source=true) :
    ∃ s',Driven b s s' ∧ Advanced s s' := by
  have hopen : (PilotCall.freezeSource b p t).Open s := ⟨hl,⟨r,hr,hgate⟩,hdone⟩
  obtain ⟨hrun,ho⟩ := hb.succeeds (c := .freezeSource b p t) hs (fun _ h => by cases h) hopen
  refine ⟨_,.step _ hrun (.refl _),?_⟩
  have hk := ho.kept hs
  generalize (((PilotCall.freezeSource b p t).retry b).run s).2=s' at ho hk
  cases ho with
  | frozen _ _ _ r' _ _ hr' hl' _ =>
    refine advanced_setPair hk hl hr' (rank_setArm_lt hl' ?_)
    simp only [ArmLifecycle.rank]
    omega

theorem drive_expose (hb : b.Serves) (hs : s.Kept) (hl : s.runner.lifecycle=.running)
    (hr : s.runner.pairStates[p]?=some r) (hgate : r.lifecycle t=.sourceFrozen)
    (hother : r.lifecycle t.other=.sourceFrozen ∨ r.lifecycle t.other=.successorExposed) :
    ∃ s',Driven b s s' ∧ Advanced s s' := by
  have hopen : (PilotCall.exposeSuccessor b p t).Open s := ⟨hl,r,hr,hgate,hother⟩
  obtain ⟨hrun,ho⟩ := hb.succeeds (c := .exposeSuccessor b p t) hs (fun _ h => by cases h) hopen
  refine ⟨_,.step _ hrun (.refl _),?_⟩
  have hk := ho.kept hs
  generalize (((PilotCall.exposeSuccessor b p t).retry b).run s).2=s' at ho hk
  cases ho with
  | exposed _ _ _ r' _ _ _ hr' hl' _ _ _ =>
    refine advanced_setPair hk hl hr' (rank_setArm_lt hl' ?_)
    simp only [ArmLifecycle.rank]
    omega

theorem drive_release (hb : b.Serves) (hs : s.Kept) (hl : s.runner.lifecycle=.running)
    (hr : s.runner.pairStates[p]?=some r) (hgate : ∀ t,r.lifecycle t=.successorExposed) :
    ∃ s',Driven b s s' ∧ Advanced s s' := by
  have hopen : (PilotCall.releaseMatchedCorrection b p).Open s := ⟨hl,r,hr,hgate⟩
  obtain ⟨hrun,ho⟩ := hb.succeeds (c := .releaseMatchedCorrection b p) hs (fun _ h => by cases h) hopen
  refine ⟨_,.step _ hrun (.refl _),?_⟩
  have hk := ho.kept hs
  generalize (((PilotCall.releaseMatchedCorrection b p).retry b).run s).2=s' at ho hk
  cases ho with
  | released _ _ r' _ hr' _ hl' =>
    refine advanced_setPair hk hl hr' ?_
    have hretained := hl' .retained
    have hreset := hl' .reset
    simp only [PairStateRecord.rank,hretained,hreset]
    simp [PairStateRecord.lifecycle,PairStateRecord.arm,ArmLifecycle.rank]

theorem drive_close (hb : b.Serves) (hs : s.Kept) (hl : s.runner.lifecycle=.running)
    (hr : s.runner.pairStates[p]?=some r) (hgate : r.lifecycle t=.correctionReleased)
    (hdone : s.runner.populationComplete p t .successor=true) :
    ∃ s',Driven b s s' ∧ Advanced s s' := by
  have hopen : (PilotCall.closeSuccessor b p t).Open s := ⟨hl,⟨r,hr,hgate⟩,hdone⟩
  obtain ⟨hrun,ho⟩ := hb.succeeds (c := .closeSuccessor b p t) hs (fun _ h => by cases h) hopen
  refine ⟨_,.step _ hrun (.refl _),?_⟩
  have hk := ho.kept hs
  generalize (((PilotCall.closeSuccessor b p t).retry b).run s).2=s' at ho hk
  cases ho with
  | closed _ _ _ r' _ hr' hl' =>
    refine advanced_setPair hk hl hr' (rank_setArm_lt hl' ?_)
    simp only [ArmLifecycle.rank]
    omega

/-- An advance that begins with a population. -/
theorem Advanced.after {s₁ : PilotRun hash} (h : Advanced s₁ s')
    (hframe : s₁.runner={ s.runner with executedLifetimes := s₁.runner.executedLifetimes }) :
    Advanced s s' := by
  have hpilot : s₁.runner.pilot=s.runner.pilot := by rw [hframe]
  have hpairs : s₁.runner.pairStates=s.runner.pairStates := by rw [hframe]
  have hprogress : s₁.progress=s.progress := by
    unfold PilotRun.progress
    rw [hpairs]
  refine ⟨h.kept,h.running,h.pilot.trans hpilot,?_,?_⟩
  · rw [h.pairs,hpairs]
  · rw [← hprogress]
    exact h.further

theorem drive_population_then {phase : PopulationPhase} (hb : b.Serves) (hs : s.Kept)
    (hl : s.runner.lifecycle=.running) (hr : s.runner.pairStates[p]?=some r)
    (hgate : r.lifecycle t=phase.gate)
    (hnext : ∀ s₁ : PilotRun hash,s₁.Kept → s₁.runner.lifecycle=.running →
      s₁.runner.pairStates[p]?=some r → s₁.runner.populationComplete p t phase=true →
      ∃ s',Driven b s₁ s' ∧ Advanced s₁ s') : ∃ s',Driven b s s' ∧ Advanced s s' := by
  obtain ⟨s₁,hdriven,hk,hframe,hdone⟩ := drive_population hb hs hl hr phase hgate
  have hl₁ : s₁.runner.lifecycle=.running := by rw [hframe]; exact hl
  have hr₁ : s₁.runner.pairStates[p]?=some r := by rw [hframe]; exact hr
  obtain ⟨s',hdriven',ha⟩ := hnext s₁ hk hl₁ hr₁ hdone
  exact ⟨s',hdriven.trans hdriven',ha.after hframe⟩

/-- While an arm of a pair is open, some calls bring the run further. -/
theorem drive_further (hb : b.Serves) (hs : s.Kept) (hl : s.runner.lifecycle=.running)
    (hr : s.runner.pairStates[p]?=some r) (hopen : r.lifecycle t≠.successorClosed) :
    ∃ s',Driven b s s' ∧ Advanced s s' := by
  have htold := hs.told p r hr
  have hvalid (t : TreatmentArm) : r.lifecycle t≠.invalidated := (htold.arms t).valid
  have hmatched {t : TreatmentArm} (t' : TreatmentArm) (h : (r.lifecycle t).Released) :
      (r.lifecycle t').Released :=
    (htold.matched.together (htold.matched.flagged t h) t').resolve_right (hvalid t')
  have hpopulate {t : TreatmentArm} (h : r.lifecycle t=.planned) :
      ∃ s',Driven b s s' ∧ Advanced s s' :=
    drive_population_then hb hs hl hr (show _=PopulationPhase.source.gate from h)
      (fun s₁ hk hl₁ hr₁ hdone => drive_freeze hb hk hl₁ hr₁ h hdone)
  have hother {t t' : TreatmentArm} (h : r.lifecycle t=.sourceFrozen ∨ r.lifecycle t=.successorExposed)
      (hp : r.lifecycle t'≠.planned) : r.lifecycle t'=.sourceFrozen ∨
        r.lifecycle t'=.successorExposed := by
    have hno : ¬(r.lifecycle t').Released := by
      intro hr'
      have hrel := hmatched t hr'
      rcases h with h | h <;> rw [h] at hrel <;> rcases hrel with hrel | hrel <;> cases hrel
    cases hl' : r.lifecycle t' with
    | planned => exact absurd hl' hp
    | sourceFrozen => exact .inl rfl
    | successorExposed => exact .inr rfl
    | correctionReleased => exact absurd (.inl hl') hno
    | successorClosed => exact absurd (.inr hl') hno
    | invalidated => exact absurd hl' (hvalid t')
  by_cases hplanned : ∃ t,r.lifecycle t=.planned
  · obtain ⟨t,ht⟩ := hplanned
    exact hpopulate ht
  have hmoved (t : TreatmentArm) : r.lifecycle t≠.planned := fun h => hplanned ⟨t,h⟩
  by_cases hfrozen : ∃ t,r.lifecycle t=.sourceFrozen
  · obtain ⟨t,ht⟩ := hfrozen
    exact drive_expose hb hs hl hr ht (hother (.inl ht) (hmoved t.other))
  by_cases hexposed : ∃ t,r.lifecycle t=.successorExposed
  · obtain ⟨t,ht⟩ := hexposed
    refine drive_release hb hs hl hr (fun t' => ?_)
    exact (hother (.inr ht) (hmoved t')).resolve_left (fun h => hfrozen ⟨t',h⟩)
  have hreleased : r.lifecycle t=.correctionReleased := by
    cases hl' : r.lifecycle t with
    | correctionReleased => rfl
    | planned => exact absurd hl' (hmoved t)
    | sourceFrozen => exact absurd ⟨t,hl'⟩ hfrozen
    | successorExposed => exact absurd ⟨t,hl'⟩ hexposed
    | successorClosed => exact absurd hl' hopen
    | invalidated => exact absurd hl' (hvalid t)
  have hgate : r.lifecycle t=PopulationPhase.successor.gate := hreleased
  exact drive_population_then hb hs hl hr hgate
    (fun s₁ hk hl₁ hr₁ hdone => drive_close hb hk hl₁ hr₁ hreleased hdone)

/-- A running pilot can be driven to where every arm of every pair is closed. -/
theorem drive_closed (hb : b.Serves) (hs : s.Kept) (hl : s.runner.lifecycle=.running) :
    ∃ s',Driven b s s' ∧ s'.Kept ∧ s'.runner.lifecycle=.running ∧
      s'.runner.pilot=s.runner.pilot ∧
      ∀ r∈s'.runner.pairStates,∀ t,r.lifecycle t=.successorClosed := by
  induction hn : 8*s.runner.pairStates.length-s.progress using Nat.strong_induction_on generalizing s with
  | _ n ih =>
  by_cases hall : ∀ r∈s.runner.pairStates,∀ t,r.lifecycle t=.successorClosed
  · exact ⟨s,.refl s,hs,hl,rfl,hall⟩
  · push Not at hall
    obtain ⟨r,hmem,t,hopen⟩ := hall
    obtain ⟨p,hr⟩ := List.mem_iff_getElem?.mp hmem
    obtain ⟨s₁,hdriven,ha⟩ := drive_further hb hs hl hr hopen
    have hbound := progress_le (s := s₁)
    have hfurther := ha.further
    have hpairs := ha.pairs
    obtain ⟨s',hdriven',hk,hl',hpilot,hclosed⟩ := ih _ (by omega) ha.kept ha.running rfl
    exact ⟨s',hdriven.trans hdriven',hk,hl',hpilot.trans ha.pilot,hclosed⟩

/-- A call that passed its checks and succeeded leaves the run going, or completed. -/
theorem Outcome.going (h : Outcome s c (.ok ()) s') (hopen : c.Open s) :
    s'.runner.pilot=s.runner.pilot ∧
      (s'.runner.lifecycle=.running ∨ s'.runner.lifecycle=.completed) := by
  cases h with
  | sealed => exact absurd hopen id
  | started => exact ⟨rfl,.inl rfl⟩
  | populated _ _ _ _ _ _ hp =>
    rw [hp.frame]
    exact ⟨rfl,.inl hopen.1⟩
  | frozen => exact ⟨rfl,.inl hopen.1⟩
  | exposed => exact ⟨rfl,.inl hopen.1⟩
  | released => exact ⟨rfl,.inl hopen.1⟩
  | closed => exact ⟨rfl,.inl hopen.1⟩
  | completed => exact ⟨rfl,.inr rfl⟩

theorem drive_completed (hb : b.Succeeds s.runner.pilot) (hs : s.Kept)
    (hl : s.runner.lifecycle=.running ∨ s.runner.lifecycle=.completed) :
    ∃ s',Driven b s s' ∧ s'.runner.lifecycle=.completed := by
  rcases hl with hl | hl
  · obtain ⟨s₁,hdriven,hk,hl₁,hpilot,hclosed⟩ := drive_closed hb.serves hs hl
    have hb₁ : b.Succeeds s₁.runner.pilot := by rw [hpilot]; exact hb
    have hopen : (PilotCall.complete b).Open s₁ := ⟨hl₁,hclosed⟩
    obtain ⟨hrun,ho⟩ := hb.serves.meets (c := .complete b) hk (fun _ _ => hb₁) hopen
    refine ⟨_,hdriven.trans (.step _ hrun (.refl _)),?_⟩
    generalize (((PilotCall.complete b).retry b).run s₁).2=s' at ho
    cases ho with
    | completed => rfl
  · exact ⟨s,.refl s,hl⟩

end Driving

section Laws
variable {s : PilotRun hash} {h : List (Entry (PilotCall hash ε) (PilotRunnerError ε) Unit)}

/-- The runs of a new runner over calls that are all sound. -/
abbrev PilotRuns := Reached (σ := PilotRun hash) (ε := PilotRunnerError ε) PilotCall.run
  PilotRun.Initial (fun _ _ c => c.Sound)

theorem PilotRuns.kept (hr : PilotRuns h s) : s.Kept := by
  refine hr.invariant (fun _ s => s.Kept) (fun s hs => Initial.kept hs) ?_
  intro h s c _ hc hs
  exact Handler.wp_mono (fun _ s' ho => ho.kept hs) (fun _ s' ho => ho.kept hs) (c.follows hs hc)

/-- Over sound calls the backend does only what is permitted, there is an artifact only of a
completed run, and a call that the backend failed can be repeated and the run completed. -/
theorem pilot_run_lawful (hr : PilotRuns h s) :
    (∀ l e l',s.seen=l++e::l' → Permitted s.pairCount l e) ∧
    (s.runner.artifact≠none → .completed∈s.seen) ∧
    ∀ (c : PilotCall hash ε) (e : ε),c.Sound → (c.run s).1=.error (.backend e) →
      (∀ b,(c.retry b).Sound → ∀ err,((c.retry b).run (c.run s).2).1=.error err →
        (∃ e,err=.backend e) ∨ ∃ e,err=.analysis e) ∧
      ∀ b,b.Succeeds s.runner.pilot → ∃ s₁ s₂,(c.retry b).run (c.run s).2=(.ok (),s₁) ∧
        Driven b s₁ s₂ ∧ s₂.runner.lifecycle=.completed := by
  have hs := PilotRuns.kept hr
  refine ⟨hs.permitted,hs.artifact,fun c e hc he => ?_⟩
  have ho := (c.follows hs hc).outcome
  have hk := ho.kept hs
  rw [he] at ho
  have hopen := ho.open
  have hpilot : (c.run s).2.runner.pilot=s.runner.pilot := by
    generalize (c.run s).2=s' at ho
    cases ho with
    | refused _ _ _ hno => exact absurd rfl (hno e)
    | failed => rfl
    | unstarted => rfl
    | unpopulated _ _ _ _ _ _ _ hp => rw [hp.frame]
  refine ⟨fun b hb err herr => ?_,fun b hb => ?_⟩
  · have ho' := ((c.retry b).follows hk hb).outcome
    rw [herr] at ho'
    rcases ho'.error (open_retry.mpr hopen) with ⟨e',he',_⟩ | ⟨_,e',_,he',_⟩
    · exact .inl ⟨e',he'⟩
    · exact .inr ⟨e',he'⟩
  · have hb' : b.Succeeds (c.run s).2.runner.pilot := by rw [hpilot]; exact hb
    obtain ⟨hrun,ho'⟩ := hb.serves.meets hk (fun _ _ => hb') hopen
    obtain ⟨hpilot',hl⟩ := ho'.going (open_retry.mpr hopen)
    obtain ⟨s₂,hdriven,hdone⟩ := drive_completed (by rw [hpilot']; exact hb') (ho'.kept hk) hl
    exact ⟨_,s₂,hrun,hdriven,hdone⟩

end Laws

section Willing

/-- No metric could be measured. -/
def unmeasured : ArmAnalysisObservation :=
  ⟨List.Vector.replicate 11 (.unavailable (Kernel.plainDigest 0))⟩

theorem plannedSlots_valid : 1≤11 ∧ 11≤64 := by decide

/-- An observation of the pair that was drawn with its seed. -/
def plannedObservation (pair : PairSeed) : PairObservation where
  pairId := pair.pairId
  retained := unmeasured
  reset := unmeasured
  provenance := some
    { retainedEpisodeId := nth 1, resetEpisodeId := nth 2,
      protocolRevisionId := nth 1, worldRevisionId := nth 1,
      measurementRevisionId := nth 1, measurementSlotCount := ⟨11,plannedSlots_valid⟩,
      institutionRevisionId := nth 1,
      retainedSourcePopulationSnapshotId := nth 1,
      resetSourcePopulationSnapshotId := nth 2,
      retainedSuccessorPopulationSnapshotId := nth 3,
      resetSuccessorPopulationSnapshotId := nth 4, randomizationDigest := pair.seedDigest,
      retainedFrozenForumHead := ⟨0,I64.zero_valid⟩, resetFrozenForumHead := ⟨0,I64.zero_valid⟩,
      retainedGroundTruthRevealDigest := pair.seedDigest,
      resetGroundTruthRevealDigest := pair.seedDigest }

/-- A backend that answers every request, with head zero and the given observations. -/
def willing (hash : Bytes → Blake3Digest) (ε : Type) (observations : Except ε (List PairObservation)) :
    PilotExecutionBackend hash ε where
  admitStudyRun _ _ := .ok ()
  registerPair _ _ := .ok ()
  startStudyRun := .ok ()
  executeActorLifetime _ := .ok ()
  freezeSource _ _ := .ok ⟨0,I64.zero_valid⟩
  exposeSuccessor _ _ _ := .ok ()
  releaseMatchedCorrection _ := .ok ()
  closeSuccessor _ _ := .ok ()
  completeStudyRun := .ok ()
  closedPairObservations := observations

theorem willing_serves (observations : Except ε (List PairObservation)) :
    (willing hash ε observations).Serves := by
  refine ⟨fun _ _ => rfl,fun _ _ => rfl,rfl,fun _ => rfl,fun _ t => ⟨⟨0,by decide⟩,rfl,?_⟩,
    fun _ _ _ => rfl,fun _ => rfl,fun _ _ => rfl,rfl⟩
  exact ⟨le_rfl,fun _ => by decide⟩

theorem matchPlan_planned (l : List PairSeed) : AnalysisArtifact.matchPlan
    (l.map plannedObservation) (l.map (·.pairId)) (l.map (·.seedDigest))=.ok () := by
  induction l with
  | nil => rfl
  | cons pair l ih =>
    simp only [List.map_cons,AnalysisArtifact.matchPlan]
    simpa [plannedObservation] using ih

theorem rejectDuplicatePairs_planned {α : Type} {e e' : α}
    {prior : List (AnalysisPairId × Blake3Digest)} {l : List PairSeed}
    (h : rejectDuplicates e e' prior (l.map (fun p => (p.pairId,p.seedDigest)))=.ok ()) :
    AnalysisArtifact.rejectDuplicatePairs (prior.map (·.1)) (l.map plannedObservation)=.ok () := by
  induction l generalizing prior with
  | nil => rfl
  | cons pair l ih =>
    simp only [List.map_cons,rejectDuplicates] at h
    split at h
    · cases h
    · next hfresh =>
      split at h
      · cases h
      · have hrest := ih h
        have hnew : (prior.map (·.1)).contains (plannedObservation pair).pairId=false := by
          simpa [plannedObservation] using hfresh
        rw [List.map_append] at hrest
        simp only [List.map_cons,AnalysisArtifact.rejectDuplicatePairs,hnew]
        exact hrest

/-- The willing backend succeeds when it has the planned observations. -/
theorem willing_succeeds (pilot : FeasibilityPilotPlan hash) :
    (willing hash ε (.ok (pilot.livePlan.pairs.map plannedObservation))).Succeeds pilot := by
  obtain ⟨targets,hnew⟩ := pilot.planned
  obtain ⟨_,_,hids,hseeds,_,_⟩ := new_parts hnew
  have hlen : ¬(pilot.livePlan.pairs.map plannedObservation).length≠
      pilot.livePlan.analysis.pairIds.length := by
    simp [hids]
  have hsome : ¬pilot.livePlan.pairs.map plannedObservation=[] := by
    intro hnil
    have hzero := congrArg List.length hnil
    rw [List.length_map,pilot.pairCount] at hzero
    cases hzero
  have hfresh : AnalysisArtifact.rejectDuplicatePairs [] (pilot.livePlan.pairs.map plannedObservation)=
      .ok () := by
    unfold LiveRunPlan.new at hnew
    split at hnew
    · cases hnew
    · cases hr : rejectDuplicates LivePlanError.duplicatePairId .duplicateWorldSeed []
          (pilot.livePlan.pairs.map (fun p => (p.pairId,p.seedDigest))) with
      | error e => simp [hr,bind,Except.bind] at hnew
      | ok u => exact rejectDuplicatePairs_planned hr
  have hmatch := matchPlan_planned pilot.livePlan.pairs
  rw [← hids,← hseeds] at hmatch
  have hartifact : ∃ artifact,AnalysisArtifact.fromPreregisteredPlan pilot.livePlan.analysis
      (pilot.livePlan.pairs.map plannedObservation)=.ok artifact := by
    rw [AnalysisArtifact.fromPreregisteredPlan,if_neg hlen,hmatch]
    simp only [bind,Except.bind,AnalysisArtifact.fromPairs,if_neg hsome,hfresh]
    exact ⟨_,rfl⟩
  obtain ⟨artifact,ha⟩ := hartifact
  exact ⟨willing_serves _,_,artifact,rfl,ha⟩

end Willing

section Instances

/-- A pilot of two pairs, with its plan sealed. -/
theorem sealed_pilot : ∃ s : PilotRun blake3,∃ h : List (Entry (PilotCall blake3 Unit)
    (PilotRunnerError Unit) Unit),PilotRuns h s ∧ s.Kept ∧
      (PilotCall.start (willing blake3 Unit (.error ()))).Open s := by
  obtain ⟨d,hd⟩ := canonical_exists cards_frozen plainPolicy
  have hp : ∃ p,LiveRunPlan.new blake3 d
    [seededPair "a" (by decide) 1,seededPair "b" (by decide) 2] unitTargets=.ok p := ⟨_,rfl⟩
  obtain ⟨p,hp⟩ := hp
  obtain ⟨hdescriptor,hpairs,_,_,_,hseal⟩ := new_parts hp
  have hcount : p.pairs.length=pilotPairCount := by rw [hpairs]; rfl
  let pilot : FeasibilityPilotPlan blake3 := ⟨p,⟨plainPolicy,by rw [hdescriptor]; exact hd⟩,
    ⟨unitTargets,by rw [hdescriptor,hpairs]; exact hp⟩,hcount⟩
  let operation : Resident.StudyAdmissionOperationId := ⟨"pilot",by decide⟩
  have hprepared : PreparedLiveRunAdmission.new blake3 operation p=
      .ok ⟨operation,p.admissionBytes blake3,p.sealedDigest,⟨2,by decide⟩⟩ := by
    have hranged : Kernel.Ranged.new 1 10000 p.pairs.length=some ⟨2,by decide⟩ := by
      rw [hpairs]
      rfl
    rw [PreparedLiveRunAdmission.new,hranged]
    exact if_neg (not_not.mpr hseal.symm)
  let runner : CanonicalPilotRunner blake3 :=
    { pilot, prepared := ⟨operation,p.admissionBytes blake3,p.sealedDigest,⟨2,by decide⟩⟩,
      sealed := none, lifecycle := .prepared, pairStates := p.choreographies.map .planned,
      executedLifetimes := [], artifact := none }
  have hinitial : PilotRun.Initial ⟨runner,[]⟩ := by
    refine ⟨rfl,operation,pilot,?_⟩
    rw [CanonicalPilotRunner.new]
    change PreparedLiveRunAdmission.new blake3 operation p >>= _ = _
    rw [hprepared]
    rfl
  have hstart : PilotRuns (ε := Unit) [] ⟨runner,[]⟩ := .start hinitial
  let content : Resident.SealedStudyContent := ⟨⟨1,by decide⟩,p.sealedDigest,⟨1,by decide⟩⟩
  have hwp : Handler.wp (PilotCall.sealInto (.ok content) : PilotCall blake3 Unit).run
      (fun _ s => s.runner.lifecycle=.sealed ∧ s.runner.sealed≠none) (fun _ _ => False)
      ⟨runner,[]⟩ := by
    simp only [PilotCall.run,PilotRun.sealInto,Handler.wp_bind,Handler.wp_get,Handler.wp_ensure,
      Handler.wp_lift,Handler.wp_modify]
    have hsealed : runner.prepared.sealInto (.ok content)=.ok ⟨content,p.sealedDigest,⟨2,by decide⟩⟩ :=
      if_neg (not_not.mpr rfl)
    rw [hsealed]
    refine ⟨fun _ => ⟨fun admission ha => ?_,(fun _ h => by cases h)⟩,fun h => absurd rfl h⟩
    obtain rfl := Except.ok.inj ha
    exact ⟨fun _ => ⟨rfl,(fun h => by cases h)⟩,fun h => absurd ⟨rfl,hcount.symm⟩ h⟩
  have hopen : (PilotCall.start (willing blake3 Unit (.error ()))).Open
      ((PilotCall.sealInto (.ok content) : PilotCall blake3 Unit).run ⟨runner,[]⟩).2 := by
    have hw := (Handler.wp_iff _).mp hwp
    rcases hrun : ((PilotCall.sealInto (.ok content) : PilotCall blake3 Unit).run ⟨runner,[]⟩).1 with
      e | u
    · exact (hw.2 e hrun).elim
    · exact hw.1 u hrun
  have hsealed := Reached.call (PilotCall.sealInto (.ok content)) hstart trivial
  exact ⟨_,_,hsealed,PilotRuns.kept hsealed,hopen⟩

/-- A backend that refuses the plan, and serves all other requests. -/
def refusing : PilotExecutionBackend blake3 Unit :=
  { willing blake3 Unit (.error ()) with admitStudyRun := fun _ _ => .error () }

/-- A start that the backend failed is repeated, and the pilot brought to its end. -/
theorem pilot_run_lawful_restarted : ∃ s : PilotRun blake3,
    ((PilotCall.start refusing).run s).1=.error (.backend ()) ∧
    ∃ (b : PilotExecutionBackend blake3 Unit) (s₁ s₂ : PilotRun blake3),
      (PilotCall.start b).run ((PilotCall.start refusing).run s).2=(.ok (),s₁) ∧
      Driven b s₁ s₂ ∧ s₂.runner.lifecycle=.completed := by
  obtain ⟨s,h,hr,hk,hopen⟩ := sealed_pilot
  have hwp : Handler.wp (PilotCall.start refusing).run (fun _ _ => False)
      (fun e _ => e=.backend ()) s := by
    obtain ⟨admission,hsealed⟩ := Option.ne_none_iff_exists'.mp hopen.2
    simp only [PilotCall.run,PilotRun.start,Handler.wp_bind,Handler.wp_get,Handler.wp_ensure,hsealed,
      Handler.wp_lift,wp_ask]
    exact ⟨fun _ => ⟨fun _ _ => ⟨(fun _ h => by cases h),fun _ _ => trivial⟩,(fun _ h => by cases h)⟩,fun h => absurd hopen.1 h⟩
  have herror : ((PilotCall.start refusing).run s).1=.error (.backend ()) := by
    rcases hrun : ((PilotCall.start refusing).run s).1 with e | u
    · rw [((Handler.wp_iff _).mp hwp).2 e hrun]
    · exact (((Handler.wp_iff _).mp hwp).1 u hrun).elim
  refine ⟨s,herror,willing blake3 Unit (.ok (s.runner.pilot.livePlan.pairs.map plannedObservation)),?_⟩
  exact ((pilot_run_lawful hr).2.2 (.start refusing) () trivial herror).2 _ (willing_succeeds _)

/-- The runs of a new runner over any calls at all. -/
abbrev AnyPilotRuns := Reached (σ := PilotRun hash) (ε := PilotRunnerError ε) PilotCall.run
  PilotRun.Initial (fun _ _ _ => True)

theorem AnyPilotRuns.driven {b : PilotExecutionBackend hash ε} {s s' : PilotRun hash}
    {h : List (Entry (PilotCall hash ε) (PilotRunnerError ε) Unit)} (hr : AnyPilotRuns h s)
    (hd : Driven b s s') : ∃ h',AnyPilotRuns (ε := ε) h' s' := by
  induction hd generalizing h with
  | refl => exact ⟨h,hr⟩
  | step c hrun _ ih =>
    have hcall := Reached.call (c.retry b) hr trivial
    rw [hrun] at hcall
    exact ih hcall

/-- The run is completed and closed when the observations cannot be read, and the repeated call
is refused. -/
theorem complete_unread {s : PilotRun hash} {b : PilotExecutionBackend hash ε} {e : ε}
    (hopen : (PilotCall.complete b).Open s) (hdone : b.completeStudyRun=.ok ())
    (hunread : b.closedPairObservations=.error e) :
    ((PilotCall.complete b).run s).1=.error (.backend e) ∧
    ∀ b' : PilotExecutionBackend hash ε,((PilotCall.complete b').run ((PilotCall.complete b).run s).2).1=
      .error (.invalidLifecycle .running .closed) := by
  have hwp : Handler.wp (PilotCall.complete b).run (fun _ _ => False)
      (fun err s' => err=.backend e ∧ s'.runner.lifecycle=.closed) s := by
    simp only [PilotCall.run,wp_discard,PilotRun.complete,Handler.wp_bind,wp_requireRunning,
      Handler.wp_get,Handler.wp_ensure,wp_ask,Handler.wp_modify,hdone,hunread]
    refine ⟨fun _ => ⟨fun _ => ⟨fun _ _ => ⟨(fun _ h => by cases h),fun e' he => ?_⟩,(fun _ h => by cases h)⟩,fun h => ?_⟩,
      fun h => absurd hopen.1 h⟩
    · obtain rfl := Except.error.inj he
      exact ⟨rfl,rfl⟩
    · exact absurd (fun r hr => ⟨hopen.2 r hr .retained,hopen.2 r hr .reset⟩) h
  rcases hrun : (PilotCall.complete b).run s with ⟨err | u,s'⟩
  · have he := ((Handler.wp_iff _).mp hwp).2 err (by rw [hrun])
    rw [hrun] at he
    obtain ⟨rfl,hl⟩ := he
    refine ⟨rfl,fun b' => ?_⟩
    have hwp' : Handler.wp (PilotCall.complete b').run (fun _ _ => False)
        (fun err _ => err=.invalidLifecycle .running .closed) s' := by
      simp only [PilotCall.run,wp_discard,PilotRun.complete,Handler.wp_bind,wp_requireRunning]
      rw [hl]
      exact ⟨(fun h => by cases h),fun _ => rfl⟩
    rcases hrun' : ((PilotCall.complete b').run s').1 with err | u
    · rw [((Handler.wp_iff _).mp hwp').2 err hrun']
    · exact (((Handler.wp_iff _).mp hwp').1 u hrun').elim
  · have he := ((Handler.wp_iff _).mp hwp).1 u (by rw [hrun])
    exact he.elim

/-- A pilot that is brought to where all its arms are closed, and whose backend then completes the
run and cannot read the observations. -/
theorem complete_not_retried : ¬∀ (h : List (Entry (PilotCall blake3 Unit) (PilotRunnerError Unit) Unit))
    (s : PilotRun blake3),AnyPilotRuns h s → ∀ (c : PilotCall blake3 Unit) (e : Unit),
      (c.run s).1=.error (.backend e) → ∀ b err,((c.retry b).run (c.run s).2).1=.error err →
        (∃ e,err=.backend e) ∨ ∃ e,err=.analysis e := by
  intro hall
  obtain ⟨s,h,hr,hk,hopen⟩ := sealed_pilot
  let b := willing blake3 Unit (.error ())
  have hb : b.Serves := willing_serves _
  obtain ⟨hrun,ho⟩ := hb.succeeds (c := .start b) hk (fun _ h => by cases h) hopen
  obtain ⟨_,hl⟩ := ho.going hopen
  have hk₁ := ho.kept hk
  have hl₁ : (((PilotCall.start b).retry b).run s).2.runner.lifecycle=.running := by
    generalize (((PilotCall.start b).retry b).run s).2=s' at ho
    cases ho with
    | started => rfl
  obtain ⟨s₂,hdriven,_,hl₂,_,hclosed⟩ := drive_closed hb hk₁ hl₁
  have hany : AnyPilotRuns h s := hr.mono (fun _ _ _ _ => trivial)
  obtain ⟨h₂,hr₂⟩ := AnyPilotRuns.driven hany (.step _ hrun hdriven)
  obtain ⟨herror,hretry⟩ := complete_unread (b := b) (e := ()) ⟨hl₂,hclosed⟩ rfl rfl
  rcases hall h₂ s₂ hr₂ (.complete b) () herror b _ (hretry b) with ⟨_,h⟩ | ⟨_,h⟩
  · cases h
  · cases h

end Instances
end Society.Latency
