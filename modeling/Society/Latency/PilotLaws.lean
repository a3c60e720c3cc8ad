import Society.Latency.PilotRunner
import Society.Latency.PromptLaws
import Society.Latency.ChoreographyLaws

namespace Society.Latency
open Society.Coding Society.Stateful
open Society.Kernel (Blake3Digest I64)
open Society.Relational (bigintLimit)

/-! The runs of the pilot coordinator under a backend that fails as it likes. -/

variable {hash : Bytes → Blake3Digest} {ε : Type}

section Calls

/-- The calls on a pilot, each with the answers of the backend while it runs. -/
inductive PilotCall (hash : Bytes → Blake3Digest) (ε : Type) where
  | sealInto (daemon : Except Resident.StudyAdmissionError Resident.SealedStudyContent)
  | start (backend : PilotExecutionBackend hash ε)
  | executePopulation (backend : PilotExecutionBackend hash ε) (p : Nat) (t : TreatmentArm)
      (phase : PopulationPhase)
  | freezeSource (backend : PilotExecutionBackend hash ε) (p : Nat) (t : TreatmentArm)
  | exposeSuccessor (backend : PilotExecutionBackend hash ε) (p : Nat) (t : TreatmentArm)
  | releaseMatchedCorrection (backend : PilotExecutionBackend hash ε) (p : Nat)
  | closeSuccessor (backend : PilotExecutionBackend hash ε) (p : Nat) (t : TreatmentArm)
  | complete (backend : PilotExecutionBackend hash ε)

def discard {σ ε α : Type} (m : Handler σ ε α) : Handler σ ε Unit := do
  let _ ← m
  pure ()

def PilotCall.run : PilotCall hash ε → PilotRun.Call hash ε Unit
  | sealInto daemon => PilotRun.sealInto daemon
  | start b => PilotRun.start b
  | executePopulation b p t phase => PilotRun.executePopulation b p t phase
  | freezeSource b p t => discard (PilotRun.freezeSource b p t)
  | exposeSuccessor b p t => discard (PilotRun.exposeSuccessor b p t)
  | releaseMatchedCorrection b p => PilotRun.releaseMatchedCorrection b p
  | closeSuccessor b p t => PilotRun.closeSuccessor b p t
  | complete b => discard (PilotRun.complete b)

/-- The same call, met by another backend. -/
def PilotCall.retry (b : PilotExecutionBackend hash ε) : PilotCall hash ε → PilotCall hash ε
  | sealInto daemon => .sealInto daemon
  | start _ => .start b
  | executePopulation _ p t phase => .executePopulation b p t phase
  | freezeSource _ p t => .freezeSource b p t
  | exposeSuccessor _ p t => .exposeSuccessor b p t
  | releaseMatchedCorrection _ p => .releaseMatchedCorrection b p
  | closeSuccessor _ p t => .closeSuccessor b p t
  | complete _ => .complete b

/-- A new runner of any pilot, and a backend that did nothing yet. -/
def PilotRun.Initial (s : PilotRun hash) : Prop :=
  s.seen=[] ∧ ∃ operation pilot,CanonicalPilotRunner.new operation pilot=.ok s.runner

/-- A head that the arm can be exposed past. -/
def TreatmentArm.SoundHead (t : TreatmentArm) (head : I64) : Prop :=
  0≤head.val ∧ (t=.reset → head.val+1<bigintLimit)

/-- The backend freezes at no head that the arm cannot be exposed past, and once it has completed
the run it has the observations. -/
def PilotCall.Sound : PilotCall hash ε → Prop
  | freezeSource b p t => ∀ head,b.freezeSource p t=.ok head → t.SoundHead head
  | complete b => b.completeStudyRun=.ok () → ∃ observations,b.closedPairObservations=.ok observations
  | sealInto _ | start _ | executePopulation .. | exposeSuccessor .. | releaseMatchedCorrection ..
  | closeSuccessor .. => True

end Calls

section Operations
variable (s : PilotRun hash) {α : Type} {Q : α → PilotRun hash → Prop}
  {E : PilotRunnerError ε → PilotRun hash → Prop}

@[simp] theorem PilotRun.runner_record (e : BackendSuccess) : (s.record e).runner=s.runner := rfl

@[simp] theorem PilotRun.seen_record (e : BackendSuccess) : (s.record e).seen=s.seen++[e] := rfl

@[simp] theorem PilotRun.seen_setPair (p : Nat) (r : PairStateRecord) :
    (s.setPair p r).seen=s.seen := rfl

@[simp] theorem PilotRun.seen_setLifecycle (l : PilotRunLifecycle) :
    (s.setLifecycle l).seen=s.seen := rfl

theorem wp_ask (answer : Except ε α) (f : α → BackendSuccess) :
    Handler.wp (PilotRun.ask answer f : PilotRun.Call hash ε α) Q E s ↔
      (∀ a,answer=.ok a → Q a (s.record (f a))) ∧ (∀ e,answer=.error e → E (.backend e) s) := by
  cases answer <;> simp [PilotRun.ask,Except.mapError]

theorem wp_requireRunning {Q : Unit → PilotRun hash → Prop} :
    Handler.wp (PilotRun.requireRunning : PilotRun.Call hash ε Unit) Q E s ↔
      (s.runner.lifecycle=.running → Q () s) ∧ (s.runner.lifecycle≠.running →
        E (.invalidLifecycle .running s.runner.lifecycle) s) := by
  simp [PilotRun.requireRunning]

theorem wp_pairState (t : PilotRun hash) {Q : PairStateRecord → PilotRun hash → Prop} (p : Nat) :
    Handler.wp (Handler.lift (t.runner.pairState p) : PilotRun.Call hash ε PairStateRecord) Q E s ↔
      (∀ r,t.runner.pairStates[p]?=some r → Q r s) ∧
        (t.runner.pairStates[p]?=none → E (.pairOrdinal p) s) := by
  unfold CanonicalPilotRunner.pairState
  cases t.runner.pairStates[p]? <;> simp

theorem wp_pairStateMut {Q : Unit → PilotRun hash → Prop} {p : Nat} {r : PairStateRecord}
    (h : s.runner.pairStates[p]?=some r) (m : PairStateRecord.Step) :
    Handler.wp (PilotRun.pairStateMut p m : PilotRun.Call hash ε Unit) Q E s ↔
      Handler.wp m (fun u r' => Q u (s.setPair p r')) (fun e r' => E (.choreography e) (s.setPair p r'))
        r := by
  unfold Handler.wp PilotRun.pairStateMut
  simp only [h]
  rcases m r with ⟨o,r'⟩
  cases o <;> rfl

theorem wp_discard {σ α : Type} {s : σ} {Q : Unit → σ → Prop} {E : ε → σ → Prop}
    (m : Handler σ ε α) :
    Handler.wp (discard m) Q E s ↔ Handler.wp m (fun _ => Q ()) E s := by
  simp [discard]

end Operations

section Invariant

/-- What the backend may do next, given what it did. -/
def Permitted (pairs : Nat) (seen : List BackendSuccess) : BackendSuccess → Prop
  | .lifetime p t .source role => .lifetime p t .source role∉seen ∧ ∀ head,.frozen p t head∉seen
  | .lifetime p t .successor role => .lifetime p t .successor role∉seen ∧ .released p∈seen
  | .frozen p t _ => ∀ head,.frozen p t head∉seen
  | .exposed p t exposure => (∀ exposure',.exposed p t exposure'∉seen) ∧
      ∃ head,.frozen p t head∈seen ∧ (ArmChoreography.new t).successorExposure head=.ok exposure
  | .released p => .released p∉seen ∧ ∀ t,∃ exposure,.exposed p t exposure∈seen
  | .closed p t => .closed p t∉seen ∧ .released p∈seen
  | .completed => ∀ p<pairs,∀ t,.closed p t∈seen
  | .admitted | .registered _ | .started | .observed => True

/-- What the successes of the backend tell of an arm. -/
structure ArmTold (seen : List BackendSuccess) (p : Nat) (t : TreatmentArm) (a : ArmStateRecord) :
    Prop where
  valid : a.lifecycle≠.invalidated
  frozen : ∀ head,.frozen p t head∈seen → a.lifecycle≠.planned ∧ a.frozenForumHead=some head
  head : a.lifecycle≠.planned →
    ∃ head,a.frozenForumHead=some head ∧ .frozen p t head∈seen ∧ t.SoundHead head
  exposed : (∃ exposure,.exposed p t exposure∈seen) ↔ a.lifecycle.Exposed
  closed : .closed p t∈seen ↔ a.lifecycle=.successorClosed

structure PairTold (seen : List BackendSuccess) (p : Nat) (r : PairStateRecord) : Prop where
  matched : r.Matched
  arms : ∀ t,ArmTold seen p t (r.arm t)
  released : .released p∈seen ↔ r.correctionReleased=true

def PilotRun.pairCount (s : PilotRun hash) : Nat := s.runner.pilot.livePlan.pairs.length

structure PilotRun.Kept (s : PilotRun hash) : Prop where
  pairs : s.runner.pairStates.length=s.pairCount
  told : ∀ p r,s.runner.pairStates[p]?=some r → PairTold s.seen p r
  permitted : ∀ l e l',s.seen=l++e::l' → Permitted s.pairCount l e
  executed : ∀ p t phase role,.lifetime p t phase role∈s.seen ↔
    lifetimeKey p t phase role∈s.runner.executedLifetimes
  sealed : s.runner.lifecycle=.sealed → s.runner.sealed≠none
  artifact : s.runner.artifact≠none → .completed∈s.seen

/-- The arm that a success is about. -/
def BackendSuccess.arm : BackendSuccess → Option (Nat × TreatmentArm)
  | .frozen p t _ | .exposed p t _ | .closed p t => some (p,t)
  | .admitted | .registered _ | .started | .lifetime .. | .released _ | .completed | .observed => none

variable {seen : List BackendSuccess} {p : Nat} {t : TreatmentArm} {a : ArmStateRecord}
  {e : BackendSuccess} {r : PairStateRecord}

theorem ArmTold.append (h : ArmTold seen p t a) (he : e.arm≠some (p,t)) : ArmTold (seen++[e]) p t a := by
  have hmem {e' : BackendSuccess} (harm : e'.arm=some (p,t)) : e'∈seen++[e] ↔ e'∈seen := by
    rw [List.mem_append,List.mem_singleton,or_iff_left]
    rintro rfl
    exact he harm
  refine ⟨h.valid,fun head hf => h.frozen head ((hmem rfl).mp hf),fun hl => ?_,?_,?_⟩
  · obtain ⟨head,hhead,hf,hsound⟩ := h.head hl
    exact ⟨head,hhead,(hmem rfl).mpr hf,hsound⟩
  · rw [← h.exposed]
    exact exists_congr (fun exposure => hmem rfl)
  · rw [← h.closed]
    exact hmem rfl

theorem PairTold.append (h : PairTold seen p r) (he : ∀ t,e.arm≠some (p,t)) (hr : e≠.released p) :
    PairTold (seen++[e]) p r := by
  refine ⟨h.matched,fun t => (h.arms t).append (he t),?_⟩
  rw [← h.released,List.mem_append,List.mem_singleton,or_iff_left]
  rintro rfl
  exact hr rfl

/-- An event that tells of one arm of a pair, with what the arm becomes. -/
theorem PairTold.setArm (h : PairTold seen p r) (he : e.arm=some (p,t))
    (hm : (r.setArm t a).Matched) (ha : ArmTold (seen++[e]) p t a) :
    PairTold (seen++[e]) p (r.setArm t a) := by
  refine ⟨hm,fun t' => ?_,?_⟩
  · by_cases ht : t'=t
    · subst ht
      rwa [arm_setArm_same]
    · rw [arm_setArm_ne _ _ ht]
      refine (h.arms t').append ?_
      rw [he]
      rintro ⟨⟩
      exact ht rfl
  · rw [correctionReleased_setArm,← h.released,List.mem_append,List.mem_singleton,or_iff_left]
    rintro rfl
    cases he

end Invariant

section Outcomes
variable {s s' : PilotRun hash}

/-- The checks that the runner makes before it calls the backend. -/
def PilotCall.Open (s : PilotRun hash) : PilotCall hash ε → Prop
  | sealInto _ => False
  | start _ => s.runner.lifecycle=.sealed ∧ s.runner.sealed≠none
  | executePopulation _ p t phase => s.runner.lifecycle=.running ∧
      ∃ r,s.runner.pairStates[p]?=some r ∧ r.lifecycle t=phase.gate
  | freezeSource _ p t => s.runner.lifecycle=.running ∧ (∃ r,s.runner.pairStates[p]?=some r ∧
      r.lifecycle t=.planned) ∧ s.runner.populationComplete p t .source=true
  | exposeSuccessor _ p t => s.runner.lifecycle=.running ∧ ∃ r,s.runner.pairStates[p]?=some r ∧
      r.lifecycle t=.sourceFrozen ∧
      (r.lifecycle t.other=.sourceFrozen ∨ r.lifecycle t.other=.successorExposed)
  | releaseMatchedCorrection _ p => s.runner.lifecycle=.running ∧
      ∃ r,s.runner.pairStates[p]?=some r ∧ ∀ t,r.lifecycle t=.successorExposed
  | closeSuccessor _ p t => s.runner.lifecycle=.running ∧ (∃ r,s.runner.pairStates[p]?=some r ∧
      r.lifecycle t=.correctionReleased) ∧ s.runner.populationComplete p t .successor=true
  | complete _ => s.runner.lifecycle=.running ∧
      ∀ r∈s.runner.pairStates,∀ t,r.lifecycle t=.successorClosed

/-- The backend answers the error to one of the requests that the call makes. -/
def PilotCall.Failure : PilotCall hash ε → ε → Prop
  | sealInto _,_ => False
  | start b,e => (∃ admission pilot,b.admitStudyRun admission pilot=.error e) ∨
      (∃ p pair,b.registerPair p pair=.error e) ∨ b.startStudyRun=.error e
  | executePopulation b _ _ _,e => ∃ lifetime,b.executeActorLifetime lifetime=.error e
  | freezeSource b p t,e => b.freezeSource p t=.error e
  | exposeSuccessor b p t,e => ∃ exposure,b.exposeSuccessor p t exposure=.error e
  | releaseMatchedCorrection b p,e => b.releaseMatchedCorrection p=.error e
  | closeSuccessor b p t,e => b.closeSuccessor p t=.error e
  | complete b,e => b.completeStudyRun=.error e

/-- The steps of starting a run, which tell of no pair. -/
def BackendSuccess.OfStart (e : BackendSuccess) : Prop :=
  e=.admitted ∨ (∃ p,e=.registered p) ∨ e=.started

def PilotRun.tell (es : List BackendSuccess) (s : PilotRun hash) : PilotRun hash :=
  { s with seen := s.seen++es }

/-- Lifetimes of a population that were not done yet, one after the other. -/
inductive Performs (p : Nat) (t : TreatmentArm) (phase : PopulationPhase) :
    PilotRun hash → PilotRun hash → Prop
  | refl (s : PilotRun hash) : Performs p t phase s s
  | step {s s' : PilotRun hash} (role : UInt8) :
      lifetimeKey p t phase role∉s.runner.executedLifetimes →
      Performs p t phase ((s.record (.lifetime p t phase role)).insertLifetime
        (lifetimeKey p t phase role)) s' → Performs p t phase s s'

/-- All that a sound call can come to. -/
inductive Outcome (s : PilotRun hash) :
    PilotCall hash ε → Except (PilotRunnerError ε) Unit → PilotRun hash → Prop
  | refused (c : PilotCall hash ε) (e : PilotRunnerError ε) : ¬c.Open s → (∀ e',e≠.backend e') →
      Outcome s c (.error e) s
  | failed (c : PilotCall hash ε) (e : ε) : c.Open s → c.Failure e → Outcome s c (.error (.backend e)) s
  | sealed (daemon : Except Resident.StudyAdmissionError Resident.SealedStudyContent)
      (admission : SealedLiveRunAdmission) : s.runner.lifecycle=.prepared →
      Outcome s (.sealInto daemon) (.ok ())
        ((s.update (fun r => { r with sealed := some admission })).setLifecycle .sealed)
  | started (b : PilotExecutionBackend hash ε) (es : List BackendSuccess) :
      (PilotCall.start b).Open s → (∀ e∈es,e.OfStart) →
      Outcome s (.start b) (.ok ()) ((s.tell es).setLifecycle .running)
  | unstarted (b : PilotExecutionBackend hash ε) (es : List BackendSuccess) (e : ε) :
      (PilotCall.start b).Open s → (∀ e∈es,e.OfStart) → (PilotCall.start b).Failure e →
      Outcome s (.start b) (.error (.backend e)) (s.tell es)
  | populated (b : PilotExecutionBackend hash ε) (p : Nat) (t : TreatmentArm)
      (phase : PopulationPhase) (s' : PilotRun hash) :
      (PilotCall.executePopulation b p t phase).Open s → Performs p t phase s s' →
      s'.runner.populationComplete p t phase=true →
      Outcome s (.executePopulation b p t phase) (.ok ()) s'
  | unpopulated (b : PilotExecutionBackend hash ε) (p : Nat) (t : TreatmentArm)
      (phase : PopulationPhase) (s' : PilotRun hash) (e : ε) :
      (PilotCall.executePopulation b p t phase).Open s → Performs p t phase s s' →
      (PilotCall.executePopulation b p t phase).Failure e →
      Outcome s (.executePopulation b p t phase) (.error (.backend e)) s'
  | frozen (b : PilotExecutionBackend hash ε) (p : Nat) (t : TreatmentArm) (r : PairStateRecord)
      (head : I64) : (PilotCall.freezeSource b p t).Open s → s.runner.pairStates[p]?=some r →
      r.lifecycle t=.planned → t.SoundHead head → Outcome s (.freezeSource b p t) (.ok ())
        ((s.record (.frozen p t head)).setPair p (r.setArm t
          { r.arm t with frozenForumHead := some head, lifecycle := .sourceFrozen }))
  | exposed (b : PilotExecutionBackend hash ε) (p : Nat) (t : TreatmentArm) (r : PairStateRecord)
      (head : I64) (exposure : ForumExposure) : (PilotCall.exposeSuccessor b p t).Open s →
      s.runner.pairStates[p]?=some r → r.lifecycle t=.sourceFrozen →
      (r.arm t).frozenForumHead=some head →
      (ArmChoreography.new t).successorExposure head=.ok exposure → (r.arm t).Fits exposure →
      Outcome s (.exposeSuccessor b p t) (.ok ())
        ((s.record (.exposed p t exposure)).setPair p (r.setArm t
          { r.arm t with successorExposure := some exposure, lifecycle := .successorExposed }))
  | released (b : PilotExecutionBackend hash ε) (p : Nat) (r : PairStateRecord) :
      (PilotCall.releaseMatchedCorrection b p).Open s → s.runner.pairStates[p]?=some r →
      r.correctionReleased=false → (∀ t,r.lifecycle t=.successorExposed) →
      Outcome s (.releaseMatchedCorrection b p) (.ok ())
        ((s.record (.released p)).setPair p { r with
          retained := { r.retained with lifecycle := .correctionReleased },
          reset := { r.reset with lifecycle := .correctionReleased }, correctionReleased := true })
  | closed (b : PilotExecutionBackend hash ε) (p : Nat) (t : TreatmentArm) (r : PairStateRecord) :
      (PilotCall.closeSuccessor b p t).Open s → s.runner.pairStates[p]?=some r →
      r.lifecycle t=.correctionReleased → Outcome s (.closeSuccessor b p t) (.ok ())
        ((s.record (.closed p t)).setPair p (r.setArm t { r.arm t with lifecycle := .successorClosed }))
  | completed (b : PilotExecutionBackend hash ε) (artifact : AnalysisArtifact) :
      (PilotCall.complete b).Open s → Outcome s (.complete b) (.ok ())
        (((((s.record .completed).setLifecycle .closed).record .observed).update
          (fun r => { r with artifact := some artifact })).setLifecycle .completed)
  | unanalyzed (b : PilotExecutionBackend hash ε) (e : AnalysisInputError) :
      (PilotCall.complete b).Open s → (∃ observations,b.closedPairObservations=.ok observations ∧
        AnalysisArtifact.fromPreregisteredPlan s.runner.pilot.livePlan.analysis observations=
          .error e) → Outcome s (.complete b) (.error (.analysis e))
        (((s.record .completed).setLifecycle .closed).record .observed)

theorem registerPairs_wp (b : PilotExecutionBackend hash ε) (l : List (PairSeed × Nat)) :
    Handler.wp (PilotRun.registerPairs b l)
      (fun _ s' => ∃ es,(∀ e∈es,e.OfStart) ∧ s'=s.tell es)
      (fun err s' => ∃ es e,(∀ e∈es,e.OfStart) ∧ s'=s.tell es ∧ err=.backend e ∧
        ∃ p pair,b.registerPair p pair=.error e) s := by
  induction l generalizing s with
  | nil => exact ⟨[],List.forall_mem_nil _,by simp [PilotRun.tell]⟩
  | cons x l ih =>
    simp only [PilotRun.registerPairs,Handler.wp_bind,wp_ask]
    refine ⟨fun _ _ => ?_,fun e he => ⟨[],e,List.forall_mem_nil _,by simp [PilotRun.tell],rfl,x.2,x.1,he⟩⟩
    have hcons {es : List BackendSuccess} (hes : ∀ e∈es,e.OfStart) :
        ∀ e∈.registered x.2::es,e.OfStart := by
      intro e he
      rcases List.mem_cons.mp he with rfl | he
      · exact .inr (.inl ⟨x.2,rfl⟩)
      · exact hes e he
    refine Handler.wp_mono ?_ ?_ (ih (s := s.record (.registered x.2)))
    · rintro _ _ ⟨es,hes,rfl⟩
      exact ⟨.registered x.2::es,hcons hes,by simp [PilotRun.tell,PilotRun.record]⟩
    · rintro _ _ ⟨es,e,hes,rfl,rfl,hfail⟩
      exact ⟨.registered x.2::es,e,hcons hes,by simp [PilotRun.tell,PilotRun.record],rfl,hfail⟩

theorem Performs.trans {p : Nat} {t : TreatmentArm} {phase : PopulationPhase}
    {s₁ s₂ s₃ : PilotRun hash} (h : Performs p t phase s₁ s₂) (h' : Performs p t phase s₂ s₃) :
    Performs p t phase s₁ s₃ := by
  induction h with
  | refl => exact h'
  | step role hnew _ ih => exact .step role hnew (ih h')

theorem Performs.executed {p : Nat} {t : TreatmentArm} {phase : PopulationPhase}
    (h : Performs p t phase s s') {key : LifetimeKey} (hk : key∈s.runner.executedLifetimes) :
    key∈s'.runner.executedLifetimes := by
  induction h with
  | refl => exact hk
  | step role hnew _ ih => exact ih (List.mem_append_left _ hk)

theorem executeLifetimes_wp (b : PilotExecutionBackend hash ε) (p : Nat) (t : TreatmentArm)
    (phase : PopulationPhase) (l : List ActorLifetime) :
    Handler.wp (PilotRun.executeLifetimes b p t phase l)
      (fun _ s' => Performs p t phase s s' ∧
        ∀ x∈l,lifetimeKey p t phase x.roleOrdinal∈s'.runner.executedLifetimes)
      (fun err s' => Performs p t phase s s' ∧ ∃ e,err=.backend e ∧
        ∃ x,b.executeActorLifetime x=.error e) s := by
  induction l generalizing s with
  | nil => exact ⟨.refl s,List.forall_mem_nil _⟩
  | cons x l ih =>
    simp only [PilotRun.executeLifetimes,Handler.wp_bind,Handler.wp_get,Handler.wp_when,wp_ask,
      Handler.wp_modify]
    have hrest {s₁ : PilotRun hash} (h : Performs p t phase s s₁)
        (hx : lifetimeKey p t phase x.roleOrdinal∈s₁.runner.executedLifetimes) :
        Handler.wp (PilotRun.executeLifetimes b p t phase l)
          (fun _ s' => Performs p t phase s s' ∧
            ∀ y∈x::l,lifetimeKey p t phase y.roleOrdinal∈s'.runner.executedLifetimes)
          (fun err s' => Performs p t phase s s' ∧ ∃ e,err=.backend e ∧
            ∃ y,b.executeActorLifetime y=.error e) s₁ := by
      refine Handler.wp_mono ?_ ?_ (ih (s := s₁))
      · rintro _ s' ⟨hp,hall⟩
        refine ⟨h.trans hp,fun y hy => ?_⟩
        rcases List.mem_cons.mp hy with rfl | hy
        · exact hp.executed hx
        · exact hall y hy
      · rintro _ s' ⟨hp,hfail⟩
        exact ⟨h.trans hp,hfail⟩
    constructor
    · intro hnew
      have hnew : lifetimeKey p t phase x.roleOrdinal∉s.runner.executedLifetimes := by
        simpa using hnew
      refine ⟨fun _ _ => hrest (.step _ hnew (.refl _)) ?_,fun e he => ⟨.refl s,e,rfl,x,he⟩⟩
      exact List.mem_append_right _ (List.mem_singleton.mpr rfl)
    · intro hold
      exact hrest (.refl s) (by simpa using hold)

section Populations
variable {R : CanonicalPilotRunner hash} {p : Nat} {t : TreatmentArm} {phase : PopulationPhase}
  {r : PairStateRecord}

theorem plannedActorLifetimes_ok (hlen : R.pairStates.length=R.pilot.livePlan.pairs.length)
    (hr : R.pairStates[p]?=some r) (he : phase=.successor → (r.arm t).successorExposure≠none) :
    ∃ l,R.plannedActorLifetimes (ε := ε) p t phase=.ok l ∧
      List.Forall₂ (fun seat x => ActorLifetime.roleOrdinal x=seat.ordinal.value)
        (R.pilot.livePlan.descriptor.roles phase).toList l := by
  obtain ⟨policy,hd⟩ := R.pilot.canonical
  have hp : p<R.pilot.livePlan.pairs.length := by
    rw [← hlen]
    exact (List.getElem?_eq_some_iff.mp hr).1
  have hpair : R.pilot.livePlan.pairs[p]?=some R.pilot.livePlan.pairs[p] := List.getElem?_eq_getElem hp
  have hchoreography : R.pilot.livePlan.choreographies[p]?=
      some (PairChoreography.new R.pilot.livePlan.descriptor R.pilot.livePlan.pairs[p]) := by
    rw [LiveRunPlan.choreographies,List.getElem?_map,hpair]
    rfl
  have hseats (exposure : ForumExposure) (pairId : AnalysisPairId) :
      ∃ l,(R.pilot.livePlan.descriptor.roles phase).toList.mapM
        (R.plannedLifetime (ε := ε) p pairId t phase exposure)=.ok l ∧
      List.Forall₂ (fun seat x => ActorLifetime.roleOrdinal x=seat.ordinal.value)
        (R.pilot.livePlan.descriptor.roles phase).toList l := by
    have hone : ∀ seat∈(R.pilot.livePlan.descriptor.roles phase).toList,∃ x,
        R.plannedLifetime (ε := ε) p pairId t phase exposure seat=.ok x ∧
          x.roleOrdinal=seat.ordinal.value := by
      intro seat hs
      obtain ⟨_,_,_,_,_,_,_,_,_,_,hall⟩ := actorPrompt_shown hd phase hs
      obtain ⟨prompt,hprompt,hord,-⟩ := hall exposure
      unfold CanonicalPilotRunner.plannedLifetime
      simp only [hprompt,Except.mapError,bind,Except.bind]
      exact ⟨_,rfl,congrArg RoleOrdinal.value hord⟩
    obtain ⟨l,hl⟩ := mapM_ok (fun seat hs => (hone seat hs).imp (fun _ h => h.1))
    refine ⟨l,hl,?_⟩
    have hall := List.forall₂_and_left _ _ |>.mpr ⟨fun seat hs => hs,forall_of_mapM hl⟩
    refine hall.imp ?_
    rintro seat x ⟨hs,hx⟩
    obtain ⟨y,hy,hord⟩ := hone seat hs
    rw [hx] at hy
    cases hy
    exact hord
  unfold CanonicalPilotRunner.plannedActorLifetimes CanonicalPilotRunner.choreography
    CanonicalPilotRunner.pairState CanonicalPilotRunner.pair
  cases phase with
  | source =>
    obtain ⟨l,hl,hall⟩ := hseats (PairChoreography.new R.pilot.livePlan.descriptor
      R.pilot.livePlan.pairs[p]).retained.sourceExposure R.pilot.livePlan.pairs[p].pairId
    refine ⟨l,?_,hall⟩
    simp only [hchoreography,hr,hpair,bind,Except.bind,hl]
  | successor =>
    obtain ⟨exposure,hexposure⟩ := Option.ne_none_iff_exists'.mp (he rfl)
    obtain ⟨l,hl,hall⟩ := hseats exposure R.pilot.livePlan.pairs[p].pairId
    refine ⟨l,?_,hall⟩
    simp only [hchoreography,hr,hpair,hexposure,bind,Except.bind,hl]

end Populations

section Methods
variable {b : PilotExecutionBackend hash ε} {p : Nat} {t : TreatmentArm}

/-- The outcomes of the call in a state are those listed. -/
def PilotCall.Follows (s : PilotRun hash) (c : PilotCall hash ε) : Prop :=
  Handler.wp c.run (fun u s' => Outcome s c (.ok u) s') (fun e s' => Outcome s c (.error e) s') s

theorem sealInto_follows (daemon : Except Resident.StudyAdmissionError Resident.SealedStudyContent) :
    (PilotCall.sealInto daemon : PilotCall hash ε).Follows s := by
  unfold PilotCall.Follows
  have hrefused {e : PilotRunnerError ε} (he : ∀ e',e≠.backend e') :
      Outcome s (.sealInto daemon) (.error e) s := .refused _ _ (fun h => h) he
  simp only [PilotCall.run,PilotRun.sealInto,Handler.wp_bind,Handler.wp_get,Handler.wp_ensure,Handler.wp_lift,
    Handler.wp_modify]
  refine ⟨fun hl => ⟨fun admission _ => ⟨fun _ => .sealed daemon admission hl,fun _ => ?_⟩,
    fun e he => ?_⟩,fun _ => hrefused (fun _ h => by cases h)⟩
  · exact hrefused (fun _ h => by cases h)
  · cases hs : s.runner.prepared.sealInto daemon with
    | ok a => rw [hs] at he; cases he
    | error e' =>
      rw [hs] at he
      cases he
      exact hrefused (fun _ h => by cases h)

theorem start_follows : (PilotCall.start b).Follows s := by
  unfold PilotCall.Follows
  simp only [PilotCall.run,PilotRun.start,Handler.wp_bind,Handler.wp_get,Handler.wp_ensure]
  refine ⟨fun hl => ?_,fun hl => .refused _ _ (fun h => hl h.1) (fun _ h => by cases h)⟩
  cases hs : s.runner.sealed with
  | none =>
    simp only [Handler.wp_lift]
    refine ⟨(fun _ h => by cases h),fun e he => ?_⟩
    cases he
    exact .refused _ _ (fun h => h.2 hs) (fun _ h => by cases h)
  | some admission =>
    have hopen : (PilotCall.start b).Open s := ⟨hl,by simp [hs]⟩
    have hadmitted : ∀ e∈[BackendSuccess.admitted],e.OfStart := by
      intro e he
      exact .inl (List.mem_singleton.mp he)
    simp only [Handler.wp_lift,wp_ask]
    refine ⟨fun a _ => ⟨fun _ _ => ?_,fun e he => .failed _ _ hopen (.inl ⟨a,_,he⟩)⟩,(fun _ h => by cases h)⟩
    refine Handler.wp_mono ?_ ?_ (registerPairs_wp b _ (s := s.record .admitted))
    · rintro _ _ ⟨es,hes,rfl⟩
      have hall : ∀ e∈.admitted::es,e.OfStart := List.forall_mem_cons.mpr ⟨.inl rfl,hes⟩
      have htell : (s.record .admitted).tell es=s.tell (.admitted::es) := by
        simp [PilotRun.tell,PilotRun.record]
      rw [htell]
      refine ⟨fun _ _ => ?_,fun e he => .unstarted b _ e hopen hall (.inr (.inr he))⟩
      have hstarted : (s.tell (.admitted::es)).record .started=s.tell (.admitted::es++[.started]) := by
        simp [PilotRun.tell,PilotRun.record]
      rw [Handler.wp_modify,hstarted]
      refine .started b _ hopen ?_
      intro e he
      rcases List.mem_append.mp he with he | he
      · exact hall e he
      · exact .inr (.inr (List.mem_singleton.mp he))
    · rintro _ _ ⟨es,e,hes,rfl,rfl,hfail⟩
      have hall : ∀ e∈.admitted::es,e.OfStart := List.forall_mem_cons.mpr ⟨.inl rfl,hes⟩
      have htell : (s.record .admitted).tell es=s.tell (.admitted::es) := by
        simp [PilotRun.tell,PilotRun.record]
      rw [htell]
      exact .unstarted b _ e hopen hall (.inr (.inl hfail))

theorem Performs.frame {phase : PopulationPhase} (h : Performs p t phase s s') :
    s'.runner={ s.runner with executedLifetimes := s'.runner.executedLifetimes } := by
  induction h with
  | refl => rfl
  | step role hnew _ ih => exact ih

theorem executePopulation_follows (hs : s.Kept) (phase : PopulationPhase) :
    (PilotCall.executePopulation b p t phase).Follows s := by
  unfold PilotCall.Follows
  simp only [PilotCall.run,PilotRun.executePopulation,Handler.wp_bind,wp_requireRunning,Handler.wp_get,
    wp_pairState,Handler.wp_ensure]
  refine ⟨fun hl => ⟨fun r hr => ⟨fun hgate => ?_,fun hgate => ?_⟩,fun hr => ?_⟩,fun hl => ?_⟩
  · have hopen : (PilotCall.executePopulation b p t phase).Open s := ⟨hl,r,hr,hgate⟩
    have hexposed : phase=.successor → (r.arm t).successorExposure≠none := by
      rintro rfl
      exact ((hs.told p r hr).matched.arms t).exposed (.inr (.inl hgate))
    obtain ⟨l,hl,hall⟩ := plannedActorLifetimes_ok (ε := ε) hs.pairs hr hexposed
    rw [hl]
    simp only [Handler.wp_lift]
    refine ⟨fun l' hl' => ?_,(fun _ h => by cases h)⟩
    obtain rfl := Except.ok.inj hl'
    refine Handler.wp_mono ?_ ?_ (executeLifetimes_wp b p t phase l)
    · rintro _ s' ⟨hp,hdone⟩
      refine .populated b p t phase s' hopen hp ?_
      unfold CanonicalPilotRunner.populationComplete
      rw [List.all_eq_true]
      intro seat hseat
      have hpilot : s'.runner.pilot=s.runner.pilot := by rw [hp.frame]
      rw [hpilot] at hseat
      obtain ⟨x,hx,hord⟩ := exists_of_forall₂ hall.flip hseat
      rw [List.contains_iff_mem,← hord]
      exact hdone x hx
    · rintro _ s' ⟨hp,e,rfl,hfail⟩
      exact .unpopulated b p t phase s' e hopen hp hfail
  · refine .refused _ _ ?_ (fun _ h => by cases h)
    rintro ⟨_,r',hr',hgate'⟩
    obtain rfl := Option.some.inj (hr.symm.trans hr')
    exact hgate hgate'
  · refine .refused _ _ ?_ (fun _ h => by cases h)
    rintro ⟨_,r',hr',_⟩
    rw [hr] at hr'
    cases hr'
  · exact .refused _ _ (fun h => hl h.1) (fun _ h => by cases h)

theorem freezeSource_follows (hsound : (PilotCall.freezeSource b p t).Sound) :
    (PilotCall.freezeSource b p t).Follows s := by
  unfold PilotCall.Follows
  simp only [PilotCall.run,wp_discard,PilotRun.freezeSource,Handler.wp_bind,wp_requireRunning,
    Handler.wp_get,wp_pairState,Handler.wp_ensure,wp_ask]
  refine ⟨fun hl => ⟨fun r hr => ⟨fun hplanned => ⟨fun hdone => ⟨fun head hhead => ?_,fun e he =>
    .failed _ e ⟨hl,⟨r,hr,hplanned⟩,hdone⟩ he⟩,fun hdone => ?_⟩,fun hplanned => ?_⟩,fun hr => ?_⟩,
    fun hl => .refused _ _ (fun h => hl h.1) (fun _ h => by cases h)⟩
  · have hopen : (PilotCall.freezeSource b p t).Open s := ⟨hl,⟨r,hr,hplanned⟩,hdone⟩
    have hok := hsound head hhead
    rw [wp_pairStateMut (s.record (.frozen p t head)) hr,PairStateRecord.markSourceFrozen,wp_armMut,wp_markSourceFrozen]
    refine ⟨fun _ => .frozen b p t r head hopen hr hplanned hok,fun hn => absurd ?_ hn⟩
    exact ⟨hplanned,not_lt.mpr hok.1⟩
  · exact .refused _ _ (fun h => hdone h.2.2) (fun _ h => by cases h)
  · refine .refused _ _ ?_ (fun _ h => by cases h)
    rintro ⟨_,⟨r',hr',h'⟩,_⟩
    obtain rfl := Option.some.inj (hr.symm.trans hr')
    exact hplanned h'
  · refine .refused _ _ ?_ (fun _ h => by cases h)
    rintro ⟨_,⟨r',hr',_⟩,_⟩
    rw [hr] at hr'
    cases hr'

theorem markSuccessorExposed_ok {a : ArmStateRecord} {exposure : ForumExposure}
    {Q : Unit → ArmStateRecord → Prop} {E : ChoreographyError → ArmStateRecord → Prop}
    (hl : a.lifecycle=.sourceFrozen) (hf : a.Fits exposure)
    (hQ : Q () { a with successorExposure := some exposure, lifecycle := .successorExposed }) :
    Handler.wp (ArmStateRecord.markSuccessorExposed exposure) Q E a := by
  simp only [ArmStateRecord.markSuccessorExposed,Handler.wp_bind,Handler.wp_get,Handler.wp_ensure,
    Handler.wp_modify]
  unfold ArmStateRecord.Fits at hf
  have hreset : ¬(a.treatment=.reset ∧ some exposure≠a.expectedReset) := by
    rintro ⟨ht,hne⟩
    rw [ht] at hf
    exact hne hf.symm
  have hretained : ¬(a.treatment=.retained ∧ exposure≠.retainedSuccessor) := by
    rintro ⟨ht,hne⟩
    rw [ht] at hf
    exact hne hf
  exact ⟨fun _ => ⟨fun _ => ⟨fun _ => hQ,fun h => absurd hretained h⟩,fun h => absurd hreset h⟩,
    fun h => absurd hl h⟩

theorem arm_new (d : LiveRunDescriptor) (pair : PairSeed) (t : TreatmentArm) :
    (PairChoreography.new d pair).arm t=.new t := by
  cases t <;> rfl

/-- The frontier derived from the frozen head is the one that the arm's record expects. -/
theorem fits_of_derived {a : ArmStateRecord} {head : I64} {exposure : ForumExposure}
    (ht : a.treatment=t) (hh : a.frozenForumHead=some head)
    (he : (ArmChoreography.new t).successorExposure head=.ok exposure) : a.Fits exposure := by
  unfold ArmStateRecord.Fits
  rw [ht]
  cases t with
  | retained => exact (Except.ok.inj he).symm
  | reset =>
    change ForumExposure.resetSuccessor head=.ok exposure at he
    simp only [ArmStateRecord.expectedReset,hh,Option.bind_some,he]
    rfl

theorem successorExposure_sound {head : I64} (h : t.SoundHead head) :
    ∃ exposure,(ArmChoreography.new t).successorExposure head=.ok exposure := by
  cases t with
  | retained => exact ⟨_,rfl⟩
  | reset =>
    change ∃ exposure,ForumExposure.resetSuccessor head=.ok exposure
    unfold ForumExposure.resetSuccessor
    rw [dif_neg (not_lt.mpr h.1),dif_pos (h.2 rfl)]
    exact ⟨_,rfl⟩

theorem choreography_ok {R : CanonicalPilotRunner hash} {r : PairStateRecord}
    (hlen : R.pairStates.length=R.pilot.livePlan.pairs.length) (hr : R.pairStates[p]?=some r) :
    ∃ pair,R.choreography (ε := ε) p=
      .ok (PairChoreography.new R.pilot.livePlan.descriptor pair) := by
  have hp : p<R.pilot.livePlan.pairs.length := by
    rw [← hlen]
    exact (List.getElem?_eq_some_iff.mp hr).1
  refine ⟨R.pilot.livePlan.pairs[p],?_⟩
  rw [CanonicalPilotRunner.choreography,LiveRunPlan.choreographies,List.getElem?_map,
    List.getElem?_eq_getElem hp]
  rfl

theorem exposeSuccessor_follows (hs : s.Kept) : (PilotCall.exposeSuccessor b p t).Follows s := by
  unfold PilotCall.Follows
  simp only [PilotCall.run,wp_discard,PilotRun.exposeSuccessor,Handler.wp_bind,wp_requireRunning,
    Handler.wp_get,wp_pairState,Handler.wp_ensure,wp_ask]
  refine ⟨fun hl => ?_,fun hl => .refused _ _ (fun h => hl h.1) (fun _ h => by cases h)⟩
  cases hr : s.runner.pairStates[p]? with
  | none =>
    have hclosed : ¬(PilotCall.exposeSuccessor b p t).Open s := by
      rintro ⟨_,r',hr',_⟩
      rw [hr] at hr'
      cases hr'
    rw [Handler.wp_lift]
    refine ⟨fun c _ => ⟨fun r' hr' => ?_,fun _ => .refused _ _ hclosed (fun _ h => by cases h)⟩,fun e he => ?_⟩
    · cases hr'
    · unfold CanonicalPilotRunner.choreography at he
      split at he
      · cases he
      · cases he
        exact .refused _ _ hclosed (fun _ h => by cases h)
  | some r =>
    obtain ⟨pair,hpair⟩ := choreography_ok (ε := ε) hs.pairs hr
    have htold := hs.told p r hr
    rw [hpair,Handler.wp_lift]
    refine ⟨fun c hc => ?_,(fun _ h => by cases h)⟩
    obtain rfl := Except.ok.inj hc
    refine ⟨fun r' hr' => ?_,(fun h => by cases h)⟩
    obtain rfl := Option.some.inj hr'
    refine ⟨fun hgate => ?_,fun hgate => ?_⟩
    · have hopen : (PilotCall.exposeSuccessor b p t).Open s := ⟨hl,r,hr,hgate⟩
      have hmoved : (r.arm t).lifecycle≠.planned := by
        intro hp
        have hf := hgate.1
        unfold PairStateRecord.lifecycle at hf
        rw [hp] at hf
        cases hf
      obtain ⟨head,hhead,_,hsound⟩ := (htold.arms t).head hmoved
      obtain ⟨exposure,hexposure⟩ := successorExposure_sound hsound
      have hfits := fits_of_derived (htold.matched.arms t).treatment hhead hexposure
      simp only [hhead,arm_new,Handler.wp_lift]
      refine ⟨fun head' hhead' => ?_,(fun _ h => by cases h)⟩
      obtain rfl := Except.ok.inj hhead'
      rw [hexposure]
      refine ⟨fun exposure' hexposure' => ?_,(fun _ h => by cases h)⟩
      obtain rfl := Except.ok.inj hexposure'
      refine ⟨fun _ _ => ?_,fun e he => .failed _ e hopen ⟨exposure,he⟩⟩
      rw [wp_pairStateMut (s.record (.exposed p t exposure)) hr,
        PairStateRecord.markSuccessorExposed,wp_armMut]
      exact markSuccessorExposed_ok hgate.1 hfits (.exposed b p t r head exposure hopen hr hgate.1
        hhead hexposure hfits)
    · refine .refused _ _ ?_ (fun _ h => by cases h)
      rintro ⟨_,r',hr',h'⟩
      obtain rfl := Option.some.inj (hr.symm.trans hr')
      exact hgate h'

theorem releaseMatchedCorrection_follows (hs : s.Kept) :
    (PilotCall.releaseMatchedCorrection b p).Follows s := by
  unfold PilotCall.Follows
  simp only [PilotCall.run,PilotRun.releaseMatchedCorrection,Handler.wp_bind,wp_requireRunning,
    Handler.wp_get,wp_pairState,Handler.wp_ensure,wp_ask]
  refine ⟨fun hl => ⟨fun r hr => ⟨fun hgate => ?_,fun hgate => ?_⟩,fun hr => ?_⟩,
    fun hl => .refused _ _ (fun h => hl h.1) (fun _ h => by cases h)⟩
  · have hall : ∀ t,r.lifecycle t=.successorExposed := fun t => by
      cases t
      · exact hgate.1
      · exact hgate.2
    have hopen : (PilotCall.releaseMatchedCorrection b p).Open s := ⟨hl,r,hr,hall⟩
    have hflag : r.correctionReleased=false := by
      by_contra hn
      rcases (hs.told p r hr).matched.together (by simpa using hn) .retained with h | h
      · rw [hall] at h
        rcases h with h | h <;> cases h
      · rw [hall] at h
        cases h
    refine ⟨fun _ _ => ?_,fun e he => .failed _ e hopen he⟩
    rw [wp_pairStateMut (s.record (.released p)) hr]
    simp only [PairStateRecord.releaseMatchedCorrection,Handler.wp_bind,Handler.wp_get,
      Handler.wp_ensure,wp_armMut,ArmStateRecord.releaseCorrection,Handler.wp_modify]
    have hready : ¬(r.correctionReleased=true ∨ r.retained.lifecycle≠.successorExposed ∨
        r.reset.lifecycle≠.successorExposed) := by
      simp [hflag,hgate.1,hgate.2]
    refine ⟨fun _ => ⟨fun _ => ⟨fun _ => .released b p r hopen hr hflag hall,fun h => ?_⟩,
      fun h => ?_⟩,fun h => absurd hready h⟩
    · exact absurd hgate.2 h
    · exact absurd hgate.1 h
  · refine .refused _ _ ?_ (fun _ h => by cases h)
    rintro ⟨_,r',hr',h'⟩
    obtain rfl := Option.some.inj (hr.symm.trans hr')
    exact hgate ⟨h' .retained,h' .reset⟩
  · refine .refused _ _ ?_ (fun _ h => by cases h)
    rintro ⟨_,r',hr',_⟩
    rw [hr] at hr'
    cases hr'

theorem closeSuccessor_follows : (PilotCall.closeSuccessor b p t).Follows s := by
  unfold PilotCall.Follows
  simp only [PilotCall.run,PilotRun.closeSuccessor,Handler.wp_bind,wp_requireRunning,
    Handler.wp_get,wp_pairState,Handler.wp_ensure,wp_ask]
  refine ⟨fun hl => ⟨fun r hr => ⟨fun hgate => ⟨fun hdone => ⟨fun _ _ => ?_,fun e he =>
    .failed _ e ⟨hl,⟨r,hr,hgate⟩,hdone⟩ he⟩,fun hdone => ?_⟩,fun hgate => ?_⟩,fun hr => ?_⟩,
    fun hl => .refused _ _ (fun h => hl h.1) (fun _ h => by cases h)⟩
  · rw [wp_pairStateMut (s.record (.closed p t)) hr,PairStateRecord.markSuccessorClosed,wp_armMut,
      wp_markSuccessorClosed]
    exact ⟨fun _ => .closed b p t r ⟨hl,⟨r,hr,hgate⟩,hdone⟩ hr hgate,fun h => absurd hgate h⟩
  · exact .refused _ _ (fun h => hdone h.2.2) (fun _ h => by cases h)
  · refine .refused _ _ ?_ (fun _ h => by cases h)
    rintro ⟨_,⟨r',hr',h'⟩,_⟩
    obtain rfl := Option.some.inj (hr.symm.trans hr')
    exact hgate h'
  · refine .refused _ _ ?_ (fun _ h => by cases h)
    rintro ⟨_,⟨r',hr',_⟩,_⟩
    rw [hr] at hr'
    cases hr'

theorem complete_follows (hsound : (PilotCall.complete b).Sound) :
    (PilotCall.complete b).Follows s := by
  unfold PilotCall.Follows
  simp only [PilotCall.run,wp_discard,PilotRun.complete,Handler.wp_bind,wp_requireRunning,
    Handler.wp_get,Handler.wp_ensure,wp_ask,Handler.wp_modify,Handler.wp_lift,Handler.wp_pure]
  refine ⟨fun hl => ⟨fun hall => ?_,fun hall => ?_⟩,fun hl => .refused _ _ (fun h => hl h.1) (fun _ h => by cases h)⟩
  · have hopen : (PilotCall.complete b).Open s := ⟨hl,fun r hr t => by
      cases t
      · exact (hall r hr).1
      · exact (hall r hr).2⟩
    refine ⟨fun _ hdone => ⟨fun observations hobservations => ⟨fun artifact _ =>
      .completed b artifact hopen,fun e he => ?_⟩,fun e he => ?_⟩,fun e he => .failed _ e hopen he⟩
    · cases ha : AnalysisArtifact.fromPreregisteredPlan s.runner.pilot.livePlan.analysis observations with
      | ok artifact => rw [ha] at he; cases he
      | error e' =>
        rw [ha] at he
        cases he
        exact .unanalyzed b e' hopen ⟨observations,hobservations,ha⟩
    · obtain ⟨observations,hobservations⟩ := hsound hdone
      rw [hobservations] at he
      cases he
  · refine .refused _ _ ?_ (fun _ h => by cases h)
    rintro ⟨_,h'⟩
    exact hall (fun r hr => ⟨h' r hr .retained,h' r hr .reset⟩)

/-- Every sound call, in a state that the invariant holds of, has one of the outcomes listed. -/
theorem PilotCall.follows (hs : s.Kept) (c : PilotCall hash ε) (hc : c.Sound) : c.Follows s := by
  cases c with
  | sealInto daemon => exact sealInto_follows daemon
  | start b => exact start_follows
  | executePopulation b p t phase => exact executePopulation_follows hs phase
  | freezeSource b p t => exact freezeSource_follows hc
  | exposeSuccessor b p t => exact exposeSuccessor_follows hs
  | releaseMatchedCorrection b p => exact releaseMatchedCorrection_follows hs
  | closeSuccessor b p t => exact closeSuccessor_follows
  | complete b => exact complete_follows hc

end Methods
end Outcomes

section Preservation
variable {s s' : PilotRun hash} {p : Nat} {t : TreatmentArm} {r : PairStateRecord}
  {e : BackendSuccess}

theorem permitted_append {n : Nat} {seen : List BackendSuccess}
    (h : ∀ l e l',seen=l++e::l' → Permitted n l e) (he : Permitted n seen e) (l : List BackendSuccess)
    (x : BackendSuccess) (l' : List BackendSuccess) (heq : seen++[e]=l++x::l') : Permitted n l x := by
  rcases List.eq_nil_or_concat l' with rfl | ⟨l'',y,rfl⟩
  · obtain ⟨rfl,hx⟩ := List.append_inj' heq rfl
    obtain rfl := (List.cons.inj hx).1
    exact he
  · have hconcat : l++x::l''.concat y=(l++x::l'')++[y] := by simp
    rw [hconcat] at heq
    exact h l x l'' (List.append_inj' heq rfl).1

theorem lifetimeKey_inj {p' : Nat} {t' : TreatmentArm} {phase phase' : PopulationPhase}
    {role role' : UInt8} (h : lifetimeKey p t phase role=lifetimeKey p' t' phase' role') :
    p=p' ∧ t=t' ∧ phase=phase' ∧ role=role' := by
  cases t <;> cases t' <;> cases phase <;> cases phase' <;> simp_all [lifetimeKey]

theorem Kept.lifetime_iff (hs : s.Kept) {phase : PopulationPhase} {role : UInt8} :
    ∀ p' t' phase' role',.lifetime p' t' phase' role'∈s.seen++[.lifetime p t phase role] ↔
      lifetimeKey p' t' phase' role'∈s.runner.executedLifetimes++[lifetimeKey p t phase role] := by
  intro p' t' phase' role'
  rw [List.mem_append,List.mem_append,List.mem_singleton,List.mem_singleton,hs.executed]
  refine or_congr Iff.rfl ⟨?_,fun h => ?_⟩
  · rintro ⟨⟩
    rfl
  · obtain ⟨rfl,rfl,rfl,rfl⟩ := lifetimeKey_inj h
    rfl

/-- A success that tells of no pair and no lifetime. -/
theorem Kept.record (hs : s.Kept) (harm : e.arm=none) (hreleased : ∀ p,e≠.released p)
    (hlifetime : ∀ p t phase role,e≠.lifetime p t phase role)
    (hpermitted : Permitted s.pairCount s.seen e) : (s.record e).Kept := by
  refine ⟨hs.pairs,fun p r hr => ?_,permitted_append hs.permitted hpermitted,fun p t phase role => ?_,
    hs.sealed,fun h => List.mem_append_left _ (hs.artifact h)⟩
  · refine (hs.told p r hr).append ?_ (hreleased p)
    intro t
    rw [harm]
    exact (fun h => by cases h)
  · rw [PilotRun.seen_record,List.mem_append,List.mem_singleton,or_iff_left
      (fun h => hlifetime p t phase role h.symm)]
    exact hs.executed p t phase role

theorem Kept.tell (hs : s.Kept) {es : List BackendSuccess} (hes : ∀ e∈es,e.OfStart) :
    (s.tell es).Kept := by
  induction es generalizing s with
  | nil =>
    have hnil : s.tell []=s := by simp [PilotRun.tell]
    rwa [hnil]
  | cons e es ih =>
    obtain ⟨he,hrest⟩ := List.forall_mem_cons.mp hes
    have hcons : s.tell (e::es)=(s.record e).tell es := by simp [PilotRun.tell,PilotRun.record]
    rw [hcons]
    refine ih ?_ hrest
    rcases he with rfl | ⟨p,rfl⟩ | rfl <;> exact Kept.record hs rfl (fun _ h => by cases h) (by simp) trivial

/-- A population that may run, as the backend will find. -/
def Ready (s : PilotRun hash) (p : Nat) (t : TreatmentArm) : PopulationPhase → Prop
  | .source => ∀ head,.frozen p t head∉s.seen
  | .successor => .released p∈s.seen

theorem Kept.ready (hs : s.Kept) {phase : PopulationPhase} (hr : s.runner.pairStates[p]?=some r)
    (hgate : r.lifecycle t=phase.gate) : Ready s p t phase := by
  have htold := hs.told p r hr
  cases phase with
  | source =>
    intro head hf
    exact ((htold.arms t).frozen head hf).1 hgate
  | successor => exact htold.released.mpr (htold.matched.flagged t (.inl hgate))

theorem Performs.kept {phase : PopulationPhase} (h : Performs p t phase s s') (hs : s.Kept)
    (hready : Ready s p t phase) : s'.Kept := by
  induction h with
  | refl => exact hs
  | @step s s' role hnew _ ih =>
    have hfresh : .lifetime p t phase role∉s.seen := fun h => hnew ((hs.executed ..).mp h)
    refine ih ⟨hs.pairs,fun q r hr => ?_,permitted_append hs.permitted ?_,Kept.lifetime_iff hs,
      hs.sealed,fun h => List.mem_append_left _ (hs.artifact h)⟩ ?_
    · exact (hs.told q r hr).append (fun _ h => by cases h) (fun h => by cases h)
    · cases phase with
      | source => exact ⟨hfresh,hready⟩
      | successor => exact ⟨hfresh,hready⟩
    · cases phase with
      | source =>
        intro head hf
        rcases List.mem_append.mp hf with hf | hf
        · exact hready head hf
        · cases List.mem_singleton.mp hf
      | successor => exact List.mem_append_left _ hready

/-- A success that tells of one pair, whose record changes with it. -/
theorem Kept.setPair (hs : s.Kept) {r' : PairStateRecord}
    (hlifetime : ∀ p t phase role,e≠.lifetime p t phase role)
    (harm : ∀ q t,e.arm=some (q,t) → q=p) (hreleased : ∀ q,e=.released q → q=p)
    (hpermitted : Permitted s.pairCount s.seen e) (htold : PairTold (s.seen++[e]) p r') :
    ((s.record e).setPair p r').Kept := by
  have hlen : (s.runner.pairStates.set p r').length=s.runner.pairStates.length := List.length_set
  refine ⟨hlen.trans hs.pairs,fun q x hx => ?_,permitted_append hs.permitted hpermitted,
    fun p t phase role => ?_,hs.sealed,fun h => List.mem_append_left _ (hs.artifact h)⟩
  · change (s.runner.pairStates.set p r')[q]?=some x at hx
    by_cases hq : p=q
    · subst hq
      rw [List.getElem?_set_self'] at hx
      obtain ⟨_,_,rfl⟩ := Option.map_eq_some_iff.mp hx
      exact htold
    · rw [List.getElem?_set_ne hq] at hx
      refine (hs.told q x hx).append ?_ ?_
      · intro t h
        exact hq (harm q t h).symm
      · intro h
        exact hq (hreleased q h).symm
  · change .lifetime p t phase role∈s.seen++[e] ↔ _
    rw [List.mem_append,List.mem_singleton,or_iff_left (fun h => hlifetime p t phase role h.symm)]
    exact hs.executed p t phase role

theorem Kept.setLifecycle (hs : s.Kept) {l : PilotRunLifecycle} (hl : l≠.sealed) :
    (s.setLifecycle l).Kept :=
  ⟨hs.pairs,hs.told,hs.permitted,hs.executed,fun h => absurd h hl,hs.artifact⟩

theorem mem_append_ne {seen : List BackendSuccess} {e x : BackendSuccess} (h : x≠e) :
    x∈seen++[e] ↔ x∈seen := by
  rw [List.mem_append,List.mem_singleton,or_iff_left h]

theorem frozen_told {seen : List BackendSuccess} {head : I64} (h : PairTold seen p r)
    (hl : r.lifecycle t=.planned) (hhead : t.SoundHead head) :
    PairTold (seen++[.frozen p t head]) p (r.setArm t
      { r.arm t with frozenForumHead := some head, lifecycle := .sourceFrozen }) := by
  have ha := h.arms t
  have hl' : (r.arm t).lifecycle=.planned := hl
  refine h.setArm rfl (PairMove.matched (.frozen t head hl hhead.1) h.matched)
    ⟨(fun h => by cases h),fun head' hf => ?_,fun _ => ⟨head,rfl,by simp,hhead⟩,?_,?_⟩
  · rcases List.mem_append.mp hf with hf | hf
    · exact absurd hl' (ha.frozen head' hf).1
    · cases List.mem_singleton.mp hf
      exact ⟨(fun h => by cases h),rfl⟩
  · constructor
    · rintro ⟨exposure,he⟩
      have hno := ha.exposed.mp ⟨exposure,(mem_append_ne (by simp)).mp he⟩
      rw [hl'] at hno
      rcases hno with hno | hno | hno <;> cases hno
    · intro hno
      rcases hno with hno | hno | hno <;> cases hno
  · have hmem : .closed p t∈seen++[.frozen p t head] ↔ .closed p t∈seen := mem_append_ne (by simp)
    rw [hmem,ha.closed,hl']
    exact ⟨(fun h => by cases h),(fun h => by cases h)⟩

theorem exposed_told {seen : List BackendSuccess} {exposure : ForumExposure} (h : PairTold seen p r)
    (hl : r.lifecycle t=.sourceFrozen) (hf : (r.arm t).Fits exposure) :
    PairTold (seen++[.exposed p t exposure]) p (r.setArm t
      { r.arm t with successorExposure := some exposure, lifecycle := .successorExposed }) := by
  have ha := h.arms t
  have hl' : (r.arm t).lifecycle=.sourceFrozen := hl
  refine h.setArm rfl (PairMove.matched (.exposed t exposure hl hf) h.matched)
    ⟨(fun h => by cases h),fun head hf => ?_,fun _ => ?_,⟨fun _ => .inl rfl,fun _ => ⟨exposure,by simp⟩⟩,?_⟩
  · exact ⟨(fun h => by cases h),(ha.frozen head ((mem_append_ne (by simp)).mp hf)).2⟩
  · obtain ⟨head,hhead,hmem,hsound⟩ := ha.head (by rw [hl']; exact (fun h => by cases h))
    exact ⟨head,hhead,List.mem_append_left _ hmem,hsound⟩
  · have hmem : .closed p t∈seen++[.exposed p t exposure] ↔ .closed p t∈seen :=
      mem_append_ne (by simp)
    rw [hmem,ha.closed,hl']
    exact ⟨(fun h => by cases h),(fun h => by cases h)⟩

theorem released_told {seen : List BackendSuccess} (h : PairTold seen p r)
    (hflag : r.correctionReleased=false) (hl : ∀ t,r.lifecycle t=.successorExposed) :
    PairTold (seen++[.released p]) p { r with
      retained := { r.retained with lifecycle := .correctionReleased },
      reset := { r.reset with lifecycle := .correctionReleased }, correctionReleased := true } := by
  refine ⟨PairMove.matched (.released hflag hl) h.matched,fun t => ?_,by simp⟩
  have ha : ArmTold (seen++[.released p]) p t (r.arm t) := (h.arms t).append (fun h => by cases h)
  have hl' : (r.arm t).lifecycle=.successorExposed := hl t
  have hmoved : (r.arm t).lifecycle≠.planned := by
    rw [hl']
    exact (fun h => by cases h)
  have hexposed := ha.exposed.mpr (.inl hl')
  have hopen : .closed p t∉seen++[.released p] := fun hc => by
    rw [ha.closed,hl'] at hc
    cases hc
  have hreleased : ArmTold (seen++[.released p]) p t { r.arm t with lifecycle := .correctionReleased } :=
    ⟨(fun h => by cases h),fun head hf => ⟨(fun h => by cases h),(ha.frozen head hf).2⟩,fun _ => ha.head hmoved,
      ⟨fun _ => .inr (.inl rfl),fun _ => hexposed⟩,⟨fun hc => absurd hc hopen,(fun h => by cases h)⟩⟩
  cases t <;> exact hreleased

theorem closed_told {seen : List BackendSuccess} (h : PairTold seen p r)
    (hl : r.lifecycle t=.correctionReleased) : PairTold (seen++[.closed p t]) p (r.setArm t
      { r.arm t with lifecycle := .successorClosed }) := by
  have ha := h.arms t
  have hl' : (r.arm t).lifecycle=.correctionReleased := hl
  have hexposed := ha.exposed.mpr (.inr (.inl hl'))
  refine h.setArm rfl (PairMove.matched (.closed t hl) h.matched)
    ⟨(fun h => by cases h),fun head hf => ?_,fun _ => ?_,⟨fun _ => .inr (.inr rfl),fun _ => ?_⟩,by simp⟩
  · exact ⟨(fun h => by cases h),(ha.frozen head ((mem_append_ne (by simp)).mp hf)).2⟩
  · obtain ⟨head,hhead,hmem,hsound⟩ := ha.head (by rw [hl']; exact (fun h => by cases h))
    exact ⟨head,hhead,List.mem_append_left _ hmem,hsound⟩
  · obtain ⟨exposure,he⟩ := hexposed
    exact ⟨exposure,List.mem_append_left _ he⟩

theorem Kept.completed (hs : s.Kept)
    (hall : ∀ r∈s.runner.pairStates,∀ t,r.lifecycle t=.successorClosed) :
    (((s.record .completed).setLifecycle .closed).record .observed).Kept := by
  have hpermitted : Permitted s.pairCount s.seen .completed := by
    intro p hp t
    rw [← hs.pairs] at hp
    have hr := List.getElem?_eq_getElem hp
    exact (((hs.told p _ hr).arms t).closed).mpr (hall _ (List.getElem_mem hp) t)
  have hrecorded : (s.record .completed).Kept := Kept.record hs rfl (fun _ h => by cases h) (by simp) hpermitted
  exact Kept.record (Kept.setLifecycle hrecorded (fun h => by cases h)) rfl (fun _ h => by cases h) (by simp) trivial

theorem Outcome.kept {c : PilotCall hash ε} {o : Except (PilotRunnerError ε) Unit}
    (h : Outcome s c o s') (hs : s.Kept) : s'.Kept := by
  cases h with
  | refused => exact hs
  | failed => exact hs
  | sealed daemon admission hl =>
    exact ⟨hs.pairs,hs.told,hs.permitted,hs.executed,fun _ => (fun h => by cases h),hs.artifact⟩
  | started b es _ hes => exact Kept.setLifecycle (Kept.tell hs hes) (fun h => by cases h)
  | unstarted b es e _ hes => exact Kept.tell hs hes
  | populated b p t phase s' hopen hp =>
    obtain ⟨_,r,hr,hgate⟩ := hopen
    exact hp.kept hs (Kept.ready hs hr hgate)
  | unpopulated b p t phase s' e hopen hp =>
    obtain ⟨_,r,hr,hgate⟩ := hopen
    exact hp.kept hs (Kept.ready hs hr hgate)
  | frozen b p t r head _ hr hl hhead =>
    have htold := hs.told p r hr
    refine Kept.setPair hs (by simp) ?_ (fun _ h => by cases h) ?_ (frozen_told htold hl hhead)
    · rintro q t' ⟨⟩
      rfl
    · intro head' hf
      exact ((htold.arms t).frozen head' hf).1 hl
  | exposed b p t r head exposure _ hr hl hhead hexposure hfits =>
    have htold := hs.told p r hr
    refine Kept.setPair hs (by simp) ?_ (fun _ h => by cases h) ⟨fun exposure' he => ?_,?_⟩ (exposed_told htold hl hfits)
    · rintro q t' ⟨⟩
      rfl
    · have hl' : (r.arm t).lifecycle=.sourceFrozen := hl
      have hno := (htold.arms t).exposed.mp ⟨exposure',he⟩
      rw [hl'] at hno
      rcases hno with hno | hno | hno <;> cases hno
    · have hmoved : (r.arm t).lifecycle≠.planned := by
        have hl' : (r.arm t).lifecycle=.sourceFrozen := hl
        rw [hl']
        exact (fun h => by cases h)
      obtain ⟨head',hhead',hmem,_⟩ := (htold.arms t).head hmoved
      obtain rfl := Option.some.inj (hhead.symm.trans hhead')
      exact ⟨head,hmem,hexposure⟩
  | released b p r _ hr hflag hl =>
    have htold := hs.told p r hr
    refine Kept.setPair hs (by simp) (fun _ _ h => by cases h) ?_ ⟨fun h => ?_,fun t => ?_⟩ (released_told htold hflag hl)
    · rintro q ⟨⟩
      rfl
    · rw [htold.released,hflag] at h
      cases h
    · exact (htold.arms t).exposed.mpr (.inl (hl t))
  | closed b p t r _ hr hl =>
    have htold := hs.told p r hr
    refine Kept.setPair hs (by simp) ?_ (fun _ h => by cases h) ⟨fun h => ?_,?_⟩ (closed_told htold hl)
    · rintro q t' ⟨⟩
      rfl
    · have hl' : (r.arm t).lifecycle=.correctionReleased := hl
      rw [(htold.arms t).closed,hl'] at h
      cases h
    · exact htold.released.mpr (htold.matched.flagged t (.inl hl))
  | completed b artifact hopen =>
    have hk := Kept.completed hs hopen.2
    have hmem : .completed∈(s.record .completed).seen++[.observed] := by simp
    exact ⟨hk.pairs,hk.told,hk.permitted,hk.executed,(fun h => by cases h),fun _ => hmem⟩
  | unanalyzed b e hopen => exact Kept.completed hs hopen.2

theorem Initial.kept (hs : s.Initial) : s.Kept := by
  obtain ⟨hseen,operation,pilot,hnew⟩ := hs
  unfold CanonicalPilotRunner.new at hnew
  cases hp : PreparedLiveRunAdmission.new hash operation pilot.livePlan with
  | error e => simp [hp,bind,Except.bind] at hnew
  | ok prepared =>
    simp only [hp,bind,Except.bind,Except.ok.injEq] at hnew
    have hrunner := hnew.symm
    refine ⟨?_,fun p r hr => ?_,fun l e l' h => ?_,fun p t phase role => ?_,fun h => ?_,fun h => ?_⟩
    · simp [PilotRun.pairCount,hrunner,LiveRunPlan.choreographies]
    · rw [hrunner] at hr
      rw [List.getElem?_map] at hr
      obtain ⟨c,_,rfl⟩ := Option.map_eq_some_iff.mp hr
      have ha (t : TreatmentArm) : ArmTold s.seen p t (.planned t) := by
        rw [hseen]
        refine ⟨(fun h => by cases h),fun head h => absurd h List.not_mem_nil,fun h => absurd rfl h,⟨?_,fun h => ?_⟩,
          ⟨fun h => absurd h List.not_mem_nil,(fun h => by cases h)⟩⟩
        · rintro ⟨exposure,h⟩
          exact absurd h List.not_mem_nil
        · rcases h with h | h | h <;> cases h
      refine ⟨planned_matched c,fun t => ?_,?_⟩
      · cases t
        · exact ha .retained
        · exact ha .reset
      · rw [hseen]
        exact ⟨fun h => absurd h List.not_mem_nil,(fun h => by cases h)⟩
    · simp [hseen] at h
    · simp [hseen,hrunner]
    · rw [hrunner] at h
      cases h
    · rw [hrunner] at h
      exact absurd rfl h

end Preservation

end Society.Latency
