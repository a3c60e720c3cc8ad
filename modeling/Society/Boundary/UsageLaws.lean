import Society.Boundary.PeerLaws

namespace Society.Boundary
open Society.Coding Society.Stateful

variable {hash : Bytes → Blake3Digest} {h : List PeerEntry} {s t : BoundaryPeer}

section Conservation

def noAmounts : List Nat := [0,0,0,0,0,0]

/-- What an entry of the record charges. -/
def chargedBy : PeerEntry → List Nat
  | (_,.ok (some (.usage delta))) => delta.amounts
  | _ => noAmounts

/-- What the whole record charges, quantity by quantity. -/
def charged (h : List PeerEntry) : List Nat :=
  h.foldl (fun total e => total.zipWith (·+·) (chargedBy e)) noAmounts

/-- The call is not a late snapshot. -/
def timely (_ : List PeerEntry) (s : BoundaryPeer) : PeerCall → Prop
  | .observe f => lateSnapshot s f=false
  | _ => True

def PeerObservation.isUsage : PeerObservation → Bool
  | usage _ => true
  | _ => false

def isUsageEntry (r : Except PeerError (Option PeerObservation)) : Bool :=
  match r with
  | .ok (some o) => o.isUsage
  | _ => false

/-- The tracker after a call: moved by the delta of a usage answer, which is nothing for the
snapshot it already has, and otherwise as before. -/
structure Accounts (s : BoundaryPeer) (c : PeerCall)
    (r : Except PeerError (Option PeerObservation)) (t : BoundaryPeer) : Prop where
  unchanged : isUsageEntry r=false → t.usage=s.usage
  taken (delta : UsageDelta) : r=.ok (some (.usage delta)) → ∃ f totals current,
    c=.observe f ∧ f.event=.usageSnapshot (.known totals) ∧
    NormalizedUsage.fromTotals totals=.ok current ∧ t.usage.latest=some current ∧
    s.usage.amounts.zipWith (·+·) delta.amounts=t.usage.amounts ∧
    (s.usage.latest=some current → delta.amounts=noAmounts ∧ delta.idempotent=true)

theorem PeerStep.accounts {c : PeerCall} {r : Except PeerError (Option PeerObservation)}
    (hstep : PeerStep hash s c r t) (hc : timely h s c) : Accounts s c r t := by
  cases hstep with
  | admitted hadm ha =>
    refine ⟨fun _ => ?_,fun _ hr => by cases hr⟩
    cases ha <;> rfl
  | @observed f o t hfit hobs =>
    cases hobs with
    | usage totals c pending delta tracker hf hcorr hp hacc hname hfinal htrack hopen =>
      have hw := UsageTracker.observe_wp (.known totals) s.usage
      unfold Handler.wp at hw
      rw [htrack] at hw
      obtain ⟨totals',current,he,hrest⟩ := hw
      cases he
      refine ⟨fun hn => by simp [isUsageEntry,PeerObservation.isUsage] at hn,fun d hd => ?_⟩
      cases hd
      exact ⟨f,totals,current,rfl,hf,hrest⟩
    | settled =>
      refine ⟨fun _ => ?_,fun _ hr => by cases hr⟩
      split <;> rfl
    | commandResult result c pending t hf hcorr hp hseen hname ha =>
      refine ⟨fun _ => ?_,fun _ hr => by cases hr⟩
      cases ha <;> rfl
    | _ => exact ⟨fun _ => rfl,fun _ hr => by cases hr⟩
  | stdoutEof => exact ⟨fun _ => rfl,fun _ hr => by cases hr⟩
  | refused hf hu =>
    refine ⟨fun _ => hu (fun f hcf => ?_),fun _ hr => by cases hr⟩
    subst hcf
    exact hc

theorem charged_append (e : PeerEntry) :
    charged (h++[e])=(charged h).zipWith (·+·) (chargedBy e) := by
  simp [charged,List.foldl_append]

theorem amounts_noAmounts (u : UsageTracker) :
    u.amounts.zipWith (·+·) noAmounts=u.amounts := by
  cases hl : u.latest <;> simp [UsageTracker.amounts,hl,noAmounts,NormalizedUsage.amounts]

theorem Accounts.charged {c : PeerCall} {r : Except PeerError (Option PeerObservation)}
    (ha : Accounts s c r t) (hi : charged h=s.usage.amounts) :
    charged (h++[(c,r)])=t.usage.amounts := by
  rw [charged_append,hi]
  cases hr : isUsageEntry r with
  | false =>
    have hnone : chargedBy (c,r)=noAmounts := by
      unfold chargedBy
      split
      · next hd =>
        cases hd
        simp [isUsageEntry,PeerObservation.isUsage] at hr
      · rfl
    rw [hnone,amounts_noAmounts,ha.unchanged hr]
  | true =>
    unfold isUsageEntry at hr
    split at hr
    · next o =>
      cases o with
      | usage delta =>
        obtain ⟨f,totals,current,-,-,-,-,hsum,-⟩ := ha.taken delta rfl
        exact hsum
      | _ => cases hr
    · cases hr

/-- In a run without late snapshots the deltas add up to the latest usage, and each next call
either charges the difference it makes or changes nothing. -/
theorem usage_conserved (hr : PeerRunWith hash timely h s) : charged h=s.usage.amounts ∧
    ∀ c,timely h s c → Accounts s c (c.run hash s).1 (c.run hash s).2 := by
  refine ⟨?_,fun c hc => (run_step c s).accounts hc⟩
  refine PeerRunWith.invariant (fun h s => charged h=s.usage.amounts) (fun s hs => ?_)
    (fun h s c r t hc hi hstep => (hstep.accounts hc).charged hi) hr
  obtain ⟨session,process,nonce,runtime,rfl⟩ := hs.eq_initial
  rfl

/-- The condition as a test. -/
def timelyTest (_ : List PeerEntry) (s : BoundaryPeer) : PeerCall → Bool
  | .observe f => !lateSnapshot s f
  | _ => true

theorem timely_of_test (h : List PeerEntry) (s : BoundaryPeer) (c : PeerCall)
    (ht : timelyTest h s c=true) : timely h s c := by
  cases c with
  | observe f => simpa [timelyTest,timely] using ht
  | _ => trivial

theorem usage_conserved_turnEvidenced :
    charged (session turnEvidenced).1=[1,0,0,0,1,0] ∧
      charged (session turnEvidenced).1=(session turnEvidenced).2.usage.amounts ∧
      Accounts (session turnEvidenced).2 .stdoutEof (PeerCall.run digest .stdoutEof (session turnEvidenced).2).1
        (PeerCall.run digest .stdoutEof (session turnEvidenced).2).2 := by
  have hr : PeerRunWith digest timely (session turnEvidenced).1 (session turnEvidenced).2 :=
    Reached.trace timely_of_test turnEvidenced (.start hostPeer_fresh) (by decide +kernel)
  exact ⟨by decide +kernel,(usage_conserved hr).1,(usage_conserved hr).2 .stdoutEof trivial⟩

/-- A turn that gets a second snapshot after the one it was to settle on. -/
def lateRun : List PeerCall := turnEvidenced++[outboundFrame 8 (some 1) (snapshot 2)]

theorem lateRun_undercharged : PeerRun digest (session lateRun).1 (session lateRun).2 ∧
    charged (session lateRun).1=[1,0,0,0,1,0] ∧
    charged (session lateRun).1≠(session lateRun).2.usage.amounts :=
  ⟨session_reached lateRun,by decide +kernel,by decide +kernel⟩

end Conservation
section Disposal

/-- A known snapshot that the tracker takes after the disposal, on the word of an accepted
command. -/
def posthumousSnapshot (s : BoundaryPeer) (f : OutboundFrame) : Bool :=
  match f.event with
  | .usageSnapshot usage =>
    s.phase=.disposed && f.sessionIdentity=s.sessionIdentity &&
      f.sequence.val=s.expectedOutboundSequence &&
      (f.correlationIdentity.bind s.pendingCommands).any
        (fun p => p.accepted && usageCommand false p.name) &&
      (UsageTracker.observe usage s.usage).1.isOk
  | _ => false

/-- The call is not such a snapshot. -/
def quiet (_ : List PeerEntry) (s : BoundaryPeer) : PeerCall → Prop
  | .observe f => posthumousSnapshot s f=false
  | _ => True

def isSettledEntry (r : Except PeerError (Option PeerObservation)) : Bool :=
  match r with
  | .ok (some (.turnSettled _)) => true
  | _ => false

/-- The answer is neither usage nor a settled turn. -/
def offAccount (r : Except PeerError (Option PeerObservation)) : Prop :=
  isUsageEntry r=false ∧ isSettledEntry r=false

/-- The session is over, one way or the other. -/
def Ended (s : BoundaryPeer) : Prop := s.phase=.disposed ∨ s.phase=.fatal

theorem UnderWay.ended (hu : UnderWay s) (he : Ended s) :
    s.pendingPrompt=none ∧ s.activeTurn=none ∧ s.pendingDispose=none ∧ s.activeDispose=none := by
  obtain ⟨h1,h2,h3,h4,-,-,-⟩ := hu
  refine ⟨?_,?_,?_,?_⟩ <;> by_contra hn
  · rcases he with he | he <;> rw [(h1 hn).1] at he <;> cases he
  · rcases he with he | he <;> rw [h2 hn] at he <;> cases he
  · rcases he with he | he <;> rw [(h3 hn).1] at he <;> cases he
  · rcases he with he | he <;> rw [h4 hn] at he <;> cases he

theorem lateSnapshot_none (f : OutboundFrame) (ht : s.activeTurn=none) :
    lateSnapshot s f=false := by
  unfold lateSnapshot
  split
  · simp_all
  · rfl

/-- Once the session is over, a call that is not a posthumous snapshot keeps the accounts. -/
theorem PeerStep.ended {c : PeerCall} {r : Except PeerError (Option PeerObservation)}
    (hstep : PeerStep hash s c r t) (hu : UnderWay s) (he : Ended s) (hc : quiet h s c) :
    Ended t ∧ t.usage=s.usage ∧ offAccount r := by
  obtain ⟨hprompt,hturn,hdispose,hactive⟩ := hu.ended he
  have hphase : Ended t := by
    obtain ⟨hnext,hfatal⟩ := hu.phase hstep
    rcases he with he | he
    · rw [he] at hnext
      rcases hnext with hnext | hnext | hnext
      · exact .inl hnext
      · exact .inl hnext
      · exact .inr hnext
    · exact .inr (hfatal he)
  refine ⟨hphase,?_⟩
  cases hstep with
  | admitted hadm ha =>
    refine ⟨?_,rfl,rfl⟩
    cases ha <;> rfl
  | @observed f o t hfit hobs =>
    cases hobs with
    | usage totals c pending delta tracker hf hcorr hp hacc hname hfinal htrack hopen =>
      have hdisposed : s.phase=.disposed := by
        rcases he with he | he
        · exact he
        · exact absurd he (by simpa [hf,OutboundEvent.isFatal] using hfit.phase)
      have hname : usageCommand false pending.name=true := by simpa [hturn] using hname
      simp [quiet,posthumousSnapshot,hf,hdisposed,hfit.session,hfit.sequence,hcorr,hp,hacc,htrack,
        Except.isOk,Except.toBool,hname] at hc
    | settled classification outcome turn disposition hf ht =>
      rw [hturn] at ht
      cases ht
    | commandResult result c pending t hf hcorr hp hseen hname ha =>
      refine ⟨?_,rfl,rfl⟩
      cases ha <;> rfl
    | _ => exact ⟨rfl,rfl,rfl⟩
  | stdoutEof => exact ⟨rfl,rfl,rfl⟩
  | refused hf hlate =>
    exact ⟨hlate (fun f _ => lateSnapshot_none f hturn),rfl,rfl⟩

/-- The final snapshot of a disposal is the last entry of the record as long as no other frame
follows it. -/
def FinalUsage (h : List PeerEntry) (s : BoundaryPeer) : Prop :=
  ∀ d u,s.activeDispose=some d → d.finalUsageSequence=some u → u < s.expectedOutboundSequence ∧
    (u+1=s.expectedOutboundSequence →
      ∃ h₀ g delta,h=h₀++[observedEntry g (some (.usage delta))] ∧ g.sequence.val=u)

theorem FinalUsage.idle (hd : t.activeDispose=none) : FinalUsage h t := by
  intro d u hd'
  rw [hd] at hd'
  cases hd'

theorem FinalUsage.later {e : PeerEntry} (hi : FinalUsage h s)
    (hd : t.activeDispose=s.activeDispose)
    (hn : t.expectedOutboundSequence=s.expectedOutboundSequence+1) : FinalUsage (h++[e]) t := by
  intro d u hd' hu
  have hlt := (hi d u (hd ▸ hd') hu).1
  exact ⟨by omega,fun heq => by omega⟩

theorem FinalUsage.step {c : PeerCall} {r : Except PeerError (Option PeerObservation)}
    (hi : FinalUsage h s) (hu : UnderWay s) (hstep : PeerStep hash s c r t) :
    FinalUsage (h++[(c,r)]) t := by
  cases hstep with
  | admitted hadm ha =>
    have hnone : s.activeDispose=none := by
      by_contra hn
      have hclosing := hu.activeDispose hn
      cases ha <;> simp_all
    refine .idle ?_
    cases ha <;> exact hnone
  | @observed f o t hfit hobs =>
    cases hobs with
    | usage totals c pending delta tracker hf hcorr hp hacc hname hfinal htrack hopen =>
      intro d u hd hu'
      obtain ⟨d',hd',rfl⟩ := Option.map_eq_some_iff.mp hd
      cases hu'
      have hseq := hfit.sequence
      exact ⟨by simp only [advanced]; omega,fun _ => ⟨h,f,delta,rfl,rfl⟩⟩
    | settled classification outcome turn disposition hf ht =>
      split
      · exact .idle rfl
      · exact hi.later rfl rfl
    | commandResult result c pending t hf hcorr hp hseen hname ha =>
      cases ha with
      | disposing =>
        intro d u hd hu'
        cases hd
        cases hu'
      | _ => exact hi.later rfl rfl
    | disposed | usageUnavailable | fatal => exact .idle rfl
    | _ => exact hi.later rfl rfl
  | stdoutEof hend => exact .idle (hu.ended hend).2.2.2
  | refused hf => exact .idle hf.activeDispose

/-- The phase becomes `disposed` by the receipt that follows the final snapshot directly. -/
theorem PeerStep.disposed {c : PeerCall} {r : Except PeerError (Option PeerObservation)}
    (hstep : PeerStep hash s c r t) (hp : t.phase=.disposed) : s.phase=.disposed ∨
      ∃ f d u,c=.observe f ∧ r=.ok (some .disposed) ∧ s.activeDispose=some d ∧
        d.finalUsageSequence=some u ∧ u+1=f.sequence.val ∧
        f.sequence.val=s.expectedOutboundSequence := by
  cases hstep with
  | admitted hadm ha => exact .inl (ha.phase ▸ hp)
  | @observed f o t hfit hobs =>
    cases hobs with
    | disposed receipt dispose hf hphase ht hd hlast =>
      obtain ⟨u,hu,heq⟩ := (Option.any_eq_true ..).mp hlast
      exact .inr ⟨f,dispose,u,rfl,rfl,hd,hu,of_decide_eq_true heq,hfit.sequence⟩
    | settled classification outcome turn disposition hf ht =>
      split at hp
      · cases hp
      · exact .inl hp
    | commandResult result c pending t hf hcorr hp' hseen hname ha =>
      cases ha with
      | created | disposing => cases hp
      | _ => exact .inl hp
    | adapterReady | sessionReady | usageUnavailable | fatal => cases hp
    | _ => exact .inl hp
  | stdoutEof => exact .inl hp
  | refused hf =>
    rw [hf.phase] at hp
    cases hp

/-- The record of a disposed session: its last usage answer directly before the receipt. -/
def Settled (h : List PeerEntry) : Prop := ∃ h₀ g delta f h₂,
  h=h₀++observedEntry g (some (.usage delta))::observedEntry f (some .disposed)::h₂ ∧
    g.sequence.val+1=f.sequence.val ∧ ∀ e∈h₂,offAccount e.2

theorem Settled.step {c : PeerCall} {r : Except PeerError (Option PeerObservation)}
    (hi : s.phase=.disposed → Settled h) (hf : FinalUsage h s) (hu : UnderWay s)
    (hc : quiet h s c) (hstep : PeerStep hash s c r t) (hp : t.phase=.disposed) :
    Settled (h++[(c,r)]) := by
  rcases hstep.disposed hp with hd | ⟨f,d,u,rfl,rfl,hd,hd',hseq,hnext⟩
  · obtain ⟨h₀,g,delta,f,h₂,rfl,hseq,hoff⟩ := hi hd
    refine ⟨h₀,g,delta,f,h₂++[(c,r)],by simp,hseq,fun e he => ?_⟩
    rcases List.mem_append.mp he with he | he
    · exact hoff e he
    · rw [List.mem_singleton.mp he]
      exact (hstep.ended hu (.inl hd) hc).2.2
  · obtain ⟨h₀,g,delta,rfl,hg⟩ := (hf d u hd hd').2 (hseq.trans hnext)
    exact ⟨h₀,g,delta,f,[],by simp,by rw [hg,hseq],by simp⟩

theorem settled_of_disposed (hr : PeerRunWith hash quiet h s) :
    UnderWay s ∧ FinalUsage h s ∧ (s.phase=.disposed → Settled h) := by
  refine PeerRunWith.invariant
    (fun h s => UnderWay s ∧ FinalUsage h s ∧ (s.phase=.disposed → Settled h)) (fun s hs => ?_)
    (fun h s c r t hc hi hstep => ⟨hi.1.step hstep,hi.2.1.step hi.1 hstep,
      Settled.step hi.2.2 hi.2.1 hi.1 hc hstep⟩) hr
  have hrun : PeerRun hash [] s := .start hs
  refine ⟨PeerRun.underWay hrun,?_,?_⟩
  · obtain ⟨session,process,nonce,runtime,rfl⟩ := hs.eq_initial
    exact .idle rfl
  · obtain ⟨session,process,nonce,runtime,rfl⟩ := hs.eq_initial
    intro hp
    cases hp

/-- In a run without posthumous snapshots the accounts of a disposed session are closed: its last
usage answer stands directly before the receipt, and whatever calls follow keep the latest usage
and answer neither usage nor a settled turn. -/
theorem disposed_closed (hr : PeerRunWith hash quiet h s) (hd : s.phase=.disposed) : Settled h ∧
    ∀ h' s',Reached (PeerCall.run hash) (·=s) quiet h' s' →
      s'.usage=s.usage ∧ ∀ e∈h',offAccount e.2 := by
  obtain ⟨hu,-,hsettled⟩ := settled_of_disposed hr
  refine ⟨hsettled hd,fun h' s' hr' => ?_⟩
  have hlast := Reached.invariant (fun h' s' => UnderWay s' ∧ Ended s' ∧ s'.usage=s.usage ∧
      ∀ e∈h',offAccount e.2) (fun s' hs' => ?_) (fun h' s' c _ hc hi => ?_) hr'
  · exact hlast.2.2
  · subst hs'
    exact ⟨hu,.inl hd,rfl,by simp⟩
  · have hkeep (r : Except PeerError (Option PeerObservation)) (t : BoundaryPeer)
        (hstep : PeerStep hash s' c r t) : UnderWay t ∧ Ended t ∧ t.usage=s.usage ∧
        ∀ e∈h'++[(c,r)],offAccount e.2 := by
      obtain ⟨hend,husage,hoff⟩ := hstep.ended hi.1 hi.2.1 hc
      refine ⟨hi.1.step hstep,hend,husage.trans hi.2.2.1,fun e he => ?_⟩
      rcases List.mem_append.mp he with he | he
      · exact hi.2.2.2 e he
      · rw [List.mem_singleton.mp he]
        exact hoff
    exact Handler.wp_mono (fun _ _ => hkeep _ _) (fun _ _ => hkeep _ _) (run_wp c)

/-- The condition as a test. -/
def quietTest (_ : List PeerEntry) (s : BoundaryPeer) : PeerCall → Bool
  | .observe f => !posthumousSnapshot s f
  | _ => true

theorem quiet_of_test (h : List PeerEntry) (s : BoundaryPeer) (c : PeerCall)
    (ht : quietTest h s c=true) : quiet h s c := by
  cases c with
  | observe f => simpa [quietTest,quiet] using ht
  | _ => trivial

/-- An office session that answers a question about its state and is disposed of. -/
def disposedRun : List PeerCall :=
  sessionOpened .rootAuthorityOffice++
  [inboundFrame 1 .getState,
   outboundFrame 3 (some 1) (.commandResult (.accepted .getState)),
   inboundFrame 2 (.dispose .cycleReconciliation),
   outboundFrame 4 (some 2) (.commandResult (.accepted .dispose)),
   outboundFrame 5 (some 2) (snapshot 1),
   outboundFrame 6 (some 2) (.disposed (.unmaterializedNoPrompt sessionName
     transcriptPath))]

theorem disposed_closed_disposedRun : (session disposedRun).2.phase=.disposed ∧
    Settled (session disposedRun).1 ∧
    ∀ h' s',Reached (PeerCall.run digest) (·=(session disposedRun).2) quiet h' s' →
      s'.usage=(session disposedRun).2.usage ∧ ∀ e∈h',offAccount e.2 := by
  have hr : PeerRunWith digest quiet (session disposedRun).1 (session disposedRun).2 :=
    Reached.trace quiet_of_test disposedRun (.start hostPeer_fresh) (by decide +kernel)
  exact ⟨by decide +kernel,disposed_closed hr (by decide +kernel)⟩

/-- The same session with one more snapshot for the question it answered. -/
def posthumousRun : List PeerCall := disposedRun++[outboundFrame 7 (some 1) (snapshot 2)]

theorem posthumousRun_charged :
    PeerRun digest (session posthumousRun).1 (session posthumousRun).2 ∧
    (session disposedRun).2.phase=.disposed ∧
    ((session posthumousRun).1.getLast?.any (fun e => isUsageEntry e.2))=true ∧
    (session disposedRun).2.usage.amounts=[1,0,0,0,1,0] ∧
    (session posthumousRun).2.usage.amounts=[2,0,0,0,2,0] :=
  ⟨session_reached posthumousRun,by decide +kernel⟩

end Disposal
end Society.Boundary
