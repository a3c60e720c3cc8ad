import Society.Boundary.UsageLaws

namespace Society.Boundary
open Society.Coding Society.Stateful

variable {hash : Bytes → Blake3Digest} {h : List PeerEntry} {s t : BoundaryPeer}

section Frames

/-! The frames that make up the evidence of a turn, all under its correlation. -/

variable (c : CorrelationIdentity)

def promptAccepted (f : OutboundFrame) : Prop :=
  f.correlationIdentity=some c ∧ f.event=.commandResult (.accepted .prompt)

def agentStarted (f : OutboundFrame) : Prop :=
  f.correlationIdentity=some c ∧ f.event=.agentEvent .agentStart

/-- The last message that an assistant wrote stops for the reason. -/
def lastAssistantStops (messages : List Json) (reason : AssistantStopReason) : Prop :=
  ∃ before m after fields,messages=before++m::after ∧ assistantFields m=some fields ∧
    stopReasonField fields=some reason ∧ ∀ x∈after,assistantFields x=none

def agentEnded (reason : AssistantStopReason) (f : OutboundFrame) : Prop :=
  f.correlationIdentity=some c ∧ ∃ messages,f.event=.agentEvent (.agentEnd messages false) ∧
    lastAssistantStops messages reason

def agentSettled (f : OutboundFrame) : Prop :=
  f.correlationIdentity=some c ∧ f.event=.agentEvent .agentSettled

def knownUsage (f : OutboundFrame) : Prop :=
  f.correlationIdentity=some c ∧ ∃ totals,f.event=.usageSnapshot (.known totals)

theorem lastAssistantStops_of_final {messages : List Json} {reason : AssistantStopReason}
    (hf : finalAssistantStopReason messages=some reason) : lastAssistantStops messages reason := by
  obtain ⟨fields,hfind,hreason⟩ := Option.bind_eq_some_iff.mp hf
  obtain ⟨l₁,m,l₂,heq,hm,hl₁⟩ := List.findSome?_eq_some_iff.mp hfind
  refine ⟨l₂.reverse,m,l₁.reverse,fields,?_,hm,hreason,fun x hx => hl₁ x (List.mem_reverse.mp hx)⟩
  have := congrArg List.reverse heq
  simpa using this

end Frames
section Evidence

/-- What the record of a turn holds when its evidence has come to a phase. -/
def Chain (c : CorrelationIdentity) (turn : List PeerEntry) : TurnEvidencePhase → Prop
  | .awaitingAgentStart => True
  | .activeAttempt | .retryLifecycle => ∃ f₁,agentStarted c f₁ ∧
      [observedEntry f₁ none].Sublist turn
  | .awaitingAgentSettled reason => ∃ f₁ f₂,agentStarted c f₁ ∧ agentEnded c reason f₂ ∧
      [observedEntry f₁ none,observedEntry f₂ none].Sublist turn
  | .awaitingFinalPromptUsage reason settled => ∃ f₁ f₂ f₃,agentStarted c f₁ ∧
      agentEnded c reason f₂ ∧ agentSettled c f₃ ∧ f₃.sequence.val=settled ∧
      [observedEntry f₁ none,observedEntry f₂ none,observedEntry f₃ none].Sublist turn
  | .awaitingSettledFrame reason settled usage => ∃ f₁ f₂ f₃ f₄ delta,agentStarted c f₁ ∧
      agentEnded c reason f₂ ∧ agentSettled c f₃ ∧ knownUsage c f₄ ∧ f₃.sequence.val=settled ∧
      f₄.sequence.val=usage ∧
      [observedEntry f₁ none,observedEntry f₂ none,observedEntry f₃ none,
        observedEntry f₄ (some (.usage delta))].Sublist turn

theorem Chain.append {c : CorrelationIdentity} {turn : List PeerEntry} {p : TurnEvidencePhase}
    (hc : Chain c turn p) (e : PeerEntry) : Chain c (turn++[e]) p := by
  have hsub : turn.Sublist (turn++[e]) := List.sublist_append_left turn [e]
  cases p with
  | awaitingAgentStart => trivial
  | activeAttempt | retryLifecycle =>
    obtain ⟨f₁,h₁,hs⟩ := hc
    exact ⟨f₁,h₁,hs.trans hsub⟩
  | awaitingAgentSettled =>
    obtain ⟨f₁,f₂,h₁,h₂,hs⟩ := hc
    exact ⟨f₁,f₂,h₁,h₂,hs.trans hsub⟩
  | awaitingFinalPromptUsage =>
    obtain ⟨f₁,f₂,f₃,h₁,h₂,h₃,hq,hs⟩ := hc
    exact ⟨f₁,f₂,f₃,h₁,h₂,h₃,hq,hs.trans hsub⟩
  | awaitingSettledFrame =>
    obtain ⟨f₁,f₂,f₃,f₄,d,h₁,h₂,h₃,h₄,hq,hu,hs⟩ := hc
    exact ⟨f₁,f₂,f₃,f₄,d,h₁,h₂,h₃,h₄,hq,hu,hs.trans hsub⟩

/-- An accepted event of the agent carries the chain to its next phase. -/
theorem Chain.evidence {c : CorrelationIdentity} {turn : List PeerEntry}
    {p p' : TurnEvidencePhase} {f : OutboundFrame} {event : ProjectedAgentEvent}
    (hc : Chain c turn p) (hcorr : f.correlationIdentity=some c) (hf : f.event=.agentEvent event)
    (hp : observeTurnEvidence p event f.sequence.val=.ok p') :
    Chain c (turn++[observedEntry f none]) p' := by
  have hlast (l : List PeerEntry) (hl : l.Sublist turn) :
      (l++[observedEntry f none]).Sublist (turn++[observedEntry f none]) := hl.append_right _
  have hother (hsame : p'=p) : Chain c (turn++[observedEntry f none]) p' := hsame ▸ hc.append _
  have hstarted (hr : p.running=true) : ∃ f₁,agentStarted c f₁ ∧
      [observedEntry f₁ none].Sublist turn := by
    cases p <;> first | exact hc | cases hr
  cases event with
  | agentStart =>
    have hnew : ∃ f₁,agentStarted c f₁ ∧
        [observedEntry f₁ none].Sublist (turn++[observedEntry f none]) :=
      ⟨f,⟨hcorr,hf⟩,by simp⟩
    cases p with
    | awaitingAgentStart | retryLifecycle =>
      cases hp
      exact hnew
    | _ => cases hp
  | agentEnd messages willRetry =>
    simp only [observeTurnEvidence] at hp
    split at hp
    · cases hp
    · next hrunning =>
      obtain ⟨f₁,h₁,hs⟩ := hstarted (by simpa using hrunning)
      split at hp
      · cases hp
        exact ⟨f₁,h₁,hs.trans (List.sublist_append_left ..)⟩
      · next hfinal =>
        split at hp
        · next reason hreason =>
          cases hp
          have hw : willRetry=false := by simpa using hfinal
          subst hw
          exact ⟨f₁,f,h₁,⟨hcorr,messages,hf,lastAssistantStops_of_final hreason⟩,hlast _ hs⟩
        · cases hp
  | agentSettled =>
    cases p with
    | awaitingAgentSettled reason =>
      cases hp
      obtain ⟨f₁,f₂,h₁,h₂,hs⟩ := hc
      exact ⟨f₁,f₂,f,h₁,h₂,⟨hcorr,hf⟩,rfl,hlast _ hs⟩
    | _ => cases hp
  | _ =>
    cases p with
    | awaitingFinalPromptUsage | awaitingSettledFrame => cases hp
    | _ =>
      cases hp
      exact hother rfl

/-- The evidence of the running turn, in the part of the record since its prompt was accepted. -/
structure Evidence (turn : ActiveTurn) (next : Nat) (entries : List PeerEntry) : Prop where
  chain : Chain turn.correlation entries turn.evidencePhase
  latest (u : Nat) : turn.latestPromptUsageSequence=some u → ∃ f delta,
    knownUsage turn.correlation f ∧ f.sequence.val=u ∧
    observedEntry f (some (.usage delta))∈entries
  settled (reason : AssistantStopReason) (q : Nat) :
    turn.evidencePhase=.awaitingFinalPromptUsage reason q → q<next
  unsettled : ∀ e∈entries,isSettledEntry e.2=false

def Evidenced (h : List PeerEntry) (s : BoundaryPeer) : Prop :=
  ∀ turn,s.activeTurn=some turn → ∃ before f entries,
    h=before++observedEntry f none::entries ∧ promptAccepted turn.correlation f ∧
    Evidence turn s.expectedOutboundSequence entries

theorem unsettled_append {entries : List PeerEntry} {e : PeerEntry}
    (hi : ∀ x∈entries,isSettledEntry x.2=false) (he : isSettledEntry e.2=false) :
    ∀ x∈entries++[e],isSettledEntry x.2=false := by
  intro x hx
  rcases List.mem_append.mp hx with hx | hx
  · exact hi x hx
  · rw [List.mem_singleton.mp hx]
    exact he

/-- A call that leaves the evidence of the turn as it is. -/
theorem Evidenced.same {e : PeerEntry} (hi : Evidenced h s) (he : isSettledEntry e.2=false)
    (hn : s.expectedOutboundSequence≤t.expectedOutboundSequence)
    (ht : ∀ turn,t.activeTurn=some turn → ∃ old,s.activeTurn=some old ∧
      turn.correlation=old.correlation ∧ turn.evidencePhase=old.evidencePhase ∧
      turn.latestPromptUsageSequence=old.latestPromptUsageSequence) : Evidenced (h++[e]) t := by
  intro turn hturn
  obtain ⟨old,hold,hc,hp,hl⟩ := ht turn hturn
  obtain ⟨before,f,entries,rfl,hf,hev⟩ := hi old hold
  refine ⟨before,f,entries++[e],by simp,hc ▸ hf,?_⟩
  constructor
  · rw [hc,hp]
    exact hev.chain.append e
  · intro u hu
    obtain ⟨g,delta,hg,hseq,hmem⟩ := hev.latest u (hl ▸ hu)
    exact ⟨g,delta,hc ▸ hg,hseq,List.mem_append_left _ hmem⟩
  · intro reason q hq
    exact Nat.lt_of_lt_of_le (hev.settled reason q (hp ▸ hq)) hn
  · exact unsettled_append hev.unsettled he

theorem Evidenced.keep {e : PeerEntry} (hi : Evidenced h s) (he : isSettledEntry e.2=false)
    (hn : s.expectedOutboundSequence≤t.expectedOutboundSequence)
    (ht : t.activeTurn=s.activeTurn) : Evidenced (h++[e]) t :=
  hi.same he hn (fun turn hturn => ⟨turn,ht ▸ hturn,rfl,rfl,rfl⟩)

theorem Evidenced.idle (ht : t.activeTurn=none) : Evidenced h t := by
  intro turn hturn
  rw [ht] at hturn
  cases hturn

theorem Evidenced.agent {f : OutboundFrame} {event : ProjectedAgentEvent} {turn : ActiveTurn}
    {p : TurnEvidencePhase} (hi : Evidenced h s) (hf : f.event=.agentEvent event)
    (ht : s.activeTurn=some turn) (hc : f.correlationIdentity=some turn.correlation)
    (hseq : f.sequence.val=s.expectedOutboundSequence)
    (hp : observeTurnEvidence turn.evidencePhase event f.sequence.val=.ok p) :
    Evidenced (h++[observedEntry f none])
      { advanced s with activeTurn := some { turn with evidencePhase := p } } := by
  intro turn' hturn'
  cases hturn'
  obtain ⟨before,f₀,entries,rfl,hf₀,hev⟩ := hi turn ht
  refine ⟨before,f₀,entries++[observedEntry f none],by simp,hf₀,?_⟩
  constructor
  · exact hev.chain.evidence hc hf hp
  · intro u hu
    obtain ⟨g,delta,hg,hseq,hmem⟩ := hev.latest u hu
    exact ⟨g,delta,hg,hseq,List.mem_append_left _ hmem⟩
  · intro reason q hq
    -- Only `agent_settled` enters this phase, at the number of its own frame.
    simp only at hq
    subst hq
    have hnow : q=f.sequence.val ∨ turn.evidencePhase=.awaitingFinalPromptUsage reason q := by
      cases event <;> cases hphase : turn.evidencePhase <;>
        simp_all [observeTurnEvidence,TurnEvidencePhase.running] <;> grind
    simp only [advanced]
    rcases hnow with hnow | hnow
    · omega
    · have := hev.settled reason q hnow
      omega
  · exact unsettled_append hev.unsettled rfl

theorem Evidenced.usage {f : OutboundFrame} {c : CorrelationIdentity} {delta : UsageDelta}
    {totals : UsageTotals} (hi : Evidenced h s) (hf : f.event=.usageSnapshot (.known totals))
    (hc : f.correlationIdentity=some c) (hn : t.expectedOutboundSequence=s.expectedOutboundSequence+1)
    (ht : t.activeTurn=s.activeTurn.map (ActiveTurn.noteUsage f.sequence.val c)) :
    Evidenced (h++[observedEntry f (some (.usage delta))]) t := by
  intro turn hturn
  obtain ⟨old,hold,rfl⟩ := Option.map_eq_some_iff.mp (ht ▸ hturn)
  by_cases heq : c=old.correlation
  · subst heq
    obtain ⟨before,f₀,entries,rfl,hf₀,hev⟩ := hi old hold
    simp only [ActiveTurn.noteUsage,if_true]
    refine ⟨before,f₀,entries++[observedEntry f (some (.usage delta))],by simp,hf₀,?_⟩
    constructor
    · have hchain := hev.chain
      cases hp : old.evidencePhase with
      | awaitingFinalPromptUsage reason q =>
        rw [hp] at hchain
        obtain ⟨f₁,f₂,f₃,h₁,h₂,h₃,hq,hs⟩ := hchain
        exact ⟨f₁,f₂,f₃,f,delta,h₁,h₂,h₃,⟨hc,totals,hf⟩,hq,rfl,hs.append_right _⟩
      | _ =>
        rw [hp] at hchain
        exact hchain.append _
    · intro u hu
      cases hu
      exact ⟨f,delta,⟨hc,totals,hf⟩,rfl,by simp⟩
    · intro reason q hq
      cases hp : old.evidencePhase with
      | awaitingFinalPromptUsage reason' q' => simp [hp] at hq
      | _ => simp [hp] at hq
    · exact unsettled_append hev.unsettled rfl
  · refine hi.same rfl (by omega) (fun turn' hturn' => ?_) _ hturn
    rw [ht,hold,Option.map_some,ActiveTurn.noteUsage,if_neg heq] at hturn'
    cases hturn'
    exact ⟨old,hold,rfl,rfl,rfl⟩

theorem Evidenced.step {c : PeerCall} {r : Except PeerError (Option PeerObservation)}
    (hi : Evidenced h s) (hstep : PeerStep hash s c r t) : Evidenced (h++[(c,r)]) t := by
  cases hstep with
  | @admitted f t hadm ha =>
    cases ha with
    | abort hf hready =>
      refine hi.same rfl (Nat.le_refl _) (fun turn hturn => ?_)
      obtain ⟨old,hold,rfl⟩ := Option.map_eq_some_iff.mp hturn
      exact ⟨old,hold,rfl,rfl,rfl⟩
    | _ => exact hi.keep rfl (Nat.le_refl _) rfl
  | @observed f o t hfit hobs =>
    cases hobs with
    | agentInside event turn phase hf ht hc hp => exact hi.agent hf ht hc hfit.sequence hp
    | usage totals c pending delta tracker hf hc hp hacc hname hfinal htrack hopen =>
      exact hi.usage hf hc rfl rfl
    | commandResult result c pending t hf hc hp hseen hname ha =>
      cases ha with
      | prompted prompt haccepted hn hprompt heq =>
        intro turn hturn
        cases hturn
        have hresult : result=.accepted .prompt := by
          cases result with
          | accepted command =>
            rw [hn] at hname
            rw [hname]
            rfl
          | rejected => cases haccepted
        refine ⟨h,f,[],rfl,⟨hc,by rw [hf,hresult]⟩,trivial,?_,?_,by simp⟩
        · intro u hu
          cases hu
        · intro reason q hq
          cases hq
      | _ => exact hi.keep rfl (Nat.le_succ _) rfl
    | settled classification outcome turn disposition hf ht =>
      refine .idle ?_
      split <;> rfl
    | usageUnavailable | fatal => exact .idle rfl
    | _ => exact hi.keep rfl (Nat.le_succ _) rfl
  | stdoutEof => exact hi.keep rfl (Nat.le_refl _) rfl
  | refused hf => exact .idle hf.activeTurn

theorem PeerRun.evidenced (hr : PeerRun hash h s) : Evidenced h s := by
  refine PeerRunWith.invariant Evidenced (fun s hs => ?_) (fun _ _ _ _ _ _ => .step) hr
  obtain ⟨session,process,nonce,runtime,rfl⟩ := hs.eq_initial
  exact .idle rfl

end Evidence
section Receipts

/-- The receipt an entry of the record answers. -/
def receiptOf : PeerEntry → Option TurnReceipt
  | (_,.ok (some (.turnSettled r))) => some r
  | _ => none

/-- What settles a turn with an observed outcome: start, final end, end of the agent and the
prompt's snapshot, in this order, the snapshot directly before the settlement. -/
def observedChain (c : CorrelationIdentity) (reason : AssistantStopReason) (f : OutboundFrame)
    (turn : List PeerEntry) : Prop :=
  ∃ f₁ f₂ f₃ f₄ delta,agentStarted c f₁ ∧ agentEnded c reason f₂ ∧ agentSettled c f₃ ∧
    knownUsage c f₄ ∧ f₃.sequence.val<f₄.sequence.val ∧ f₄.sequence.val+1=f.sequence.val ∧
    [observedEntry f₁ none,observedEntry f₂ none,observedEntry f₃ none,
      observedEntry f₄ (some (.usage delta))].Sublist turn

/-- What settles a turn without an outcome: the snapshot alone. -/
def unavailableChain (c : CorrelationIdentity) (f : OutboundFrame) (turn : List PeerEntry) : Prop :=
  ∃ f₄ delta,knownUsage c f₄ ∧ f₄.sequence.val+1=f.sequence.val ∧
    observedEntry f₄ (some (.usage delta))∈turn

/-- The turn that a frame settles: the record before it ends in the acceptance of the prompt and,
with no other settlement in between, the evidence of the outcome. -/
def Certified (before : List PeerEntry) (f : OutboundFrame) (r : TurnReceipt) : Prop :=
  ∃ earlier f₀ turn,before=earlier++observedEntry f₀ none::turn ∧
    promptAccepted r.correlationIdentity f₀ ∧ (∀ e∈turn,isSettledEntry e.2=false) ∧
    match r.finalAssistantOutcome with
    | .observed reason => observedChain r.correlationIdentity reason f turn
    | .unavailable _ => unavailableChain r.correlationIdentity f turn

theorem Evidenced.certified {f : OutboundFrame} {outcome : FinalAssistantOutcome}
    {turn : ActiveTurn} {disposition : TurnDisposition} (hi : Evidenced h s)
    (ht : s.activeTurn=some turn)
    (hclosed : observedEvidenceIsClosed f.sequence.val outcome turn.evidencePhase=true)
    (hlast : turn.latestPromptUsageSequence.any (fun usage => usage+1=f.sequence.val)=true) :
    Certified h f ⟨turn.correlation,disposition,outcome⟩ := by
  obtain ⟨before,f₀,entries,rfl,hf₀,hev⟩ := hi turn ht
  refine ⟨before,f₀,entries,rfl,hf₀,hev.unsettled,?_⟩
  cases outcome with
  | observed reason =>
    cases hp : turn.evidencePhase with
    | awaitingSettledFrame final settled usage =>
      rw [hp] at hclosed
      simp only [observedEvidenceIsClosed,Bool.and_eq_true,decide_eq_true_eq] at hclosed
      obtain ⟨⟨rfl,hlt⟩,hnext⟩ := hclosed
      have hchain := hev.chain
      rw [hp] at hchain
      obtain ⟨f₁,f₂,f₃,f₄,delta,h₁,h₂,h₃,h₄,rfl,rfl,hs⟩ := hchain
      exact ⟨f₁,f₂,f₃,f₄,delta,h₁,h₂,h₃,h₄,hlt,hnext,hs⟩
    | _ =>
      rw [hp] at hclosed
      cases hclosed
  | unavailable reason =>
    obtain ⟨u,hu,hnext⟩ := (Option.any_eq_true ..).mp hlast
    obtain ⟨f₄,delta,h₄,rfl,hmem⟩ := hev.latest u hu
    exact ⟨f₄,delta,h₄,of_decide_eq_true hnext,hmem⟩

/-- A call adds to the settled turns the receipt it answers, and nothing else. -/
theorem PeerStep.settledTurns {c : PeerCall} {r : Except PeerError (Option PeerObservation)}
    (hstep : PeerStep hash s c r t) :
    t.settledTurns=s.settledTurns++(receiptOf (c,r)).toList := by
  cases hstep with
  | admitted hadm ha => cases ha <;> simp [registered,receiptOf,noteAbort]
  | observed hfit hobs =>
    cases hobs with
    | settled => split <;> rfl
    | commandResult result c pending t hf hc hp hseen hname ha =>
      cases ha <;> simp [answered,advanced,receiptOf]
    | _ => simp [advanced,BoundaryPeer.fence,receiptOf]
  | stdoutEof => simp [receiptOf]
  | refused hf => simp [hf.settledTurns,receiptOf]

/-- Every settled turn is certified by the frames before its settlement. -/
theorem receipts_certified (hr : PeerRun hash h s) : s.settledTurns=h.filterMap receiptOf ∧
    ∀ h₁ h₂ f r,h=h₁++observedEntry f (some (.turnSettled r))::h₂ →
      f.correlationIdentity=some r.correlationIdentity ∧ Certified h₁ f r := by
  refine ⟨?_,fun h₁ h₂ f r heq => ?_⟩
  · refine PeerRunWith.invariant (fun h s => s.settledTurns=h.filterMap receiptOf) (fun s hs => ?_)
      (fun h s c r t _ hi hstep => ?_) hr
    · obtain ⟨session,process,nonce,runtime,rfl⟩ := hs.eq_initial
      rfl
    · rw [hstep.settledTurns,hi,List.filterMap_append]
      cases hreceipt : receiptOf (c,r) <;> simp [hreceipt]
  · subst heq
    obtain ⟨s₁,hr₁,-,ho⟩ := Reached.split hr
    have hstep := @run_step hash (.observe f) s₁
    rw [← ho] at hstep
    generalize ((PeerCall.observe f).run hash s₁).2=t₁ at hstep
    cases hstep with
    | observed hfit hobs =>
      cases hobs with
      | settled classification outcome turn disposition hf ht hc hd hclosed hlast =>
        exact ⟨hc,(PeerRun.evidenced hr₁).certified ht hclosed hlast⟩

/-- A task attempt whose turn settles. -/
def settledRun : List PeerCall :=
  turnEvidenced++[outboundFrame 8 (some 1) (.settled .completed (.observed .stop))]

theorem receipts_certified_settledRun : (session settledRun).2.settledTurns.length=1 ∧
    (session settledRun).2.settledTurns=(session settledRun).1.filterMap receiptOf ∧
    ∀ h₁ h₂ f r,(session settledRun).1=h₁++observedEntry f (some (.turnSettled r))::h₂ →
      f.correlationIdentity=some r.correlationIdentity ∧ Certified h₁ f r :=
  ⟨by decide +kernel,receipts_certified (session_reached settledRun)⟩

end Receipts
end Society.Boundary
