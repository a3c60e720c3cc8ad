import Society.Boundary.PeerSteps

namespace Society.Boundary
open Society.Coding Society.Stateful

variable {hash : Bytes → Blake3Digest} {h : List PeerEntry} {s t : BoundaryPeer}

section UnderWay

/-- One prompt, turn or disposal at a time, and only in the phase it belongs to. -/
structure UnderWay (s : BoundaryPeer) : Prop where
  pendingPrompt : s.pendingPrompt≠none → s.phase=.ready ∧ s.activeTurn=none
  activeTurn : s.activeTurn≠none → s.phase=.ready
  pendingDispose : s.pendingDispose≠none → s.phase=.ready ∧ s.pendingPrompt=none ∧
    s.activeTurn=none
  activeDispose : s.activeDispose≠none → s.phase=.closing
  createCandidate : s.createCandidate≠none → s.phase≠.fatal → s.phase=.inert ∧ s.create=none
  creating : s.phase=.creating → s.create≠none
  ready : s.phase=.ready → s.create≠none ∧ s.configuration≠none

theorem UnderWay.fenced (hf : Fenced s t) : UnderWay t := by
  obtain ⟨hp,h1,h2,h3,h4,-,-⟩ := hf
  constructor <;> simp [hp,h1,h2,h3,h4]

theorem UnderWay.step {c : PeerCall} {r : Except PeerError (Option PeerObservation)}
    (hi : UnderWay s) (hstep : PeerStep hash s c r t) : UnderWay t := by
  obtain ⟨i1,i2,i3,i4,i5,i6,i7⟩ := hi
  cases hstep with
  | admitted hadm hadmits =>
    obtain ⟨hphase,-,hd⟩ := hadm
    cases hadmits with
    | abort hf hready =>
      cases ht : s.activeTurn <;> constructor <;> simp_all [registered,noteAbort]
    | _ => constructor <;> simp_all [registered]
  | observed hfit hobs => 
    cases hobs with
    | adapterReady pid nonce runtime hf hphase =>
      constructor <;> simp_all [advanced]
    | sessionReady c create hf hphase hcreate =>
      constructor <;> simp_all [advanced]
    | commandResult result c pending t hf hc hp hseen hname ha =>
      have hlive : s.phase≠.fatal := by simpa [hf,OutboundEvent.isFatal] using hfit.phase
      cases ha <;> constructor <;> simp_all [advanced,answered]
    | agentOutside event hf ht hc => exact ⟨i1,i2,i3,i4,i5,i6,i7⟩
    | agentInside event turn phase hf ht hc hp => constructor <;> simp_all [advanced]
    | forumToolCall call tool args turn hf ht hc hprofile hcall => constructor <;> simp_all [advanced]
    | usageUnavailable reason hf hphase => exact .fenced (fence_fenced rfl rfl)
    | usage totals c pending delta tracker hf hc hp hacc hname hfinal htrack hopen =>
      constructor <;> simp_all [advanced]
    | settled classification outcome turn disposition hf ht hc hd hclosed hlast =>
      split
      · exact .fenced (fence_fenced (s := settledPeer s _) rfl rfl)
      · constructor <;> simp_all [advanced,settledPeer]
    | disposed receipt dispose hf hphase ht hd hu => constructor <;> simp_all [advanced]
    | fatal code hf => exact .fenced (fence_fenced rfl rfl)
  | stdoutEof => exact ⟨i1,i2,i3,i4,i5,i6,i7⟩
  | refused hf => exact .fenced hf

theorem PeerRun.underWay (hr : PeerRun hash h s) : UnderWay s := by
  refine PeerRunWith.invariant (fun _ s => UnderWay s) (fun s hs => ?_)
    (fun _ _ _ _ _ _ => .step) hr
  obtain ⟨session,process,nonce,runtime,rfl⟩ := hs.eq_initial
  constructor <;> simp [BoundaryPeer.initial]

/-- The next phase of a session that goes well. -/
def PeerPhase.next : PeerPhase → PeerPhase
  | awaitingAdapterReady => inert
  | inert => creating
  | creating => ready
  | ready => closing
  | closing => disposed
  | disposed => disposed
  | fatal => fatal

/-- A call keeps the phase, moves it one on, or closes the peer; nothing reopens it. -/
theorem UnderWay.phase {c : PeerCall} {r : Except PeerError (Option PeerObservation)}
    (hi : UnderWay s) (hstep : PeerStep hash s c r t) :
    (t.phase=s.phase ∨ t.phase=s.phase.next ∨ t.phase=.fatal) ∧
      (s.phase=.fatal → t.phase=.fatal) := by
  cases hstep with
  | admitted hadm hadmits =>
    have hsame : t.phase=s.phase := by cases hadmits <;> rfl
    exact ⟨.inl hsame,fun hf => hsame.trans hf⟩
  | observed hfit hobs =>
    cases hobs with
    | adapterReady pid nonce runtime hf hphase => simp [hphase,PeerPhase.next]
    | sessionReady c create hf hphase hcreate => simp [hphase,PeerPhase.next]
    | commandResult result c pending t hf hc hp hseen hname ha =>
      have hlive : s.phase≠.fatal := by simpa [hf,OutboundEvent.isFatal] using hfit.phase
      refine ⟨?_,fun hfatal => absurd hfatal hlive⟩
      cases ha with
      | created payload haccepted hn hcandidate =>
        have hinert := (hi.createCandidate (by simp [hcandidate]) hlive).1
        simp [hinert,PeerPhase.next]
      | prompted prompt haccepted hn hprompt heq => exact .inl rfl
      | disposing haccepted hn hdispose =>
        have hready := (hi.pendingDispose (by simp [hdispose])).1
        simp [hready,PeerPhase.next]
      | promptRefused prompt hrejected hn hprompt heq => exact .inl rfl
      | plain => exact .inl rfl
    | agentOutside | agentInside | forumToolCall | usage => exact ⟨.inl rfl,id⟩
    | usageUnavailable | fatal => exact ⟨.inr (.inr rfl),fun _ => rfl⟩
    | settled classification outcome turn disposition hf ht hc hd hclosed hlast =>
      split
      · exact ⟨.inr (.inr rfl),fun _ => rfl⟩
      · exact ⟨.inl rfl,id⟩
    | disposed receipt dispose hf hphase ht hd hu => simp [hphase,PeerPhase.next]
  | stdoutEof => exact ⟨.inl rfl,id⟩
  | refused hf => exact ⟨.inr (.inr hf.phase),fun _ => hf.phase⟩

end UnderWay
section Commands

/-- An admission under a correlation. -/
def admissionOf (c : CorrelationIdentity) : PeerEntry → Bool
  | (.admitFrame f,.ok _) => f.correlationIdentity=c
  | _ => false

def OutboundEvent.isResult : OutboundEvent → Bool
  | commandResult _ => true
  | _ => false

/-- An accepted result under a correlation. -/
def resultOf (c : CorrelationIdentity) : PeerEntry → Bool
  | (.observe f,.ok _) => f.event.isResult && f.correlationIdentity=some c
  | _ => false

def promptAdmission : PeerEntry → Bool
  | (.admitFrame f,.ok _) => f.command.name=.prompt
  | _ => false

/-- The table of commands tells what the record holds: an entry for each admission, marked once
its result is in. -/
structure Tabled (h : List PeerEntry) (s : BoundaryPeer) : Prop where
  once (c : CorrelationIdentity) : h.countP (admissionOf c)≤1 ∧ h.countP (resultOf c)≤1
  admitted (c : CorrelationIdentity) : s.phase≠.fatal →
    h.countP (admissionOf c)=if s.pendingCommands c=none then 0 else 1
  answered (c : CorrelationIdentity) : s.phase≠.fatal →
    h.countP (resultOf c)=if (s.pendingCommands c).any (·.resultSeen) then 1 else 0
  named (c : CorrelationIdentity) (p : PendingCommand) : s.phase≠.fatal →
    s.pendingCommands c=some p → ∃ f,admittedEntry f∈h ∧
      f.correlationIdentity=c ∧ f.command.name=p.name

theorem Admits.pendingCommands {f : InboundFrame} (ha : Admits hash s f t) :
    t.pendingCommands=
      insert s.pendingCommands f.correlationIdentity (some ⟨f.command.name,false,false⟩) := by
  cases ha <;> rfl

theorem Admits.phase {f : InboundFrame} (ha : Admits hash s f t) : t.phase=s.phase := by
  cases ha <;> rfl

theorem Answers.pendingCommands {n : Nat} {c : CorrelationIdentity} {p : PendingCommand}
    {accepted : Bool} (ha : Answers s n c p accepted t) :
    t.pendingCommands=insert s.pendingCommands c (some ⟨p.name,true,accepted⟩) := by
  cases ha <;> rfl

/-- Only results touch the table of commands. -/
theorem Observes.pendingCommands {f : OutboundFrame} {o : Option PeerObservation}
    (ho : Observes s f o t) (hf : f.event.isResult=false) :
    t.pendingCommands=s.pendingCommands := by
  cases ho with
  | commandResult result c pending t he => simp [he,OutboundEvent.isResult] at hf
  | settled => split <;> rfl
  | _ => rfl

theorem Tabled.same {e : PeerEntry} (hi : Tabled h s) (ha : ∀ c,admissionOf c e=false)
    (hres : ∀ c,resultOf c e=false) (hlive : t.phase≠.fatal → s.phase≠.fatal)
    (ht : t.phase≠.fatal → t.pendingCommands=s.pendingCommands) : Tabled (h++[e]) t where
  once c := by simpa [List.countP_append,ha,hres] using hi.once c
  admitted c hp := by simpa [List.countP_append,ha,ht hp] using hi.admitted c (hlive hp)
  answered c hp := by simpa [List.countP_append,hres,ht hp] using hi.answered c (hlive hp)
  named c p hp hc := by
    obtain ⟨f,hf,hrest⟩ := hi.named c p (hlive hp) (by rw [← ht hp]; exact hc)
    exact ⟨f,List.mem_append_left _ hf,hrest⟩

theorem Tabled.afterAdmit {f : InboundFrame} (hi : Tabled h s) (hadm : Admissible s f)
    (ha : Admits hash s f t) : Tabled (h++[admittedEntry f]) t := by
  have hcount (c : CorrelationIdentity) : (h++[admittedEntry f]).countP (admissionOf c)=
      h.countP (admissionOf c)+if f.correlationIdentity=c then 1 else 0 := by
    by_cases heq : f.correlationIdentity=c <;> simp [List.countP_append,admissionOf,heq]
  have hresults (c : CorrelationIdentity) : (h++[admittedEntry f]).countP (resultOf c)=
      h.countP (resultOf c) := by simp [List.countP_append,resultOf]
  have hat := hi.admitted f.correlationIdentity hadm.phase
  rw [if_pos hadm.unused] at hat
  constructor
  · intro c
    rw [hcount,hresults]
    refine ⟨?_,(hi.once c).2⟩
    by_cases heq : f.correlationIdentity=c
    · rw [if_pos heq,← heq,hat]
    · rw [if_neg heq]
      exact (hi.once c).1
  · intro c _
    rw [hcount,ha.pendingCommands]
    by_cases heq : f.correlationIdentity=c
    · rw [if_pos heq,← heq,hat,insert_same]
      rfl
    · rw [if_neg heq,insert_ne _ _ (Ne.symm heq)]
      exact hi.admitted c hadm.phase
  · intro c _
    rw [hresults,ha.pendingCommands]
    by_cases heq : f.correlationIdentity=c
    · rw [← heq,insert_same,hi.answered _ hadm.phase,hadm.unused]
      rfl
    · rw [insert_ne _ _ (Ne.symm heq)]
      exact hi.answered c hadm.phase
  · intro c p _ hc
    rw [ha.pendingCommands] at hc
    by_cases heq : f.correlationIdentity=c
    · rw [heq,insert_same] at hc
      cases hc
      exact ⟨f,by simp,heq,rfl⟩
    · rw [insert_ne _ _ (Ne.symm heq)] at hc
      obtain ⟨g,hg,hrest⟩ := hi.named c p hadm.phase hc
      exact ⟨g,List.mem_append_left _ hg,hrest⟩

theorem Tabled.answer {f : OutboundFrame} {o : Option PeerObservation} {c : CorrelationIdentity}
    {p : PendingCommand} {n : Nat} {accepted : Bool} (hi : Tabled h s) (hlive : s.phase≠.fatal)
    (hf : f.event.isResult=true) (hc : f.correlationIdentity=some c)
    (hp : s.pendingCommands c=some p) (hseen : p.resultSeen=false)
    (ha : Answers s n c p accepted t) : Tabled (h++[observedEntry f o]) t := by
  have hadmits (x : CorrelationIdentity) : (h++[observedEntry f o]).countP (admissionOf x)=
      h.countP (admissionOf x) := by simp [List.countP_append,admissionOf]
  have hcount (x : CorrelationIdentity) : (h++[observedEntry f o]).countP (resultOf x)=
      h.countP (resultOf x)+if c=x then 1 else 0 := by
    by_cases heq : c=x <;> simp [List.countP_append,resultOf,hf,hc,heq]
  have hat := hi.answered c hlive
  simp only [hp,Option.any_some,hseen,Bool.false_eq_true,if_false] at hat
  constructor
  · intro x
    rw [hcount,hadmits]
    refine ⟨(hi.once x).1,?_⟩
    by_cases heq : c=x
    · rw [if_pos heq,← heq,hat]
    · rw [if_neg heq]
      exact (hi.once x).2
  · intro x _
    rw [hadmits,ha.pendingCommands,hi.admitted x hlive]
    by_cases heq : c=x
    · rw [← heq,insert_same,hp]
      rfl
    · rw [insert_ne _ _ (Ne.symm heq)]
  · intro x _
    rw [hcount,ha.pendingCommands]
    by_cases heq : c=x
    · rw [if_pos heq,← heq,hat,insert_same]
      rfl
    · rw [if_neg heq,insert_ne _ _ (Ne.symm heq)]
      exact hi.answered x hlive
  · intro x q _ hq
    rw [ha.pendingCommands] at hq
    by_cases heq : c=x
    · rw [heq,insert_same] at hq
      cases hq
      obtain ⟨g,hg,hrest⟩ := hi.named c p hlive hp
      exact ⟨g,List.mem_append_left _ hg,heq ▸ hrest⟩
    · rw [insert_ne _ _ (Ne.symm heq)] at hq
      obtain ⟨g,hg,hrest⟩ := hi.named x q hlive hq
      exact ⟨g,List.mem_append_left _ hg,hrest⟩

theorem Tabled.step {c : PeerCall} {r : Except PeerError (Option PeerObservation)}
    (hi : Tabled h s) (hu : UnderWay s) (hstep : PeerStep hash s c r t) :
    Tabled (h++[(c,r)]) t := by
  have hlive (ht : t.phase≠.fatal) : s.phase≠.fatal := fun hs => ht ((hu.phase hstep).2 hs)
  cases hstep with
  | admitted hadm ha => exact hi.afterAdmit hadm ha
  | @observed f o t hfit hobs =>
    cases hres : f.event.isResult with
    | false =>
      exact hi.same (fun _ => rfl) (fun c => by simp [resultOf,hres]) hlive
        (fun _ => hobs.pendingCommands hres)
    | true =>
      cases hobs with
      | commandResult result c pending t hf hc hp hseen hname ha =>
        have hphase : s.phase≠.fatal := by simpa [hf,OutboundEvent.isFatal] using hfit.phase
        exact hi.answer hphase hres hc hp hseen ha
      | _ => simp_all [OutboundEvent.isResult]
  | stdoutEof => exact hi.same (fun _ => rfl) (fun _ => rfl) hlive (fun _ => rfl)
  | @refused c e t hf _ =>
    refine hi.same (fun _ => ?_) (fun _ => ?_) hlive (fun ht => absurd hf.phase ht)
    · cases c <;> rfl
    · cases c <;> rfl

theorem PeerRun.tabled (hr : PeerRun hash h s) : Tabled h s := by
  refine (PeerRunWith.invariant (fun h s => UnderWay s ∧ Tabled h s) (fun s hs => ?_)
    (fun _ _ _ _ _ _ hi hstep => ⟨hi.1.step hstep,hi.2.step hi.1 hstep⟩) hr).2
  have hrun : PeerRun hash [] s := .start hs
  refine ⟨PeerRun.underWay hrun,?_⟩
  obtain ⟨session,process,nonce,runtime,rfl⟩ := hs.eq_initial
  constructor <;> simp [BoundaryPeer.initial]

end Commands
section Prompts

/-- A prompt stands for at most one turn, and a task attempt has one prompt. -/
structure Prompted (h : List PeerEntry) (s : BoundaryPeer) : Prop where
  turns : s.settledTurns.length+s.activeTurn.toList.length+s.pendingPrompt.toList.length≤
    h.countP promptAdmission
  uncreated : s.phase≠.fatal → s.create=none →
    h.countP promptAdmission=0 ∧ s.taskAttemptPromptAdmitted=false
  counted (create : CreateSessionPayload) : s.phase≠.fatal → s.create=some create →
    create.sessionKind=.taskAttempt →
    h.countP promptAdmission=if s.taskAttemptPromptAdmitted then 1 else 0
  single (create : CreateSessionPayload) : s.create=some create →
    create.sessionKind=.taskAttempt → h.countP promptAdmission≤1

/-- A call that admits no prompt and neither starts nor forgets a session. -/
theorem Prompted.same {e : PeerEntry} (hi : Prompted h s) (he : promptAdmission e=false)
    (hturns : t.settledTurns.length+t.activeTurn.toList.length+t.pendingPrompt.toList.length≤
      s.settledTurns.length+s.activeTurn.toList.length+s.pendingPrompt.toList.length)
    (hc : t.create=s.create) (hlive : t.phase≠.fatal → s.phase≠.fatal)
    (hflag : t.phase≠.fatal → t.taskAttemptPromptAdmitted=s.taskAttemptPromptAdmitted) :
    Prompted (h++[e]) t := by
  have hcount : (h++[e]).countP promptAdmission=h.countP promptAdmission := by
    simp [List.countP_append,he]
  constructor
  · rw [hcount]
    exact hturns.trans hi.turns
  · intro hp hn
    rw [hcount,hflag hp]
    exact hi.uncreated (hlive hp) (hc ▸ hn)
  · intro create hp hcr hk
    rw [hcount,hflag hp]
    exact hi.counted create (hlive hp) (hc ▸ hcr) hk
  · intro create hcr hk
    rw [hcount]
    exact hi.single create (hc ▸ hcr) hk

theorem Prompted.afterAdmit {f : InboundFrame} (hi : Prompted h s) (hadm : Admissible s f)
    (ha : Admits hash s f t) : Prompted (h++[admittedEntry f]) t := by
  have hother (hn : f.command.name≠.prompt) : promptAdmission (admittedEntry f)=false := by
    simp [promptAdmission,hn]
  cases ha with
  | prompt purpose text create hf hcreate hready hturn hpending hfirst =>
    have hcount : (h++[admittedEntry f]).countP promptAdmission=h.countP promptAdmission+1 := by
      simp [List.countP_append,promptAdmission,hf,InboundCommand.name]
    have hold := hi.counted create hadm.phase hcreate
    constructor
    · have := hi.turns
      rw [hcount]
      simp only [registered,hturn,hpending,Option.toList_none,Option.toList_some,
        List.length_nil,List.length_singleton] at this ⊢
      omega
    · intro _ hn
      change s.create=none at hn
      rw [hcreate] at hn
      cases hn
    · intro create' _ hc hk
      change s.create=some create' at hc
      rw [hcreate] at hc
      cases hc
      have hflag : s.taskAttemptPromptAdmitted=false := by simpa [hk] using hfirst
      simp [hcount,hold hk,hflag,hk]
    · intro create' hc hk
      change s.create=some create' at hc
      rw [hcreate] at hc
      cases hc
      have hflag : s.taskAttemptPromptAdmitted=false := by simpa [hk] using hfirst
      simp [hcount,hold hk,hflag]
  | createSession payload hf => exact hi.same (hother (by simp [hf,InboundCommand.name])) (le_refl _) rfl id (fun _ => rfl)
  | steering hf => exact hi.same (hother (by rcases hf with hf | hf <;> simp [hf])) (le_refl _) rfl id (fun _ => rfl)
  | forumToolResult call result isError hf => exact hi.same (hother (by simp [hf,InboundCommand.name])) (le_refl _) rfl id (fun _ => rfl)
  | abort hf =>
    refine hi.same (hother (by simp [hf])) (le_of_eq ?_) rfl id (fun _ => rfl)
    cases ht : s.activeTurn <;> cases hp : s.pendingPrompt <;> simp [registered,noteAbort,ht,hp]
  | getState hf => exact hi.same (hother (by simp [hf])) (le_refl _) rfl id (fun _ => rfl)
  | dispose hf => exact hi.same (hother (by simp [hf])) (le_refl _) rfl id (fun _ => rfl)

theorem Prompted.observe {f : OutboundFrame} {o : Option PeerObservation} (hi : Prompted h s)
    (hu : UnderWay s) (hfit : Fitting s f) (hlive : t.phase≠.fatal → s.phase≠.fatal)
    (ho : Observes s f o t) : Prompted (h++[observedEntry f o]) t := by
  have he : promptAdmission (observedEntry f o)=false := rfl
  cases ho with
  | commandResult result c pending t hf hc hp hseen hname ha =>
    have hphase : s.phase≠.fatal := by simpa [hf,OutboundEvent.isFatal] using hfit.phase
    have hcount : (h++[observedEntry f none]).countP promptAdmission=h.countP promptAdmission := by
      simp [List.countP_append,promptAdmission]
    cases ha with
    | created payload haccepted hn hcandidate =>
      have hnone := (hu.createCandidate (by simp [hcandidate]) hphase).2
      obtain ⟨hzero,hflag⟩ := hi.uncreated hphase hnone
      constructor
      · rw [hcount]
        exact hi.turns
      · intro _ hn
        cases hn
      · intro create _ _ _
        simp [hcount,hzero,answered,advanced,hflag]
      · intro create _ _
        simp [hcount,hzero]
    | prompted prompt haccepted hn hprompt heq =>
      have hturn := (hu.pendingPrompt (by simp [hprompt])).2
      refine hi.same he (le_of_eq ?_) rfl hlive (fun _ => rfl)
      simp [answered,advanced,hturn,hprompt]
    | disposing haccepted hn hdispose => exact hi.same he (le_refl _) rfl (fun _ => hphase) (fun _ => rfl)
    | promptRefused prompt hrejected hn hprompt heq =>
      refine hi.same he ?_ rfl hlive (fun _ => rfl)
      simp [answered,advanced,hprompt]
    | plain => exact hi.same he (le_refl _) rfl hlive (fun _ => rfl)
  | settled classification outcome turn disposition hf ht hc hd hclosed hlast =>
    refine hi.same he ?_ ?_ hlive ?_
    · split <;> simp [settledPeer,BoundaryPeer.fence,advanced,ht]
    · split <;> rfl
    · split <;> exact fun _ => rfl
  | agentInside event turn phase hf ht hc hp =>
    refine hi.same he (le_of_eq ?_) rfl hlive (fun _ => rfl)
    simp [advanced,ht]
  | usage totals c pending delta tracker hf hc hp hacc hname hfinal htrack hopen =>
    refine hi.same he (le_of_eq ?_) rfl hlive (fun _ => rfl)
    cases ht : s.activeTurn <;> simp [advanced]
  | usageUnavailable | fatal =>
    refine hi.same he ?_ rfl hlive (fun _ => rfl)
    simp only [BoundaryPeer.fence,advanced,Option.toList_none,List.length_nil]
    omega
  | _ => exact hi.same he (le_refl _) rfl hlive (fun _ => rfl)

theorem Prompted.step {c : PeerCall} {r : Except PeerError (Option PeerObservation)}
    (hi : Prompted h s) (hu : UnderWay s) (hstep : PeerStep hash s c r t) :
    Prompted (h++[(c,r)]) t := by
  have hlive (ht : t.phase≠.fatal) : s.phase≠.fatal := fun hs => ht ((hu.phase hstep).2 hs)
  cases hstep with
  | admitted hadm ha => exact hi.afterAdmit hadm ha
  | observed hfit ho => exact hi.observe hu hfit hlive ho
  | stdoutEof => exact hi.same rfl (le_refl _) rfl hlive (fun _ => rfl)
  | @refused c e t hf _ =>
    refine hi.same (by cases c <;> rfl) ?_ hf.create hlive (fun ht => absurd hf.phase ht)
    rw [hf.activeTurn,hf.pendingPrompt,hf.settledTurns]
    simp only [Option.toList_none,List.length_nil]
    omega

theorem PeerRun.prompted (hr : PeerRun hash h s) : Prompted h s := by
  refine (PeerRunWith.invariant (fun h s => UnderWay s ∧ Prompted h s) (fun s hs => ?_)
    (fun _ _ _ _ _ _ hi hstep => ⟨hi.1.step hstep,hi.2.step hi.1 hstep⟩) hr).2
  have hrun : PeerRun hash [] s := .start hs
  refine ⟨PeerRun.underWay hrun,?_⟩
  obtain ⟨session,process,nonce,runtime,rfl⟩ := hs.eq_initial
  constructor <;> simp [BoundaryPeer.initial]

end Prompts
section Sessions

/-! A session with the two Forum tools, for the runs on fixed frames. -/

def zeroDigest : Blake3Digest :=
  ⟨"0000000000000000000000000000000000000000000000000000000000000000",by decide +kernel⟩

def hostRuntime : RuntimeIdentity :=
  ⟨⟨"v22.19.0",by decide +kernel⟩,.v1,.v0841,zeroDigest,zeroDigest,zeroDigest,zeroDigest⟩

def sessionName : SessionIdentity := ⟨"session",by decide +kernel⟩

def hostPeer : BoundaryPeer :=
  .initial sessionName ⟨7,by decide⟩ ⟨"nonce",by decide +kernel⟩ hostRuntime

theorem hostPeer_fresh : Fresh hostPeer :=
  ⟨sessionName,⟨7,by decide⟩,⟨"nonce",by decide +kernel⟩,hostRuntime,rfl⟩

def pinnedCatalog : ModelCatalogPolicyV1 where
  catalogBlake3 := zeroDigest
  effectiveModel :=
    ⟨.openRouter,.apiV1,.openAiCompletions,.deepseekV4Flash0731,.deepseekV4Flash20260731,.textOnly,
      ⟨1048576,by decide⟩,⟨384000,by decide⟩,⟨⟨"0.09",by decide +kernel⟩⟩,
      ⟨⟨"0.18",by decide +kernel⟩⟩,⟨⟨"0.018",by decide +kernel⟩⟩,.absent⟩

def pinnedSettings : ActorModelPolicyV1 where
  retry := ⟨⟨2,by decide⟩,⟨2000,by decide⟩,⟨300000,by decide⟩,⟨1,by decide⟩,⟨30000,by decide⟩⟩
  compaction := ⟨.enabled,⟨16384,by decide⟩,⟨20000,by decide⟩⟩
  steeringMode := .oneAtATime
  followUpMode := .oneAtATime
  transport := .sse
  projectTrust := .never
  installTelemetry := .disabled
  analytics := .disabled
  images := .blocked

def sessionPayload (kind : SessionKind) : CreateSessionPayload where
  sessionKind := kind
  cwd := ⟨"/work",by decide +kernel⟩
  agentDirectory := ⟨"/agent",by decide +kernel⟩
  authPath := ⟨"/agent/auth",by decide +kernel⟩
  modelsPath := ⟨"/agent/models",by decide +kernel⟩
  sessionDirectory := ⟨"/sessions",by decide +kernel⟩
  systemPrompt := "P"
  systemPromptDigest := digest (utf8 "P")
  model := ⟨.openRouter,.deepseekV4Flash0731,.high⟩
  modelCatalog := pinnedCatalog
  toolProfile := .forumIsolatedV1
  settings := pinnedSettings
  forumContract := .sequesteredV1

def transcriptPath : AbsolutePath := ⟨"/sessions/s.jsonl",by decide +kernel⟩

def sessionConfiguration (kind : SessionKind) : EffectiveSessionConfiguration where
  sessionKind := kind
  cwd := ⟨"/work",by decide +kernel⟩
  sessionDirectory := ⟨"/sessions",by decide +kernel⟩
  sessionFile := transcriptPath
  model := ⟨.openRouter,.deepseekV4Flash0731,.high⟩
  modelCatalog := pinnedCatalog
  toolProfile := .forumIsolatedV1
  tools := [.societyForumRead,.societyForumPost]
  settings := pinnedSettings
  forumContract := .sequesteredV1

theorem letter_identifier (n : Nat) : isIdentifier (String.ofList [Char.ofNat (97+n%10)])=true := by
  have h : ∀ m : Fin 10,isIdentifier (String.ofList [Char.ofNat (97+m.val)])=true := by
    decide +kernel
  exact h ⟨n%10,Nat.mod_lt _ (by decide)⟩

def correlation (n : Nat) : CorrelationIdentity :=
  ⟨String.ofList [Char.ofNat (97+n%10)],letter_identifier n⟩

def sequenceNumber (n : Nat) : BoundarySequence := ⟨n%100+1,by unfold maxSafeInteger; omega⟩

def inboundFrame (n : Nat) (c : InboundCommand) : PeerCall :=
  .admitFrame ⟨sequenceNumber n,sessionName,correlation n,c⟩

def outboundFrame (n : Nat) (c : Option Nat) (e : OutboundEvent) : PeerCall :=
  .observe ⟨sequenceNumber n,sessionName,c.map correlation,e⟩

/-- A snapshot of free usage. -/
def snapshot (tokens : Nat) : OutboundEvent :=
  let n : NonNegativeInteger := ⟨tokens%10,by unfold maxSafeInteger; omega⟩
  .usageSnapshot (.known
    ⟨n,⟨0,by decide⟩,⟨0,by decide⟩,⟨0,by decide⟩,n,⟨"0000000000000000",by decide +kernel⟩⟩)

/-- A session up to its readiness. -/
def sessionOpened (kind : SessionKind) : List PeerCall :=
  [outboundFrame 0 none (.adapterReady ⟨7,by decide⟩ ⟨"nonce",by decide +kernel⟩ hostRuntime),
   inboundFrame 0 (.createSession (sessionPayload kind)),
   outboundFrame 1 (some 0) (.commandResult (.accepted .createSession)),
   outboundFrame 2 (some 0) (.sessionReady (sessionConfiguration kind))]

def stopMessage : Json := .object [("role",.string "assistant"),("stopReason",.string "stop")]

/-- A task attempt up to the snapshot its turn settles on. -/
def turnEvidenced : List PeerCall :=
  sessionOpened .taskAttempt++
  [inboundFrame 1 (.prompt .taskAssignment "T"),
   outboundFrame 3 (some 1) (.commandResult (.accepted .prompt)),
   outboundFrame 4 (some 1) (.agentEvent .agentStart),
   outboundFrame 5 (some 1) (.agentEvent (.agentEnd [stopMessage] false)),
   outboundFrame 6 (some 1) (.agentEvent .agentSettled),
   outboundFrame 7 (some 1) (snapshot 1)]

/-- The record of a list of calls on the peer, and the peer after them. -/
def session (calls : List PeerCall) : List PeerEntry × BoundaryPeer :=
  trace (PeerCall.run digest) [] hostPeer calls

theorem session_reached (calls : List PeerCall) :
    PeerRun digest (session calls).1 (session calls).2 :=
  Reached.trace (fun _ _ _ _ => trivial) calls (.start hostPeer_fresh) (passes_true calls)

end Sessions
section Discipline

/-- What holds of a peer after any record of calls. -/
structure Disciplined (hash : Bytes → Blake3Digest) (h : List PeerEntry) (s : BoundaryPeer) :
    Prop where
  /-- At most one of the four operations is under way. -/
  exclusive : s.pendingPrompt.toList.length+s.activeTurn.toList.length+
    s.pendingDispose.toList.length+s.activeDispose.toList.length≤1
  turn : s.activeTurn≠none ∨ s.pendingPrompt≠none →
    s.phase=.ready ∧ s.create≠none ∧ s.configuration≠none
  disposal : s.activeDispose≠none → s.phase=.closing
  fatal : s.phase=.fatal → s.pendingPrompt=none ∧ s.activeTurn=none ∧ s.pendingDispose=none ∧
    s.activeDispose=none
  once (c : CorrelationIdentity) : h.countP (admissionOf c)≤1 ∧ h.countP (resultOf c)≤1
  /-- A result answers a command that was admitted under its correlation and has its name. -/
  answers (h₁ h₂ : List PeerEntry) (f : OutboundFrame) (o : Option PeerObservation)
    (r : CommandResult) : h=h₁++observedEntry f o::h₂ → f.event=.commandResult r →
    ∃ g,admittedEntry g∈h₁ ∧ f.correlationIdentity=some g.correlationIdentity ∧
      g.command.name=r.command
  taskAttempt (create : CreateSessionPayload) : s.create=some create →
    create.sessionKind=.taskAttempt →
    h.countP promptAdmission≤1 ∧ s.settledTurns.length≤1
  /-- The next call, whatever it is, keeps the phase or moves it forward. -/
  forward (c : PeerCall) : ((c.run hash s).2.phase=s.phase ∨ (c.run hash s).2.phase=s.phase.next ∨
    (c.run hash s).2.phase=.fatal) ∧ (s.phase=.fatal → (c.run hash s).2.phase=.fatal)

theorem UnderWay.exclusive (hu : UnderWay s) : s.pendingPrompt.toList.length+
    s.activeTurn.toList.length+s.pendingDispose.toList.length+s.activeDispose.toList.length≤1 := by
  obtain ⟨h1,h2,h3,h4,-,-,-⟩ := hu
  cases hp : s.pendingPrompt <;> cases ht : s.activeTurn <;> cases hd : s.pendingDispose <;>
    cases ha : s.activeDispose <;> simp_all

theorem peer_disciplined (hr : PeerRun hash h s) : Disciplined hash h s := by
  have hu := PeerRun.underWay hr
  have ht := PeerRun.tabled hr
  have hp := PeerRun.prompted hr
  refine ⟨hu.exclusive,?_,hu.activeDispose,?_,ht.once,?_,?_,fun c => hu.phase (run_step c s)⟩
  · intro hactive
    have hready : s.phase=.ready := hactive.elim hu.activeTurn (fun hn => (hu.pendingPrompt hn).1)
    exact ⟨hready,hu.ready hready⟩
  · intro hfatal
    refine ⟨?_,?_,?_,?_⟩ <;> by_contra hn
    · rw [(hu.pendingPrompt hn).1] at hfatal
      cases hfatal
    · rw [hu.activeTurn hn] at hfatal
      cases hfatal
    · rw [(hu.pendingDispose hn).1] at hfatal
      cases hfatal
    · rw [hu.activeDispose hn] at hfatal
      cases hfatal
  · intro h₁ h₂ f o r heq hf
    subst heq
    obtain ⟨s₁,hr₁,-,ho⟩ := Reached.split hr
    have hstep := @run_step hash (.observe f) s₁
    rw [← ho] at hstep
    generalize ((PeerCall.observe f).run hash s₁).2=t₁ at hstep
    cases hstep with
    | observed hfit hobs =>
      cases hobs with
      | commandResult result c pending t hf' hc hpending hseen hname ha =>
        have hlive : s₁.phase≠.fatal := by simpa [hf,OutboundEvent.isFatal] using hfit.phase
        rw [hf] at hf'
        cases hf'
        obtain ⟨g,hg,rfl,hgname⟩ := (PeerRun.tabled hr₁).named c pending hlive hpending
        exact ⟨g,hg,hc,hgname.trans hname⟩
      | _ => simp_all
  · intro create hc hk
    refine ⟨hp.single create hc hk,?_⟩
    have := hp.turns
    have := hp.single create hc hk
    omega

theorem peer_disciplined_turnEvidenced :
    Disciplined digest (session turnEvidenced).1 (session turnEvidenced).2 :=
  peer_disciplined (session_reached turnEvidenced)

end Discipline
end Society.Boundary
