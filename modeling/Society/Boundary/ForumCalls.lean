import Society.Boundary.TurnLaws

namespace Society.Boundary
open Society.Coding Society.Stateful

variable {hash : Bytes → Blake3Digest} {h : List PeerEntry} {s t : BoundaryPeer}

section Condition

/-- A Forum call that the peer accepted. -/
def callOf (x : ToolCallIdentity) : PeerEntry → Bool
  | (.observe _,.ok (some (.forumToolCall _ y _ _))) => y=x
  | _ => false

/-- An answer that the peer admitted. -/
def answerOf (x : ToolCallIdentity) : PeerEntry → Bool
  | (.admitFrame f,.ok _) =>
    match f.command with
    | .forumToolResult y _ _ => y=x
    | _ => false
  | _ => false

/-- The frame settles the running turn of an office session, which then stays open. -/
def settlesOfficeTurn (s : BoundaryPeer) (f : OutboundFrame) : Bool :=
  match f.event,s.activeTurn with
  | .settled classification outcome,some turn =>
    f.sessionIdentity=s.sessionIdentity && f.sequence.val=s.expectedOutboundSequence &&
      f.correlationIdentity=some turn.correlation &&
      s.create.any (fun c => c.sessionKind=.rootAuthorityOffice) &&
      (settledDisposition turn.abortIntentAdmitted classification outcome).any
        (· ≠ .protocolFailed) &&
      observedEvidenceIsClosed f.sequence.val outcome turn.evidencePhase &&
      turn.latestPromptUsageSequence.any (fun usage => usage+1=f.sequence.val)
  | _,_ => false

/-- The frame is a call of the running turn under an identity that no open call has. -/
def opensForumCall (s : BoundaryPeer) (f : OutboundFrame) (x : ToolCallIdentity) : Bool :=
  match f.event,s.activeTurn with
  | .forumToolCall y _ _,some turn =>
    y=x && f.sessionIdentity=s.sessionIdentity && f.sequence.val=s.expectedOutboundSequence &&
      f.correlationIdentity=some turn.correlation && s.configuration.any forumProfile &&
      !s.pendingForumToolCalls y
  | _,_ => false

/-- No office turn settles over an open call, and no call takes the identity of an answered one. -/
def orderly (h : List PeerEntry) (s : BoundaryPeer) : PeerCall → Prop
  | .observe f => (settlesOfficeTurn s f=true → ∀ x,s.pendingForumToolCalls x=false) ∧
      ∀ x,opensForumCall s f x=true → h.countP (answerOf x)=0
  | _ => True

end Condition
section Book

/-- The set of open calls is the calls of the record less its answers. -/
structure Book (h : List PeerEntry) (s : BoundaryPeer) : Prop where
  once (x : ToolCallIdentity) : h.countP (callOf x)≤1 ∧ h.countP (answerOf x)≤1
  balance (x : ToolCallIdentity) : s.phase≠.fatal → h.countP (callOf x)=
    h.countP (answerOf x)+if s.pendingForumToolCalls x then 1 else 0

theorem Book.same {e : PeerEntry} (hi : Book h s) (hcall : ∀ x,callOf x e=false)
    (hanswer : ∀ x,answerOf x e=false) (hlive : t.phase≠.fatal → s.phase≠.fatal)
    (ht : t.phase≠.fatal → t.pendingForumToolCalls=s.pendingForumToolCalls) :
    Book (h++[e]) t where
  once x := by simpa [List.countP_append,hcall,hanswer] using hi.once x
  balance x hp := by
    simpa [List.countP_append,hcall,hanswer,ht hp] using hi.balance x (hlive hp)

theorem Book.answer {f : InboundFrame} {x : ToolCallIdentity} {result : Json} {isError : Bool}
    (hi : Book h s) (hlive : s.phase≠.fatal) (hf : f.command=.forumToolResult x result isError)
    (hx : s.pendingForumToolCalls x=true)
    (ht : t.pendingForumToolCalls=insert s.pendingForumToolCalls x false) :
    Book (h++[admittedEntry f]) t := by
  have hcalls (y : ToolCallIdentity) : (h++[admittedEntry f]).countP (callOf y)=
      h.countP (callOf y) := by simp [List.countP_append,callOf]
  have hanswers (y : ToolCallIdentity) : (h++[admittedEntry f]).countP (answerOf y)=
      h.countP (answerOf y)+if x=y then 1 else 0 := by
    by_cases heq : x=y <;> simp [List.countP_append,answerOf,hf,heq]
  have hbalance := hi.balance x hlive
  rw [hx,if_pos rfl] at hbalance
  have hone := hi.once x
  constructor
  · intro y
    rw [hcalls,hanswers]
    have hy := hi.once y
    refine ⟨hy.1,?_⟩
    by_cases heq : x=y
    · subst heq
      rw [if_pos rfl]
      omega
    · rw [if_neg heq]
      exact hy.2
  · intro y _
    rw [hcalls,hanswers,ht]
    by_cases heq : x=y
    · subst heq
      rw [insert_same,if_pos rfl]
      simpa using hbalance
    · rw [insert_ne _ _ (Ne.symm heq),if_neg heq]
      exact hi.balance y hlive

theorem Book.call {f : OutboundFrame} {c : CorrelationIdentity} {x : ToolCallIdentity}
    {tool : ForumToolName} {args : Json} (hi : Book h s) (hlive : s.phase≠.fatal)
    (hx : s.pendingForumToolCalls x=false) (hfresh : h.countP (answerOf x)=0)
    (ht : t.pendingForumToolCalls=insert s.pendingForumToolCalls x true) :
    Book (h++[observedEntry f (some (.forumToolCall c x tool args))]) t := by
  have hcalls (y : ToolCallIdentity) :
      (h++[observedEntry f (some (.forumToolCall c x tool args))]).countP (callOf y)=
      h.countP (callOf y)+if x=y then 1 else 0 := by
    by_cases heq : x=y <;> simp [List.countP_append,callOf,heq]
  have hanswers (y : ToolCallIdentity) :
      (h++[observedEntry f (some (.forumToolCall c x tool args))]).countP (answerOf y)=
      h.countP (answerOf y) := by simp [List.countP_append,answerOf]
  have hbalance := hi.balance x hlive
  rw [hx,hfresh] at hbalance
  constructor
  · intro y
    rw [hcalls,hanswers]
    have hy := hi.once y
    refine ⟨?_,hy.2⟩
    by_cases heq : x=y
    · subst heq
      rw [if_pos rfl,hbalance]
      simp
    · rw [if_neg heq]
      exact hy.1
  · intro y _
    rw [hcalls,hanswers,ht]
    by_cases heq : x=y
    · subst heq
      rw [insert_same,if_pos rfl,hbalance,hfresh]
      simp
    · rw [insert_ne _ _ (Ne.symm heq),if_neg heq]
      exact hi.balance y hlive

theorem Book.step {c : PeerCall} {r : Except PeerError (Option PeerObservation)}
    (hi : Book h s) (hu : UnderWay s) (hc : orderly h s c) (hstep : PeerStep hash s c r t) :
    Book (h++[(c,r)]) t := by
  have hlive (ht : t.phase≠.fatal) : s.phase≠.fatal := fun hs => ht ((hu.phase hstep).2 hs)
  cases hstep with
  | @admitted f t hadm ha =>
    have hother (hn : f.command.name≠.forumToolResult) (x : ToolCallIdentity) :
        answerOf x (admittedEntry f)=false := by
      unfold answerOf
      cases hf : f.command <;> simp_all [InboundCommand.name]
    cases ha with
    | forumToolResult x result isError hf hready hturn hx => exact hi.answer hadm.phase hf hx rfl
    | createSession payload hf | prompt purpose text create hf =>
      exact hi.same (fun _ => rfl) (hother (by simp [hf,InboundCommand.name])) hlive (fun _ => rfl)
    | steering hf =>
      exact hi.same (fun _ => rfl) (hother (by rcases hf with hf | hf <;> simp [hf])) hlive
        (fun _ => rfl)
    | abort hf | getState hf | dispose hf =>
      exact hi.same (fun _ => rfl) (hother (by simp [hf])) hlive (fun _ => rfl)
  | @observed f o t hfit hobs =>
    cases hobs with
    | forumToolCall x tool args turn hf ht hcorr hprofile hx =>
      have hphase : s.phase≠.fatal := by simpa [hf,OutboundEvent.isFatal] using hfit.phase
      refine hi.call hphase hx (hc.2 x ?_) rfl
      simp [opensForumCall,hf,ht,hfit.session,hfit.sequence,hcorr,hprofile,hx]
    | commandResult result c pending t hf hcorr hp hseen hname ha =>
      refine hi.same (fun _ => rfl) (fun _ => rfl) hlive (fun _ => ?_)
      cases ha <;> rfl
    | settled =>
      refine hi.same (fun _ => rfl) (fun _ => rfl) hlive (fun _ => ?_)
      split <;> rfl
    | _ => exact hi.same (fun _ => rfl) (fun _ => rfl) hlive (fun _ => rfl)
  | stdoutEof => exact hi.same (fun _ => rfl) (fun _ => rfl) hlive (fun _ => rfl)
  | @refused c e t hf _ =>
    refine hi.same (fun _ => ?_) (fun _ => ?_) hlive (fun ht => absurd hf.phase ht)
    · cases c <;> rfl
    · cases c <;> rfl

end Book
section Turns

/-- Calls stay open without a turn only in a task attempt whose one prompt is spent. -/
structure LeftOver (s : BoundaryPeer) : Prop where
  prompting : s.pendingPrompt≠none → ∀ x,s.pendingForumToolCalls x=false
  idle (x : ToolCallIdentity) : s.phase≠.fatal → s.activeTurn=none →
    s.pendingForumToolCalls x=true → ∃ create,s.create=some create ∧
      create.sessionKind=.taskAttempt ∧ s.taskAttemptPromptAdmitted=true

theorem LeftOver.same (hi : LeftOver s) (hlive : t.phase≠.fatal → s.phase≠.fatal)
    (hcalls : t.pendingForumToolCalls=s.pendingForumToolCalls)
    (hprompt : t.pendingPrompt≠none → s.pendingPrompt≠none)
    (hturn : t.activeTurn=none → s.activeTurn=none)
    (hcreate : t.create=s.create) (hflag : t.taskAttemptPromptAdmitted=s.taskAttemptPromptAdmitted) :
    LeftOver t := by
  constructor
  · intro hp x
    rw [hcalls]
    exact hi.prompting (hprompt hp) x
  · intro x hp ht hx
    rw [hcreate,hflag]
    exact hi.idle x (hlive hp) (hturn ht) (hcalls ▸ hx)

/-- No open call, nothing left over. -/
theorem LeftOver.clear (hx : ∀ x,t.pendingForumToolCalls x=false) : LeftOver t := by
  refine ⟨fun _ => hx,fun x _ _ h => ?_⟩
  rw [hx x] at h
  cases h

theorem LeftOver.turn (ht : t.activeTurn≠none) (hp : t.pendingPrompt=none) : LeftOver t :=
  ⟨fun hn => absurd hp hn,fun _ _ hn => absurd hn ht⟩

theorem LeftOver.fenced (hf : t.phase=.fatal) (hp : t.pendingPrompt=none) : LeftOver t :=
  ⟨fun hn => absurd hp hn,fun _ hn => absurd hf hn⟩

/-- Outside a turn nothing is open once a prompt may come: the admission of one looks at the kind
of the session and at its first prompt. -/
theorem LeftOver.prompt {create : CreateSessionPayload} (hi : LeftOver s)
    (hlive : s.phase≠.fatal) (hcreate : s.create=some create) (hturn : s.activeTurn=none)
    (hfirst : ¬(create.sessionKind=.taskAttempt ∧ s.taskAttemptPromptAdmitted=true)) :
    ∀ x,s.pendingForumToolCalls x=false := by
  intro x
  by_contra hx
  obtain ⟨create',hc,hk⟩ := hi.idle x hlive hturn (by simpa using hx)
  rw [hcreate] at hc
  cases hc
  exact hfirst hk

theorem LeftOver.step {c : PeerCall} {r : Except PeerError (Option PeerObservation)}
    (hi : LeftOver s) (hu : UnderWay s) (hp : Prompted h s) (hc : orderly h s c)
    (hstep : PeerStep hash s c r t) : LeftOver t := by
  have hlive (ht : t.phase≠.fatal) : s.phase≠.fatal := fun hs => ht ((hu.phase hstep).2 hs)
  have hprompting (ht : s.activeTurn≠none) : s.pendingPrompt=none := by
    by_contra hn
    exact ht (hu.pendingPrompt hn).2
  cases hstep with
  | admitted hadm ha =>
    cases ha with
    | prompt purpose text create hf hcreate hready hturn hpending hfirst =>
      exact .clear (hi.prompt hadm.phase hcreate hturn hfirst)
    | forumToolResult x result isError hf hready hturn hx => exact .turn hturn (hprompting hturn)
    | abort =>
      refine hi.same hlive rfl (fun hn => ?_) (fun hn => ?_) rfl rfl
      · simp only [registered,noteAbort] at hn
        split at hn
        · exact hn
        · simpa using hn
      · simpa [registered,noteAbort] using hn
    | _ => exact hi.same hlive rfl id id rfl rfl
  | @observed f o t hfit hobs =>
    cases hobs with
    | forumToolCall x tool args turn hf ht =>
      have hturn : s.activeTurn≠none := by simp [ht]
      exact .turn hturn (hprompting hturn)
    | agentInside event turn p hf ht => exact .turn (by simp) (hprompting (by simp [ht]))
    | usage => exact hi.same hlive rfl id (by simp) rfl rfl
    | usageUnavailable | fatal => exact .fenced rfl rfl
    | settled classification outcome turn disposition hf ht hcorr hd hclosed hlast =>
      have hturn : s.activeTurn≠none := by simp [ht]
      split
      · exact .fenced rfl rfl
      · next hfailed =>
        refine ⟨fun hn => absurd (hprompting hturn) hn,fun x hp' _ hx => ?_⟩
        have hphase : s.phase≠.fatal := hlive (by rw [if_neg hfailed]; exact hp')
        obtain ⟨create,hcreate⟩ := Option.ne_none_iff_exists'.mp (hu.ready (hu.activeTurn hturn)).1
        refine ⟨create,hcreate,?_⟩
        cases hk : create.sessionKind with
        | taskAttempt =>
          refine ⟨rfl,?_⟩
          have hturns := hp.turns
          have hcount := hp.counted create hphase hcreate hk
          rw [ht,Option.toList_some,List.length_singleton] at hturns
          change s.taskAttemptPromptAdmitted=true
          by_contra hflag
          rw [if_neg hflag] at hcount
          omega
        | rootAuthorityOffice =>
          rw [hfit.sequence] at hclosed hlast
          have hnone := hc.1 (by simp [settlesOfficeTurn,hf,ht,hfit.session,hfit.sequence,hcorr,
            hcreate,hk,hd,hfailed,hclosed,hlast]) x
          change s.pendingForumToolCalls x=true at hx
          rw [hnone] at hx
          cases hx
    | commandResult result c pending t hf hcorr hp' hseen hname ha =>
      have hphase : s.phase≠.fatal := by simpa [hf,OutboundEvent.isFatal] using hfit.phase
      cases ha with
      | created payload haccepted hn hcandidate =>
        obtain ⟨-,hnone⟩ := hu.createCandidate (by simp [hcandidate]) hphase
        refine ⟨hi.prompting,fun x _ ht hx => ?_⟩
        obtain ⟨create,hcreate,-⟩ := hi.idle x hphase ht hx
        rw [hnone] at hcreate
        cases hcreate
      | prompted => exact .turn (by simp) rfl
      | promptRefused prompt hrejected hn hprompt heq => exact .clear (hi.prompting (by simp [hprompt]))
      | disposing => exact hi.same (fun _ => hphase) rfl id id rfl rfl
      | plain => exact hi.same hlive rfl id id rfl rfl
    | _ => exact hi.same hlive rfl id id rfl rfl
  | stdoutEof => exact hi
  | refused hf => exact .fenced hf.phase hf.pendingPrompt

/-- Each open call was made in the running turn: after the acceptance of its prompt, with no
settlement since. -/
def TurnCalls (h : List PeerEntry) (s : BoundaryPeer) : Prop :=
  ∀ turn,s.activeTurn=some turn → ∃ before f₀ entries,
    h=before++observedEntry f₀ none::entries ∧ promptAccepted turn.correlation f₀ ∧
    (∀ e∈entries,isSettledEntry e.2=false) ∧
    ∀ x,s.pendingForumToolCalls x=true → ∃ f tool args,
      observedEntry f (some (.forumToolCall turn.correlation x tool args))∈entries

theorem TurnCalls.idle (ht : t.activeTurn=none) : TurnCalls h t := by
  intro turn hturn
  rw [ht] at hturn
  cases hturn

/-- A call that keeps the turn and opens no Forum call. -/
theorem TurnCalls.same {e : PeerEntry} (hi : TurnCalls h s) (he : isSettledEntry e.2=false)
    (ht : t.activeTurn.map (·.correlation)=s.activeTurn.map (·.correlation))
    (hx : ∀ x,t.pendingForumToolCalls x=true → s.pendingForumToolCalls x=true) :
    TurnCalls (h++[e]) t := by
  intro turn hturn
  rw [hturn,Option.map_some] at ht
  obtain ⟨old,hold,hcorr⟩ := Option.map_eq_some_iff.mp ht.symm
  obtain ⟨before,f₀,entries,rfl,hf₀,hsettled,hcalls⟩ := hi old hold
  refine ⟨before,f₀,entries++[e],by simp,hcorr ▸ hf₀,unsettled_append hsettled he,fun x hpx => ?_⟩
  obtain ⟨f,tool,args,hmem⟩ := hcalls x (hx x hpx)
  exact ⟨f,tool,args,List.mem_append_left _ (hcorr ▸ hmem)⟩

theorem insert_false {m : ToolCallIdentity → Bool} {x y : ToolCallIdentity}
    (hy : insert m x false y=true) : m y=true := by
  by_cases heq : y=x
  · subst heq
    rw [insert_same] at hy
    cases hy
  · rwa [insert_ne _ _ heq] at hy

theorem TurnCalls.step {c : PeerCall} {r : Except PeerError (Option PeerObservation)}
    (hi : TurnCalls h s) (hl : LeftOver s) (hstep : PeerStep hash s c r t) :
    TurnCalls (h++[(c,r)]) t := by
  cases hstep with
  | @admitted f t hadm ha =>
    cases ha with
    | forumToolResult x result isError hf hready hturn hx =>
      exact hi.same rfl rfl (fun _ => insert_false)
    | abort =>
      refine hi.same rfl ?_ (fun _ => id)
      simp [registered,noteAbort,Function.comp_def]
    | _ => exact hi.same rfl rfl (fun _ => id)
  | @observed f o t hfit hobs =>
    cases hobs with
    | forumToolCall x tool args turn hf ht hcorr hprofile hx =>
      intro turn' hturn'
      rw [show s.activeTurn=some turn' from hturn'] at ht
      cases ht
      obtain ⟨before,f₀,entries,rfl,hf₀,hsettled,hcalls⟩ := hi turn hturn'
      refine ⟨before,f₀,entries++[observedEntry f (some (.forumToolCall turn.correlation x tool args))],
        by simp,hf₀,unsettled_append hsettled rfl,fun y hy => ?_⟩
      by_cases heq : y=x
      · subst heq
        exact ⟨f,tool,args,by simp⟩
      · obtain ⟨g,tool',args',hmem⟩ := hcalls y (insert_ne s.pendingForumToolCalls true heq ▸ hy)
        exact ⟨g,tool',args',List.mem_append_left _ hmem⟩
    | agentInside event turn p hf ht => exact hi.same rfl (by rw [ht]; rfl) (fun _ => id)
    | usage =>
      refine hi.same rfl ?_ (fun _ => id)
      cases s.activeTurn with
      | none => rfl
      | some turn => simp [ActiveTurn.noteUsage,apply_ite ActiveTurn.correlation]
    | commandResult result c pending t hf hcorr hp hseen hname ha =>
      cases ha with
      | prompted prompt haccepted hn hprompt heq =>
        intro turn hturn
        cases hturn
        have hresult : result=.accepted .prompt := by
          cases result with
          | accepted command =>
            rw [hn] at hname
            rw [hname]
            rfl
          | rejected => cases haccepted
        refine ⟨h,f,[],rfl,⟨hcorr,by rw [hf,hresult]⟩,by simp,fun x hx => ?_⟩
        have hnone := hl.prompting (by simp [hprompt]) x
        change s.pendingForumToolCalls x=true at hx
        rw [hnone] at hx
        cases hx
      | _ => exact hi.same rfl rfl (fun _ => id)
    | settled =>
      refine .idle ?_
      split <;> rfl
    | usageUnavailable | fatal => exact .idle rfl
    | _ => exact hi.same rfl rfl (fun _ => id)
  | stdoutEof => exact hi.same rfl rfl (fun _ => id)
  | refused hf => exact .idle hf.activeTurn

end Turns
section Answers

theorem forumInvariants (hr : PeerRunWith hash orderly h s) :
    UnderWay s ∧ Prompted h s ∧ Book h s ∧ LeftOver s ∧ TurnCalls h s := by
  refine PeerRunWith.invariant
    (fun h s => UnderWay s ∧ Prompted h s ∧ Book h s ∧ LeftOver s ∧ TurnCalls h s)
    (fun s hs => ?_) (fun h s c r t hc hi hstep => ?_) hr
  · have hrun : PeerRun hash [] s := .start hs
    refine ⟨PeerRun.underWay hrun,PeerRun.prompted hrun,?_⟩
    obtain ⟨session,process,nonce,runtime,rfl⟩ := hs.eq_initial
    exact ⟨⟨by simp,by simp [BoundaryPeer.initial]⟩,.clear (fun _ => rfl),.idle rfl⟩
  · obtain ⟨hu,hp,hb,hl,ht⟩ := hi
    exact ⟨hu.step hstep,hp.step hu hstep,hb.step hu hc hstep,hl.step hu hp hc hstep,
      ht.step hl hstep⟩

/-- In an orderly run no two calls share an identity and no call has two answers; an admitted
answer is the first one to a call made since the running turn's prompt was accepted, with no
settlement since. -/
theorem forum_answers_matched (hr : PeerRunWith hash orderly h s) :
    (∀ x,h.countP (callOf x)≤1 ∧ h.countP (answerOf x)≤1) ∧
    ∀ h₁ h₂ g x result isError,h=h₁++admittedEntry g::h₂ →
      g.command=.forumToolResult x result isError →
      h₁.countP (callOf x)=1 ∧ h₁.countP (answerOf x)=0 ∧
      ∃ c before f₀ entries f tool args,h₁=before++observedEntry f₀ none::entries ∧
        promptAccepted c f₀ ∧ (∀ e∈entries,isSettledEntry e.2=false) ∧
        observedEntry f (some (.forumToolCall c x tool args))∈entries := by
  refine ⟨(forumInvariants hr).2.2.1.once,fun h₁ h₂ g x result isError heq hg => ?_⟩
  subst heq
  obtain ⟨s₁,hr₁,-,ho⟩ := Reached.split hr
  obtain ⟨-,-,hb,-,ht⟩ := forumInvariants hr₁
  have hstep := @run_step hash (.admitFrame g) s₁
  rw [← ho] at hstep
  generalize ((PeerCall.admitFrame g).run hash s₁).2=t₁ at hstep
  cases hstep with
  | admitted hadm ha =>
    cases ha with
    | forumToolResult y result' isError' hf hready hturn hy =>
      rw [hg] at hf
      cases hf
      have hbalance := hb.balance x hadm.phase
      rw [hy,if_pos rfl] at hbalance
      have hone := (hb.once x).1
      obtain ⟨turn,hturn⟩ := Option.ne_none_iff_exists'.mp hturn
      obtain ⟨before,f₀,entries,hh,hf₀,hsettled,hcalls⟩ := ht turn hturn
      obtain ⟨f,tool,args,hmem⟩ := hcalls x hy
      exact ⟨by omega,by omega,turn.correlation,before,f₀,entries,f,tool,args,hh,hf₀,hsettled,hmem⟩
    | steering hf => rcases hf with hf | hf <;> simp [hg,InboundCommand.name] at hf
    | _ => simp_all [InboundCommand.name]

def forumCall (n : Nat) : OutboundEvent :=
  .forumToolCall ⟨String.ofList [Char.ofNat (97+n%10)],letter_identifier n⟩
    .societyForumRead .null

def forumAnswer (n : Nat) : InboundCommand :=
  .forumToolResult ⟨String.ofList [Char.ofNat (97+n%10)],letter_identifier n⟩ .null false

/-- An office session whose first turn makes a Forum call. -/
def forumCalled : List PeerCall :=
  sessionOpened .rootAuthorityOffice++
  [inboundFrame 1 (.prompt .officeTurn "T"),
   outboundFrame 3 (some 1) (.commandResult (.accepted .prompt)),
   outboundFrame 4 (some 1) (.agentEvent .agentStart),
   outboundFrame 5 (some 1) (forumCall 0)]

/-- The call is answered in its turn. -/
def answeredRun : List PeerCall := forumCalled++[inboundFrame 2 (forumAnswer 0)]

/-- The conditions of an orderly call as a test: a Forum call of an unused identity, and any frame
that settles nothing. -/
def orderlyTest (h : List PeerEntry) (s : BoundaryPeer) : PeerCall → Bool
  | .observe f => !settlesOfficeTurn s f &&
      match f.event with
      | .forumToolCall x _ _ => h.countP (answerOf x)==0
      | _ => true
  | _ => true

theorem orderly_of_test (h : List PeerEntry) (s : BoundaryPeer) (c : PeerCall)
    (ht : orderlyTest h s c=true) : orderly h s c := by
  cases c with
  | observe f =>
    obtain ⟨hsettles,hcall⟩ := (Bool.and_eq_true ..).mp ht
    refine ⟨fun hn => by simp [hn] at hsettles,fun x hx => ?_⟩
    unfold opensForumCall at hx
    split at hx
    · next y tool args turn hf hturn =>
      simp only [Bool.and_eq_true,decide_eq_true_eq] at hx
      obtain ⟨⟨⟨⟨⟨rfl,-⟩,-⟩,-⟩,-⟩,-⟩ := hx
      simpa [hf] using hcall
    · cases hx
  | _ => trivial

theorem forum_answers_matched_answeredRun :
    ((session answeredRun).1.getLast?.any (fun e => answerOf ⟨"a",by decide +kernel⟩ e))=true ∧
    (∀ x,(session answeredRun).1.countP (callOf x)≤1 ∧
      (session answeredRun).1.countP (answerOf x)≤1) ∧
    ∀ h₁ h₂ g x result isError,(session answeredRun).1=h₁++admittedEntry g::h₂ →
      g.command=.forumToolResult x result isError →
      h₁.countP (callOf x)=1 ∧ h₁.countP (answerOf x)=0 ∧
      ∃ c before f₀ entries f tool args,h₁=before++observedEntry f₀ none::entries ∧
        promptAccepted c f₀ ∧ (∀ e∈entries,isSettledEntry e.2=false) ∧
        observedEntry f (some (.forumToolCall c x tool args))∈entries := by
  have hr : PeerRunWith digest orderly (session answeredRun).1 (session answeredRun).2 :=
    Reached.trace orderly_of_test answeredRun (.start hostPeer_fresh) (by decide +kernel)
  exact ⟨by decide +kernel,forum_answers_matched hr⟩

/-- The turn settles over its open call; the answer comes in the next turn, which then makes a
call under the same identity. -/
def staleAnswerRun : List PeerCall :=
  forumCalled++
  [outboundFrame 6 (some 1) (.agentEvent (.agentEnd [stopMessage] false)),
   outboundFrame 7 (some 1) (.agentEvent .agentSettled),
   outboundFrame 8 (some 1) (snapshot 1),
   outboundFrame 9 (some 1) (.settled .completed (.observed .stop)),
   inboundFrame 2 (.prompt .officeTurn "U"),
   outboundFrame 10 (some 2) (.commandResult (.accepted .prompt)),
   inboundFrame 3 (forumAnswer 0),
   outboundFrame 11 (some 2) (forumCall 0)]

theorem staleAnswerRun_mismatched :
    PeerRun digest (session staleAnswerRun).1 (session staleAnswerRun).2 ∧
    (((session staleAnswerRun).1.drop 11).take 4).map
      (fun e => (isSettledEntry e.2,answerOf ⟨"a",by decide +kernel⟩ e))=
      [(true,false),(false,false),(false,false),(false,true)] ∧
    (((session staleAnswerRun).1.drop 12).take 2).countP
      (callOf ⟨"a",by decide +kernel⟩)=0 ∧
    (session staleAnswerRun).1.countP (callOf ⟨"a",by decide +kernel⟩)=2 :=
  ⟨session_reached staleAnswerRun,by decide +kernel⟩

end Answers
end Society.Boundary
