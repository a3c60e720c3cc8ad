import Society.Boundary.PeerLaws
import Society.Custody.NativeChildLaws
import Society.Custody.PiControlLaws
import Society.Custody.PiLines

namespace Society.Custody
open Society.Boundary Society.Stateful Society.Coding

/-! The cancellation fence of a Pi child: what a stop lets through to its peer and its pipe. -/

namespace ManagedPiChild
open Handler

variable {c c' : ManagedPiChild} {α : Type} {labels : PendingControlCommand → Prop}

/-- What a call adds to a child: frames that the peer admits, and bytes that the pipe takes, all of
them of the frame that was being written or of these. -/
structure Adds (labels : PendingControlCommand → Prop) (c c' : ManagedPiChild) : Prop where
  frames : ∃ new bytes,c'.admitted=c.admitted++new ∧ (∀ f∈new,labels f.1) ∧
    c'.written=c.written++bytes ∧ bytes <+: c.left++(new.map (·.2)).flatten

theorem Sound.adds (hg : Guarded c) (h : Sound labels c c') : Adds labels c c' := by
  obtain ⟨new,ha,hl⟩ := h.flow.admitted
  obtain ⟨bytes,hb⟩ := h.flow.written
  refine ⟨new,bytes,ha,hl,hb.symm,?_⟩
  cases hs : c.stdin with
  | false =>
    have hsame : c.written++bytes=c.written := hb.trans (h.flow.stdin hs).2
    have hnone : bytes=[] := by simpa using hsame
    rw [hnone]
    exact List.nil_prefix
  | true =>
    have hall : c'.admittedBytes=c.written++(c.left++(new.map (·.2)).flatten) := by
      rw [admittedBytes,ha,List.map_append,List.flatten_append,← List.append_assoc,← hg.whole hs]
      rfl
    have hordered := h.guarded.ordered
    rw [hall,← hb] at hordered
    exact (List.prefix_append_right_inj _).mp hordered

section Calls
variable (wire : Wire)

/-- The frames that a stop lets through. -/
def Passes (c : ManagedPiChild) (l : PendingControlCommand) : Prop :=
  c.cancellation=none ∨ (l=.dispose ∧ ∀ p,c.cancellation=some p → p.mode=.quiesce)

/-- A command that the peer would admit finds no stop. -/
def unfenced (correlationIdentity : CorrelationIdentity) (command : InboundCommand)
    (c : ManagedPiChild) : Bool :=
  c.cancellation.isNone || !admitsNext wire correlationIdentity command c

theorem unfenced_fits {correlationIdentity : CorrelationIdentity} {command : InboundCommand}
    {label : PendingControlCommand} (hl : label≠.abort)
    (hu : unfenced wire correlationIdentity command c=true)
    (ha : admitsNext wire correlationIdentity command c=true) : Passes c label ∧ Fits label c := by
  simp only [unfenced,ha,Bool.or_eq_true,Option.isNone_iff_eq_none,Bool.not_true,Bool.false_eq_true,
    or_false] at hu
  refine ⟨.inl hu,fun p hp => ?_,fun he => absurd he hl⟩
  rw [hu] at hp
  cases hp

theorem answering_secures {m : Action α} (f : α → PiAnswer) (hm : Secures labels m c) :
    Secures labels (answering f m) c :=
  (wp_bind ..).mpr (wp_mono (fun _ _ h => h) (fun _ _ h => h) hm)

theorem sendCreateSession_secures (hg : Guarded c) (gate : InertChildFacts → Option AdmissionDenied)
    (now deadline : MonotonicTick) (os : WriteAnswers)
    (hs : c.lifecycle=.inertVerified → gate c.inertFacts=none →
      unfenced wire c.request.createCorrelationIdentity (.createSession c.request.createSession) c=true) :
    Secures (Passes c) (sendCreateSession wire gate now deadline os) c := by
  simp only [Secures,sendCreateSession,wp_bind,wp_get,wp_ensure]
  refine ⟨fun hl => ?_,fun _ => Sound.refl hg⟩
  have ho : c.lifecycle.closed=false := by
    rw [hl]
    rfl
  split
  · simp only [wp_bind,wp_modify,wp_fail]
    have hstop : Settled c {c with stdin := false} :=
      ⟨rfl,rfl,rfl,fun ht => Bool.noConfusion ht,rfl,.inl rfl,id⟩
    exact sound_lifecycle hg ho (hstop.sound hg) rfl (fun hn => (by cases hn))
  · next hgate =>
    exact sendThen_wp wire hg ho (by decide)
      (unfenced_fits wire (by decide) (hs hl hgate)) now deadline os

/-- A command of a ready session. -/
theorem sendReady_secures {correlationIdentity : CorrelationIdentity} {command : InboundCommand}
    {label : PendingControlCommand} (hg : Guarded c) (hl : label≠.abort)
    (hs : c.lifecycle=.sessionReady → unfenced wire correlationIdentity command c=true)
    (now deadline : MonotonicTick) (os : WriteAnswers) :
    Secures (Passes c) (do
      let c ← get
      ensure (c.lifecycle=.sessionReady) .invalidLifecycle
      send wire correlationIdentity command label now deadline os) c := by
  simp only [Secures,wp_bind,wp_get,wp_ensure]
  refine ⟨fun hready => ?_,fun _ => Sound.refl hg⟩
  exact wp_mono (fun _ _ h => h.1) (fun _ _ h => h)
    (send_wp wire hg (unfenced_fits wire hl (hs hready)) now deadline os)

theorem sendDispose_secures (hg : Guarded c) (correlationIdentity : CorrelationIdentity)
    (reason : DisposeReason) (now deadline : MonotonicTick) (os : WriteAnswers) :
    Secures (Passes c) (sendDispose wire correlationIdentity reason now deadline os) c := by
  simp only [Secures,sendDispose,wp_bind,wp_get,wp_ensure]
  refine ⟨fun hl => ?_,fun _ => Sound.refl hg⟩
  have ho : c.lifecycle.closed=false := by
    rw [hl]
    rfl
  -- a session that is ready under a cancellation is one under Quiesce
  have hquiesce (p : CancellationProgress) (hp : c.cancellation=some p) : p.mode=.quiesce := by
    by_contra hm
    rw [hg.closed p hp hm] at ho
    cases ho
  have hfits : Fits .dispose c := ⟨fun p hp => .inr ⟨rfl,hquiesce p hp⟩,(fun h => by cases h)⟩
  have hpasses : Passes c .dispose := .inr ⟨rfl,hquiesce⟩
  have hsend : Secures (Passes c) (do
      let progress ← send wire correlationIdentity (.dispose reason) .dispose now deadline os
      modify (fun c => {c with lifecycle := .quiescing})
      pure progress) c :=
    sendThen_wp wire hg ho (by decide) (fun _ => ⟨hpasses,hfits⟩) now deadline os
  simpa only [Secures,wp_bind] using hsend

/-- A request leaves frames that the stop before it lets through. -/
theorem requestCancellation_secures (hg : Guarded c) (r : CancellationRequest) (now : MonotonicTick)
    (os : WriteAnswers) : Secures (Passes c) (requestCancellation wire r now os) c := by
  have hmono (c' : ManagedPiChild) (h : Sound (fun l => l=.abort ∧ c.cancellation=none)
      c.discardPendingControlBeforeCancellation c') : Sound (Passes c) c c' :=
    (discard_sound hg).trans ⟨h.guarded,h.flow.mono (fun _ hl => .inl hl.2)⟩
  exact wp_mono (fun _ c' h => hmono c' h.1) (fun _ c' h => hmono c' h)
    (requestCancellation_wp wire hg r now os)

end Calls
end ManagedPiChild

section Runs
open Handler ManagedPiChild
variable (wire : Wire)

/-- A call that keeps the fence: no command that the peer would admit is sent against a
cancellation, and no request meets a pending write or a closed pipe in its way. -/
def PiCall.sound (c : ManagedPiChild) : PiCall → Bool
  | sendCreateSession gate _ _ _ =>
    c.lifecycle≠.inertVerified || (gate c.inertFacts).isSome ||
      unfenced wire c.request.createCorrelationIdentity (.createSession c.request.createSession) c
  | sendPrompt correlation purpose text _ _ _ =>
    c.lifecycle≠.sessionReady || unfenced wire correlation (.prompt purpose text) c
  | sendForumToolResult correlation call result isError _ _ _ =>
    c.lifecycle≠.sessionReady || unfenced wire correlation (.forumToolResult call result isError) c
  | requestCancellation request now _ => requestSound wire request now c
  | _ => true

variable {c : ManagedPiChild} {h : List (Entry PiCall SupervisionError PiAnswer)}

/-- Every call that keeps the fence adds only what a stop lets through. -/
theorem PiCall.run_secures (hg : Guarded c) (call : PiCall) (hs : call.sound wire c=true) :
    Secures (Passes c) (call.run wire) c := by
  cases call with
  | finishInertSetup now stdin stdout => exact answering_secures _ (finishInertSetup_secures hg ..)
  | containBoundaryFailure now =>
    exact answering_secures _ (startAutomaticBoundaryContainment_sound hg now)
  | observeAdapterReady now deadline reads ownsGroup =>
    exact answering_secures _ (observeAdapterReady_secures wire hg ..)
  | sendCreateSession gate now deadline os =>
    refine answering_secures _ (sendCreateSession_secures wire hg gate now deadline os (fun hl hgate => ?_))
    simpa [PiCall.sound,hl,hgate] using hs
  | observeSessionReady now deadline reads =>
    exact answering_secures _ (observeSessionReady_secures wire hg ..)
  | sendPrompt correlation purpose text now deadline os =>
    refine answering_secures _ (sendReady_secures wire hg (by decide) (fun hl => ?_) now deadline os)
    simpa [PiCall.sound,hl] using hs
  | sendForumToolResult correlation toolCall result isError now deadline os =>
    refine answering_secures _ (sendReady_secures wire hg (by decide) (fun hl => ?_) now deadline os)
    simpa [PiCall.sound,hl] using hs
  | sendDispose correlation reason now deadline os =>
    exact answering_secures _ (sendDispose_secures wire hg ..)
  | observeDisposalOutput now deadline reads =>
    exact answering_secures _ (observeDisposalOutput_secures wire hg ..)
  | observeLiveOutput now reads => exact answering_secures _ (observeLiveOutput_secures wire hg ..)
  | driveControlWrite now os => exact answering_secures _ (driveControlWrite_secures hg now os)
  | requestCancellation request now os =>
    exact answering_secures _ (requestCancellation_secures wire hg request now os)
  | driveCancellation now wait os term kill =>
    exact answering_secures _ ((settles_driveCancellation wire ..).secures hg)
  | driveCancellationWithoutReap now term kill =>
    exact answering_secures _ ((settles_advanceCancellationWithoutReap ..).secures hg)
  | pollDirectChildReap wait probe =>
    exact answering_secures _ ((settles_pollDirectChildReap ..).secures hg)
  | issueLingeringGroupCleanup now os =>
    exact answering_secures _ ((settles_issueLingeringGroupCleanup ..).secures hg)
  | completeDeferredReap probe os =>
    exact answering_secures _ ((settles_completeDeferredReap wire ..).secures hg)
  | pollReap now wait os => exact answering_secures _ ((settles_tryReap wire ..).secures hg)
  | waitAndReap now wait os => exact answering_secures _ ((settles_waitAndReap wire ..).secures hg)
  | readStderr answer =>
    exact answering_secures _ ((Settles.modify (settled_readStderr answer)).secures hg)

/-- Each accepted request stands, or a later stop has taken its place. -/
def Accepted (h : List (Entry PiCall SupervisionError PiAnswer)) (c : ManagedPiChild) : Prop :=
  ∀ r now os a,(PiCall.requestCancellation r now os,.ok a)∈h → ∃ p,c.cancellation=some p ∧
    (p.explicitRequest=none ∨ p.mode=.emergencyStop ∨ p.explicitRequest=some r)

theorem Accepted.after {labels : PendingControlCommand → Prop} {c' : ManagedPiChild}
    (hi : Accepted h c) (hf : Flow labels c c') : Accepted h c' := by
  intro r now os a hm
  obtain ⟨p,hp,hl⟩ := hi r now os a hm
  obtain ⟨p',hp',hl'⟩ := hf.lineage p hp
  refine ⟨p',hp',?_⟩
  rcases hl' with hl' | hl' | ⟨hmode,hr⟩
  · exact .inl hl'
  · exact .inr (.inl hl')
  · rw [hmode,hr]
    exact hl

theorem Accepted.push {call : PiCall} {r : Except SupervisionError PiAnswer} (hi : Accepted h c)
    (hr : ∀ req now os a,call=.requestCancellation req now os → r=.ok a →
      ∃ p,c.cancellation=some p ∧ p.explicitRequest=some req) : Accepted (h++[(call,r)]) c := by
  intro req now os a hm
  rcases List.mem_append.mp hm with hm | hm
  · exact hi req now os a hm
  · obtain ⟨hcall,hok⟩ := Prod.mk.inj (List.mem_singleton.mp hm)
    obtain ⟨p,hp,he⟩ := hr req now os a hcall.symm hok.symm
    exact ⟨p,hp,.inr (.inr he)⟩

theorem registered_guarded (hr : Registered c) : Guarded c := by
  obtain ⟨request,nativeChild,stdin,stdout,stderr,rfl,-,hfresh⟩ := hr
  have hw : written (.registered request nativeChild stdin stdout stderr)=[] := by
    simp only [written,ManagedPiChild.registered,hfresh]
    rfl
  have hnone {β : Type} (b : β) (P : Prop) (hb : none=some b) : P := (by cases hb)
  refine ⟨?_,fun _ => ?_,fun p hp _ => hnone p _ hp,fun p _ hp _ => hnone p _ hp,fun q hq => hnone q _ hq,
    ⟨Nat.zero_le _,fun _ => rfl⟩,fun hl => ChildLifecycle.noConfusion hl⟩
  · rw [hw]
    exact List.nil_prefix
  · rw [hw]
    rfl

/-- The invariant of the runs of a child. -/
theorem piRun_guarded (hr : PiRunWith wire (fun _ c call => call.sound wire c=true) h c) :
    Guarded c ∧ Accepted h c := by
  refine hr.invariant (fun h c => Guarded c ∧ Accepted h c)
    (fun c hs => ⟨registered_guarded hs,fun _ _ _ _ hm => absurd hm List.not_mem_nil⟩)
    (fun h c call _ hsound hi => ?_)
  have hrun := PiCall.run_secures wire hi.1 call hsound
  have hother (r : Except SupervisionError PiAnswer) (c' : ManagedPiChild) (hs : Sound (Passes c) c c')
      (hn : ∀ req now os a,call=.requestCancellation req now os → r=.ok a →
        ∃ p,c'.cancellation=some p ∧ p.explicitRequest=some req) :
      Guarded c' ∧ Accepted (h++[(call,r)]) c' := ⟨hs.guarded,(hi.2.after hs.flow).push hn⟩
  by_cases hcall : ∃ req now os,call=.requestCancellation req now os
  · obtain ⟨req,now,os,rfl⟩ := hcall
    have hreq : wp (PiCall.run wire (.requestCancellation req now os))
        (fun _ c' => ∃ p,c'.cancellation=some p ∧ p.explicitRequest=some req) (fun _ _ => True) c :=
      (wp_bind ..).mpr (wp_mono (fun _ _ h => h.2) (fun _ _ _ => trivial)
        (requestCancellation_wp wire hi.1 req now os))
    refine wp_mono (fun r c' h => hother _ c' h.1 (fun req' _ _ a he _ => ?_))
      (fun e c' h => hother _ c' h.1 (fun _ _ _ a _ he => (by cases he))) (wp_and hrun hreq)
    cases he
    exact h.2
  · exact wp_mono (fun r c' h => hother _ c' h (fun req now os a he _ => absurd ⟨req,now,os,he⟩ hcall))
      (fun e c' h => hother _ c' h (fun _ _ _ a _ he => (by cases he))) hrun

/-- The fence of a child after a record of calls, and over the next call that is allowed on it. -/
structure CancellationFence
    (allowed : List (Entry PiCall SupervisionError PiAnswer) → ManagedPiChild → PiCall → Prop)
    (h : List (Entry PiCall SupervisionError PiAnswer)) (c : ManagedPiChild) : Prop where
  fenced : ∀ p call,c.cancellation=some p → allowed h c call →
    Adds (fun l => l=.dispose ∧ p.mode=.quiesce) c (call.run wire c).2 ∧
      (call.run wire c).2.cancellation.isSome=true
  writing : ∀ p q,c.cancellation=some p → c.pendingControl=some q →
    c.admitted.getLast?=some (q.command,q.bytes) ∧
      (q.command=.abort ∨ (q.command=.dispose ∧ p.mode=.quiesce))
  requested : ∀ r now os,allowed h c (.requestCancellation r now os) →
    Adds (fun l => l=.abort ∧ c.cancellation=none) {c with pendingControl := none}
        (requestCancellation wire r now os c).2 ∧
      ((requestCancellation wire r now os c).1.isOk=true →
        (requestCancellation wire r now os c).2.cancellation.isSome=true)
  once : c.aborts≤1
  repeated : ∀ r now os now' os' a,(.requestCancellation r now os,.ok a)∈h →
    allowed h c (.requestCancellation r now' os') → (requestCancellation wire r now' os' c).2=c ∧
      (c.cancellation.bind (fun p => p.explicitRequest)=some r →
        (requestCancellation wire r now' os' c).1=.ok .delivered)
  refused : ∀ r now os,allowed h c (.requestCancellation r now os) →
    (requestCancellation wire r now os c).1=.error .invalidLifecycle →
      (requestCancellation wire r now os c).2=c
  ordered : c.written <+: c.admittedBytes

/-- No fence stands where a session is created after a stop. -/
theorem unfenced_of_admitted
    {gate : InertChildFacts → Option AdmissionDenied} {now deadline : MonotonicTick} {os : WriteAnswers}
    {p : CancellationProgress} {bytes : Bytes} (hp : c.cancellation=some p)
    (hsend : (ManagedPiChild.sendCreateSession wire gate now deadline os c).2.admitted=
      c.admitted++[(.createSession,bytes)]) :
    ¬CancellationFence wire (fun _ _ _ => True) h c := by
  intro hf
  obtain ⟨new,-,hnew,hl,-⟩ := (hf.fenced p (.sendCreateSession gate now deadline os) hp trivial).1.frames
  have hadmitted := (congrArg ManagedPiChild.admitted (answering_state ..)).symm.trans hnew
  have hone := List.append_cancel_left (hsend.symm.trans hadmitted)
  have hmem : (PendingControlCommand.createSession,bytes)∈new := by
    rw [← hone]
    exact List.mem_singleton_self _
  cases (hl _ hmem).1

end Runs
section Samples

/-! A child up to the readiness of its adapter, on the lines that its host writes and reads. -/

open ManagedPiChild

def openedPayload : CreateSessionPayload := {sessionPayload .taskAttempt with toolProfile := .readExecuteV1}

def createFrame : InboundFrame :=
  ⟨⟨1,by decide⟩,sessionName,correlation 0,.createSession openedPayload⟩

def createText : List Char := write (sampleLibrary [] .null) (encodeFrame createFrame)

def createLibrary : JsonLibrary := sampleLibrary createText (encodeFrame createFrame).readBack

def readyText : String :=
  "\x7b\"event\":\"AdapterReady\",\"pid\":7,\"spawnNonce\":\"nonce\",\"runtime\":\x7b\"nodeVersion\":\"v22.19.0\","++
  "\"adapterVersion\":\"1\",\"piSdkVersion\":\"0.84.1\",\"nodeExecutableBlake3\":\""++zeroDigest.text++
  "\",\"lockfileBlake3\":\""++zeroDigest.text++"\",\"adapterBuildBlake3\":\""++zeroDigest.text++
  "\",\"piTransitivePackageSetBlake3\":\""++zeroDigest.text++
  "\"\x7d,\"protocolVersion\":\"society-pi-host/v4\",\"sequence\":1,\"sessionIdentity\":\"session\"\x7d"

def readyFrame : OutboundFrame :=
  ⟨⟨1,by decide⟩,sessionName,none,
    .adapterReady hostPeer.expectedProcessId hostPeer.expectedSpawnNonce hostRuntime⟩

/-- The codec of the inbound frames over the library, and a host that writes one line. -/
def lineWire (line : String) (frame : OutboundFrame) : Wire where
  encodeInbound frame := (encodeInboundJsonl createLibrary frame).map utf8
  decodeInbound := decodeInboundJsonl createLibrary
  decodeOutbound text := if text=line then .ok frame else .error .invalidJson
  hash := digest

theorem lineWire_decoded (line : String) (frame : OutboundFrame) :
    (lineWire line frame).decodeOutbound line=.ok frame := if_pos rfl

theorem lineWire_encoded {line : String} {ready : OutboundFrame} {frame : InboundFrame} {text : List Char}
    (hshort : (utf8 (String.ofList text)).length ≤ maxJsonlFrameBytes)
    (hwrite : write createLibrary (encodeFrame frame)=text)
    (hdec : decodeInboundJsonl createLibrary (String.ofList text)=.ok frame) :
    (lineWire line ready).encodeInbound frame=.ok (utf8 (String.ofList text)) := by
  have hnot : ¬maxJsonlFrameBytes<(utf8 (String.ofList text)).length := by omega
  simp only [lineWire,encodeInboundJsonl,hwrite,hnot,if_false,hdec,ok_bind,Except.map]

def openedWire : Wire := lineWire readyText readyFrame

def openedRequest : PiSpawnRequest where
  childProcessId := ⟨"child",by decide +kernel⟩
  workspaceIdentity := ⟨"workspace",by decide +kernel⟩
  workspaceDirectory := openedPayload.cwd
  sessionIdentity := sessionName
  spawnNonce := hostPeer.expectedSpawnNonce
  runtime := hostRuntime
  createCorrelationIdentity := correlation 0
  createSession := openedPayload

theorem ownGroup_valid : 1 ≤ 7 ∧ 7 ≤ (2^31-1 : Nat) := by decide

def openedProcess : OwnedNativeChildProcess := ⟨hostPeer.expectedProcessId,⟨7,ownGroup_valid⟩,none,.fresh⟩

def openedChild : ManagedPiChild := .registered openedRequest openedProcess true true true

theorem openedChild_registered : Registered openedChild :=
  ⟨openedRequest,openedProcess,true,true,true,rfl,rfl,rfl⟩

def quiesceRequest : CancellationRequest :=
  ⟨⟨"stop",by decide +kernel⟩,.quiesce,.operatorStop,1,correlation 1⟩

/-- The peer that has heard from its adapter. -/
def readyPeer : BoundaryPeer := (observeOutbound readyFrame hostPeer).2

theorem readyFrame_observed : observeOutbound readyFrame hostPeer=(.ok none,readyPeer) := by rfl

theorem readyText_plain : (utf8 readyText).length ≤ maxJsonlFrameBytes ∧
    ∀ b∈utf8 readyText,b≠10 ∧ b≠13 := by
  unfold readyText
  simp only [utf8_append]
  decide +kernel

theorem readyText_decoded : openedWire.decodeOutbound readyText=.ok readyFrame := lineWire_decoded _ _

theorem readyText_observed : LinePeer.observeOutboundJsonlBytes openedWire (utf8 readyText) ⟨hostPeer,[],[]⟩=
    (.ok none,⟨readyPeer,[],[]++[openedWire.hash (utf8 readyText)]⟩) :=
  observeOutboundJsonlBytes_plain readyText_plain.1 readyText_plain.2 readyText_decoded readyFrame_observed

/-- The calls up to a stop of a child whose session is not created yet. -/
def stoppedCalls : List PiCall :=
  [.finishInertSetup (tick 0) true true,
   .observeAdapterReady (tick 0) (tick 5) [.chunk (utf8 readyText++[10])] (some true),
   .requestCancellation quiesceRequest (tick 1) ⟨[],.done⟩]

def stopped : List (Entry PiCall SupervisionError PiAnswer) × ManagedPiChild :=
  trace (PiCall.run openedWire) [] openedChild stoppedCalls

/-- The child before its adapter is heard. -/
def awaitingChild : ManagedPiChild :=
  {openedChild with peer := some ⟨hostPeer,[],[]⟩,lifecycle := .awaitingAdapterReady}

def heardChild : ManagedPiChild :=
  {(awaitingChild.pipeRead (utf8 readyText++[10])).recordTaken (utf8 readyText++[10]) with
    peer := some ⟨readyPeer,[],[]++[openedWire.hash (utf8 readyText)]⟩,lifecycle := .inertVerified}

theorem awaitingChild_heard : (ManagedPiChild.observeAdapterReady openedWire (tick 0) (tick 5)
    [.chunk (utf8 readyText++[10])] (some true) awaitingChild).2=heardChild :=
  observeAdapterReady_whole readyText_plain.1 readyText_plain.2 rfl rfl rfl rfl readyText_decoded
    readyText_observed (by decide +kernel)

theorem openedChild_awaiting :
    (ManagedPiChild.finishInertSetup (tick 0) true true openedChild).2=awaitingChild := rfl

def stoppedChild : ManagedPiChild := {heardChild with cancellation := some (.quiesce quiesceRequest)}

theorem stopped_child : stopped.2=stoppedChild := by
  have hlast : (ManagedPiChild.requestCancellation openedWire quiesceRequest (tick 1) ⟨[],.done⟩ heardChild).2=
      stoppedChild :=
    requestCancellation_quiesced rfl rfl rfl rfl
  simp only [stopped,stoppedCalls,trace,PiCall.run,answering_state,openedChild_awaiting,awaitingChild_heard,hlast]

theorem heardChild_request : requestSound openedWire quiesceRequest (tick 1) heardChild=true := rfl

theorem stopped_sound :
    passes (PiCall.run openedWire) (fun _ c call => call.sound openedWire c) [] openedChild stoppedCalls=true := by
  simp only [stoppedCalls,passes,PiCall.run,answering_state,openedChild_awaiting,awaitingChild_heard,PiCall.sound,
    heardChild_request,Bool.and_self]

/-- What evaluation tells of the text and of its frame. -/
theorem createText_evaluated : (createText.all (fun x => 32≤x.toNat && x.toNat<128) &&
      createText.length ≤ maxJsonlFrameBytes && write createLibrary (encodeFrame createFrame)==createText)=true ∧
    rejectDuplicateObjectKeys createLibrary.decodeString createText=.ok () ∧
    (decodeFrame (encodeFrame createFrame)).isOk=true ∧
    (admitInbound digest createFrame readyPeer).1=.ok () :=
  ⟨by decide +kernel,by decide +kernel,by decide +kernel,by decide +kernel⟩

theorem createFrame_decoded : decodeFrame (encodeFrame createFrame)=.ok createFrame := by
  have hok := createText_evaluated.2.2.1
  cases hdec : decodeFrame (encodeFrame createFrame) with
  | error e => rw [hdec] at hok; cases hok
  | ok g => rw [decodeFrame_encodeFrame hdec]

theorem createText_printable : ∀ x∈createText,32≤x.toNat ∧ x.toNat<128 := by
  have hplain := createText_evaluated.1
  simp only [Bool.and_eq_true,List.all_eq_true,decide_eq_true_eq] at hplain
  exact hplain.1.1

theorem createText_short : (utf8 (String.ofList createText)).length ≤ maxJsonlFrameBytes := by
  have hplain := createText_evaluated.1
  simp only [Bool.and_eq_true,decide_eq_true_eq] at hplain
  rw [(utf8_printable createText_printable).1]
  exact hplain.1.2

theorem createText_decoded :
    decodeInboundJsonl createLibrary (String.ofList createText)=.ok createFrame :=
  decodeInboundJsonl_text createText_short createText_evaluated.2.1 (sampleLibrary_parse _ _)
    (readBack_encodeFrame createFrame) createFrame_decoded

theorem createText_written : write createLibrary (encodeFrame createFrame)=createText := by
  have hplain := createText_evaluated.1
  simp only [Bool.and_eq_true,beq_iff_eq] at hplain
  exact hplain.2

theorem createText_encoded :
    openedWire.encodeInbound createFrame=.ok (utf8 (String.ofList createText)) :=
  lineWire_encoded createText_short createText_written createText_decoded

theorem createFrame_admitted :
    admitInbound digest createFrame readyPeer=(.ok (),(admitInbound digest createFrame readyPeer).2) := by
  have hok := createText_evaluated.2.2.2
  rw [← hok]

end Samples
end Society.Custody
