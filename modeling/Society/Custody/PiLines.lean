import Society.Boundary.InboundWireLaws
import Society.Custody.PiSupervisor

namespace Society.Custody
open Society.Boundary Society.Stateful Society.Coding

/-! What the operations on a Pi child do with whole lines. -/

/-- A text of printable ASCII characters is as many bytes, none of which ends a line. -/
theorem utf8_printable {chars : List Char} (h : ∀ x∈chars,32≤x.toNat ∧ x.toNat<128) :
    (utf8 (String.ofList chars)).length=chars.length ∧
      ∀ b∈utf8 (String.ofList chars),b≠10 ∧ b≠13 := by
  rw [utf8_ascii (fun x hx => (h x hx).2)]
  refine ⟨List.length_map .., fun b hb => ?_⟩
  obtain ⟨x,hx,rfl⟩ := List.mem_map.mp hb
  obtain ⟨hlow,hhigh⟩ := h x hx
  have hval : x.val.toUInt8.toNat=x.toNat := by
    rw [UInt32.toNat_toUInt8]
    exact Nat.mod_eq_of_lt (by unfold Char.toNat at hhigh; omega)
  constructor <;> intro he <;> rw [he] at hval <;> simp at hval <;> omega

theorem rawJsonlUtf8_utf8 {text : String} (hlen : (utf8 text).length ≤ maxJsonlFrameBytes)
    (hclean : ∀ b∈utf8 text,b≠10 ∧ b≠13) : rawJsonlUtf8 (utf8 text)=.ok text := by
  have h10 : (utf8 text).contains 10=false := by
    simp only [List.contains_eq_mem,decide_eq_false_iff_not]
    exact fun h => (hclean 10 h).1 rfl
  have h13 : (utf8 text).contains 13=false := by
    simp only [List.contains_eq_mem,decide_eq_false_iff_not]
    exact fun h => (hclean 13 h).2 rfl
  have hread : String.fromUTF8? ⟨(utf8 text).toArray⟩=some text := ofUtf8_utf8 text
  have hshort : ¬maxJsonlFrameBytes<(utf8 text).length := by omega
  simp only [rawJsonlUtf8,hshort,if_false,h10,h13,Bool.or_self,Bool.false_eq_true,hread]

namespace ManagedPiChild
open Handler
variable {wire : Wire} {c : ManagedPiChild} {now deadline : MonotonicTick}

theorem firstLine_whole {line : Bytes} (h : ∀ b∈line,b≠10 ∧ b≠13) : firstLine (line++[10])=line++[10] := by
  have hnot : (10 : UInt8)∉line := fun hm => (h 10 hm).1 rfl
  have hidx : (line++[10]).idxOf 10=line.length := by
    rw [List.idxOf_append_of_notMem hnot]
    simp
  rw [firstLine,hidx]
  exact List.take_of_length_le (by simp)



/-- The child once a whole record has been taken from its buffer. -/
def recordTaken (bytes : Bytes) (c : ManagedPiChild) : ManagedPiChild :=
  {c with stdout := some [],stdoutPartialRecord := [],
          stdoutCapture := c.stdoutCapture.observe maxTransientStreamBytes bytes}

theorem takeRecord_whole {line : Bytes} (hlen : line.length ≤ maxJsonlFrameBytes)
    (h : ∀ b∈line,b≠10 ∧ b≠13) (hpart : c.stdoutPartialRecord=[]) :
    takeRecord (line++[10]) c=(.ok (some line),c.recordTaken (line++[10])) := by
  have hnot : ¬maxJsonlFrameBytes+1<line.length+1 := by omega
  simp [takeRecord,bind,pure,Handler.andThen,Handler.ok,Handler.modify,Handler.get,firstLine_whole h,consume,
    recordTaken,hpart,hnot]

theorem readOneOutbound_whole {text : String} {frame : OutboundFrame} {p p' : LinePeer}
    {o : Option PeerObservation} (hlen : (utf8 text).length ≤ maxJsonlFrameBytes)
    (h : ∀ b∈utf8 text,b≠10 ∧ b≠13) (hout : c.stdout=some []) (hpart : c.stdoutPartialRecord=[])
    (hp : c.peer=some p) (hdec : wire.decodeOutbound text=.ok frame)
    (hobs : LinePeer.observeOutboundJsonlBytes wire (utf8 text) p=(.ok o,p')) :
    readOneOutbound wire [.chunk (utf8 text++[10])] c=
      (.ok (.observation ⟨frame,o,.accepted,p'.peer.phase==.fatal⟩,[]),
        {(c.pipeRead (utf8 text++[10])).recordTaken (utf8 text++[10]) with peer := some p'}) := by
  have htake := takeRecord_whole (c := c.pipeRead (utf8 text++[10])) hlen h hpart
  have hread : String.fromUTF8? ⟨(utf8 text).toArray⟩=some text := ofUtf8_utf8 text
  have hfill : readBoundedRecord [.chunk (utf8 text++[10])] c=
      (.ok (.frame (utf8 text),[]),(c.pipeRead (utf8 text++[10])).recordTaken (utf8 text++[10])) := by
    simp [readBoundedRecord,fillRecord,bind,pure,Handler.andThen,Handler.ok,Handler.modify,Handler.get,hout,htake]
  have hpeer : ((c.pipeRead (utf8 text++[10])).recordTaken (utf8 text++[10])).peer=some p := hp
  simp [readOneOutbound,bind,pure,Handler.andThen,Handler.ok,hfill,onPeer,hpeer,hobs,decodeSealed,hread,hdec,Handler.lift,
    peerPhase,Handler.get]

theorem observeOutboundJsonlBytes_plain {text : String} {frame : OutboundFrame} {p : LinePeer}
    {o : Option PeerObservation} {peer : BoundaryPeer} (hlen : (utf8 text).length ≤ maxJsonlFrameBytes)
    (h : ∀ b∈utf8 text,b≠10 ∧ b≠13) (hdec : wire.decodeOutbound text=.ok frame)
    (hobs : observeOutbound frame p.peer=(.ok o,peer)) :
    LinePeer.observeOutboundJsonlBytes wire (utf8 text) p=
      (.ok o,⟨peer,p.inboundSeals,p.outboundSeals++[wire.hash (utf8 text)]⟩) := by
  simp only [LinePeer.observeOutboundJsonlBytes,bind,Handler.andThen,Handler.modify,rawJsonlUtf8_utf8 hlen h,hdec,
    LinePeer.onPeer,Handler.within,hobs]

theorem admitInboundJsonlBytes_plain {text : String} {frame : InboundFrame} {p : LinePeer}
    {peer : BoundaryPeer} (hlen : (utf8 text).length ≤ maxJsonlFrameBytes)
    (h : ∀ b∈utf8 text,b≠10 ∧ b≠13) (hdec : wire.decodeInbound text=.ok frame)
    (hadm : admitInbound wire.hash frame p.peer=(.ok (),peer)) :
    LinePeer.admitInboundJsonlBytes wire (utf8 text) p=
      (.ok (),⟨peer,p.inboundSeals++[wire.hash (utf8 text)],p.outboundSeals⟩) := by
  simp only [LinePeer.admitInboundJsonlBytes,bind,Handler.andThen,Handler.modify,rawJsonlUtf8_utf8 hlen h,hdec,
    LinePeer.onPeer,Handler.within,hadm]

theorem observeAdapterReady_whole {text : String} {frame : OutboundFrame} {p p' : LinePeer}
    {o : Option PeerObservation} (hlen : (utf8 text).length ≤ maxJsonlFrameBytes)
    (h : ∀ b∈utf8 text,b≠10 ∧ b≠13) (hl : c.lifecycle=.awaitingAdapterReady) (hout : c.stdout=some [])
    (hpart : c.stdoutPartialRecord=[]) (hp : c.peer=some p) (hdec : wire.decodeOutbound text=.ok frame)
    (hobs : LinePeer.observeOutboundJsonlBytes wire (utf8 text) p=(.ok o,p'))
    (hinert : p'.peer.phase=.inert) :
    (observeAdapterReady wire now deadline [.chunk (utf8 text++[10])] (some true) c).2=
      {(c.pipeRead (utf8 text++[10])).recordTaken (utf8 text++[10]) with
        peer := some p',lifecycle := .inertVerified} := by
  have hread := readOneOutbound_whole hlen h hout hpart hp hdec hobs
  simp [observeAdapterReady,orContain,attempt,bind,pure,Handler.andThen,Handler.ok,Handler.get,Handler.ensure,
    Handler.modify,hl,hread,peerPhase,hinert]

theorem requestCancellation_quiesced {request : CancellationRequest} {os : WriteAnswers}
    (hm : request.mode=.quiesce) (hn : c.pendingControl=none) (hc : c.cancellation=none)
    (hl : c.lifecycle=.inertVerified) : (requestCancellation wire request now os c).2=
      {c with cancellation := some (.quiesce request)} := by
  simp [requestCancellation,discardPendingControlBeforeCancellation,bind,pure,Handler.andThen,Handler.ok,Handler.get,
    Handler.ensure,Handler.modify,hm,hn,hc,hl,CancellationDeadlines.forMode]

/-- A frame that a peer admits is one more admitted frame, whatever stands against it. -/
theorem sendCreateSession_admitted (gate : InertChildFacts → Option AdmissionDenied)
    (now deadline : MonotonicTick) (probe : KillAnswer) {line : Bytes} {p p' : LinePeer}
    (hl : c.lifecycle=.inertVerified)
    (hgate : gate c.inertFacts=none) (hn : c.pendingControl=none) (hs : c.stdin=true)
    (hnext : c.nextInboundSequence=1) (hp : c.peer=some p) (hnow : now.val<deadline.val)
    (henc : wire.encodeInbound ⟨⟨1,by decide⟩,c.request.sessionIdentity,
      c.request.createCorrelationIdentity,.createSession c.request.createSession⟩=.ok line)
    (hadm : LinePeer.admitInboundJsonlBytes wire line p=(.ok (),p')) :
    (sendCreateSession wire gate now deadline ⟨[],probe⟩ c).2.admitted=
      c.admitted++[(.createSession,line++[10])] := by
  have hseq : parseRanged 1 maxSafeInteger "boundary sequence" c.nextInboundSequence=
      .ok ⟨1,by decide⟩ := by rw [hnext]; rfl
  simp [sendCreateSession,send,nextFrame,stageInbound,orContain,attempt,flushPendingControl,flushWrites,
    flushHead,bind,pure,Handler.andThen,Handler.ok,Handler.modify,Handler.get,Handler.ensure,hl,hgate,hn,hseq,henc,onPeer,hp,
    hadm,stage,hs,hnow]

end ManagedPiChild
/-- A text is read as the frame that its value stands for. -/
theorem decodeInboundJsonl_text {lib : JsonLibrary} {text : List Char} {v : Json} {f g : InboundFrame}
    (hshort : (utf8 (String.ofList text)).length ≤ maxJsonlFrameBytes)
    (hscan : rejectDuplicateObjectKeys lib.decodeString text=.ok ()) (hparse : lib.parse text=some v)
    (hv : v=encodeFrame g) (hdec : decodeFrame (encodeFrame g)=.ok f) :
    decodeInboundJsonl lib (String.ofList text)=.ok f := by
  have hnot : ¬maxJsonlFrameBytes<(utf8 (String.ofList text)).length := by omega
  simp only [decodeInboundJsonl,decodeFrameValue,hnot,if_false,String.toList_ofList,hscan,hparse,ok_bind,hv,hdec]

open ManagedPiChild Handler in
theorem answering_state {α : Type} (f : α → PiAnswer) (m : ManagedPiChild.Action α) (c : ManagedPiChild) :
    (answering f m c).2=(m c).2 := by
  simp only [answering,bind,pure,Handler.andThen,Handler.ok]
  split <;> simp_all

end Society.Custody
