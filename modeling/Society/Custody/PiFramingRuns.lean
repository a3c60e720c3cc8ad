import Society.Custody.PiFraming

namespace Society.Custody
open Society.Boundary Society.Stateful Society.Coding

/-! What the peer of a Pi child has been handed, after any calls. -/

namespace ManagedPiChild
open Handler
variable {wire : Wire} {c c' : ManagedPiChild} {α β : Type}

/-- The bytes of the stream that the reader has looked at. -/
def looked (c : ManagedPiChild) : Bytes := c.stream.take (c.stream.length-c.buffer.length)

theorem LookedAt.looked {s : Bytes} (h : LookedAt c s) : c.looked=s := by
  rw [ManagedPiChild.looked,h.stream,List.length_append,Nat.add_sub_cancel]
  exact List.take_left' rfl

/-- The peer has sealed the records up to the first oversized one, each as a whole. -/
structure Framed (wire : Wire) (c : ManagedPiChild) : Prop where
  looked : LookedAt c c.looked
  handed : ∀ p,c.peer=some p → p.outboundSeals=(heads c.looked).map wire.hash

theorem framed_of {s : Bytes} (h : LookedAt c s)
    (hp : ∀ p,c.peer=some p → p.outboundSeals=(heads s).map wire.hash) : Framed wire c := by
  have hs := h.looked
  exact ⟨hs.symm ▸ h,hs.symm ▸ hp⟩

/-- After an oversized record no newline is left to be met. -/
def Hushed (c : ManagedPiChild) (reads : List ReadAnswer) : Prop :=
  overrun c.looked=true → (10 : UInt8)∉c.buffer++chunks reads

theorem Quiet.parts (h : Quiet c c') : c'.looked=c.looked ∧ c'.buffer=c.buffer ∧ c'.stream=c.stream ∧
    c'.stdoutPartialRecord=c.stdoutPartialRecord ∧
    c'.peer.map (·.outboundSeals)=c.peer.map (·.outboundSeals) := by
  simp only [Quiet,output,Prod.mk.injEq] at h
  obtain ⟨hs,hb,hp,hseals⟩ := h
  have hbuffer : c'.buffer=c.buffer := by rw [buffer,hb]; rfl
  exact ⟨by rw [ManagedPiChild.looked,hs,hbuffer]; rfl,hbuffer,hs,hp,hseals⟩

theorem Framed.quiet (h : Framed wire c) (hq : Quiet c c') : Framed wire c' := by
  obtain ⟨hl,hb,hs,hp,hseals⟩ := hq.parts
  refine framed_of (s := c.looked) ⟨by rw [hs,hb]; exact h.looked.stream,
    fun ho => hp.trans (h.looked.opened ho)⟩ (fun p hpeer => ?_)
  rw [hpeer] at hseals
  obtain ⟨q,hq,he⟩ := Option.map_eq_some_iff.mp hseals.symm
  exact he.symm.trans (h.handed q hq)

theorem Hushed.quiet {reads : List ReadAnswer} (h : Hushed c reads) (hq : Quiet c c') :
    Hushed c' reads := by
  obtain ⟨hl,hb,-⟩ := hq.parts
  unfold Hushed
  rw [hl,hb]
  exact h

theorem Framed.took {s : Bytes} (h : Framed wire c) (hs : c.looked=s) (ht : TookFrom c s none c') :
    Framed wire c' := by
  obtain ⟨s',hlooked,hpeer,hheads,_⟩ := ht
  refine framed_of hlooked (fun p hp => ?_)
  rw [hpeer] at hp
  rw [h.handed p hp,hheads,hs]
  simp

/-- The outcomes of an operation are framed. -/
def Frames (wire : Wire) (m : Action α) (c : ManagedPiChild) : Prop :=
  wp m (fun _ c' => Framed wire c') (fun _ c' => Framed wire c') c

theorem frames_quiet {m : Action α} (hm : Keeps Quiet m) (h : Framed wire c) : Frames wire m c :=
  wp_mono (fun _ _ hq => h.quiet hq) (fun _ _ hq => h.quiet hq) (hm.run c)

theorem Frames.bind {m : Action α} {f : α → Action β} (hm : Frames wire m c)
    (hf : ∀ a,Keeps Quiet (f a)) : Frames wire (m>>=f) c :=
  Keeps.after (fun _ _ hq h => h.quiet hq) hm hf

theorem frames_after {m : Action α} {f : α → Action β} (hm : Keeps Quiet m) (h : Framed wire c)
    (hf : ∀ a c',Quiet c c' → Framed wire c' → Frames wire (f a) c') : Frames wire (m>>=f) c :=
  (wp_bind ..).mpr (wp_mono (fun a c' hq => hf a c' hq (h.quiet hq)) (fun _ _ hq => h.quiet hq)
    (hm.run c))

theorem Frames.orContain {m : Action α} (now : MonotonicTick) (hm : Frames wire m c) :
    Frames wire (orContain now m) c := by
  refine (wp_bind ..).mpr ((wp_attempt m).mpr (wp_mono (fun _ _ h => h) (fun e c₁ h => ?_) hm))
  exact frames_quiet (quiet_contain now e) h

/-- A record that the peer is handed is the next of the stream. -/
theorem handed_wp {s record : Bytes} {c₁ : ManagedPiChild} (h : Framed wire c) (hs : c.looked=s)
    (ht : TookFrom c s (some record) c₁) :
    wp (onPeer (LinePeer.observeOutboundJsonlBytes wire record))
      (fun _ c' => Framed wire c' ∧ overrun c'.looked=false) (fun _ c' => Framed wire c') c₁ := by
  obtain ⟨s',hlooked,hpeer,hheads,hover⟩ := ht
  cases hp : c₁.peer with
  | none =>
    simp only [wp,onPeer,hp]
    exact framed_of hlooked (fun p hp' => by rw [hp] at hp'; cases hp')
  | some p =>
    have hseals := wp_state (seals_observed wire record p)
    simp only [wp,onPeer,hp]
    have hl : LookedAt {c₁ with peer := some (LinePeer.observeOutboundJsonlBytes wire record p).2} s' :=
      ⟨hlooked.stream,hlooked.opened⟩
    refine ⟨framed_of hl (fun q hq => ?_),by rw [hl.looked]; exact hover rfl⟩
    cases hq
    rw [hseals,h.handed p (hpeer ▸ hp),hheads,hs]
    simp

variable (wire)

theorem readOneOutbound_frames {reads : List ReadAnswer} (h : Framed wire c) (hq : Hushed c reads) :
    wp (readOneOutbound wire reads)
      (fun r c' => Framed wire c' ∧ ((∃ o,r.1=.observation o) → overrun c'.looked=false))
      (fun _ c' => Framed wire c') c := by
  rw [readOneOutbound,wp_bind]
  refine wp_mono (fun r c₁ ht => ?_) (fun _ _ ht => h.took rfl ht) (readBoundedRecord_wp h.looked hq)
  rcases r with ⟨record,reads'⟩
  cases record with
  | notReady =>
    have hframed : Framed wire c₁ := h.took rfl ht
    refine ⟨hframed,?_⟩
    rintro ⟨_,ho⟩
    cases ho
  | eof =>
    have hframed : Framed wire c₁ := h.took rfl ht
    refine (wp_bind ..).mpr (wp_mono (fun _ _ hq => ?_) (fun _ _ hq => hframed.quiet hq)
      ((quiet_onPeer (fun _ => seals_within _ rfl)).run c₁))
    exact hframed.quiet hq
  | frame record =>
    refine (wp_bind ..).mpr (wp_mono (fun o c₂ ho => ?_) (fun _ _ ho => ho) (handed_wp h rfl ht))
    rw [wp_bind,wp_lift]
    refine ⟨fun frame _ => ?_,fun _ _ => ho.1⟩
    refine (wp_bind ..).mpr (wp_mono (fun phase c₃ hq => ?_) (fun _ _ hq => ho.1.quiet hq)
      (quiet_peerPhase.run c₂))
    have hframed : Framed wire c₃ ∧ overrun c₃.looked=false :=
      ⟨ho.1.quiet hq,by rw [hq.parts.1]; exact ho.2⟩
    cases o with
    | ok o => exact ⟨hframed.1,fun _ => hframed.2⟩
    | error e => exact ⟨hframed.1,fun _ => hframed.2⟩

/-- The same, where its error starts containment. -/
theorem readContained_frames {reads : List ReadAnswer} (now : MonotonicTick) (h : Framed wire c)
    (hq : Hushed c reads) :
    wp (orContain now (readOneOutbound wire reads))
      (fun r c' => Framed wire c' ∧ ((∃ o,r.1=.observation o) → overrun c'.looked=false))
      (fun _ c' => Framed wire c') c := by
  refine (wp_bind ..).mpr ((wp_attempt _).mpr (wp_mono (fun _ _ h => h) (fun e c₁ h => ?_)
    (readOneOutbound_frames wire h hq)))
  exact (wp_bind ..).mpr (wp_mono (fun _ _ hq => h.quiet hq) (fun _ _ hq => h.quiet hq)
    ((quiet_startAutomaticBoundaryContainment now).run c₁))

theorem observeAdapterReady_frames {now deadline : MonotonicTick} {reads : List ReadAnswer}
    {ownsGroup : Option Bool} (h : Framed wire c)
    (hq : c.lifecycle=.awaitingAdapterReady → Hushed c reads) :
    Frames wire (observeAdapterReady wire now deadline reads ownsGroup) c := by
  simp only [Frames,observeAdapterReady,wp_bind,wp_get,wp_ensure]
  refine ⟨fun hl => wp_mono (fun r c₁ hr => ?_) (fun _ _ h => h)
    (readContained_frames wire now h (hq hl)),fun _ => h⟩
  refine frames_quiet ?_ hr.1
  rcases r with ⟨outbound,reads'⟩
  cases outbound with
  | notReady => exact .ite (quiet_contain ..) (.pure _)
  | observation o =>
    refine quiet_peerPhase.bind (fun phase => .ite (quiet_contain ..) ?_)
    cases ownsGroup with
    | none => exact quiet_contain ..
    | some owns =>
      exact .ite (quiet_contain ..) (Keeps.bind (.modify (fun _ => rfl)) (fun _ =>
        Keeps.get.bind (fun _ => .pure _)))

theorem readOrContain_frames {now : MonotonicTick} {reads : List ReadAnswer} (h : Framed wire c)
    (hq : Hushed c reads) : Frames wire (readOrContain wire now reads) c := by
  refine (wp_bind ..).mpr (wp_mono (fun r c₁ hr => ?_) (fun _ _ h => h)
    (readContained_frames wire now h hq))
  refine frames_quiet ?_ hr.1
  rcases r with ⟨outbound,reads'⟩
  cases outbound with
  | notReady => exact .pure _
  | observation o =>
    exact (quiet_startAutomaticBoundaryContainment now).when.bind (fun _ => .pure _)

theorem observeLiveOutput_frames {now : MonotonicTick} {reads : List ReadAnswer} (h : Framed wire c)
    (hq : Hushed c reads) : Frames wire (observeLiveOutput wire now reads) c := by
  refine (readOrContain_frames wire h hq).bind (fun r => ?_)
  rcases r with ⟨outbound,reads'⟩
  cases outbound with
  | notReady => exact .pure _
  | observation o => exact .pure _

theorem observeDisposalOutput_frames {now deadline : MonotonicTick} {reads : List ReadAnswer}
    (h : Framed wire c) (hq : c.lifecycle=.quiescing → c.pendingControl=none → Hushed c reads) :
    Frames wire (observeDisposalOutput wire now deadline reads) c := by
  simp only [Frames,observeDisposalOutput,wp_bind,wp_get,wp_ensure]
  refine ⟨fun hl => ?_,fun _ => h⟩
  split
  · exact h
  · next hn =>
    have hnone : c.pendingControl=none := by simpa using hn
    refine Frames.bind (readOrContain_frames wire h (hq hl hnone)) (fun r => ?_)
    rcases r with ⟨outbound,reads'⟩
    cases outbound with
    | notReady => exact .ite (quiet_contain ..) (.pure _)
    | observation o =>
      refine quiet_peerPhase.bind (fun phase => Keeps.bind (.when (.modify (fun _ => ?_)))
        (fun _ => .pure _))
      rfl

/-- The reads go on only after a record. -/
theorem sessionReadyLoop_frames {now deadline : MonotonicTick} (n : Nat) {reads : List ReadAnswer}
    (h : Framed wire c) (hq : Hushed c reads) :
    Frames wire (sessionReadyLoop wire now deadline n reads) c := by
  induction n generalizing c reads with
  | zero => exact frames_quiet (quiet_contain ..) h
  | succ n ih =>
    refine (wp_bind ..).mpr (wp_mono (fun r c₁ hr => ?_) (fun _ _ h => h)
      (readContained_frames wire now h hq))
    rcases r with ⟨outbound,reads'⟩
    cases outbound with
    | notReady => exact frames_quiet (.ite (quiet_contain ..) (.pure _)) hr.1
    | observation o =>
      have hfree := hr.2 ⟨o,rfl⟩
      refine (wp_bind ..).mpr (wp_mono (fun phase c₂ hq => ?_) (fun _ _ hq => hr.1.quiet hq)
        (quiet_peerPhase.run c₁))
      have hframed := hr.1.quiet hq
      have hhushed : Hushed c₂ reads' := by
        intro ho
        rw [hq.parts.1,hfree] at ho
        cases ho
      split
      · exact frames_quiet (quiet_contain ..) hframed
      · split
        · exact frames_quiet (Keeps.bind (.modify (fun _ => rfl)) (fun _ => .pure _)) hframed
        · exact ih hframed hhushed

theorem observeSessionReady_frames {now deadline : MonotonicTick} {reads : List ReadAnswer}
    (h : Framed wire c) (hq : c.lifecycle=.createSent → c.pendingControl=none → Hushed c reads) :
    Frames wire (observeSessionReady wire now deadline reads) c := by
  simp only [Frames,observeSessionReady,wp_bind,wp_get,wp_ensure]
  refine ⟨fun hl => ?_,fun _ => h⟩
  split
  · exact h
  · next hn =>
    have hnone : c.pendingControl=none := by simpa using hn
    exact sessionReadyLoop_frames wire _ h (hq hl hnone)

/-- The drain goes on only after a record, too. -/
theorem drainLoop_frames (n : Nat) {reads : List ReadAnswer} {contained : Bool} (h : Framed wire c)
    (hq : Hushed c reads) : Frames wire (drainLoop wire n reads contained) c := by
  induction n generalizing c reads contained with
  | zero => exact h
  | succ n ih =>
    refine (wp_bind ..).mpr ((wp_attempt _).mpr (wp_mono (fun r c₁ ht => ?_) (fun e c₁ ht => ?_)
      (readBoundedRecord_wp h.looked hq)))
    · rcases r with ⟨record,reads'⟩
      cases record with
      | eof =>
        have hframed : Framed wire c₁ := h.took rfl ht
        exact hframed
      | notReady =>
        have hframed : Framed wire c₁ := h.took rfl ht
        exact frames_quiet (Keeps.bind (.modify (fun _ => rfl)) (fun _ => .pure _)) hframed
      | frame record =>
        have hnext (contained : Bool) (c₂ : ManagedPiChild)
            (hf : Framed wire c₂ ∧ overrun c₂.looked=false) :
            Frames wire (drainLoop wire n reads' contained) c₂ :=
          ih hf.1 (fun ho => by rw [hf.2] at ho; cases ho)
        have hhanded := handed_wp h rfl ht
        refine (wp_bind ..).mpr ?_
        rw [wp_get]
        cases hp : c₁.peer with
        | none =>
          obtain ⟨s',hlooked,_,_,hover⟩ := ht
          refine hnext true c₁ ⟨framed_of hlooked (fun p hp' => ?_),?_⟩
          · rw [hp] at hp'
            cases hp'
          · rw [hlooked.looked]
            exact hover rfl
        | some p =>
          refine (wp_bind ..).mpr (wp_mono (fun o c₂ ho => ?_) (fun _ _ ho => ho) hhanded)
          cases o with
          | ok _ => exact hnext contained c₂ ho
          | error _ => exact hnext true c₂ ho
    · have hframed : Framed wire c₁ := h.took rfl ht
      have hclosed : Keeps Quiet (do
          Handler.modify (fun c => {c with lifecycle := .contained})
          Pure.pure true : Action Bool) := Keeps.bind (.modify (fun _ => rfl)) (fun _ => .pure _)
      split
      · next heq => cases heq
      · next heq => cases heq
      · next heq => cases heq
      · exact frames_quiet hclosed hframed
      · exact frames_quiet hclosed hframed
      · exact frames_quiet (.fail _) hframed

theorem completeReapAfterGroupAbsent_frames {status : ExitStatus} {before after : ProcessGroupLiveness}
    {os : FinalAnswers} (h : Framed wire c) (hq : Hushed c os.reads) :
    Frames wire (completeReapAfterGroupAbsent wire status before after os) c := by
  have hdrain : Frames wire (drainStdoutAfterExit wire os) c := by
    simp only [Frames,drainStdoutAfterExit,wp_bind,wp_get,wp_ensure]
    exact ⟨fun _ => ⟨fun _ => drainLoop_frames wire _ h hq,fun _ => h⟩,fun _ => h⟩
  refine hdrain.bind (fun _ => quiet_observeFinalEof.bind (fun _ =>
    (quiet_takeStderrSnapshotAfterReap os).bind (fun _ => Keeps.get.bind (fun c => ?_))))
  exact Keeps.bind (.modify (fun _ => rfl)) (fun _ => .pure _)

theorem completeReap_frames {status : ExitStatus} {now : MonotonicTick} {os : ReapAnswers}
    (h : Framed wire c) (hq : Hushed c os.final.reads) :
    Frames wire (completeReap wire status now os) c := by
  refine frames_after (.modify (fun _ => rfl)) h (fun _ c₁ hq₁ h₁ => ?_)
  refine frames_after (quiet_groupLiveness _) h₁ (fun before c₂ hq₂ h₂ => ?_)
  refine frames_after ((quiet_signalGroup ..).bind (fun _ => .pure _)).when h₂ (fun _ c₃ hq₃ h₃ => ?_)
  refine frames_after (quiet_groupLiveness _) h₃ (fun after c₄ hq₄ h₄ => ?_)
  exact completeReapAfterGroupAbsent_frames wire h₄ ((((hq.quiet hq₁).quiet hq₂).quiet hq₃).quiet hq₄)

/-- What the wait answers is that the child has ended. -/
def exits (wait : Option (Option ExitStatus)) (c : ManagedPiChild) : Bool :=
  match (OwnedNativeChildProcess.pollDirectWait wait c.nativeChild).1 with
  | .ok (some _) => true
  | _ => false

theorem tryReap_frames {now : MonotonicTick} {wait : Option (Option ExitStatus)} {os : ReapAnswers}
    (h : Framed wire c) (hq : c.completedReceipt=none → c.exits wait=true → Hushed c os.final.reads) :
    Frames wire (tryReap wire now wait os) c := by
  refine (wp_bind ..).mpr ?_
  rw [wp_get]
  cases hr : c.completedReceipt with
  | some r => exact h
  | none =>
    have hpoll : wp (onProcess (OwnedNativeChildProcess.pollDirectWait wait))
        (fun status _ => status.isSome=true → c.exits wait=true) (fun _ _ => True) c := by
      rw [onProcess,wp_within,wp_iff]
      refine ⟨fun status hs hsome => ?_,fun _ _ => trivial⟩
      obtain ⟨st,rfl⟩ := Option.isSome_iff_exists.mp hsome
      rw [exits,hs]
    refine (wp_bind ..).mpr (wp_mono (fun status c₁ hs => ?_) (fun _ _ hs => h.quiet hs.1)
      (wp_and ((quiet_pollDirectWait wait).run c) hpoll))
    cases status with
    | none => exact h.quiet hs.1
    | some status =>
      exact (completeReap_frames wire (h.quiet hs.1) ((hq hr (hs.2 rfl)).quiet hs.1)).bind
        (fun _ => .pure _)

theorem waitAndReap_frames {now : MonotonicTick} {wait : Option (Option ExitStatus)}
    {os : ReapAnswers} (h : Framed wire c)
    (hq : c.completedReceipt=none → (c.isAutomatic=true → c.exits wait=true) → Hushed c os.final.reads) :
    Frames wire (waitAndReap wire now wait os) c := by
  refine (wp_bind ..).mpr ?_
  rw [wp_get]
  cases hr : c.completedReceipt with
  | some r => exact h
  | none =>
    simp only
    split
    · refine (tryReap_frames wire h (fun _ he => hq hr (fun _ => he))).bind (fun r => ?_)
      cases r with
      | none => exact .fail _
      | some r => exact .pure _
    · next hauto =>
      have hhushed := hq hr (fun ha => absurd ha hauto)
      exact frames_after (quiet_waitDirect _) h (fun status c₁ hq₁ h₁ =>
        completeReap_frames wire h₁ (hhushed.quiet hq₁))

theorem completeDeferredReap_frames {probe : KillAnswer} {os : FinalAnswers} (h : Framed wire c)
    (hq : c.completedReceipt=none → c.pendingDirectReap.isSome=true → probe=.esrch →
      Hushed c os.reads) : Frames wire (completeDeferredReap wire probe os) c := by
  refine (wp_bind ..).mpr ?_
  rw [wp_get]
  cases hr : c.completedReceipt with
  | some r => exact h
  | none =>
    cases hp : c.pendingDirectReap with
    | none => exact h
    | some pending =>
      refine frames_after (.modify (fun _ => rfl)) h (fun _ c₁ hq₁ h₁ => ?_)
      refine (wp_bind ..).mpr ((wp_lift _).mpr ⟨fun after ha => ?_,fun _ _ => h₁⟩)
      split
      · exact frames_quiet (Keeps.bind (.modify (fun _ => rfl)) (fun _ => .fail _)) h₁
      · next hn =>
        have hprobe : probe=.esrch := by
          rw [not_not.mp hn] at ha
          cases probe <;> first | rfl | cases ha
        have hhushed := hq hr (by rw [hp]; rfl) hprobe
        exact completeReapAfterGroupAbsent_frames wire h₁ (hhushed.quiet hq₁)

end ManagedPiChild

section Runs
open Handler ManagedPiChild
variable {wire : Wire} {c c' : ManagedPiChild} {h h' : List (Entry PiCall SupervisionError PiAnswer)}

/-- The answers of a call that reads the stream on this child, if it does. -/
def PiCall.reads (c : ManagedPiChild) : PiCall → Option (List ReadAnswer)
  | observeAdapterReady _ _ reads _ => if c.lifecycle=.awaitingAdapterReady then some reads else none
  | observeSessionReady _ _ reads =>
    if c.lifecycle=.createSent ∧ c.pendingControl.isNone then some reads else none
  | observeDisposalOutput _ _ reads =>
    if c.lifecycle=.quiescing ∧ c.pendingControl.isNone then some reads else none
  | observeLiveOutput _ reads => some reads
  | driveCancellation _ wait os _ _ | pollReap _ wait os =>
    if c.completedReceipt.isNone ∧ c.exits wait=true then some os.final.reads else none
  | waitAndReap _ wait os =>
    if c.completedReceipt.isNone ∧ (c.isAutomatic=true → c.exits wait=true) then some os.final.reads
    else none
  | completeDeferredReap probe os =>
    if c.completedReceipt.isNone ∧ c.pendingDirectReap.isSome ∧ probe=.esrch then some os.reads
    else none
  | _ => none

/-- A call that keeps to the records: it meets no newline after an oversized record, and the peer
is not made after records were taken. -/
def PiCall.framed (c : ManagedPiChild) (call : PiCall) : Bool :=
  (call.reads c).all (fun reads => !overrun c.looked || !(c.buffer++chunks reads).contains 10) &&
    match call with
    | finishInertSetup .. => decide (heads c.looked=[])
    | _ => true

theorem PiCall.framed_hushed {call : PiCall} (hf : call.framed c=true) {reads : List ReadAnswer}
    (hr : call.reads c=some reads) : Hushed c reads := by
  intro ho hmem
  have hall := (Bool.and_eq_true_iff.mp hf).1
  rw [hr,Option.all_some,ho] at hall
  simp [List.mem_append.mp hmem] at hall

theorem answering_frames {α : Type} {m : ManagedPiChild.Action α} (f : α → PiAnswer)
    (hm : Frames wire m c) : Frames wire (answering f m) c := hm.bind (fun _ => .pure _)

theorem answering_quiet {α : Type} {m : ManagedPiChild.Action α} (f : α → PiAnswer) (hm : Keeps Quiet m)
    (hc : Framed wire c) : Frames wire (answering f m) c :=
  frames_quiet (hm.bind (fun _ => .pure _)) hc

theorem finishInertSetup_frames {now : MonotonicTick} {stdin stdout : Bool} (hc : Framed wire c)
    (hnone : heads c.looked=[]) : Frames wire (ManagedPiChild.finishInertSetup now stdin stdout) c := by
  simp only [Frames,ManagedPiChild.finishInertSetup,wp_bind,wp_get,wp_ensure]
  refine ⟨fun _ => ?_,fun _ => hc⟩
  split
  · exact frames_quiet (quiet_contain ..) hc
  · refine framed_of (s := c.looked) ⟨hc.looked.stream,hc.looked.opened⟩ (fun p hp => ?_)
    cases hp
    rw [hnone]
    rfl

/-- Every call that keeps to the records leaves the peer with whole ones. -/
theorem PiCall.run_frames (hc : Framed wire c) (call : PiCall) (hf : call.framed c=true) :
    Frames wire (call.run wire) c := by
  have hushed {reads : List ReadAnswer} (hr : call.reads c=some reads) := PiCall.framed_hushed hf hr
  cases call with
  | finishInertSetup now stdin stdout =>
    have hnone := of_decide_eq_true (Bool.and_eq_true_iff.mp hf).2
    exact answering_frames _ (finishInertSetup_frames hc hnone)
  | containBoundaryFailure now =>
    exact answering_quiet _ (quiet_startAutomaticBoundaryContainment now) hc
  | observeAdapterReady now deadline reads ownsGroup =>
    exact answering_frames _ (observeAdapterReady_frames wire hc (fun hl => hushed (if_pos hl)))
  | sendCreateSession gate now deadline os =>
    exact answering_quiet _ (quiet_sendCreateSession wire ..) hc
  | observeSessionReady now deadline reads =>
    exact answering_frames _ (observeSessionReady_frames wire hc
      (fun hl hn => hushed (if_pos ⟨hl,by rw [hn]; rfl⟩)))
  | sendPrompt correlation purpose text now deadline os =>
    exact answering_quiet _ (Keeps.get.bind (fun _ => (Keeps.ensure _ _).bind (fun _ =>
      quiet_send wire ..))) hc
  | sendForumToolResult correlation toolCall result isError now deadline os =>
    exact answering_quiet _ (Keeps.get.bind (fun _ => (Keeps.ensure _ _).bind (fun _ =>
      quiet_send wire ..))) hc
  | sendDispose correlation reason now deadline os =>
    exact answering_quiet _ (quiet_sendDispose wire ..) hc
  | observeDisposalOutput now deadline reads =>
    exact answering_frames _ (observeDisposalOutput_frames wire hc
      (fun hl hn => hushed (if_pos ⟨hl,by rw [hn]; rfl⟩)))
  | observeLiveOutput now reads =>
    exact answering_frames _ (observeLiveOutput_frames wire hc (hushed rfl))
  | driveControlWrite now os =>
    exact answering_quiet _ (Keeps.get.bind (fun _ => (Keeps.ensure _ _).bind (fun _ =>
      quiet_orContain now (quiet_flushPendingControl now os)))) hc
  | requestCancellation request now os =>
    exact answering_quiet _ (quiet_requestCancellation wire request now os) hc
  | driveCancellation now wait os term kill =>
    refine answering_frames _ ((tryReap_frames wire hc
      (fun hn he => hushed (if_pos ⟨by rw [hn]; rfl,he⟩))).bind (fun r => ?_))
    cases r with
    | none => exact (quiet_advanceCancellationWithoutReap now term kill).bind (fun _ => .pure _)
    | some r => exact .pure _
  | driveCancellationWithoutReap now term kill =>
    exact answering_quiet _ (quiet_advanceCancellationWithoutReap now term kill) hc
  | pollDirectChildReap wait probe => exact answering_quiet _ (quiet_pollDirectChildReap wait probe) hc
  | issueLingeringGroupCleanup now os =>
    exact answering_quiet _ (quiet_issueLingeringGroupCleanup now os) hc
  | completeDeferredReap probe os =>
    exact answering_frames _ (completeDeferredReap_frames wire hc
      (fun hn hp he => hushed (if_pos ⟨by rw [hn]; rfl,hp,he⟩)))
  | pollReap now wait os =>
    exact answering_frames _ (tryReap_frames wire hc
      (fun hn he => hushed (if_pos ⟨by rw [hn]; rfl,he⟩)))
  | waitAndReap now wait os =>
    exact answering_frames _ (waitAndReap_frames wire hc
      (fun hn he => hushed (if_pos ⟨by rw [hn]; rfl,he⟩)))
  | readStderr answer => exact answering_quiet _ (.modify (quiet_readStderr answer)) hc

theorem registered_framed (hr : Registered c) : Framed wire c := by
  obtain ⟨request,nativeChild,stdin,stdout,stderr,rfl,-,hfresh⟩ := hr
  have hstream : stream (.registered request nativeChild stdin stdout stderr)=[]++
      buffer (.registered request nativeChild stdin stdout stderr) := by
    simp only [stream,ManagedPiChild.registered,hfresh,buffer]
    cases stdout <;> rfl
  have hpeer : (ManagedPiChild.registered request nativeChild stdin stdout stderr).peer=none := rfl
  refine framed_of (s := []) ⟨hstream,fun _ => rfl⟩ (fun p hp => ?_)
  rw [hpeer] at hp
  cases hp

end Runs

section Overlong
open Handler ManagedPiChild
variable {c : ManagedPiChild} {wire : Wire} {full : Bytes}

/-- The child after its reader has gone through a read, with what it keeps of the record. -/
def readFull (full kept : Bytes) (c : ManagedPiChild) : ManagedPiChild :=
  {consume full [] c with stdoutPartialRecord := kept}

theorem takeRecord_full (hclean : (10 : UInt8)∉full) : takeRecord full c=
    if maxJsonlFrameBytes+1 < c.stdoutPartialRecord.length+full.length then
      (.error .outboundFrameTooLarge,readFull full [] c)
    else (.ok none,readFull full (c.stdoutPartialRecord++full) c) := by
  have hlast : full.getLast?≠some 10 := fun h => hclean (List.mem_of_getLast? h)
  have hdrop : full.drop full.length=[] := List.drop_length
  have hfirst : firstLine full=full := by
    rw [firstLine,List.idxOf_eq_length hclean]
    exact List.take_of_length_le (Nat.le_succ _)
  simp only [takeRecord,hfirst,hdrop,bind,pure,Handler.andThen,Handler.modify,Handler.get,hlast,
    if_false]
  have hkept : (consume full [] c).stdoutPartialRecord=c.stdoutPartialRecord := rfl
  rw [hkept]
  split
  · rfl
  · rfl

/-- Full reads go on until the record is oversized, and then the reader has forgotten it. -/
theorem fillRecord_full (hclean : (10 : UInt8)∉full) (hne : full≠[]) (n : Nat)
    (hout : c.stdout=some [])
    (hfits : c.stdoutPartialRecord.length+n*full.length ≤ maxJsonlFrameBytes+1)
    (hover : maxJsonlFrameBytes+1 < c.stdoutPartialRecord.length+(n+1)*full.length) :
    ∃ c',fillRecord (List.replicate (n+1) (.chunk full)) c=(.error .outboundFrameTooLarge,c') ∧
      c'.stdout=some [] ∧ c'.stdoutPartialRecord=[] ∧ c'.peer=c.peer ∧
      c'.stream=c.stream++(List.replicate (n+1) full).flatten := by
  have hpipe : (c.pipeRead full).stdoutPartialRecord=c.stdoutPartialRecord := rfl
  have hstream (kept : Bytes) : (readFull full kept (c.pipeRead full)).stream=c.stream++full := rfl
  have hstep := takeRecord_full (c := c.pipeRead full) hclean
  rw [hpipe] at hstep
  induction n generalizing c with
  | zero =>
    rw [Nat.zero_add,Nat.one_mul] at hover
    rw [if_pos hover] at hstep
    refine ⟨readFull full [] (c.pipeRead full),?_,rfl,rfl,rfl,by simp [hstream]⟩
    simp only [List.replicate,fillRecord,bind,Handler.andThen,Handler.modify,hne,if_false,hstep]
  | succ n ih =>
    have hgrow : (n+1)*full.length=n*full.length+full.length := Nat.succ_mul ..
    have hgrow' : (n+1+1)*full.length=(n+1)*full.length+full.length := Nat.succ_mul ..
    have hlen : (c.stdoutPartialRecord++full).length=c.stdoutPartialRecord.length+full.length :=
      List.length_append
    rw [if_neg (by omega)] at hstep
    obtain ⟨c',hrun,hout',hpart',hpeer',hstream'⟩ :=
      ih (c := readFull full (c.stdoutPartialRecord++full) (c.pipeRead full)) rfl
        (by change (c.stdoutPartialRecord++full).length+n*full.length ≤ _; omega)
        (by change _<(c.stdoutPartialRecord++full).length+(n+1)*full.length; omega) rfl (fun _ => rfl)
        (takeRecord_full hclean)
    refine ⟨c',?_,hout',hpart',hpeer',?_⟩
    · rw [List.replicate_succ,fillRecord]
      simp only [bind,Handler.andThen,Handler.modify,hne,if_false,hstep]
      exact hrun
    · rw [hstream',hstream,List.replicate_succ (n := n+1),List.flatten_cons,List.append_assoc]

theorem readBoundedRecord_empty (hout : c.stdout=some []) (reads : List ReadAnswer) :
    readBoundedRecord reads c=fillRecord reads c := by
  simp only [readBoundedRecord,bind,Handler.andThen,Handler.get,hout]

/-- What a live call makes of its read stays so. -/
theorem observeLiveOutput_lasts {P : ManagedPiChild → Prop} {reads : List ReadAnswer}
    (now : MonotonicTick) (hP : ∀ t t',Quiet t t' → P t → P t')
    (hread : wp (readOneOutbound wire reads) (fun _ => P) (fun _ => P) c) :
    P (observeLiveOutput wire now reads c).2 := by
  have hcontained : wp (orContain now (readOneOutbound wire reads)) (fun _ => P) (fun _ => P) c := by
    refine (wp_bind ..).mpr ((wp_attempt _).mpr (wp_mono (fun _ _ h => h) (fun e t h => ?_) hread))
    exact wp_mono (fun _ _ hq => hP t _ hq h) (fun _ _ hq => hP t _ hq h) ((quiet_contain now e).run t)
  have hfenced : wp (readOrContain wire now reads) (fun _ => P) (fun _ => P) c := by
    refine Keeps.after hP hcontained (fun r => ?_)
    rcases r with ⟨outbound,_⟩
    cases outbound with
    | notReady => exact .pure _
    | observation o =>
      exact (quiet_startAutomaticBoundaryContainment now).when.bind (fun _ => .pure _)
  refine wp_state (Keeps.after hP hfenced (fun r => ?_))
  rcases r with ⟨outbound,_⟩
  cases outbound with
  | notReady => exact .pure _
  | observation o => exact .pure _

variable (wire) in
theorem observeLiveOutput_failed {reads : List ReadAnswer} {e : SupervisionError} {c₁ : ManagedPiChild}
    (now : MonotonicTick) (hout : c.stdout=some []) (hfill : fillRecord reads c=(.error e,c₁)) :
    Quiet c₁ (observeLiveOutput wire now reads c).2 := by
  have hread : readOneOutbound wire reads c=(.error e,c₁) := by
    simp only [readOneOutbound,bind,Handler.andThen,readBoundedRecord_empty hout,hfill]
  refine observeLiveOutput_lasts now (fun t t' hq h => trans_of Quiet h hq) ?_
  rw [wp,hread]
  exact refl_of Quiet c₁

variable (wire) in
/-- A line that comes when no record is open is handed to the peer, whatever becomes of it. -/
theorem observeLiveOutput_handed {line : Bytes} {p : LinePeer} (now : MonotonicTick)
    (hlen : line.length ≤ maxJsonlFrameBytes) (hclean : ∀ b∈line,b≠10 ∧ b≠13) (hout : c.stdout=some [])
    (hpart : c.stdoutPartialRecord=[]) (hp : c.peer=some p) :
    (observeLiveOutput wire now [.chunk (line++[10])] c).2.peer.map (fun p => p.outboundSeals)=
        some (p.outboundSeals++[wire.hash line]) ∧
      (observeLiveOutput wire now [.chunk (line++[10])] c).2.stream=c.stream++(line++[10]) := by
  have htake := takeRecord_whole (c := c.pipeRead (line++[10])) hlen hclean hpart
  have hfill : readBoundedRecord [.chunk (line++[10])] c=
      (.ok (.frame line,[]),(c.pipeRead (line++[10])).recordTaken (line++[10])) := by
    simp [readBoundedRecord_empty hout,fillRecord,bind,pure,Handler.andThen,Handler.ok,Handler.modify,
      htake]
  have hkeep (t t' : ManagedPiChild) (hq : Quiet t t')
      (h : t.peer.map (fun p => p.outboundSeals)=some (p.outboundSeals++[wire.hash line]) ∧
        t.stream=c.stream++(line++[10])) :
      t'.peer.map (fun p => p.outboundSeals)=some (p.outboundSeals++[wire.hash line]) ∧
        t'.stream=c.stream++(line++[10]) := by
    obtain ⟨-,-,hs,-,hseals⟩ := hq.parts
    exact ⟨hseals.trans h.1,hs.trans h.2⟩
  refine observeLiveOutput_lasts now hkeep ?_
  rw [readOneOutbound,wp_bind,wp,hfill]
  refine Keeps.after hkeep ?_ (fun o => (Keeps.lift _).bind (fun frame => quiet_peerPhase.bind
    (fun phase => ?_)))
  · have hpeer : ((c.pipeRead (line++[10])).recordTaken (line++[10])).peer=some p := hp
    have hseals := wp_state (seals_observed wire line p)
    simp only [wp,onPeer,hpeer]
    exact ⟨congrArg some hseals,rfl⟩
  · cases o with
    | ok o => exact .pure _
    | error e => exact .pure _

/-- The rest of an oversized record is handed to the peer as a record of its own. -/
theorem observeLiveOutput_overlong (line : Bytes) {p : LinePeer} (now later : MonotonicTick)
    (hfull : (10 : UInt8)∉full) (hne : full≠[]) (n : Nat) (hlen : line.length ≤ maxJsonlFrameBytes)
    (hclean : ∀ b∈line,b≠10 ∧ b≠13) (hout : c.stdout=some []) (hpart : c.stdoutPartialRecord=[])
    (hstream : c.stream=[]) (hp : c.peer=some p) (hfits : n*full.length ≤ maxJsonlFrameBytes+1)
    (hover : maxJsonlFrameBytes+1<(n+1)*full.length) {c' : ManagedPiChild}
    (hrun : c'=(observeLiveOutput wire later [.chunk (line++[10])] (observeLiveOutput wire now
      (List.replicate (n+1) (.chunk full)) c).2).2) : heads c'.stream=[] ∧
      ∃ p',c'.peer=some p' ∧ p'.outboundSeals=p.outboundSeals++[wire.hash line] := by
  obtain ⟨c₁,hfill,hout₁,hpart₁,hpeer₁,hstream₁⟩ := fillRecord_full (c := c) hfull hne n hout
    (by rw [hpart]; simpa using hfits) (by rw [hpart]; simpa using hover)
  have hquiet := observeLiveOutput_failed wire now hout hfill
  simp only [Quiet,output,Prod.mk.injEq,hout₁,hpart₁,hpeer₁,hstream₁,hp,hstream] at hquiet
  obtain ⟨hstream₂,hout₂,hpart₂,hpeer₂⟩ := hquiet
  obtain ⟨q,hq,hsame⟩ := Option.map_eq_some_iff.mp hpeer₂
  obtain ⟨hseals,hlast⟩ := observeLiveOutput_handed wire later hlen hclean hout₂ hpart₂ hq
  rw [← hrun] at hseals hlast
  rw [hstream₂,List.nil_append,← List.append_assoc] at hlast
  have hbytes : (10 : UInt8)∉(List.replicate (n+1) full).flatten++line := by
    simp only [List.mem_append,List.mem_flatten,not_or,not_exists,not_and]
    refine ⟨fun l hl => ?_,fun h => (hclean 10 h).1 rfl⟩
    rw [List.eq_of_mem_replicate hl]
    exact hfull
  have hlong : maxJsonlFrameBytes<
      ([] : Bytes).length+((List.replicate (n+1) full).flatten++line).length := by
    simp only [List.length_append,List.length_flatten,List.map_replicate,List.sum_replicate_nat]
    omega
  constructor
  · rw [hlast]
    exact (heads_long (s := []) rfl hbytes hlong).1
  · obtain ⟨p',hp',he⟩ := Option.map_eq_some_iff.mp hseals
    exact ⟨p',hp',by rw [he,hsame]⟩

def fullRead : Bytes := List.replicate 8192 97

theorem fullRead_length : fullRead.length=8192 := List.length_replicate

theorem fullRead_clean : (10 : UInt8)∉fullRead := by
  intro h
  have hb := List.eq_of_mem_replicate h
  simp at hb

theorem fullRead_ne : fullRead≠[] := by
  intro h
  have hlen := fullRead_length
  rw [h] at hlen
  cases hlen

/-- The calls that make a child's peer and read its output twice. -/
def livedCalls (reads more : List ReadAnswer) : List PiCall :=
  [.finishInertSetup (tick 0) true true,
   .observeLiveOutput (tick 1) reads,
   .observeLiveOutput (tick 2) more]

theorem livedCalls_child (reads more : List ReadAnswer) :
    (trace (PiCall.run openedWire) [] openedChild (livedCalls reads more)).2=
      (ManagedPiChild.observeLiveOutput openedWire (tick 2) more
        (ManagedPiChild.observeLiveOutput openedWire (tick 1) reads awaitingChild).2).2 := by
  simp only [livedCalls,trace,PiCall.run,answering_state,openedChild_awaiting]

/-- Full reads without a newline, one more than a record can have, and then the end of the line. -/
def overlongCalls : List PiCall :=
  livedCalls (List.replicate (128+1) (.chunk fullRead)) [.chunk ([120]++[10])]

def overlong : List (Entry PiCall SupervisionError PiAnswer) × ManagedPiChild :=
  trace (PiCall.run openedWire) [] openedChild overlongCalls

theorem overlong_run : PiRunWith openedWire (fun _ _ _ => True) overlong.1 overlong.2 :=
  Reached.trace (fun _ _ _ _ => trivial) overlongCalls (.start openedChild_registered) (passes_true _)

end Overlong
end Society.Custody
