import Society.Custody.PiSupervisor

namespace Society.Custody
open Society.Boundary Society.Stateful Society.Coding

/-! What the operations on a Pi child leave as it is. -/

/-- No operation leads from the lifecycle back to a session. -/
def ChildLifecycle.closed : ChildLifecycle → Bool
  | .awaitingCooperativeAbort | .awaitingTermination | .awaitingKill | .reaped | .contained => true
  | _ => false

namespace ManagedPiChild
open Handler

/-- The bytes that the pipe of the child took. -/
def written (c : ManagedPiChild) : Bytes := c.nativeChild.record.stdin

/-- The bytes of the frames that the peer admitted. -/
def admittedBytes (c : ManagedPiChild) : Bytes := (c.admitted.map (·.2)).flatten

/-- What the pipe has still to take. -/
def left (c : ManagedPiChild) : Bytes :=
  match c.pendingControl with
  | none => []
  | some p => p.bytes.drop p.nextByteOffset

/-- The mode and the request of a cancellation. -/
def lineage (c : ManagedPiChild) : Option (CancellationMode × Option CancellationRequest) :=
  c.cancellation.map (fun p => (p.mode,p.explicitRequest))

/-- The control of the child is as it was, save that its writer may be closed and its lifecycle
ended. -/
structure Settled (c c' : ManagedPiChild) : Prop where
  admitted : c'.admitted=c.admitted
  written : c'.written=c.written
  pending : c'.pendingControl=c.pendingControl
  stdin : c'.stdin=true → c.stdin=true
  lineage : c'.lineage=c.lineage
  lifecycle : c'.lifecycle=c.lifecycle ∨ c'.lifecycle.closed=true
  peer : c.peer.isSome=true → c'.peer.isSome=true

variable {c c₁ c' : ManagedPiChild} {α β : Type}

theorem Settled.refl (c : ManagedPiChild) : Settled c c := ⟨rfl,rfl,rfl,id,rfl,.inl rfl,id⟩

theorem Settled.trans (h : Settled c c₁) (h' : Settled c₁ c') : Settled c c' where
  admitted := h'.admitted.trans h.admitted
  written := h'.written.trans h.written
  pending := h'.pending.trans h.pending
  stdin hs := h.stdin (h'.stdin hs)
  lineage := h'.lineage.trans h.lineage
  lifecycle := by
    rcases h'.lifecycle with hl | hl
    · rw [hl]
      exact h.lifecycle
    · exact .inr hl
  peer hp := h'.peer (h.peer hp)

/-- An operation that settles, whatever it answers. -/
structure Settles (m : Action α) : Prop where
  run : ∀ c,wp m (fun _ c' => Settled c c') (fun _ c' => Settled c c') c

theorem Settles.bind {m : Action α} {f : α → Action β} (hm : Settles m) (hf : ∀ a,Settles (f a)) :
    Settles (m>>=f) := by
  refine ⟨fun c => (wp_bind ..).mpr (wp_mono (fun a c₁ h => ?_) (fun _ _ h => h) (hm.run c))⟩
  exact wp_mono (fun _ _ h' => h.trans h') (fun _ _ h' => h.trans h') ((hf a).run c₁)

theorem Settles.pure (a : α) : Settles (Pure.pure a : Action α) := ⟨fun c => .refl c⟩

theorem Settles.fail (e : SupervisionError) : Settles (Handler.fail e : Action α) := ⟨fun c => .refl c⟩

theorem Settles.get : Settles (Handler.get : Action ManagedPiChild) :=
  ⟨fun c => .refl c⟩

theorem Settles.ensure (p : Prop) [Decidable p] (e : SupervisionError) :
    Settles (Handler.ensure p e : Action Unit) :=
  ⟨fun c => (wp_ensure p e).mpr ⟨fun _ => .refl c,fun _ => .refl c⟩⟩

theorem Settles.lift (r : Except SupervisionError α) : Settles (Handler.lift r : Action α) :=
  ⟨fun c => (wp_lift r).mpr ⟨fun _ _ => .refl c,fun _ _ => .refl c⟩⟩

theorem Settles.modify {f : ManagedPiChild → ManagedPiChild} (hf : ∀ c,Settled c (f c)) :
    Settles (Handler.modify f : Action Unit) := ⟨hf⟩

theorem Settles.when {p : Prop} [Decidable p] {m : Action Unit} (hm : Settles m) :
    Settles (Handler.when p m) :=
  ⟨fun c => (wp_when p m).mpr ⟨fun _ => hm.run c,fun _ => .refl c⟩⟩

theorem Settles.attempt {m : Action α} (hm : Settles m) : Settles (Handler.attempt m) :=
  ⟨fun c => (wp_attempt m).mpr (hm.run c)⟩

theorem Settles.ite {p : Prop} [Decidable p] {m n : Action α} (hm : Settles m) (hn : Settles n) :
    Settles (if p then m else n) := by
  split
  · exact hm
  · exact hn

theorem settles_onPeer (m : LinePeer.Action α) : Settles (onPeer m) := by
  refine ⟨fun c => ?_⟩
  cases hp : c.peer with
  | none =>
    simp only [wp,onPeer,hp]
    exact .refl c
  | some p =>
    simp only [wp,onPeer,hp]
    exact ⟨rfl,rfl,rfl,id,rfl,.inl rfl,fun _ => rfl⟩

theorem settles_peerPhase : Settles peerPhase := by
  refine Settles.get.bind (fun c => ?_)
  split
  · exact .fail _
  · exact .pure _

/-- An operation on the process that writes nothing. -/
theorem settles_onProcess {m : OwnedNativeChildProcess.Action α}
    (hm : ∀ p,wp m (fun _ p' => p'.record.stdin=p.record.stdin)
      (fun _ p' => p'.record.stdin=p.record.stdin) p) : Settles (onProcess m) := by
  refine ⟨fun c => ?_⟩
  rw [onProcess,wp_within]
  have hsame (p' : OwnedNativeChildProcess) (hp : p'.record.stdin=c.nativeChild.record.stdin) :
      Settled c {c with nativeChild := p'} := ⟨rfl,hp,rfl,id,rfl,.inl rfl,id⟩
  exact wp_mono (fun _ p' => hsame p') (fun _ p' => hsame p') (hm c.nativeChild)

theorem settles_signal (action : SignalAction) (os : SignalAnswers) :
    Settles (onProcess (OwnedNativeChildProcess.signal action os)) :=
  settles_onProcess (fun _ => wp_signal (fun _ _ => rfl) (fun _ _ _ => rfl) (fun _ _ => rfl))

theorem settles_pollDirectWait (wait : Option (Option ExitStatus)) :
    Settles (onProcess (OwnedNativeChildProcess.pollDirectWait wait)) := by
  refine settles_onProcess (fun p => ?_)
  simp only [OwnedNativeChildProcess.pollDirectWait,wp_bind,wp_get]
  split
  · rfl
  · rfl
  · rfl

theorem settles_waitDirect (wait : Option ExitStatus) :
    Settles (onProcess (OwnedNativeChildProcess.waitDirect wait)) := by
  refine settles_onProcess (fun p => ?_)
  simp only [OwnedNativeChildProcess.waitDirect,wp_bind,wp_get]
  split
  · rfl
  · rfl
  · rfl

theorem settles_groupLiveness (probe : KillAnswer) : Settles (groupLiveness probe) := .lift _

theorem settles_signalGroup (action : SignalAction) (sent : SignalDelivery) (now : MonotonicTick)
    (os : SignalAnswers) : Settles (signalGroup action sent now os) := by
  refine (settles_signal action os).bind (fun o => Settles.bind (.modify (fun c => ?_)) (fun _ => .pure _))
  exact ⟨rfl,rfl,rfl,id,rfl,.inl rfl,id⟩

section Reading

theorem settles_takeRecord (available : Bytes) : Settles (takeRecord available) := by
  have hsame (partialRecord : Bytes) (c : ManagedPiChild) :
      Settled c {c with stdoutPartialRecord := partialRecord} := ⟨rfl,rfl,rfl,id,rfl,.inl rfl,id⟩
  refine Settles.bind (.modify (fun c => ⟨rfl,rfl,rfl,id,rfl,.inl rfl,id⟩)) (fun _ => ?_)
  refine Settles.get.bind (fun c => .ite ?_ (.ite ?_ ?_))
  · exact Settles.bind (.modify (hsame _)) (fun _ => .fail _)
  · exact Settles.bind (.modify (hsame _)) (fun _ => .pure _)
  · exact Settles.bind (.modify (fun c => hsame _ c)) (fun _ => .pure _)

theorem settles_fillRecord (reads : List ReadAnswer) : Settles (fillRecord reads) := by
  induction reads with
  | nil => exact .pure _
  | cons a reads ih =>
    cases a with
    | wouldBlock => exact .pure _
    | failed => exact .fail _
    | chunk bytes =>
      refine Settles.bind (.modify (fun c => ⟨rfl,rfl,rfl,id,rfl,.inl rfl,id⟩)) (fun _ => .ite ?_ ?_)
      · exact Settles.get.bind (fun c => (Settles.ensure _ _).bind (fun _ => .pure _))
      · refine (settles_takeRecord bytes).bind (fun record => ?_)
        cases record with
        | none => exact ih
        | some record => exact .pure _

theorem settles_readBoundedRecord (reads : List ReadAnswer) : Settles (readBoundedRecord reads) := by
  refine Settles.get.bind (fun c => ?_)
  split
  · exact .fail _
  · exact settles_fillRecord reads
  · refine (settles_takeRecord _).bind (fun record => ?_)
    cases record with
    | none => exact settles_fillRecord reads
    | some record => exact .pure _

variable (wire : Wire)

theorem settles_readOneOutbound (reads : List ReadAnswer) : Settles (readOneOutbound wire reads) := by
  refine (settles_readBoundedRecord reads).bind (fun r => ?_)
  rcases r with ⟨record,reads⟩
  cases record with
  | notReady => exact .pure _
  | eof => exact (settles_onPeer _).bind (fun _ => .fail _)
  | frame record =>
    refine (settles_onPeer _).bind (fun o => (Settles.lift _).bind (fun frame => ?_))
    refine settles_peerPhase.bind (fun phase => ?_)
    cases o with
    | ok o => exact .pure _
    | error e => exact .pure _

end Reading
section Reaping
variable (wire : Wire)

theorem settles_drainLoop (n : Nat) (reads : List ReadAnswer) (contained : Bool) :
    Settles (drainLoop wire n reads contained) := by
  induction n generalizing reads contained with
  | zero => exact .pure _
  | succ n ih =>
    refine (settles_readBoundedRecord reads).attempt.bind (fun r => ?_)
    have hclosed : Settles (do
        Handler.modify (fun c => {c with lifecycle := .contained})
        Pure.pure true : Action Bool) :=
      Settles.bind (.modify (fun c => ⟨rfl,rfl,rfl,id,rfl,.inr rfl,id⟩)) (fun _ => .pure _)
    split
    · refine Settles.get.bind (fun c => ?_)
      split
      · exact ih _ _
      · refine (settles_onPeer _).bind (fun o => ?_)
        cases o with
        | ok o => exact ih _ _
        | error e => exact ih _ _
    · exact .pure _
    · exact Settles.bind (.modify (fun c => ⟨rfl,rfl,rfl,id,rfl,.inl rfl,id⟩)) (fun _ => .pure _)
    · exact hclosed
    · exact hclosed
    · exact .fail _

theorem settles_drainStdoutAfterExit (os : FinalAnswers) : Settles (drainStdoutAfterExit wire os) :=
  Settles.get.bind (fun _ => (Settles.ensure _ _).bind (fun _ => (Settles.ensure _ _).bind
    (fun _ => settles_drainLoop wire _ _ _)))

theorem settles_observeFinalEof : Settles observeFinalEof := by
  refine Settles.get.bind (fun c => ?_)
  split
  · exact .pure _
  · refine .ite (.pure _) ((settles_onPeer _).bind (fun r => ?_))
    cases r with
    | ok r => exact .pure _
    | error e => exact .pure _

theorem settles_takeStderrSnapshotAfterReap (os : FinalAnswers) :
    Settles (takeStderrSnapshotAfterReap os) := by
  refine Settles.get.bind (fun c => ?_)
  split
  · exact .fail _
  · refine Settles.bind (.modify (fun c => ⟨rfl,rfl,rfl,id,rfl,.inl rfl,id⟩)) (fun _ => ?_)
    split
    · exact (Settles.ensure _ _).bind (fun _ => (Settles.ensure _ _).bind (fun _ =>
        (Settles.ensure _ _).bind (fun _ => .pure _)))
    · exact (Settles.ensure _ _).bind (fun _ => .pure _)

theorem settled_complete (r : SupervisionReceipt) (c : ManagedPiChild) : Settled c (c.complete r) := by
  refine ⟨rfl,rfl,rfl,id,rfl,.inr ?_,id⟩
  simp only [complete]
  split
  · rfl
  · rfl

theorem settles_completeReapAfterGroupAbsent (status : ExitStatus) (before after : ProcessGroupLiveness)
    (os : FinalAnswers) : Settles (completeReapAfterGroupAbsent wire status before after os) :=
  (settles_drainStdoutAfterExit wire os).bind (fun _ => settles_observeFinalEof.bind (fun _ =>
    (settles_takeStderrSnapshotAfterReap os).bind (fun _ => Settles.get.bind (fun _ =>
      Settles.bind (.modify (settled_complete _)) (fun _ => .pure _)))))

theorem settles_completeReap (status : ExitStatus) (now : MonotonicTick) (os : ReapAnswers) :
    Settles (completeReap wire status now os) := by
  refine Settles.bind (.modify (fun c => ⟨rfl,rfl,rfl,fun h => (Bool.noConfusion h),rfl,.inl rfl,id⟩)) (fun _ => ?_)
  refine (settles_groupLiveness _).bind (fun before => ?_)
  refine Settles.bind (.when ((settles_signalGroup ..).bind (fun _ => .pure _))) (fun _ => ?_)
  exact (settles_groupLiveness _).bind (fun after => settles_completeReapAfterGroupAbsent ..)

theorem settles_tryReap (now : MonotonicTick) (wait : Option (Option ExitStatus)) (os : ReapAnswers) :
    Settles (tryReap wire now wait os) := by
  refine Settles.get.bind (fun c => ?_)
  split
  · exact .pure _
  · refine (settles_pollDirectWait wait).bind (fun status => ?_)
    cases status with
    | none => exact .pure _
    | some status => exact (settles_completeReap ..).bind (fun _ => .pure _)

theorem settles_waitAndReap (now : MonotonicTick) (wait : Option (Option ExitStatus)) (os : ReapAnswers) :
    Settles (waitAndReap wire now wait os) := by
  refine Settles.get.bind (fun c => ?_)
  split
  · exact .pure _
  · refine .ite ((settles_tryReap ..).bind (fun r => ?_)) ?_
    · cases r with
      | none => exact .fail _
      | some r => exact .pure _
    · exact (settles_waitDirect _).bind (fun status => settles_completeReap ..)

theorem settles_escalate {action : SignalAction} {sent : SignalDelivery} {l : ChildLifecycle}
    {note : Bool → CancellationProgress → CancellationProgress} (hl : l.closed=true)
    (hnote : ∀ b p,(note b p).mode=p.mode ∧ (note b p).explicitRequest=p.explicitRequest)
    (now : MonotonicTick) (os : SignalAnswers) : Settles (escalate action sent l note now os) := by
  refine (settles_signalGroup ..).bind (fun outcome => ?_)
  refine ⟨fun c => ?_⟩
  rw [wp_bind,wp_get]
  split
  · exact Settled.refl c
  · next p hp =>
    refine ⟨rfl,rfl,rfl,id,?_,.inr hl,id⟩
    simp only [ManagedPiChild.lineage,hp,Option.map_some,(hnote _ p).1,(hnote _ p).2]

theorem termed_lineage (b : Bool) (p : CancellationProgress) :
    (p.termed b).mode=p.mode ∧ (p.termed b).explicitRequest=p.explicitRequest := ⟨rfl,rfl⟩

theorem killed_lineage (b : Bool) (p : CancellationProgress) :
    (p.killed b).mode=p.mode ∧ (p.killed b).explicitRequest=p.explicitRequest := ⟨rfl,rfl⟩

theorem settles_advanceCancellationWithoutReap (now : MonotonicTick) (term kill : SignalAnswers) :
    Settles (advanceCancellationWithoutReap now term kill) := by
  refine Settles.get.bind (fun c => ?_)
  split
  · exact .fail _
  · have hterm : Settles (escalate .terminate .termSent .awaitingTermination CancellationProgress.termed
        now term) := settles_escalate rfl termed_lineage now term
    have hkill : Settles (escalate .kill .killSent .awaitingKill CancellationProgress.killed now kill) :=
      settles_escalate rfl killed_lineage now kill
    exact .ite (.pure _) (hterm.when.bind (fun _ => Settles.get.bind (fun c => hkill.when)))

theorem settles_driveCancellation (now : MonotonicTick) (wait : Option (Option ExitStatus))
    (os : ReapAnswers) (term kill : SignalAnswers) :
    Settles (driveCancellation wire now wait os term kill) := by
  refine (settles_tryReap ..).bind (fun r => ?_)
  cases r with
  | none => exact (settles_advanceCancellationWithoutReap ..).bind (fun _ => .pure _)
  | some r => exact .pure _

theorem settles_pollDirectChildReap (wait : Option (Option ExitStatus)) (probe : KillAnswer) :
    Settles (pollDirectChildReap wait probe) := by
  refine Settles.get.bind (fun c => ?_)
  split
  · exact .pure _
  · refine (Settles.ensure _ _).bind (fun _ => (settles_pollDirectWait wait).bind (fun status => ?_))
    cases status with
    | none => exact .pure _
    | some status =>
      refine (settles_groupLiveness _).bind (fun l => Settles.get.bind (fun c => ?_))
      exact Settles.bind (.modify (fun c => ⟨rfl,rfl,rfl,id,rfl,.inl rfl,id⟩)) (fun _ => .pure _)

theorem settles_issueLingeringGroupCleanup (now : MonotonicTick) (os : SignalAnswers) :
    Settles (issueLingeringGroupCleanup now os) := by
  refine Settles.get.bind (fun c => ?_)
  split
  · exact .fail _
  · exact .ite (.pure _) ((Settles.ensure _ _).bind (fun _ => (settles_signalGroup ..).bind
      (fun _ => .pure _)))

theorem settles_completeDeferredReap (probe : KillAnswer) (os : FinalAnswers) :
    Settles (completeDeferredReap wire probe os) := by
  refine Settles.get.bind (fun c => ?_)
  have hpending (q : Option PendingDirectChildReap) :
      Settles (Handler.modify (fun c => {c with pendingDirectReap := q}) : Action Unit) :=
    .modify (fun c => ⟨rfl,rfl,rfl,id,rfl,.inl rfl,id⟩)
  split
  · exact .pure _
  · exact .fail _
  · refine (hpending none).bind (fun _ => (settles_groupLiveness _).bind (fun after => .ite ?_ ?_))
    · exact (hpending _).bind (fun _ => .fail _)
    · exact settles_completeReapAfterGroupAbsent ..

theorem settled_readStderr (answer : ReadAnswer) (c : ManagedPiChild) :
    Settled c (c.readStderr answer) := by
  unfold readStderr
  split
  · exact .refl c
  · split
    · exact .refl c
    · split
      all_goals exact ⟨rfl,rfl,rfl,id,rfl,.inl rfl,id⟩

end Reaping
end ManagedPiChild
end Society.Custody
