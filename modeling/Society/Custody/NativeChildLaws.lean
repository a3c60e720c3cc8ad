import Society.Custody.NativeChild

namespace Society.Custody
open Society.Boundary Society.Stateful Society.Coding

/-! What holds of a native child over every sequence of operations on it. -/

section Streams

/-- A capture that claims to be complete holds what its stream carried. -/
def StreamCapture.Faithful (c : StreamCapture) (carried : Bytes) : Prop :=
  c.retention=.complete → c.retainedBytes=carried

theorem StreamCapture.Faithful.observe {c : StreamCapture} {carried : Bytes} (h : c.Faithful carried)
    (cap : Nat) (bytes : Bytes) : (c.observe cap bytes).Faithful (carried++bytes) := by
  intro hr
  simp only [StreamCapture.observe] at hr ⊢
  split at hr
  · next hl =>
    have hc : c.retention=.complete := by
      unfold StreamCapture.counted at hr
      split at hr
      · exact hr
      · cases hr
    rw [hl,List.take_length,h hc]
  · cases hr

theorem StreamCapture.Faithful.ended {c : StreamCapture} {carried : Bytes} (h : c.Faithful carried) :
    c.Faithful (carried++[]) := by rwa [List.append_nil]

/-- What the capture still has room for. -/
def NativeStreamCapture.room (c : NativeStreamCapture) : Nat :=
  maxNativeChildStreamBytes-c.retainedBytes.length

theorem NativeStreamCapture.exceeded_observe (c : NativeStreamCapture) (bytes : Bytes) :
    (c.observe bytes).exceeded=(c.exceeded || decide (c.room<bytes.length)) := by
  have hm : Nat.min bytes.length (maxNativeChildStreamBytes-c.retainedBytes.length)≠bytes.length ↔
      c.room<bytes.length := by
    rw [show Nat.min=min from rfl,Nat.min_def]
    unfold room
    split <;> omega
  rw [Bool.eq_iff_iff]
  simp only [observe,Bool.or_eq_true,decide_eq_true_eq]
  exact or_congr_right hm

theorem NativeStreamCapture.room_observe {c : NativeStreamCapture} {bytes : Bytes}
    (h : bytes.length ≤ c.room) : (c.observe bytes).room=c.room-bytes.length := by
  unfold room at h
  have hm : Nat.min bytes.length (maxNativeChildStreamBytes-c.retainedBytes.length)=bytes.length :=
    Nat.min_eq_left h
  simp only [room,observe,StreamCapture.observe,hm,List.take_length,List.length_append]
  omega

/-- A capture that passed its bound has no room left. -/
def NativeStreamCapture.Bounded (c : NativeStreamCapture) : Prop := c.exceeded=true → c.room=0

theorem NativeStreamCapture.Bounded.observe {c : NativeStreamCapture} (h : c.Bounded) (bytes : Bytes) :
    (c.observe bytes).Bounded := by
  intro he
  rw [c.exceeded_observe,Bool.or_eq_true,decide_eq_true_eq] at he
  have hroom : c.room ≤ bytes.length := by
    rcases he with he | he
    · rw [h he]; exact Nat.zero_le _
    · exact Nat.le_of_lt he
  unfold room at hroom
  have hm : Nat.min bytes.length (maxNativeChildStreamBytes-c.retainedBytes.length)=
      maxNativeChildStreamBytes-c.retainedBytes.length := Nat.min_eq_right hroom
  simp only [room,NativeStreamCapture.observe,StreamCapture.observe,hm,List.length_append,List.length_take]
  omega

/-- The reads meet no error and stay within the room, up to where the drain stops. -/
def quiet : Nat → List ReadAnswer → Bool
  | _,[] => true
  | _,.wouldBlock::_ => true
  | _,.failed::_ => false
  | room,.chunk bytes::reads =>
    bytes=[] || (bytes.length ≤ room && quiet (room-bytes.length) reads)

/-- The reads meet no error. -/
def unfailing : Nat → List ReadAnswer → Bool
  | _,[] => true
  | _,.wouldBlock::_ => true
  | _,.failed::_ => false
  | room,.chunk bytes::reads =>
    bytes=[] || room<bytes.length || unfailing (room-bytes.length) reads

/-- The reads come to the end of the stream, or past the room. -/
def settles : Nat → List ReadAnswer → Bool
  | _,[] => false
  | _,.wouldBlock::_ => false
  | _,.failed::_ => false
  | room,.chunk bytes::reads =>
    bytes=[] || room<bytes.length || settles (room-bytes.length) reads

end Streams
section Effects
open Handler

variable {c c' : ManagedNativeChild} {E : SupervisionError → ManagedNativeChild → Prop}

namespace ManagedNativeChild

/-- The status and the liveness that a reap of the child has found. -/
def reap (c : ManagedNativeChild) : Option (ReapStatus × ProcessGroupLiveness) :=
  match c.completed,c.pendingReap with
  | some r,_ => some (r.status,r.groupLivenessBeforeCleanup)
  | none,some p => some (reapStatus p.status,p.groupLiveness)
  | none,none => none

/-- The child after a signal attempt with a receipt. -/
def signaled (r : SignalReceipt) (c : ManagedNativeChild) : ManagedNativeChild :=
  recordSignal r {c with nativeChild := c.nativeChild.attempted r.action}

theorem signal_wp {Q : NativeSignalGroupOutcome → ManagedNativeChild → Prop} {a : SignalAction}
    {os : SignalAnswers} (ha : os.accounted=true)
    (hQ : os.before≠.failed → ∀ o,Q o {c with nativeChild := c.nativeChild.attempted a})
    (hE : os.before=.failed → ∀ e,E e c) :
    wp (onProcess (OwnedNativeChildProcess.signal a os)) Q E c := by
  rw [onProcess,wp_within]
  refine wp_signal (fun hd o => hQ ?_ o) (fun _ hb e => hE hb e) (fun hf => ?_)
  · intro hb
    simp [SignalAnswers.decided,hb] at hd
  · rw [ha] at hf
    cases hf

theorem sendTerm_wp {Q : Unit → ManagedNativeChild → Prop} {now : MonotonicTick} {os : SignalAnswers}
    (ha : c.termSent=false → os.accounted=true) (hold : c.termSent=true → Q () c)
    (hnew : c.termSent=false → os.before≠.failed → ∀ r,r.action=.terminate →
      Q () {c.signaled r with termSent := true})
    (hE : c.termSent=false → os.before=.failed → ∀ e,E e c) : wp (sendTerm now os) Q E c := by
  simp only [sendTerm,wp_bind,wp_get]
  cases ht : c.termSent with
  | true =>
    rw [if_pos rfl]
    exact hold ht
  | false =>
    rw [if_neg (by decide)]
    simp only [wp_bind]
    refine signal_wp (ha ht) (fun hb o => ?_) (hE ht)
    exact hnew ht hb (signalReceipt o .terminate .termSent now) rfl

theorem sendKill_wp {Q : Unit → ManagedNativeChild → Prop} {now : MonotonicTick} {os : SignalAnswers}
    (ha : c.killSent=false → os.accounted=true) (hold : c.killSent=true → Q () c)
    (hnew : c.killSent=false → os.before≠.failed → ∀ r,r.action=.kill →
      Q () {c.signaled r with killSent := true})
    (hE : c.killSent=false → os.before=.failed → ∀ e,E e c) : wp (sendKill now os) Q E c := by
  simp only [sendKill,wp_bind,wp_get]
  cases ht : c.killSent with
  | true =>
    rw [if_pos rfl]
    exact hold ht
  | false =>
    rw [if_neg (by decide)]
    simp only [wp_bind]
    refine signal_wp (ha ht) (fun hb o => ?_) (hE ht)
    exact hnew ht hb (signalReceipt o .kill .killSent now) rfl

/-- The child after reads from its standard output. -/
structure Drained (c c' : ManagedNativeChild) : Prop where
  same : c'={c with stdoutCapture := c'.stdoutCapture,
                    nativeChild := {c.nativeChild with
                      record := {c.nativeChild.record with stdout := c'.nativeChild.record.stdout}}}
  faithful : c.stdoutCapture.Faithful c.nativeChild.record.stdout.carried →
    c'.stdoutCapture.Faithful c'.nativeChild.record.stdout.carried
  bounded : c.stdoutCapture.Bounded → c'.stdoutCapture.Bounded
  ended : c.nativeChild.record.stdout.ended=true → c'.nativeChild.record.stdout.ended=true

theorem Drained.refl (c : ManagedNativeChild) : Drained c c := ⟨rfl,id,id,id⟩

theorem Drained.trans {c₁ : ManagedNativeChild} (h : Drained c c₁) (h' : Drained c₁ c') :
    Drained c c' := by
  refine ⟨?_,fun hf => h'.faithful (h.faithful hf),fun hb => h'.bounded (h.bounded hb),
    fun he => h'.ended (h.ended he)⟩
  rw [h'.same,h.same]

theorem takeStdout_drained (bytes : Bytes) (c : ManagedNativeChild) :
    Drained c (c.takeStdout bytes) := by
  refine ⟨rfl,fun hf => ?_,fun hb => ?_,fun he => ?_⟩
  · simp only [takeStdout,OwnedNativeChildProcess.readStdout,Pipe.read]
    split
    · next hb => rw [hb]; exact hf.ended
    · exact hf.observe _ _
  · simp only [takeStdout]
    split
    · exact hb
    · exact hb.observe _
  · simp [takeStdout,OwnedNativeChildProcess.readStdout,Pipe.read,he]

theorem drain_drained (reads : List ReadAnswer) (c : ManagedNativeChild) :
    wp (drainStdoutNonblocking reads) (fun _ c' => Drained c c') (fun _ c' => Drained c c') c := by
  induction reads generalizing c with
  | nil => simp [drainStdoutNonblocking,Drained.refl]
  | cons a reads ih =>
    cases a with
    | wouldBlock => simp [drainStdoutNonblocking,Drained.refl]
    | failed => simp [drainStdoutNonblocking,Drained.refl]
    | chunk bytes =>
      simp only [drainStdoutNonblocking,wp_bind,wp_get,wp_ensure,wp_modify]
      refine ⟨fun _ => ?_,fun _ => Drained.refl c⟩
      have hd := takeStdout_drained bytes c
      split
      · exact hd
      · split
        · exact hd
        · exact wp_mono (fun _ _ h => hd.trans h) (fun _ _ h => hd.trans h) (ih _)

/-- A drain that stays within the bound. -/
theorem drain_quiet {reads : List ReadAnswer} (c : ManagedNativeChild) (hs : c.stdout=true)
    (he : c.stdoutCapture.exceeded=false) (hq : quiet c.stdoutCapture.room reads=true) :
    wp (drainStdoutNonblocking reads) (fun b _ => b=false) (fun _ _ => False) c := by
  induction reads generalizing c with
  | nil => simp [drainStdoutNonblocking,hs,he]
  | cons a reads ih =>
    cases a with
    | wouldBlock => simp [drainStdoutNonblocking,hs,he]
    | failed => simp [quiet] at hq
    | chunk bytes =>
      simp only [drainStdoutNonblocking,wp_bind,wp_get,wp_ensure,wp_modify,hs]
      refine ⟨fun _ => ?_,fun h => absurd trivial h⟩
      by_cases hb : bytes=[]
      · rw [if_pos hb]
        simp [takeStdout,hb,he]
      · simp only [quiet,hb,decide_false,Bool.false_or,Bool.and_eq_true,decide_eq_true_eq] at hq
        have hexc : (c.takeStdout bytes).stdoutCapture.exceeded=false := by
          simp only [takeStdout,hb,if_false,NativeStreamCapture.exceeded_observe,he,Bool.false_or,
            decide_eq_false_iff_not]
          omega
        rw [if_neg hb,if_neg (by rw [hexc]; decide)]
        refine ih _ hs hexc ?_
        simp only [takeStdout,hb,if_false,NativeStreamCapture.room_observe hq.1]
        exact hq.2

/-- A drain that meets no error; unless it finds the bound passed, it comes to the end. -/
theorem drain_settles {reads : List ReadAnswer} (c : ManagedNativeChild) (hs : c.stdout=true)
    (hb : c.stdoutCapture.Bounded) (hr : unfailing c.stdoutCapture.room reads=true)
    (hd : c.stdoutCapture.exceeded=false → c.nativeChild.record.stdout.ended=true ∨
      settles c.stdoutCapture.room reads=true) :
    wp (drainStdoutNonblocking reads) (fun b c' => b=false → c'.nativeChild.record.stdout.ended=true)
      (fun _ _ => False) c := by
  induction reads generalizing c with
  | nil =>
    simp only [drainStdoutNonblocking,wp_bind,wp_get,wp_ensure,wp_pure,hs]
    exact ⟨fun _ h => (hd h).resolve_right (by simp [settles]),fun h => absurd trivial h⟩
  | cons a reads ih =>
    cases a with
    | wouldBlock =>
      simp only [drainStdoutNonblocking,wp_bind,wp_get,wp_ensure,wp_pure,hs]
      exact ⟨fun _ h => (hd h).resolve_right (by simp [settles]),fun h => absurd trivial h⟩
    | failed => simp [unfailing] at hr
    | chunk bytes =>
      simp only [drainStdoutNonblocking,wp_bind,wp_get,wp_ensure,wp_modify,hs]
      refine ⟨fun _ => ?_,fun h => absurd trivial h⟩
      by_cases he : bytes=[]
      · rw [if_pos he]
        simp [takeStdout,he,OwnedNativeChildProcess.readStdout,Pipe.read]
      · rw [if_neg he]
        split
        · exact fun h => by cases h
        · next hx =>
          have htake : (c.takeStdout bytes).stdoutCapture=c.stdoutCapture.observe bytes := by
            simp [takeStdout,he]
          rw [htake,NativeStreamCapture.exceeded_observe,Bool.or_eq_true,decide_eq_true_eq,not_or,
            Bool.not_eq_true,Nat.not_lt] at hx
          have hroom := NativeStreamCapture.room_observe hx.2
          have hlt : decide (c.stdoutCapture.room<bytes.length)=false :=
            decide_eq_false (Nat.not_lt.mpr hx.2)
          simp only [unfailing,settles,he,hlt,decide_false,Bool.false_or] at hr hd
          refine ih _ hs (htake ▸ hb.observe bytes) (by rwa [htake,hroom]) (fun _ => ?_)
          rw [htake,hroom]
          exact (hd hx.1).imp (fun h => (takeStdout_drained bytes c).ended h) id

/-- A drain of more than there is room for. -/
theorem drain_exceeds {chunks : List Bytes} (reads : List ReadAnswer) (c : ManagedNativeChild)
    (hs : c.stdout=true) (hn : [] ∉ chunks) (hover : c.stdoutCapture.room<(chunks.map (·.length)).sum) :
    wp (drainStdoutNonblocking (chunks.map .chunk++reads)) (fun b _ => b=true) (fun _ _ => False) c := by
  induction chunks generalizing c with
  | nil => exact absurd hover (Nat.not_lt_zero _)
  | cons bytes chunks ih =>
    have hb : bytes≠[] := fun h => hn (h ▸ List.mem_cons_self)
    have htake : (c.takeStdout bytes).stdoutCapture=c.stdoutCapture.observe bytes := by
      simp [takeStdout,hb]
    simp only [List.map_cons,List.cons_append,drainStdoutNonblocking,wp_bind,wp_get,wp_ensure,wp_modify]
    refine ⟨fun _ => ?_,fun h => h hs⟩
    rw [if_neg hb]
    split
    · rfl
    · next hx =>
      rw [htake,NativeStreamCapture.exceeded_observe,Bool.or_eq_true,decide_eq_true_eq,not_or,Nat.not_lt]
        at hx
      refine ih _ hs (fun h => hn (List.mem_cons_of_mem _ h)) ?_
      rw [htake,NativeStreamCapture.room_observe hx.2]
      rw [List.map_cons,List.sum_cons] at hover
      omega

end ManagedNativeChild
end Effects
section Invariant
open Handler

namespace ManagedNativeChild

/-- A stream that a receipt calls complete came to its end, and the receipt has all of it. -/
def CompleteStream (t : TransientStreamCapture) (p : Pipe) : Prop :=
  t.retention=.complete → p.ended=true ∧ t.retainedBytes=p.carried

/-- What holds of a child between the calls on it. -/
structure Kept (c : ManagedNativeChild) : Prop where
  term : c.nativeChild.record.attempts.count .terminate=c.termSent.toNat
  kill : c.nativeChild.record.attempts.count .kill=c.killSent.toNat
  lingering : c.nativeChild.record.attempts.count .lingeringGroupKill=
    (c.signals.map (·.action)).count .lingeringGroupKill
  lingeringOnce : (c.signals.map (·.action)).count .lingeringGroupKill ≤ 1
  killed : c.killSent=true → ∃ r ∈ c.signals,r.action=.kill
  bounded : c.stdoutCapture.Bounded
  stdout : c.stdoutCapture.Faithful c.nativeChild.record.stdout.carried
  stderr : ∀ t,c.stderr=some t → t.snapshot.Faithful c.nativeChild.record.stderr.carried ∧
    (t.result=some true → c.nativeChild.record.stderr.ended=true)
  completed : ∀ r,c.completed=some r → (c.stderr=none ∧ c.pendingReap=none) ∧
    CompleteStream r.stdout c.nativeChild.record.stdout ∧
      CompleteStream r.stderr c.nativeChild.record.stderr
  collected : c.nativeChild.directWait=none → c.pendingReap=none ∧ c.completed=none

/-- What has been found of a child is not found otherwise later. -/
structure Grows (c c' : ManagedNativeChild) : Prop where
  reap : ∀ x,c.reap=some x → c'.reap=some x
  completed : ∀ r,c.completed=some r → c'.completed=some r
  process : c'.nativeChild.hostProcessId=c.nativeChild.hostProcessId

variable {c c' c₁ : ManagedNativeChild}

theorem Grows.refl (c : ManagedNativeChild) : Grows c c := ⟨fun _ => id,fun _ => id,rfl⟩

theorem Grows.trans (h : Grows c c₁) (h' : Grows c₁ c') : Grows c c' :=
  ⟨fun x hx => h'.reap x (h.reap x hx),fun r hr => h'.completed r (h.completed r hr),
    h'.process.trans h.process⟩

theorem Kept.termed {r : SignalReceipt} (h : Kept c) (hr : r.action=.terminate)
    (ht : c.termSent=false) : Kept {c.signaled r with termSent := true} where
  term := by
    have := h.term
    simp [signaled,recordSignal,OwnedNativeChildProcess.attempted,List.count_append,hr,this,ht]
  kill := by
    have := h.kill
    simp [signaled,recordSignal,OwnedNativeChildProcess.attempted,List.count_append,hr,this]
  lingering := by
    have := h.lingering
    simp [signaled,recordSignal,OwnedNativeChildProcess.attempted,List.count_append,hr,this]
  lingeringOnce := by
    have := h.lingeringOnce
    simpa [signaled,recordSignal,List.count_append,hr] using this
  killed hk := by
    obtain ⟨q,hq,ha⟩ := h.killed hk
    exact ⟨q,List.mem_append_left _ hq,ha⟩
  bounded := h.bounded
  stdout := h.stdout
  stderr := h.stderr
  completed := h.completed
  collected := h.collected

theorem Kept.killing {r : SignalReceipt} (h : Kept c) (hr : r.action=.kill)
    (ht : c.killSent=false) : Kept {c.signaled r with killSent := true} where
  term := by
    have := h.term
    simp [signaled,recordSignal,OwnedNativeChildProcess.attempted,List.count_append,hr,this]
  kill := by
    have := h.kill
    simp [signaled,recordSignal,OwnedNativeChildProcess.attempted,List.count_append,hr,this,ht]
  lingering := by
    have := h.lingering
    simp [signaled,recordSignal,OwnedNativeChildProcess.attempted,List.count_append,hr,this]
  lingeringOnce := by
    have := h.lingeringOnce
    simpa [signaled,recordSignal,List.count_append,hr] using this
  killed _ := ⟨r,by simp [signaled,recordSignal],hr⟩
  bounded := h.bounded
  stdout := h.stdout
  stderr := h.stderr
  completed := h.completed
  collected := h.collected

theorem Kept.lingered {r : SignalReceipt} (h : Kept c) (hr : r.action=.lingeringGroupKill)
    (hn : c.signals.all (fun q => q.action≠.lingeringGroupKill)=true) : Kept (c.signaled r) where
  term := by
    have := h.term
    simp [signaled,recordSignal,OwnedNativeChildProcess.attempted,List.count_append,hr,this]
  kill := by
    have := h.kill
    simp [signaled,recordSignal,OwnedNativeChildProcess.attempted,List.count_append,hr,this]
  lingering := by
    have := h.lingering
    simp [signaled,recordSignal,OwnedNativeChildProcess.attempted,List.count_append,hr,this]
  lingeringOnce := by
    have hzero : (c.signals.map (·.action)).count .lingeringGroupKill=0 := by
      rw [List.count_eq_zero,List.mem_map]
      rintro ⟨q,hq,hqa⟩
      simpa [hqa] using List.all_eq_true.mp hn q hq
    simp [signaled,recordSignal,List.count_append,hr,hzero]
  killed hk := by
    obtain ⟨q,hq,ha⟩ := h.killed hk
    exact ⟨q,List.mem_append_left _ hq,ha⟩
  bounded := h.bounded
  stdout := h.stdout
  stderr := h.stderr
  completed := h.completed
  collected := h.collected

theorem Drained.kept (hd : Drained c c') (h : Kept c) (hn : c.completed=none) : Kept c' := by
  rw [hd.same]
  refine ⟨h.term,h.kill,h.lingering,h.lingeringOnce,h.killed,hd.bounded h.bounded,hd.faithful h.stdout,h.stderr,?_,
    h.collected⟩
  intro r hr
  rw [show c.completed=some r from hr] at hn
  cases hn

theorem Drained.grows (hd : Drained c c') : Grows c c' := by
  rw [hd.same]
  exact ⟨fun _ => id,fun _ => id,rfl⟩

/-- A step that keeps the invariant and what has been found. -/
def Step (c c' : ManagedNativeChild) : Prop := Kept c' ∧ Grows c c'

theorem sendTerm_step (h : Kept c) {now : MonotonicTick} {os : SignalAnswers}
    (ha : c.termSent=false → os.accounted=true) :
    wp (sendTerm now os) (fun _ c' => Step c c' ∧ c'.killSent=c.killSent)
      (fun _ c' => Step c c' ∧ c.termSent=false ∧ os.before=.failed ∧ c'.killSent=c.killSent) c := by
  refine sendTerm_wp ha (fun _ => ⟨⟨h,.refl c⟩,rfl⟩) (fun ht _ r hr => ?_)
    (fun ht hb _ => ⟨⟨h,.refl c⟩,ht,hb,rfl⟩)
  exact ⟨⟨h.termed hr ht,⟨fun _ => id,fun _ => id,rfl⟩⟩,rfl⟩

theorem sendKill_step (h : Kept c) {now : MonotonicTick} {os : SignalAnswers}
    (ha : c.killSent=false → os.accounted=true) :
    wp (sendKill now os) (fun _ c' => Step c c' ∧ c'.killSent=true)
      (fun _ c' => Step c c' ∧ c.killSent=false ∧ os.before=.failed) c := by
  refine sendKill_wp ha (fun hk => ⟨⟨h,.refl c⟩,hk⟩) (fun ht _ r hr => ?_)
    (fun ht hb _ => ⟨⟨h,.refl c⟩,ht,hb⟩)
  exact ⟨⟨h.killing hr ht,⟨fun _ => id,fun _ => id,rfl⟩⟩,rfl⟩

/-- Nothing stops this drive from sending the child its SIGKILL. -/
def killReady (now : MonotonicTick) (deadline : NativeChildDeadline) (os : DriveAnswers)
    (c : ManagedNativeChild) : Bool :=
  c.killSent || (c.stdout && !c.stdoutCapture.exceeded && quiet c.stdoutCapture.room os.stdoutReads &&
    c.stderr.any (fun t => !t.snapshot.exceeded) && os.lock &&
    (c.termSent || now.val<deadline.terminateAt.val || os.term.before≠.failed) &&
    os.kill.before≠.failed)

/-- The drive loses no signal attempt, and a SIGKILL that is due is sent. -/
def driveSound (now : MonotonicTick) (deadline : NativeChildDeadline) (os : DriveAnswers)
    (c : ManagedNativeChild) : Bool :=
  c.pendingReap.isSome || c.completed.isSome ||
    ((c.termSent || os.term.accounted) && (c.killSent || os.kill.accounted) &&
      (c.nativeChild.directWait.isSome || now.val<deadline.killAt.val || killReady now deadline os c))

/-- The tail of `drive_at`, once the drain is done. -/
theorem driveTail_step (now : MonotonicTick) (deadline : NativeChildDeadline) (exceeded : Bool)
    {c₀ : ManagedNativeChild} (h : Kept c) (hg : Grows c₀ c) {os : DriveAnswers}
    (ht : c.termSent=false → os.term.accounted=true) (hk : c.killSent=false → os.kill.accounted=true) :
    wp (do
      if exceeded then do
        sendTerm now os.term
        fail .nativeChildOutputLimitExceeded
      else do
        when (deadline.terminateAt.val≤now.val) (sendTerm now os.term)
        when (deadline.killAt.val≤now.val) (sendKill now os.kill))
      (fun _ => Step c₀) (fun _ => Step c₀) c := by
  have hstep {c' : ManagedNativeChild} (hs : Step c c') : Step c₀ c' := ⟨hs.1,hg.trans hs.2⟩
  have hterm : wp (sendTerm now os.term) _ _ c := sendTerm_step h ht
  cases exceeded with
  | true =>
    simp only [if_true,wp_bind]
    exact wp_mono (fun _ _ hs => hstep hs.1) (fun _ _ hs => hstep hs.1) hterm
  | false =>
    simp only [Bool.false_eq_true,if_false,wp_bind,wp_when]
    have hkill (c₁ : ManagedNativeChild) (hs : Step c c₁ ∧ c₁.killSent=c.killSent) :
        wp (sendKill now os.kill) (fun _ => Step c₀) (fun _ => Step c₀) c₁ := by
      refine wp_mono (fun _ _ hs' => ?_) (fun _ _ hs' => ?_) (sendKill_step hs.1.1 (hs.2 ▸ hk))
      · exact ⟨hs'.1.1,hg.trans (hs.1.2.trans hs'.1.2)⟩
      · exact ⟨hs'.1.1,hg.trans (hs.1.2.trans hs'.1.2)⟩
    refine ⟨fun _ => ?_,fun _ => ⟨fun _ => hkill c ⟨⟨h,.refl c⟩,rfl⟩,fun _ => ⟨h,hg⟩⟩⟩
    refine wp_mono (fun _ c₁ hs => ?_) (fun _ _ hs => hstep hs.1) hterm
    exact ⟨fun _ => hkill c₁ hs,fun _ => hstep hs.1⟩

theorem driveAt_step (h : Kept c) {now : MonotonicTick} {deadline : NativeChildDeadline}
    {os : DriveAnswers} (hs : driveSound now deadline os c=true) :
    wp (driveAt now deadline os) (fun _ => Step c) (fun _ => Step c) c := by
  simp only [driveAt,wp_bind,wp_get]
  split
  · exact ⟨h,.refl c⟩
  · next hn =>
    simp only [Bool.or_eq_true,not_or,Bool.not_eq_true,Option.isSome_eq_false_iff,
      Option.isNone_iff_eq_none] at hn
    simp only [driveSound,hn.1,hn.2,Option.isSome_none,Bool.false_or,Bool.and_eq_true] at hs
    have ht : c.termSent=false → os.term.accounted=true := fun ht => by simpa [ht] using hs.1.1
    have hk : c.killSent=false → os.kill.accounted=true := fun hk => by simpa [hk] using hs.1.2
    simp only [wp_bind]
    refine wp_mono (fun stdout c₁ hd => ?_) (fun _ _ hd => ⟨hd.kept h hn.2,hd.grows⟩)
      (drain_drained os.stdoutReads c)
    have h₁ := hd.kept h hn.2
    have hsame := hd.same
    have ht₁ : c₁.termSent=false → os.term.accounted=true := fun hx => ht (by rw [hsame] at hx; exact hx)
    have hk₁ : c₁.killSent=false → os.kill.accounted=true := fun hx => hk (by rw [hsame] at hx; exact hx)
    have htail (exceeded : Bool) := driveTail_step now deadline exceeded h₁ hd.grows ht₁ hk₁
    cases stdout with
    | true => exact htail true
    | false =>
      simp only [Bool.false_eq_true,if_false,stderrExceeded,wp_bind,wp_get]
      split
      · exact ⟨h₁,hd.grows⟩
      · split
        · exact htail _
        · exact ⟨h₁,hd.grows⟩

/-- The tail of a drive at which the SIGKILL is due. -/
theorem driveTail_kills (os : DriveAnswers) (exceeded : Bool) (h : Kept c) {now : MonotonicTick}
    {deadline : NativeChildDeadline} (hx : exceeded=true → c.killSent=true)
    (ht : c.termSent=false → os.term.accounted=true) (hk : c.killSent=false → os.kill.accounted=true)
    (htf : c.killSent=false → deadline.terminateAt.val≤now.val → c.termSent=false →
      os.term.before≠.failed)
    (hkf : c.killSent=false → os.kill.before≠.failed) (hdue : deadline.killAt.val≤now.val) :
    wp (do
      if exceeded then do
        sendTerm now os.term
        fail .nativeChildOutputLimitExceeded
      else do
        when (deadline.terminateAt.val≤now.val) (sendTerm now os.term)
        when (deadline.killAt.val≤now.val) (sendKill now os.kill))
      (fun _ c' => c'.killSent=true) (fun _ c' => c'.killSent=true) c := by
  have hterm : wp (sendTerm now os.term) _ _ c := sendTerm_step h ht
  cases exceeded with
  | true =>
    simp only [if_true,wp_bind]
    exact wp_mono (fun _ _ hs => hs.2.trans (hx rfl)) (fun _ _ hs => hs.2.2.2.trans (hx rfl)) hterm
  | false =>
    simp only [Bool.false_eq_true,if_false,wp_bind,wp_when]
    have hkill (c₁ : ManagedNativeChild) (hs : Step c c₁ ∧ c₁.killSent=c.killSent) :
        wp (sendKill now os.kill) (fun _ c' => c'.killSent=true) (fun _ c' => c'.killSent=true) c₁ := by
      refine wp_mono (fun _ _ hs' => hs'.2) (fun _ _ hs' => ?_) (sendKill_step hs.1.1 (hs.2 ▸ hk))
      exact absurd hs'.2.2 (hkf (hs.2 ▸ hs'.2.1))
    refine ⟨fun hterminate => ?_,fun _ => ⟨fun _ => hkill c ⟨⟨h,.refl c⟩,rfl⟩,fun hn => absurd hdue hn⟩⟩
    refine wp_mono (fun _ c₁ hs => ⟨fun _ => hkill c₁ hs,fun hn => absurd hdue hn⟩) (fun _ _ hs => ?_) hterm
    rw [hs.2.2.2]
    cases hsent : c.killSent with
    | true => rfl
    | false => exact absurd hs.2.2.1 (htf hsent hterminate hs.2.1)

/-- A due SIGKILL is recorded by the drive, whatever the drive answers. -/
theorem driveAt_kills (h : Kept c) {now : MonotonicTick} {deadline : NativeChildDeadline}
    {os : DriveAnswers} (hs : driveSound now deadline os c=true)
    (hp : c.pendingReap=none) (hc : c.completed=none) (hw : c.nativeChild.directWait=none)
    (hdue : deadline.killAt.val≤now.val) :
    wp (driveAt now deadline os) (fun _ c' => c'.killSent=true) (fun _ c' => c'.killSent=true) c := by
  have hlt : decide (now.val<deadline.killAt.val)=false := decide_eq_false (Nat.not_lt.mpr hdue)
  simp only [driveSound,hp,hc,hw,hlt,Option.isSome_none,Bool.false_or,Bool.and_eq_true] at hs
  obtain ⟨⟨ht,hk⟩,hready⟩ := hs
  simp only [driveAt,wp_bind,wp_get,hp,hc,Option.isSome_none,Bool.or_false,Bool.false_eq_true,if_false]
  have hdrained := drain_drained os.stdoutReads c
  cases hsent : c.killSent with
  | true =>
    refine wp_mono (fun stdout c₁ hd => ?_) (fun _ c₁ hd => ?_) hdrained
    · have h₁ := hd.kept h hc
      have hsame := hd.same
      have hsent₁ : c₁.killSent=true := by rw [hsame]; exact hsent
      have ht₁ : c₁.termSent=false → os.term.accounted=true := by
        intro hx
        rw [hsame] at hx
        simpa [show c.termSent=false from hx] using ht
      have htail (exceeded : Bool) := driveTail_kills os exceeded h₁ (fun _ => hsent₁)
        ht₁ (by simp [hsent₁]) (by simp [hsent₁]) (by simp [hsent₁]) hdue
      cases stdout with
      | true => exact htail true
      | false =>
        simp only [Bool.false_eq_true,if_false,stderrExceeded,wp_bind,wp_get]
        split
        · exact hsent₁
        · split
          · exact htail _
          · exact hsent₁
    · rw [hd.same]
      exact hsent
  | false =>
    simp only [killReady,hsent,Bool.false_or,Bool.and_eq_true,Bool.not_eq_true',decide_eq_true_eq] at hready
    obtain ⟨⟨⟨⟨⟨⟨hout,hexc⟩,hquiet⟩,herr⟩,hlock⟩,hterm⟩,hkill⟩ := hready
    refine wp_mono (fun stdout c₁ hd => ?_) (fun _ _ hd => hd.2.elim)
      (wp_and hdrained (drain_quiet c hout hexc hquiet))
    obtain ⟨hd,rfl⟩ := hd
    have h₁ := hd.kept h hc
    have hsame := hd.same
    obtain ⟨task,htask,hfree⟩ := (Option.any_eq_true ..).mp herr
    have hstderr : c₁.stderr=some task := by rw [hsame]; exact htask
    simp only [Bool.false_eq_true,if_false,stderrExceeded,wp_bind,wp_get,hstderr,hlock,if_true,wp_pure]
    rw [Bool.not_eq_true'] at hfree
    rw [hfree]
    refine driveTail_kills os _ h₁ (fun hx => by cases hx) ?_ ?_ ?_ (fun _ => hkill) hdue
    · intro hx
      rw [hsame] at hx
      simpa [show c.termSent=false from hx] using ht
    · intro _
      simpa [hsent] using hk
    · intro _ hterminate hx
      rw [hsame] at hx
      have hlt : decide (now.val<deadline.terminateAt.val)=false :=
        decide_eq_false (Nat.not_lt.mpr hterminate)
      simpa [show c.termSent=false from hx,hlt] using hterm

/-- The reap of a child is found once. -/
theorem pollDirectReap_step (h : Kept c) {wait : Option (Option ExitStatus)} {probe : KillAnswer} :
    wp (pollDirectReap wait probe) (fun f c' => Step c c' ∧ ∀ x,f=some x →
      c'.reap=some (x.status,x.groupLivenessAfterDirectChildReap)) (fun _ => Step c) c := by
  have hsame : Step c c := ⟨h,.refl c⟩
  simp only [pollDirectReap,wp_bind,wp_get]
  split
  · next pending hp =>
    have hc : c.completed=none := by
      cases hc : c.completed with
      | none => rfl
      | some r =>
        rw [(h.completed r hc).1.2] at hp
        cases hp
    refine ⟨hsame,fun x hx => ?_⟩
    cases hx
    simp [reap,hc,hp,reapFacts]
  · next hp =>
    simp only [wp_bind,wp_ensure,onProcess,wp_within]
    refine ⟨fun hc => ?_,fun _ => hsame⟩
    have hnone : c.completed=none := Option.isNone_iff_eq_none.mp hc
    have hreap : c.reap=none := by simp [reap,hnone,hp]
    have hstep (w : Option ExitStatus) (q : Option PendingReap) (hq : w=none → q=none) :
        Step c {c with nativeChild := {c.nativeChild with directWait := w},pendingReap := q} := by
      refine ⟨⟨h.term,h.kill,h.lingering,h.lingeringOnce,h.killed,h.bounded,h.stdout,h.stderr,
        fun r hr => absurd (hnone.symm.trans hr) (by simp),fun hw => ⟨hq hw,hnone⟩⟩,
        ⟨fun x hx => ?_,fun _ => id,rfl⟩⟩
      rw [hreap] at hx
      cases hx
    have hfound (w : Option ExitStatus) (hw : w≠none) (status : ExitStatus) :
        wp (do
          let l ← groupLiveness probe
          modify (fun c => {c with pendingReap := some ⟨status,l⟩})
          let c ← get
          pure (some (c.reapFacts ⟨status,l⟩)))
          (fun f c' => Step c c' ∧ ∀ x,f=some x →
            c'.reap=some (x.status,x.groupLivenessAfterDirectChildReap)) (fun _ => Step c)
          {c with nativeChild := {c.nativeChild with directWait := w}} := by
      simp only [groupLiveness,wp_bind,wp_lift,wp_modify,wp_get,wp_pure]
      refine ⟨fun l _ => ⟨hstep w _ (fun hn => absurd hn hw),fun x hx => ?_⟩,
        fun _ _ => hstep w c.pendingReap (fun _ => hp)⟩
      cases hx
      simp [reap,hnone,reapFacts]
    simp only [OwnedNativeChildProcess.pollDirectWait,wp_bind,wp_get]
    split
    · next _ status hw =>
      have := hfound (some status) (by simp) status
      rw [← hw] at this
      exact this
    · exact hsame
    · next w hw =>
      cases w with
      | none =>
        exact ⟨hstep none c.pendingReap (fun _ => hp),fun x hx => by cases hx⟩
      | some status => exact hfound (some status) (by simp) status

theorem issueLingeringCleanup_step (h : Kept c) {now : MonotonicTick} {os : SignalAnswers}
    (ha : c.signals.all (fun q => q.action≠.lingeringGroupKill)=true → os.accounted=true) :
    wp (issueLingeringCleanup now os) (fun _ => Step c) (fun _ => Step c) c := by
  have hsame : Step c c := ⟨h,.refl c⟩
  simp only [issueLingeringCleanup,wp_bind,wp_get]
  split
  · exact hsame
  · split
    · exact hsame
    · simp only [wp_bind,wp_ensure,wp_modify,wp_pure]
      refine ⟨fun hn => ?_,fun _ => hsame⟩
      refine signal_wp (ha hn) (fun _ o => ?_) (fun _ _ => hsame)
      exact ⟨h.lingered (r := signalReceipt o .lingeringGroupKill .lingeringGroupKillSent now) rfl hn,
        ⟨fun _ => id,fun _ => id,rfl⟩⟩

/-- The reader thread ends well on these reads. -/
def endsWell : Option Bool → List ReadAnswer → Bool
  | some b,_ => b
  | none,[] => true
  | none,.wouldBlock::reads => endsWell none reads
  | none,.failed::_ => false
  | none,.chunk bytes::reads => bytes=[] || endsWell none reads

/-- Completing the reap meets no error once the group is gone, and reads both streams to their
ends or past the bound. -/
def completionSound (os : CompletionAnswers) (c : ManagedNativeChild) : Bool :=
  c.completed.isSome || c.pendingReap.isNone || os.probe==.done || os.probe==.eperm ||
    (os.probe==.esrch && c.stdout && unfailing c.stdoutCapture.room os.stdoutReads &&
      (c.stdoutCapture.exceeded || c.nativeChild.record.stdout.ended ||
        settles c.stdoutCapture.room os.stdoutReads) &&
      c.stderr.any (fun t => endsWell t.result os.stderrReads) && os.joined && os.lock)

/-- The claims that a child's reader thread makes about its stream. -/
def Heard.Sound (c : ManagedNativeChild) : Prop :=
  ∀ t,c.stderr=some t → t.snapshot.Faithful c.nativeChild.record.stderr.carried ∧
    (t.result=some true → c.nativeChild.record.stderr.ended=true)

/-- The child after turns of its reader thread. -/
structure Heard (c c' : ManagedNativeChild) : Prop where
  same : c'={c with stderr := c'.stderr,
                    nativeChild := {c.nativeChild with
                      record := {c.nativeChild.record with stderr := c'.nativeChild.record.stderr}}}
  sound : Heard.Sound c → Heard.Sound c'
  none : c.stderr=none → c'=c

theorem Heard.refl (c : ManagedNativeChild) : Heard c c := ⟨rfl,id,fun _ => rfl⟩

theorem Heard.trans (h : Heard c c₁) (h' : Heard c₁ c') : Heard c c' := by
  refine ⟨?_,fun hs => h'.sound (h.sound hs),fun hn => ?_⟩
  · rw [h'.same,h.same]
  · have hc := h.none hn
    subst hc
    exact h'.none hn

theorem readStderr_heard (answer : ReadAnswer) (c : ManagedNativeChild) :
    Heard c (c.readStderr answer) := by
  unfold readStderr
  split
  · exact .refl c
  · next task ht =>
    have hsome : c.stderr≠none := by simp [ht]
    split
    · exact .refl c
    · next hr =>
      have hnone : task.result=none := by simpa using hr
      split
      · next bytes =>
        refine ⟨rfl,fun hs => ?_,fun hn => absurd hn hsome⟩
        intro t he
        cases he
        simp only [StderrCaptureTask.turn,OwnedNativeChildProcess.readStderr,Pipe.read]
        split
        · next hb =>
          rw [hb]
          exact ⟨(hs task ht).1.ended,fun _ => by simp⟩
        · exact ⟨(hs task ht).1.observe _ _,fun h => by rw [hnone] at h; cases h⟩
      · next hn =>
        refine ⟨rfl,fun hs => ?_,fun hn => absurd hn hsome⟩
        intro t he
        cases he
        have hf := (hs task ht).1
        cases answer with
        | chunk bytes => exact absurd rfl (hn bytes)
        | wouldBlock => exact ⟨hf,fun h => by rw [StderrCaptureTask.turn,hnone] at h; cases h⟩
        | failed => exact ⟨hf,fun h => by cases h⟩

theorem finishStderr_heard (reads : List ReadAnswer) (c : ManagedNativeChild) :
    Heard c (c.finishStderr reads) := by
  unfold finishStderr
  induction reads generalizing c with
  | nil => exact readStderr_heard _ c
  | cons a reads ih => exact (readStderr_heard a c).trans (ih _)

theorem Heard.kept (hd : Heard c c') (h : Kept c) : Kept c' := by
  cases hs : c.stderr with
  | none => rwa [hd.none hs]
  | some t =>
    have hsound := hd.sound h.stderr
    rw [hd.same]
    refine ⟨h.term,h.kill,h.lingering,h.lingeringOnce,h.killed,h.bounded,h.stdout,hsound,?_,h.collected⟩
    intro r hr
    rw [(h.completed r hr).1.1] at hs
    cases hs

theorem Heard.grows (hd : Heard c c') : Grows c c' := by
  rw [hd.same]
  exact ⟨fun _ => id,fun _ => id,rfl⟩

theorem readStderr_step (h : Kept c) (answer : ReadAnswer) : Step c (c.readStderr answer) :=
  ⟨(readStderr_heard answer c).kept h,(readStderr_heard answer c).grows⟩

/-- A thread that ended keeps its result. -/
theorem finishStderr_done {t : StderrCaptureTask} (hs : c.stderr=some t) (hr : t.result.isSome=true)
    (reads : List ReadAnswer) : c.finishStderr reads=c := by
  have hturn (a : ReadAnswer) : c.readStderr a=c := by
    unfold readStderr
    rw [hs]
    exact if_pos hr
  unfold finishStderr
  induction reads with
  | nil => exact hturn _
  | cons a reads ih =>
    rw [List.foldl_cons,hturn]
    exact ih

theorem finishStderr_ends {t : StderrCaptureTask} {reads : List ReadAnswer} (hs : c.stderr=some t)
    (he : endsWell t.result reads=true) :
    ∃ t',(c.finishStderr reads).stderr=some t' ∧ t'.result=some true := by
  cases hr : t.result with
  | some b =>
    rw [finishStderr_done hs (by simp [hr])]
    simp only [hr,endsWell] at he
    exact ⟨t,hs,hr.trans (congrArg some he)⟩
  | none =>
    rw [hr] at he
    induction reads generalizing c t with
    | nil =>
      refine ⟨{t with result := some true},?_,rfl⟩
      simp [finishStderr,readStderr,hs,hr,StderrCaptureTask.turn]
    | cons a reads ih =>
      change ∃ t',((c.readStderr a).finishStderr reads).stderr=some t' ∧ _
      cases a with
      | wouldBlock =>
        have hturn : (c.readStderr .wouldBlock).stderr=some t := by
          simp [readStderr,hs,hr,StderrCaptureTask.turn]
        exact ih hturn he hr
      | failed => cases he
      | chunk bytes =>
        by_cases hb : bytes=[]
        · have hturn : (c.readStderr (.chunk bytes)).stderr=some {t with result := some true} := by
            simp [readStderr,hs,hr,StderrCaptureTask.turn,hb]
          rw [finishStderr_done hturn rfl]
          exact ⟨_,hturn,rfl⟩
        · have hturn : (c.readStderr (.chunk bytes)).stderr=
              some {t with snapshot := t.snapshot.observe bytes} := by
            simp [readStderr,hs,hr,StderrCaptureTask.turn,hb]
          simp only [endsWell,hb,decide_false,Bool.false_or] at he
          exact ih hturn he hr

/-- The capture of standard error, once its thread ends well. -/
theorem takeStderr_wp {os : CompletionAnswers} (h : Kept c)
    (he : c.stderr.any (fun t => endsWell t.result os.stderrReads)=true) (hj : os.joined=true)
    (hl : os.lock=true) :
    wp (takeStderr os) (fun capture c' => c'.stderr=none ∧
        (capture.Faithful c'.nativeChild.record.stderr.carried ∧ c'.nativeChild.record.stderr.ended=true) ∧
        c'={c with stderr := none,
                   nativeChild := {c.nativeChild with
                     record := {c.nativeChild.record with stderr := c'.nativeChild.record.stderr}}})
      (fun _ _ => False) c := by
  obtain ⟨t,ht,he⟩ := (Option.any_eq_true ..).mp he
  obtain ⟨t',ht',hr⟩ := finishStderr_ends ht he
  have hheard := finishStderr_heard os.stderrReads c
  have hsound := hheard.sound h.stderr t' ht'
  simp only [takeStderr,wp_bind,wp_modify,wp_get,ht',wp_ensure,wp_pure]
  refine ⟨fun _ => ⟨fun _ => ⟨fun _ => ⟨trivial,⟨hsound.1,hsound.2 hr⟩,?_⟩,fun hn => hn hl⟩,
    fun hn => hn hr⟩,fun hn => hn hj⟩
  rw [hheard.same]

theorem completeDeferredReap_step (hash : Bytes → Blake3Digest) (h : Kept c) {os : CompletionAnswers}
    (hs : completionSound os c=true) :
    wp (completeDeferredReap hash os) (fun r c' => Step c c' ∧ c'.completed=some r) (fun _ => Step c)
      c := by
  simp only [completeDeferredReap,wp_bind,wp_get]
  split
  · next receipt hc => exact ⟨⟨h,.refl c⟩,hc⟩
  · exact ⟨h,.refl c⟩
  · next pending hc hp =>
    simp only [completionSound,hc,hp,Option.isSome_none,Option.isNone_some,Bool.false_or,Bool.or_eq_true,
      Bool.and_eq_true,beq_iff_eq] at hs
    have hrestored : Step c {c with pendingReap := some pending} := by
      rw [← hp]
      exact ⟨h,.refl c⟩
    simp only [wp_bind,wp_modify,groupLiveness,wp_lift]
    rcases hs with (hs | hs) | hs
    · rw [hs]
      refine ⟨fun l hl => ?_,fun e he => by cases he⟩
      cases hl
      simp only [ne_eq,reduceCtorEq,not_false_eq_true,if_true,wp_bind,wp_modify,wp_fail]
      exact hrestored
    · rw [hs]
      refine ⟨fun l hl => ?_,fun e he => by cases he⟩
      cases hl
      simp only [ne_eq,reduceCtorEq,not_false_eq_true,if_true,wp_bind,wp_modify,wp_fail]
      exact hrestored
    · obtain ⟨⟨⟨⟨⟨⟨hprobe,hout⟩,hreads⟩,hsettles⟩,herr⟩,hjoin⟩,hlock⟩ := hs
      rw [hprobe]
      refine ⟨fun l hl => ?_,fun e he => by cases he⟩
      cases hl
      simp only [ne_eq,not_true_eq_false,if_false,wp_bind,wp_get,wp_modify,wp_pure]
      have h₁ : Kept {c with pendingReap := none} := by
        exact ⟨h.term,h.kill,h.lingering,h.lingeringOnce,h.killed,h.bounded,h.stdout,h.stderr,
          fun r hr => ⟨⟨(h.completed r hr).1.1,rfl⟩,(h.completed r hr).2⟩,fun hw => ⟨rfl,(h.collected hw).2⟩⟩
      have hfull : c.stdoutCapture.exceeded=false → c.nativeChild.record.stdout.ended=true ∨
          settles c.stdoutCapture.room os.stdoutReads=true := by
        intro hx
        simpa [hx] using hsettles
      refine wp_mono (fun exceeded c₂ hd => ?_) (fun _ _ hd => hd.2.elim)
        (wp_and (drain_drained os.stdoutReads _) (drain_settles {c with pendingReap := none} hout h.bounded
          hreads hfull))
      obtain ⟨hd,hend⟩ := hd
      have h₂ := hd.kept h₁ hc
      have hsame := hd.same
      have herr₂ : c₂.stderr.any (fun t => endsWell t.result os.stderrReads)=true := by
        rw [hsame]
        exact herr
      refine wp_mono (fun capture c₃ ht => ?_) (fun _ _ hf => hf.elim) (takeStderr_wp h₂ herr₂ hjoin hlock)
      obtain ⟨hnone,⟨hfaithful,hended⟩,hsame'⟩ := ht
      have hpipe : c₃.nativeChild.record.stdout=c₂.nativeChild.record.stdout := by rw [hsame']
      refine ⟨⟨?_,?_⟩,trivial⟩
      · refine ⟨?_,?_,?_,?_,?_,?_,?_,?_,?_,?_⟩
        · rw [hsame']; exact h₂.term
        · rw [hsame']; exact h₂.kill
        · rw [hsame']; exact h₂.lingering
        · rw [hsame']; exact h₂.lingeringOnce
        · rw [hsame']; exact h₂.killed
        · rw [hsame']; exact h₂.bounded
        · rw [hsame']; exact h₂.stdout
        · intro t ht
          rw [show c₃.stderr=some t from ht] at hnone
          cases hnone
        · intro r hr
          cases hr
          refine ⟨⟨hnone,by rw [hsame',hsame]⟩,fun hret => ?_,fun hret => ⟨hended,hfaithful hret⟩⟩
          cases exceeded with
          | true => cases hret
          | false => exact hpipe ▸ ⟨hend rfl,h₂.stdout hret⟩
        · intro hw
          have hwait : c.nativeChild.directWait=none := by
            rw [hsame',hsame] at hw
            exact hw
          rw [(h.collected hwait).1] at hp
          cases hp
      · refine ⟨fun x hx => ?_,fun r hr => ?_,?_⟩
        · simp only [reap,hc,hp] at hx
          exact hx
        · rw [hc] at hr
          cases hr
        · rw [hsame',hsame]

end ManagedNativeChild
end Invariant
section Registry
open Handler ManagedNativeChild NativeChildSupervisor

namespace NativeChildSupervisor

variable {α : Type} {Q : α → NativeChildSupervisor → Prop}
  {E : SupervisionError → NativeChildSupervisor → Prop} {s : NativeChildSupervisor}

/-- The registry with another child in the place of `i`. -/
def put (s : NativeChildSupervisor) (i : SupervisedChildId) (c : ManagedNativeChild) :
    NativeChildSupervisor := {s with children := insert s.children i (some c)}

theorem put_self (s : NativeChildSupervisor) (i : SupervisedChildId) (c : ManagedNativeChild) :
    (s.put i c).children i=some c := insert_same ..

theorem wp_childMut {i : SupervisedChildId} {m : ManagedNativeChild.Action α}
    (hnone : s.children i=none → E .invalidLifecycle s)
    (hsome : ∀ c,s.children i=some c →
      wp m (fun a c' => Q a (s.put i c')) (fun e c' => E e (s.put i c')) c) :
    wp (childMut i m) Q E s := by
  cases hc : s.children i with
  | none =>
    have := hnone hc
    simpa [wp,childMut,hc] using this
  | some c =>
    have := hsome c hc
    simp only [wp,childMut,hc] at this ⊢
    rcases hm : m c with ⟨r,c'⟩
    rw [hm] at this
    cases r <;> exact this

/-- No answer of the operating system to the call loses a signal, keeps a due SIGKILL from being
sent or spoils the completion of a reap. -/
def sound (s : NativeChildSupervisor) : NativeChildCall → Bool
  | .spawn _ os => (setupFailure os).isNone || os.kill.accounted
  | .driveAt i now deadline os => (s.children i).all (driveSound now deadline os)
  | .requestCancellationAt i _ os => (s.children i).all (fun c => c.termSent || os.accounted)
  | .issueLingeringGroupCleanup i _ os => (s.children i).all (fun c =>
      !c.signals.all (fun r => r.action≠.lingeringGroupKill) || os.accounted)
  | .completeDeferredReap i os => (s.children i).all (completionSound os)
  | .pollDirectChildReap .. | .readStderr .. => true

end NativeChildSupervisor

/-- The reap of a child that the answer of a call reports. -/
def reapReported : Entry NativeChildCall SupervisionError NativeChildAnswer →
    Option (SupervisedChildId × ReapStatus × ProcessGroupLiveness)
  | (.pollDirectChildReap i _ _,.ok (.reaped (some f))) =>
    some (i,f.status,f.groupLivenessAfterDirectChildReap)
  | (.completeDeferredReap i _,.ok (.completed r)) => some (i,r.status,r.groupLivenessBeforeCleanup)
  | _ => none

/-- The receipt of a child that the answer of a call reports. -/
def receiptReported : Entry NativeChildCall SupervisionError NativeChildAnswer →
    Option (SupervisedChildId × NativeChildReceipt)
  | (.completeDeferredReap i _,.ok (.completed r)) => some (i,r)
  | _ => none

/-- The runs of a new registry whose calls are all sound. -/
abbrev NativeChildRun (hash : Bytes → Blake3Digest) :=
  Reached (NativeChildCall.run hash) (·=NativeChildSupervisor.new) (fun _ s c => s.sound c=true)

/-- The registry remembers what its answers said. -/
structure Custodial (h : List (Entry NativeChildCall SupervisionError NativeChildAnswer))
    (s : NativeChildSupervisor) : Prop where
  kept : ∀ i c,s.children i=some c → Kept c
  historical : ∀ i c,s.children i=some c → s.historicalChildIds i=true
  reaped : ∀ e∈h,∀ i x,reapReported e=some (i,x) → ∃ c,s.children i=some c ∧ c.reap=some x
  receipts : ∀ e∈h,∀ i r,receiptReported e=some (i,r) →
    ∃ c,s.children i=some c ∧ c.completed=some r

variable {h : List (Entry NativeChildCall SupervisionError NativeChildAnswer)}
  {s : NativeChildSupervisor} {e : Entry NativeChildCall SupervisionError NativeChildAnswer}

/-- A call whose answer reports nothing new. -/
theorem Custodial.silent (hi : Custodial h s) (hr : reapReported e=none)
    (hc : receiptReported e=none) : Custodial (h++[e]) s := by
  refine ⟨hi.kept,hi.historical,fun e' he' i x hx => ?_,fun e' he' i r hx => ?_⟩
  · rcases List.mem_append.mp he' with he' | he'
    · exact hi.reaped e' he' i x hx
    · rw [List.mem_singleton.mp he',hr] at hx
      cases hx
  · rcases List.mem_append.mp he' with he' | he'
    · exact hi.receipts e' he' i r hx
    · rw [List.mem_singleton.mp he',hc] at hx
      cases hx

/-- A call on one child. -/
theorem Custodial.stepped {i : SupervisedChildId} {c c' : ManagedNativeChild} (hi : Custodial h s)
    (hc : s.children i=some c) (hs : Step c c')
    (hr : ∀ j x,reapReported e=some (j,x) → j=i ∧ c'.reap=some x)
    (hd : ∀ j r,receiptReported e=some (j,r) → j=i ∧ c'.completed=some r) :
    Custodial (h++[e]) (s.put i c') := by
  have hself : (s.put i c').children i=some c' := insert_same ..
  have hother {j : SupervisedChildId} (hj : j≠i) : (s.put i c').children j=s.children j :=
    insert_ne _ _ hj
  refine ⟨fun j d hj => ?_,fun j d hj => ?_,fun e' he' j x hx => ?_,fun e' he' j r hx => ?_⟩
  · by_cases heq : j=i
    · rw [heq,hself] at hj
      cases hj
      exact hs.1
    · exact hi.kept j d (hother heq ▸ hj)
  · by_cases heq : j=i
    · rw [heq]
      exact hi.historical i c hc
    · exact hi.historical j d (hother heq ▸ hj)
  · rcases List.mem_append.mp he' with he' | he'
    · obtain ⟨d,hd,hx⟩ := hi.reaped e' he' j x hx
      by_cases heq : j=i
      · rw [heq,hc] at hd
        cases hd
        exact ⟨c',heq ▸ hself,hs.2.reap x hx⟩
      · exact ⟨d,(hother heq).trans hd,hx⟩
    · rw [List.mem_singleton.mp he'] at hx
      obtain ⟨rfl,hx⟩ := hr j x hx
      exact ⟨c',hself,hx⟩
  · rcases List.mem_append.mp he' with he' | he'
    · obtain ⟨d,hd,hx⟩ := hi.receipts e' he' j r hx
      by_cases heq : j=i
      · rw [heq,hc] at hd
        cases hd
        exact ⟨c',heq ▸ hself,hs.2.completed r hx⟩
      · exact ⟨d,(hother heq).trans hd,hx⟩
    · rw [List.mem_singleton.mp he'] at hx
      obtain ⟨rfl,hx⟩ := hd j r hx
      exact ⟨c',hself,hx⟩

variable {hash : Bytes → Blake3Digest}

theorem ownProcess_fresh {os : SpawnAnswers} {p : OwnedNativeChildProcess} (hp : ownProcess os=.ok p) :
    p.record=.fresh ∧ p.directWait=none := by
  unfold ownProcess at hp
  split at hp
  · cases hp
  · split at hp
    · cases hp
    · split at hp
      · cases hp
      · cases hp
        exact ⟨rfl,rfl⟩

theorem Custodial.registered (hi : Custodial h s) {request : NativeChildSpawnRequest}
    {os : SpawnAnswers} {p : OwnedNativeChildProcess} (hp : ownProcess os=.ok p)
    (hnew : s.historicalChildIds request.childProcessId=false) :
    Custodial h (register request p os s) := by
  have hself : ∃ c,(register request p os s).children request.childProcessId=some c ∧ Kept c := by
    refine ⟨_,insert_same ..,?_⟩
    obtain ⟨hrecord,hwait⟩ := ownProcess_fresh hp
    have hnone (a : SignalAction) : p.record.attempts.count a=0 := by simp [hrecord,ProcessRecord.fresh]
    refine ⟨hnone _,hnone _,hnone _,Nat.zero_le _,?_,?_,?_,?_,?_,fun _ => ⟨rfl,rfl⟩⟩
    · intro hk
      cases hk
    · intro hx
      cases hx
    · intro _
      rw [hrecord]
      rfl
    · intro t ht
      change (if os.stderr then some _ else none)=some t at ht
      split at ht
      · cases ht
        refine ⟨fun _ => ?_,fun hr => by cases hr⟩
        rw [hrecord]
        rfl
      · cases ht
    · intro r hr
      cases hr
  have hother {j : SupervisedChildId} (hj : j≠request.childProcessId) :
      (register request p os s).children j=s.children j := insert_ne _ _ hj
  have hold {j : SupervisedChildId} {c : ManagedNativeChild} (hc : s.children j=some c) :
      j≠request.childProcessId := by
    rintro rfl
    rw [hi.historical _ c hc] at hnew
    cases hnew
  refine ⟨fun j d hj => ?_,fun j d hj => ?_,fun e' he' j x hx => ?_,fun e' he' j r hx => ?_⟩
  · by_cases heq : j=request.childProcessId
    · obtain ⟨c,hc,hk⟩ := hself
      rw [heq,hc] at hj
      cases hj
      exact hk
    · exact hi.kept j d (hother heq ▸ hj)
  · by_cases heq : j=request.childProcessId
    · rw [heq]
      exact insert_same ..
    · exact (insert_ne _ _ heq).trans (hi.historical j d (hother heq ▸ hj))
  · obtain ⟨d,hd,hx⟩ := hi.reaped e' he' j x hx
    exact ⟨d,(hother (hold hd)).trans hd,hx⟩
  · obtain ⟨d,hd,hx⟩ := hi.receipts e' he' j r hx
    exact ⟨d,(hother (hold hd)).trans hd,hx⟩

/-- A spawn whose request may be served. -/
def registering (request : NativeChildSpawnRequest) (os : SpawnAnswers) :
    NativeChildSupervisor.Action NativeChildSpawnOutcome := do
  lift os.reverified
  let p ← lift (ownProcess os)
  modify (register request p os)
  let facts : NativeChildSpawnFacts :=
    ⟨request.childProcessId,p.hostProcessId,p.processGroupId,request.workspaceDirectory,
      request.profile⟩
  match setupFailure os with
  | none => pure (.ready facts)
  | some failure => do
    ignore (childMut request.childProcessId (ManagedNativeChild.sendKill .zero os.kill))
    pure (.registeredSetupFailure facts failure)

theorem spawn_eq (request : NativeChildSpawnRequest) (os : SpawnAnswers) :
    spawn request os=preflightSpawn request os >>= fun _ => registering request os := rfl

theorem spawn_custodial (hi : Custodial h s) {request : NativeChildSpawnRequest} {os : SpawnAnswers}
    (hs : (setupFailure os).isNone || os.kill.accounted) :
    wp (spawn request os) (fun o t => Custodial (h++[(.spawn request os,.ok (.spawned o))]) t)
      (fun e t => Custodial (h++[(.spawn request os,.error e)]) t) s := by
  have hsilent (e : SupervisionError) : Custodial (h++[(.spawn request os,.error e)]) s :=
    hi.silent rfl rfl
  have hrest (hnew : s.historicalChildIds request.childProcessId=false) : wp (registering request os)
      (fun o t => Custodial (h++[(.spawn request os,.ok (.spawned o))]) t)
      (fun e t => Custodial (h++[(.spawn request os,.error e)]) t) s := by
    simp only [registering,wp_bind,wp_lift,wp_modify]
    refine ⟨fun _ _ => ⟨fun p hp => ?_,fun e _ => hsilent e⟩,fun e _ => hsilent e⟩
    have hi' := hi.registered hp hnew
    split
    · exact hi'.silent rfl rfl
    · next failure hf =>
      have hkill : os.kill.accounted=true := by simpa [hf] using hs
      simp only [wp_bind,wp_ignore,wp_pure]
      refine wp_childMut (fun _ => hi'.silent rfl rfl) (fun c hc => ?_)
      refine wp_mono (fun _ _ hstep => ?_) (fun _ _ hstep => ?_)
        (sendKill_step (hi'.kept _ c hc) (fun _ => hkill))
      · exact hi'.stepped hc hstep.1 (fun _ _ hx => by cases hx) (fun _ _ hx => by cases hx)
      · exact hi'.stepped hc hstep.1 (fun _ _ hx => by cases hx) (fun _ _ hx => by cases hx)
  rw [spawn_eq]
  simp only [preflightSpawn,wp_bind,wp_get,wp_ensure]
  refine ⟨fun hnew => ⟨fun _ => ?_,fun _ => hsilent _⟩,fun _ => hsilent _⟩
  have hrest := hrest hnew
  split
  · simp only [wp_bind,wp_ensure]
    refine ⟨fun _ => ?_,fun _ => hsilent _⟩
    exact (wp_lift ..).mpr ⟨fun _ _ => hrest,fun e _ => hsilent e⟩
  · simp only [wp_bind,wp_ensure,wp_fail]
    exact ⟨fun _ => hsilent _,fun _ => hsilent _⟩
  · exact hsilent _

theorem run_custodial (hi : Custodial h s) {call : NativeChildCall} (hs : s.sound call=true) :
    wp (call.run hash) (fun a t => Custodial (h++[(call,.ok a)]) t)
      (fun e t => Custodial (h++[(call,.error e)]) t) s := by
  cases call with
  | spawn request os => exact (wp_bind ..).mpr (spawn_custodial hi hs)
  | driveAt i now deadline os =>
    refine (wp_bind ..).mpr (wp_childMut (fun _ => hi.silent rfl rfl) (fun c hc => ?_))
    have hsound : driveSound now deadline os c=true := by simpa [sound,hc] using hs
    refine wp_mono (fun _ _ hstep => ?_) (fun _ _ hstep => ?_) (driveAt_step (hi.kept i c hc) hsound)
    · exact hi.stepped hc hstep (fun _ _ hx => by cases hx) (fun _ _ hx => by cases hx)
    · exact hi.stepped hc hstep (fun _ _ hx => by cases hx) (fun _ _ hx => by cases hx)
  | requestCancellationAt i now os =>
    refine (wp_bind ..).mpr (wp_childMut (fun _ => hi.silent rfl rfl) (fun c hc => ?_))
    have hsound : c.termSent=false → os.accounted=true := by
      intro ht
      simpa [sound,hc,ht] using hs
    refine wp_mono (fun _ _ hstep => ?_) (fun _ _ hstep => ?_) (sendTerm_step (hi.kept i c hc) hsound)
    · exact hi.stepped hc hstep.1 (fun _ _ hx => by cases hx) (fun _ _ hx => by cases hx)
    · exact hi.stepped hc hstep.1 (fun _ _ hx => by cases hx) (fun _ _ hx => by cases hx)
  | pollDirectChildReap i wait probe =>
    refine (wp_bind ..).mpr (wp_childMut (fun _ => hi.silent rfl rfl) (fun c hc => ?_))
    refine wp_mono (fun f c' hstep => ?_) (fun _ _ hstep => ?_) (pollDirectReap_step (hi.kept i c hc))
    · refine hi.stepped hc hstep.1 (fun j x hx => ?_) (fun _ _ hx => by cases hx)
      cases f with
      | none => cases hx
      | some f =>
        cases hx
        exact ⟨rfl,hstep.2 f rfl⟩
    · exact hi.stepped hc hstep (fun _ _ hx => by cases hx) (fun _ _ hx => by cases hx)
  | issueLingeringGroupCleanup i now os =>
    refine (wp_bind ..).mpr (wp_childMut (fun _ => hi.silent rfl rfl) (fun c hc => ?_))
    have hsound : c.signals.all (fun r => r.action≠.lingeringGroupKill)=true → os.accounted=true := by
      intro hn
      simp only [sound,hc,Option.all_some,hn,Bool.not_true,Bool.false_or] at hs
      exact hs
    refine wp_mono (fun _ _ hstep => ?_) (fun _ _ hstep => ?_)
      (issueLingeringCleanup_step (hi.kept i c hc) hsound)
    · exact hi.stepped hc hstep (fun _ _ hx => by cases hx) (fun _ _ hx => by cases hx)
    · exact hi.stepped hc hstep (fun _ _ hx => by cases hx) (fun _ _ hx => by cases hx)
  | completeDeferredReap i os =>
    refine (wp_bind ..).mpr (wp_childMut (fun _ => hi.silent rfl rfl) (fun c hc => ?_))
    have hsound : completionSound os c=true := by simpa [sound,hc] using hs
    refine wp_mono (fun r c' hstep => ?_) (fun _ _ hstep => ?_)
      (completeDeferredReap_step hash (hi.kept i c hc) hsound)
    · refine hi.stepped hc hstep.1 (fun j x hx => ?_) (fun j x hx => ?_)
      · cases hx
        exact ⟨rfl,by simp [reap,hstep.2]⟩
      · cases hx
        exact ⟨rfl,hstep.2⟩
    · exact hi.stepped hc hstep (fun _ _ hx => by cases hx) (fun _ _ hx => by cases hx)
  | readStderr i answer =>
    refine (wp_bind ..).mpr (wp_childMut (fun _ => hi.silent rfl rfl) (fun c hc => ?_))
    exact hi.stepped hc (readStderr_step (hi.kept i c hc) answer) (fun _ _ hx => by cases hx)
      (fun _ _ hx => by cases hx)

theorem NativeChildRun.custodial (hr : NativeChildRun hash h s) : Custodial h s := by
  refine hr.invariant Custodial (fun s hs => ?_) (fun _ _ _ _ ha hi => run_custodial hi ha)
  subst hs
  refine ⟨fun i c hc => ?_,fun i c hc => ?_,fun e he => ?_,fun e he => ?_⟩
  · cases hc
  · cases hc
  · cases he
  · cases he

/-- What the custody of native children promises, for the drives that are `allowed`. -/
structure Contained (hash : Bytes → Blake3Digest)
    (allowed : NativeChildSupervisor → NativeChildCall → Bool)
    (h : List (Entry NativeChildCall SupervisionError NativeChildAnswer))
    (s : NativeChildSupervisor) : Prop where
  killed : ∀ i c now deadline os,s.children i=some c → c.nativeChild.directWait=none →
    deadline.killAt.val≤now.val → allowed s (.driveAt i now deadline os)=true →
      ∃ c',((NativeChildCall.driveAt i now deadline os).run hash s).2.children i=some c' ∧
        ∃ r∈c'.signals,r.action=.kill
  once : ∀ i c a,s.children i=some c → a≠.abortControl → c.nativeChild.record.attempts.count a≤1
  facts : ∀ e∈h,∀ e'∈h,∀ i x y,reapReported e=some (i,x) → reapReported e'=some (i,y) → x=y
  complete : ∀ e∈h,∀ i r,receiptReported e=some (i,r) → ∃ c,s.children i=some c ∧
    CompleteStream r.stdout c.nativeChild.record.stdout ∧
      CompleteStream r.stderr c.nativeChild.record.stderr

theorem driveAt_recorded (hi : Custodial h s) {i : SupervisedChildId} {c : ManagedNativeChild}
    {now : MonotonicTick} {deadline : NativeChildDeadline} {os : DriveAnswers}
    (hc : s.children i=some c) (hw : c.nativeChild.directWait=none)
    (hdue : deadline.killAt.val≤now.val) (hs : driveSound now deadline os c=true) :
    ∃ c',((NativeChildCall.driveAt i now deadline os).run hash s).2.children i=some c' ∧
      ∃ r∈c'.signals,r.action=.kill := by
  have hk := hi.kept i c hc
  obtain ⟨hp,hd⟩ := hk.collected hw
  have hrecorded (c' : ManagedNativeChild) (hs' : Step c c' ∧ c'.killSent=true) :
      ∃ c'',(s.put i c').children i=some c'' ∧ ∃ r∈c''.signals,r.action=.kill :=
    ⟨c',insert_same ..,hs'.1.1.killed hs'.2⟩
  refine wp_state (P := fun t : NativeChildSupervisor =>
    ∃ c',t.children i=some c' ∧ ∃ r∈c'.signals,r.action=.kill) ((wp_bind ..).mpr (wp_childMut ?_ ?_))
  · intro hn
    rw [hc] at hn
    cases hn
  · intro d hd'
    rw [hc] at hd'
    cases hd'
    exact wp_mono (fun _ c' => hrecorded c') (fun _ c' => hrecorded c')
      (wp_and (driveAt_step hk hs) (driveAt_kills hk hs hp hd hw hdue))

/-- Every native child is contained, while the operating system's answers are sound. -/
theorem native_children_contained (hr : NativeChildRun hash h s) : Contained hash sound h s := by
  have hi := hr.custodial
  refine ⟨fun i c now deadline os hc hw hdue hs => ?_,fun i c a hc ha => ?_,?_,?_⟩
  · refine driveAt_recorded hi hc hw hdue ?_
    simpa [sound,hc] using hs
  · have hk := hi.kept i c hc
    cases a with
    | abortControl => exact absurd rfl ha
    | terminate => exact hk.term ▸ Bool.toNat_le _
    | kill => exact hk.kill ▸ Bool.toNat_le _
    | lingeringGroupKill => exact hk.lingering ▸ hk.lingeringOnce
  · intro e he e' he' i x y hx hy
    obtain ⟨c,hc,hreap⟩ := hi.reaped e he i x hx
    obtain ⟨c',hc',hreap'⟩ := hi.reaped e' he' i y hy
    rw [hc] at hc'
    cases hc'
    exact Option.some.inj (hreap.symm.trans hreap')
  · intro e he i r hr
    obtain ⟨c,hc,hd⟩ := hi.receipts e he i r hr
    exact ⟨c,hc,((hi.kept i c hc).completed r hd).2⟩

/-- A drive that finds the output over its bound sends no SIGKILL, however late it is. -/
theorem driveAt_overrun {c : ManagedNativeChild} {now : MonotonicTick} {deadline : NativeChildDeadline}
    {os : DriveAnswers} {chunks : List Bytes} (ho : os.stdoutReads=chunks.map .chunk)
    (hs : c.stdout=true) (hn : [] ∉ chunks) (hover : c.stdoutCapture.room<(chunks.map (·.length)).sum)
    (ha : os.term.accounted=true) :
    wp (driveAt now deadline os) (fun _ c' => c'.signals=c.signals)
      (fun _ c' => ∀ r∈c'.signals,r∈c.signals ∨ r.action=.terminate) c := by
  simp only [driveAt,wp_bind,wp_get]
  split
  · rfl
  · have hreads := drain_exceeds [] c hs hn hover
    rw [List.append_nil,← ho] at hreads
    simp only [wp_bind]
    refine wp_mono (fun exceeded c₁ hd => ?_) (fun _ _ hd => hd.2.elim)
      (wp_and (drain_drained os.stdoutReads c) hreads)
    obtain ⟨hd,rfl⟩ := hd
    have hsame : c₁.signals=c.signals := by rw [hd.same]
    simp only [if_true,wp_pure,wp_bind,wp_fail]
    refine sendTerm_wp (fun _ => ha) (fun _ r hr => ?_) (fun _ _ q hq r hr => ?_) (fun _ _ _ r hr => ?_)
    · exact .inl (hsame ▸ hr)
    · rcases List.mem_append.mp hr with hr | hr
      · exact .inl (hsame ▸ hr)
      · exact .inr (List.mem_singleton.mp hr ▸ hq)
    · exact .inl (hsame ▸ hr)

/-- The same of the registry. -/
theorem overrun_unkilled {i : SupervisedChildId} {c d : ManagedNativeChild} {now : MonotonicTick}
    {deadline : NativeChildDeadline} {os : DriveAnswers} {chunks : List Bytes}
    (hc : s.children i=some c) (ho : os.stdoutReads=chunks.map .chunk) (hs : c.stdout=true)
    (hn : [] ∉ chunks) (hover : c.stdoutCapture.room<(chunks.map (·.length)).sum)
    (ha : os.term.accounted=true)
    (hd : ((NativeChildCall.driveAt i now deadline os).run hash s).2.children i=some d) :
    ∀ r∈d.signals,r∈c.signals ∨ r.action=.terminate := by
  have hput (c' : ManagedNativeChild) (hc' : ∀ r∈c'.signals,r∈c.signals ∨ r.action=.terminate) :
      ∀ d,(s.put i c').children i=some d → ∀ r∈d.signals,r∈c.signals ∨ r.action=.terminate := by
    intro d hd
    rw [put_self] at hd
    cases hd
    exact hc'
  refine wp_state (P := fun t : NativeChildSupervisor =>
    ∀ d,t.children i=some d → ∀ r∈d.signals,r∈c.signals ∨ r.action=.terminate)
    ((wp_bind ..).mpr (wp_childMut (fun hnone => ?_) (fun c₀ hc₀ => ?_))) d hd
  · rw [hc] at hnone
    cases hnone
  · rw [hc] at hc₀
    cases hc₀
    refine wp_mono (fun _ c' hsame => ?_) (fun _ c' hc' => hput c' hc') (driveAt_overrun ho hs hn hover ha)
    exact hput c' (fun r hr => .inl (hsame ▸ hr))

theorem evaluator_identifier : isDomainIdentifier "evaluator"=true := by decide +kernel

def evaluatorName : SupervisedChildId := ⟨"evaluator",evaluator_identifier⟩

theorem evaluator_directory : isAbsolutePath "/evaluator"=true := by decide +kernel

def evaluatorRequest : NativeChildSpawnRequest :=
  ⟨evaluatorName,⟨"/evaluator",evaluator_directory⟩,["evaluate"],.deterministicEvaluatorDirectExecutableV1⟩

def delivered : SignalAnswers := ⟨.done,.done,.done⟩

def spawnAnswers : SpawnAnswers :=
  ⟨some ⟨"/evaluator",evaluator_directory⟩,some true,.ok (),.ok (),some 7,true,true,true,delivered⟩

def tick (n : Nat) : MonotonicTick := ⟨n%1000,Nat.zero_le _,by
  have := Nat.mod_lt n (show 0<1000 by decide)
  unfold u64Max
  omega⟩

/-- The drive of an evaluator with these reads, once its SIGKILL is due. -/
def overdueDrive (reads : List ReadAnswer) : NativeChildCall :=
  .driveAt evaluatorName (tick 9) ⟨tick 3,tick 4⟩ ⟨reads,true,delivered,delivered⟩

/-- An evaluator that writes a little, runs into its deadline and is reaped. -/
def containedRun : List NativeChildCall :=
  [.spawn evaluatorRequest spawnAnswers,
   .readStderr evaluatorName (.chunk [1]),
   overdueDrive [.chunk [2,3],.wouldBlock],
   .readStderr evaluatorName (.chunk []),
   .pollDirectChildReap evaluatorName (some (some ⟨none,some 9⟩)) .esrch,
   .completeDeferredReap evaluatorName ⟨.esrch,[.chunk []],[],true,true⟩]

def evaluation (calls : List NativeChildCall) :
    List (Entry NativeChildCall SupervisionError NativeChildAnswer) × NativeChildSupervisor :=
  trace (NativeChildCall.run digest) [] .new calls

theorem evaluation_sound {calls : List NativeChildCall}
    (hp : passes (NativeChildCall.run digest) (fun _ s c => s.sound c) [] .new calls=true) :
    NativeChildRun digest (evaluation calls).1 (evaluation calls).2 :=
  Reached.trace (fun _ _ _ h => h) calls (.start rfl) hp

theorem native_children_contained_containedRun :
    ((evaluation containedRun).2.children evaluatorName).any (fun c => c.signals.length=2 &&
      c.completed.any (fun r => r.stdout.retention=.complete && r.stdout.retainedBytes=[2,3]))=true ∧
    Contained digest sound (evaluation containedRun).1 (evaluation containedRun).2 :=
  ⟨by decide +kernel,native_children_contained (evaluation_sound (by decide +kernel))⟩

/-- The evaluator before it writes. -/
def spawnedRun : List NativeChildCall := [.spawn evaluatorRequest spawnAnswers]

/-- Nine full reads. -/
def overrunChunks : List Bytes := List.replicate 9 (List.replicate 8192 0)

theorem overrunChunks_over : (overrunChunks.map (·.length)).sum=9*8192 := by
  rw [overrunChunks,List.map_replicate,List.sum_replicate_nat,List.length_replicate]

theorem nil_overrunChunks : [] ∉ overrunChunks := by
  intro h
  have hlen := congrArg List.length (List.eq_of_mem_replicate h)
  rw [List.length_replicate] at hlen
  cases hlen

/-- An evaluator that has written more than its bound when its SIGKILL is due is not sent it. -/
theorem spawnedRun_unkilled :
    Reached (NativeChildCall.run digest) (·=NativeChildSupervisor.new) (fun _ _ _ => True)
      (evaluation spawnedRun).1 (evaluation spawnedRun).2 ∧
    ¬Contained digest (fun _ _ => true) (evaluation spawnedRun).1 (evaluation spawnedRun).2 := by
  refine ⟨Reached.trace (fun _ _ _ _ => trivial) spawnedRun (.start rfl) (passes_true _),fun hc => ?_⟩
  obtain ⟨c,hchild,hs,hcapture,hsignals,hwait⟩ :
      ∃ c,(evaluation spawnedRun).2.children evaluatorName=some c ∧ c.stdout=true ∧
        c.stdoutCapture=.initial ∧ c.signals=[] ∧ c.nativeChild.directWait=none :=
    ⟨_,rfl,rfl,rfl,rfl,rfl⟩
  obtain ⟨c',hc',r,hr,hkill⟩ := hc.killed evaluatorName c (tick 9) ⟨tick 3,tick 4⟩
    ⟨overrunChunks.map .chunk,true,delivered,delivered⟩ hchild hwait (by decide) rfl
  have hover : c.stdoutCapture.room<(overrunChunks.map (·.length)).sum := by
    rw [overrunChunks_over,hcapture]
    decide
  have := overrun_unkilled hchild rfl hs nil_overrunChunks hover rfl hc' r hr
  rw [hsignals,hkill] at this
  exact this.elim (by simp) (by simp)

end Registry
end Society.Custody
