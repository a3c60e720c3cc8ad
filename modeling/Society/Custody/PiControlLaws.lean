import Society.Custody.PiFrames

namespace Society.Custody
open Society.Boundary Society.Stateful Society.Coding

/-! What reaches a Pi child through its control pipe, over every run of the supervisor on it. -/

namespace ManagedPiChild
open Handler

variable {c c₁ c' : ManagedPiChild} {α β : Type} {labels labels' : PendingControlCommand → Prop}

section Invariant

/-- The Aborts that the peer has admitted. -/
def aborts (c : ManagedPiChild) : Nat := c.admitted.countP (fun f => f.1=.abort)

/-- What holds of the control of a child between the calls on it. -/
structure Guarded (c : ManagedPiChild) : Prop where
  ordered : c.written <+: c.admittedBytes
  whole : c.stdin=true → c.admittedBytes=c.written++c.left
  closed : ∀ p,c.cancellation=some p → p.mode≠.quiesce → c.lifecycle.closed=true
  pending : ∀ p q,c.cancellation=some p → c.pendingControl=some q →
    q.command=.abort ∨ (q.command=.dispose ∧ p.mode=.quiesce)
  staged : ∀ q,c.pendingControl=some q → c.admitted.getLast?=some (q.command,q.bytes)
  aborts : c.aborts≤1 ∧ (c.cancellation=none → c.aborts=0)
  peer : c.lifecycle=.sessionReady → c.peer.isSome=true

/-- What a call on the child adds: admitted frames of the `labels`, and bytes to an open pipe. -/
structure Flow (labels : PendingControlCommand → Prop) (c c' : ManagedPiChild) : Prop where
  admitted : ∃ frames,c'.admitted=c.admitted++frames ∧ ∀ f∈frames,labels f.1
  written : c.written <+: c'.written
  stdin : c.stdin=false → c'.stdin=false ∧ c'.written=c.written
  lineage : ∀ p,c.cancellation=some p → ∃ p',c'.cancellation=some p' ∧
    (p'.explicitRequest=none ∨ p'.mode=.emergencyStop ∨
      (p'.mode=p.mode ∧ p'.explicitRequest=p.explicitRequest))

theorem Flow.refl (c : ManagedPiChild) : Flow labels c c :=
  ⟨⟨[],(List.append_nil _).symm,by simp⟩,List.prefix_rfl,fun h => ⟨h,rfl⟩,
    fun p hp => ⟨p,hp,.inr (.inr ⟨rfl,rfl⟩)⟩⟩

theorem Flow.trans (h : Flow labels c c₁) (h' : Flow labels c₁ c') : Flow labels c c' where
  admitted := by
    obtain ⟨new,ha,hl⟩ := h.admitted
    obtain ⟨new',ha',hl'⟩ := h'.admitted
    refine ⟨new++new',by rw [ha',ha,List.append_assoc],fun f hf => ?_⟩
    exact (List.mem_append.mp hf).elim (hl f) (hl' f)
  written := h.written.trans h'.written
  stdin hs := by
    obtain ⟨hs₁,hw⟩ := h.stdin hs
    obtain ⟨hs',hw'⟩ := h'.stdin hs₁
    exact ⟨hs',hw'.trans hw⟩
  lineage p hp := by
    obtain ⟨p₁,hp₁,hl⟩ := h.lineage p hp
    obtain ⟨p',hp',hl'⟩ := h'.lineage p₁ hp₁
    refine ⟨p',hp',?_⟩
    rcases hl' with hl' | hl' | ⟨hm,hr⟩
    · exact .inl hl'
    · exact .inr (.inl hl')
    · rw [hm,hr]
      exact hl

theorem Flow.mono (hm : ∀ l,labels l → labels' l) (h : Flow labels c c') : Flow labels' c c' := by
  obtain ⟨new,ha,hl⟩ := h.admitted
  exact ⟨⟨new,ha,fun f hf => hm _ (hl f hf)⟩,h.written,h.stdin,h.lineage⟩

/-- A call that keeps the invariant. -/
structure Sound (labels : PendingControlCommand → Prop) (c c' : ManagedPiChild) : Prop where
  guarded : Guarded c'
  flow : Flow labels c c'

theorem Sound.refl (h : Guarded c) : Sound labels c c := ⟨h,.refl c⟩

theorem Sound.trans (h : Sound labels c c₁) (h' : Sound labels c₁ c') : Sound labels c c' :=
  ⟨h'.guarded,h.flow.trans h'.flow⟩

theorem Settled.flow (h : Settled c c') : Flow labels c c' := by
  refine ⟨⟨[],by rw [h.admitted,List.append_nil],by simp⟩,h.written ▸ List.prefix_rfl,fun hs => ?_,
    fun p hp => ?_⟩
  · refine ⟨?_,h.written⟩
    cases hs' : c'.stdin with
    | false => rfl
    | true => exact (h.stdin hs').symm.trans hs ▸ rfl
  · have hl := h.lineage
    simp only [ManagedPiChild.lineage,hp,Option.map_some] at hl
    obtain ⟨p',hp',he⟩ := Option.map_eq_some_iff.mp hl
    obtain ⟨hm,hr⟩ := Prod.mk.inj he
    exact ⟨p',hp',.inr (.inr ⟨hm,hr⟩)⟩

theorem Settled.guarded (h : Settled c c') (hg : Guarded c) : Guarded c' := by
  have hbytes : c'.admittedBytes=c.admittedBytes := by rw [admittedBytes,h.admitted,admittedBytes]
  have hleft : c'.left=c.left := by rw [left,h.pending,left]
  have hmode (p' : CancellationProgress) (hp' : c'.cancellation=some p') :
      ∃ p,c.cancellation=some p ∧ p.mode=p'.mode := by
    have hl := h.lineage.symm
    simp only [ManagedPiChild.lineage,hp',Option.map_some] at hl
    obtain ⟨p,hp,he⟩ := Option.map_eq_some_iff.mp hl
    exact ⟨p,hp,(Prod.mk.inj he).1⟩
  have haborts : c'.aborts=c.aborts := by rw [ManagedPiChild.aborts,h.admitted,ManagedPiChild.aborts]
  refine ⟨?_,fun hs => ?_,fun p' hp' hq => ?_,fun p' q hp' hq => ?_,fun q hq => ?_,⟨?_,fun hn => ?_⟩,
    fun hl => ?_⟩
  · rw [h.written,hbytes]
    exact hg.ordered
  · rw [h.written,hbytes,hleft]
    exact hg.whole (h.stdin hs)
  · obtain ⟨p,hp,hm⟩ := hmode p' hp'
    rcases h.lifecycle with hl | hl
    · rw [hl]
      exact hg.closed p hp (hm ▸ hq)
    · exact hl
  · obtain ⟨p,hp,hm⟩ := hmode p' hp'
    rw [← hm]
    exact hg.pending p q hp (h.pending ▸ hq)
  · rw [h.admitted]
    exact hg.staged q (h.pending ▸ hq)
  · rw [haborts]
    exact hg.aborts.1
  · have hl := h.lineage
    simp only [ManagedPiChild.lineage,hn,Option.map_none] at hl
    rw [haborts]
    exact hg.aborts.2 (Option.map_eq_none_iff.mp hl.symm)
  · refine h.peer (hg.peer ?_)
    rcases h.lifecycle with hl' | hl'
    · exact hl'.symm.trans hl
    · rw [hl] at hl'
      cases hl'

theorem Settled.sound (h : Settled c c') (hg : Guarded c) : Sound labels c c' :=
  ⟨h.guarded hg,h.flow⟩

/-- A call after which the invariant holds, whatever it answers. -/
abbrev Secures (labels : PendingControlCommand → Prop) (m : Action α) (c : ManagedPiChild) : Prop :=
  wp m (fun _ c' => Sound labels c c') (fun _ c' => Sound labels c c') c

theorem Settles.secures {m : Action α} (hm : Settles m) (hg : Guarded c) : Secures labels m c :=
  wp_mono (fun _ _ h => h.sound hg) (fun _ _ h => h.sound hg) (hm.run c)

end Invariant
section Containment

/-- A call that closes the writer and drops what it had not taken. -/
theorem sound_shut (hg : Guarded c) (ha : c'.admitted=c.admitted) (hw : c'.written=c.written)
    (hs : c'.stdin=false) (hp : c'.pendingControl=none)
    (hc : ∀ p,c'.cancellation=some p → p.mode≠.quiesce → c'.lifecycle.closed=true)
    (hl : ∀ p,c.cancellation=some p → ∃ p',c'.cancellation=some p' ∧ (p'.explicitRequest=none ∨
      p'.mode=.emergencyStop ∨ (p'.mode=p.mode ∧ p'.explicitRequest=p.explicitRequest)))
    (hr : c'.lifecycle=.sessionReady → c'.peer.isSome=true) : Sound labels c c' := by
  have hbytes : c'.admittedBytes=c.admittedBytes := by rw [admittedBytes,ha,admittedBytes]
  have haborts : c'.aborts=c.aborts := by rw [ManagedPiChild.aborts,ha,ManagedPiChild.aborts]
  refine ⟨⟨?_,fun ht => ?_,hc,fun p q _ hq => ?_,fun q hq => ?_,⟨haborts ▸ hg.aborts.1,fun hn => ?_⟩,hr⟩,
    ⟨[],?_,by simp⟩,hw ▸ List.prefix_rfl,fun _ => ⟨hs,hw⟩,hl⟩
  · rw [hw,hbytes]
    exact hg.ordered
  · rw [hs] at ht
    cases ht
  · rw [hp] at hq
    cases hq
  · rw [hp] at hq
    cases hq
  · rw [haborts]
    refine hg.aborts.2 (Option.eq_none_iff_forall_ne_some.mpr (fun p hp => ?_))
    obtain ⟨p',hp',-⟩ := hl p hp
    rw [hn] at hp'
    cases hp'
  · rw [ha,List.append_nil]

theorem automatic_request {now : MonotonicTick} {p : CancellationProgress}
    (hp : CancellationProgress.automaticBoundaryContainment now=.ok p) : p.explicitRequest=none := by
  simp only [CancellationProgress.automaticBoundaryContainment,CancellationDeadlines.forMode] at hp
  cases hd : CancellationDeadlines.at ⟨1000,2000⟩ now with
  | error e =>
    rw [hd] at hp
    cases hp
  | ok deadlines =>
    rw [hd] at hp
    cases hp
    rfl

/-- Containment adds nothing: it closes the writer, or finds the child reaped. -/
theorem startAutomaticBoundaryContainment_sound (hg : Guarded c) (now : MonotonicTick) :
    Secures labels (startAutomaticBoundaryContainment now) c := by
  have hsame (p : CancellationProgress) (hp : c.cancellation=some p) : ∃ p',c.cancellation=some p' ∧
      (p'.explicitRequest=none ∨ p'.mode=.emergencyStop ∨
        (p'.mode=p.mode ∧ p'.explicitRequest=p.explicitRequest)) := ⟨p,hp,.inr (.inr ⟨rfl,rfl⟩)⟩
  simp only [startAutomaticBoundaryContainment,wp_bind,wp_get]
  split
  · exact Sound.refl hg
  · simp only [wp_bind,wp_modify]
    split
    · exact sound_shut hg rfl rfl rfl rfl (fun _ _ _ => rfl) hsame (fun hl => (by cases hl))
    · simp only [wp_bind,wp_lift]
      refine ⟨fun automatic ha => ?_,fun _ _ => ?_⟩
      · have hnone := automatic_request ha
        exact sound_shut hg rfl rfl rfl rfl (fun _ _ _ => rfl) (fun _ _ => ⟨_,rfl,.inl hnone⟩)
          (fun hl => (by cases hl))
      · exact sound_shut hg rfl rfl rfl rfl hg.closed hsame hg.peer

theorem contain_sound (hg : Guarded c) (now : MonotonicTick) (e : SupervisionError) :
    Secures labels (contain now e : Action α) c := by
  refine (wp_bind ..).mpr ?_
  exact wp_mono (fun _ _ h => h) (fun _ _ h => h) (startAutomaticBoundaryContainment_sound hg now)

theorem orContain_wp {m : Action α} {Q : α → ManagedPiChild → Prop} (now : MonotonicTick)
    (hm : wp m Q (fun _ c' => Sound labels c c') c) :
    wp (orContain now m) Q (fun _ c' => Sound labels c c') c := by
  refine (wp_bind ..).mpr ((wp_attempt ..).mpr (wp_mono (fun _ _ h => h) (fun e c₁ h => ?_) hm))
  refine (wp_bind ..).mpr ?_
  exact wp_mono (fun _ _ h' => h.trans h') (fun _ _ h' => h.trans h')
    (startAutomaticBoundaryContainment_sound h.guarded now)

end Containment
section Writing

/-- The child stays in its lifecycle, under the cancellation it had. -/
structure Steady (c c' : ManagedPiChild) : Prop where
  lifecycle : c'.lifecycle=c.lifecycle
  lineage : c'.lineage=c.lineage

theorem Steady.trans (h : Steady c c₁) (h' : Steady c₁ c') : Steady c c' :=
  ⟨h'.lifecycle.trans h.lifecycle,h'.lineage.trans h.lineage⟩

/-- The frame is written. -/
theorem delivered_sound {p : PendingControlWrite} (hg : Guarded c) (hp : c.pendingControl=some p)
    (hlen : p.nextByteOffset=p.bytes.length) : Sound labels c c.delivered := by
  have hleft : c.left=[] := by
    simp only [left,hp,hlen]
    exact List.drop_length
  refine ⟨⟨hg.ordered,fun hs => ?_,hg.closed,fun _ q _ hq => ?_,fun q hq => ?_,hg.aborts,hg.peer⟩,
    ⟨[],?_,by simp⟩,List.prefix_rfl,fun hs => ⟨hs,rfl⟩,fun p hp => ⟨p,hp,.inr (.inr ⟨rfl,rfl⟩)⟩⟩
  · have := hg.whole hs
    rw [hleft] at this
    exact this
  · cases hq
  · cases hq
  · exact (List.append_nil _).symm

theorem recordControlDelivery_settles (command : PendingControlCommand) (now : MonotonicTick)
    (probe : KillAnswer) : Settles (recordControlDelivery command now probe) := by
  refine .ite (.pure _) ((settles_groupLiveness probe).bind (fun l => ?_))
  refine ⟨fun c => ?_⟩
  rw [wp_bind,wp_get]
  split
  · exact Settled.refl c
  · next p hp =>
    refine ⟨rfl,rfl,rfl,id,?_,.inl rfl,id⟩
    simp only [deliver,ManagedPiChild.lineage,hp,Option.map_some]

theorem recordControlDelivery_steady (command : PendingControlCommand) (now : MonotonicTick)
    (probe : KillAnswer) (c : ManagedPiChild) :
    wp (recordControlDelivery command now probe) (fun _ => Steady c) (fun _ _ => True) c := by
  unfold recordControlDelivery
  split
  · exact ⟨rfl,rfl⟩
  · simp only [wp_bind,groupLiveness,wp_lift,wp_get]
    refine ⟨fun l _ => ?_,fun _ _ => trivial⟩
    split
    · trivial
    · next p hp =>
      refine ⟨rfl,?_⟩
      simp only [deliver,ManagedPiChild.lineage,hp,Option.map_some]

theorem flushHead_wp (hg : Guarded c) (now : MonotonicTick) (probe : KillAnswer) :
    wp (flushHead now probe) (fun rest c' => (rest=none → Sound labels c c' ∧ Steady c c') ∧
        ∀ p,rest=some p → c'=c ∧ c.pendingControl=some p ∧ c.stdin=true)
      (fun _ c' => Sound labels c c') c := by
  simp only [flushHead,wp_bind,wp_get]
  split
  · exact Sound.refl hg
  · next p hp =>
    split
    · next hlen =>
      have hd : Sound labels c c.delivered := delivered_sound hg hp hlen
      simp only [wp_bind,wp_modify,wp_pure]
      refine wp_mono (fun _ c' h => ⟨fun _ => ⟨hd.trans (h.1.sound hd.guarded),?_⟩,fun _ hn => by cases hn⟩)
        (fun _ _ h => hd.trans (h.1.sound hd.guarded))
        (wp_and ((recordControlDelivery_settles p.command now probe).run c.delivered)
          (recordControlDelivery_steady p.command now probe c.delivered))
      exact (⟨rfl,rfl⟩ : Steady c c.delivered).trans h.2
    · simp only [wp_bind,wp_ensure,wp_pure]
      refine ⟨fun hs => ⟨(fun hn => (by cases hn)),fun q hq => ?_⟩,fun _ => Sound.refl hg⟩
      cases hq
      exact ⟨trivial,hp,hs⟩

theorem wrote_sound {p : PendingControlWrite} (hg : Guarded c) (hp : c.pendingControl=some p)
    (hs : c.stdin=true) (n : Nat) :
    Sound labels c (c.wrote ((p.bytes.drop p.nextByteOffset).take n) p) := by
  generalize hb : (p.bytes.drop p.nextByteOffset).take n=bytes
  have hleft : c.left=p.bytes.drop p.nextByteOffset := by simp only [left,hp]
  have hsplit : p.bytes.drop p.nextByteOffset=bytes++p.bytes.drop (p.nextByteOffset+bytes.length) := by
    rw [← List.drop_drop,← hb,List.length_take]
    rcases Nat.le_total n (p.bytes.drop p.nextByteOffset).length with hn | hn
    · rw [Nat.min_eq_left hn,List.take_append_drop]
    · rw [Nat.min_eq_right hn,List.take_of_length_le hn,List.drop_length,List.append_nil]
  have hwhole : (c.wrote bytes p).admittedBytes=(c.wrote bytes p).written++(c.wrote bytes p).left := by
    have := hg.whole hs
    rw [hleft,hsplit,← List.append_assoc] at this
    exact this
  refine ⟨⟨⟨_,hwhole.symm⟩,fun _ => hwhole,hg.closed,fun q r hq hr => ?_,fun r hr => ?_,hg.aborts,hg.peer⟩,
    ⟨[],?_,by simp⟩,?_,fun hf => ?_,fun p hp => ⟨p,hp,.inr (.inr ⟨rfl,rfl⟩)⟩⟩
  · cases hr
    exact hg.pending q p hq hp
  · cases hr
    exact hg.staged p hp
  · exact (List.append_nil _).symm
  · exact ⟨bytes,rfl⟩
  · rw [hs] at hf
    cases hf

/-- What a write to the pipe leaves, whatever the pipe takes. -/
theorem flushWrites_wp (now : MonotonicTick) (probe : KillAnswer) (writes : List WriteAnswer)
    (hg : Guarded c) : wp (flushWrites now probe writes) (fun _ c' => Sound labels c c' ∧ Steady c c')
      (fun _ c' => Sound labels c c') c := by
  induction writes generalizing c with
  | nil =>
    simp only [flushWrites,wp_bind,wp_pure]
    refine wp_mono (fun rest c' h => ?_) (fun _ _ h => h) (flushHead_wp hg now probe)
    cases rest with
    | none => exact h.1 rfl
    | some p =>
      obtain ⟨rfl,-⟩ := h.2 p rfl
      exact ⟨Sound.refl hg,rfl,rfl⟩
  | cons a writes ih =>
    cases a with
    | wouldBlock =>
      simp only [flushWrites,wp_bind,wp_pure]
      refine wp_mono (fun rest c' h => ?_) (fun _ _ h => h) (flushHead_wp hg now probe)
      cases rest with
      | none => exact h.1 rfl
      | some p =>
        obtain ⟨rfl,-⟩ := h.2 p rfl
        exact ⟨Sound.refl hg,rfl,rfl⟩
    | failed =>
      simp only [flushWrites,wp_bind]
      refine wp_mono (fun rest c' h => ?_) (fun _ _ h => h) (flushHead_wp hg now probe)
      cases rest with
      | none => exact h.1 rfl
      | some p =>
        obtain ⟨rfl,hp,hs⟩ := h.2 p rfl
        have hstop : Settled c' {c' with stdin := false} :=
          ⟨rfl,rfl,rfl,fun ht => Bool.noConfusion ht,rfl,.inl rfl,id⟩
        exact hstop.sound hg
    | wrote n =>
      simp only [flushWrites,wp_bind]
      refine wp_mono (fun rest c' h => ?_) (fun _ _ h => h) (flushHead_wp hg now probe)
      cases rest with
      | none => exact h.1 rfl
      | some p =>
        obtain ⟨rfl,hp,hs⟩ := h.2 p rfl
        have hw : Sound labels c' (c'.wrote ((p.bytes.drop p.nextByteOffset).take n) p) :=
          wrote_sound hg hp hs n
        simp only [wp_bind,wp_ensure,wp_modify]
        refine ⟨fun _ => ?_,fun _ => Sound.refl hg⟩
        have hsteady : Steady c' (c'.wrote ((p.bytes.drop p.nextByteOffset).take n) p) := ⟨rfl,rfl⟩
        exact wp_mono (fun _ _ h => ⟨hw.trans h.1,hsteady.trans h.2⟩) (fun _ _ h => hw.trans h)
          (ih hw.guarded)

theorem flushPendingControl_wp (hg : Guarded c) (now : MonotonicTick) (os : WriteAnswers) :
    wp (flushPendingControl now os) (fun _ c' => Sound labels c c' ∧ Steady c c')
      (fun _ c' => Sound labels c c') c := by
  simp only [flushPendingControl,wp_bind,wp_get]
  split
  · exact Sound.refl hg
  · simp only [wp_bind,wp_ensure]
    exact ⟨fun _ => flushWrites_wp now os.probe os.writes hg,fun _ => Sound.refl hg⟩

end Writing
section Staging
variable (wire : Wire)

/-- The frame can be written as a line that the peer admits. -/
def admits (frame : InboundFrame) (c : ManagedPiChild) : Bool :=
  match wire.encodeInbound frame with
  | .error _ => false
  | .ok line => c.peer.any (fun p => (LinePeer.admitInboundJsonlBytes wire line p).1.isOk)

/-- No stop stands against the frame: it is the one Abort of a cancellation, or a Dispose under
Quiesce. -/
structure Fits (label : PendingControlCommand) (c : ManagedPiChild) : Prop where
  stop : ∀ p,c.cancellation=some p → label=.abort ∨ (label=.dispose ∧ p.mode=.quiesce)
  abort : label=.abort → c.cancellation.isSome=true ∧ c.aborts=0

theorem stage_sound {label : PendingControlCommand} (hg : Guarded c) (hn : c.pendingControl=none)
    (hl : labels label) (hf : Fits label c)
    (line : Bytes) (deadline : MonotonicTick) : Sound labels c (c.stage line label deadline) := by
  have hbytes : (c.stage line label deadline).admittedBytes=c.admittedBytes++(line++[10]) := by
    simp [admittedBytes,stage]
  have hleft : c.left=[] := by simp only [left,hn]
  have haborts : (c.stage line label deadline).aborts=c.aborts+(if label=.abort then 1 else 0) := by
    by_cases hl : label=.abort <;> simp [ManagedPiChild.aborts,stage,List.countP_append,hl]
  refine ⟨⟨?_,fun hs => ?_,hg.closed,fun p q hp hq => ?_,fun q hq => ?_,⟨?_,fun hnone => ?_⟩,hg.peer⟩,
    ⟨[(label,line++[10])],rfl,?_⟩,List.prefix_rfl,fun hs => ⟨hs,rfl⟩,
    fun p hp => ⟨p,hp,.inr (.inr ⟨rfl,rfl⟩)⟩⟩
  · rw [hbytes]
    exact hg.ordered.trans (List.prefix_append _ _)
  · have := hg.whole hs
    rw [hleft,List.append_nil] at this
    rw [hbytes,this]
    rfl
  · cases hq
    exact hf.stop p hp
  · cases hq
    exact List.getLast?_concat
  · rw [haborts]
    split
    · next ha => rw [(hf.abort ha).2]
    · exact hg.aborts.1
  · rw [haborts]
    split
    · next ha =>
      have hsome := (hf.abort ha).1
      rw [show c.cancellation=none from hnone] at hsome
      cases hsome
    · exact hg.aborts.2 hnone
  · intro f hf
    rw [List.mem_singleton.mp hf]
    exact hl

theorem onPeer_wp {m : LinePeer.Action β} {Q : Except PeerError β → ManagedPiChild → Prop}
    {E : SupervisionError → ManagedPiChild → Prop} (hnone : c.peer=none → E .invalidLifecycle c)
    (hsome : ∀ p,c.peer=some p → Q (m p).1 {c with peer := some (m p).2}) : wp (onPeer m) Q E c := by
  cases hp : c.peer with
  | none =>
    simp only [wp,onPeer,hp]
    exact hnone hp
  | some p =>
    simp only [wp,onPeer,hp]
    exact hsome p hp

theorem stageInbound_wp {frame : InboundFrame} {label : PendingControlCommand} (hg : Guarded c)
    (hn : c.pendingControl=none) (hf : admits wire frame c=true → labels label ∧ Fits label c)
    (now deadline : MonotonicTick) (os : WriteAnswers) :
    wp (stageInbound wire frame label now deadline os) (fun _ c' => Sound labels c c' ∧ Steady c c')
      (fun _ c' => Sound labels c c') c := by
  unfold stageInbound
  split
  · exact Sound.refl hg
  · next line hline =>
    refine (wp_bind ..).mpr (onPeer_wp (fun _ => Sound.refl hg) (fun p hp => ?_))
    have hpeer : Settled c {c with peer := some (LinePeer.admitInboundJsonlBytes wire line p).2} :=
      ⟨rfl,rfl,rfl,id,rfl,.inl rfl,fun _ => rfl⟩
    split
    · exact hpeer.sound hg
    · next a hok =>
      have hadms : admits wire frame c=true := by
        simp only [admits,hline,hp,Option.any_some,hok]
        rfl
      obtain ⟨hlabel,hfit⟩ := hf hadms
      have hs := (hpeer.sound hg).trans (stage_sound (hpeer.guarded hg) hn hlabel ⟨hfit.stop,hfit.abort⟩ line deadline)
      rw [wp_bind,wp_modify]
      exact wp_mono (fun _ _ h => ⟨hs.trans h.1,⟨h.2.lifecycle,h.2.lineage⟩⟩) (fun _ _ h => hs.trans h)
        (flushPendingControl_wp hs.guarded now os)

/-- The frame that the child would send next, if it can send one. -/
def nextOf (correlationIdentity : CorrelationIdentity) (command : InboundCommand) (c : ManagedPiChild) :
    Option InboundFrame :=
  match c.pendingControl,parseRanged 1 maxSafeInteger "boundary sequence" c.nextInboundSequence with
  | none,.ok sequence => some ⟨sequence,c.request.sessionIdentity,correlationIdentity,command⟩
  | _,_ => none

/-- A frame with the command would be admitted. -/
def admitsNext (correlationIdentity : CorrelationIdentity) (command : InboundCommand)
    (c : ManagedPiChild) : Bool :=
  (c.nextOf correlationIdentity command).any (fun frame => admits wire frame c)

theorem send_wp {correlationIdentity : CorrelationIdentity} {command : InboundCommand}
    {label : PendingControlCommand} (hg : Guarded c)
    (hf : admitsNext wire correlationIdentity command c=true → labels label ∧ Fits label c)
    (now deadline : MonotonicTick) (os : WriteAnswers) :
    wp (send wire correlationIdentity command label now deadline os)
      (fun _ c' => Sound labels c c' ∧ Steady c c') (fun _ c' => Sound labels c c') c := by
  simp only [send,nextFrame,wp_bind,wp_get,wp_ensure]
  refine ⟨fun hn => ?_,fun _ => Sound.refl hg⟩
  have hnone : c.pendingControl=none := Option.isNone_iff_eq_none.mp hn
  split
  · exact Sound.refl hg
  · next sequence hseq =>
    simp only [wp_bind,wp_modify,wp_pure]
    have hnext : Settled c {c with nextInboundSequence := c.nextInboundSequence+1} :=
      ⟨rfl,rfl,rfl,id,rfl,.inl rfl,id⟩
    have hs : Sound labels c {c with nextInboundSequence := c.nextInboundSequence+1} := hnext.sound hg
    refine wp_mono (fun _ _ h => ⟨hs.trans h.1,⟨h.2.lifecycle,h.2.lineage⟩⟩) (fun _ _ h => hs.trans h)
      (orContain_wp now (stageInbound_wp wire hs.guarded hnone (fun hadms => ?_) now deadline os))
    have hnext : admitsNext wire correlationIdentity command c=true := by
      simp only [admitsNext,nextOf,hnone,hseq,Option.any_some]
      exact hadms
    exact ⟨(hf hnext).1,(hf hnext).2.stop,(hf hnext).2.abort⟩

end Staging
section Operations
variable (wire : Wire)

/-- A new lifecycle for a child that no stop has closed. -/
theorem sound_lifecycle {l : ChildLifecycle} (hg : Guarded c) (ho : c.lifecycle.closed=false)
    (h : Sound labels c c') (hl : c'.lineage=c.lineage) (hp : l=.sessionReady → c'.peer.isSome=true) :
    Sound labels c {c' with lifecycle := l} := by
  refine ⟨⟨h.guarded.ordered,h.guarded.whole,fun p hc hm => ?_,h.guarded.pending,h.guarded.staged,
    h.guarded.aborts,hp⟩,
    h.flow.admitted,h.flow.written,h.flow.stdin,h.flow.lineage⟩
  have hlin := hl.symm
  simp only [ManagedPiChild.lineage,show c'.cancellation=some p from hc,Option.map_some] at hlin
  obtain ⟨q,hq,he⟩ := Option.map_eq_some_iff.mp hlin
  rw [hg.closed q hq ((Prod.mk.inj he).1 ▸ hm)] at ho
  cases ho

/-- A send that no stop stands against, which then changes the lifecycle. -/
theorem sendThen_wp {correlationIdentity : CorrelationIdentity} {command : InboundCommand}
    {label : PendingControlCommand} {l : ChildLifecycle} (hg : Guarded c)
    (ho : c.lifecycle.closed=false) (hl : l≠.sessionReady)
    (hf : admitsNext wire correlationIdentity command c=true → labels label ∧ Fits label c)
    (now deadline : MonotonicTick) (os : WriteAnswers) :
    Secures labels (do
      let progress ← send wire correlationIdentity command label now deadline os
      modify (fun c => {c with lifecycle := l})
      pure progress) c := by
  refine (wp_bind ..).mpr (wp_mono (fun _ c₁ h => ?_) (fun _ _ h => h) (send_wp wire hg hf now deadline os))
  exact sound_lifecycle hg ho h.1 h.2.lineage (fun he => absurd he hl)

theorem readOneOutbound_wp (hg : Guarded c) (now : MonotonicTick) (reads : List ReadAnswer) :
    wp (orContain now (readOneOutbound wire reads)) (fun _ c' => Settled c c')
      (fun _ c' => Sound labels c c') c :=
  orContain_wp now (wp_mono (fun _ _ h => h) (fun _ _ h => h.sound hg)
    ((settles_readOneOutbound wire reads).run c))

theorem readOrContain_secures (hg : Guarded c) (now : MonotonicTick) (reads : List ReadAnswer) :
    Secures labels (readOrContain wire now reads) c := by
  simp only [Secures,readOrContain,wp_bind]
  refine wp_mono (fun r c₁ h => ?_) (fun _ _ h => h) (readOneOutbound_wp wire hg now reads)
  have hs : Sound labels c c₁ := h.sound hg
  rcases r with ⟨outbound,reads⟩
  cases outbound with
  | notReady => exact hs
  | observation o =>
    simp only [wp_bind,wp_when,wp_pure]
    refine ⟨fun _ => ?_,fun _ => hs⟩
    exact wp_mono (fun _ _ h' => hs.trans h') (fun _ _ h' => hs.trans h')
      (startAutomaticBoundaryContainment_sound hs.guarded now)

theorem observeLiveOutput_secures (hg : Guarded c) (now : MonotonicTick) (reads : List ReadAnswer) :
    Secures labels (observeLiveOutput wire now reads) c := by
  simp only [Secures,observeLiveOutput,wp_bind]
  refine wp_mono (fun r c₁ h => ?_) (fun _ _ h => h) (readOrContain_secures wire hg now reads)
  rcases r with ⟨outbound,reads⟩
  cases outbound with
  | notReady => exact h
  | observation o => exact h

theorem observeDisposalOutput_secures (hg : Guarded c) (now deadline : MonotonicTick)
    (reads : List ReadAnswer) : Secures labels (observeDisposalOutput wire now deadline reads) c := by
  simp only [Secures,observeDisposalOutput,wp_bind,wp_get,wp_ensure]
  refine ⟨fun _ => ?_,fun _ => Sound.refl hg⟩
  split
  · exact Sound.refl hg
  · simp only [wp_bind]
    refine wp_mono (fun r c₁ h => ?_) (fun _ _ h => h) (readOrContain_secures wire hg now reads)
    rcases r with ⟨outbound,reads⟩
    cases outbound with
    | notReady =>
      simp only
      split
      · exact wp_mono (fun _ _ h' => h.trans h') (fun _ _ h' => h.trans h')
          (contain_sound h.guarded now _)
      · exact h
    | observation o =>
      have hstop (c : ManagedPiChild) : Settled c {c with stdin := false} :=
        ⟨rfl,rfl,rfl,fun ht => Bool.noConfusion ht,rfl,.inl rfl,id⟩
      have hrest : Settles (do
          let phase ← peerPhase
          when (phase=.disposed) (modify (fun c => {c with stdin := false}))
          pure (some o) : Action (Option SealedDecodedPeerFrame)) :=
        settles_peerPhase.bind (fun _ => Settles.bind (.when (.modify hstop)) (fun _ => .pure _))
      exact wp_mono (fun _ _ h' => h.trans h') (fun _ _ h' => h.trans h') (hrest.secures h.guarded)

theorem observeAdapterReady_secures (hg : Guarded c) (now deadline : MonotonicTick)
    (reads : List ReadAnswer) (ownsGroup : Option Bool) :
    Secures labels (observeAdapterReady wire now deadline reads ownsGroup) c := by
  simp only [Secures,observeAdapterReady,wp_bind,wp_get,wp_ensure]
  refine ⟨fun hl => ?_,fun _ => Sound.refl hg⟩
  refine wp_mono (fun r c₁ h => ?_) (fun _ _ h => h) (readOneOutbound_wp wire hg now reads)
  have hs : Sound labels c c₁ := h.sound hg
  have hcontain {α : Type} (c₂ : ManagedPiChild) (h₂ : Settled c c₂) (e : SupervisionError) :
      wp (contain now e : Action α) (fun _ c' => Sound labels c c') (fun _ c' => Sound labels c c') c₂ := by
    have hs₂ : Sound labels c c₂ := h₂.sound hg
    exact wp_mono (fun _ _ h' => hs₂.trans h') (fun _ _ h' => hs₂.trans h')
      (contain_sound hs₂.guarded now e)
  rcases r with ⟨outbound,reads⟩
  cases outbound with
  | notReady =>
    simp only
    split
    · exact hcontain c₁ h _
    · exact hs
  | observation o =>
    simp only [wp_bind]
    refine wp_mono (fun phase c₂ h' => ?_) (fun _ _ h' => (h.trans h').sound hg)
      (settles_peerPhase.run c₁)
    have h₂ := h.trans h'
    split
    · exact hcontain c₂ h₂ _
    · split
      · exact hcontain c₂ h₂ _
      · split
        · exact hcontain c₂ h₂ _
        · refine sound_lifecycle hg ?_ (h₂.sound hg) h₂.lineage (fun hn => (by cases hn))
          rw [hl]
          rfl

theorem sessionReadyLoop_wp (hg : Guarded c) (ho : c.lifecycle.closed=false) (now deadline : MonotonicTick)
    (n : Nat) (reads : List ReadAnswer) (h : Settled c c₁) :
    wp (sessionReadyLoop wire now deadline n reads) (fun _ c' => Sound labels c c')
      (fun _ c' => Sound labels c c') c₁ := by
  have hcontain {α : Type} (c₂ : ManagedPiChild) (h₂ : Settled c c₂) (e : SupervisionError) :
      wp (contain now e : Action α) (fun _ c' => Sound labels c c') (fun _ c' => Sound labels c c') c₂ := by
    have hs₂ : Sound labels c c₂ := h₂.sound hg
    exact wp_mono (fun _ _ h' => hs₂.trans h') (fun _ _ h' => hs₂.trans h')
      (contain_sound hs₂.guarded now e)
  induction n generalizing c₁ reads with
  | zero => exact hcontain c₁ h _
  | succ n ih =>
    have hs₁ : Sound labels c c₁ := h.sound hg
    simp only [sessionReadyLoop,wp_bind]
    refine wp_mono (fun r c₂ h₂ => ?_) (fun _ _ h₂ => hs₁.trans h₂)
      (readOneOutbound_wp wire hs₁.guarded now reads)
    rcases r with ⟨outbound,reads⟩
    cases outbound with
    | notReady =>
      simp only
      split
      · exact hcontain c₂ (h.trans h₂) _
      · exact (h.trans h₂).sound hg
    | observation o =>
      simp only [peerPhase,wp_bind,wp_get]
      split
      · exact (h.trans h₂).sound hg
      · next p hp =>
        simp only [wp_pure]
        split
        · exact hcontain c₂ (h.trans h₂) _
        · split
          · exact sound_lifecycle hg ho ((h.trans h₂).sound hg) (h.trans h₂).lineage (fun _ => by simp [hp])
          · exact ih reads (h.trans h₂)

theorem observeSessionReady_secures (hg : Guarded c) (now deadline : MonotonicTick)
    (reads : List ReadAnswer) : Secures labels (observeSessionReady wire now deadline reads) c := by
  simp only [Secures,observeSessionReady,wp_bind,wp_get,wp_ensure]
  refine ⟨fun hl => ?_,fun _ => Sound.refl hg⟩
  split
  · exact Sound.refl hg
  · refine sessionReadyLoop_wp wire hg ?_ now deadline maxHandshakeFrames reads (.refl c)
    rw [hl]
    rfl

theorem finishInertSetup_secures (hg : Guarded c) (now : MonotonicTick) (stdin stdout : Bool) :
    Secures labels (finishInertSetup now stdin stdout) c := by
  simp only [Secures,finishInertSetup,wp_bind,wp_get,wp_ensure]
  refine ⟨fun hl => ?_,fun _ => Sound.refl hg⟩
  split
  · exact contain_sound hg now _
  · next peer _ =>
    have hpeer : Settled c {c with peer := some ⟨peer,[],[]⟩} := ⟨rfl,rfl,rfl,id,rfl,.inl rfl,fun _ => rfl⟩
    refine sound_lifecycle hg ?_ (hpeer.sound hg) rfl (fun hn => (by cases hn))
    rw [hl]
    rfl

theorem driveControlWrite_secures (hg : Guarded c) (now : MonotonicTick) (os : WriteAnswers) :
    Secures labels (driveControlWrite now os) c := by
  simp only [Secures,driveControlWrite,wp_bind,wp_get,wp_ensure]
  refine ⟨fun _ => ?_,fun _ => Sound.refl hg⟩
  exact wp_mono (fun _ _ h => h.1) (fun _ _ h => h) (orContain_wp now (flushPendingControl_wp hg now os))

end Operations
section Requests
variable (wire : Wire)

/-- The request takes a graceful cancellation over into an emergency stop. -/
def upgrades (r : CancellationRequest) (p : CancellationProgress) : Bool :=
  p.explicitRequest.any (fun previous => previous≠r &&
    previous.cancellationRequestId=r.cancellationRequestId && p.mode=.gracefulCancel &&
    r.mode=.emergencyStop)

theorem at_error {d : CancellationDeadlines} {now : MonotonicTick} {e : SupervisionError}
    (he : d.at now=.error e) : e=.deadlineOverflow := by
  unfold CancellationDeadlines.at MonotonicTick.checkedAdd at he
  split at he
  · simp only [bind,Except.bind] at he
    split at he
    · next hk =>
      split at hk
      · cases hk
      · cases hk
        cases he
        rfl
    · cases he
  · cases he
    rfl

theorem upgradeOrReplayCancellation_ok {p p' : CancellationProgress} {r : CancellationRequest}
    {now : MonotonicTick} (h : upgradeOrReplayCancellation p r now=.ok p') :
    p'.explicitRequest=some r ∧ ((p'=p ∧ p.explicitRequest=some r) ∨
      (upgrades r p=true ∧ p.mode=.gracefulCancel ∧ p'.mode=.emergencyStop)) := by
  unfold upgradeOrReplayCancellation at h
  split at h
  · cases h
  · next previous hprevious =>
    split at h
    · next heq =>
      cases h
      exact ⟨heq ▸ hprevious,.inl ⟨rfl,heq ▸ hprevious⟩⟩
    · next hne =>
      split at h
      · cases h
      · next hfit =>
        simp only [not_or,not_not] at hfit
        cases hd : CancellationDeadlines.at ⟨1000,2000⟩ now with
        | error e =>
          simp only [CancellationDeadlines.forMode,hd] at h
          cases h
        | ok deadlines =>
          simp only [CancellationDeadlines.forMode,hd] at h
          cases h
          refine ⟨rfl,.inr ⟨?_,hfit.2.1,rfl⟩⟩
          simp [upgrades,hprevious,hne,hfit]

theorem upgradeOrReplayCancellation_error {p : CancellationProgress} {r : CancellationRequest}
    {now : MonotonicTick} {e : SupervisionError} (h : upgradeOrReplayCancellation p r now=.error e)
    (hu : upgrades r p=true) : e=.deadlineOverflow := by
  obtain ⟨previous,hprevious,hfit⟩ := (Option.any_eq_true ..).mp hu
  simp only [Bool.and_eq_true,decide_eq_true_eq] at hfit
  obtain ⟨⟨⟨hne,hid⟩,hm⟩,hr⟩ := hfit
  simp only [upgradeOrReplayCancellation,hprevious,hne,hid,hm,hr,if_false,ne_eq,not_true_eq_false,or_self,
    CancellationDeadlines.forMode] at h
  cases hd : CancellationDeadlines.at ⟨1000,2000⟩ now with
  | error e' =>
    rw [hd] at h
    cases h
    exact at_error hd
  | ok deadlines =>
    rw [hd] at h
    cases h

theorem discard_sound (hg : Guarded c) :
    Sound labels c c.discardPendingControlBeforeCancellation := by
  unfold discardPendingControlBeforeCancellation
  split
  · exact sound_shut hg rfl rfl rfl rfl hg.closed
      (fun p hp => ⟨p,hp,.inr (.inr ⟨rfl,rfl⟩)⟩) hg.peer
  · exact Sound.refl hg

theorem discard_pending (c : ManagedPiChild) :
    c.discardPendingControlBeforeCancellation.pendingControl=none := by
  unfold discardPendingControlBeforeCancellation
  split
  · rfl
  · next h => simpa using h

theorem discard_same (c : ManagedPiChild) :
    c.discardPendingControlBeforeCancellation.cancellation=c.cancellation ∧
      c.discardPendingControlBeforeCancellation.lifecycle=c.lifecycle := by
  unfold discardPendingControlBeforeCancellation
  split
  · exact ⟨rfl,rfl⟩
  · exact ⟨rfl,rfl⟩

theorem discard_none (h : c.pendingControl=none) : c.discardPendingControlBeforeCancellation=c := by
  unfold discardPendingControlBeforeCancellation
  rw [if_neg (by simp [h])]

/-- A request first drops what the pipe has not taken, and then admits at most an Abort, and that
only as the first of its child. -/
theorem requestCancellation_wp (hg : Guarded c) (r : CancellationRequest) (now : MonotonicTick)
    (os : WriteAnswers) : wp (requestCancellation wire r now os)
      (fun _ c' => Sound (fun l => l=.abort ∧ c.cancellation=none)
          c.discardPendingControlBeforeCancellation c' ∧
        ∃ p,c'.cancellation=some p ∧ p.explicitRequest=some r)
      (fun _ c' => Sound (fun l => l=.abort ∧ c.cancellation=none)
        c.discardPendingControlBeforeCancellation c') c := by
  have hd : Guarded c.discardPendingControlBeforeCancellation :=
    (show Sound (fun _ => False) c _ from discard_sound hg).guarded
  have hpending := discard_pending c
  obtain ⟨hcancel,hlife⟩ := discard_same c
  generalize hd₁ : c.discardPendingControlBeforeCancellation=c₁ at hd hpending hcancel hlife
  simp only [requestCancellation,wp_bind,wp_modify,wp_get,hd₁]
  have hdropped (w : PendingControlWrite) (P : Prop) (hw : c₁.pendingControl=some w) : P := by
    rw [hw] at hpending
    cases hpending
  split
  · next existing he =>
    simp only [wp_bind,wp_lift,wp_modify,wp_pure]
    refine ⟨fun p hp => ⟨?_,p,rfl,(upgradeOrReplayCancellation_ok hp).1⟩,fun _ _ => .refl hd⟩
    obtain ⟨-,hcase⟩ := upgradeOrReplayCancellation_ok hp
    refine ⟨⟨hd.ordered,hd.whole,fun q hq hm => ?_,fun q w hq hw => hdropped w _ hw,
      fun w hw => hdropped w _ hw,⟨hd.aborts.1,fun hn => ?_⟩,hd.peer⟩,
      ⟨[],(List.append_nil _).symm,by simp⟩,List.prefix_rfl,fun hs => ⟨hs,rfl⟩,fun q hq => ⟨p,rfl,?_⟩⟩
    · cases hq
      refine hd.closed existing he ?_
      rcases hcase with ⟨rfl,-⟩ | ⟨-,hmode,-⟩
      · exact hm
      · rw [hmode]
        decide
    · cases hn
    · rw [he] at hq
      cases hq
      rcases hcase with ⟨rfl,-⟩ | ⟨-,-,hmode⟩
      · exact .inr (.inr ⟨rfl,rfl⟩)
      · exact .inr (.inl hmode)
  · next hnone =>
    have hfirst : c.cancellation=none := hcancel.symm.trans hnone
    have hcancelled (p : CancellationProgress) (l : ChildLifecycle)
        (hl : p.mode≠.quiesce → l.closed=true) (hr : l=.sessionReady → c₁.peer.isSome=true) :
        Sound (fun l => l=.abort ∧ c.cancellation=none) c₁
          {c₁ with lifecycle := l,cancellation := some p} := by
      refine ⟨⟨hd.ordered,hd.whole,fun q hq hm => ?_,fun q w hq hw => hdropped w _ hw,
        fun w hw => hdropped w _ hw,⟨hd.aborts.1,fun hn => ?_⟩,hr⟩,
        ⟨[],(List.append_nil _).symm,by simp⟩,List.prefix_rfl,fun hs => ⟨hs,rfl⟩,fun q hq => ?_⟩
      · cases hq
        exact hl hm
      · cases hn
      · rw [hnone] at hq
        cases hq
    simp only [wp_bind,wp_ensure]
    refine ⟨fun _ => ?_,fun _ => .refl hd⟩
    split
    · exact ⟨hcancelled (.quiesce r) c₁.lifecycle (fun hm => absurd rfl hm) hd.peer,_,rfl,rfl⟩
    · simp only [wp_bind,wp_lift,wp_modify]
      refine ⟨fun deadlines _ => ?_,fun _ _ => .refl hd⟩
      have hs := hcancelled (.explicit r deadlines) .awaitingCooperativeAbort (fun _ => rfl)
        (fun hn => (by cases hn))
      split
      · have hnone' := hd.aborts.2 hnone
        refine wp_mono (fun _ c₂ h => ⟨hs.trans h.1,?_⟩) (fun _ _ h => hs.trans h)
          (send_wp wire hs.guarded (fun _ => ⟨⟨rfl,hfirst⟩,fun _ _ => .inl rfl,fun _ => ⟨rfl,hnone'⟩⟩)
            now deadlines.1 os)
        have hl := h.2.lineage.symm
        obtain ⟨p,hp,he⟩ := Option.map_eq_some_iff.mp hl.symm
        exact ⟨p,hp,(Prod.mk.inj he).2⟩
      · exact ⟨hs,_,rfl,rfl⟩

/-- A first request finds the session ready, and its Abort would be admitted. -/
def stagesAbort (r : CancellationRequest) (now : MonotonicTick) (c : ManagedPiChild) : Bool :=
  c.lifecycle==.sessionReady &&
    (CancellationDeadlines.forMode r.mode).any (fun d => (d.at now).isOk) &&
    admitsNext wire r.abortCorrelationIdentity (.abort (abortReasonFor r.reason))
      {c with pendingControl := none}

/-- Nothing that the request would drop or find closed is in its way, if it is a repetition, a
refused one, or a first one that has an Abort to write. -/
def requestSound (r : CancellationRequest) (now : MonotonicTick) (c : ManagedPiChild) : Bool :=
  match c.cancellation with
  | some p => c.pendingControl.isNone || upgrades r p
  | none =>
    if c.lifecycle=.reaped ∨ c.lifecycle=.contained then c.pendingControl.isNone
    else !stagesAbort wire r now c || (c.stdin && c.pendingControl.isNone)

theorem startAutomaticBoundaryContainment_error (now : MonotonicTick) :
    wp (startAutomaticBoundaryContainment now) (fun _ _ => True)
      (fun e _ => e≠.invalidLifecycle) c := by
  simp only [startAutomaticBoundaryContainment,wp_bind,wp_get]
  split
  · trivial
  · simp only [wp_bind,wp_modify]
    split
    · trivial
    · simp only [wp_bind,wp_lift,wp_modify]
      refine ⟨fun _ _ => trivial,fun e he => ?_⟩
      simp only [CancellationProgress.automaticBoundaryContainment,CancellationDeadlines.forMode] at he
      cases hd : CancellationDeadlines.at ⟨1000,2000⟩ now with
      | error e' =>
        rw [hd] at he
        cases he
        rw [at_error hd]
        exact (fun h => by cases h)
      | ok deadlines =>
        rw [hd] at he
        cases he

theorem orContain_error {m : Action α} (now : MonotonicTick)
    (hm : wp m (fun _ _ => True) (fun e _ => e≠.invalidLifecycle) c) :
    wp (orContain now m) (fun _ _ => True) (fun e _ => e≠.invalidLifecycle) c := by
  refine (wp_bind ..).mpr ((wp_attempt ..).mpr (wp_mono (fun _ _ h => h) (fun e c₁ h => ?_) hm))
  refine (wp_bind ..).mpr ?_
  exact wp_mono (fun _ _ _ => h) (fun _ _ h' => h') (startAutomaticBoundaryContainment_error now)

theorem flushHead_error (now : MonotonicTick) (probe : KillAnswer)
    (hp : c.pendingControl.isSome=true) (hs : c.stdin=true) (hc : c.cancellation.isSome=true) :
    wp (flushHead now probe) (fun rest c' => ∀ p,rest=some p → c'=c)
      (fun e _ => e≠.invalidLifecycle) c := by
  simp only [flushHead,wp_bind,wp_get]
  split
  · next hn =>
    rw [hn] at hp
    cases hp
  · split
    · simp only [wp_bind,wp_modify,wp_pure,recordControlDelivery]
      split
      · exact fun _ hn => (by cases hn)
      · simp only [wp_bind,groupLiveness,wp_lift,wp_get]
        refine ⟨fun l _ => ?_,fun e he => ?_⟩
        · split
          · next hn =>
            rw [show c.cancellation=none from hn] at hc
            cases hc
          · exact fun _ hn => (by cases hn)
        · cases probe <;> cases he
          exact (fun h => by cases h)
    · simp only [wp_bind,wp_ensure,wp_pure]
      exact ⟨fun _ _ _ => trivial,fun hn => absurd hs hn⟩

/-- A write to an open pipe does not find its child in the wrong state. -/
theorem flushWrites_error (now : MonotonicTick) (probe : KillAnswer) (writes : List WriteAnswer)
    (hp : c.pendingControl.isSome=true) (hs : c.stdin=true) (hc : c.cancellation.isSome=true) :
    wp (flushWrites now probe writes) (fun _ _ => True) (fun e _ => e≠.invalidLifecycle) c := by
  induction writes generalizing c with
  | nil =>
    simp only [flushWrites,wp_bind,wp_pure]
    exact wp_mono (fun _ _ _ => trivial) (fun _ _ h => h) (flushHead_error now probe hp hs hc)
  | cons a writes ih =>
    cases a with
    | wouldBlock =>
      simp only [flushWrites,wp_bind,wp_pure]
      exact wp_mono (fun _ _ _ => trivial) (fun _ _ h => h) (flushHead_error now probe hp hs hc)
    | failed =>
      simp only [flushWrites,wp_bind]
      refine wp_mono (fun rest c' h => ?_) (fun _ _ h => h) (flushHead_error now probe hp hs hc)
      cases rest with
      | none => trivial
      | some p =>
        simp only [wp_bind,wp_modify,wp_fail]
        exact (fun h => by cases h)
    | wrote n =>
      simp only [flushWrites,wp_bind]
      refine wp_mono (fun rest c' h => ?_) (fun _ _ h => h) (flushHead_error now probe hp hs hc)
      cases rest with
      | none => trivial
      | some p =>
        obtain rfl := h p rfl
        simp only [wp_bind,wp_ensure,wp_modify]
        exact ⟨fun _ => ih rfl hs hc,fun _ => (fun h => by cases h)⟩

/-- The Abort of a session that is ready, over an open pipe. -/
theorem sendAbort_error {correlationIdentity : CorrelationIdentity} {command : InboundCommand}
    {label : PendingControlCommand} (hn : c.pendingControl=none) (hp : c.peer.isSome=true)
    (hs : c.stdin=true) (hc : c.cancellation.isSome=true) (now deadline : MonotonicTick) (os : WriteAnswers) :
    wp (send wire correlationIdentity command label now deadline os) (fun _ _ => True)
      (fun e _ => e≠.invalidLifecycle) c := by
  simp only [send,nextFrame,wp_bind,wp_get,wp_ensure]
  refine ⟨fun _ => ?_,fun h => absurd (by simp [hn]) h⟩
  split
  · exact (fun h => by cases h)
  · simp only [wp_bind,wp_modify,wp_pure]
    refine orContain_error now ?_
    unfold stageInbound
    split
    · exact (fun h => by cases h)
    · rw [wp_bind]
      refine onPeer_wp (fun hnone => ?_) (fun p hp' => ?_)
      · rw [show c.peer=none from hnone] at hp
        cases hp
      · split
        · exact (fun h => by cases h)
        · rw [wp_bind,wp_modify]
          simp only [flushPendingControl,wp_bind,wp_get,stage,wp_ensure]
          refine ⟨fun _ => ?_,fun _ => (fun h => by cases h)⟩
          exact flushWrites_error now os.probe os.writes rfl hs hc

/-- A frame that is not admitted finds the child in its right state, if its peer is made. -/
theorem send_unadmitted {correlationIdentity : CorrelationIdentity} {command : InboundCommand}
    {label : PendingControlCommand} (hn : c.pendingControl=none) (hp : c.peer.isSome=true)
    (hu : admitsNext wire correlationIdentity command c=false) (now deadline : MonotonicTick)
    (os : WriteAnswers) :
    wp (send wire correlationIdentity command label now deadline os) (fun _ _ => True)
      (fun e _ => e≠.invalidLifecycle) c := by
  simp only [send,nextFrame,wp_bind,wp_get,wp_ensure]
  refine ⟨fun _ => ?_,fun h => absurd (by simp [hn]) h⟩
  split
  · exact (fun h => by cases h)
  · next sequence hseq =>
    simp only [wp_bind,wp_modify,wp_pure]
    refine orContain_error now ?_
    simp only [admitsNext,nextOf,hn,hseq,Option.any_some,admits] at hu
    unfold stageInbound
    split
    · exact (fun h => by cases h)
    · next line hline =>
      rw [wp_bind]
      refine onPeer_wp (fun hnone => ?_) (fun p hp' => ?_)
      · rw [show c.peer=none from hnone] at hp
        cases hp
      · split
        · exact (fun h => by cases h)
        · next a hok =>
          rw [hline] at hu
          simp only [show c.peer=some p from hp',Option.any_some,hok] at hu
          cases hu

/-- What the request finds once it has dropped the pending write. -/
theorem discard_cases (c : ManagedPiChild) :
    c.discardPendingControlBeforeCancellation={c with pendingControl := none} ∧ c.pendingControl=none ∨
      c.discardPendingControlBeforeCancellation=c.shut ∧ c.pendingControl.isSome=true := by
  unfold discardPendingControlBeforeCancellation
  cases hp : c.pendingControl with
  | none => exact .inl ⟨by rw [if_neg (by simp)]; rw [← hp],rfl⟩
  | some p => exact .inr ⟨if_pos rfl,rfl⟩

/-- A first request that has an Abort to write, or does not write it, is not refused midway. -/
theorem stageAbort_error (hg : Guarded c) {r : CancellationRequest} {now : MonotonicTick}
    {os : WriteAnswers} {d : CancellationDeadlines} {deadlines : MonotonicTick × MonotonicTick}
    (hd : CancellationDeadlines.forMode r.mode=some d) (ha : d.at now=.ok deadlines)
    (hready : c.lifecycle=.sessionReady)
    (hr : (!stagesAbort wire r now c || (c.stdin && c.pendingControl.isNone))=true)
    (hc : c₁=c.discardPendingControlBeforeCancellation) :
    wp (send wire r.abortCorrelationIdentity (.abort (abortReasonFor r.reason)) .abort now deadlines.1 os)
      (fun _ _ => True) (fun e _ => e≠.invalidLifecycle)
      {c₁ with lifecycle := .awaitingCooperativeAbort,cancellation := some (.explicit r deadlines)} := by
  have hpeer : c.peer.isSome=true := hg.peer hready
  have hadms : (!stagesAbort wire r now c)=true → admitsNext wire r.abortCorrelationIdentity
      (.abort (abortReasonFor r.reason)) {c with pendingControl := none}=false := by
    intro hu
    simp only [stagesAbort,hready,hd,Option.any_some,ha,Except.isOk,Except.toBool,Bool.and_true,
      beq_self_eq_true,Bool.true_and,Bool.not_eq_true'] at hu
    exact hu
  rw [Bool.or_eq_true] at hr
  rcases discard_cases c with ⟨hsame,hnone⟩ | ⟨hshut,hsome⟩
  · rw [hsame] at hc
    subst hc
    rcases hr with hr | hr
    · refine send_unadmitted wire rfl ?_ ?_ now deadlines.1 os
      · exact hpeer
      · exact hadms hr
    · refine sendAbort_error wire rfl ?_ ?_ rfl now deadlines.1 os
      · exact hpeer
      · exact ((Bool.and_eq_true ..).mp hr).1
  · rw [hshut] at hc
    subst hc
    rcases hr with hr | hr
    · refine send_unadmitted wire rfl ?_ ?_ now deadlines.1 os
      · exact hpeer
      · exact hadms hr
    · rw [Option.isNone_iff_eq_none.mp ((Bool.and_eq_true ..).mp hr).2] at hsome
      cases hsome

/-- A refused request leaves the child as it was. -/
theorem requestCancellation_refused (hg : Guarded c) {r : CancellationRequest} {now : MonotonicTick}
    {os : WriteAnswers} (hr : requestSound wire r now c=true) :
    wp (requestCancellation wire r now os) (fun _ _ => True)
      (fun e c' => e=.invalidLifecycle → c'=c) c := by
  obtain ⟨hcancel,hlife⟩ := discard_same c
  have hsame (h : c.pendingControl=none) : c.discardPendingControlBeforeCancellation=c := discard_none h
  simp only [requestCancellation,wp_bind,wp_modify,wp_get]
  generalize hc₁ : c.discardPendingControlBeforeCancellation=c₁ at hcancel hlife hsame
  unfold requestSound at hr
  rw [hcancel,hlife]
  split
  · next p hp =>
    simp only [hp,Bool.or_eq_true,Option.isNone_iff_eq_none] at hr
    simp only [wp_bind,wp_lift,wp_modify,wp_pure]
    refine ⟨fun _ _ => trivial,fun e he hi => ?_⟩
    rcases hr with hr | hr
    · exact hsame hr
    · rw [upgradeOrReplayCancellation_error he hr] at hi
      cases hi
  · next hnone =>
    simp only [hnone] at hr
    simp only [wp_bind,wp_ensure]
    refine ⟨fun hopen => ?_,fun hended _ => ?_⟩
    · rw [if_neg (by simpa using hopen)] at hr
      split
      · trivial
      · next d hd =>
        simp only [wp_bind,wp_lift,wp_modify]
        refine ⟨fun deadlines hdeadlines => ?_,fun e he hi => ?_⟩
        · split
          · next hready =>
            exact wp_mono (fun _ _ _ => trivial) (fun _ _ hne he => absurd he hne)
              (stageAbort_error wire hg hd hdeadlines hready hr hc₁.symm)
          · trivial
        · rw [at_error he] at hi
          cases hi
    · refine hsame ?_
      rw [if_pos (by by_contra hn; exact hended (by simpa using hn))] at hr
      exact Option.isNone_iff_eq_none.mp hr

theorem upgradeOrReplayCancellation_same {p : CancellationProgress} {r : CancellationRequest}
    (hp : p.explicitRequest=some r) (now : MonotonicTick) :
    upgradeOrReplayCancellation p r now=.ok p := by
  simp only [upgradeOrReplayCancellation,hp,if_true]

/-- A repeated request changes nothing. -/
theorem requestCancellation_replayed {p : CancellationProgress} {r : CancellationRequest}
    {now : MonotonicTick} (os : WriteAnswers) (hc : c.cancellation=some p)
    (hr : requestSound wire r now c=true)
    (hp : p.explicitRequest=some r ∨ p.explicitRequest=none ∨ p.mode≠.gracefulCancel) :
    (requestCancellation wire r now os c).2=c ∧
      (p.explicitRequest=some r → (requestCancellation wire r now os c).1=.ok .delivered) := by
  have hkeep : upgrades r p≠true := by
    intro hu
    obtain ⟨previous,hprevious,hfit⟩ := (Option.any_eq_true ..).mp hu
    simp only [Bool.and_eq_true,decide_eq_true_eq] at hfit
    obtain ⟨⟨⟨hne,-⟩,hm⟩,-⟩ := hfit
    rcases hp with hp | hp | hp
    · exact hne (Option.some.inj (hprevious.symm.trans hp))
    · rw [hprevious] at hp
      cases hp
    · exact hp hm
  have hnone : c.pendingControl=none := by
    simp only [requestSound,hc,Bool.or_eq_true,Option.isNone_iff_eq_none] at hr
    exact hr.resolve_right hkeep
  have hput : {c with cancellation := some p}=c := by rw [← hc]
  have hwp : wp (requestCancellation wire r now os) (fun a c' => c'=c ∧ a=.delivered)
      (fun _ c' => c'=c ∧ p.explicitRequest≠some r) c := by
    simp only [requestCancellation,wp_bind,wp_modify,wp_get,discard_none hnone,hc,wp_lift,wp_pure]
    refine ⟨fun p' hp' => ⟨?_,trivial⟩,fun e he => ⟨trivial,fun hreq => ?_⟩⟩
    · rcases (upgradeOrReplayCancellation_ok hp').2 with ⟨rfl,-⟩ | ⟨hu,-⟩
      · exact hput
      · exact absurd hu hkeep
    · rw [upgradeOrReplayCancellation_same hreq] at he
      cases he
  unfold wp at hwp
  rcases hrun : requestCancellation wire r now os c with ⟨res,c'⟩
  rw [hrun] at hwp
  cases res with
  | ok a => exact ⟨hwp.1,fun _ => congrArg _ hwp.2⟩
  | error e => exact ⟨hwp.1,fun hreq => absurd hreq hwp.2⟩

end Requests
end ManagedPiChild
end Society.Custody
