import Mathlib.Data.List.TakeWhile
import Society.Delimited
import Society.Keeps
import Society.Custody.PiFence

namespace Society.Custody
open Society.Boundary Society.Stateful Society.Coding

/-! The records of a Pi child: what its peer is handed of the stream that its host writes. -/

section Records

/-- The records of a stream up to the first oversized one. -/
def heads (stream : Bytes) : List Bytes :=
  (cut 10 stream).1.takeWhile (fun line => line.length ≤ maxJsonlFrameBytes)

/-- The stream has an oversized record, maybe without its newline. -/
def overrun (stream : Bytes) : Bool :=
  (cut 10 stream).1.any (fun line => maxJsonlFrameBytes<line.length) ||
    decide (maxJsonlFrameBytes+1<(cut 10 stream).2.length)

variable {s bytes : Bytes}

theorem overrun_append (h : (10 : UInt8)∉bytes) : overrun (s++bytes)=
    ((cut 10 s).1.any (fun line => maxJsonlFrameBytes<line.length) ||
      decide (maxJsonlFrameBytes+1<(cut 10 s).2.length+bytes.length)) := by
  rw [overrun,cut_append h,List.length_append]

theorem heads_append (h : (10 : UInt8)∉bytes) : heads (s++bytes)=heads s := by
  rw [heads,cut_append h]
  rfl

theorem whole_of_fits (h : overrun s=false) :
    ∀ line∈(cut 10 s).1,decide (line.length ≤ maxJsonlFrameBytes)=true := by
  simp only [overrun,Bool.or_eq_false_iff,List.any_eq_false] at h
  intro line hline
  have := h.1 line hline
  simp only [decide_eq_true_eq] at this ⊢
  omega

/-- The next record of a stream within its bounds. -/
theorem heads_record (hs : overrun s=false) (h : (10 : UInt8)∉bytes) :
    heads (s++(bytes++[10]))=heads s++
      (if (cut 10 s).2.length+bytes.length ≤ maxJsonlFrameBytes then [(cut 10 s).2++bytes] else []) := by
  have hall := whole_of_fits hs
  rw [heads,cut_append_sep h,List.takeWhile_append_of_pos hall,heads,
    List.takeWhile_eq_self_iff.mpr hall,List.takeWhile_cons,List.takeWhile_nil,List.length_append]
  simp only [decide_eq_true_eq]

theorem overrun_record (hs : overrun s=false) (h : (10 : UInt8)∉bytes)
    (hfits : (cut 10 s).2.length+bytes.length ≤ maxJsonlFrameBytes) :
    overrun (s++(bytes++[10]))=false := by
  have hshort := (Bool.or_eq_false_iff.mp hs).1
  rw [overrun,cut_append_sep h,List.any_append,hshort]
  simp only [List.any_cons,List.any_nil,List.length_append,Bool.or_false,Bool.false_or,
    Bool.or_eq_false_iff,decide_eq_false_iff_not]
  exact ⟨by omega,by simp⟩

theorem overrun_open (hs : overrun s=true) (h : (10 : UInt8)∉bytes) : overrun (s++bytes)=true := by
  rw [overrun_append h]
  rw [overrun,Bool.or_eq_true,decide_eq_true_eq] at hs
  rw [Bool.or_eq_true,decide_eq_true_eq]
  exact hs.imp_right (fun h => by omega)

/-- An oversized record hides all that follows. -/
theorem heads_long (hs : overrun s=false) (h : (10 : UInt8)∉bytes)
    (hlong : maxJsonlFrameBytes<(cut 10 s).2.length+bytes.length) :
    heads (s++(bytes++[10]))=heads s ∧ overrun (s++(bytes++[10]))=true := by
  constructor
  · rw [heads_record hs h,if_neg (by omega),List.append_nil]
  · rw [overrun,cut_append_sep h,List.any_append]
    simp only [List.any_cons,List.length_append,decide_eq_true hlong,Bool.true_or,Bool.or_true]

theorem heads_mono {s s' : Bytes} (h : s<+:s') : heads s<+:heads s' := by
  have hcut : (cut 10 s).1<+:(cut 10 s').1 := cut_prefix h
  obtain ⟨more,hmore⟩ := hcut
  rw [heads,heads,← hmore,List.takeWhile_append]
  split
  · exact List.prefix_append_of_prefix (List.takeWhile_prefix _)
  · exact List.prefix_rfl

/-- They are pieces of the stream between its newlines, from the start on. -/
theorem heads_split (s : Bytes) : ((heads s).map (·++[10])).flatten<+:s ∧
    ∀ line∈heads s,(10 : UInt8)∉line ∧ line.length ≤ maxJsonlFrameBytes := by
  obtain ⟨hall,hpieces,-⟩ := cut_spec (10 : UInt8) s
  constructor
  · obtain ⟨more,hmore⟩ := List.takeWhile_prefix (l := (cut 10 s).1)
      (fun line => decide (line.length ≤ maxJsonlFrameBytes))
    rw [← hmore,List.map_append,List.flatten_append,List.append_assoc] at hall
    exact ⟨_,hall⟩
  · intro line hline
    have hmem : line∈(cut 10 s).1 := (List.takeWhile_prefix _).subset hline
    have hfits := List.mem_takeWhile_imp hline
    exact ⟨hpieces line hmem,of_decide_eq_true hfits⟩

end Records

namespace ManagedPiChild
open Handler

/-- What the reader takes of its buffer ends with the first newline in it, if there is one. -/
theorem firstLine_cases (available : Bytes) :
    (∃ line rest,(10 : UInt8)∉line ∧ available=line++[10]++rest ∧ firstLine available=line++[10]) ∨
      (10 : UInt8)∉available ∧ firstLine available=available := by
  by_cases h : (10 : UInt8)∈available
  · obtain ⟨line,rest,rfl,hline⟩ := List.eq_append_cons_of_mem h
    refine .inl ⟨line,rest,hline,by simp,?_⟩
    rw [firstLine,List.idxOf_append_of_notMem hline,List.idxOf_cons_self,Nat.add_zero,
      List.append_cons]
    exact List.take_left' (by simp)
  · refine .inr ⟨h,?_⟩
    rw [firstLine,List.idxOf_eq_length h]
    exact List.take_of_length_le (Nat.le_succ _)

/-- The bytes that the reader has got from the pipe. -/
def stream (c : ManagedPiChild) : Bytes := c.nativeChild.record.stdout.carried

/-- Those that it has not looked at yet. -/
def buffer (c : ManagedPiChild) : Bytes := c.stdout.getD []

variable {c c' : ManagedPiChild} {s : Bytes}

/-- The reader has looked at these bytes of the stream. -/
structure LookedAt (c : ManagedPiChild) (s : Bytes) : Prop where
  stream : c.stream=s++c.buffer
  opened : overrun s=false → c.stdoutPartialRecord=(cut 10 s).2

/-- The reader has gone on from these bytes, and has taken this record out of them, if any. -/
def TookFrom (c : ManagedPiChild) (s : Bytes) (record : Option Bytes) (c' : ManagedPiChild) : Prop :=
  ∃ s',LookedAt c' s' ∧ c'.peer=c.peer ∧ heads s'=heads s++record.toList ∧
    (record.isSome=true → overrun s'=false)

theorem LookedAt.took (h : LookedAt c s) : TookFrom c s none c := ⟨s,h,rfl,by simp,(fun h => by cases h)⟩

theorem takeRecord_line {line rest : Bytes} (hs : c.stream=s++(line++[10]++rest))
    (hpart : c.stdoutPartialRecord=(cut 10 s).2) (hfree : overrun s=false) (hline : (10 : UInt8)∉line)
    (hfirst : firstLine (line++[10]++rest)=line++[10]) :
    wp (takeRecord (line++[10]++rest)) (fun record c' => TookFrom c s record c' ∧ record≠none)
      (fun _ c' => TookFrom c s none c') c := by
  have hdrop : (line++[10]++rest).drop (line++[10]).length=rest := List.drop_left' rfl
  have hrest : c.stream=s++(line++[10])++rest := by
    rw [hs,List.append_assoc s]
  simp only [takeRecord,hfirst,hdrop,wp_bind,wp_modify,wp_get,consume,hpart]
  split
  · next hlong =>
    rw [List.length_append,List.length_singleton] at hlong
    obtain ⟨hheads,hover⟩ := heads_long hfree hline (by omega)
    refine ⟨s++(line++[10]),⟨hrest,fun h => ?_⟩,rfl,by simp [hheads],(fun h => by cases h)⟩
    rw [hover] at h
    cases h
  · next hshort =>
    rw [List.length_append,List.length_singleton] at hshort
    have hfits : (cut 10 s).2.length+line.length ≤ maxJsonlFrameBytes := by omega
    rw [if_pos (by simp)]
    refine ⟨⟨s++(line++[10]),⟨hrest,fun _ => ?_⟩,rfl,?_,fun _ => overrun_record hfree hline hfits⟩,(fun h => by cases h)⟩
    · rw [cut_append_sep hline]
    · rw [heads_record hfree hline,if_pos hfits,← List.append_assoc,List.dropLast_concat]
      rfl

theorem takeRecord_open {available : Bytes} (hs : c.stream=s++available)
    (ho : overrun s=false → c.stdoutPartialRecord=(cut 10 s).2)
    (hline : (10 : UInt8)∉available) (hfirst : firstLine available=available) :
    wp (takeRecord available) (fun record c' => record=none ∧ LookedAt c' (s++available) ∧
        c'.stdout=some [] ∧ c'.peer=c.peer ∧ overrun (s++available)=overrun s)
      (fun _ c' => TookFrom c s none c') c := by
  have hdrop : available.drop available.length=[] := List.drop_length
  have hlast : available.getLast?≠some 10 := fun h => hline (List.mem_of_getLast? h)
  have hstream : c.stream=s++available++[] := by rw [hs,List.append_nil]
  have hopen (h : overrun (s++available)=false) : overrun s=false := by
    by_contra hne
    rw [overrun_open (by simpa using hne) hline] at h
    cases h
  simp only [takeRecord,hfirst,hdrop,wp_bind,wp_modify,wp_get,consume]
  split
  · next hlong =>
    refine ⟨s++available,⟨hstream,fun h => ?_⟩,rfl,by rw [heads_append hline]; simp,(fun h => by cases h)⟩
    have hover := h
    rw [ho (hopen h)] at hlong
    rw [overrun_append hline,Bool.or_eq_false_iff,decide_eq_false_iff_not] at hover
    omega
  · next hshort =>
    refine ⟨rfl,⟨hstream,fun h => ?_⟩,rfl,rfl,?_⟩
    · rw [cut_append hline,← ho (hopen h)]
    · cases hs : overrun s with
      | true => exact overrun_open hs hline
      | false =>
        rw [ho hs] at hshort
        rw [overrun_append hline,(Bool.or_eq_false_iff.mp hs).1,Bool.false_or]
        exact decide_eq_false hshort

theorem takeRecord_wp {available : Bytes} (hs : c.stream=s++available)
    (ho : overrun s=false → c.stdoutPartialRecord=(cut 10 s).2)
    (hquiet : overrun s=true → (10 : UInt8)∉available) :
    wp (takeRecord available)
      (fun record c' => TookFrom c s record c' ∧ (record=none → (10 : UInt8)∉available ∧
        LookedAt c' (s++available) ∧ c'.stdout=some [] ∧ c'.peer=c.peer ∧
        overrun (s++available)=overrun s))
      (fun _ c' => TookFrom c s none c') c := by
  rcases firstLine_cases available with ⟨line,rest,hline,rfl,hfirst⟩ | ⟨hline,hfirst⟩
  · have hfree : overrun s=false := by
      by_contra hne
      exact hquiet (by simpa using hne) (by simp)
    exact wp_mono (fun record _ h => ⟨h.1,fun he => absurd he h.2⟩) (fun _ _ h => h)
      (takeRecord_line hs (ho hfree) hfree hline hfirst)
  · refine wp_mono (fun record c' h => ?_) (fun _ _ h => h) (takeRecord_open hs ho hline hfirst)
    obtain ⟨rfl,hlooked,hout,hpeer,hover⟩ := h
    exact ⟨⟨_,hlooked,hpeer,by rw [heads_append hline]; simp,(fun h => by cases h)⟩,
      fun _ => ⟨hline,hlooked,hout,hpeer,hover⟩⟩

/-- The bytes that the answers bring before the first that brings none. -/
def chunks : List ReadAnswer → Bytes
  | .chunk bytes::reads => bytes++chunks reads
  | _ => []

def recordOf : StreamRead → Option Bytes
  | .frame record => some record
  | _ => none

theorem TookFrom.after {c₁ : ManagedPiChild} {s₁ : Bytes} {record : Option Bytes}
    (hp : c₁.peer=c.peer) (hh : heads s₁=heads s) (h : TookFrom c₁ s₁ record c') :
    TookFrom c s record c' := by
  obtain ⟨s',hlooked,hpeer,hheads,hover⟩ := h
  exact ⟨s',hlooked,hpeer.trans hp,by rw [hheads,hh],hover⟩

theorem fillRecord_wp {reads : List ReadAnswer} (hlooked : LookedAt c s) (hout : c.stdout=some [])
    (hquiet : overrun s=true → (10 : UInt8)∉chunks reads) :
    wp (fillRecord reads) (fun r c' => TookFrom c s (recordOf r.1) c')
      (fun _ c' => TookFrom c s none c') c := by
  induction reads generalizing c s with
  | nil => exact hlooked.took
  | cons answer reads ih =>
    cases answer with
    | wouldBlock => exact hlooked.took
    | failed => exact hlooked.took
    | chunk bytes =>
      have hs : c.stream=s := by
        rw [hlooked.stream,buffer,hout]
        exact List.append_nil s
      have hread : (c.pipeRead bytes).stream=s++bytes := by rw [← hs]; rfl
      rw [fillRecord,wp_bind,wp_modify]
      split
      · next he =>
        have hsame : LookedAt (c.pipeRead bytes) s := by
          refine ⟨?_,hlooked.opened⟩
          rw [hread,he,buffer,show (c.pipeRead []).stdout=some [] from hout]
          rfl
        have htook : TookFrom c s none (c.pipeRead bytes) := hsame.took.after rfl rfl
        simp only [wp_bind,wp_get,wp_ensure]
        exact ⟨fun _ => htook,fun _ => htook⟩
      · have hbytes (h : overrun s=true) : (10 : UInt8)∉bytes ∧ (10 : UInt8)∉chunks reads :=
          not_or.mp (mt List.mem_append.mpr (hquiet h))
        refine (wp_bind ..).mpr (wp_mono (fun record c₁ h => ?_) (fun _ _ h => h.after rfl rfl)
          (takeRecord_wp hread hlooked.opened (fun h => (hbytes h).1)))
        cases record with
        | some record => exact h.1.after rfl rfl
        | none =>
          obtain ⟨hline,hlooked₁,hout₁,hpeer₁,hover⟩ := h.2 rfl
          have hheads := heads_append (s := s) hline
          exact wp_mono (fun _ _ h => h.after hpeer₁ hheads) (fun _ _ h => h.after hpeer₁ hheads)
            (ih hlooked₁ hout₁ (fun h => (hbytes (hover.symm.trans h)).2))

/-- What a read of the stream leaves: its bytes are looked at, and a record is taken or not. -/
theorem readBoundedRecord_wp {reads : List ReadAnswer} (hlooked : LookedAt c s)
    (hquiet : overrun s=true → (10 : UInt8)∉c.buffer++chunks reads) :
    wp (readBoundedRecord reads) (fun r c' => TookFrom c s (recordOf r.1) c')
      (fun _ c' => TookFrom c s none c') c := by
  have hparts (h : overrun s=true) : (10 : UInt8)∉c.buffer ∧ (10 : UInt8)∉chunks reads :=
    not_or.mp (mt List.mem_append.mpr (hquiet h))
  rw [readBoundedRecord,wp_bind,wp_get]
  split
  · exact hlooked.took
  · next hout => exact fillRecord_wp hlooked hout (fun h => (hparts h).2)
  · next available _ hout =>
    have hbuffer : c.buffer=available := by rw [buffer,hout]; rfl
    refine (wp_bind ..).mpr (wp_mono (fun record c₁ h => ?_) (fun _ _ h => h)
      (takeRecord_wp (hbuffer ▸ hlooked.stream) hlooked.opened (fun h => hbuffer ▸ (hparts h).1)))
    cases record with
    | some record => exact h.1
    | none =>
      obtain ⟨hline,hlooked₁,hout₁,hpeer₁,hover⟩ := h.2 rfl
      have hheads := heads_append (s := s) hline
      exact wp_mono (fun _ _ h => h.after hpeer₁ hheads) (fun _ _ h => h.after hpeer₁ hheads)
        (fillRecord_wp hlooked₁ hout₁ (fun h => (hparts (hover.symm.trans h)).2))

/-- The stream, what the reader has of it, and the seals of the peer. -/
def output (c : ManagedPiChild) : Bytes×Option Bytes×Bytes×Option (List Blake3Digest) :=
  (c.stream,c.stdout,c.stdoutPartialRecord,c.peer.map (fun p => p.outboundSeals))

def Quiet (c c' : ManagedPiChild) : Prop := c'.output=c.output

instance : Std.Refl Quiet := ⟨fun _ => rfl⟩

instance : IsTrans ManagedPiChild Quiet := ⟨fun _ _ _ h h' => Eq.trans h' h⟩

section Quiet
variable {α : Type} (wire : Wire)

theorem quiet_onPeer {m : LinePeer.Action α}
    (hm : ∀ p,wp m (fun _ p' => p'.outboundSeals=p.outboundSeals)
      (fun _ p' => p'.outboundSeals=p.outboundSeals) p) : Keeps Quiet (onPeer m) := by
  refine ⟨fun c => ?_⟩
  cases hp : c.peer with
  | none =>
    simp only [wp,onPeer,hp]
    rfl
  | some p =>
    simp only [wp,onPeer,hp]
    have hsame := wp_state (hm p)
    simp only [Quiet,output,hp,Option.map_some,hsame]
    rfl

theorem seals_within (m : Boundary.Action α) {p : LinePeer} {seals : List Blake3Digest}
    (hp : p.outboundSeals=seals) : wp (LinePeer.onPeer m) (fun _ p' => p'.outboundSeals=seals)
      (fun _ p' => p'.outboundSeals=seals) p := by
  unfold LinePeer.onPeer
  rw [wp_within]
  unfold wp
  split
  · exact hp
  · exact hp

theorem seals_admitted (line : Bytes) (p : LinePeer) :
    wp (LinePeer.admitInboundJsonlBytes wire line) (fun _ p' => p'.outboundSeals=p.outboundSeals)
      (fun _ p' => p'.outboundSeals=p.outboundSeals) p := by
  simp only [LinePeer.admitInboundJsonlBytes,wp_bind,wp_modify]
  split
  · exact seals_within _ rfl
  · split
    · exact seals_within _ rfl
    · exact seals_within _ rfl

/-- The peer seals a record before anything else. -/
theorem seals_observed (line : Bytes) (p : LinePeer) :
    wp (LinePeer.observeOutboundJsonlBytes wire line)
      (fun _ p' => p'.outboundSeals=p.outboundSeals++[wire.hash line])
      (fun _ p' => p'.outboundSeals=p.outboundSeals++[wire.hash line]) p := by
  simp only [LinePeer.observeOutboundJsonlBytes,wp_bind,wp_modify]
  split
  · exact seals_within _ rfl
  · split
    · exact seals_within _ rfl
    · exact seals_within _ rfl

theorem quiet_peerPhase : Keeps Quiet peerPhase := by
  refine Keeps.get.bind (fun c => ?_)
  split
  · exact .fail _
  · exact .pure _

/-- An operation on the process that does not read. -/
theorem quiet_onProcess {m : OwnedNativeChildProcess.Action α}
    (hm : ∀ p,wp m (fun _ p' => p'.record.stdout=p.record.stdout)
      (fun _ p' => p'.record.stdout=p.record.stdout) p) : Keeps Quiet (onProcess m) := by
  refine ⟨fun c => ?_⟩
  rw [onProcess,wp_within]
  have hsame (p' : OwnedNativeChildProcess) (hp : p'.record.stdout=c.nativeChild.record.stdout) :
      Quiet c {c with nativeChild := p'} := by
    simp only [Quiet,output,stream,hp]
  exact wp_mono (fun _ p' => hsame p') (fun _ p' => hsame p') (hm c.nativeChild)

theorem quiet_signalGroup (action : SignalAction) (sent : SignalDelivery) (now : MonotonicTick)
    (os : SignalAnswers) : Keeps Quiet (signalGroup action sent now os) := by
  have hsignal : Keeps Quiet (onProcess (OwnedNativeChildProcess.signal action os)) :=
    quiet_onProcess (fun _ => wp_signal (fun _ _ => rfl) (fun _ _ _ => rfl) (fun _ _ => rfl))
  exact hsignal.bind (fun _ => Keeps.bind (.modify (fun _ => rfl)) (fun _ => .pure _))

theorem quiet_pollDirectWait (wait : Option (Option ExitStatus)) :
    Keeps Quiet (onProcess (OwnedNativeChildProcess.pollDirectWait wait)) := by
  refine quiet_onProcess (fun p => ?_)
  simp only [OwnedNativeChildProcess.pollDirectWait,wp_bind,wp_get]
  split
  · rfl
  · rfl
  · rfl

theorem quiet_waitDirect (wait : Option ExitStatus) :
    Keeps Quiet (onProcess (OwnedNativeChildProcess.waitDirect wait)) := by
  refine quiet_onProcess (fun p => ?_)
  simp only [OwnedNativeChildProcess.waitDirect,wp_bind,wp_get]
  split
  · rfl
  · rfl
  · rfl

theorem quiet_groupLiveness (probe : KillAnswer) : Keeps Quiet (groupLiveness probe) := .lift _

theorem quiet_startAutomaticBoundaryContainment (now : MonotonicTick) :
    Keeps Quiet (startAutomaticBoundaryContainment now) := by
  refine Keeps.get.bind (fun c => .ite (.pure _) ?_)
  refine Keeps.bind (.modify (fun _ => rfl)) (fun _ => .ite (.modify (fun _ => rfl)) ?_)
  exact (Keeps.lift _).bind (fun _ => .modify (fun _ => rfl))

theorem quiet_contain (now : MonotonicTick) (e : SupervisionError) :
    Keeps Quiet (contain now e : Action α) :=
  (quiet_startAutomaticBoundaryContainment now).bind (fun _ => .fail e)

theorem quiet_orContain {m : Action α} (now : MonotonicTick) (hm : Keeps Quiet m) :
    Keeps Quiet (orContain now m) := by
  refine hm.attempt.bind (fun r => ?_)
  cases r with
  | ok a => exact .pure a
  | error e => exact quiet_contain now e

theorem quiet_recordControlDelivery (command : PendingControlCommand) (now : MonotonicTick)
    (probe : KillAnswer) : Keeps Quiet (recordControlDelivery command now probe) := by
  refine .ite (.pure _) ((quiet_groupLiveness _).bind (fun l => Keeps.get.bind (fun c => ?_)))
  split
  · exact .fail _
  · exact Keeps.bind (.modify (fun _ => rfl)) (fun _ => .modify (fun _ => rfl))

theorem quiet_flushHead (now : MonotonicTick) (probe : KillAnswer) :
    Keeps Quiet (flushHead now probe) := by
  refine Keeps.get.bind (fun c => ?_)
  split
  · exact .fail _
  · refine .ite ?_ ((Keeps.ensure _ _).bind (fun _ => .pure _))
    exact Keeps.bind (.modify (fun _ => rfl)) (fun _ =>
      (quiet_recordControlDelivery ..).bind (fun _ => .pure _))

theorem quiet_flushWrites (now : MonotonicTick) (probe : KillAnswer) (writes : List WriteAnswer) :
    Keeps Quiet (flushWrites now probe writes) := by
  have hend : Keeps Quiet (do
      let left ← flushHead now probe
      Pure.pure (if left.isNone then .delivered else .pending) : Action ControlWriteProgress) :=
    (quiet_flushHead now probe).bind (fun _ => .pure _)
  induction writes with
  | nil => exact hend
  | cons answer writes ih =>
    cases answer with
    | wouldBlock => exact hend
    | failed =>
      refine (quiet_flushHead now probe).bind (fun left => ?_)
      cases left with
      | none => exact .pure _
      | some _ => exact Keeps.bind (.modify (fun _ => rfl)) (fun _ => .fail _)
    | wrote n =>
      refine (quiet_flushHead now probe).bind (fun left => ?_)
      cases left with
      | none => exact .pure _
      | some pending =>
        exact (Keeps.ensure _ _).bind (fun _ => Keeps.bind (.modify (fun _ => rfl)) (fun _ => ih))

theorem quiet_flushPendingControl (now : MonotonicTick) (os : WriteAnswers) :
    Keeps Quiet (flushPendingControl now os) := by
  refine Keeps.get.bind (fun c => ?_)
  split
  · exact .fail _
  · exact (Keeps.ensure _ _).bind (fun _ => quiet_flushWrites ..)

theorem quiet_send (correlationIdentity : CorrelationIdentity) (command : InboundCommand)
    (label : PendingControlCommand) (now deadline : MonotonicTick) (os : WriteAnswers) :
    Keeps Quiet (send wire correlationIdentity command label now deadline os) := by
  have hnext : Keeps Quiet (nextFrame correlationIdentity command) := by
    refine Keeps.get.bind (fun c => (Keeps.ensure _ _).bind (fun _ => ?_))
    split
    · exact .fail _
    · exact Keeps.bind (.modify (fun _ => rfl)) (fun _ => .pure _)
  have hstage (frame : InboundFrame) :
      Keeps Quiet (stageInbound wire frame label now deadline os) := by
    unfold stageInbound
    split
    · exact .fail _
    · refine (quiet_onPeer (seals_admitted wire _)).bind (fun r => ?_)
      cases r with
      | error e => exact .fail _
      | ok a => exact Keeps.bind (.modify (fun _ => rfl)) (fun _ => quiet_flushPendingControl ..)
  exact hnext.bind (fun frame => quiet_orContain now (hstage frame))

theorem quiet_sendCreateSession (gate : InertChildFacts → Option AdmissionDenied)
    (now deadline : MonotonicTick) (os : WriteAnswers) :
    Keeps Quiet (sendCreateSession wire gate now deadline os) := by
  refine Keeps.get.bind (fun c => (Keeps.ensure _ _).bind (fun _ => ?_))
  split
  · exact Keeps.bind (.modify (fun _ => rfl)) (fun _ => .fail _)
  · exact (quiet_send ..).bind (fun _ => Keeps.bind (.modify (fun _ => rfl)) (fun _ => .pure _))

theorem quiet_sendDispose (correlationIdentity : CorrelationIdentity) (reason : DisposeReason)
    (now deadline : MonotonicTick) (os : WriteAnswers) :
    Keeps Quiet (sendDispose wire correlationIdentity reason now deadline os) :=
  Keeps.get.bind (fun _ => (Keeps.ensure _ _).bind (fun _ => (quiet_send ..).bind (fun _ =>
    Keeps.bind (.modify (fun _ => rfl)) (fun _ => .pure _))))

theorem quiet_requestCancellation (request : CancellationRequest) (now : MonotonicTick)
    (os : WriteAnswers) : Keeps Quiet (requestCancellation wire request now os) := by
  have hdiscard (c : ManagedPiChild) : Quiet c c.discardPendingControlBeforeCancellation := by
    unfold discardPendingControlBeforeCancellation
    split <;> rfl
  refine Keeps.bind (.modify hdiscard) (fun _ => Keeps.get.bind (fun c => ?_))
  split
  · exact (Keeps.lift _).bind (fun _ => Keeps.bind (.modify (fun _ => rfl)) (fun _ => .pure _))
  · refine (Keeps.ensure _ _).bind (fun _ => ?_)
    split
    · exact Keeps.bind (.modify (fun _ => rfl)) (fun _ => .pure _)
    · refine (Keeps.lift _).bind (fun _ => Keeps.bind (.modify (fun _ => rfl)) (fun _ => ?_))
      exact .ite (quiet_send ..) (.pure _)

theorem quiet_escalate (action : SignalAction) (sent : SignalDelivery) (l : ChildLifecycle)
    (note : Bool → CancellationProgress → CancellationProgress) (now : MonotonicTick)
    (os : SignalAnswers) : Keeps Quiet (escalate action sent l note now os) := by
  refine (quiet_signalGroup ..).bind (fun outcome => Keeps.get.bind (fun c => ?_))
  split
  · exact .fail _
  · exact .modify (fun _ => rfl)

theorem quiet_advanceCancellationWithoutReap (now : MonotonicTick) (term kill : SignalAnswers) :
    Keeps Quiet (advanceCancellationWithoutReap now term kill) := by
  refine Keeps.get.bind (fun c => ?_)
  split
  · exact .fail _
  · exact .ite (.pure _) ((quiet_escalate ..).when.bind (fun _ =>
      Keeps.get.bind (fun _ => (quiet_escalate ..).when)))

theorem quiet_pollDirectChildReap (wait : Option (Option ExitStatus)) (probe : KillAnswer) :
    Keeps Quiet (pollDirectChildReap wait probe) := by
  refine Keeps.get.bind (fun c => ?_)
  split
  · exact .pure _
  · refine (Keeps.ensure _ _).bind (fun _ => (quiet_pollDirectWait wait).bind (fun status => ?_))
    cases status with
    | none => exact .pure _
    | some status =>
      refine (quiet_groupLiveness _).bind (fun l => Keeps.get.bind (fun c => ?_))
      exact Keeps.bind (.modify (fun _ => rfl)) (fun _ => .pure _)

theorem quiet_issueLingeringGroupCleanup (now : MonotonicTick) (os : SignalAnswers) :
    Keeps Quiet (issueLingeringGroupCleanup now os) := by
  refine Keeps.get.bind (fun c => ?_)
  split
  · exact .fail _
  · exact .ite (.pure _) ((Keeps.ensure _ _).bind (fun _ => (quiet_signalGroup ..).bind
      (fun _ => .pure _)))

theorem quiet_readStderr (answer : ReadAnswer) (c : ManagedPiChild) : Quiet c (c.readStderr answer) := by
  unfold readStderr
  split
  · rfl
  · split
    · rfl
    · split <;> rfl

theorem quiet_observeFinalEof : Keeps Quiet observeFinalEof := by
  refine Keeps.get.bind (fun c => ?_)
  split
  · exact .pure _
  · refine .ite (.pure _) ((quiet_onPeer (fun _ => seals_within _ rfl)).bind (fun r => ?_))
    cases r with
    | ok r => exact .pure _
    | error e => exact .pure _

theorem quiet_takeStderrSnapshotAfterReap (os : FinalAnswers) :
    Keeps Quiet (takeStderrSnapshotAfterReap os) := by
  refine Keeps.get.bind (fun c => ?_)
  split
  · exact .fail _
  · refine Keeps.bind (.modify (fun _ => rfl)) (fun _ => ?_)
    split
    · exact (Keeps.ensure _ _).bind (fun _ => (Keeps.ensure _ _).bind (fun _ =>
        (Keeps.ensure _ _).bind (fun _ => .pure _)))
    · exact (Keeps.ensure _ _).bind (fun _ => .pure _)

end Quiet
end ManagedPiChild
end Society.Custody
