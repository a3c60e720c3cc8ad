import Mathlib.Logic.Function.Basic
import Society.Kernel.Work

namespace Society.Kernel
open Society.Relational Function

/-! What work is about: tickets, the items that stand for them, the leases that claim items
and the attempts that run under a lease. -/

@[ext] structure Item where
  ticket : TicketId
  actor : ActorInstanceId
  state : WorkItemState

@[ext] structure Lease where
  item : WorkItemId
  actor : ActorInstanceId
  active : Bool

@[ext] structure Attempt where
  ticket : TicketId
  item : WorkItemId
  lease : WorkLeaseId
  actor : ActorInstanceId
  state : ActorAttemptState

@[ext] structure Work where
  ticket : TicketId → Option TicketState
  prerequisite : TicketId → TicketId → Prop
  item : WorkItemId → Option Item
  lease : WorkLeaseId → Option Lease
  attempt : ActorAttemptId → Option Attempt

/-- The kinds of commands that the laws of work speak of. -/
inductive WorkEvent
  | ordinary
  | start
  | retry (i : ActorAttemptId)
  | recover (i : ActorAttemptId)

namespace Work
variable {w w' : Work} {e : WorkEvent}

def putItem (w : Work) (i : WorkItemId) (x : Item) : Work := {w with item := update w.item i (some x)}

def putLease (w : Work) (l : WorkLeaseId) (z : Lease) : Work :=
  {w with lease := update w.lease l (some z)}

def putAttempt (w : Work) (a : ActorAttemptId) (y : Attempt) : Work :=
  {w with attempt := update w.attempt a (some y)}

def setTicket (w : Work) (t : TicketId) (s : TicketState) : Work :=
  {w with ticket := update w.ticket t ((w.ticket t).map (fun _ => s))}

def setItem (w : Work) (i : WorkItemId) (s : WorkItemState) : Work :=
  {w with item := update w.item i ((w.item i).map (fun x => {x with state := s}))}

def endLease (w : Work) (l : WorkLeaseId) : Work :=
  {w with lease := update w.lease l ((w.lease l).map (fun x => {x with active := false}))}

def setAttempt (w : Work) (a : ActorAttemptId) (s : ActorAttemptState) : Work :=
  {w with attempt := update w.attempt a ((w.attempt a).map (fun x => {x with state := s}))}

/-- One step of the work on a ticket. -/
inductive Step (w : Work) : WorkEvent → Work → Prop
  | idle (e : WorkEvent) : Step w e w
  | create (t : TicketId) (ps : List TicketId) (ht : w.ticket t=none) :
      Step w .ordinary {w with ticket := update w.ticket t (some .draft),
                               prerequisite := fun a b => w.prerequisite a b ∨ a=t ∧ b ∈ ps}
  | admitTicket (t : TicketId) (ht : w.ticket t=some .draft) : Step w .ordinary (w.setTicket t .admitted)
  | register (i : WorkItemId) (x : Item) (ht : w.ticket x.ticket=some .admitted)
      (hp : ∀ p,w.prerequisite x.ticket p → w.ticket p=some .completed) (hi : w.item i=none)
      (hx : x.state=.ready) :
      Step w .ordinary ((w.putItem i x).setTicket x.ticket .ready)
  | claim (i : WorkItemId) (x : Item) (l : WorkLeaseId) (hi : w.item i=some x)
      (hx : x.state=.ready) (ht : w.ticket x.ticket=some .ready) (hl : w.lease l=none) :
      Step w .ordinary (((w.putLease l ⟨i,x.actor,true⟩).setItem i .claimed).setTicket x.ticket .claimed)
  | start (i : WorkItemId) (x : Item) (l : WorkLeaseId) (a : ActorAttemptId) (hi : w.item i=some x)
      (hx : x.state=.claimed) (ht : w.ticket x.ticket=some .claimed)
      (hl : w.lease l=some ⟨i,x.actor,true⟩) (ha : ∀ b y,w.attempt b=some y → b.val<a.val) :
      Step w .start ((w.putAttempt a ⟨x.ticket,i,l,x.actor,.running⟩).setItem i .running)
  | attest (a : ActorAttemptId) (y : Attempt) (k : ActorAttemptTerminalKind)
      (ha : w.attempt a=some y) (hk : k.allowedFrom y.state=true) :
      Step w .ordinary ((((w.setAttempt a k.state).endLease y.lease).setItem y.item .settled).setTicket
        y.ticket k.ticketState)
  | validate (a : ActorAttemptId) (y : Attempt) (ha : w.attempt a=some y)
      (hy : y.state=.succeeded) (ht : w.ticket y.ticket=some .submitted) :
      Step w .ordinary ((w.setAttempt a .validated).setTicket y.ticket .verified)
  | retry (a : ActorAttemptId) (y : Attempt) (x : Item) (ha : w.attempt a=some y)
      (hy : y.state.isRetryable=true) (hi : w.item y.item=some x) (hx : x.state=.settled) :
      Step w (.retry a) ((w.setItem y.item .ready).setTicket y.ticket .ready)
  | complete (a : ActorAttemptId) (y : Attempt) (ha : w.attempt a=some y)
      (hy : y.state=.validated) (ht : w.ticket y.ticket=some .verified) :
      Step w .ordinary (w.setTicket y.ticket .completed)
  | expire (l : WorkLeaseId) (z : Lease) (x : Item) (hl : w.lease l=some z)
      (hz : z.active=true) (hi : w.item z.item=some x)
      (hu : ∀ a y,w.attempt a=some y → y.lease≠l) :
      Step w .ordinary (((w.endLease l).setItem z.item .ready).setTicket x.ticket .ready)
  | cancel (a : ActorAttemptId) (y : Attempt) (ha : w.attempt a=some y) (hy : y.state=.running) :
      Step w .ordinary (w.setAttempt a .cancellationRequested)
  | recover (a : ActorAttemptId) (y : Attempt) (ha : w.attempt a=some y)
      (hy : y.state.isLive=true) : Step w (.recover a) (w.setAttempt a .supervisorFailed)

/-- What holds of the work in every state. -/
structure Sound (w : Work) : Prop where
  opened : ∀ i x,w.item i=some x →
    w.ticket x.ticket≠none ∧ w.ticket x.ticket≠some .draft ∧ w.ticket x.ticket≠some .admitted
  oneItem : ∀ i j x y,w.item i=some x → w.item j=some y → x.ticket=y.ticket → i=j
  leased : ∀ l z,w.lease l=some z → z.active=true →
    ∃ x,w.item z.item=some x ∧ (x.state=.claimed ∨ x.state=.running) ∧ z.actor=x.actor
  oneLease : ∀ l m z z',w.lease l=some z → w.lease m=some z' → z.active=true → z'.active=true →
    z.item=z'.item → l=m
  attempted : ∀ a y,w.attempt a=some y →
    ∃ x,w.item y.item=some x ∧ y.ticket=x.ticket ∧ y.actor=x.actor
  live : ∀ a y,w.attempt a=some y → y.state.isLive=true →
    (∃ x,w.item y.item=some x ∧ x.state=.running) ∧ w.lease y.lease=some ⟨y.item,y.actor,true⟩
  last : ∀ a b y z,w.attempt a=some y → w.attempt b=some z → y.state.isLive=true →
    y.item=z.item → b.val ≤ a.val
  claimed : ∀ i x,w.item i=some x → x.state=.claimed → ∃ l,w.lease l=some ⟨i,x.actor,true⟩
  running : ∀ i x,w.item i=some x → x.state=.running →
    ∃ l a y,w.lease l=some ⟨i,x.actor,true⟩ ∧ w.attempt a=some y ∧ y.lease=l

/-- One attempt at a time. -/
theorem Sound.oneAttempt (h : Sound w) {a b : ActorAttemptId} {y z : Attempt}
    (ha : w.attempt a=some y) (hb : w.attempt b=some z) (hy : y.state.isLive=true)
    (hz : z.state.isLive=true) (hi : y.item=z.item) : a=b :=
  Relational.Id.ext (Nat.le_antisymm (h.last b a z y hb ha hz hi.symm) (h.last a b y z ha hb hy hi))

theorem allowedFrom_live {k : ActorAttemptTerminalKind} {q : ActorAttemptState}
    (h : k.allowedFrom q=true) : q.isLive=true := by
  cases k <;> cases q <;> first | rfl | cases h

theorem terminal_not_live (k : ActorAttemptTerminalKind) : k.state.isLive=false := by
  cases k <;> rfl

theorem terminal_opens (k : ActorAttemptTerminalKind) :
    k.ticketState≠.draft ∧ k.ticketState≠.admitted := by
  cases k <;> decide

theorem Sound.create (h : Sound w) {t : TicketId} (ht : w.ticket t=none) (p : TicketId → TicketId → Prop) :
    Sound {w with ticket := update w.ticket t (some .draft),prerequisite := p} := by
  obtain ⟨opened,oneItem,leased,oneLease,attempted,live,last,claimed,running⟩ := h
  refine ⟨?_,oneItem,leased,oneLease,attempted,live,last,claimed,running⟩
  simp only [update_apply]
  grind

theorem Sound.register (h : Sound w) {i : WorkItemId} {x : Item}
    (ht : w.ticket x.ticket=some .admitted) (hi : w.item i=none) (hx : x.state=.ready) :
    Sound ((w.putItem i x).setTicket x.ticket .ready) := by
  obtain ⟨opened,oneItem,leased,oneLease,attempted,live,last,claimed,running⟩ := h
  constructor <;> simp only [putItem,setTicket,update_apply] <;> grind

theorem Sound.claim (h : Sound w) {i : WorkItemId} {x : Item} {l : WorkLeaseId}
    (hi : w.item i=some x) (hx : x.state=.ready) (hl : w.lease l=none) :
    Sound ((w.putLease l ⟨i,x.actor,true⟩).setItem i .claimed) := by
  obtain ⟨opened,oneItem,leased,oneLease,attempted,live,last,claimed,running⟩ := h
  constructor <;> simp only [putLease,setItem,update_apply] <;> grind

theorem Sound.start (h : Sound w) {i : WorkItemId} {x : Item} {l : WorkLeaseId} {a : ActorAttemptId}
    (hi : w.item i=some x) (hx : x.state=.claimed) (hl : w.lease l=some ⟨i,x.actor,true⟩)
    (ha : ∀ b y,w.attempt b=some y → b.val<a.val) :
    Sound ((w.putAttempt a ⟨x.ticket,i,l,x.actor,.running⟩).setItem i .running) := by
  have hlive : ActorAttemptState.running.isLive=true := rfl
  obtain ⟨opened,oneItem,leased,oneLease,attempted,live,last,claimed,running⟩ := h
  constructor <;> simp only [putAttempt,setItem,update_apply]
  case running =>
    intro j z hz hrun
    by_cases hj : j=i
    · exact ⟨l,a,⟨x.ticket,i,l,x.actor,.running⟩,by grind,by simp,rfl⟩
    · obtain ⟨m,b,y,hm,hb,hy⟩ := running j z (by simpa [hj] using hz) hrun
      have := ha b y hb
      exact ⟨m,b,y,hm,by grind,hy⟩
  all_goals grind

theorem Sound.attest (h : Sound w) {a : ActorAttemptId} {y : Attempt} {k : ActorAttemptTerminalKind}
    (ha : w.attempt a=some y) (hk : k.allowedFrom y.state=true) :
    Sound (((w.setAttempt a k.state).endLease y.lease).setItem y.item .settled) := by
  have hlive := allowedFrom_live hk
  have hdead := terminal_not_live k
  have honly : ∀ b z,w.attempt b=some z → z.state.isLive=true → y.item=z.item → a=b :=
    fun b z hb hz hi => h.oneAttempt ha hb hlive hz hi
  obtain ⟨opened,oneItem,leased,oneLease,attempted,live,last,claimed,running⟩ := h
  constructor <;> simp only [setAttempt,endLease,setItem,update_apply] <;> grind

/-- An attempt that keeps being live, or ends while its item stays as it is. -/
theorem Sound.setAttempt (h : Sound w) {a : ActorAttemptId} {y : Attempt} {q : ActorAttemptState}
    (ha : w.attempt a=some y) (hq : q.isLive=true → y.state.isLive=true) : Sound (w.setAttempt a q) := by
  obtain ⟨opened,oneItem,leased,oneLease,attempted,live,last,claimed,running⟩ := h
  constructor <;> simp only [Work.setAttempt,update_apply] <;> grind

theorem Sound.setTicket (h : Sound w) {t : TicketId} {q : TicketState} (hd : q≠.draft)
    (ha : q≠.admitted) : Sound (w.setTicket t q) := by
  obtain ⟨opened,oneItem,leased,oneLease,attempted,live,last,claimed,running⟩ := h
  refine ⟨?_,oneItem,leased,oneLease,attempted,live,last,claimed,running⟩
  intro i x hi
  have ho := opened i x hi
  simp only [Work.setTicket,update_apply]
  split
  · next he =>
    obtain ⟨u,hu⟩ := Option.ne_none_iff_exists'.mp (he ▸ ho.1)
    simp [hu,hd,ha]
  · exact ho

theorem Sound.admitTicket (h : Sound w) {t : TicketId} (ht : w.ticket t=some .draft) :
    Sound (w.setTicket t .admitted) := by
  obtain ⟨opened,oneItem,leased,oneLease,attempted,live,last,claimed,running⟩ := h
  refine ⟨?_,oneItem,leased,oneLease,attempted,live,last,claimed,running⟩
  simp only [Work.setTicket,update_apply]
  grind

theorem Sound.retry (h : Sound w) {i : WorkItemId} {x : Item} (hi : w.item i=some x)
    (hx : x.state=.settled) : Sound (w.setItem i .ready) := by
  obtain ⟨opened,oneItem,leased,oneLease,attempted,live,last,claimed,running⟩ := h
  constructor <;> simp only [Work.setItem,update_apply] <;> grind

theorem Sound.expire (h : Sound w) {l : WorkLeaseId} {z : Lease} (hl : w.lease l=some z)
    (hz : z.active=true) (hu : ∀ a y,w.attempt a=some y → y.lease≠l) :
    Sound ((w.endLease l).setItem z.item .ready) := by
  obtain ⟨opened,oneItem,leased,oneLease,attempted,live,last,claimed,running⟩ := h
  constructor <;> simp only [endLease,setItem,update_apply] <;> grind

/-- Every step keeps the work sound. -/
theorem Step.sound (hs : Step w e w') (h : Sound w) : Sound w' := by
  cases hs with
  | idle => exact h
  | create t ps ht => exact h.create ht _
  | admitTicket t ht => exact h.admitTicket ht
  | register i x ht hp hi hx => exact h.register ht hi hx
  | claim i x l hi hx ht hl => exact (h.claim hi hx hl).setTicket (by decide) (by decide)
  | start i x l a hi hx ht hl ha => exact h.start hi hx hl ha
  | attest a y k ha hk => exact (h.attest ha hk).setTicket (terminal_opens k).1 (terminal_opens k).2
  | validate a y ha hy ht =>
    exact (h.setAttempt ha (fun hq => by cases hq)).setTicket (by decide) (by decide)
  | retry a y x ha hy hi hx => exact (h.retry hi hx).setTicket (by decide) (by decide)
  | complete a y ha hy ht => exact h.setTicket (by decide) (by decide)
  | expire l z x hl hz hi hu => exact (h.expire hl hz hu).setTicket (by decide) (by decide)
  | cancel a y ha hy => exact h.setAttempt ha (fun _ => by rw [hy]; rfl)
  | recover a y ha hy => exact h.setAttempt ha (fun _ => hy)

/-- An attempt whose result counts. -/
def Attempt.won (y : Attempt) : Prop := y.state=.succeeded ∨ y.state=.validated

/-- A ticket that is past its work. -/
def done (q : Option TicketState) : Prop := q=some .submitted ∨ q=some .verified ∨ q=some .completed

/-- A retry names the most recent attempt of its item. -/
def Latest (w : Work) (e : WorkEvent) : Prop :=
  ∀ a y,e=.retry a → w.attempt a=some y → ∀ b z,w.attempt b=some z → z.item=y.item → b.val ≤ a.val

/-- A result is the last word on its item, and a ticket past its work has one. -/
structure Earned (w : Work) : Prop where
  settled : ∀ a y,w.attempt a=some y → Attempt.won y → ∃ x,w.item y.item=some x ∧ x.state=.settled
  latest : ∀ a b y z,w.attempt a=some y → w.attempt b=some z → Attempt.won y → z.item=y.item →
    b.val ≤ a.val
  earned : ∀ i x,w.item i=some x → done (w.ticket x.ticket) →
    ∃ a y,w.attempt a=some y ∧ y.item=i ∧ Attempt.won y

/-- The item of a ticket past its work is settled. -/
theorem Earned.done_settled (hw : Earned w) {i : WorkItemId} {x : Item} (hi : w.item i=some x)
    (hd : done (w.ticket x.ticket)) : x.state=.settled := by
  obtain ⟨a,y,ha,rfl,hy⟩ := hw.earned i x hi hd
  obtain ⟨x',hx',hs⟩ := hw.settled a y ha hy
  rw [hi] at hx'
  cases hx'
  exact hs

/-- A retry of the most recent attempt finds no result. -/
theorem Earned.no_result (hw : Earned w) {a : ActorAttemptId} (hl : Latest w (.retry a)) {y : Attempt}
    (ha : w.attempt a=some y) (hy : y.state.isRetryable=true) (b : ActorAttemptId) (z : Attempt)
    (hb : w.attempt b=some z) (hz : z.item=y.item) : ¬Attempt.won z := by
  intro hwon
  have hab : a=b := Relational.Id.ext (Nat.le_antisymm (hw.latest b a z y hb ha hwon hz.symm)
    (hl a y rfl ha b z hb hz))
  subst hab
  rw [ha] at hb
  cases hb
  rcases hwon with hwon | hwon <;> rw [hwon] at hy <;> cases hy

/-- A ticket keeps being completed: what could move it finds its item unsettled, or retries. -/
theorem Step.completed (hs : Step w e w') (h : Sound w) (hw : Earned w) (hl : Latest w e) {t : TicketId}
    (ht : w.ticket t=some .completed) : w'.ticket t=some .completed := by
  have hd : done (w.ticket t) := .inr (.inr ht)
  cases hs with
  | idle => exact ht
  | create u ps hu => simp only [update_apply]; grind
  | admitTicket u hu => simp only [setTicket,update_apply]; grind
  | register i x hx hp hi hr => simp only [setTicket,putItem,update_apply]; grind
  | claim i x l hi hx hr hn => simp only [setTicket,setItem,putLease,update_apply]; grind
  | start i x l a hi hx hr hn ha => exact ht
  | attest a y k ha hk =>
    obtain ⟨⟨x,hx,hrun⟩,_⟩ := h.live a y ha (allowedFrom_live hk)
    obtain ⟨x',hx',hy,_⟩ := h.attempted a y ha
    have hne : t≠y.ticket := by
      rintro rfl
      rw [hx] at hx'
      cases hx'
      rw [hw.done_settled hx (hy ▸ hd)] at hrun
      cases hrun
    simpa [setTicket,setItem,endLease,setAttempt,update_apply,hne] using ht
  | validate a y ha hy hu => simp only [setTicket,setAttempt,update_apply]; grind
  | retry a y x ha hy hi hx =>
    obtain ⟨x',hx',hy',_⟩ := h.attempted a y ha
    have hne : t≠y.ticket := by
      rintro rfl
      rw [hi] at hx'
      cases hx'
      obtain ⟨b,z,hb,hz,hwon⟩ := hw.earned _ x hi (hy' ▸ hd)
      exact hw.no_result hl ha hy b z hb hz hwon
    simpa [setTicket,setItem,update_apply,hne] using ht
  | complete a y ha hy hu => simp only [setTicket,update_apply]; grind
  | expire l z x hz hact hi hu =>
    obtain ⟨x',hx',hst,_⟩ := h.leased l z hz hact
    have hne : t≠x.ticket := by
      rintro rfl
      rw [hi] at hx'
      cases hx'
      rw [hw.done_settled hi hd] at hst
      simp at hst
    simpa [setTicket,setItem,endLease,update_apply,hne] using ht
  | cancel a y ha hy => exact ht
  | recover a y ha hy => exact ht

/-- Prerequisites are met before an item exists, and stay met. -/
theorem Step.met (hs : Step w e w') (h : Sound w) (hw : Earned w) (hl : Latest w e)
    (hmet : ∀ i x p,w.item i=some x → w.prerequisite x.ticket p → w.ticket p=some .completed)
    (i : WorkItemId) (x : Item) (p : TicketId) (hi : w'.item i=some x)
    (hp : w'.prerequisite x.ticket p) : w'.ticket p=some .completed := by
  refine hs.completed h hw hl ?_
  have hold : ∀ x',w.item i=some x' → x'.ticket=x.ticket → w.prerequisite x.ticket p →
      w.ticket p=some .completed := fun x' hx' ht hp => hmet i x' p hx' (ht ▸ hp)
  have hopened := h.opened
  clear hmet
  cases hs with
  | create u ps hu => exact hold x hi rfl (by grind)
  | register j z hz hq hj hr => simp only [setTicket,putItem,update_apply] at hi hp; grind
  | claim j z l hj hz hr hn => simp only [setTicket,setItem,putLease,update_apply] at hi hp; grind
  | start j z l a hj hz hr hn ha => simp only [setItem,putAttempt,update_apply] at hi hp; grind
  | attest a y k ha hk =>
    obtain ⟨z,hz,_⟩ := h.attempted a y ha
    simp only [setTicket,setItem,endLease,setAttempt,update_apply] at hi hp
    grind
  | retry a y z ha hy hj hz => simp only [setTicket,setItem,update_apply] at hi hp; grind
  | expire l z y hz hact hj hu => simp only [setTicket,setItem,endLease,update_apply] at hi hp; grind
  | _ => exact hold x hi rfl hp

theorem Earned.attest (hw : Earned w) (h : Sound w) {a : ActorAttemptId} {y : Attempt}
    {k : ActorAttemptTerminalKind} (ha : w.attempt a=some y) (hk : k.allowedFrom y.state=true) :
    Earned ((((w.setAttempt a k.state).endLease y.lease).setItem y.item .settled).setTicket
      y.ticket k.ticketState) := by
  have hlive := allowedFrom_live hk
  obtain ⟨⟨x,hx,hrun⟩,_⟩ := h.live a y ha hlive
  obtain ⟨q,hq⟩ := Option.ne_none_iff_exists'.mp (h.opened y.item x hx).1
  have hkind : (k.state=.succeeded ↔ k.ticketState=.submitted) ∧ k.state≠.validated ∧
      k.ticketState≠.verified ∧ k.ticketState≠.completed := by cases k <;> decide
  have hlast := h.last
  have hone := h.oneItem
  have hticket := h.attempted
  obtain ⟨settled,latest,earned⟩ := hw
  constructor <;>
    simp only [setTicket,setItem,endLease,setAttempt,update_apply,done,Attempt.won] at * <;> grind

theorem Earned.start (hw : Earned w) {i : WorkItemId} {x : Item} {l : WorkLeaseId}
    {a : ActorAttemptId} (hi : w.item i=some x) (hx : x.state=.claimed)
    (ha : ∀ b y,w.attempt b=some y → b.val<a.val) :
    Earned ((w.putAttempt a ⟨x.ticket,i,l,x.actor,.running⟩).setItem i .running) := by
  obtain ⟨settled,latest,earned⟩ := hw
  constructor <;> simp only [setItem,putAttempt,update_apply,done,Attempt.won] at * <;> grind

/-- A ticket that gets back to work. -/
theorem Earned.reopen (hw : Earned w) (h : Sound w) {i : WorkItemId} {x : Item} {q : WorkItemState}
    {u : TicketState} (hi : w.item i=some x) (hu : ¬done (some u))
    (hn : ∀ b z,w.attempt b=some z → z.item=i → ¬Attempt.won z) :
    Earned ((w.setItem i q).setTicket x.ticket u) := by
  obtain ⟨v,hv⟩ := Option.ne_none_iff_exists'.mp (h.opened i x hi).1
  obtain ⟨settled,latest,earned⟩ := hw
  constructor <;> simp only [setTicket,setItem,update_apply,done,Attempt.won] at * <;> grind

theorem Earned.setTicket (hw : Earned w) {t : TicketId} {q : TicketState}
    (hq : done (some q) → done (w.ticket t)) : Earned (w.setTicket t q) := by
  obtain ⟨settled,latest,earned⟩ := hw
  refine ⟨settled,latest,?_⟩
  intro i x hi hd
  refine earned i x hi ?_
  simp only [Work.setTicket,update_apply] at hd
  split at hd
  · next he =>
    rw [he]
    cases ht : w.ticket t with
    | none => simp [ht,done] at hd
    | some u => exact ht ▸ hq (by simpa [ht] using hd)
  · exact hd

theorem Earned.setAttempt (hw : Earned w) {a : ActorAttemptId} {y : Attempt} {q : ActorAttemptState}
    (ha : w.attempt a=some y) (hq : Attempt.won y ↔ q=.succeeded ∨ q=.validated) :
    Earned (w.setAttempt a q) := by
  obtain ⟨settled,latest,earned⟩ := hw
  constructor <;> simp only [Work.setAttempt,update_apply,Attempt.won] at *
  · grind
  · grind
  · intro i x hi hd
    obtain ⟨b,z,hb,hz,hwon⟩ := earned i x hi hd
    by_cases hab : b=a
    · subst hab
      rw [ha] at hb
      cases hb
      exact ⟨b,⟨y.ticket,y.item,y.lease,y.actor,q⟩,by simp [ha],hz,hq.mp hwon⟩
    · exact ⟨b,z,by simpa [hab] using hb,hz,hwon⟩

theorem Earned.register (hw : Earned w) {i : WorkItemId} {x : Item}
    (ht : w.ticket x.ticket=some .admitted) (hi : w.item i=none) :
    Earned ((w.putItem i x).setTicket x.ticket .ready) := by
  obtain ⟨settled,latest,earned⟩ := hw
  refine ⟨?_,latest,?_⟩ <;> simp only [Work.setTicket,putItem,update_apply,done,Attempt.won] at * <;> grind

/-- Every step keeps results as long as no older attempt is retried. -/
theorem Step.earned (hs : Step w e w') (h : Sound w) (hw : Earned w) (hl : Latest w e) : Earned w' := by
  have hclear {i : WorkItemId} {x : Item} (hi : w.item i=some x) (hx : x.state≠.settled)
      (b : ActorAttemptId) (z : Attempt) (hb : w.attempt b=some z) (hz : z.item=i) : ¬Attempt.won z := by
    intro hwon
    obtain ⟨x',hx',hset⟩ := hw.settled b z hb hwon
    rw [hz,hi] at hx'
    cases hx'
    exact hx hset
  cases hs with
  | idle => exact hw
  | create u ps hu =>
    refine ⟨hw.settled,hw.latest,?_⟩
    have hearned := hw.earned
    simp only [update_apply,done] at *
    grind
  | admitTicket u hu => exact hw.setTicket (by simp [done])
  | register i x hx hp hi hr => exact hw.register hx hi
  | claim i x l hi hx hr hn =>
    have hw' : Earned (w.putLease l ⟨i,x.actor,true⟩) := ⟨hw.settled,hw.latest,hw.earned⟩
    have h' := hw.reopen h hi (q := .claimed) (u := .claimed) (by simp [done]) (hclear hi (by simp [hx]))
    exact ⟨h'.settled,h'.latest,h'.earned⟩
  | start i x l a hi hx hr hn ha => exact hw.start hi hx ha
  | attest a y k ha hk => exact hw.attest h ha hk
  | validate a y ha hy hu =>
    exact (hw.setAttempt ha (by simp [Attempt.won,hy])).setTicket (fun _ => .inl hu)
  | retry a y x ha hy hi hx =>
    obtain ⟨x',hx',ht,_⟩ := h.attempted a y ha
    rw [hi] at hx'
    cases hx'
    rw [ht]
    exact hw.reopen h hi (by simp [done]) (hw.no_result hl ha hy)
  | complete a y ha hy hu => exact hw.setTicket (fun _ => .inr (.inl hu))
  | expire l z x hz hact hi hu =>
    obtain ⟨x',hx',hst,_⟩ := h.leased l z hz hact
    rw [hi] at hx'
    cases hx'
    have hne : x.state≠.settled := by rintro hset; rw [hset] at hst; simp at hst
    have h' := hw.reopen h hi (q := .ready) (u := .ready) (by simp [done]) (hclear hi hne)
    exact ⟨h'.settled,h'.latest,h'.earned⟩
  | cancel a y ha hy => exact hw.setAttempt ha (by simp [Attempt.won,hy])
  | recover a y ha hy =>
    refine hw.setAttempt ha ?_
    simp only [Attempt.won]
    grind [ActorAttemptState.isLive]

/-- An item that runs has a live attempt. -/
def Attended (w : Work) : Prop :=
  ∀ i x,w.item i=some x → x.state=.running → ∃ a y,w.attempt a=some y ∧ y.item=i ∧ y.state.isLive=true

theorem Attended.setItem (hw : Attended w) {i : WorkItemId} {q : WorkItemState} (hq : q≠.running) :
    Attended (w.setItem i q) := by
  intro j x hj hx
  refine hw j x ?_ hx
  simp only [Work.setItem,update_apply] at hj
  split at hj
  · next he =>
    obtain ⟨z,_,rfl⟩ := Option.map_eq_some_iff.mp hj
    exact absurd hx hq
  · exact hj

/-- An attempt may change as long as it stays live, or its item does not run any more. -/
theorem Attended.setAttempt (hw : Attended w) {a : ActorAttemptId} {y : Attempt} {q : ActorAttemptState}
    (ha : w.attempt a=some y) (hq : y.state.isLive=true → q.isLive=true) :
    Attended (w.setAttempt a q) := by
  intro i x hi hx
  obtain ⟨b,z,hb,hz,hlive⟩ := hw i x hi hx
  by_cases hab : b=a
  · subst hab
    rw [ha] at hb
    cases hb
    exact ⟨b,⟨y.ticket,y.item,y.lease,y.actor,q⟩,by simp [Work.setAttempt,ha],hz,hq hlive⟩
  · exact ⟨b,z,by simpa [Work.setAttempt,update_apply,hab] using hb,hz,hlive⟩

/-- Only a start makes an attempt. -/
theorem Step.attempt_old (hs : Step w e w') (he : e≠.start) {a : ActorAttemptId} {y : Attempt}
    (ha : w'.attempt a=some y) : ∃ z,w.attempt a=some z := by
  have hmap {b : ActorAttemptId} {q : ActorAttemptState} (hb : (w.setAttempt b q).attempt a=some y) :
      ∃ z,w.attempt a=some z := by
    simp only [setAttempt,update_apply] at hb
    split at hb
    · next hab =>
      obtain ⟨z,hz,_⟩ := Option.map_eq_some_iff.mp hb
      exact ⟨z,hab ▸ hz⟩
    · exact ⟨y,hb⟩
  cases hs with
  | start => exact absurd rfl he
  | attest b z k hb hk => exact hmap ha
  | validate b z hb hz ht => exact hmap ha
  | cancel b z hb hz => exact hmap ha
  | recover b z hb hz => exact hmap ha
  | _ => exact ⟨y,ha⟩

/-- A recovery only settles what is not live any more. -/
def Unrecovered (w : Work) (e : WorkEvent) : Prop :=
  ∀ a y,e=.recover a → w.attempt a=some y → y.state.isLive=false

theorem Step.attended (hs : Step w e w') (hw : Attended w) (he : Unrecovered w e) : Attended w' := by
  cases hs with
  | idle => exact hw
  | create u ps hu => exact hw
  | admitTicket u hu => exact hw
  | register i x hx hp hi hr =>
    intro j z hj hz
    refine hw j z ?_ hz
    simp only [setTicket,putItem,update_apply] at hj
    split at hj
    · cases hj
      rw [hr] at hz
      cases hz
    · exact hj
  | claim i x l hi hx hr hn => exact hw.setItem (by decide)
  | start i x l a hi hx hr hn ha =>
    intro j z hj hz
    by_cases hji : j=i
    · subst hji
      exact ⟨a,_,update_self ..,rfl,rfl⟩
    · obtain ⟨b,y,hb,hy,hlive⟩ := hw j z (by simpa [setItem,putAttempt,update_apply,hji] using hj) hz
      have hne : b≠a := by
        rintro rfl
        exact absurd (ha b y hb) (Nat.lt_irrefl _)
      exact ⟨b,y,by simpa [setItem,putAttempt,update_apply,hne] using hb,hy,hlive⟩
  | attest a y k ha hk =>
    intro j z hj hz
    have hji : j≠y.item := by
      rintro rfl
      obtain ⟨z',_,rfl⟩ := Option.map_eq_some_iff.mp
        (show (w.item y.item).map (fun x => {x with state := .settled})=some z by
          simpa [setTicket,setItem,endLease,setAttempt] using hj)
      cases hz
    obtain ⟨b,y',hb,hy',hlive⟩ := hw j z (by simpa [setTicket,setItem,endLease,setAttempt,update_apply,hji] using hj) hz
    have hne : b≠a := by
      rintro rfl
      rw [ha] at hb
      cases hb
      exact hji hy'.symm
    exact ⟨b,y',by simpa [setTicket,setItem,endLease,setAttempt,update_apply,hne] using hb,hy',hlive⟩
  | validate a y ha hy hu => exact hw.setAttempt ha (by simp [hy,ActorAttemptState.isLive])
  | retry a y x ha hy hi hx => exact hw.setItem (by decide)
  | complete a y ha hy hu => exact hw
  | expire l z x hz hact hi hu => exact hw.setItem (by decide)
  | cancel a y ha hy => exact hw.setAttempt ha (fun _ => rfl)
  | recover a y ha hy => exact absurd hy (by simp [he a y rfl ha])
end Work
end Society.Kernel
