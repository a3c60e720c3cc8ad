import Society.Latency.Choreography
import Society.Latency.LivePlanLaws

namespace Society.Latency
open Society.Coding
open Society.Kernel (Blake3Digest)

/-! What the prompts of the actors tell of their seats and of the Forum frontier. -/

variable {hash : Bytes → Blake3Digest}

section Prompts
variable {policy : ActorPolicyIdentity} {d : LiveRunDescriptor}

theorem exists_of_forall₂ {α β : Type} {R : α → β → Prop} {l : List α} {l' : List β}
    (h : List.Forall₂ R l l') {b : β} (hb : b∈l') : ∃ a∈l,R a b := by
  induction h with
  | nil => cases hb
  | cons hr _ ih =>
    rcases List.mem_cons.mp hb with rfl | hb
    · exact ⟨_,List.mem_cons_self,hr⟩
    · obtain ⟨a,ha,hab⟩ := ih hb
      exact ⟨a,List.mem_cons_of_mem _ ha,hab⟩

theorem canonical_specification {s : RoleSpecification} (hs : s∈canonicalRoleSpecifications) :
    RoleSpecification.canonical s.ordinal=some s := by
  simp only [canonicalRoleSpecifications,List.mem_cons,List.not_mem_nil,or_false] at hs
  rcases hs with rfl | rfl | rfl | rfl | rfl | rfl | rfl | rfl <;> rfl

theorem canonicalSeat_parts {phase : PopulationPhase} {f : WorldFixture}
    {budget : ResourceBudgetContract} {s : RoleSpecification} {seat : ActorSeatContract}
    (h : canonicalSeat hash phase f budget s=.ok seat) :
    seat.ordinal=s.ordinal ∧ seat.role=s.kind ∧ seat.privateView=s.privateView ∧
      seat.rolePromptDigest=s.promptFragment.digest hash ∧
      seat.forumPromptDigest=Kernel.forumF0AwarenessDigest hash ∧
      seat.forumToolDigest=Kernel.forumF0ToolContractDigest hash ∧
      ∃ view,s.resolveView f=.ok view ∧ seat.privateViewDigest=view.digest hash := by
  unfold canonicalSeat RoleSpecification.privateViewDigest at h
  cases hv : s.resolveView f with
  | error e => simp [hv,bind,Except.bind,Except.mapError] at h
  | ok view =>
    simp only [hv,bind,Except.bind,Except.mapError,Except.ok.injEq] at h
    subst h
    exact ⟨rfl,rfl,rfl,rfl,rfl,rfl,view,rfl,rfl⟩

/-- What a seat is shown goes by the identity of its view, but for the seat of an observer, where
it goes by that of the card. -/
inductive Shown (hash : Bytes → Blake3Digest) (s : RoleSpecification) (f : WorldFixture) :
    ActorPrivateView → (ForumExposure → PrivateViewMaterial) → Prop
  | card (cardOrdinal : UInt8) (card : EvidenceCard) (hs : s.privateView=.evidenceCard cardOrdinal)
      (hc : f.cards.find? (·.ordinal=cardOrdinal)=some card) :
      Shown hash s f ⟨s.kind,s.privateView,some card⟩
        (fun _ => .evidenceCard card.ordinal card.bytes card.digest)
  | forum (obligation : ForumReadObligation) (hs : s.privateView=.forum obligation) :
      Shown hash s f ⟨s.kind,s.privateView,none⟩ (fun exposure => .forum obligation exposure
        (ActorPrivateView.digest hash ⟨s.kind,s.privateView,none⟩))

variable (hash) in
theorem resolveView_shown {s : RoleSpecification} {f : WorldFixture} {view : ActorPrivateView}
    (h : s.resolveView f=.ok view) : ∃ shown,Shown hash s f view shown ∧
      ∀ exposure,viewMaterial hash view exposure=.ok (shown exposure) := by
  unfold RoleSpecification.resolveView at h
  cases hp : s.privateView with
  | evidenceCard cardOrdinal =>
    rw [hp] at h
    cases hc : f.cards.find? (·.ordinal=cardOrdinal) with
    | none => simp [hc] at h
    | some card =>
      simp only [hc,Except.ok.injEq] at h
      subst h
      rw [← hp]
      refine ⟨_,.card cardOrdinal card hp hc,fun exposure => ?_⟩
      rw [hp]
      rfl
  | forum obligation =>
    rw [hp] at h
    cases h
    rw [← hp]
    refine ⟨_,.forum obligation hp,fun exposure => ?_⟩
    rw [hp]
    rfl

/-- The exposure is in no part of the material but the frontier. -/
theorem Shown.putView_eq {s : RoleSpecification} {f : WorldFixture} {view : ActorPrivateView}
    {shown : ForumExposure → PrivateViewMaterial} (h : Shown hash s f view shown)
    (e e' : ForumExposure) :
    (shown e).digest=(shown e').digest ∧ putView (shown e)=putView (shown e') := by
  cases h with
  | card => exact ⟨rfl,rfl⟩
  | forum => exact ⟨rfl,rfl⟩

theorem roles_specified (hd : LiveRunDescriptor.canonical hash policy=.ok d)
    (phase : PopulationPhase) : ∃ f,WorldFixture.canonical hash=.ok f ∧
      List.Forall₂ (fun s seat => canonicalSeat hash phase f .canonical s=.ok seat)
        canonicalRoleSpecifications (d.roles phase).toList := by
  obtain ⟨_,f,hf,hsource,hsuccessor⟩ := canonical_parts hd
  have hmap {phase : PopulationPhase} {seats : Seats}
      (h : canonicalSeats hash phase f .canonical=.ok seats) :
      List.Forall₂ (fun s seat => canonicalSeat hash phase f .canonical s=.ok seat)
        canonicalRoleSpecifications seats.toList := by
    unfold canonicalSeats at h
    cases hm : canonicalRoleSpecifications.mapM (canonicalSeat hash phase f .canonical) with
    | error e => simp [hm,bind,Except.bind] at h
    | ok l =>
      simp only [hm,bind,Except.bind] at h
      split at h
      · cases h
        exact forall_of_mapM hm
      · cases h
  refine ⟨f,hf,?_⟩
  cases phase with
  | source => exact hmap hsource
  | successor => exact hmap hsuccessor

/-- The prompt of a seat of a canonical descriptor is always there. -/
theorem actorPrompt_shown (hd : LiveRunDescriptor.canonical hash policy=.ok d)
    (phase : PopulationPhase) {seat : ActorSeatContract} (hs : seat∈(d.roles phase).toList) :
    ∃ s∈canonicalRoleSpecifications,∃ f view shown,WorldFixture.canonical hash=.ok f ∧
      Shown hash s f view shown ∧ seat.ordinal=s.ordinal ∧ seat.role=s.kind ∧
      seat.privateViewDigest=view.digest hash ∧
      ∀ exposure,∃ prompt,d.actorPrompt hash phase seat.ordinal exposure=.ok prompt ∧
        prompt.ordinal=seat.ordinal ∧ prompt.privateView=shown exposure ∧
        prompt.systemPrompt=systemPromptFor s.promptFragment.bytes ∧
        prompt.taskPrompt=
          taskPromptFor s.promptFragment.bytes phase seat.ordinal (shown exposure) exposure := by
  obtain ⟨f,hf,hall⟩ := roles_specified hd phase
  have hdistinct : ∀ seat'∈(d.roles phase).toList,seat'.ordinal=seat.ordinal → seat'=seat := by
    intro seat' hs' hord
    obtain ⟨s,hspec,hseat⟩ := exists_of_forall₂ hall hs
    obtain ⟨s',hspec',hseat'⟩ := exists_of_forall₂ hall hs'
    have hsame : s'=s := by
      apply Option.some.inj
      rw [← canonical_specification hspec,← canonical_specification hspec',
        ← (canonicalSeat_parts hseat).1,← (canonicalSeat_parts hseat').1,hord]
    subst hsame
    exact Except.ok.inj (hseat'.symm.trans hseat)
  cases hfind : (d.roles phase).toList.find? (·.ordinal=seat.ordinal) with
  | none =>
    have hno := List.find?_eq_none.mp hfind seat hs
    simp at hno
  | some seat' =>
    have hmem := List.mem_of_find?_eq_some hfind
    have hord : seat'.ordinal=seat.ordinal := by simpa using List.find?_some hfind
    have hsame := hdistinct seat' hmem hord
    subst hsame
    obtain ⟨s,hspec,hseat⟩ := exists_of_forall₂ hall hmem
    obtain ⟨h1,h2,h3,h4,h5,h6,view,hview,hdigest⟩ := canonicalSeat_parts hseat
    obtain ⟨shown,hshown,hm⟩ := resolveView_shown hash hview
    have hcanonical := canonical_specification hspec
    rw [← h1] at hcanonical
    refine ⟨s,hspec,f,view,shown,hf,hshown,h1,h2,hdigest,fun exposure => ?_⟩
    unfold LiveRunDescriptor.actorPrompt
    simp only [hfind,hcanonical,h2,h3,h4,h5,h6,ne_eq,not_true_eq_false,or_self,if_false,hf,
      Except.mapError,bind,Except.bind,hview,hm]
    exact ⟨_,rfl,rfl,rfl,rfl,rfl⟩

end Prompts

section Blinding
open Society.Kernel (blake3)

/-- The two prompts name the two frontiers at one place, and are the same around it. -/
def Blinded (e e' : ForumExposure) (p p' : ActorPromptMaterial) : Prop :=
  p.systemPrompt=p'.systemPrompt ∧ p.taskPrompt.length=p'.taskPrompt.length ∧
    ∃ before after,
      p.taskPrompt=before++be64 e.visibleFromMessageOrdinal.val++after ∧
      p'.taskPrompt=before++be64 e'.visibleFromMessageOrdinal.val++after

theorem taskPrompt_blinded {s : RoleSpecification} {f : WorldFixture} {view : ActorPrivateView}
    {shown : ForumExposure → PrivateViewMaterial} (h : Shown hash s f view shown)
    (rolePrompt : Bytes) (phase : PopulationPhase) (ordinal : RoleOrdinal) (e e' : ForumExposure) :
    ∃ before after,
      taskPromptFor rolePrompt phase ordinal (shown e) e=
        before++be64 e.visibleFromMessageOrdinal.val++after ∧
      taskPromptFor rolePrompt phase ordinal (shown e') e'=
        before++be64 e'.visibleFromMessageOrdinal.val++after := by
  obtain ⟨hdigest,hput⟩ := h.putView_eq e e'
  unfold taskPromptFor
  rw [← hdigest,← hput]
  exact ⟨_,[0]++putView (shown e),List.append_assoc _ _ _,List.append_assoc _ _ _⟩

theorem cards_digests (h : canonicalCardBytes.map hash=canonicalCardDigests) {card : EvidenceCard}
    (hc : card∈builtCards hash) :
    (card.ordinal,card.digest)∈List.zip [1,2,3,4,5,6,7,8] canonicalCardDigests := by
  have hmap : (builtCards hash).map (fun c => (c.ordinal,c.digest))=
      List.zip [1,2,3,4,5,6,7,8] canonicalCardDigests := by
    rw [← h]
    rfl
  rw [← hmap]
  exact List.mem_map_of_mem hc

/-- The view of an observer never goes by the digest of its card. -/
theorem card_views_apart : ∀ x∈List.zip [1,2,3,4,5,6,7,8] canonicalCardDigests,x.1≤4 →
    blake3 (utf8 "cl-001|private-view|v1|"++utf8 "observer"++[0]++
      (utf8 "card|"++[x.1]++x.2.bytes))≠x.2 := by decide +kernel

theorem card_observer {s : RoleSpecification} (hs : s∈canonicalRoleSpecifications) {o : UInt8}
    (hv : s.privateView=.evidenceCard o) : s.kind=.observer ∧ o≤4 := by
  simp only [canonicalRoleSpecifications,List.mem_cons,List.not_mem_nil,or_false] at hs
  rcases hs with rfl | rfl | rfl | rfl | rfl | rfl | rfl | rfl <;> cases hv <;> decide

theorem forum_not_observer {s : RoleSpecification} (hs : s∈canonicalRoleSpecifications)
    {obligation : ForumReadObligation} (hv : s.privateView=.forum obligation) :
    s.kind≠.observer := by
  simp only [canonicalRoleSpecifications,List.mem_cons,List.not_mem_nil,or_false] at hs
  rcases hs with rfl | rfl | rfl | rfl | rfl | rfl | rfl | rfl <;> cases hv <;> decide

/-- A view goes by what its seat was sealed with, if the seat is not an observer. -/
theorem shown_bound {s : RoleSpecification} (hs : s∈canonicalRoleSpecifications)
    {f : WorldFixture} (hf : WorldFixture.canonical blake3=.ok f) {view : ActorPrivateView}
    {shown : ForumExposure → PrivateViewMaterial} (h : Shown blake3 s f view shown)
    (e : ForumExposure) : (shown e).digest=view.digest blake3 ↔ s.kind≠.observer := by
  cases h with
  | card cardOrdinal card hv hc =>
    obtain ⟨hkind,hfour⟩ := card_observer hs hv
    rw [canonical_built cards_frozen] at hf
    obtain rfl := Except.ok.inj hf
    have hord : card.ordinal=cardOrdinal := by simpa using List.find?_some hc
    have hmem : card∈builtCards blake3 := List.mem_of_find?_eq_some hc
    have hapart := card_views_apart _ (cards_digests cards_frozen hmem) (hord ▸ hfour)
    refine ⟨fun hsame => absurd hsame.symm ?_,fun hne => absurd hkind hne⟩
    rw [hkind,hv,← hord]
    exact hapart
  | forum obligation hv => exact ⟨fun _ => forum_not_observer hs hv,fun _ => rfl⟩

/-- The prompts of a seat are blind to all but the frontier; they go by the private view under
the seal of the plan at every seat but that of an observer. -/
theorem prompts_blinded_and_bound {policy : ActorPolicyIdentity} {d : LiveRunDescriptor}
    {pairs : List PairSeed} {targets : PrecisionTargets} {plan : LiveRunPlan}
    (hd : LiveRunDescriptor.canonical blake3 policy=.ok d)
    (hp : LiveRunPlan.new blake3 d pairs targets=.ok plan) (phase : PopulationPhase)
    {seat : ActorSeatContract} (hs : seat∈(plan.descriptor.roles phase).toList) :
    (∀ e e',∃ p p',
      plan.descriptor.actorPrompt blake3 phase seat.ordinal e=.ok p ∧
      plan.descriptor.actorPrompt blake3 phase seat.ordinal e'=.ok p' ∧ Blinded e e' p p') ∧
    ∀ e p,plan.descriptor.actorPrompt blake3 phase seat.ordinal e=.ok p →
      (p.privateViewDigest=seat.privateViewDigest ↔ seat.role≠.observer) := by
  rw [(new_parts hp).1] at hs ⊢
  obtain ⟨s,hspec,f,view,shown,hf,hshown,hord,hrole,hdigest,hall⟩ := actorPrompt_shown hd phase hs
  constructor
  · intro e e'
    obtain ⟨p,hp,-,-,hsystem,htask⟩ := hall e
    obtain ⟨p',hp',-,-,hsystem',htask'⟩ := hall e'
    obtain ⟨before,after,hbytes,hbytes'⟩ := taskPrompt_blinded hshown s.promptFragment.bytes phase
      seat.ordinal e e'
    rw [← htask] at hbytes
    rw [← htask'] at hbytes'
    refine ⟨p,p',hp,hp',hsystem.trans hsystem'.symm,?_,before,after,hbytes,hbytes'⟩
    rw [hbytes,hbytes']
    simp only [List.length_append,length_be64]
  · intro e p hp
    obtain ⟨p',hp',-,hview,-,-⟩ := hall e
    obtain rfl := Except.ok.inj (hp.symm.trans hp')
    have hbound := shown_bound hspec hf hshown e
    rw [ActorPromptMaterial.privateViewDigest,hview,hdigest,hrole]
    exact hbound

def twoPairs : List PairSeed := [seededPair "a" (by decide) 1,seededPair "b" (by decide) 2]

theorem plan_seated (phase : PopulationPhase) {s : RoleSpecification}
    (hs : s∈canonicalRoleSpecifications) : ∃ d plan seat,
      LiveRunDescriptor.canonical blake3 plainPolicy=.ok d ∧
      LiveRunPlan.new blake3 d twoPairs unitTargets=.ok plan ∧
      seat∈(plan.descriptor.roles phase).toList ∧ seat.role=s.kind := by
  obtain ⟨d,hd⟩ := canonical_exists cards_frozen plainPolicy
  have hp : ∃ plan,LiveRunPlan.new blake3 d twoPairs unitTargets=.ok plan := ⟨_,rfl⟩
  obtain ⟨plan,hp⟩ := hp
  obtain ⟨f,_,hall⟩ := roles_specified hd phase
  obtain ⟨seat,hs,hseat⟩ := exists_of_forall₂ hall.flip hs
  rw [← (new_parts hp).1] at hs
  exact ⟨d,plan,seat,hd,hp,hs,(canonicalSeat_parts hseat).2.1⟩

/-- The decision of the successors is blind, and bound to what its seat was sealed with. -/
theorem decision_prompt_bound : ∃ plan : LiveRunPlan,∃ seat : ActorSeatContract,
    seat.role=.decision ∧
    (∀ e e',∃ p p',
      plan.descriptor.actorPrompt blake3 .successor seat.ordinal e=.ok p ∧
      plan.descriptor.actorPrompt blake3 .successor seat.ordinal e'=.ok p' ∧ Blinded e e' p p') ∧
    ∀ e p,plan.descriptor.actorPrompt blake3 .successor seat.ordinal e=.ok p →
      (p.privateViewDigest=seat.privateViewDigest ↔ seat.role≠.observer) := by
  have hs : roleSpec ⟨8,by decide⟩ .decision (.forum .decision)∈canonicalRoleSpecifications := by
    simp [canonicalRoleSpecifications]
  obtain ⟨d,plan,seat,hd,hp,hseat,hrole⟩ := plan_seated .successor hs
  exact ⟨plan,seat,hrole,prompts_blinded_and_bound hd hp .successor hseat⟩

/-- The first observer of the sources is prompted under the digest of its card. -/
theorem observer_prompt_unbound : ¬∀ d pairs targets plan phase seat e p,
    LiveRunDescriptor.canonical blake3 plainPolicy=.ok d →
    LiveRunPlan.new blake3 d pairs targets=.ok plan →
    seat∈(plan.descriptor.roles phase).toList →
    plan.descriptor.actorPrompt blake3 phase seat.ordinal e=.ok p →
      p.privateViewDigest=seat.privateViewDigest := by
  intro h
  have hs : roleSpec ⟨1,by decide⟩ .observer (.evidenceCard 1)∈canonicalRoleSpecifications := by
    simp [canonicalRoleSpecifications]
  obtain ⟨d,plan,seat,hd,hp,hseat,hrole⟩ := plan_seated .source hs
  have hsealed := hseat
  rw [(new_parts hp).1] at hsealed
  obtain ⟨s,hspec,f,view,shown,hf,hshown,-,hkind,hdigest,hall⟩ :=
    actorPrompt_shown hd .source hsealed
  obtain ⟨p,hprompt,-,hview,-,-⟩ := hall .source
  rw [← (new_parts hp).1] at hprompt
  have hbound := h d _ _ plan .source seat .source p hd hp hseat hprompt
  rw [ActorPromptMaterial.privateViewDigest,hview,hdigest] at hbound
  exact (shown_bound hspec hf hshown .source).mp hbound (hkind.symm.trans hrole)

end Blinding
end Society.Latency
