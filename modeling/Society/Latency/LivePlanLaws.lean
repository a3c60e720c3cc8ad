import Society.Kernel.Fingerprint
import Society.Latency.LivePlan

namespace Society.Latency
open Society.Coding
open Society.Kernel (Blake3Digest blake3)

/-! The bytes that a live plan is sealed over determine what was planned. -/

section Prefixes
variable {α : Type}

/-- Entries that can each be told from what follows them can be told in a row. -/
theorem flatMap_injective {f : α → Bytes} (hne : ∀ a,f a≠[])
    (hf : ∀ a b x y,f a++x=f b++y → a=b ∧ x=y) {l l' : List α}
    (h : l.flatMap f=l'.flatMap f) : l=l' := by
  induction l generalizing l' with
  | nil =>
    cases l' with
    | nil => rfl
    | cons b l' =>
      have hb := List.append_eq_nil_iff.mp (show f b++l'.flatMap f=[] from h.symm)
      exact absurd hb.1 (hne b)
  | cons a l ih =>
    cases l' with
    | nil =>
      have ha := List.append_eq_nil_iff.mp (show f a++l.flatMap f=[] from h)
      exact absurd ha.1 (hne a)
    | cons b l' =>
      obtain ⟨rfl,htail⟩ := hf a b (l.flatMap f) (l'.flatMap f) h
      rw [ih htail]

theorem flatMap_length {f : α → Bytes} {k : Nat} (hf : ∀ a,(f a).length=k) (l : List α) :
    (l.flatMap f).length=k*l.length := by
  induction l with
  | nil => simp
  | cons a l ih =>
    simp only [List.flatMap_cons,List.length_append,hf,ih,List.length_cons]
    ring

theorem putU64_injective {m n : UInt64} (h : putU64 m=putU64 n) : m=n := by
  have hm := ofBytes_beBytes 8 m.toNat
  have hn := ofBytes_beBytes 8 n.toNat
  unfold putU64 at h
  have hml := m.toNat_lt
  have hnl := n.toNat_lt
  rw [h,hn] at hm
  apply UInt64.toNat_inj.mp
  omega

@[simp] theorem length_putU64 (n : UInt64) : (putU64 n).length=8 := length_beBytes 8 _

theorem putStr_append_inj {s t : String} {x y : Bytes} (hs : s.utf8ByteSize<2^64)
    (ht : t.utf8ByteSize<2^64) (h : putStr s++x=putStr t++y) : s=t ∧ x=y := by
  unfold putStr at h
  rw [List.append_assoc,List.append_assoc] at h
  obtain ⟨hlen,hrest⟩ := List.append_inj h (by simp)
  have hwords := putU64_injective hlen
  rw [length_utf8,length_utf8] at hwords
  have hsize : s.utf8ByteSize=t.utf8ByteSize := by
    have hn := congrArg UInt64.toNat hwords
    simp only [UInt64.toNat_ofNat'] at hn
    omega
  obtain ⟨htext,hx⟩ := List.append_inj hrest (by rw [length_utf8,length_utf8,hsize])
  exact ⟨utf8_injective htext,hx⟩

end Prefixes

section Fields

@[simp] theorem length_digest (d : Blake3Digest) : d.bytes.length=32 := d.2

theorem pairId_size (p : AnalysisPairId) : p.text.utf8ByteSize<2^64 := by
  have h := p.valid
  simp only [isPairId,Bool.and_eq_true,decide_eq_true_eq] at h
  omega

theorem putPair_append_inj (p q : PairSeed) (x y : Bytes) (h : putPair p++x=putPair q++y) :
    p=q ∧ x=y := by
  unfold putPair at h
  rw [List.append_assoc,List.append_assoc] at h
  obtain ⟨hid,hrest⟩ := putStr_append_inj (pairId_size p.pairId) (pairId_size q.pairId) h
  obtain ⟨hseed,hx⟩ := List.append_inj hrest (by simp)
  refine ⟨?_,hx⟩
  cases p
  cases q
  simp only [PairSeed.mk.injEq]
  exact ⟨AnalysisPairId.ext hid,Blake3Digest.ext hseed⟩

theorem putTarget_append_inj (t u : PrecisionTarget) (x y : Bytes)
    (h : putTarget t++x=putTarget u++y) : t=u ∧ x=y := by
  obtain ⟨hword,hx⟩ := List.append_inj h (by simp [putTarget])
  have hn := congrArg UInt64.toNat (putU64_injective hword)
  have ht := t.valid
  have hu := u.valid
  simp only [UInt64.toNat_ofNat'] at hn
  refine ⟨PrecisionTarget.ext ?_,hx⟩
  omega

theorem length_putPrivateView (v : PrivateViewKind) : (putPrivateView v).length=2 := by
  cases v <;> rfl

theorem length_putSeat (s : ActorSeatContract) : (putSeat s).length=157 := by
  simp [putSeat,length_putPrivateView]

end Fields

section Fixture
variable (hash : Bytes → Blake3Digest)

/-- The eight cards as they are built. -/
def builtCards : List EvidenceCard :=
  ((canonicalCardObservations.zip canonicalCardBytes).zipIdx).map (fun ((observation,bytes),i) =>
    ⟨UInt8.ofNat i+1,observation,1<<<(UInt8.ofNat i),bytes,hash bytes,sourceSignatureBytes⟩)

theorem canonicalCards_built : canonicalCards hash=.ok (builtCards hash) := by
  have hb : ∀ b∈canonicalCardBytes,b≠[] := by decide +kernel
  simp only [canonicalCardBytes,List.forall_mem_cons] at hb
  obtain ⟨h1,h2,h3,h4,h5,h6,h7,h8,-⟩ := hb
  simp [canonicalCards,builtCards,canonicalCardObservations,canonicalCardBytes,EvidenceCard.new,h1,h2,h3,h4,h5,h6,h7,h8,Except.mapError]
  rfl

theorem coverPartition_built : coverPartition hash 0 0 (builtCards hash)=.ok 255 := by
  simp [builtCards,canonicalCardObservations,canonicalCardBytes,coverPartition,EvidenceCard.isContentIntact]
  rfl

theorem checkCardDigests_ok (l : List (EvidenceCard × Blake3Digest)) (h : ∀ x∈l,x.1.digest=x.2) :
    checkCardDigests l=.ok () := by
  induction l with
  | nil => rfl
  | cons x l ih =>
    rw [checkCardDigests,if_pos (h x List.mem_cons_self)]
    exact ih (fun y hy => h y (List.mem_cons_of_mem x hy))

def builtFixture : WorldFixture :=
  let partition : EvidencePartition := ⟨builtCards hash,partitionIdentity hash (builtCards hash)⟩
  let claim := ImmutableContent.fromStatic hash falseClaimBytes
  let correction := ImmutableContent.fromStatic hash correctionPackageBytes
  let reveal := ImmutableContent.fromStatic hash groundTruthRevealBytes
  ⟨partition,claim,correction,reveal,worldIdentity hash partition claim correction reveal⟩

variable {hash}

theorem canonical_built (h : canonicalCardBytes.map hash=canonicalCardDigests) :
    WorldFixture.canonical hash=.ok (builtFixture hash) := by
  have hcheck : checkCardDigests ((builtCards hash).zip canonicalCardDigests)=.ok () := by
    rw [← h]
    apply checkCardDigests_ok
    simp [builtCards,canonicalCardObservations,canonicalCardBytes]
  have hvalid : validateEvidencePartition hash (builtCards hash)=.ok () := by
    rw [validateEvidencePartition,coverPartition_built]
    rfl
  simp only [WorldFixture.canonical,canonicalCards_built,EvidencePartition.tryFromCards,hvalid,bind,Except.bind,Except.mapError,hcheck]
  rfl

theorem mapM_ok {α β ε : Type} {f : α → Except ε β} {l : List α} (h : ∀ a∈l,∃ b,f a=.ok b) :
    ∃ bs,l.mapM f=.ok bs := by
  induction l with
  | nil => exact ⟨[],rfl⟩
  | cons a l ih =>
    obtain ⟨b,hb⟩ := h a List.mem_cons_self
    obtain ⟨bs,hbs⟩ := ih (fun x hx => h x (List.mem_cons_of_mem a hx))
    refine ⟨b::bs,?_⟩
    rw [List.mapM_cons,hb,hbs]
    rfl

theorem forall_of_mapM {α β ε : Type} {f : α → Except ε β} {l : List α} {bs : List β}
    (h : l.mapM f=.ok bs) : List.Forall₂ (fun a b => f a=.ok b) l bs := by
  induction l generalizing bs with
  | nil =>
    rw [List.mapM_nil] at h
    cases h
    exact .nil
  | cons a l ih =>
    rw [List.mapM_cons] at h
    cases ha : f a with
    | error e => rw [ha] at h; cases h
    | ok b =>
      rw [ha] at h
      cases hl : l.mapM f with
      | error e => rw [hl] at h; cases h
      | ok bs' =>
        rw [hl] at h
        cases h
        exact .cons ha (ih hl)

theorem resolveView_built {s : RoleSpecification} (hs : s∈canonicalRoleSpecifications) :
    ∃ view,s.resolveView (builtFixture hash)=.ok view := by
  simp only [canonicalRoleSpecifications,List.mem_cons,List.not_mem_nil,or_false] at hs
  rcases hs with rfl | rfl | rfl | rfl | rfl | rfl | rfl | rfl <;> exact ⟨_,rfl⟩

theorem canonicalSeats_built (phase : PopulationPhase) (budget : ResourceBudgetContract) :
    ∃ seats,canonicalSeats hash phase (builtFixture hash) budget=.ok seats := by
  have hseat : ∀ s∈canonicalRoleSpecifications,
      ∃ seat,canonicalSeat hash phase (builtFixture hash) budget s=.ok seat := by
    intro s hs
    have hresolved : ∃ view,s.resolveView (builtFixture hash)=.ok view := resolveView_built hs
    obtain ⟨view,hview⟩ := hresolved
    rw [canonicalSeat,RoleSpecification.privateViewDigest,hview]
    exact ⟨_,rfl⟩
  obtain ⟨seats,hseats⟩ := mapM_ok hseat
  have hlength : seats.length=8 := (forall_of_mapM hseats).length_eq.symm
  refine ⟨⟨seats,hlength⟩,?_⟩
  rw [canonicalSeats,hseats]
  exact dif_pos hlength

theorem canonical_exists (h : canonicalCardBytes.map hash=canonicalCardDigests)
    (policy : ActorPolicyIdentity) : ∃ d,LiveRunDescriptor.canonical hash policy=.ok d := by
  have hseats (phase : PopulationPhase) :
      ∃ seats,canonicalSeats hash phase (builtFixture hash) .canonical=.ok seats :=
    canonicalSeats_built phase .canonical
  obtain ⟨source,hsource⟩ := hseats .source
  obtain ⟨successor,hsuccessor⟩ := hseats .successor
  rw [LiveRunDescriptor.canonical,canonical_built h]
  simp only [Except.mapError,bind,Except.bind,hsource,hsuccessor]
  exact ⟨_,rfl⟩

end Fixture

section Seal
variable {hash : Bytes → Blake3Digest}

theorem canonicalBytes_inj {a b : LiveRunDescriptor} {x y : Bytes}
    (h : a.canonicalBytes hash++x=b.canonicalBytes hash++y) :
    a.actorPolicy.digest hash=b.actorPolicy.digest hash ∧ x=y := by
  have hsize (d : LiveRunDescriptor) : (d.canonicalBytes hash).length=
      (utf8 livePlanRevision).length+3125 := by
    have htwo : d.treatmentArms.toList.length=2 := d.treatmentArms.2
    have hthree : d.baselineIdentities.toList.length=3 := d.baselineIdentities.2
    have hsource : d.sourceRoles.toList.length=8 := d.sourceRoles.2
    have hsuccessor : d.successorRoles.toList.length=8 := d.successorRoles.2
    simp only [LiveRunDescriptor.canonicalBytes,List.length_append,length_digest,length_putU64,
      flatMap_length length_putSeat,flatMap_length length_digest,List.length_map,htwo,hthree,
      hsource,hsuccessor,List.length_cons,List.length_nil]
  obtain ⟨hbytes,hx⟩ := List.append_inj h (by rw [hsize,hsize])
  refine ⟨?_,hx⟩
  simp only [LiveRunDescriptor.canonicalBytes,List.append_assoc,List.append_cancel_left_eq] at hbytes
  exact Blake3Digest.ext (List.append_inj hbytes (by simp)).1

/-- What a canonical descriptor says besides its policy and its seal. -/
theorem canonical_parts {policy : ActorPolicyIdentity} {d : LiveRunDescriptor}
    (h : LiveRunDescriptor.canonical hash policy=.ok d) :
    d.actorPolicy=policy ∧ ∃ fixture,WorldFixture.canonical hash=.ok fixture ∧
      canonicalSeats hash .source fixture .canonical=.ok d.sourceRoles ∧
      canonicalSeats hash .successor fixture .canonical=.ok d.successorRoles := by
  unfold LiveRunDescriptor.canonical at h
  cases hf : WorldFixture.canonical hash with
  | error e => rw [hf] at h; cases h
  | ok fixture =>
    rw [hf] at h
    cases hs : canonicalSeats hash .source fixture .canonical with
    | error e => simp [hs,Except.mapError,bind,Except.bind] at h
    | ok source =>
      cases ht : canonicalSeats hash .successor fixture .canonical with
      | error e => simp [hs,ht,Except.mapError,bind,Except.bind] at h
      | ok successor =>
        simp only [hs,ht,Except.mapError,bind,Except.bind,Except.ok.injEq] at h
        subst h
        exact ⟨rfl,fixture,rfl,hs,ht⟩

theorem canonical_seats {a b : ActorPolicyIdentity} {d e : LiveRunDescriptor}
    (hd : LiveRunDescriptor.canonical hash a=.ok d) (he : LiveRunDescriptor.canonical hash b=.ok e) :
    d.sourceRoles=e.sourceRoles ∧ d.successorRoles=e.successorRoles := by
  obtain ⟨_,fixture,hf,hsource,hsuccessor⟩ := canonical_parts hd
  obtain ⟨_,fixture',hf',hsource',hsuccessor'⟩ := canonical_parts he
  obtain rfl := Except.ok.inj (hf.symm.trans hf')
  exact ⟨Except.ok.inj (hsource.symm.trans hsource'),
    Except.ok.inj (hsuccessor.symm.trans hsuccessor')⟩

theorem analysis_parts {ids : List AnalysisPairId} {seeds : List Blake3Digest}
    {targets : PrecisionTargets} {estimand : AnalysisEstimand} {policy : AnalysisExclusionPolicy}
    {a : PreregisteredAnalysisPlan}
    (h : PreregisteredAnalysisPlan.new ids seeds estimand policy targets=.ok a) :
    a.pairIds=ids ∧ a.worldSeedDigests=seeds ∧ a.precisionTargets=targets := by
  unfold PreregisteredAnalysisPlan.new at h
  split at h
  · cases h
  · cases hr : rejectDuplicates AnalysisInputError.duplicatePairId .duplicateWorldSeed []
        (ids.zip seeds) with
    | error e => simp [hr,bind,Except.bind] at h
    | ok u =>
      simp only [hr,bind,Except.bind,Except.ok.injEq] at h
      subst h
      exact ⟨rfl,rfl,rfl⟩

/-- What `new` makes of its arguments. -/
theorem new_parts {d : LiveRunDescriptor} {pairs : List PairSeed} {targets : PrecisionTargets}
    {p : LiveRunPlan} (h : LiveRunPlan.new hash d pairs targets=.ok p) :
    p.descriptor=d ∧ p.pairs=pairs ∧ p.analysis.pairIds=pairs.map (·.pairId) ∧
      p.analysis.worldSeedDigests=pairs.map (·.seedDigest) ∧
      p.analysis.precisionTargets=targets ∧ p.sealedDigest=hash (p.admissionBytes hash) := by
  unfold LiveRunPlan.new at h
  split at h
  · cases h
  · cases hr : rejectDuplicates LivePlanError.duplicatePairId .duplicateWorldSeed []
        (pairs.map (fun p => (p.pairId,p.seedDigest))) with
    | error e => simp [hr,bind,Except.bind] at h
    | ok u =>
      simp only [hr,bind,Except.bind] at h
      cases ha : PreregisteredAnalysisPlan.new (pairs.map (·.pairId)) (pairs.map (·.seedDigest))
          .retainedMinusReset .metricwiseCompleteCase targets with
      | error e => simp [ha,Except.mapError] at h
      | ok analysis =>
        simp only [ha,Except.mapError,Except.ok.injEq] at h
        obtain ⟨hids,hseeds,htargets⟩ := analysis_parts ha
        subst h
        refine ⟨rfl,rfl,hids,hseeds,htargets,?_⟩
        simp only [LiveRunPlan.admissionBytes,htargets]

/-- The middle of the sealed bytes holds the pairs, and the end the targets. -/
theorem pairs_targets_inj {pairs pairs' : List PairSeed} {targets targets' : PrecisionTargets}
    (h : utf8 "|pairs|"++pairs.flatMap putPair++utf8 "|precision|"++
        targets.toList.flatMap putTarget=
      utf8 "|pairs|"++pairs'.flatMap putPair++utf8 "|precision|"++
        targets'.toList.flatMap putTarget) : pairs=pairs' ∧ targets=targets' := by
  have hlength (t : PrecisionTargets) : (t.toList.flatMap putTarget).length=88 := by
    have hcount : t.toList.length=11 := t.2
    rw [flatMap_length (k := 8) (fun u => by simp [putTarget]),hcount]
  obtain ⟨hfront,htargets⟩ := List.append_inj' h (by rw [hlength,hlength])
  have hpairs := List.append_cancel_right hfront
  constructor
  · refine flatMap_injective ?_ putPair_append_inj (List.append_cancel_left hpairs)
    intro p hp
    have := congrArg List.length hp
    simp [putPair,putStr] at this
  · refine List.Vector.toList_injective (flatMap_injective ?_ putTarget_append_inj htargets)
    intro t ht
    have := congrArg List.length ht
    simp [putTarget] at this

/-- Plans over canonical descriptors that are sealed over the same bytes plan the same; and every
plan carries the hash of the bytes it is sealed over. -/
theorem admission_bytes_injective {a b : ActorPolicyIdentity} {d e : LiveRunDescriptor}
    {pairs pairs' : List PairSeed} {targets targets' : PrecisionTargets} {p q : LiveRunPlan}
    (hd : LiveRunDescriptor.canonical hash a=.ok d) (he : LiveRunDescriptor.canonical hash b=.ok e)
    (hp : LiveRunPlan.new hash d pairs targets=.ok p)
    (hq : LiveRunPlan.new hash e pairs' targets'=.ok q) :
    (p.sealedDigest=hash (p.admissionBytes hash) ∧ q.sealedDigest=hash (q.admissionBytes hash)) ∧
    (p.admissionBytes hash=q.admissionBytes hash →
      p.descriptor.actorPolicy.digest hash=q.descriptor.actorPolicy.digest hash ∧
      p.pairs=q.pairs ∧ p.analysis.pairIds=q.analysis.pairIds ∧
      p.analysis.worldSeedDigests=q.analysis.worldSeedDigests ∧
      p.descriptor.sourceRoles=q.descriptor.sourceRoles ∧
      p.descriptor.successorRoles=q.descriptor.successorRoles ∧
      p.analysis.precisionTargets=q.analysis.precisionTargets) := by
  obtain ⟨hpd,hpp,hpi,hps,hpt,hseal⟩ := new_parts hp
  obtain ⟨hqd,hqp,hqi,hqs,hqt,hseal'⟩ := new_parts hq
  refine ⟨⟨hseal,hseal'⟩,fun hbytes => ?_⟩
  obtain ⟨hsource,hsuccessor⟩ := canonical_seats hd he
  unfold LiveRunPlan.admissionBytes at hbytes
  simp only [List.append_assoc] at hbytes
  obtain ⟨hpolicy,hrest⟩ := canonicalBytes_inj hbytes
  obtain ⟨hpairs,htargets⟩ := pairs_targets_inj (by simpa only [List.append_assoc] using hrest)
  refine ⟨hpolicy,hpairs,?_,?_,?_,?_,htargets⟩
  · rw [hpi,hqi,← hpp,← hqp,hpairs]
  · rw [hps,hqs,← hpp,← hqp,hpairs]
  · rw [hpd,hqd,hsource]
  · rw [hpd,hqd,hsuccessor]

theorem cards_frozen : canonicalCardBytes.map blake3=canonicalCardDigests := by decide +kernel

/-- Two pairs with seeds of their own. -/
def seededPair (id : String) (h : isPairId id=true) (seed : UInt8) : PairSeed :=
  ⟨⟨id,h⟩,Kernel.plainDigest seed⟩

def unitTargets : PrecisionTargets := List.Vector.replicate 11 .unit

def plainPolicy : ActorPolicyIdentity :=
  let digest := Kernel.plainDigest 1
  ⟨digest,digest,digest⟩

/-- The order of the pairs is under the seal. -/
theorem admission_bytes_injective_order : ∃ d p q,
    LiveRunDescriptor.canonical blake3 plainPolicy=.ok d ∧
    LiveRunPlan.new blake3 d [seededPair "a" (by decide) 1,seededPair "b" (by decide) 2] unitTargets=
      .ok p ∧
    LiveRunPlan.new blake3 d [seededPair "b" (by decide) 2,seededPair "a" (by decide) 1] unitTargets=
      .ok q ∧ p.admissionBytes blake3≠q.admissionBytes blake3 := by
  obtain ⟨d,hd⟩ := canonical_exists cards_frozen plainPolicy
  have hp : ∃ p,LiveRunPlan.new blake3 d
    [seededPair "a" (by decide) 1,seededPair "b" (by decide) 2] unitTargets=.ok p := ⟨_,rfl⟩
  have hq : ∃ q,LiveRunPlan.new blake3 d
    [seededPair "b" (by decide) 2,seededPair "a" (by decide) 1] unitTargets=.ok q := ⟨_,rfl⟩
  obtain ⟨p,hp⟩ := hp
  obtain ⟨q,hq⟩ := hq
  refine ⟨d,p,q,hd,hp,hq,fun hbytes => ?_⟩
  have hpairs := ((admission_bytes_injective hd hd hp hq).2 hbytes).2.1
  rw [(new_parts hp).2.1,(new_parts hq).2.1] at hpairs
  exact absurd hpairs (by decide)

end Seal
end Society.Latency
