import Society.Kernel.ForumLaws
import Society.Kernel.StudyRuns
import Society.Kernel.ContentIdentity
import Society.Kernel.DecisionCitation

namespace Society.Kernel
open Society.Relational Society.Coding

/-! What an actor can read of its forum, and what the receipts of its reads tell. -/

section Housing
variable {hash : Bytes → Blake3Digest} {ok : Store → CommandRequest → Prop} {s s' : Store}
  {c : StudyEpisodeId → Nat}

/-- An actor is shown the forum of its own episode, and a closed forum belongs to a closed
episode. -/
structure Housed (s : Store) : Prop where
  exposed : ∀ e ∈ s.rows .studyForumExposures,∃ o ∈ s.rows .studyActorObligations,
    o.studyActorObligationId=e.studyActorObligationId ∧ ∃ f ∈ s.rows .studyEpisodeForums,
      f.episodeForumId=e.episodeForumId ∧ f.studyEpisodeId=o.studyEpisodeId
  closed : ∀ f ∈ s.rows .studyEpisodeForums,f.lifecycleState=.closed →
    ∃ e,episodeOf s f.studyEpisodeId=some e ∧ e.lifecycleState=.closed

abbrev houseTables : List Tbl := [.studyEpisodeForums,.studyForumExposures]

theorem housed_reads : Db.ReadsOnly (studyTables++houseTables) Housed := by
  intro s s' h hs
  have he := episodeOf_rows (h .studyEpisodes (by decide))
  have ho := h .studyActorObligations (by decide)
  have hf := h .studyEpisodeForums (by decide)
  have hx := h .studyForumExposures (by decide)
  constructor
  · rw [ho,hf,hx]
    exact hs.exposed
  · rw [he,hf]
    exact hs.closed

theorem StudyStep.seats (h : StudyStep s s' c) : ∀ o ∈ s.rows .studyActorObligations,
    ∃ o' ∈ s'.rows .studyActorObligations,o'.studyActorObligationId=o.studyActorObligationId ∧
      o'.studyEpisodeId=o.studyEpisodeId := by
  intro o ho
  have hkept (h : SeatsKept s s' c) : ∃ o' ∈ s'.rows .studyActorObligations,
      o'.studyActorObligationId=o.studyActorObligationId ∧ o'.studyEpisodeId=o.studyEpisodeId := by
    obtain ⟨o',ho',hid,he,_⟩ := h.new o ho
    exact ⟨o',ho',hid,he⟩
  cases h with
  | kept _ hseats => exact hkept hseats
  | opened _ _ _ _ hseats => exact hkept hseats
  | moved _ _ _ _ _ _ hseats => exact hkept hseats
  | seated _ _ _ _ _ _ _ hseats => exact ⟨o,hseats ▸ List.mem_append_left _ ho,rfl,rfl⟩

theorem StudyStep.closed (h : StudyStep s s' c) {i : StudyEpisodeId}
    (hc : ∃ e,episodeOf s i=some e ∧ e.lifecycleState=.closed) :
    ∃ e,episodeOf s' i=some e ∧ e.lifecycleState=.closed := by
  obtain ⟨e,he,hx⟩ := hc
  obtain ⟨x,hx',hle⟩ := h.forward he
  refine ⟨_,hx',?_⟩
  rw [hx] at hle
  revert hle
  change _ → x=_
  cases x <;> decide

/-- A step of the study that shows nobody another forum, and closes a forum with its episode only. -/
theorem Housed.step (hs : Housed s) (h : StudyStep s s' c)
    (hexposures : ∀ e' ∈ s'.rows .studyForumExposures,∃ e ∈ s.rows .studyForumExposures,
      e'.studyActorObligationId=e.studyActorObligationId ∧ e'.episodeForumId=e.episodeForumId)
    (hforums : ∀ f ∈ s.rows .studyEpisodeForums,∃ f' ∈ s'.rows .studyEpisodeForums,
      f'.episodeForumId=f.episodeForumId ∧ f'.studyEpisodeId=f.studyEpisodeId)
    (hclosed : ∀ f' ∈ s'.rows .studyEpisodeForums,f'.lifecycleState=.closed →
      (∃ f ∈ s.rows .studyEpisodeForums,f.studyEpisodeId=f'.studyEpisodeId ∧
        f.lifecycleState=.closed) ∨
      ∃ e,episodeOf s' f'.studyEpisodeId=some e ∧ e.lifecycleState=.closed) : Housed s' := by
  constructor
  · intro e' he'
    obtain ⟨e,he,ho,hf⟩ := hexposures e' he'
    obtain ⟨o,hmem,hoid,f,hfmem,hfid,hepisode⟩ := hs.exposed e he
    obtain ⟨o',hmem',hoid',hoe⟩ := h.seats o hmem
    obtain ⟨f',hfmem',hfid',hfe⟩ := hforums f hfmem
    exact ⟨o',hmem',(hoid'.trans hoid).trans ho.symm,f',hfmem',(hfid'.trans hfid).trans hf.symm,
      (hfe.trans hepisode).trans hoe.symm⟩
  · intro f' hf' hx
    rcases hclosed f' hf' hx with ⟨f,hf,hfe,hfx⟩ | hdone
    · rw [← hfe]
      exact h.closed (hs.closed f hf hfx)
    · exact hdone

theorem Housed.same (hs : Housed s) (h : StudyStep s s' c)
    (hX : ∀ t ∈ houseTables,s'.rows t=s.rows t) : Housed s' := by
  have hf := hX .studyEpisodeForums (by decide)
  have hx := hX .studyForumExposures (by decide)
  refine hs.step h ?_ ?_ ?_
  · rw [hx]
    exact fun e he => ⟨e,he,rfl,rfl⟩
  · rw [hf]
    exact fun f hf => ⟨f,hf,rfl,rfl⟩
  · rw [hf]
    exact fun f hf hc => .inl ⟨f,hf,rfl,hc⟩

theorem housed_kept : KeptByStudy houseTables (fun _ _ => True) Housed where
  reads := housed_reads
  charge _ _ := trivial
  step _ _ _ _ hX _ hstep hs := hs.same hstep hX

/-- Messages leave exposures with their actors and forums. -/
theorem appendMessage_exposures {W : List Tbl} (cmd : CommandRowId) (thread : StudyForumThreadRow)
    (author : Option ActorOccurrenceId) (kind : ForumMessageKind)
    (reply supersedes : Option ForumMessageId) (body : ForumMessageBody) (ordinal : Ordinal)
    (hm : .studyForumMessages ∈ W) (hh : .studyForumThreads ∈ W) (he : .studyForumExposures ∈ W) :
    Tx.wp (appendMessage hash cmd thread author kind reply supersedes body ordinal hm hh he)
      (fun _ s' => ∀ e' ∈ s'.rows .studyForumExposures,∃ e ∈ s.rows .studyForumExposures,
        e'.studyActorObligationId=e.studyActorObligationId ∧ e'.episodeForumId=e.episodeForumId) s := by
  simp only [appendMessage,Tx.wp_bind,Tx.wp_insert,Tx.wp_update,Tx.wp_pure]
  intro _ _ _ _ _ e' he'
  obtain ⟨e,he,rfl⟩ := Db.mem_update.mp he'
  rw [Db.rows_modify_ne (by decide),Db.rows_append_ne (by decide)] at he
  refine ⟨e,he,?_⟩
  split <;> exact ⟨rfl,rfl⟩

theorem publishForumMessage_housed (hs : Housed s) (cmd : CommandRowId)
    (i : StudyActorObligationId) (kind : ForumMessageKind) (body : ForumMessageBody)
    (reply supersedes : Option ForumMessageId) :
    Tx.wp (publishForumMessage hash cmd i kind body reply supersedes) (fun _ s' => Housed s') s := by
  have hexposures : Tx.wp (publishForumMessage hash cmd i kind body reply supersedes)
      (fun _ s' => ∀ e' ∈ s'.rows .studyForumExposures,∃ e ∈ s.rows .studyForumExposures,
        e'.studyActorObligationId=e.studyActorObligationId ∧ e'.episodeForumId=e.episodeForumId) s := by
    simp only [publishForumMessage,setEpisodeState,Tx.wp_bind,wp_obligationRow,wp_studyEpisodeRow,
      wp_threadForObligation,Tx.wp_read,Tx.wp_the,Tx.wp_require,Tx.wp_update,Tx.wp_ite,Tx.wp_pure]
    intro _ _ _ _ _ _ _ _ thread _ ordinal _ _ author _
    refine Tx.wp_mono (appendMessage_exposures cmd thread _ _ _ _ _ _ _ _ _) ?_
    intro _ s₁ h₁ _ _ _
    refine ⟨fun _ _ => ?_,fun _ => ?_⟩ <;> simpa using h₁
  refine Tx.wp_mono (Tx.wp_and (publishForumMessage_step i kind body reply supersedes)
    (Tx.wp_and hexposures (Db.rows_outside (D := [.studyEpisodeForums]) _ (by decide)))) ?_
  rintro _ s' ⟨hstep,hexposures,hforums⟩
  have hf := hforums .studyEpisodeForums (by decide)
  refine hs.step hstep hexposures ?_ ?_
  · rw [hf]
    exact fun f hf => ⟨f,hf,rfl,rfl⟩
  · rw [hf]
    exact fun f hf hc => .inl ⟨f,hf,rfl,hc⟩

theorem releaseMatchedCorrection_housed (hs : Housed s) (cmd : CommandRowId) (i : StudyPairId)
    (a b : ForumThreadId) (correction : ForumMessageBody) :
    Tx.wp (releaseMatchedCorrection hash cmd i a b correction) (fun _ s' => Housed s') s := by
  have hone {s : Store} (hs : Housed s) (i : StudyEpisodeId) (thread : ForumThreadId) :
      Tx.wp (releaseCorrectionForEpisode (W := [.studyForumMessages,.studyForumThreads,
        .studyForumExposures,.studyEpisodes]) hash cmd i thread correction)
        (fun _ s' => Housed s') s := by
    have hexposures : Tx.wp (releaseCorrectionForEpisode (W := [.studyForumMessages,
        .studyForumThreads,.studyForumExposures,.studyEpisodes]) hash cmd i thread correction)
        (fun _ s' => ∀ e' ∈ s'.rows .studyForumExposures,∃ e ∈ s.rows .studyForumExposures,
          e'.studyActorObligationId=e.studyActorObligationId ∧ e'.episodeForumId=e.episodeForumId) s := by
      simp only [releaseCorrectionForEpisode,setEpisodeState,Tx.wp_bind,wp_studyEpisodeRow,Tx.wp_read,
        Tx.wp_the,Tx.wp_require,Tx.wp_update,Tx.wp_pure]
      intro _ _ _ r _ _ _ _ _ _
      refine Tx.wp_mono (appendMessage_exposures cmd r _ _ _ _ _ _ _ _ _) ?_
      intro _ s₁ h₁ _
      simpa using h₁
    refine Tx.wp_mono (Tx.wp_and (releaseCorrectionForEpisode_step i thread correction (by decide)
      (by decide) (by decide) (by decide)) (Tx.wp_and hexposures
        (Db.rows_outside (D := [.studyEpisodeForums]) _ (by decide)))) ?_
    rintro _ s' ⟨hstep,hexposures,hforums⟩
    have hf := hforums .studyEpisodeForums (by decide)
    refine hs.step hstep hexposures ?_ ?_
    · rw [hf]
      exact fun f hf => ⟨f,hf,rfl,rfl⟩
    · rw [hf]
      exact fun f hf hc => .inl ⟨f,hf,rfl,hc⟩
  simp only [releaseMatchedCorrection,Tx.wp_bind,Tx.wp_get,wp_studyEpisodeRow,wp_protocolRow,
    Tx.wp_require,Tx.wp_pure]
  intro pair _ episode _ protocol _ _
  refine Tx.wp_mono (hone hs pair.retainedEpisodeId a) ?_
  intro _ s₁ hs₁
  exact hone hs₁ pair.resetEpisodeId b

theorem closeEpisode_housed (hs : Housed s) (cmd : CommandRowId) (i : StudyEpisodeId) :
    Tx.wp (closeEpisode cmd i) (fun _ s' => Housed s') s := by
  have hforums : Tx.wp (closeEpisode cmd i) (fun _ s' => s'.rows .studyEpisodeForums=
      (s.modify .studyEpisodeForums (fun r => r.studyEpisodeId==i) (fun r => some
        {r with lifecycleState := .closed,lastTransitionCommandId := cmd})).rows .studyEpisodeForums) s := by
    simp only [closeEpisode,measurementSlotCount,setEpisodeState,Tx.wp_bind,wp_studyEpisodeRow,
      wp_protocolRow,Tx.wp_read,Tx.wp_get,Tx.wp_the,Tx.wp_require,Tx.wp_update,Tx.wp_pure]
    intro _ _ _ _ _ _ _ _ _ _ _ _ _ _
    exact Db.rows_modify_ne (by decide)
  refine Tx.wp_mono (Tx.wp_and (closeEpisode_step i) (Tx.wp_and hforums
    (Tx.wp_and (closeEpisode_closes cmd i)
      (Db.rows_outside (D := [.studyForumExposures]) _ (by decide))))) ?_
  rintro _ s' ⟨hstep,hforums,hclosed,hexposures⟩
  obtain ⟨e,he,hx⟩ := hclosed.1
  refine hs.step hstep ?_ ?_ ?_
  · rw [hexposures .studyForumExposures (by decide)]
    exact fun e he => ⟨e,he,rfl,rfl⟩
  · intro f hf
    rw [hforums]
    refine ⟨_,Db.mem_update.mpr ⟨f,hf,rfl⟩,?_⟩
    split <;> exact ⟨rfl,rfl⟩
  · intro f' hf' hfx
    rw [hforums] at hf'
    obtain ⟨f,hf,rfl⟩ := Db.mem_update.mp hf'
    by_cases hi : f.studyEpisodeId=i
    · refine .inr ⟨e.steady,?_,hx⟩
      simp only [hi,beq_self_eq_true,if_true]
      exact episodeOf_find he
    · refine .inl ⟨f,hf,?_,?_⟩
      · split <;> rfl
      · rw [if_neg (by simpa using hi)] at hfx
        exact hfx

theorem createEpisodeForum_housed (hs : Housed s) (cmd : CommandRowId) (i : StudyEpisodeId)
    (charter : Blake3Digest) :
    Tx.wp (createEpisodeForum cmd i charter) (fun _ s' => Housed s') s := by
  simp only [createEpisodeForum,Tx.wp_bind,wp_studyEpisodeRow,Tx.wp_require,Tx.wp_insert,Tx.wp_pure]
  intro _ _ _ j _ _
  constructor
  · intro e he
    rw [Db.rows_append_ne (by decide)] at he ⊢
    obtain ⟨o,ho,hid,f,hf,hrest⟩ := hs.exposed e he
    exact ⟨o,ho,hid,f,Db.mem_append.mpr (.inl hf),hrest⟩
  · intro f hf hx
    rw [episodeOf_rows (Db.rows_append_ne (by decide))]
    rcases Db.mem_append.mp hf with hf | rfl
    · exact hs.closed f hf hx
    · cases hx

theorem admitForumExposure_housed (hs : Housed s) (cmd : CommandRowId)
    (i : StudyActorObligationId) (forum : EpisodeForumId) (start : I64) :
    Tx.wp (admitForumExposure cmd i forum start) (fun _ s' => Housed s') s := by
  simp only [admitForumExposure,Tx.wp_bind,wp_obligationRow,Tx.wp_read,Tx.wp_the,Tx.wp_get,
    Tx.wp_require,Tx.wp_insert,Tx.wp_pure]
  intro o ho _ first _ f hf thread _ hepisode _ j _ _
  constructor
  · intro e he
    rw [Db.rows_append_ne (by decide),Db.rows_append_ne (by decide)]
    rcases Db.mem_append.mp he with he | rfl
    · exact hs.exposed e he
    · exact ⟨o,Db.find_mem ho,Relational.Id.ext (Db.find_key ho),f,Db.find_mem hf,
        Relational.Id.ext (Db.find_key hf),beq_iff_eq.mp hepisode⟩
  · rw [Db.rows_append_ne (by decide),episodeOf_rows (Db.rows_append_ne (by decide))]
    exact hs.closed

theorem Reaches.housed (h : Reaches hash ok s) : Housed s := by
  refine h.study (X := houseTables) (by decide) housed_kept ?_
    (fun _ _ _ _ _ _ _ _ _ _ _ _ _ _ => trivial) ?_
  · constructor <;> simp [Store.initial,Db.rows]
  · intro s r s₁ cmd _ hst hs₁ hw
    obtain ⟨i,p,k,q,g,b⟩ := r
    cases b
    case studyTransition c =>
      cases c
      case createEpisodeForum => exact studyTransition_wp (createEpisodeForum_housed hs₁ cmd _ _)
      case admitForumExposure => exact studyTransition_wp (admitForumExposure_housed hs₁ cmd _ _ _)
      case publishForumMessage =>
        exact studyTransition_wp (publishForumMessage_housed hs₁ cmd _ _ _ _ _)
      case releaseMatchedCorrection =>
        exact studyTransition_wp (releaseMatchedCorrection_housed hs₁ cmd _ _ _ _)
      case closeEpisode => exact studyTransition_wp (closeEpisode_housed hs₁ cmd _)
      all_goals exact absurd hw (of_decide_eq_true rfl)
    all_goals exact absurd hw (of_decide_eq_true rfl)

end Housing

section Receipts
variable {hash : Bytes → Blake3Digest} {s : Store} {q : StudyForumReadReceiptRow}

/-- The receipt tells what the forum shows in `s`. -/
structure Rendered (hash : Bytes → Blake3Digest) (s : Store) (q : StudyForumReadReceiptRow) :
    Prop where
  digest : q.renderingDigest=
    hash (forumRendering s q.forumThreadId q.firstMessageOrdinal.val q.throughMessageOrdinal.val)
  count : q.returnedByteCount.val=
    (forumRendering s q.forumThreadId q.firstMessageOrdinal.val q.throughMessageOrdinal.val).length

theorem forumRendering_rows {s' : Store} (h : s'.rows .studyForumMessages=s.rows .studyForumMessages) :
    forumRendering s'=forumRendering s := by
  funext thread first through
  unfold forumRendering messagesBetween
  rw [h]

theorem readForum_rendered (i : StudyActorObligationId) (cmd : CommandRowId) (first through : I64)
    (rendered : ContentObjectId) :
    Tx.wp (readForum hash i cmd first through rendered) (fun _ s' =>
      ∀ q ∈ s'.rows .studyForumReadReceipts,q ∈ s.rows .studyForumReadReceipts ∨
        (Rendered hash s q ∧ sealedDigest s q.renderedContentObjectId=some q.renderingDigest)) s := by
  simp only [readForum,forumReadThread,Tx.wp_bind,wp_obligationRow,wp_studyEpisodeRow,
    wp_threadForObligation,Tx.wp_read,Tx.wp_the,Tx.wp_get,Tx.wp_require,Tx.wp_insert,Tx.wp_update,
    Tx.wp_pure]
  intro _ _ _ a _ b _ _ _ _ _ _ _ _ thread _ _ count hcount hsealed j _ _ _ _ _ _ _ q hq
  rw [Db.rows_modify_ne (by decide)] at hq
  rcases Db.mem_append.mp hq with hq | rfl
  · exact .inl hq
  · exact .inr ⟨⟨rfl,Ranged.new_eq_some.mp hcount⟩,beq_iff_eq.mp hsealed⟩

/-- A receipt that a command leaves tells what the forum showed before it. -/
theorem execute_rendered (hv : s.Valid) (r : CommandRequest) :
    ∀ q ∈ (execute hash r s).2.rows .studyForumReadReceipts,q ∈ s.rows .studyForumReadReceipts ∨
      (Rendered hash s q ∧ sealedDigest s q.renderedContentObjectId=some q.renderingDigest) := by
  refine execute_invariant (D := [.studyForumReadReceipts]) (I := fun s' =>
    ∀ q ∈ s'.rows .studyForumReadReceipts,q ∈ s.rows .studyForumReadReceipts ∨
      (Rendered hash s q ∧ sealedDigest s q.renderedContentObjectId=some q.renderingDigest))
    (by decide) ?_ hv (fun q hq => .inl hq) ?_
  · intro s₁ s₂ h h₁
    rw [h .studyForumReadReceipts (by decide)]
    exact h₁
  · intro s₁ cmd hst h₁ hw
    have hsame {t : Tbl} (ht : t ∉ ledger) : s₁.rows t=s.rows t := by rw [Db.rows,hst.same t ht,Db.rows]
    obtain ⟨i,p,k,x,g,b⟩ := r
    cases b
    case studyTransition c =>
      cases c
      case readForum =>
        refine studyTransition_wp (Tx.wp_mono (readForum_rendered _ cmd _ _ _) ?_)
        intro _ s' hq q hmem
        rcases hq q hmem with hold | ⟨⟨hdigest,hcount⟩,hsealed⟩
        · exact h₁ q hold
        · rw [forumRendering_rows (hsame (by decide))] at hdigest hcount
          refine .inr ⟨⟨hdigest,hcount⟩,?_⟩
          rw [sealedDigest,Db.find,hsame (by decide)] at hsealed
          simp only [Db.find,hsame (t := .contentSealReceipts) (by decide)] at hsealed
          exact hsealed
      all_goals exact absurd hw (of_decide_eq_true rfl)
    all_goals exact absurd hw (of_decide_eq_true rfl)

theorem sealedDigest_kept {i : ContentObjectId} {d : Blake3Digest} (hv : s.Valid)
    (r : CommandRequest) (h : sealedDigest s i=some d) : sealedDigest (execute hash r s).2 i=some d := by
  have hseals : ∃ l,(execute hash r s).2.rows .contentSealReceipts=
      s.rows .contentSealReceipts++l := (execute_content r hv).1
  have hobjects : ∃ l,(execute hash r s).2.rows .contentObjects=s.rows .contentObjects++l :=
    (execute_content r hv).2
  obtain ⟨l,hl⟩ := hseals
  obtain ⟨m,hm⟩ := hobjects
  obtain ⟨o,ho,hd⟩ := Option.bind_eq_some_iff.mp h
  obtain ⟨x,hx,rfl⟩ := Option.map_eq_some_iff.mp hd
  have ho' : (execute hash r s).2.find .contentObjects i=some o := by
    rw [Db.find,hm,List.find?_append,← Db.find,ho]
    rfl
  have hx' : (execute hash r s).2.find .contentSealReceipts o.contentSealReceiptId=some x := by
    rw [Db.find,hl,List.find?_append,← Db.find,hx]
    rfl
  rw [sealedDigest,ho',Option.bind_some,hx',Option.map_some]

/-- Every receipt comes from a read of an earlier state, whose rendering it tells. -/
theorem receipt_history (h : Reachable hash s) : ∀ q ∈ s.rows .studyForumReadReceipts,
    ∃ s₀ r rs,Reachable hash s₀ ∧ s=runCommands hash (r::rs) s₀ ∧
      q ∉ s₀.rows .studyForumReadReceipts ∧
      q ∈ (execute hash r s₀).2.rows .studyForumReadReceipts ∧ Rendered hash s₀ q := by
  induction h with
  | initial => simp [Store.initial,Db.rows]
  | @step s h r _ ih =>
    intro q hq
    by_cases hold : q ∈ s.rows .studyForumReadReceipts
    · obtain ⟨s₀,r₀,rs,h₀,rfl,hrest⟩ := ih q hold
      refine ⟨s₀,r₀,rs++[r],h₀,?_,hrest⟩
      simp [runCommands,List.foldl_append]
    · rcases execute_rendered h.valid r q hq with hq' | ⟨hrendered,_⟩
      · exact absurd hq' hold
      · exact ⟨s,r,[],h,rfl,hold,hq,hrendered⟩

theorem receipt_sealed (h : Reachable hash s) : ∀ q ∈ s.rows .studyForumReadReceipts,
    sealedDigest s q.renderedContentObjectId=some q.renderingDigest := by
  induction h with
  | initial => simp [Store.initial,Db.rows]
  | @step s h r _ ih =>
    intro q hq
    rcases execute_rendered h.valid r q hq with hold | ⟨_,hsealed⟩
    · exact sealedDigest_kept h.valid r (ih q hold)
    · exact sealedDigest_kept h.valid r hsealed

end Receipts

section Reading
variable {hash : Bytes → Blake3Digest} {s : Store}

/-- The obligation may still read whatever its forum holds from where its view starts. -/
def Readable (s : Store) (o : StudyActorObligationRow) : Prop :=
  ∀ x ∈ s.rows .studyForumExposures,x.studyActorObligationId=o.studyActorObligationId →
  ∀ t ∈ s.rows .studyForumThreads,t.episodeForumId=x.episodeForumId →
  ∀ first through : Ordinal,x.visibleFromMessageOrdinal.val≤first.val → first.val≤through.val →
    through.val≤t.headMessageOrdinal.val → through.val<first.val+forumReadMaxMessages →
    o.readsUsed.val<o.readBudget.val →
    Tx.total (forumReadThread (W := []) o.studyActorObligationId first.toI64 through.toI64)
      (fun a s' => a=(t,first,through) ∧ s'=s) s

theorem exposureOf_mem (hv : s.Valid) {x : StudyForumExposureRow}
    (hx : x ∈ s.rows .studyForumExposures) : exposureOf s x.studyActorObligationId=some x := by
  cases h : exposureOf s x.studyActorObligationId with
  | none =>
    have hnone := List.find?_eq_none.mp h x hx
    simp at hnone
  | some y =>
    have hp := List.find?_some h
    have hsame : y.studyActorObligationId=x.studyActorObligationId := beq_iff_eq.mp hp
    have hy : y ∈ s.rows .studyForumExposures := List.mem_of_find?_eq_some h
    have heq : y=x := hv.exclusive (t := Tbl.studyForumExposures) (fun a b : StudyForumExposureRow =>
        BEq.comm (a := a.studyActorObligationId) (b := b.studyActorObligationId)) hy hx
      (beq_iff_eq.mpr hsame)
    rw [heq]

theorem Threaded.threadOf (ht : Threaded s) {t : StudyForumThreadRow}
    (hmem : t ∈ s.rows .studyForumThreads) : threadOfForum s t.episodeForumId=some t := by
  cases h : threadOfForum s t.episodeForumId with
  | none =>
    have hnone := List.find?_eq_none.mp h t hmem
    simp at hnone
  | some u =>
    obtain ⟨hu,he⟩ := threadOfForum_mem h
    rw [ht.oneThread u hu t hmem he]

/-- An active actor reads its forum, unless it waits for the correction of its episode. -/
theorem readable (h : Reaches hash ok s) {o : StudyActorObligationRow}
    (ho : o ∈ s.rows .studyActorObligations) (hactive : o.lifecycleState=.active)
    {e : StudyEpisodeRow} (he : s.find .studyEpisodes o.studyEpisodeId=some e)
    (hgate : o.populationPhase=.source ∨ e.lifecycleState.afterCorrection=true) : Readable s o := by
  intro x hx hxo t ht htf first through hfrom hle hhead hmany hreads
  have hv := h.valid
  have hthreaded := h.forum.1
  have hthrough := hthreaded.shown x hx t ht htf (by omega)
  have hexposure : exposureOf s o.studyActorObligationId=some x := hxo ▸ exposureOf_mem hv hx
  have hthread : threadOfForum s x.episodeForumId=some t := htf ▸ hthreaded.threadOf ht
  obtain ⟨f,hf⟩ := hv.find_target hx (u := .studyEpisodeForums) (k := x.episodeForumId) rfl
    (List.mem_cons_of_mem _ (List.mem_cons_self ..))
  -- a closed forum would belong to a closed episode, which has no active obligation
  have hopen : f.lifecycleState≠.closed := by
    intro hclosed
    obtain ⟨o',ho',hid,f',hf',hfid,hepisode⟩ := h.housed.exposed x hx
    have hobligation : o'=o := hv.key_injective (t := .studyActorObligations) rfl ho' ho
      (congrArg Relational.Id.val (hid.trans hxo))
    have hforum : f'=f := hv.key_injective (t := .studyEpisodeForums) rfl hf' (Db.find_mem hf)
      ((congrArg Relational.Id.val hfid).trans (Db.find_key hf).symm)
    subst hobligation hforum
    obtain ⟨e',he',hx'⟩ := h.housed.closed f' hf' hclosed
    exact (h.blinded.closed _ e' he' hx').1 o' ho hepisode.symm trivial hactive
  have hpos := x.visibleFromMessageOrdinal.valid.1
  have hval (n : Ordinal) : n.toI64.val=n.val := rfl
  simp only [forumReadThread,threadForObligation,Tx.total_bind,total_obligationRow,
    total_studyEpisodeRow,Tx.total_read,Tx.total_the,Tx.total_get,Tx.total_require,Tx.total_pure]
  refine ⟨o,hv.find_eq rfl ho rfl,?_,first,?_,through,?_,e,he,?_,x,hexposure,f,hf,t,?_,?_,rfl,trivial⟩
  · simp only [Bool.and_eq_true,beq_iff_eq,decide_eq_true_eq,hval]
    unfold forumReadMaxMessages at hmany ⊢
    refine ⟨⟨⟨⟨hactive,?_⟩,?_⟩,?_⟩,hreads⟩ <;> omega
  · exact Ranged.new_eq_some.mpr rfl
  · exact Ranged.new_eq_some.mpr rfl
  · rcases hgate with hsource | hafter
    · simp [hsource]
    · cases hp : o.populationPhase with
      | source => rfl
      | successor =>
        revert hafter
        cases e.lifecycleState <;> decide
  · rw [hexposure]
    exact hthread
  · simp only [Bool.and_eq_true,decide_eq_true_eq]
    exact ⟨⟨hopen,hfrom⟩,by omega⟩

/-- What the forums and the receipts of a state tell. The actors that `p` selects can read. -/
structure ForumStore (hash : Bytes → Blake3Digest)
    (p : StudyActorObligationRow → StudyEpisodeState → Prop) (s : Store) : Prop where
  threaded : Threaded s
  metered : Metered s
  posts : ∀ o ∈ s.rows .studyActorObligations,o.postsUsed.val≤o.postBudget.val
  readable : ∀ o ∈ s.rows .studyActorObligations,o.lifecycleState=.active →
    ∀ e,s.find .studyEpisodes o.studyEpisodeId=some e → p o e.lifecycleState → Readable s o
  sealed : ∀ q ∈ s.rows .studyForumReadReceipts,
    sealedDigest s q.renderedContentObjectId=some q.renderingDigest
  rendered : ∀ q ∈ s.rows .studyForumReadReceipts,∃ s₀ r rs,Reachable hash s₀ ∧
    s=runCommands hash (r::rs) s₀ ∧ q ∉ s₀.rows .studyForumReadReceipts ∧
    q ∈ (execute hash r s₀).2.rows .studyForumReadReceipts ∧ Rendered hash s₀ q

theorem forum_store (h : Reachable hash s) : ForumStore hash
    (fun o x => o.populationPhase=.source ∨ x.afterCorrection=true) s where
  threaded := h.forum.1
  metered := h.forum.2
  posts o ho := by
    have hcheck := h.valid.checked .studyActorObligations o ho
    change (decide _ && _ && _ && _)=true at hcheck
    simp only [Bool.and_eq_true,decide_eq_true_eq] at hcheck
    exact hcheck.1.1.1
  readable _ ho hactive _ he hgate := readable h ho hactive he hgate
  sealed := receipt_sealed h
  rendered := receipt_history h

end Reading

section Waiting
open Blake3

theorem thread_valid : boundedText 160 "thread"=true := by decide
theorem finding_valid : boundedBody (8*1024) "m"=true := by decide
theorem correction_valid : boundedBody (8*1024) "c"=true := by decide
theorem note_valid : boundedBody (8*1024) "n"=true := by decide
theorem truth_valid : boundedBody (2*1024) "t"=true := by decide
theorem decision_valid : boundedBody (2*1024) "d"=true := by decide
theorem secondRole_valid : 1≤2 ∧ 2≤64 := by decide

def threadTitle : ForumThreadTitle := ⟨"thread",thread_valid⟩
def findingBody : ForumMessageBody := ⟨"m",finding_valid⟩
def correctionBody : ForumMessageBody := ⟨"c",correction_valid⟩
def noteBody : ForumMessageBody := ⟨"n",note_valid⟩
def truthText : StudyGroundTruthReveal := ⟨"t",truth_valid⟩
def decisionText : StudyDecisionBody := ⟨"d",decision_valid⟩

/-- An actor of one arm of the pair. -/
def seatRequest (n : Nat) (i : StudyEpisodeId) (phase : StudyPopulationPhase) : CommandRequest :=
  obligationRequest n i phase oneSlot (micros 1)

def lateDecision : CommandRequest :=
  studyRequest 74 (.recordDecision (nth 3) decisionText (some (nth 4)))

/-- Two episodes from their admission until one of their actors decides, after its ground truth
is known, on a message of its own. -/
def matchedRun : List CommandRequest :=
  (founding .deterministicPiHostFixtureV1).take 5++
  [studyRequest 40 (.admitProtocolRevision (nth 1) (plainDigest 0) (plainDigest 0)
     awarenessDigest toolContractDigest (plainDigest 0) (blake3 (utf8 "t")) (blake3 (utf8 "c"))
     (plainDigest 0) (micros 10)),
   studyRequest 41 (.admitWorldRevision (nth 1) (plainDigest 0)),
   studyRequest 42 (.admitMeasurementRevision (nth 1) (plainDigest 0) oneSlot),
   studyRequest 43 (.admitInstitutionRevision (nth 1) (plainDigest 0)),
   studyRequest 44 (.admitPopulationSnapshot (nth 1) (plainDigest 0) ⟨1,I64.one_valid⟩),
   studyRequest 45 (.admitPopulationSnapshot (nth 1) (plainDigest 0) ⟨1,I64.one_valid⟩),
   studyRequest 46 (.admitEpisode (nth 1) (nth 1) (nth 1) (nth 1) (nth 1) (plainDigest 0)),
   studyRequest 47 (.admitEpisode (nth 1) (nth 1) (nth 1) (nth 1) (nth 1) (plainDigest 0)),
   studyRequest 48 (.assignTreatment (nth 1) .retained),
   studyRequest 49 (.assignTreatment (nth 2) .reset),
   studyRequest 50 (.admitMatchedPair (nth 1) (nth 2)),
   studyRequest 51 (.createEpisodeForum (nth 1) (plainDigest 0)),
   studyRequest 52 (.createEpisodeForum (nth 2) (plainDigest 0)),
   studyRequest 53 (.openForumThread (nth 1) threadTitle),
   studyRequest 54 (.openForumThread (nth 2) threadTitle),
   seatRequest 55 (nth 1) .source,
   seatRequest 56 (nth 2) .source,
   studyRequest 57 (.admitForumExposure (nth 1) (nth 1) firstOrdinal),
   studyRequest 58 (.publishForumMessage (nth 1) .finding findingBody none none),
   studyRequest 59 (.completeActorObligation (nth 1) (micros 1)),
   studyRequest 60 (.completeActorObligation (nth 2) (micros 1)),
   studyRequest 61 (.freezeForumHead (nth 1) (nth 1)),
   studyRequest 62 (.freezeForumHead (nth 2) (nth 2)),
   studyRequest 63 (.replacePopulation (nth 1) (nth 2)),
   studyRequest 64 (.replacePopulation (nth 2) (nth 2)),
   seatRequest 65 (nth 1) .successor,
   seatRequest 66 (nth 2) .successor,
   obligationRequest 75 (nth 1) .successor ⟨2,secondRole_valid⟩ (micros 1),
   studyRequest 67 (.admitForumExposure (nth 3) (nth 1) firstOrdinal),
   studyRequest 68 (.admitForumExposure (nth 4) (nth 2) firstOrdinal),
   studyRequest 69 (.releaseMatchedCorrection (nth 1) (nth 1) (nth 2) correctionBody),
   studyRequest 70 (.publishForumMessage (nth 3) .finding noteBody none none),
   studyRequest 71 (.completeActorObligation (nth 3) (micros 1)),
   studyRequest 72 (.completeActorObligation (nth 4) (micros 1)),
   studyRequest 76 (.completeActorObligation (nth 5) (micros 1)),
   studyRequest 73 (.revealGroundTruth (nth 1) truthText),
   lateDecision]

/-- Somebody is shown a message that it cannot read. -/
def waits (s : Store) : Bool :=
  (s.rows .studyActorObligations).any (fun o => o.lifecycleState==.active &&
    o.readsUsed.val<o.readBudget.val && (s.find .studyEpisodes o.studyEpisodeId).isSome &&
    (s.rows .studyForumExposures).any (fun x => x.studyActorObligationId==o.studyActorObligationId &&
      (s.rows .studyForumThreads).any (fun t => t.episodeForumId==x.episodeForumId &&
        x.visibleFromMessageOrdinal.val≤t.headMessageOrdinal.val &&
        !((forumReadThread (W := []) o.studyActorObligationId x.visibleFromMessageOrdinal.toI64
          x.visibleFromMessageOrdinal.toI64).run s).1.isOk)))

/-- Nobody has decided, and the ground truth of the episode of the obligation is known. -/
def knows (s : Store) (i : StudyActorObligationId) : Bool :=
  (s.rows .studyDecisions).isEmpty && (s.rows .studyActorObligations).any (fun o =>
    o.studyActorObligationId==i && (s.rows .studyGroundTruthReveals).any (fun v =>
      v.studyEpisodeId==o.studyEpisodeId))

/-- The active successors of the episode, shown the forum or not. -/
def activeSuccessors (s : Store) (i : StudyEpisodeId) : Nat :=
  (s.rows .studyActorObligations).countP (fun r =>
    r.studyEpisodeId==i && r.populationPhase==.successor && r.lifecycleState==.active)

/-- An episode without a correction has a successor for whom there is no seat. -/
def crowded (s : Store) (i : StudyEpisodeId) (t : ForumThreadId) : Bool :=
  successorPopulationSize s i != some (activeSuccessors s i) && (threadInEpisode s t i).isSome &&
    (s.rows .studyForumMessages).all (fun m => m.author.isSome)

/-- The service has posted to the thread. -/
def corrected (s : Store) (t : ForumThreadId) : Bool :=
  (s.rows .studyForumMessages).any (fun m => m.author==none && m.forumThreadId==t)

/-- In what state a correction, a message after it and a decision meet the study. -/
def meets (s : Store) (r : CommandRequest) : Bool :=
  match r.body with
  | .studyTransition (.releaseMatchedCorrection ..) => waits s && crowded s (nth 1) (nth 1)
  | .studyTransition (.publishForumMessage i ..) => i != nth 3 || corrected s (nth 1)
  | .studyTransition (.recordDecision i _ _) => knows s i
  | _ => true

theorem release_congr {h h' : Bytes → Blake3Digest} {body : ForumMessageBody}
    (hbody : Blake3Digest.ofText h body=Blake3Digest.ofText h' body) (i : StudyPairId)
    (a b : ForumThreadId) : (fun cmd => releaseMatchedCorrection h cmd i a b body)=
      fun cmd => releaseMatchedCorrection h' cmd i a b body := by
  unfold releaseMatchedCorrection releaseCorrectionForEpisode appendMessage
  rw [hbody]

theorem reveal_congr {h h' : Bytes → Blake3Digest} {x : StudyGroundTruthReveal}
    (hx : Blake3Digest.ofText h x=Blake3Digest.ofText h' x) (i : StudyEpisodeId) :
    (fun cmd => revealGroundTruth h cmd i x)=fun cmd => revealGroundTruth h' cmd i x := by
  unfold revealGroundTruth
  rw [hx]

theorem decision_congr {h h' : Bytes → Blake3Digest} {x : StudyDecisionBody}
    (hx : Blake3Digest.ofText h x=Blake3Digest.ofText h' x) (i : StudyActorObligationId)
    (cited : Option ForumMessageId) :
    (fun cmd => recordDecision h cmd i x cited)=fun cmd => recordDecision h' cmd i x cited := by
  unfold recordDecision
  rw [hx]

theorem sameHash_matched : ∀ r ∈ matchedRun,SameHash blake3 rereadHash r := by
  have hput : matchedRun.all (fun r => (put r).head?==some 0)=true := by decide +kernel
  have htexts : matchedRun.filter (fun r => !r.body.hashesTexts)=
      [studyRequest 58 (.publishForumMessage (nth 1) .finding findingBody none none),
       studyRequest 69 (.releaseMatchedCorrection (nth 1) (nth 1) (nth 2) correctionBody),
       studyRequest 70 (.publishForumMessage (nth 3) .finding noteBody none none),
       studyRequest 73 (.revealGroundTruth (nth 1) truthText),
       lateDecision] := rfl
  intro r hr
  have hzero := beq_iff_eq.mp (List.all_eq_true.mp hput r hr)
  by_cases hbody : r.body.hashesTexts=true
  · exact sameHash_plain hzero hbody
  · have hmem : r ∈ matchedRun.filter (fun r => !r.body.hashesTexts) :=
      List.mem_filter.mpr ⟨hr,by simpa using hbody⟩
    rw [htexts] at hmem
    refine sameHash_text hzero ?_
    simp only [List.mem_cons,List.not_mem_nil,or_false] at hmem
    rcases hmem with rfl | rfl | rfl | rfl | rfl
    · have hm := ofText_rereadHash (x := findingBody) (c := 109)
        (by decide +kernel) (by decide)
      exact studyRequest_action (by rw [studyAction,studyAction,publish_congr hm])
    · have hc := ofText_rereadHash (x := correctionBody) (c := 99)
        (by decide +kernel) (by decide)
      exact studyRequest_action (by rw [studyAction,studyAction,release_congr hc])
    · have hn := ofText_rereadHash (x := noteBody) (c := 110)
        (by decide +kernel) (by decide)
      exact studyRequest_action (by rw [studyAction,studyAction,publish_congr hn])
    · have ht := ofText_rereadHash (x := truthText) (c := 116)
        (by decide +kernel) (by decide)
      exact studyRequest_action (by rw [studyAction,studyAction,reveal_congr ht])
    · have hd := ofText_rereadHash (x := decisionText) (c := 100)
        (by decide +kernel) (by decide)
      exact studyRequest_action (by rw [studyAction,studyAction,decision_congr hd])

theorem allowsAll_congr {hash hash' : Bytes → Blake3Digest} {ok : Store → CommandRequest → Bool}
    {p : Store → Bool} {rs : List CommandRequest} (h : ∀ r ∈ rs,SameHash hash hash' r) (s : Store)
    (b : Bool) : allowsAll hash ok p rs s b=allowsAll hash' ok p rs s b := by
  induction rs generalizing s b with
  | nil => rfl
  | cons r rs ih =>
    obtain ⟨hr,hrs⟩ := List.forall_mem_cons.mp h
    rw [allowsAll,allowsAll,execute_congr hr]
    exact ih hrs _ _

theorem Allowed.at {hash : Bytes → Blake3Digest} {ok : Store → CommandRequest → Prop}
    {l rs rs' : List CommandRequest} {r : CommandRequest} {s : Store} (h : Allowed hash ok l s)
    (hl : l=rs++r::rs') : ok (runCommands hash rs s) r := by
  subst hl
  induction rs generalizing s with
  | nil => exact h.1
  | cons a rs ih => exact ih h.2

theorem runCommands_last {hash : Bytes → Blake3Digest} {l rs : List CommandRequest}
    {r : CommandRequest} {s : Store} {p : Store → Prop} (h : p (runCommands hash l s))
    (hl : l=rs++[r]) : p (execute hash r (runCommands hash rs s)).2 := by
  subst hl
  simpa [runCommands] using h

def release : CommandRequest :=
  studyRequest 69 (.releaseMatchedCorrection (nth 1) (nth 1) (nth 2) correctionBody)

def lateMessage : CommandRequest :=
  studyRequest 70 (.publishForumMessage (nth 3) .finding noteBody none none)

theorem meets_release (s : Store) : meets s release=(waits s && crowded s (nth 1) (nth 1)) := rfl

theorem meets_message (s : Store) : meets s lateMessage=corrected s (nth 1) := rfl

theorem meets_decision (s : Store) : meets s lateDecision=knows s (nth 3) := rfl

theorem matchedRun_release : matchedRun=matchedRun.take 35++release::matchedRun.drop 36 := rfl

theorem matchedRun_message : matchedRun=matchedRun.take 36++lateMessage::matchedRun.drop 37 := rfl

theorem matchedRun_taken : matchedRun.take 36=matchedRun.take 35++[release] := rfl

theorem matchedRun_last : matchedRun=matchedRun.take 41++[lateDecision] := rfl

theorem matchedRun_allows : allowsAll blake3 meets (fun s => (s.rows .studyDecisions).any
    (fun d => d.studyActorObligationId==nth 3)) matchedRun Store.initial true=true := by
  rw [allowsAll_congr sameHash_matched]
  decide +kernel

theorem matchedRun_decision : ∃ d ∈ (runCommands blake3 matchedRun Store.initial).rows
    .studyDecisions,d.studyActorObligationId=nth 3 := by
  obtain ⟨_,_,hend⟩ := allowsAll_allowed _ matchedRun_allows
  obtain ⟨d,hd,hdi⟩ := List.any_eq_true.mp hend
  exact ⟨d,hd,beq_iff_eq.mp hdi⟩

/-- When the correction is released there are successors who wait for it, and one of them has
no seat. -/
theorem matchedRun_waiting : waits (runCommands blake3 (matchedRun.take 35) Store.initial)=true ∧
    crowded (runCommands blake3 (matchedRun.take 35) Store.initial) (nth 1) (nth 1)=true ∧
    corrected (execute blake3 release
      (runCommands blake3 (matchedRun.take 35) Store.initial)).2 (nth 1)=true := by
  obtain ⟨_,hallowed,_⟩ := allowsAll_allowed _ matchedRun_allows
  have hrelease := hallowed.at matchedRun_release
  have hmessage := hallowed.at matchedRun_message
  rw [meets_release,Bool.and_eq_true] at hrelease
  rw [meets_message] at hmessage
  exact ⟨hrelease.1,hrelease.2,runCommands_last (p := fun s => corrected s (nth 1)=true) hmessage
    matchedRun_taken⟩

/-- A successor decides when it knows the truth. -/
theorem matchedRun_knows : knows (runCommands blake3 (matchedRun.take 41) Store.initial) (nth 3)=true ∧
    ∃ d ∈ (execute blake3 lateDecision
      (runCommands blake3 (matchedRun.take 41) Store.initial)).2.rows .studyDecisions,
      d.studyActorObligationId=nth 3 := by
  obtain ⟨_,hallowed,_⟩ := allowsAll_allowed _ matchedRun_allows
  have hknows := hallowed.at matchedRun_last
  rw [meets_decision] at hknows
  exact ⟨hknows,runCommands_last
    (p := fun s => ∃ d ∈ s.rows .studyDecisions,d.studyActorObligationId=nth 3)
    matchedRun_decision matchedRun_last⟩

theorem forum_store_matched : ForumStore blake3
    (fun o x => o.populationPhase=.source ∨ x.afterCorrection=true)
    (runCommands blake3 matchedRun Store.initial) := forum_store (Reaches.runCommands .initial _)

/-- An actor that waits for the correction does not read what it is shown. -/
theorem matchedRun_waits : ¬∀ s,Reachable blake3 s → ForumStore blake3 (fun _ _ => True) s := by
  intro h
  obtain ⟨o,ho,hw⟩ := List.any_eq_true.mp matchedRun_waiting.1
  simp only [Bool.and_eq_true,beq_iff_eq,decide_eq_true_eq,Option.isSome_iff_exists,
    List.any_eq_true] at hw
  obtain ⟨⟨⟨hactive,hreads⟩,e,he⟩,x,hx,hxo,t,ht,⟨htf,hle⟩,hrefused⟩ := hw
  obtain ⟨a,s',hrun,_⟩ := (h _ (Reaches.runCommands .initial _)).readable o ho hactive e he trivial x hx
    hxo t ht htf x.visibleFromMessageOrdinal x.visibleFromMessageOrdinal le_rfl le_rfl hle
    (by unfold forumReadMaxMessages; omega) hreads
  rw [hrun] at hrefused
  cases hrefused

end Waiting
end Society.Kernel
