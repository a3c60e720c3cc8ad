import Society.Kernel.StudyLaws
import Society.Kernel.Ledger

namespace Society.Kernel
open Society.Relational Society.Coding

/-! What holds of the episodes of a study in every state of a run. -/

section Serving
variable {hash : Bytes → Blake3Digest} {ok : Store → CommandRequest → Prop} {s s' : Store}
  {c : StudyEpisodeId → Nat} {i : StudyEpisodeId} {e : StudyEpisodeRow}

/-- The states in which the actors of a phase are at work. -/
def StudyPopulationPhase.serves : StudyPopulationPhase → StudyEpisodeState → Bool
  | .source,.sourceActive => true
  | .successor,.successorAdmitted | .successor,.correctionReleased
  | .successor,.successorActive => true
  | _,_ => false

/-- An active obligation serves the state of its episode, and whatever left the admitted
state has had an obligation. -/
structure Served (s : Store) : Prop where
  active : ∀ o ∈ s.rows .studyActorObligations,o.lifecycleState=.active →
    ∃ e,episodeOf s o.studyEpisodeId=some e ∧ o.populationPhase.serves e.lifecycleState=true
  populated : ∀ i e,episodeOf s i=some e → e.lifecycleState≠.admitted →
    ∃ o ∈ s.rows .studyActorObligations,o.studyEpisodeId=i

theorem served_reads : Db.ReadsOnly studyTables Served := by
  intro s s' h hs
  have he := episodeOf_rows (h .studyEpisodes (by decide))
  have ho := h .studyActorObligations (by decide)
  constructor
  · rw [he,ho]
    exact hs.active
  · rw [he,ho]
    exact hs.populated

/-- An episode that moves on is served by the obligations that stay active. -/
theorem EpisodeMove.serves {y : StudyEpisodeState} (h : EpisodeMove s i e y)
    {o : StudyActorObligationRow} (ho : o ∈ s.rows .studyActorObligations)
    (hi : o.studyEpisodeId=i) (hactive : o.lifecycleState=.active)
    (hserves : o.populationPhase.serves e.lifecycleState=true) :
    o.populationPhase.serves y=true := by
  cases h with
  | replaced hx h =>
    rw [hx] at hserves
    cases hp : o.populationPhase with
    | source => exact absurd hactive (h o ho hi hp)
    | successor => rw [hp] at hserves; cases hserves
  | released hx =>
    rw [hx] at hserves
    cases hp : o.populationPhase with
    | source => rw [hp] at hserves; cases hserves
    | successor => rfl
  | answered hx =>
    rw [hx] at hserves
    cases hp : o.populationPhase with
    | source => rw [hp] at hserves; cases hserves
    | successor => rfl
  | closed hx h => exact absurd hactive (h o ho hi trivial)

theorem EpisodeMove.admitted {y : StudyEpisodeState} (h : EpisodeMove s i e y) :
    e.lifecycleState≠.admitted := by
  intro he
  cases h with
  | replaced hx => simp [hx] at he
  | released hx => simp [hx] at he
  | answered hx => simp [hx] at he
  | closed hx => simp [he,StudyEpisodeState.afterCorrection] at hx

/-- Whoever serves an episode that admits actors of a phase serves it with them. -/
theorem serves_admitted {p q : StudyPopulationPhase} {x : StudyEpisodeState}
    (hadmits : p.admitsFrom x=true) (hserves : q.serves x=true) : q.serves p.admittedState=true := by
  revert hadmits hserves
  cases p <;> cases q <;> cases x <;> decide

theorem StudyStep.served (h : StudyStep s s' c) (hs : Served s) : Served s' := by
  cases h with
  | kept hepisodes hseats =>
    constructor
    · intro o' ho' hactive
      obtain ⟨o,ho,_,he,hp,ha⟩ := hseats.old o' ho'
      rw [hepisodes,he,hp]
      exact hs.active o ho (ha hactive)
    · intro i e hi hne
      rw [hepisodes] at hi
      obtain ⟨o,ho,he⟩ := hs.populated i e hi hne
      obtain ⟨o',ho',_,he',_⟩ := hseats.new o ho
      exact ⟨o',ho',he'.trans he⟩
  | opened i e hnone hepisodes hseats =>
    constructor
    · intro o' ho' hactive
      obtain ⟨o,ho,_,he,hp,ha⟩ := hseats.old o' ho'
      obtain ⟨e',he',hserves⟩ := hs.active o ho (ha hactive)
      refine ⟨e',?_,hp ▸ hserves⟩
      rw [hepisodes,he,Function.update_of_ne,he']
      intro heq
      rw [heq,hnone] at he'
      cases he'
    · intro k e' hk hne
      rw [hepisodes,Function.update_apply] at hk
      split at hk
      · cases hk
        exact absurd rfl hne
      · obtain ⟨o,ho,he⟩ := hs.populated k e' hk hne
        obtain ⟨o',ho',_,he',_⟩ := hseats.new o ho
        exact ⟨o',ho',he'.trans he⟩
  | seated i e new he hadmits hepisodes hnew hseats =>
    constructor
    · intro o' ho' hactive
      rw [hseats] at ho'
      rw [hepisodes]
      rcases List.mem_append.mp ho' with ho' | ho'
      · obtain ⟨e',he',hserves⟩ := hs.active o' ho' hactive
        by_cases hi : o'.studyEpisodeId=i
        · rw [hi] at he' ⊢
          rw [he] at he'
          cases he'
          exact ⟨_,Function.update_self ..,serves_admitted hadmits hserves⟩
        · exact ⟨e',by rw [Function.update_of_ne hi,he'],hserves⟩
      · cases List.mem_singleton.mp ho'
        refine ⟨_,by rw [hnew.1,Function.update_self],?_⟩
        cases hp : new.populationPhase <;> rfl
    · intro k e' hk hne
      rw [hseats]
      rw [hepisodes,Function.update_apply] at hk
      split at hk
      · next hki =>
        exact ⟨new,List.mem_append_right _ (List.mem_singleton.mpr rfl),hnew.1.trans hki.symm⟩
      · obtain ⟨o,ho,he⟩ := hs.populated k e' hk hne
        exact ⟨o,List.mem_append_left _ ho,he⟩
  | moved i e y he hmove hepisodes hseats =>
    constructor
    · intro o' ho' hactive
      obtain ⟨o,ho,_,hepisode,hp,ha⟩ := hseats.old o' ho'
      obtain ⟨e',he',hserves⟩ := hs.active o ho (ha hactive)
      rw [hepisodes,hepisode,hp]
      by_cases hi : o.studyEpisodeId=i
      · rw [hi] at he' ⊢
        rw [he] at he'
        cases he'
        exact ⟨_,Function.update_self ..,hmove.serves ho hi (ha hactive) hserves⟩
      · exact ⟨e',by rw [Function.update_of_ne hi,he'],hserves⟩
    · intro k e' hk hne
      have hold : ∃ e₀,episodeOf s k=some e₀ ∧ e₀.lifecycleState≠.admitted := by
        rw [hepisodes,Function.update_apply] at hk
        split at hk
        · next hki => exact ⟨e,hki ▸ he,hmove.admitted⟩
        · exact ⟨e',hk,hne⟩
      obtain ⟨e₀,he₀,hne₀⟩ := hold
      obtain ⟨o,ho,hepisode⟩ := hs.populated k e₀ he₀ hne₀
      obtain ⟨o',ho',_,he',_⟩ := hseats.new o ho
      exact ⟨o',ho',he'.trans hepisode⟩

theorem served_kept : KeptByStudy [] (fun _ _ => True) Served where
  reads := served_reads.mono (by simp)
  charge _ _ := trivial
  step _ _ _ _ _ _ hstep hs := hstep.served hs

theorem Reaches.served (h : Reaches hash ok s) : Served s := by
  refine h.study (X := []) (by simp) served_kept ?_ (fun _ _ _ _ _ _ _ _ _ _ _ _ _ _ => trivial) ?_
  · constructor <;> simp [Store.initial,Db.rows,episodeOf,Db.find]
  · rintro s r s₁ cmd _ _ _ ⟨t,ht,_⟩
    cases ht

end Serving

section Blinding
variable {hash : Bytes → Blake3Digest} {ok : Store → CommandRequest → Prop} {s s' : Store}
  {c : StudyEpisodeId → Nat} {i : StudyEpisodeId} {e : StudyEpisodeRow}

/-- An episode stays what it is; only its state moves, and only forward. -/
theorem StudyStep.forward (h : StudyStep s s' c) (he : episodeOf s i=some e) :
    ∃ x : StudyEpisodeState,episodeOf s' i=some (e.inState x) ∧ e.lifecycleState.rank≤x.rank := by
  cases h with
  | kept hepisodes => exact ⟨e.lifecycleState,by rw [hepisodes,he]; rfl,le_rfl⟩
  | opened k e₁ hnone hepisodes =>
    refine ⟨e.lifecycleState,?_,le_rfl⟩
    rw [hepisodes,Function.update_of_ne,he]
    · rfl
    · rintro rfl
      rw [hnone] at he
      cases he
  | seated k e₁ new he₁ hadmits hepisodes =>
    by_cases hk : i=k
    · subst hk
      rw [he₁] at he
      cases he
      refine ⟨_,by rw [hepisodes,Function.update_self],?_⟩
      revert hadmits
      cases new.populationPhase <;> cases e.lifecycleState <;> decide
    · exact ⟨e.lifecycleState,by rw [hepisodes,Function.update_of_ne hk,he]; rfl,le_rfl⟩
  | moved k e₁ y he₁ hmove hepisodes =>
    by_cases hk : i=k
    · subst hk
      rw [he₁] at he
      cases he
      refine ⟨y,by rw [hepisodes,Function.update_self],?_⟩
      cases hmove with
      | replaced hx => rw [hx]; decide
      | released hx => rw [hx]; decide
      | answered hx => rw [hx]; decide
      | closed hx =>
        revert hx
        cases e.lifecycleState <;> decide
    · exact ⟨e.lifecycleState,by rw [hepisodes,Function.update_of_ne hk,he]; rfl,le_rfl⟩

/-- An episode whose ground truth may be known. -/
def StudyEpisodeState.unblinded (x : StudyEpisodeState) : Bool := x.afterCorrection || x==.closed

/-- No obligation of the episode is active. -/
abbrev Idle (s : Store) (i : StudyEpisodeId) : Prop := NoneActive s i (fun _ => True)

/-- When the ground truth of an episode is revealed, what is measured then, and with what it
is closed. -/
structure Blinded (s : Store) : Prop where
  revealed : ∀ v ∈ s.rows .studyGroundTruthReveals,Idle s v.studyEpisodeId ∧
    ∃ e,episodeOf s v.studyEpisodeId=some e ∧ e.lifecycleState.unblinded=true
  measured : ∀ q ∈ s.rows .studyMeasurementResults,
    (∃ v ∈ s.rows .studyGroundTruthReveals,v.studyEpisodeId=q.studyEpisodeId) ∧
    ∃ e m,episodeOf s q.studyEpisodeId=some e ∧
      s.find .studyMeasurementRevisions e.studyMeasurementRevisionId=some m ∧
      q.measurementSlot.val ≤ m.measurementSlotCount.val
  closed : ∀ i e,episodeOf s i=some e → e.lifecycleState=.closed → Idle s i ∧
    ∃ m,s.find .studyMeasurementRevisions e.studyMeasurementRevisionId=some m ∧
      resultsOf s i=m.measurementSlotCount.val

abbrev measureTables : List Tbl :=
  [.studyGroundTruthReveals,.studyMeasurementResults,.studyMeasurementRevisions]

theorem SeatsKept.idle (h : SeatsKept s s' c) (hi : Idle s i) : Idle s' i := by
  intro o' ho' he _ hactive
  obtain ⟨o,ho,_,he',_,ha⟩ := h.old o' ho'
  exact hi o ho (he'.symm.trans he) trivial (ha hactive)

theorem Idle.of_rows (h : s'.rows .studyActorObligations=s.rows .studyActorObligations)
    (hi : Idle s i) : Idle s' i := by
  intro o ho
  rw [h] at ho
  exact hi o ho

theorem resultsOf_rows (h : s'.rows .studyMeasurementResults=s.rows .studyMeasurementResults) :
    resultsOf s'=resultsOf s := funext (fun _ => Db.count_rows h)

theorem blinded_reads : Db.ReadsOnly (studyTables++measureTables) Blinded := by
  intro s s' h hs
  have he := episodeOf_rows (h .studyEpisodes (by decide))
  have ho := h .studyActorObligations (by decide)
  have hv := h .studyGroundTruthReveals (by decide)
  have hq := h .studyMeasurementResults (by decide)
  have hm (k : StudyMeasurementRevisionId) :
      s'.find .studyMeasurementRevisions k=s.find .studyMeasurementRevisions k := by
    rw [Db.find,h .studyMeasurementRevisions (by decide),← Db.find]
  constructor
  · rw [hv,he]
    exact fun v hv => ⟨(hs.revealed v hv).1.of_rows ho,(hs.revealed v hv).2⟩
  · simp only [hv,hq,he,hm]
    exact hs.measured
  · simp only [he,hm,resultsOf_rows hq]
    exact fun i e hi hc => ⟨(hs.closed i e hi hc).1.of_rows ho,(hs.closed i e hi hc).2⟩

theorem unblinded_not_admits {p : StudyPopulationPhase} {x : StudyEpisodeState}
    (h : x.unblinded=true) : p.admitsFrom x≠true := by
  revert h
  cases p <;> cases x <;> decide

/-- An idle episode that is unblinded stays idle. -/
theorem StudyStep.idle (h : StudyStep s s' c) (he : episodeOf s i=some e)
    (hx : e.lifecycleState.unblinded=true) (hi : Idle s i) : Idle s' i := by
  cases h with
  | kept _ hseats => exact hseats.idle hi
  | opened _ _ _ _ hseats => exact hseats.idle hi
  | moved _ _ _ _ _ _ hseats => exact hseats.idle hi
  | seated k e₁ new he₁ hadmits _ hnew hseats =>
    intro o ho hoi
    rw [hseats] at ho
    rcases List.mem_append.mp ho with ho | ho
    · exact hi o ho hoi
    · cases List.mem_singleton.mp ho
      rw [hnew.1] at hoi
      subst hoi
      rw [he₁] at he
      cases he
      exact absurd hadmits (unblinded_not_admits hx)

theorem StudyStep.unblinded (h : StudyStep s s' c) (he : episodeOf s i=some e)
    (hx : e.lifecycleState.unblinded=true) :
    ∃ e',episodeOf s' i=some e' ∧ e'.lifecycleState.unblinded=true := by
  obtain ⟨x,hx',hle⟩ := h.forward he
  refine ⟨_,hx',?_⟩
  change x.unblinded=true
  revert hx hle
  cases e.lifecycleState <;> cases x <;> decide

theorem StudyStep.blinded (h : StudyStep s s' c)
    (hX : ∀ t ∈ measureTables,s'.rows t=s.rows t) (hs : Blinded s) : Blinded s' := by
  have hv := hX .studyGroundTruthReveals (by decide)
  have hq := hX .studyMeasurementResults (by decide)
  have hm (k : StudyMeasurementRevisionId) :
      s'.find .studyMeasurementRevisions k=s.find .studyMeasurementRevisions k := by
    rw [Db.find,hX .studyMeasurementRevisions (by decide),← Db.find]
  constructor
  case revealed =>
    intro v hmem
    rw [hv] at hmem
    obtain ⟨hidle,e,he,hx⟩ := hs.revealed v hmem
    exact ⟨h.idle he hx hidle,h.unblinded he hx⟩
  case measured =>
    intro q hmem
    rw [hq] at hmem
    obtain ⟨hrevealed,e,m,he,hfind,hle⟩ := hs.measured q hmem
    obtain ⟨x,hx,_⟩ := h.forward he
    exact ⟨hv ▸ hrevealed,_,m,hx,(hm _).trans hfind,hle⟩
  case closed =>
    have hold (k : StudyEpisodeId) (e : StudyEpisodeRow) (he : episodeOf s k=some e)
        (hx : e.lifecycleState=.closed) : Idle s' k ∧
          ∃ m,s'.find .studyMeasurementRevisions e.studyMeasurementRevisionId=some m ∧
            resultsOf s' k=m.measurementSlotCount.val := by
      obtain ⟨hidle,m,hfind,hcount⟩ := hs.closed k e he hx
      exact ⟨h.idle he (by rw [hx]; rfl) hidle,m,(hm _).trans hfind,by rw [resultsOf_rows hq,hcount]⟩
    intro k e' he' hx
    cases h with
    | kept hepisodes _ => exact hold k e' (hepisodes ▸ he') hx
    | opened i e hnone hepisodes _ =>
      rw [hepisodes,Function.update_apply] at he'
      split at he'
      · cases he'
        cases hx
      · exact hold k e' he' hx
    | seated i e new he hadmits hepisodes _ _ _ =>
      rw [hepisodes,Function.update_apply] at he'
      split at he'
      · cases he'
        change new.populationPhase.admittedState=_ at hx
        cases hp : new.populationPhase <;> rw [hp] at hx <;> cases hx
      · exact hold k e' he' hx
    | moved i e y he hmove hepisodes hseats =>
      rw [hepisodes,Function.update_apply] at he'
      split at he'
      · next hk =>
        subst hk
        cases he'
        change y=_ at hx
        cases hmove with
        | replaced => cases hx
        | released => cases hx
        | answered => cases hx
        | closed _ hidle m hfind hall =>
          exact ⟨hseats.idle hidle,m,(hm _).trans hfind,by rw [resultsOf_rows hq,hall]⟩
      · exact hold k e' he' hx

theorem blinded_kept : KeptByStudy measureTables (fun _ _ => True) Blinded where
  reads := blinded_reads
  charge _ _ := trivial
  step _ _ _ _ hX _ hstep hs := hstep.blinded hX hs

theorem revealGroundTruth_blinded (hs : Blinded s) (cmd : CommandRowId) (i : StudyEpisodeId)
    (reveal : StudyGroundTruthReveal) :
    Tx.wp (revealGroundTruth hash cmd i reveal) (fun _ s' => Blinded s') s := by
  simp only [revealGroundTruth,Tx.wp_bind,wp_studyEpisodeRow,wp_protocolRow,Tx.wp_read,Tx.wp_require,
    Tx.wp_store,Tx.wp_pure]
  intro e he hready _ _ _ _
  simp only [Bool.and_eq_true] at hready
  have hidle : Idle s i := fun o ho hoi _ => none_active.mp hready.2 o ho hoi rfl
  have hunblinded : e.lifecycleState.unblinded=true := by simp [StudyEpisodeState.unblinded,hready.1]
  constructor
  case revealed =>
    intro v hv
    rw [episodeOf_rows (Db.rows_append_ne (by decide))]
    rcases Db.mem_append.mp hv with hv | rfl
    · exact ⟨(hs.revealed v hv).1.of_rows (Db.rows_append_ne (by decide)),(hs.revealed v hv).2⟩
    · exact ⟨hidle.of_rows (Db.rows_append_ne (by decide)),_,episodeOf_find he,hunblinded⟩
  case measured =>
    intro q hq
    rw [Db.rows_append_ne (by decide)] at hq
    obtain ⟨⟨v,hv,hvi⟩,e,m,he,hm,hle⟩ := hs.measured q hq
    refine ⟨⟨v,Db.mem_append.mpr (.inl hv),hvi⟩,e,m,?_,?_,hle⟩
    · rw [episodeOf_rows (Db.rows_append_ne (by decide)),he]
    · rw [Db.find_append_ne (by decide),hm]
  case closed =>
    intro k e hk hx
    rw [episodeOf_rows (Db.rows_append_ne (by decide))] at hk
    obtain ⟨hidle,m,hm,hcount⟩ := hs.closed k e hk hx
    refine ⟨hidle.of_rows (Db.rows_append_ne (by decide)),m,?_,?_⟩
    · rw [Db.find_append_ne (by decide),hm]
    · rw [resultsOf_rows (Db.rows_append_ne (by decide)),hcount]

theorem recordMeasurementResult_blinded (hs : Blinded s) (cmd : CommandRowId) (i : StudyEpisodeId)
    (slot : StudyMeasurementSlot) (status : StudyMeasurementStatus) (value : Option I64)
    (digest reason : Option Blake3Digest) :
    Tx.wp (recordMeasurementResult cmd i slot status value digest reason)
      (fun _ s' => Blinded s') s := by
  simp only [recordMeasurementResult,measurementSlotCount,Tx.wp_bind,wp_studyEpisodeRow,Tx.wp_get,
    Tx.wp_read,Tx.wp_require,Tx.wp_insert,Tx.wp_pure]
  intro e he m hm hready j _ _
  simp only [Bool.and_eq_true,decide_eq_true_eq] at hready
  obtain ⟨⟨⟨⟨hafter,_⟩,hrevealed⟩,hslot⟩,_⟩ := hready
  obtain ⟨v,hv,hvi⟩ := List.any_eq_true.mp hrevealed
  constructor
  case revealed =>
    rw [Db.rows_append_ne (by decide),episodeOf_rows (Db.rows_append_ne (by decide))]
    exact fun v hv => ⟨(hs.revealed v hv).1.of_rows (Db.rows_append_ne (by decide)),(hs.revealed v hv).2⟩
  case measured =>
    intro q hq
    rw [Db.rows_append_ne (by decide),episodeOf_rows (Db.rows_append_ne (by decide))]
    simp only [Db.find_append_ne (s := s) (show Tbl.studyMeasurementRevisions≠.studyMeasurementResults by decide)]
    rcases Db.mem_append.mp hq with hq | rfl
    · exact hs.measured q hq
    · exact ⟨⟨v,hv,beq_iff_eq.mp hvi⟩,_,m,episodeOf_find he,hm,hslot⟩
  case closed =>
    intro k e' hk hx
    rw [episodeOf_rows (Db.rows_append_ne (by decide))] at hk
    obtain ⟨hidle,m,hm,hcount⟩ := hs.closed k e' hk hx
    refine ⟨hidle.of_rows (Db.rows_append_ne (by decide)),m,?_,?_⟩
    · rw [Db.find_append_ne (by decide),hm]
    · rw [resultsOf,Db.count_append,if_neg,Nat.add_zero]
      · exact hcount
      · -- an episode that takes results is not closed
        intro hki
        rw [← beq_iff_eq.mp hki,episodeOf_find he] at hk
        cases hk
        have hx : e.lifecycleState=.closed := hx
        rw [hx] at hafter
        cases hafter

theorem admitMeasurementRevision_blinded (hv : s.Valid) (hs : Blinded s) (cmd : CommandRowId)
    (protocol : StudyProtocolRevisionId) (digest : Blake3Digest) (slots : StudyMeasurementSlotCount) :
    Tx.wp (admitMeasurementRevision cmd protocol digest slots) (fun _ s' => Blinded s') s := by
  simp only [admitMeasurementRevision,Tx.wp_bind,wp_protocolRow,Tx.wp_insert,Tx.wp_pure]
  intro _ _ j hj _
  have hkeep {k : StudyMeasurementRevisionId} {m r : StudyMeasurementRevisionRow} {n : Nat}
      (hr : r.studyMeasurementRevisionId=j) (hm : s.find .studyMeasurementRevisions k=some m) :
      (s.append .studyMeasurementRevisions r n).find .studyMeasurementRevisions k=some m := by
    rw [Db.find_append (i := j) (hv.find_fresh rfl hj) (congrArg Relational.Id.val hr),if_neg,hm]
    rintro rfl
    rw [hv.find_fresh rfl hj] at hm
    cases hm
  constructor
  case revealed =>
    rw [Db.rows_append_ne (by decide),episodeOf_rows (Db.rows_append_ne (by decide))]
    exact fun v hv => ⟨(hs.revealed v hv).1.of_rows (Db.rows_append_ne (by decide)),(hs.revealed v hv).2⟩
  case measured =>
    intro q hq
    rw [Db.rows_append_ne (by decide)] at hq
    rw [Db.rows_append_ne (by decide),episodeOf_rows (Db.rows_append_ne (by decide))]
    obtain ⟨hrevealed,e,m,he,hm,hle⟩ := hs.measured q hq
    exact ⟨hrevealed,e,m,he,hkeep rfl hm,hle⟩
  case closed =>
    intro k e hk hx
    rw [episodeOf_rows (Db.rows_append_ne (by decide))] at hk
    obtain ⟨hidle,m,hm,hcount⟩ := hs.closed k e hk hx
    exact ⟨hidle.of_rows (Db.rows_append_ne (by decide)),m,hkeep rfl hm,
      by rw [resultsOf_rows (Db.rows_append_ne (by decide)),hcount]⟩

theorem Reaches.blinded (h : Reaches hash ok s) : Blinded s := by
  refine h.study (X := measureTables) (by decide) blinded_kept ?_
    (fun _ _ _ _ _ _ _ _ _ _ _ _ _ _ => trivial) ?_
  · constructor <;> simp [Store.initial,Db.rows,episodeOf,Db.find]
  · intro s r s₁ cmd _ hst hs₁ hw
    obtain ⟨i,p,k,q,g,b⟩ := r
    cases b
    case studyTransition c =>
      cases c
      case revealGroundTruth =>
        exact studyTransition_wp (revealGroundTruth_blinded hs₁ cmd _ _)
      case recordMeasurementResult =>
        exact studyTransition_wp (recordMeasurementResult_blinded hs₁ cmd _ _ _ _ _ _)
      case admitMeasurementRevision =>
        exact studyTransition_wp (admitMeasurementRevision_blinded hst.valid hs₁ cmd _ _ _)
      all_goals exact absurd hw (of_decide_eq_true rfl)
    all_goals exact absurd hw (of_decide_eq_true rfl)

end Blinding

section Budgets
variable {hash : Bytes → Blake3Digest} {ok : Store → CommandRequest → Prop} {s s' : Store}
  {c : StudyEpisodeId → Nat} {i : StudyEpisodeId} {e : StudyEpisodeRow}

/-- Whether the command ends an actor's work at a charge that its episode cannot bear. -/
def overspends (s : Store) : CommandBody → Bool
  | .studyTransition (.completeActorObligation i charged) =>
    (s.find .studyActorObligations i).any (fun o => o.lifecycleState==.active &&
      charged.val ≤ o.budgetUnits.val && (s.find .studyEpisodes o.studyEpisodeId).any (fun e =>
        (s.find .studyProtocolRevisions e.studyProtocolRevisionId).any (fun p =>
          p.episodeBudgetUnits.val<episodeCharge s o.studyEpisodeId+charged.val)))
  | _ => false

/-- Charges that no episode of `s` exceeds its budget with. -/
def Bearable (s : Store) (c : StudyEpisodeId → Nat) : Prop :=
  ∀ i e p,episodeOf s i=some e → s.find .studyProtocolRevisions e.studyProtocolRevisionId=some p →
    c i ≤ p.episodeBudgetUnits.val

theorem bearable_reads :
    Db.ReadsOnly (studyTables++[.studyProtocolRevisions]) (fun s => Bearable s (episodeCharge s)) := by
  intro s s' h hs i e p he hp
  rw [episodeOf_rows (h .studyEpisodes (by decide))] at he
  rw [Db.find,h .studyProtocolRevisions (by decide)] at hp
  rw [episodeCharge_rows (h .studyActorObligations (by decide))]
  exact hs i e p he hp

/-- An episode that does not exist has not been charged. -/
theorem SeatsKept.uncharged (hv : s.Valid) (h : SeatsKept s s' c) (hnone : episodeOf s i=none) :
    c i=0 := by
  rw [← h.charges]
  refine Db.sum_zero (fun o' ho' => if_neg (fun hi => ?_))
  obtain ⟨o,ho,_,he,_⟩ := h.old o' ho'
  obtain ⟨e,hfind⟩ := hv.find_target ho (u := .studyEpisodes) (k := o.studyEpisodeId) rfl
    (List.mem_cons_self ..)
  rw [← he,hi] at hfind
  rw [episodeOf_find hfind] at hnone
  cases hnone

theorem StudyStep.bearable (hv : s.Valid)
    (hp : s'.rows .studyProtocolRevisions=s.rows .studyProtocolRevisions)
    (h : StudyStep s s' c) (hs : Bearable s c) : Bearable s' (episodeCharge s') := by
  have hfind (k : StudyProtocolRevisionId) :
      s'.find .studyProtocolRevisions k=s.find .studyProtocolRevisions k := by rw [Db.find,hp,← Db.find]
  intro k e' p he' hk
  rw [hfind] at hk
  cases h with
  | kept hepisodes hseats =>
    rw [hseats.charges]
    exact hs k e' p (hepisodes ▸ he') hk
  | opened i e hnone hepisodes hseats =>
    rw [hseats.charges]
    rw [hepisodes,Function.update_apply] at he'
    split at he'
    · next hi =>
      rw [hi,hseats.uncharged hv hnone]
      exact Nat.zero_le _
    · exact hs k e' p he' hk
  | seated i e new he _ hepisodes _ _ hcharge =>
    rw [hcharge]
    rw [hepisodes,Function.update_apply] at he'
    split at he'
    · next hi =>
      cases he'
      exact hs k e p (hi ▸ he) hk
    · exact hs k e' p he' hk
  | moved i e y he _ hepisodes hseats =>
    rw [hseats.charges]
    rw [hepisodes,Function.update_apply] at he'
    split at he'
    · next hi =>
      cases he'
      exact hs k e p (hi ▸ he) hk
    · exact hs k e' p he' hk

theorem bearable_kept : KeptByStudy [.studyProtocolRevisions] Bearable
    (fun s => Bearable s (episodeCharge s)) where
  reads := bearable_reads
  charge _ hs := hs
  step _ _ _ hv hX hC hstep _ := hstep.bearable hv (hX _ (List.mem_singleton.mpr rfl)) hC

theorem admitProtocolRevision_bearable (hv : s.Valid) (hs : Bearable s (episodeCharge s))
    (cmd : CommandRowId) (application : ApplicationRevisionId)
    (protocol policy prompt tool evidence commitment correction topology : Blake3Digest)
    (budget : StudyBudgetUnits) :
    Tx.wp (admitProtocolRevision hash cmd application protocol policy prompt tool evidence commitment
      correction topology budget) (fun _ s' => Bearable s' (episodeCharge s')) s := by
  simp only [admitProtocolRevision,Tx.wp_bind,Tx.wp_get,Tx.wp_require,Tx.wp_insert,Tx.wp_pure]
  intro _ _ _ j hj _ i e p he hp
  rw [episodeOf_rows (Db.rows_append_ne (by decide))] at he
  rw [episodeCharge_rows (Db.rows_append_ne (by decide))]
  obtain ⟨e₀,he₀,rfl⟩ := Option.map_eq_some_iff.mp he
  have hlt := hv.target_lt (Db.find_mem he₀) (u := .studyProtocolRevisions)
    (k := e₀.studyProtocolRevisionId.val) rfl (List.mem_cons_self ..)
  rw [Db.find_append (hv.find_fresh rfl hj) rfl,if_neg] at hp
  · exact hs i _ p he hp
  · intro heq
    have heq : e₀.studyProtocolRevisionId=j := heq
    rw [heq,hj] at hlt
    omega

/-- The charged total stays within the budget of the protocol, if no actor ends its work at a
charge that exceeds it. -/
theorem Reaches.bearable (h : Reaches hash (fun s r => overspends s r.body=false) s) :
    Bearable s (episodeCharge s) := by
  refine h.study (X := [.studyProtocolRevisions]) (by decide) bearable_kept ?_ ?_ ?_
  · intro i e p he
    simp [Store.initial,Db.rows,episodeOf,Db.find] at he
  · intro s r s₁ i u o _ hok hst hs₁ hb ho hactive hle k e p he hp
    rw [Function.update_apply]
    split
    · next hk =>
      subst hk
      obtain ⟨e₀,he₀,rfl⟩ := Option.map_eq_some_iff.mp he
      have hsame {t : Tbl} (ht : t ∉ ledger) (k : Relational.Id t) : s.find t k=s₁.find t k := by
        rw [Db.find,Db.find,Db.rows,Db.rows,hst.same t ht]
      have hcharge : episodeCharge s=episodeCharge s₁ :=
        episodeCharge_rows (by rw [Db.rows,Db.rows,hst.same _ (by decide)])
      by_contra hgt
      rw [hb] at hok
      have hover : overspends s (.studyTransition (.completeActorObligation i u))=true := by
        simp only [overspends,hsame (t := .studyActorObligations) (by decide),ho,Option.any_some,
          hsame (t := .studyEpisodes) (by decide),he₀,hcharge,
          hsame (t := .studyProtocolRevisions) (by decide)]
        have hp : s₁.find .studyProtocolRevisions e₀.studyProtocolRevisionId=some p := hp
        simp only [hp,Option.any_some,Bool.and_eq_true,beq_iff_eq,decide_eq_true_eq]
        exact ⟨⟨hactive,hle⟩,Nat.lt_of_not_le hgt⟩
      rw [hover] at hok
      cases hok
    · exact hs₁ k e p he hp
  · rintro s r s₁ cmd _ hst hs₁ ⟨t,ht,hw⟩
    obtain ⟨i,p,k,q,g,b⟩ := r
    cases List.mem_singleton.mp ht
    cases b
    case studyTransition c =>
      cases c
      case admitProtocolRevision =>
        exact studyTransition_wp (admitProtocolRevision_bearable hst.valid hs₁ cmd _ _ _ _ _ _ _ _ _ _)
      all_goals exact absurd hw (of_decide_eq_true rfl)
    all_goals exact absurd hw (of_decide_eq_true rfl)

end Budgets

section Closing
variable {hash : Bytes → Blake3Digest} {ok : Store → CommandRequest → Prop} {s s' : Store}
  {i : StudyEpisodeId} {e : StudyEpisodeRow}

/-- The slots of an episode that have a result. -/
def slotsOf (s : Store) (i : StudyEpisodeId) : List Nat :=
  ((s.rows .studyMeasurementResults).filter (fun q => q.studyEpisodeId==i)).map
    (fun q => q.measurementSlot.val)

theorem mem_slotsOf {n : Nat} : n ∈ slotsOf s i ↔ ∃ q ∈ s.rows .studyMeasurementResults,
    q.studyEpisodeId=i ∧ q.measurementSlot.val=n := by
  simp [slotsOf,and_assoc]

theorem slotsOf_length : (slotsOf s i).length=resultsOf s i := by
  rw [slotsOf,List.length_map,resultsOf,Db.count,List.countP_eq_length_filter]

theorem slotsOf_nodup (hv : s.Valid) : (slotsOf s i).Nodup := by
  refine List.pairwise_map.mpr (List.Pairwise.imp_of_mem ?_ ((hv.unique .studyMeasurementResults).filter _))
  intro a b ha hb hab heq
  have ha := beq_iff_eq.mp (List.mem_filter.mp ha).2
  have hb := beq_iff_eq.mp (List.mem_filter.mp hb).2
  have hslot : a.measurementSlot=b.measurementSlot := Ranged.ext heq
  change (a.studyEpisodeId==b.studyEpisodeId && a.measurementSlot==b.measurementSlot)=false at hab
  simp [ha,hb,hslot] at hab

/-- Every slot of an episode has its result exactly if there are as many results as slots. -/
theorem Blinded.slots_iff (hv : s.Valid) (hb : Blinded s) (he : episodeOf s i=some e)
    {m : StudyMeasurementRevisionRow}
    (hm : s.find .studyMeasurementRevisions e.studyMeasurementRevisionId=some m) :
    (∀ n,1≤n → n ≤ m.measurementSlotCount.val → n ∈ slotsOf s i) ↔
      resultsOf s i=m.measurementSlotCount.val := by
  rw [full_iff (slotsOf_nodup hv),slotsOf_length]
  intro n hn
  obtain ⟨q,hq,rfl,rfl⟩ := mem_slotsOf.mp hn
  obtain ⟨_,e',m',he',hm',hle⟩ := hb.measured q hq
  rw [he] at he'
  cases he'
  rw [hm] at hm'
  cases hm'
  exact ⟨q.measurementSlot.valid.1,hle⟩

/-- The work of an episode is done: every obligation has ended and every slot is recorded. -/
structure Complete (s : Store) (i : StudyEpisodeId) : Prop where
  recorded : ∃ e m,s.find .studyEpisodes i=some e ∧ e.lifecycleState.afterCorrection=true ∧
    s.find .studyMeasurementRevisions e.studyMeasurementRevisionId=some m ∧
    ∀ n,1≤n → n ≤ m.measurementSlotCount.val → n ∈ slotsOf s i
  terminal : Idle s i

theorem chargedUnits_eq (hp : ∃ o ∈ s.rows .studyActorObligations,o.studyEpisodeId=i)
    (hle : episodeCharge s i ≤ i64Max) : ∃ u,chargedUnits s i=some u ∧ u.val=episodeCharge s i := by
  have hsum : (((s.rows .studyActorObligations).filter (fun r => r.studyEpisodeId==i)).map
      (·.chargedBudgetUnits.val)).sum=episodeCharge s i := by
    rw [episodeCharge,Db.sum]
    induction s.rows .studyActorObligations with
    | nil => rfl
    | cons o l ih =>
      by_cases ho : o.studyEpisodeId=i
      · simp [ho,ih]
      · simp [ho,ih]
  rw [chargedUnits,if_neg]
  · rw [hsum]
    exact ⟨⟨_,Nat.zero_le _,hle⟩,Ranged.new_eq_some.mpr rfl,rfl⟩
  · obtain ⟨o,ho,hoi⟩ := hp
    intro hnil
    have hmem : o ∈ (s.rows .studyActorObligations).filter (fun r => r.studyEpisodeId==i) :=
      List.mem_filter.mpr ⟨ho,beq_iff_eq.mpr hoi⟩
    rw [List.map_eq_nil_iff.mp hnil] at hmem
    cases hmem

theorem total_studyEpisodeRow {W : List Tbl} {Q : StudyEpisodeRow → Store → Prop} :
    Tx.total (studyEpisodeRow i : Transition W _) Q s ↔
      ∃ r,s.find .studyEpisodes i=some r ∧ Q r s := Tx.total_get ..

theorem total_protocolRow {W : List Tbl} {k : StudyProtocolRevisionId}
    {Q : StudyProtocolRevisionRow → Store → Prop} : Tx.total (protocolRow k : Transition W _) Q s ↔
      ∃ r,s.find .studyProtocolRevisions k=some r ∧ Q r s := Tx.total_get ..

theorem closeEpisode_total (hv : s.Valid) (hs : Served s) (hb : Blinded s)
    (hbear : Bearable s (episodeCharge s)) (hc : Complete s i) (cmd : CommandRowId) :
    Tx.total (closeEpisode cmd i) (fun _ _ => True) s := by
  obtain ⟨e,m,he,hafter,hm,hall⟩ := hc.recorded
  have hresults := (hb.slots_iff hv (episodeOf_find he) hm).mp hall
  obtain ⟨p,hp⟩ := hv.find_target (Db.find_mem he) (u := .studyProtocolRevisions)
    (k := e.studyProtocolRevisionId) rfl (List.mem_cons_self ..)
  have hle := hbear i _ p (episodeOf_find he) hp
  have hpopulated := hs.populated i _ (episodeOf_find he) (by
    intro hx
    have hx : e.lifecycleState=.admitted := hx
    rw [hx] at hafter
    cases hafter)
  obtain ⟨u,hu,hval⟩ := chargedUnits_eq hpopulated (hle.trans p.episodeBudgetUnits.valid.2)
  simp only [closeEpisode,measurementSlotCount,total_studyEpisodeRow,total_protocolRow,
    setEpisodeState,Tx.total_bind,Tx.total_get,Tx.total_read,Tx.total_require,Tx.total_the,
    Tx.total_update,Tx.total_pure]
  have hforums : s.admitsModified .studyEpisodeForums (fun r => r.studyEpisodeId==i) (fun r => some
      {r with lifecycleState := .closed,lastTransitionCommandId := cmd})=true :=
    hv.admits_update (fun a b => BEq.comm (a := a.studyEpisodeId) (b := b.studyEpisodeId))
      (fun _ _ => rfl) (fun q hq _ => hv.checked .studyEpisodeForums q hq)
      (fun q hq _ => hv.linked .studyEpisodeForums q hq)
  have hv' := Db.modify_valid (by rintro q _ ⟨⟩; rfl) hv hforums
  refine ⟨e,he,hafter,none_active.mpr (fun o ho hoi _ => hc.terminal o ho hoi trivial),m,hm,
    beq_iff_eq.mpr hresults,u,hu,p,hp,?_,hforums,?_,trivial⟩
  · rw [hval]
    exact decide_eq_true hle
  · exact hv'.admits_update (fun _ _ => rfl) (fun _ _ => rfl)
      (fun q hq _ => hv'.checked .studyEpisodes q hq) (fun q hq _ => hv'.linked .studyEpisodes q hq)

/-- A request that is new, can be numbered and is authorized. -/
structure Issued (s : Store) (r : CommandRequest) : Prop where
  fresh : storedCommand s r.commandId=none
  room : (s .commands).next<bigintLimit
  authorized : authorized s r=true

abbrev closingTables : List Tbl := studyTables++[.studyMeasurementResults,.studyMeasurementRevisions]

theorem complete_reads : Db.ReadsOnly closingTables (fun s => Complete s i) := by
  rintro s s' h ⟨⟨e,m,he,hafter,hm,hall⟩,hidle⟩
  refine ⟨⟨e,m,?_,hafter,?_,?_⟩,hidle.of_rows (h .studyActorObligations (by decide))⟩
  · rw [Db.find,h .studyEpisodes (by decide)]
    exact he
  · rw [Db.find,h .studyMeasurementRevisions (by decide)]
    exact hm
  · rw [slotsOf,h .studyMeasurementResults (by decide)]
    exact hall

def Closed (s : Store) (i : StudyEpisodeId) : Prop :=
  ∃ e,s.find .studyEpisodes i=some e ∧ e.lifecycleState=.closed

theorem closed_reads : Db.ReadsOnly closingTables (fun s => Closed s i) := by
  rintro s s' h ⟨e,he,hx⟩
  refine ⟨e,?_,hx⟩
  rw [Db.find,h .studyEpisodes (by decide)]
  exact he

/-- Closing an episode closes it and leaves the others as they are. -/
theorem closeEpisode_closes (cmd : CommandRowId) (i : StudyEpisodeId) :
    Tx.wp (closeEpisode cmd i) (fun _ s' => Closed s' i ∧ ∀ j,j≠i →
      (Complete s j → Complete s' j) ∧ (Closed s j → Closed s' j)) s := by
  simp only [closeEpisode,measurementSlotCount,setEpisodeState,Tx.wp_bind,wp_studyEpisodeRow,
    wp_protocolRow,Tx.wp_read,Tx.wp_get,Tx.wp_the,Tx.wp_require,Tx.wp_update,Tx.wp_pure]
  intro e he _ _ _ _ _ _ _ _ _ _ _ _
  have hfind (s₁ : Store) (j : StudyEpisodeId) := Db.find_update (s := s₁) (t := .studyEpisodes)
    (k := i) (j := j) (p := fun r => r.studyEpisodeId==i)
    (g := fun r => {r with lifecycleState := .closed,lastTransitionCommandId := cmd})
    (fun q => by
      rw [beq_iff_eq]
      exact ⟨fun h => congrArg Relational.Id.val h,fun h => Relational.Id.ext h⟩) (fun _ => rfl)
  refine ⟨⟨{e with lifecycleState := .closed,lastTransitionCommandId := cmd},?_,rfl⟩,fun j hj => ?_⟩
  · rw [hfind,if_pos rfl,Db.find_modify_ne (by decide),he,Option.map_some]
  · have hother (s₁ : Store) (h : s₁.find .studyEpisodes j=s.find .studyEpisodes j) := (hfind s₁ j).trans
      ((if_neg hj).trans h)
    constructor
    · rintro ⟨⟨e',m,he',hafter,hm,hall⟩,hidle⟩
      refine ⟨⟨e',m,?_,hafter,?_,?_⟩,hidle.of_rows (by simp)⟩
      · rw [hother _ (Db.find_modify_ne (by decide)),he']
      · rw [Db.find_modify_ne (by decide),Db.find_modify_ne (by decide),hm]
      · rw [slotsOf,Db.rows_modify_ne (by decide),Db.rows_modify_ne (by decide)]
        exact hall
    · rintro ⟨e',he',hx⟩
      exact ⟨e',by rw [hother _ (Db.find_modify_ne (by decide)),he'],hx⟩

/-- What episodes are charged, and that work that is done can be closed. -/
structure Solvent (hash : Bytes → Blake3Digest) (s : Store) : Prop where
  within : ∀ e ∈ s.rows .studyEpisodes,∀ p,
    s.find .studyProtocolRevisions e.studyProtocolRevisionId=some p →
    episodeCharge s e.studyEpisodeId≤p.episodeBudgetUnits.val
  closes : ∀ i,Complete s i → ∀ r,r.body=.studyTransition (.closeEpisode i) → Issued s r →
    accepts hash s r ∧ Closed (execute hash r s).2 i
  pairs : ∀ q ∈ s.rows .studyPairs,Complete s q.retainedEpisodeId → Complete s q.resetEpisodeId →
    ∀ r r',r.body=.studyTransition (.closeEpisode q.retainedEpisodeId) → Issued s r →
      r'.body=.studyTransition (.closeEpisode q.resetEpisodeId) → Issued (execute hash r s).2 r' →
      accepts hash s r ∧ accepts hash (execute hash r s).2 r' ∧
        Closed (runCommands hash [r,r'] s) q.retainedEpisodeId ∧
        Closed (runCommands hash [r,r'] s) q.resetEpisodeId

variable {r : CommandRequest}

theorem close_closes (hv : s.Valid) (ha : accepts hash s r)
    (hb : r.body=.studyTransition (.closeEpisode i)) :
    Closed (execute hash r s).2 i ∧ ∀ j,j≠i →
      (Complete s j → Complete (execute hash r s).2 j) ∧
      (Closed s j → Closed (execute hash r s).2 j) := by
  refine accepts_wp (D := closingTables) (P := fun s' => Closed s' i ∧ ∀ j,j≠i →
      (Complete s j → Complete s' j) ∧ (Closed s j → Closed s' j)) (by decide) ?_ hv ha ?_
  · rintro s₁ s₂ h ⟨hclosed,hothers⟩
    exact ⟨closed_reads s₁ s₂ h hclosed,fun j hj =>
      ⟨fun hc => complete_reads s₁ s₂ h ((hothers j hj).1 hc),
       fun hc => closed_reads s₁ s₂ h ((hothers j hj).2 hc)⟩⟩
  · intro s₁ cmd hst
    have hsame : ∀ t ∈ closingTables,s₁.rows t=s.rows t := by
      intro t ht
      have hl : t ∉ ledger := (show ∀ t ∈ closingTables,t ∉ ledger by decide) t ht
      rw [Db.rows,hst.same t hl,Db.rows]
    obtain ⟨k,p,n,q,g,b⟩ := r
    cases hb
    refine studyTransition_wp (Tx.wp_mono (closeEpisode_closes cmd i) ?_)
    rintro _ s' ⟨hclosed,hothers⟩
    exact ⟨hclosed,fun j hj => ⟨fun hc => (hothers j hj).1 (complete_reads s s₁ hsame hc),
      fun hc => (hothers j hj).2 (closed_reads s s₁ hsame hc)⟩⟩

theorem close_accepted (h : Reaches hash ok s) (hbear : Bearable s (episodeCharge s))
    (hc : Complete s i) (hb : r.body=.studyTransition (.closeEpisode i)) (hr : Issued s r) :
    accepts hash s r := by
  obtain ⟨k,p,n,q,g,b⟩ := r
  cases hb
  obtain ⟨s₁,cmd,hsame,hv,hiff⟩ := accepts_body h hr.fresh rfl hr.room hr.authorized rfl
  have hrows {D : List Tbl} (hd : ∀ t ∈ D,t ∉ ledger) : ∀ t ∈ D,s₁.rows t=s.rows t :=
    fun t ht => by rw [Db.rows,hsame t (hd t ht),Db.rows]
  refine hiff.mpr (Tx.total_bind .. |>.mpr (Tx.total_mono (closeEpisode_total hv
    (served_reads s s₁ (hrows (by decide)) h.served)
    (blinded_reads s s₁ (hrows (by decide)) h.blinded)
    (bearable_reads s s₁ (hrows (by decide)) hbear)
    (complete_reads s s₁ (hrows (by decide)) hc) cmd) ?_))
  exact fun _ _ _ => (Tx.total_pure ..).mpr trivial

/-- The only actor of an episode spends twice what the protocol gives the episode. -/
def overspentEpisode : List CommandRequest :=
  (founding .deterministicPiHostFixtureV1).take 5++studyOpened++
  [obligationRequest 47 (nth 1) .source oneSlot (micros 20),
   studyRequest 48 (.completeActorObligation (nth 1) (micros 20))]

end Closing
end Society.Kernel
