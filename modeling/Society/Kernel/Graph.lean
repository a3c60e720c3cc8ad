import Society.Kernel.Coordination

namespace Society.Kernel
open Society.Relational

/-! Graph objects, causal episodes, adversarial reviews and postmortems. -/

section Rows
variable {W : List Tbl}

/-- The joined row of a revision; `projectId` comes from its object. -/
structure GraphRevisionView where
  projectId : ProjectId
  objectKind : GraphObjectKind
  lifecycleState : GraphRevisionState

def graphRevisionRow (i : GraphRevisionId) : Transition W GraphRevisionView := do
  let revision ← Tx.get Tbl.objectRevisions i Rejection.subjectNotFound
  let object ← Tx.get Tbl.objects revision.graphObjectId Rejection.subjectNotFound
  let project ← Tx.the object.projectId .subjectNotFound
  pure {projectId := project,objectKind := object.objectKind,
        lifecycleState := revision.lifecycleState}

def episodeRow (i : CausalEpisodeId) : Transition W EpisodeRow :=
  Tx.get Tbl.episodes i Rejection.subjectNotFound

@[simp] theorem wp_episodeRow {i : CausalEpisodeId} {s : Store} {Q : EpisodeRow → Store → Prop} :
    Tx.wp (episodeRow i : Transition W _) Q s ↔ ∀ r,s.find .episodes i=some r → Q r s :=
  Tx.wp_get ..

def reviewRow (i : AdversarialReviewId) : Transition W AdversarialReviewRow :=
  Tx.get Tbl.adversarialReviews i Rejection.subjectNotFound

@[simp] theorem wp_reviewRow {i : AdversarialReviewId} {s : Store}
    {Q : AdversarialReviewRow → Store → Prop} :
    Tx.wp (reviewRow i : Transition W _) Q s ↔ ∀ r,s.find .adversarialReviews i=some r → Q r s :=
  Tx.wp_get ..

def reviewChallengeRow (i : ReviewChallengeId) :
    Transition W (ReviewChallengeRow × AdversarialReviewRow) := do
  let challenge ← Tx.get Tbl.reviewChallenges i Rejection.subjectNotFound
  let review ← reviewRow challenge.adversarialReviewId
  pure (challenge,review)

def postmortemRow (i : PostmortemId) : Transition W PostmortemRow :=
  Tx.get Tbl.postmortems i Rejection.subjectNotFound

@[simp] theorem wp_postmortemRow {i : PostmortemId} {s : Store}
    {Q : PostmortemRow → Store → Prop} :
    Tx.wp (postmortemRow i : Transition W _) Q s ↔ ∀ r,s.find .postmortems i=some r → Q r s :=
  Tx.wp_get ..

end Rows

def maxOrdinal {α : Type} (f : α → Ordinal) (rs : List α) : Nat :=
  (rs.map (fun r => (f r).val)).foldl max 0

def addGraphObjectRevision (cmd : CommandRowId) (g : ExpectedGeneration) (c : OperatingCycleId)
    (project : ProjectId) (episode : Option CausalEpisodeId) (existing : Option GraphObjectId)
    (body : GraphRevisionBody) :
    Transition [.objects,.objectRevisions,.observationRevisions,.hypothesisRevisions,
      .coordinationCommandProvenance] EventBody := do
  let cycle ← coordinationCycle g c
  projectIsActive project
  Tx.each (fun e => do
    let row ← episodeRow e
    Tx.require (row.projectId==project) .subjectNotFound) episode.toList
  let object ← (match existing with
    | some i => do
      let row ← Tx.get Tbl.objects i Rejection.subjectNotFound
      Tx.require (row.projectId==some project && row.objectKind==body.objectKind)
        .subjectNotFound
      pure i
    | none => Tx.insert Tbl.objects (fun i =>
        {graphObjectId := i,objectKind := body.objectKind,projectId := some project,
         causalEpisodeId := episode,foundingMissionId := cycle.foundingMissionId,
         createdByCommandId := cmd}) Rejection.invalidLifecycleTransition)
  let last ← Tx.read (fun s => maxOrdinal (·.revisionOrdinal)
    ((s.rows .objectRevisions).filter (fun r => r.graphObjectId==object)))
  let ordinal ← Tx.the (Ranged.new 1 i64Max (last+1)) .invalidLifecycleTransition
  let revision ← Tx.insert Tbl.objectRevisions (fun i =>
    {graphRevisionId := i,graphObjectId := object,revisionOrdinal := ordinal,
     lifecycleState := .draft,createdByCommandId := cmd,committedByCommandId := none})
    .invalidLifecycleTransition
  match body with
  | .observation text =>
    Tx.store Tbl.observationRevisions
      {graphRevisionId := revision,observationText := text.stored}
      Rejection.invalidLifecycleTransition
  | .hypothesis text =>
    Tx.store Tbl.hypothesisRevisions
      {graphRevisionId := revision,hypothesisText := text.stored}
      Rejection.invalidLifecycleTransition
  recordCoordinationProvenance cmd cycle c (some project)
  pure (.graphObjectRevisionAdded object revision)

def commitGraphRevision (cmd : CommandRowId) (g : ExpectedGeneration) (c : OperatingCycleId)
    (i : GraphRevisionId) :
    Transition [.objectRevisions,.coordinationCommandProvenance] EventBody := do
  let cycle ← coordinationCycle g c
  let revision ← graphRevisionRow i
  projectIsActive revision.projectId
  Tx.require (revision.lifecycleState==.draft) .invalidLifecycleTransition
  let _ ← Tx.update Tbl.objectRevisions (fun r => r.graphRevisionId==i)
    (fun r => {r with lifecycleState := .committed,committedByCommandId := some cmd})
    .subjectNotFound
  recordCoordinationProvenance cmd cycle c (some revision.projectId)
  pure (.graphRevisionCommitted i)

def addGraphEdge (cmd : CommandRowId) (g : ExpectedGeneration) (c : OperatingCycleId)
    (project : ProjectId) (source target : GraphRevisionId) (kind : GraphEdgeKind) :
    Transition [.edges,.coordinationCommandProvenance] EventBody := do
  let cycle ← coordinationCycle g c
  projectIsActive project
  let a ← graphRevisionRow source
  let b ← graphRevisionRow target
  Tx.require (a.projectId==project && b.projectId==project) .subjectNotFound
  Tx.require (a.lifecycleState==.committed && b.lifecycleState==.committed)
    .graphRevisionNotCommitted
  Tx.require (kind.allows a.objectKind b.objectKind) .illegalGraphEdgeEndpoint
  let i ← Tx.insert Tbl.edges (fun i =>
    {graphEdgeId := i,projectId := project,fromGraphRevisionId := source,
     toGraphRevisionId := target,edgeKind := kind,createdByCommandId := cmd})
    .illegalGraphEdgeEndpoint
  recordCoordinationProvenance cmd cycle c (some project)
  pure (.graphEdgeAdded i)

def episodeTransitionAllowed : EpisodeState → EpisodeState → Bool
  | .framed,.admitted | .framed,.abandoned => true
  | .admitted,.investigating | .admitted,.abandoned => true
  | .investigating,.prototypeDeliberating | .investigating,.closedNoAction
  | .investigating,.abandoned => true
  | .prototypeDeliberating,.prototyping | .prototypeDeliberating,.closedNoAction
  | .prototypeDeliberating,.abandoned => true
  | .prototyping,.candidateValidating | .prototyping,.reverted | .prototyping,.abandoned => true
  | .candidateValidating,.deliveryDeliberating | .candidateValidating,.reverted
  | .candidateValidating,.abandoned => true
  | .deliveryDeliberating,.deliveryAuthorized | .deliveryDeliberating,.closedNoDelivery
  | .deliveryDeliberating,.abandoned => true
  | .deliveryAuthorized,.materializing | .deliveryAuthorized,.abandoned => true
  | .materializing,.observing | .materializing,.abandoned => true
  | .observing,.learning | .observing,.closed | .observing,.abandoned => true
  | .learning,.closed | .learning,.abandoned => true
  | .reopened,.investigating | .reopened,.abandoned => true
  | _,_ => false

def createEpisode (cmd : CommandRowId) (g : ExpectedGeneration) (c : OperatingCycleId)
    (project : ProjectId) :
    Transition [.episodes,.coordinationCommandProvenance] EventBody := do
  let cycle ← coordinationCycle g c
  projectIsActive project
  let i ← Tx.insert Tbl.episodes (fun i =>
    {causalEpisodeId := i,projectId := project,foundingMissionId := cycle.foundingMissionId,
     lifecycleState := .framed,createdByCommandId := cmd,lastTransitionCommandId := cmd})
    .invalidLifecycleTransition
  recordCoordinationProvenance cmd cycle c (some project)
  pure (.episodeCreated i project)

def moveEpisode (cmd : CommandRowId) (g : ExpectedGeneration) (c : OperatingCycleId)
    (i : CausalEpisodeId) (target : EpisodeState) (allowed : EpisodeState → Bool) :
    Transition [.episodes,.coordinationCommandProvenance] EventBody := do
  let cycle ← coordinationCycle g c
  let episode ← episodeRow i
  Tx.require (allowed episode.lifecycleState) .invalidLifecycleTransition
  let _ ← Tx.update Tbl.episodes (fun r => r.causalEpisodeId==i)
    (fun r => {r with lifecycleState := target,lastTransitionCommandId := cmd})
    .subjectNotFound
  recordCoordinationProvenance cmd cycle c (some episode.projectId)
  pure (.episodeStateChanged i target)

def transitionEpisode (cmd : CommandRowId) (g : ExpectedGeneration) (c : OperatingCycleId)
    (i : CausalEpisodeId) (target : EpisodeState) :
    Transition [.episodes,.coordinationCommandProvenance] EventBody :=
  moveEpisode cmd g c i target (fun s => episodeTransitionAllowed s target)

def reopenEpisode (cmd : CommandRowId) (g : ExpectedGeneration) (c : OperatingCycleId)
    (i : CausalEpisodeId) : Transition [.episodes,.coordinationCommandProvenance] EventBody :=
  moveEpisode cmd g c i .reopened (fun s =>
    s==.closed || s==.closedNoAction || s==.closedNoDelivery || s==.reverted)

def requestAdversarialReview (cmd : CommandRowId) (g : ExpectedGeneration)
    (c : OperatingCycleId) (project : ProjectId) (target : GraphRevisionId) :
    Transition [.adversarialReviews,.coordinationCommandProvenance] EventBody := do
  let cycle ← coordinationCycle g c
  projectIsActive project
  let revision ← graphRevisionRow target
  Tx.require (revision.projectId==project) .subjectNotFound
  Tx.require (revision.lifecycleState==.committed) .graphRevisionNotCommitted
  let i ← Tx.insert Tbl.adversarialReviews (fun i =>
    {adversarialReviewId := i,projectId := project,targetGraphRevisionId := target,
     lifecycleState := .requested,requestedByCommandId := cmd,
     assignedReviewerPrincipalId := none,resolvedByCommandId := none,
     assignedReviewerActorInstanceId := none,reviewerActorAttemptId := none})
    .invalidLifecycleTransition
  recordCoordinationProvenance cmd cycle c (some project)
  pure (.adversarialReviewRequested i)

def assignAdversarialReviewer (cmd : CommandRowId) (g : ExpectedGeneration)
    (c : OperatingCycleId) (i : AdversarialReviewId) (reviewer : PrincipalId)
    (instanceId : ActorInstanceId) (attemptId : ActorAttemptId) :
    Transition [.adversarialReviews,.coordinationCommandProvenance] EventBody := do
  let cycle ← coordinationCycle g c
  let review ← reviewRow i
  Tx.require (review.lifecycleState==.requested) .invalidLifecycleTransition
  let occupancy ← Tx.get Tbl.officeOccupancies cycle.officeOccupancyId Rejection.subjectNotFound
  Tx.require (reviewer≠occupancy.principalId) .reviewAssignmentNotIndependent
  let actor ← actorInstanceRow instanceId
  Tx.require (actor.principalId==reviewer && actor.operatingCycleId==c &&
    actor.lifecycleState==.active) .reviewAssignmentEvidenceMissing
  let attempt ← actorAttemptRow attemptId
  let ticket ← ticketRow attempt.ticketId
  let work ← workItemRow attempt.workItemId
  let context ← Tx.get Tbl.contextPacks work.contextPackId
    Rejection.reviewAssignmentEvidenceMissing
  Tx.require (attempt.operatingCycleId==c && attempt.actorInstanceId==instanceId &&
    ticket.projectId==review.projectId && work.workKind==.independentReview &&
    work.adversarialReviewId==some i && context.purpose==.independentReview &&
    (attempt.lifecycleState==.succeeded || attempt.lifecycleState==.validated))
    .reviewAssignmentEvidenceMissing
  let principal ← Tx.get Tbl.principals reviewer Rejection.subjectNotFound
  Tx.require (principal.principalKind==.actor && principal.active) .subjectNotFound
  let _ ← Tx.update Tbl.adversarialReviews (fun r => r.adversarialReviewId==i)
    (fun r => {r with lifecycleState := .assigned,assignedReviewerPrincipalId := some reviewer,
                      assignedReviewerActorInstanceId := some instanceId,
                      reviewerActorAttemptId := some attemptId}) .subjectNotFound
  recordCoordinationProvenance cmd cycle c (some review.projectId)
  pure (.adversarialReviewerAssigned i reviewer instanceId attemptId)

def AdversarialReviewState.acceptsChallenge : AdversarialReviewState → Bool
  | .assigned | .active | .findingsSubmitted | .responsesDue => true
  | _ => false

def submitReviewChallenge (cmd : CommandRowId) (author : PrincipalId) (g : ExpectedGeneration)
    (c : OperatingCycleId) (i : AdversarialReviewId) (target : GraphRevisionId)
    (severity : ReviewChallengeSeverity) (hypothesis : ReviewFailureHypothesis) :
    Transition [.reviewChallenges,.adversarialReviews,.coordinationCommandProvenance]
      EventBody := do
  let cycle ← coordinationCycle g c
  let review ← reviewRow i
  Tx.require (review.assignedReviewerPrincipalId==some author) .capabilityNotGranted
  let assigned ← Tx.the review.assignedReviewerActorInstanceId .reviewAssignmentEvidenceMissing
  let actor ← actorInstanceRow assigned
  Tx.require (actor.principalId==author && actor.operatingCycleId==c &&
    actor.lifecycleState==.active) .reviewAssignmentEvidenceMissing
  Tx.require (review.targetGraphRevisionId==target && review.lifecycleState.acceptsChallenge)
    .invalidLifecycleTransition
  let revision ← graphRevisionRow target
  Tx.require (revision.projectId==review.projectId) .subjectNotFound
  Tx.require (revision.lifecycleState==.committed) .graphRevisionNotCommitted
  let challenge ← Tx.insert Tbl.reviewChallenges (fun j =>
    {reviewChallengeId := j,adversarialReviewId := i,targetGraphRevisionId := target,
     authorPrincipalId := author,severity := severity,failureHypothesis := hypothesis.stored,
     responseState := .pending,submittedByCommandId := cmd}) .invalidLifecycleTransition
  let _ ← Tx.update Tbl.adversarialReviews (fun r => r.adversarialReviewId==i)
    (fun r => {r with lifecycleState := .responsesDue}) .subjectNotFound
  recordCoordinationProvenance cmd cycle c (some review.projectId)
  pure (.reviewChallengeSubmitted challenge author)

def respondToReviewChallenge (cmd : CommandRowId) (g : ExpectedGeneration)
    (c : OperatingCycleId) (i : ReviewChallengeId) (response : ReviewResponseText) :
    Transition [.reviewChallengeResponses,.reviewChallenges,.coordinationCommandProvenance]
      EventBody := do
  let cycle ← coordinationCycle g c
  let (challenge,review) ← reviewChallengeRow i
  Tx.require (challenge.responseState==.pending) .invalidLifecycleTransition
  let _ ← Tx.insert Tbl.reviewChallengeResponses (fun j =>
    {reviewChallengeResponseId := j,reviewChallengeId := i,responseText := response.stored,
     respondedByCommandId := cmd}) .invalidLifecycleTransition
  let _ ← Tx.update Tbl.reviewChallenges (fun r => r.reviewChallengeId==i)
    (fun r => {r with responseState := .responded}) .subjectNotFound
  recordCoordinationProvenance cmd cycle c (some review.projectId)
  pure (.reviewChallengeResponded i)

def dispositionReviewChallenge (cmd : CommandRowId) (principal : PrincipalId)
    (g : ExpectedGeneration) (c : OperatingCycleId) (i : ReviewChallengeId)
    (disposition : ReviewDispositionKind) :
    Transition [.reviewDispositions,.coordinationCommandProvenance] EventBody := do
  let cycle ← coordinationCycle g c
  let (challenge,review) ← reviewChallengeRow i
  Tx.require (principal≠challenge.authorPrincipalId) .reviewSelfDispositionDenied
  Tx.require (challenge.responseState==.responded) .reviewDispositionIncomplete
  let _ ← Tx.insert Tbl.reviewDispositions (fun j =>
    {reviewDispositionId := j,reviewChallengeId := i,dispositionKind := disposition,
     disposedByPrincipalId := principal,disposedByCommandId := cmd})
    .reviewDispositionIncomplete
  recordCoordinationProvenance cmd cycle c (some review.projectId)
  pure (.reviewChallengeDispositioned i disposition)

def ReviewResolutionKind.state : ReviewResolutionKind → AdversarialReviewState
  | .resolved => .resolved
  | .acceptedRisk => .acceptedRisk

def resolveAdversarialReview (cmd : CommandRowId) (g : ExpectedGeneration)
    (c : OperatingCycleId) (i : AdversarialReviewId) (resolution : ReviewResolutionKind) :
    Transition [.adversarialReviews,.coordinationCommandProvenance] EventBody := do
  let cycle ← coordinationCycle g c
  let review ← reviewRow i
  Tx.require (review.lifecycleState==.responsesDue) .invalidLifecycleTransition
  let missing ← Tx.read (fun s => (s.rows .reviewChallenges).any (fun r =>
    r.adversarialReviewId==i && (r.responseState≠.responded ||
      (s.rows .reviewDispositions).all (fun d => d.reviewChallengeId≠r.reviewChallengeId))))
  Tx.require (!missing) .reviewDispositionIncomplete
  let _ ← Tx.update Tbl.adversarialReviews (fun r => r.adversarialReviewId==i)
    (fun r => {r with lifecycleState := resolution.state,resolvedByCommandId := some cmd})
    .subjectNotFound
  recordCoordinationProvenance cmd cycle c (some review.projectId)
  pure (.adversarialReviewResolved i resolution.state)

def triggerPostmortem (cmd : CommandRowId) (g : ExpectedGeneration) (c : OperatingCycleId)
    (project : ProjectId) (episode : Option CausalEpisodeId) :
    Transition [.postmortems,.coordinationCommandProvenance] EventBody := do
  let cycle ← coordinationCycle g c
  projectIsActive project
  Tx.each (fun e => do
    let row ← episodeRow e
    Tx.require (row.projectId==project) .subjectNotFound) episode.toList
  let i ← Tx.insert Tbl.postmortems (fun i =>
    {postmortemId := i,projectId := project,causalEpisodeId := episode,
     foundingMissionId := cycle.foundingMissionId,lifecycleState := .triggered,
     triggeredByCommandId := cmd,closedByCommandId := none}) .invalidLifecycleTransition
  recordCoordinationProvenance cmd cycle c (some project)
  pure (.postmortemTriggered i)

def investigatePostmortem {W : List Tbl} (i : PostmortemId)
    (hw : .postmortems ∈ W := by decide) : Transition W Unit := do
  let _ ← Tx.update Tbl.postmortems (fun r => r.postmortemId==i)
    (fun r => {r with lifecycleState := .investigating}) .subjectNotFound hw

def recordPostmortemCausalClaim (cmd : CommandRowId) (g : ExpectedGeneration)
    (c : OperatingCycleId) (i : PostmortemId) (kind : PostmortemCausalClaimKind)
    (claim : PostmortemCausalClaimText) :
    Transition [.postmortemCausalClaims,.postmortems,.coordinationCommandProvenance]
      EventBody := do
  let cycle ← coordinationCycle g c
  let postmortem ← postmortemRow i
  Tx.require (postmortem.lifecycleState≠.closed) .invalidLifecycleTransition
  let j ← Tx.insert Tbl.postmortemCausalClaims (fun j =>
    {postmortemCausalClaimId := j,postmortemId := i,claimKind := kind,
     claimText := claim.stored,recordedByCommandId := cmd}) .invalidLifecycleTransition
  investigatePostmortem i
  recordCoordinationProvenance cmd cycle c (some postmortem.projectId)
  pure (.postmortemCausalClaimRecorded j)

def proposePostmortemAction (cmd : CommandRowId) (g : ExpectedGeneration)
    (c : OperatingCycleId) (i : PostmortemId) (kind : PostmortemActionKind)
    (action : PostmortemActionProposalText) :
    Transition [.postmortemActionProposals,.postmortems,.coordinationCommandProvenance]
      EventBody := do
  let cycle ← coordinationCycle g c
  let postmortem ← postmortemRow i
  Tx.require (postmortem.lifecycleState≠.closed) .invalidLifecycleTransition
  let j ← Tx.insert Tbl.postmortemActionProposals (fun j =>
    {postmortemActionProposalId := j,postmortemId := i,actionKind := kind,
     actionText := action.stored,proposedByCommandId := cmd}) .invalidLifecycleTransition
  investigatePostmortem i
  recordCoordinationProvenance cmd cycle c (some postmortem.projectId)
  pure (.postmortemActionProposed j)

def closePostmortem (cmd : CommandRowId) (g : ExpectedGeneration) (c : OperatingCycleId)
    (i : PostmortemId) :
    Transition [.postmortems,.coordinationCommandProvenance] EventBody := do
  let cycle ← coordinationCycle g c
  let postmortem ← postmortemRow i
  Tx.require (postmortem.lifecycleState≠.closed) .invalidLifecycleTransition
  let claims ← Tx.read (fun s =>
    (s.rows .postmortemCausalClaims).any (fun r => r.postmortemId==i))
  let actions ← Tx.read (fun s =>
    (s.rows .postmortemActionProposals).any (fun r => r.postmortemId==i))
  Tx.require (claims && actions) .postmortemCloseBlocked
  let _ ← Tx.update Tbl.postmortems (fun r => r.postmortemId==i)
    (fun r => {r with lifecycleState := .closed,closedByCommandId := some cmd})
    .subjectNotFound
  recordCoordinationProvenance cmd cycle c (some postmortem.projectId)
  pure (.postmortemClosed i)

end Society.Kernel
