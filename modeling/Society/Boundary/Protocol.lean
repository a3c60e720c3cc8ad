import Society.Codec
import Society.Kernel.Values

namespace Society.Boundary
open Society.Kernel (Ranged)

/-! The closed `society-pi-host/v4` schema: what a frame of either direction can carry. -/

def maxSafeInteger : Nat := 9007199254740991

def maxJsonlFrameBytes : Nat := 1024*1024

/-- Why a line is refused. `invalidFrame` names the part that does not fit. -/
inductive ProtocolError
  | frameTooLarge | invalidJson | nestingTooDeep | invalidJsonlLine | invalidUtf8
  | duplicateObjectKey | negativeZero
  | invalidFrame (what : String)
  deriving DecidableEq

section Json

/-- A number as the parser keeps it; a fraction or an exponent gives the bits of a binary64. -/
inductive Number
  | u64 (n : Nat) | i64 (n : Int) | f64 (bits : Nat)
  deriving DecidableEq

inductive Json
  | null
  | bool (b : Bool)
  | number (n : Number)
  | string (s : String)
  | array (items : List Json)
  | object (fields : List (String × Json))

/-- The value under a key. -/
def getField (fields : List (String × Json)) (key : String) : Option Json :=
  (fields.find? (fun f => f.1=key)).map Prod.snd

end Json
section Texts

def identifierEdge (c : Char) : Bool := c.isAlphanum

def isIdentifier (value : String) : Bool :=
  let chars := value.toList
  chars.head?.any identifierEdge && chars.getLast?.any identifierEdge &&
    chars.all (fun c => identifierEdge c || c== '.' || c== '_' || c== '-')

/-- An identity of the wire; `what` is the word its refusal uses. -/
@[ext] structure ClosedString (what : String) where
  text : String
  valid : isIdentifier text=true
  deriving DecidableEq

def ClosedString.parse (what value : String) : Except ProtocolError (ClosedString what) :=
  if h : isIdentifier value=true then .ok ⟨value,h⟩ else .error (.invalidFrame what)

abbrev SessionIdentity := ClosedString "session identity"
abbrev CorrelationIdentity := ClosedString "correlation identity"
abbrev SpawnNonce := ClosedString "spawn nonce"
abbrev ToolCallIdentity := ClosedString "tool call identity"

/-- An integer of the wire within its bounds. -/
def parseRanged (lo hi : Nat) (what : String) (n : Nat) : Except ProtocolError (Ranged lo hi) :=
  if h : lo≤n ∧ n≤hi then .ok ⟨n,h⟩ else .error (.invalidFrame what)

abbrev BoundarySequence := Ranged 1 maxSafeInteger
abbrev LedgerFrontier := Ranged 0 maxSafeInteger
abbrev NonNegativeInteger := Ranged 0 maxSafeInteger
abbrev PositiveInteger := Ranged 1 maxSafeInteger
abbrev HostProcessId := Ranged 1 maxSafeInteger

def lowerHexDigit (c : Char) : Bool := c.isDigit || ('a' ≤ c && c ≤ 'f')

def isLowerHex (length : Nat) (value : String) : Bool :=
  value.toList.length==length && value.toList.all lowerHexDigit

@[ext] structure Blake3Digest where
  text : String
  valid : isLowerHex 64 text=true
  deriving DecidableEq

def Blake3Digest.parse (value : String) : Except ProtocolError Blake3Digest :=
  if h : isLowerHex 64 value=true then .ok ⟨value,h⟩ else .error (.invalidFrame "blake3 digest")

@[ext] structure Binary64BigEndianHex where
  text : String
  valid : isLowerHex 16 text=true
  deriving DecidableEq

def isAbsolutePath (value : String) : Bool :=
  let chars := value.toList
  2≤(Society.Coding.utf8 value).length && chars.head?==some '/' && !chars.contains '\x00' &&
    chars.getLast? != some '/' &&
    ((chars.splitOn '/').drop 1).all (fun part => part != [] && part != ['.'] && part != ['.','.'])

@[ext] structure AbsolutePath where
  text : String
  valid : isAbsolutePath text=true
  deriving DecidableEq

namespace AbsolutePath

def parse (value : String) : Except ProtocolError AbsolutePath :=
  if h : isAbsolutePath value=true then .ok ⟨value,h⟩ else .error (.invalidFrame "absolute path")

def isStrictDescendantOf (path base : AbsolutePath) : Bool :=
  base.text.toList.isPrefixOf path.text.toList &&
    (path.text.toList.drop base.text.toList.length).head?==some '/'

end AbsolutePath

/-- The whole and the fractional part around the first point. -/
def splitPoint (chars : List Char) : Option (List Char × List Char) :=
  if chars.contains '.' then some (chars.takeWhile (· ≠ '.'),(chars.dropWhile (· ≠ '.')).drop 1)
  else none

def isUsdPerMillion (value : String) : Bool :=
  let chars := value.toList
  let nonzero := match splitPoint chars with
    | some (whole,fraction) => whole != [] && fraction != [] && fraction.all Char.isDigit &&
        fraction.any (· != '0')
    | none => chars != ['0']
  let canonicalWhole := match chars.head? with
    | some '0' => chars==['0'] || chars.take 2==['0','.']
    | some c => c.isDigit && (chars.takeWhile (· ≠ '.')).all Char.isDigit
    | none => false
  nonzero && canonicalWhole &&
    !(chars.head?==some '0' && chars.take 2!=['0','.'] && chars != ['0']) &&
    chars.count '.'≤1 && chars.all (fun c => c.isDigit || c== '.')

@[ext] structure UsdPerMillionDecimal where
  text : String
  valid : isUsdPerMillion text=true
  deriving DecidableEq

def UsdPerMillionDecimal.parse (value : String) : Except ProtocolError UsdPerMillionDecimal :=
  if h : isUsdPerMillion value=true then .ok ⟨value,h⟩
  else .error (.invalidFrame "USD per million decimal")

end Texts
section Sessions

inductive SessionKind
  | taskAttempt | rootAuthorityOffice
  deriving DecidableEq

inductive PiToolName
  | read | bash | edit | write | grep | find | ls | societyForumRead | societyForumPost
  deriving DecidableEq

inductive ToolProfile
  | readExecuteV1 | readWriteV1 | workspaceMutationV1 | workspaceIsolatedV1 | forumIsolatedV1
  deriving DecidableEq

def ToolProfile.tools : ToolProfile → List PiToolName
  | readExecuteV1 => [.read,.bash,.grep,.find,.ls]
  | readWriteV1 => [.read,.write]
  | workspaceMutationV1 => [.read,.bash,.edit,.write,.grep,.find,.ls]
  | workspaceIsolatedV1 => [.read,.edit,.write,.ls]
  | forumIsolatedV1 => [.societyForumRead,.societyForumPost]

inductive QueueMode
  | all | oneAtATime
  deriving DecidableEq

inductive CompactionMode
  | enabled | disabled
  deriving DecidableEq

inductive ThinkingLevel
  | off | minimal | low | medium | high | xhigh | max
  deriving DecidableEq

inductive ModelId
  | deepseekV4Flash0731 | inclusionAiLing30TinyFree | poolsideLagunaXs21Free
  | inclusionAiLing26Flash
  deriving DecidableEq

inductive CanonicalModelSlug
  | deepseekV4Flash20260731 | inclusionAiLing30TinyFree | poolsideLagunaXs21Free
  | inclusionAiLing26Flash
  deriving DecidableEq

/-! Each of these has one admitted value. -/

inductive Provider
  | openRouter
  deriving DecidableEq

inductive OpenRouterBaseUrl
  | apiV1
  deriving DecidableEq

inductive ModelApi
  | openAiCompletions
  deriving DecidableEq

inductive ModelInput
  | textOnly
  deriving DecidableEq

inductive Transport
  | sse
  deriving DecidableEq

inductive ProjectTrust
  | never
  deriving DecidableEq

inductive Disabled
  | disabled
  deriving DecidableEq

inductive Images
  | blocked
  deriving DecidableEq

inductive AdapterVersion
  | v1
  deriving DecidableEq

inductive PiSdkVersion
  | v0841
  deriving DecidableEq

@[ext] structure RetryPolicyV1 where
  maxRetries : NonNegativeInteger
  baseDelayMilliseconds : NonNegativeInteger
  providerTimeoutMilliseconds : PositiveInteger
  providerMaxRetries : NonNegativeInteger
  providerMaxRetryDelayMilliseconds : PositiveInteger
  deriving DecidableEq

@[ext] structure CompactionPolicyV1 where
  mode : CompactionMode
  reserveTokens : NonNegativeInteger
  keepRecentTokens : NonNegativeInteger
  deriving DecidableEq

@[ext] structure ActorModelPolicyV1 where
  retry : RetryPolicyV1
  compaction : CompactionPolicyV1
  steeringMode : QueueMode
  followUpMode : QueueMode
  transport : Transport
  projectTrust : ProjectTrust
  installTelemetry : Disabled
  analytics : Disabled
  images : Images
  deriving DecidableEq

def ActorModelPolicyV1.assertPinned (p : ActorModelPolicyV1) : Except ProtocolError Unit :=
  if p.retry.maxRetries.val=2 ∧ p.retry.baseDelayMilliseconds.val=2000 ∧
      p.retry.providerTimeoutMilliseconds.val=300000 ∧ p.retry.providerMaxRetries.val=1 ∧
      p.retry.providerMaxRetryDelayMilliseconds.val=30000 ∧ p.compaction.mode=.enabled ∧
      p.compaction.reserveTokens.val=16384 ∧ p.compaction.keepRecentTokens.val=20000 ∧
      p.steeringMode=.oneAtATime ∧ p.followUpMode=.oneAtATime ∧ p.transport=.sse ∧
      p.projectTrust=.never ∧ p.installTelemetry=.disabled ∧ p.analytics=.disabled ∧
      p.images=.blocked
  then .ok () else .error (.invalidFrame "pinned actor model policy")

@[ext] structure ModelSelection where
  provider : Provider
  modelId : ModelId
  thinkingLevel : ThinkingLevel
  deriving DecidableEq

@[ext] structure KnownPerMillionRateV1 where
  usdPerMillion : UsdPerMillionDecimal
  deriving DecidableEq

inductive CacheWritePerMillionRateV1
  | known (rate : KnownPerMillionRateV1)
  | absent
  deriving DecidableEq

@[ext] structure EffectiveModelDescriptorV1 where
  provider : Provider
  baseUrl : OpenRouterBaseUrl
  api : ModelApi
  modelId : ModelId
  canonicalSlug : CanonicalModelSlug
  input : ModelInput
  contextWindow : PositiveInteger
  maxTokens : PositiveInteger
  inputUsdPerMillion : KnownPerMillionRateV1
  outputUsdPerMillion : KnownPerMillionRateV1
  cacheReadUsdPerMillion : KnownPerMillionRateV1
  cacheWriteUsdPerMillion : CacheWritePerMillionRateV1
  deriving DecidableEq

@[ext] structure ModelCatalogPolicyV1 where
  catalogBlake3 : Blake3Digest
  effectiveModel : EffectiveModelDescriptorV1
  deriving DecidableEq

/-- Context window, output limit and the three rates of an admitted model. -/
def pinnedModel : ModelId → CanonicalModelSlug → Option (Nat × Nat × String × String × String)
  | .deepseekV4Flash0731,.deepseekV4Flash20260731 => some (1048576,384000,"0.09","0.18","0.018")
  | .inclusionAiLing30TinyFree,.inclusionAiLing30TinyFree => some (262144,32768,"0","0","0")
  | .poolsideLagunaXs21Free,.poolsideLagunaXs21Free => some (262144,32768,"0","0","0")
  | .inclusionAiLing26Flash,.inclusionAiLing26Flash =>
    some (262144,32768,"0.01","0.03","0.002")
  | _,_ => none

def ModelCatalogPolicyV1.assertPinned (c : ModelCatalogPolicyV1) : Except ProtocolError Unit :=
  let model := c.effectiveModel
  match pinnedModel model.modelId model.canonicalSlug with
  | none => .error (.invalidFrame "pinned model catalog policy")
  | some (window,tokens,input,output,cacheRead) =>
    if model.provider=.openRouter ∧ model.baseUrl=.apiV1 ∧ model.api=.openAiCompletions ∧
        model.input=.textOnly ∧ model.contextWindow.val=window ∧ model.maxTokens.val=tokens ∧
        model.inputUsdPerMillion.usdPerMillion.text=input ∧
        model.outputUsdPerMillion.usdPerMillion.text=output ∧
        model.cacheReadUsdPerMillion.usdPerMillion.text=cacheRead ∧
        model.cacheWriteUsdPerMillion=.absent
    then .ok () else .error (.invalidFrame "pinned model catalog policy")

def modelThinkingLevelIsAdmitted (model : ModelId) (level : ThinkingLevel) : Bool :=
  match model with
  | .inclusionAiLing26Flash => level=.off
  | _ => level=.high

inductive ForumSessionContractV1
  | forumEnabledV1 (awarenessBlake3 toolContractBlake3 : Blake3Digest)
  | sequesteredV1
  deriving DecidableEq

def forumF0AwarenessBlake3 : String :=
  "c2db53f69595a724b745a3b0ccbee710b70ebea4b2cc06dfff902bd7d3e886ea"

def forumF0ToolContractBlake3 : String :=
  "738e664f66be09dfb7f8e5e4873521d7b9f1600d385dd0c8a41c80ca087566be"

def ForumSessionContractV1.assertPinned : ForumSessionContractV1 → Except ProtocolError Unit
  | .forumEnabledV1 awareness tools =>
    if awareness.text=forumF0AwarenessBlake3 ∧ tools.text=forumF0ToolContractBlake3 then .ok ()
    else .error (.invalidFrame "pinned Forum session contract")
  | .sequesteredV1 => .ok ()

@[ext] structure CreateSessionPayload where
  sessionKind : SessionKind
  cwd : AbsolutePath
  agentDirectory : AbsolutePath
  authPath : AbsolutePath
  modelsPath : AbsolutePath
  sessionDirectory : AbsolutePath
  systemPrompt : String
  systemPromptDigest : Blake3Digest
  model : ModelSelection
  modelCatalog : ModelCatalogPolicyV1
  toolProfile : ToolProfile
  settings : ActorModelPolicyV1
  forumContract : ForumSessionContractV1
  deriving DecidableEq

@[ext] structure EffectiveSessionConfiguration where
  sessionKind : SessionKind
  cwd : AbsolutePath
  sessionDirectory : AbsolutePath
  sessionFile : AbsolutePath
  model : ModelSelection
  modelCatalog : ModelCatalogPolicyV1
  toolProfile : ToolProfile
  tools : List PiToolName
  settings : ActorModelPolicyV1
  forumContract : ForumSessionContractV1
  deriving DecidableEq

def EffectiveSessionConfiguration.assertPinned (c : EffectiveSessionConfiguration) :
    Except ProtocolError Unit := do
  c.modelCatalog.assertPinned
  c.settings.assertPinned
  c.forumContract.assertPinned
  if c.model.provider=.openRouter ∧ c.model.modelId=c.modelCatalog.effectiveModel.modelId ∧
      modelThinkingLevelIsAdmitted c.model.modelId c.model.thinkingLevel=true ∧
      c.tools=c.toolProfile.tools
  then .ok () else .error (.invalidFrame "effective session configuration")

/-- A Node version of at least 22.19, with or without its leading `v`. -/
def isNodeRuntimeVersion (value : String) : Bool :=
  let parts := (if value.toList.head?==some 'v' then value.toList.drop 1 else value.toList).splitOn '.'
  let number (digits : List Char) : Option Nat :=
    let digits := if digits.head?==some '+' then digits.drop 1 else digits
    if digits != [] && digits.all Char.isDigit then
      some (digits.foldl (fun n c => 10*n+(c.toNat-48)) 0) |>.filter (· ≤ maxSafeInteger)
    else none
  match parts.map number with
  | [some major,some minor,some _] => 22 < major || (major==22 && 19 ≤ minor)
  | _ => false

@[ext] structure NodeRuntimeVersion where
  text : String
  valid : isNodeRuntimeVersion text=true
  deriving DecidableEq

@[ext] structure RuntimeIdentity where
  nodeVersion : NodeRuntimeVersion
  adapterVersion : AdapterVersion
  piSdkVersion : PiSdkVersion
  nodeExecutableBlake3 : Blake3Digest
  lockfileBlake3 : Blake3Digest
  adapterBuildBlake3 : Blake3Digest
  piTransitivePackageSetBlake3 : Blake3Digest
  deriving DecidableEq

def RuntimeIdentity.assertV1 (r : RuntimeIdentity) : Except ProtocolError Unit :=
  if r.adapterVersion=.v1 ∧ r.piSdkVersion=.v0841 then .ok ()
  else .error (.invalidFrame "runtime identity")

end Sessions
section Inbound

inductive PromptPurpose
  | taskAssignment | officeTurn
  deriving DecidableEq

inductive SteerReason
  | urgentStalePremise | urgentUnsafePremise
  deriving DecidableEq

inductive AbortReason
  | gracefulCancellation | emergencyStop | budgetGuardrail | daemonRecovery
  deriving DecidableEq

inductive DisposeReason
  | cycleReconciliation | processRecovery | protocolFailure
  deriving DecidableEq

inductive CommandName
  | createSession | prompt | followUp | steer | abort | getState | dispose | forumToolResult
  deriving DecidableEq

inductive InboundCommand
  | createSession (payload : CreateSessionPayload)
  | prompt (purpose : PromptPurpose) (text : String)
  | followUp (noticeDeliveryIdentity : CorrelationIdentity) (ledgerFrontier : LedgerFrontier)
      (text : String)
  | steer (reason : SteerReason) (text : String)
  | abort (reason : AbortReason)
  | getState
  | dispose (reason : DisposeReason)
  | forumToolResult (toolCallIdentity : ToolCallIdentity) (result : Json) (isError : Bool)

def InboundCommand.name : InboundCommand → CommandName
  | createSession _ => .createSession
  | prompt .. => .prompt
  | followUp .. => .followUp
  | steer .. => .steer
  | abort _ => .abort
  | getState => .getState
  | dispose _ => .dispose
  | forumToolResult .. => .forumToolResult

structure InboundFrame where
  sequence : BoundarySequence
  sessionIdentity : SessionIdentity
  correlationIdentity : CorrelationIdentity
  command : InboundCommand

end Inbound
section Outbound

inductive AdapterFailureCode
  | invalidCommand | invalidState | sequenceGap | sessionIdentityMismatch
  | executionProfileDrift | sdkOperationFailed | missingAgentSettled
  | missingFinalAssistantOutcome | protocolDecodeFailed | outboundFrameTooLarge
  deriving DecidableEq

/-- What the host answers to a command. The detail of an acceptance is not read by the peer. -/
inductive CommandResult
  | accepted (command : CommandName)
  | rejected (command : CommandName) (failureCode : AdapterFailureCode)
  deriving DecidableEq

@[ext] structure UsageTotals where
  inputTokens : NonNegativeInteger
  outputTokens : NonNegativeInteger
  cacheReadTokens : NonNegativeInteger
  cacheWriteTokens : NonNegativeInteger
  totalTokens : NonNegativeInteger
  providerCost : Binary64BigEndianHex
  deriving DecidableEq

inductive UsageUnavailableReason
  | invalidSdkUsage | usageRegressed | usageInconsistent
  deriving DecidableEq

inductive UsageObservation
  | known (totals : UsageTotals)
  | unavailable (reason : UsageUnavailableReason)
  deriving DecidableEq

/-- The events of the agent. Only those of its life cycle carry what the peer reads. -/
inductive ProjectedAgentEvent
  | agentStart
  | agentEnd (messages : List Json) (willRetry : Bool)
  | agentSettled
  | turnStart | turnEnd | messageStart | messageUpdate | messageEnd | toolExecutionStart
  | toolExecutionUpdate | toolExecutionEnd | queueUpdate | entryAppended | bashExecutionUpdate
  | compactionStart | sessionInfoChanged | thinkingLevelChanged | compactionEnd
  | autoRetryStart | autoRetryEnd | summarizationRetryScheduled
  | summarizationRetryAttemptStart | summarizationRetryFinished

inductive SettledClassification
  | completed | length | error | aborted | failed | protocolFailed
  deriving DecidableEq

inductive AssistantStopReason
  | stop | length | error | aborted
  deriving DecidableEq

inductive FinalAssistantUnavailableReason
  | sdkPromiseRejected | missingFinalAssistantOutcome
  deriving DecidableEq

inductive FinalAssistantOutcome
  | observed (stopReason : AssistantStopReason)
  | unavailable (reason : FinalAssistantUnavailableReason)
  deriving DecidableEq

inductive FirstUserPromptReceipt
  | absent
  | verified (digest : Blake3Digest)
  deriving DecidableEq

inductive TranscriptFlushReceiptV1
  | materialized (sessionIdentity : SessionIdentity) (sessionFile : AbsolutePath)
      (sessionFileBlake3 : Blake3Digest) (headerCwd : AbsolutePath)
      (firstUserPrompt : FirstUserPromptReceipt)
  | unmaterializedNoPrompt (sessionIdentity : SessionIdentity) (sessionFile : AbsolutePath)
  deriving DecidableEq

inductive ForumToolName
  | societyForumRead | societyForumPost
  deriving DecidableEq

inductive OutboundEvent
  | adapterReady (pid : HostProcessId) (spawnNonce : SpawnNonce) (runtime : RuntimeIdentity)
  | sessionReady (configuration : EffectiveSessionConfiguration)
  | commandResult (result : CommandResult)
  | agentEvent (event : ProjectedAgentEvent)
  | forumToolCall (toolCallIdentity : ToolCallIdentity) (toolName : ForumToolName) (args : Json)
  | usageSnapshot (usage : UsageObservation)
  | settled (classification : SettledClassification) (outcome : FinalAssistantOutcome)
  | disposed (receipt : TranscriptFlushReceiptV1)
  | fatal (failureCode : AdapterFailureCode)

structure OutboundFrame where
  sequence : BoundarySequence
  sessionIdentity : SessionIdentity
  correlationIdentity : Option CorrelationIdentity
  event : OutboundEvent

end Outbound
end Society.Boundary
