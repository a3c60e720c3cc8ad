import Society.Boundary.Wire

namespace Society.Boundary
open Society.Coding

/-! The inbound frames as JSON values, written and read member by member. -/

section Words

/-- The reader of a closed enumeration; `name` is the one its refusal uses. -/
def closedEnum {α : Type} (name : String) (table : List (String × α)) (value : String) :
    Except ProtocolError α :=
  match table.find? (fun row => row.1=value) with
  | some row => .ok row.2
  | none => .error (.invalidFrame name)

def sessionKindWire : SessionKind → String
  | .taskAttempt => "TaskAttempt"
  | .rootAuthorityOffice => "RootAuthorityOffice"

def sessionKind : String → Except ProtocolError SessionKind :=
  closedEnum "SessionKind" [("TaskAttempt",.taskAttempt),("RootAuthorityOffice",.rootAuthorityOffice)]

def toolProfileWire : ToolProfile → String
  | .readExecuteV1 => "read_execute_v1"
  | .readWriteV1 => "read_write_v1"
  | .workspaceMutationV1 => "workspace_mutation_v1"
  | .workspaceIsolatedV1 => "workspace_isolated_v1"
  | .forumIsolatedV1 => "forum_isolated_v1"

def toolProfile : String → Except ProtocolError ToolProfile :=
  closedEnum "ToolProfile" [("read_execute_v1",.readExecuteV1),("read_write_v1",.readWriteV1),
    ("workspace_mutation_v1",.workspaceMutationV1),("workspace_isolated_v1",.workspaceIsolatedV1),
    ("forum_isolated_v1",.forumIsolatedV1)]

def queueModeWire : QueueMode → String
  | .all => "all"
  | .oneAtATime => "one-at-a-time"

def queueMode : String → Except ProtocolError QueueMode :=
  closedEnum "QueueMode" [("all",.all),("one-at-a-time",.oneAtATime)]

def compactionModeWire : CompactionMode → String
  | .enabled => "enabled"
  | .disabled => "disabled"

def compactionMode : String → Except ProtocolError CompactionMode :=
  closedEnum "CompactionMode" [("enabled",.enabled),("disabled",.disabled)]

def promptPurposeWire : PromptPurpose → String
  | .taskAssignment => "TaskAssignment"
  | .officeTurn => "OfficeTurn"

def promptPurpose : String → Except ProtocolError PromptPurpose :=
  closedEnum "PromptPurpose" [("TaskAssignment",.taskAssignment),("OfficeTurn",.officeTurn)]

def steerReasonWire : SteerReason → String
  | .urgentStalePremise => "UrgentStalePremise"
  | .urgentUnsafePremise => "UrgentUnsafePremise"

def steerReason : String → Except ProtocolError SteerReason :=
  closedEnum "SteerReason" [("UrgentStalePremise",.urgentStalePremise),
    ("UrgentUnsafePremise",.urgentUnsafePremise)]

def abortReasonWire : AbortReason → String
  | .gracefulCancellation => "GracefulCancellation"
  | .emergencyStop => "EmergencyStop"
  | .budgetGuardrail => "BudgetGuardrail"
  | .daemonRecovery => "DaemonRecovery"

def abortReason : String → Except ProtocolError AbortReason :=
  closedEnum "AbortReason" [("GracefulCancellation",.gracefulCancellation),
    ("EmergencyStop",.emergencyStop),("BudgetGuardrail",.budgetGuardrail),
    ("DaemonRecovery",.daemonRecovery)]

def disposeReasonWire : DisposeReason → String
  | .cycleReconciliation => "CycleReconciliation"
  | .processRecovery => "ProcessRecovery"
  | .protocolFailure => "ProtocolFailure"

def disposeReason : String → Except ProtocolError DisposeReason :=
  closedEnum "DisposeReason" [("CycleReconciliation",.cycleReconciliation),
    ("ProcessRecovery",.processRecovery),("ProtocolFailure",.protocolFailure)]

def commandNameWire : CommandName → String
  | .createSession => "CreateSession"
  | .prompt => "Prompt"
  | .followUp => "FollowUp"
  | .steer => "Steer"
  | .abort => "Abort"
  | .getState => "GetState"
  | .dispose => "Dispose"
  | .forumToolResult => "ForumToolResult"

def commandName : String → Except ProtocolError CommandName :=
  closedEnum "CommandName" [("CreateSession",.createSession),("Prompt",.prompt),("FollowUp",.followUp),
    ("Steer",.steer),("Abort",.abort),("GetState",.getState),("Dispose",.dispose),
    ("ForumToolResult",.forumToolResult)]

def providerWire : Provider → String
  | .openRouter => "openrouter"

def provider : String → Except ProtocolError Provider := closedEnum "Provider" [("openrouter",.openRouter)]

def modelIdWire : ModelId → String
  | .deepseekV4Flash0731 => "deepseek/deepseek-v4-flash-0731"
  | .inclusionAiLing30TinyFree => "inclusionai/ling-3.0-tiny:free"
  | .poolsideLagunaXs21Free => "poolside/laguna-xs-2.1:free"
  | .inclusionAiLing26Flash => "inclusionai/ling-2.6-flash"

def modelId : String → Except ProtocolError ModelId :=
  closedEnum "ModelId" [("deepseek/deepseek-v4-flash-0731",.deepseekV4Flash0731),
    ("inclusionai/ling-3.0-tiny:free",.inclusionAiLing30TinyFree),
    ("poolside/laguna-xs-2.1:free",.poolsideLagunaXs21Free),
    ("inclusionai/ling-2.6-flash",.inclusionAiLing26Flash)]

def thinkingLevelWire : ThinkingLevel → String
  | .off => "off"
  | .minimal => "minimal"
  | .low => "low"
  | .medium => "medium"
  | .high => "high"
  | .xhigh => "xhigh"
  | .max => "max"

def thinkingLevel : String → Except ProtocolError ThinkingLevel :=
  closedEnum "ThinkingLevel" [("off",.off),("minimal",.minimal),("low",.low),("medium",.medium),
    ("high",.high),("xhigh",.xhigh),("max",.max)]

def baseUrlWire : OpenRouterBaseUrl → String
  | .apiV1 => "https://openrouter.ai/api/v1"

def openRouterBaseUrl : String → Except ProtocolError OpenRouterBaseUrl :=
  closedEnum "OpenRouterBaseUrl" [("https://openrouter.ai/api/v1",.apiV1)]

def modelApiWire : ModelApi → String
  | .openAiCompletions => "openai-completions"

def modelApi : String → Except ProtocolError ModelApi :=
  closedEnum "ModelApi" [("openai-completions",.openAiCompletions)]

def canonicalSlugWire : CanonicalModelSlug → String
  | .deepseekV4Flash20260731 => "deepseek/deepseek-v4-flash-20260731"
  | .inclusionAiLing30TinyFree => "inclusionai/ling-3.0-tiny:free"
  | .poolsideLagunaXs21Free => "poolside/laguna-xs-2.1:free"
  | .inclusionAiLing26Flash => "inclusionai/ling-2.6-flash"

def canonicalModelSlug : String → Except ProtocolError CanonicalModelSlug :=
  closedEnum "CanonicalModelSlug" [("deepseek/deepseek-v4-flash-20260731",.deepseekV4Flash20260731),
    ("inclusionai/ling-3.0-tiny:free",.inclusionAiLing30TinyFree),
    ("poolside/laguna-xs-2.1:free",.poolsideLagunaXs21Free),
    ("inclusionai/ling-2.6-flash",.inclusionAiLing26Flash)]

def modelInputWire : ModelInput → String
  | .textOnly => "text_only"

def modelInput : String → Except ProtocolError ModelInput := closedEnum "ModelInput" [("text_only",.textOnly)]

def transportWire : Transport → String
  | .sse => "sse"

def transport : String → Except ProtocolError Transport := closedEnum "Transport" [("sse",.sse)]

def projectTrustWire : ProjectTrust → String
  | .never => "never"

def projectTrust : String → Except ProtocolError ProjectTrust :=
  closedEnum "ProjectTrust" [("never",.never)]

def imagesWire : Images → String
  | .blocked => "blocked"

def images : String → Except ProtocolError Images := closedEnum "Images" [("blocked",.blocked)]

end Words
section Sessions

def encodeForumSessionContract : ForumSessionContractV1 → Json
  | .forumEnabledV1 awareness tools => jsonObject [("kind",jsonString "forum_enabled_v1"),
      ("awarenessBlake3",jsonString awareness.text),("toolContractBlake3",jsonString tools.text)]
  | .sequesteredV1 => jsonObject [("kind",jsonString "sequestered_v1")]

def decodeForumSessionContract (value : Fields) : Except ProtocolError ForumSessionContractV1 := do
  let kind ← string value "kind"
  if kind="forum_enabled_v1" then do
    exactKeys value ["kind","awarenessBlake3","toolContractBlake3"]
    let awareness ← Blake3Digest.parse (← string value "awarenessBlake3")
    let tools ← Blake3Digest.parse (← string value "toolContractBlake3")
    (ForumSessionContractV1.forumEnabledV1 awareness tools).assertPinned
    .ok (.forumEnabledV1 awareness tools)
  else if kind="sequestered_v1" then do
    exactKeys value ["kind"]
    .ok .sequesteredV1
  else .error (.invalidFrame "Forum session contract")

def encodeModelSelection (value : ModelSelection) : Json :=
  jsonObject [("provider",jsonString (providerWire value.provider)),
    ("modelId",jsonString (modelIdWire value.modelId)),
    ("thinkingLevel",jsonString (thinkingLevelWire value.thinkingLevel))]

def decodeModelSelection (value : Fields) : Except ProtocolError ModelSelection := do
  let provider ← provider (← string value "provider")
  let modelId ← modelId (← string value "modelId")
  let thinkingLevel ← thinkingLevel (← string value "thinkingLevel")
  .ok ⟨provider,modelId,thinkingLevel⟩

def encodeRate (value : KnownPerMillionRateV1) : Json :=
  jsonObject [("kind",jsonString "Known"),("usdPerMillion",jsonString value.usdPerMillion.text)]

def encodeCacheWriteRate : CacheWritePerMillionRateV1 → Json
  | .known value => encodeRate value
  | .absent => jsonObject [("kind",jsonString "Absent")]

def decodeKnownRate (value : Fields) : Except ProtocolError KnownPerMillionRateV1 := do
  exactKeys value ["kind","usdPerMillion"]
  literal value "kind" "Known"
  let rate ← UsdPerMillionDecimal.parse (← string value "usdPerMillion")
  .ok ⟨rate⟩

def decodeCacheWriteRate (value : Fields) : Except ProtocolError CacheWritePerMillionRateV1 := do
  let kind ← string value "kind"
  if kind="Absent" then do
    exactKeys value ["kind"]
    .ok .absent
  else if kind="Known" then do
    let rate ← decodeKnownRate value
    .ok (.known rate)
  else .error (.invalidFrame "cache write rate")

def encodeEffectiveModel (model : EffectiveModelDescriptorV1) : Json :=
  jsonObject [("provider",jsonString (providerWire model.provider)),
    ("baseUrl",jsonString (baseUrlWire model.baseUrl)),("api",jsonString (modelApiWire model.api)),
    ("modelId",jsonString (modelIdWire model.modelId)),
    ("canonicalSlug",jsonString (canonicalSlugWire model.canonicalSlug)),
    ("input",jsonString (modelInputWire model.input)),
    ("contextWindow",jsonU64 model.contextWindow.val),("maxTokens",jsonU64 model.maxTokens.val),
    ("inputUsdPerMillion",encodeRate model.inputUsdPerMillion),
    ("outputUsdPerMillion",encodeRate model.outputUsdPerMillion),
    ("cacheReadUsdPerMillion",encodeRate model.cacheReadUsdPerMillion),
    ("cacheWriteUsdPerMillion",encodeCacheWriteRate model.cacheWriteUsdPerMillion)]

def encodeModelCatalog (value : ModelCatalogPolicyV1) : Json :=
  jsonObject [("catalogBlake3",jsonString value.catalogBlake3.text),
    ("effectiveModel",encodeEffectiveModel value.effectiveModel)]

/-- The part of `decode_model_catalog` that reads the model. -/
def decodeEffectiveModel (model : Fields) : Except ProtocolError EffectiveModelDescriptorV1 := do
  let provider ← provider (← string model "provider")
  let baseUrl ← openRouterBaseUrl (← string model "baseUrl")
  let api ← modelApi (← string model "api")
  let modelId ← modelId (← string model "modelId")
  let canonicalSlug ← canonicalModelSlug (← string model "canonicalSlug")
  let input ← modelInput (← string model "input")
  let contextWindow ← positive model "contextWindow"
  let maxTokens ← positive model "maxTokens"
  let inputRate ← decodeKnownRate (← objectField model "inputUsdPerMillion")
  let outputRate ← decodeKnownRate (← objectField model "outputUsdPerMillion")
  let cacheReadRate ← decodeKnownRate (← objectField model "cacheReadUsdPerMillion")
  let cacheWriteRate ← decodeCacheWriteRate (← objectField model "cacheWriteUsdPerMillion")
  .ok ⟨provider,baseUrl,api,modelId,canonicalSlug,input,contextWindow,maxTokens,inputRate,outputRate,
    cacheReadRate,cacheWriteRate⟩

def decodeModelCatalog (value : Fields) : Except ProtocolError ModelCatalogPolicyV1 := do
  exactKeys value ["catalogBlake3","effectiveModel"]
  let model ← objectField value "effectiveModel"
  exactKeys model ["provider","baseUrl","api","modelId","canonicalSlug","input","contextWindow",
    "maxTokens","inputUsdPerMillion","outputUsdPerMillion","cacheReadUsdPerMillion",
    "cacheWriteUsdPerMillion"]
  let catalogBlake3 ← Blake3Digest.parse (← string value "catalogBlake3")
  let effectiveModel ← decodeEffectiveModel model
  .ok ⟨catalogBlake3,effectiveModel⟩

def encodeRetry (value : RetryPolicyV1) : Json :=
  jsonObject [("maxRetries",jsonU64 value.maxRetries.val),
    ("baseDelayMilliseconds",jsonU64 value.baseDelayMilliseconds.val),
    ("providerTimeoutMilliseconds",jsonU64 value.providerTimeoutMilliseconds.val),
    ("providerMaxRetries",jsonU64 value.providerMaxRetries.val),
    ("providerMaxRetryDelayMilliseconds",jsonU64 value.providerMaxRetryDelayMilliseconds.val)]

def encodeCompaction (value : CompactionPolicyV1) : Json :=
  jsonObject [("mode",jsonString (compactionModeWire value.mode)),
    ("reserveTokens",jsonU64 value.reserveTokens.val),
    ("keepRecentTokens",jsonU64 value.keepRecentTokens.val)]

def encodeSettings (value : ActorModelPolicyV1) : Json :=
  jsonObject [("retry",encodeRetry value.retry),("compaction",encodeCompaction value.compaction),
    ("steeringMode",jsonString (queueModeWire value.steeringMode)),
    ("followUpMode",jsonString (queueModeWire value.followUpMode)),
    ("transport",jsonString (transportWire value.transport)),
    ("projectTrust",jsonString (projectTrustWire value.projectTrust)),
    ("installTelemetryEnabled",jsonBool false),("analyticsEnabled",jsonBool false),
    ("images",jsonString (imagesWire value.images))]

/-- The part of `decode_settings` that reads the retry policy. -/
def decodeRetry (retry : Fields) : Except ProtocolError RetryPolicyV1 := do
  let maxRetries ← nonnegative retry "maxRetries"
  let baseDelay ← nonnegative retry "baseDelayMilliseconds"
  let providerTimeout ← positive retry "providerTimeoutMilliseconds"
  let providerMaxRetries ← nonnegative retry "providerMaxRetries"
  let providerMaxRetryDelay ← positive retry "providerMaxRetryDelayMilliseconds"
  .ok ⟨maxRetries,baseDelay,providerTimeout,providerMaxRetries,providerMaxRetryDelay⟩

/-- The part of `decode_settings` that reads the compaction policy. -/
def decodeCompaction (compaction : Fields) : Except ProtocolError CompactionPolicyV1 := do
  let mode ← compactionMode (← string compaction "mode")
  let reserveTokens ← nonnegative compaction "reserveTokens"
  let keepRecentTokens ← nonnegative compaction "keepRecentTokens"
  .ok ⟨mode,reserveTokens,keepRecentTokens⟩

def decodeSettings (value : Fields) : Except ProtocolError ActorModelPolicyV1 := do
  exactKeys value ["retry","compaction","steeringMode","followUpMode","transport","projectTrust",
    "installTelemetryEnabled","analyticsEnabled","images"]
  let retry ← objectField value "retry"
  exactKeys retry ["maxRetries","baseDelayMilliseconds","providerTimeoutMilliseconds",
    "providerMaxRetries","providerMaxRetryDelayMilliseconds"]
  let compaction ← objectField value "compaction"
  exactKeys compaction ["mode","reserveTokens","keepRecentTokens"]
  let retry ← decodeRetry retry
  let compaction ← decodeCompaction compaction
  let steeringMode ← queueMode (← string value "steeringMode")
  let followUpMode ← queueMode (← string value "followUpMode")
  let transport ← transport (← string value "transport")
  let projectTrust ← projectTrust (← string value "projectTrust")
  let installTelemetry ← disabled (← boolean value "installTelemetryEnabled")
  let analytics ← disabled (← boolean value "analyticsEnabled")
  let images ← images (← string value "images")
  .ok ⟨retry,compaction,steeringMode,followUpMode,transport,projectTrust,installTelemetry,analytics,
    images⟩

def encodeCreateSession (payload : CreateSessionPayload) : Json :=
  jsonObject [("sessionKind",jsonString (sessionKindWire payload.sessionKind)),
    ("cwd",jsonString payload.cwd.text),("agentDirectory",jsonString payload.agentDirectory.text),
    ("authPath",jsonString payload.authPath.text),("modelsPath",jsonString payload.modelsPath.text),
    ("sessionDirectory",jsonString payload.sessionDirectory.text),
    ("systemPrompt",jsonString payload.systemPrompt),
    ("systemPromptDigest",jsonString payload.systemPromptDigest.text),
    ("model",encodeModelSelection payload.model),("modelCatalog",encodeModelCatalog payload.modelCatalog),
    ("toolProfile",jsonString (toolProfileWire payload.toolProfile)),
    ("settings",encodeSettings payload.settings),
    ("forumContract",encodeForumSessionContract payload.forumContract)]

def ForumSessionContractV1.isEnabled : ForumSessionContractV1 → Bool
  | .forumEnabledV1 .. => true
  | .sequesteredV1 => false

/-- What `decode_create_session` checks of the payload it has read. -/
def CreateSessionPayload.check (p : CreateSessionPayload) : Except ProtocolError Unit := do
  if p.model.modelId≠p.modelCatalog.effectiveModel.modelId then
    .error (.invalidFrame "model catalog selection")
  else if (p.toolProfile=.workspaceIsolatedV1 ∧ p.forumContract.isEnabled=true) ∨
      (p.toolProfile=.forumIsolatedV1 ∧ p.forumContract.isEnabled=false) then
    .error (.invalidFrame "isolated Forum pairing")
  else do
    p.modelCatalog.assertPinned
    p.settings.assertPinned
    p.forumContract.assertPinned

/-- The part of `decode_create_session` that reads the members, once it has the model. -/
def decodeSessionMembers (value : Fields) (model : ModelSelection) :
    Except ProtocolError CreateSessionPayload := do
  let sessionKind ← sessionKind (← string value "sessionKind")
  let cwd ← path value "cwd"
  let agentDirectory ← path value "agentDirectory"
  let authPath ← path value "authPath"
  let modelsPath ← path value "modelsPath"
  let sessionDirectory ← path value "sessionDirectory"
  let systemPrompt ← nonempty value "systemPrompt"
  let systemPromptDigest ← Blake3Digest.parse (← string value "systemPromptDigest")
  let modelCatalog ← decodeModelCatalog (← objectField value "modelCatalog")
  let toolProfile ← toolProfile (← string value "toolProfile")
  let settings ← decodeSettings (← objectField value "settings")
  let forumContract ← decodeForumSessionContract (← objectField value "forumContract")
  .ok ⟨sessionKind,cwd,agentDirectory,authPath,modelsPath,sessionDirectory,systemPrompt,
    systemPromptDigest,model,modelCatalog,toolProfile,settings,forumContract⟩

def decodeCreateSession (value : Fields) : Except ProtocolError CreateSessionPayload := do
  exactKeys value ["sessionKind","cwd","agentDirectory","authPath","modelsPath","sessionDirectory",
    "systemPrompt","systemPromptDigest","model","modelCatalog","toolProfile","settings","forumContract"]
  let model ← objectField value "model"
  exactKeys model ["provider","modelId","thinkingLevel"]
  literal model "provider" "openrouter"
  let model ← decodeModelSelection model
  if model.provider≠.openRouter ∨ modelThinkingLevelIsAdmitted model.modelId model.thinkingLevel=false then
    .error (.invalidFrame "pinned model selection")
  else do
    let decoded ← decodeSessionMembers value model
    decoded.check
    .ok decoded

end Sessions
section Frames

def encodePayload : InboundCommand → Json
  | .createSession payload => encodeCreateSession payload
  | .prompt purpose text =>
    jsonObject [("purpose",jsonString (promptPurposeWire purpose)),("text",jsonString text)]
  | .followUp notice frontier text =>
    jsonObject [("noticeDeliveryIdentity",jsonString notice.text),("ledgerFrontier",jsonU64 frontier.val),
      ("text",jsonString text)]
  | .steer reason text =>
    jsonObject [("reason",jsonString (steerReasonWire reason)),("text",jsonString text)]
  | .abort reason => jsonObject [("reason",jsonString (abortReasonWire reason))]
  | .getState => jsonObject []
  | .dispose reason => jsonObject [("reason",jsonString (disposeReasonWire reason))]
  | .forumToolResult call result isError =>
    jsonObject [("toolCallIdentity",jsonString call.text),("result",result),("isError",jsonBool isError)]

def adapterProtocolVersion : String := "society-pi-host/v4"

/-- The value that `encode_inbound_jsonl` writes. -/
def encodeFrame (frame : InboundFrame) : Json :=
  jsonObject [("protocolVersion",jsonString adapterProtocolVersion),
    ("sequence",jsonU64 frame.sequence.val),("sessionIdentity",jsonString frame.sessionIdentity.text),
    ("correlationIdentity",jsonString frame.correlationIdentity.text),
    ("command",jsonString (commandNameWire frame.command.name)),
    ("payload",encodePayload frame.command)]

def decodePayload (name : CommandName) (payload : Fields) : Except ProtocolError InboundCommand :=
  match name with
  | .createSession => do
    let payload ← decodeCreateSession payload
    .ok (.createSession payload)
  | .prompt => do
    exactKeys payload ["purpose","text"]
    let purpose ← promptPurpose (← string payload "purpose")
    let text ← nonempty payload "text"
    .ok (.prompt purpose text)
  | .followUp => do
    exactKeys payload ["noticeDeliveryIdentity","ledgerFrontier","text"]
    let notice ← ClosedString.parse "correlation identity" (← string payload "noticeDeliveryIdentity")
    let frontier ← parseRanged 0 maxSafeInteger "ledger frontier" (← unsigned payload "ledgerFrontier")
    let text ← nonempty payload "text"
    .ok (.followUp notice frontier text)
  | .steer => do
    exactKeys payload ["reason","text"]
    let reason ← steerReason (← string payload "reason")
    let text ← nonempty payload "text"
    .ok (.steer reason text)
  | .abort => do
    exactKeys payload ["reason"]
    let reason ← abortReason (← string payload "reason")
    .ok (.abort reason)
  | .getState => do
    exactKeys payload []
    .ok .getState
  | .dispose => do
    exactKeys payload ["reason"]
    let reason ← disposeReason (← string payload "reason")
    .ok (.dispose reason)
  | .forumToolResult => do
    exactKeys payload ["toolCallIdentity","result","isError"]
    let call ← ClosedString.parse "tool call identity" (← string payload "toolCallIdentity")
    let result ← required payload "result"
    let isError ← boolean payload "isError"
    .ok (.forumToolResult call result isError)

/-- The frame that a value stands for. -/
def decodeFrame (root : Json) : Except ProtocolError InboundFrame := do
  let frame ← object root
  exactKeys frame ["protocolVersion","sequence","sessionIdentity","correlationIdentity","command",
    "payload"]
  literal frame "protocolVersion" adapterProtocolVersion
  let sequence ← boundarySequence frame "sequence"
  let sessionIdentity ← ClosedString.parse "session identity" (← string frame "sessionIdentity")
  let correlationIdentity ←
    ClosedString.parse "correlation identity" (← string frame "correlationIdentity")
  let name ← commandName (← string frame "command")
  let payload ← objectField frame "payload"
  let command ← decodePayload name payload
  .ok ⟨sequence,sessionIdentity,correlationIdentity,command⟩

variable (lib : JsonLibrary)

def decodeInboundJsonl (line : String) : Except ProtocolError InboundFrame := do
  let root ← decodeFrameValue lib line
  decodeFrame root

def encodeInboundJsonl (frame : InboundFrame) : Except ProtocolError String := do
  let line := String.ofList (write lib (encodeFrame frame))
  if maxJsonlFrameBytes<(utf8 line).length then .error .frameTooLarge
  else do
    let _ ← decodeInboundJsonl lib line
    .ok line

end Frames
end Society.Boundary
