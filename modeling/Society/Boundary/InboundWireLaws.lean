import Society.Boundary.InboundWire

namespace Society.Boundary
open Society.Kernel (Ranged)
open Society.Coding

/-! What is written on the inbound wire is what is read from it. -/

section Members

@[simp] theorem getField_cons (key key' : String) (v : Json) (rest : Fields) :
    getField ((key',v)::rest) key=if key'=key then some v else getField rest key := by
  by_cases h : key'=key <;> simp [getField,h]

@[simp] theorem getField_nil (key : String) : getField [] key=none := rfl

theorem getField_insertField (key key' : String) (v : Json) (fields : Fields) :
    getField (insertField key v fields) key'=
      if key=key' then some v else getField fields key' := by
  induction fields with
  | nil => simp [insertField]
  | cons f rest ih =>
    rcases f with ⟨k,w⟩
    unfold insertField
    by_cases hk : key=k
    · subst hk
      by_cases h : key=key' <;> simp [h]
    · by_cases hlt : key<k
      · simp [hk,hlt]
      · simp only [hk,if_false,hlt,getField_cons,ih]
        by_cases h : k=key'
        · have hne : ¬key=key' := by rw [← h]; exact hk
          simp [h,hne]
        · simp [h]

theorem length_insertField {key : String} {fields : Fields} (v : Json)
    (h : getField fields key=none) : (insertField key v fields).length=fields.length+1 := by
  induction fields with
  | nil => rfl
  | cons f rest ih =>
    rcases f with ⟨k,w⟩
    have hk : ¬k=key := by intro hk; simp [hk] at h
    have hrest : getField rest key=none := by simpa [hk] using h
    have hk' : ¬key=k := fun e => hk e.symm
    unfold insertField
    by_cases hlt : key<k
    · simp [hk',hlt]
    · simp [hk',hlt,ih hrest]

theorem getField_none {fields : Fields} {key : String} (h : key∉fields.map Prod.fst) :
    getField fields key=none := by
  induction fields with
  | nil => rfl
  | cons f rest ih =>
    rcases f with ⟨k,w⟩
    simp only [List.map_cons,List.mem_cons,not_or] at h
    have hk : ¬k=key := fun e => h.1 e.symm
    simp [hk,ih h.2]

/-- Members under different keys are all there, and nothing else is. -/
theorem insertMembers {members : Fields} (h : (members.map Prod.fst).Nodup) (fields : Fields)
    (hnew : ∀ key∈members.map Prod.fst,getField fields key=none) :
    (∀ key,getField (members.foldl (fun fields m => insertField m.1 m.2 fields) fields) key=
      (getField members key).or (getField fields key)) ∧
    (members.foldl (fun fields m => insertField m.1 m.2 fields) fields).length=
      fields.length+members.length := by
  induction members generalizing fields with
  | nil => simp
  | cons m rest ih =>
    rcases m with ⟨k,v⟩
    simp only [List.map_cons,List.nodup_cons] at h
    have hk : getField fields k=none := hnew k (by simp)
    have hrest : ∀ key∈rest.map Prod.fst,getField (insertField k v fields) key=none := by
      intro key hkey
      have hne : ¬k=key := by intro e; exact h.1 (e ▸ hkey)
      simp [getField_insertField,hne,hnew key (by simp only [List.map_cons,List.mem_cons]; exact .inr hkey)]
    have hnext := ih h.2 (insertField k v fields) hrest
    constructor
    · intro key
      simp only [List.foldl_cons,hnext.1 key,getField_insertField,getField_cons]
      by_cases hkey : k=key
      · have hnone : getField rest key=none := getField_none (by rw [← hkey]; exact h.1)
        simp [hkey,hnone]
      · simp [hkey]
    · simp only [List.foldl_cons,hnext.2,length_insertField v hk,List.length_cons]
      omega

variable {members : Fields} (h : (members.map Prod.fst).Nodup)
include h

theorem getField_fieldsOf (key : String) : getField (fieldsOf members) key=getField members key := by
  have hget := (insertMembers h [] (by simp)).1 key
  simpa [fieldsOf] using hget

theorem length_fieldsOf : (fieldsOf members).length=members.length := by
  have hlen := (insertMembers h [] (by simp)).2
  simpa [fieldsOf] using hlen

theorem exactKeys_fieldsOf {keys : List String} (hkeys : members.map Prod.fst=keys) :
    exactKeys (fieldsOf members) keys=.ok () := by
  have hall : ∀ key∈members.map Prod.fst,(getField members key).isNone=false := by
    intro key hkey
    clear h hkeys
    induction members with
    | nil => simp at hkey
    | cons m rest ih =>
      rcases m with ⟨k,v⟩
      by_cases hk : k=key
      · simp [hk]
      · simp only [List.map_cons,List.mem_cons] at hkey
        have hrest := hkey.resolve_left (fun e => hk e.symm)
        simp [hk,ih hrest]
  unfold exactKeys
  rw [if_neg]
  rintro (hlen | ⟨key,hkey,hnone⟩)
  · exact hlen (by rw [length_fieldsOf h,← hkeys,List.length_map])
  · rw [getField_fieldsOf h,hall key (by rw [hkeys]; exact hkey)] at hnone
    simp at hnone

theorem required_fieldsOf (key : String) : required (fieldsOf members) key=required members key := by
  simp [required,getField_fieldsOf h]

end Members
section Words

@[simp] theorem sessionKind_wire (v : SessionKind) : sessionKind (sessionKindWire v)=.ok v := by
  cases v <;> rfl

@[simp] theorem toolProfile_wire (v : ToolProfile) : toolProfile (toolProfileWire v)=.ok v := by
  cases v <;> rfl

@[simp] theorem queueMode_wire (v : QueueMode) : queueMode (queueModeWire v)=.ok v := by cases v <;> rfl

@[simp] theorem compactionMode_wire (v : CompactionMode) :
    compactionMode (compactionModeWire v)=.ok v := by cases v <;> rfl

@[simp] theorem promptPurpose_wire (v : PromptPurpose) :
    promptPurpose (promptPurposeWire v)=.ok v := by cases v <;> rfl

@[simp] theorem steerReason_wire (v : SteerReason) : steerReason (steerReasonWire v)=.ok v := by
  cases v <;> rfl

@[simp] theorem abortReason_wire (v : AbortReason) : abortReason (abortReasonWire v)=.ok v := by
  cases v <;> rfl

@[simp] theorem disposeReason_wire (v : DisposeReason) :
    disposeReason (disposeReasonWire v)=.ok v := by cases v <;> rfl

@[simp] theorem commandName_wire (v : CommandName) : commandName (commandNameWire v)=.ok v := by
  cases v <;> rfl

@[simp] theorem provider_wire (v : Provider) : provider (providerWire v)=.ok v := by cases v; rfl

@[simp] theorem modelId_wire (v : ModelId) : modelId (modelIdWire v)=.ok v := by cases v <;> rfl

@[simp] theorem thinkingLevel_wire (v : ThinkingLevel) :
    thinkingLevel (thinkingLevelWire v)=.ok v := by cases v <;> rfl

@[simp] theorem openRouterBaseUrl_wire (v : OpenRouterBaseUrl) :
    openRouterBaseUrl (baseUrlWire v)=.ok v := by cases v; rfl

@[simp] theorem modelApi_wire (v : ModelApi) : modelApi (modelApiWire v)=.ok v := by cases v; rfl

@[simp] theorem canonicalModelSlug_wire (v : CanonicalModelSlug) :
    canonicalModelSlug (canonicalSlugWire v)=.ok v := by cases v <;> rfl

@[simp] theorem modelInput_wire (v : ModelInput) : modelInput (modelInputWire v)=.ok v := by cases v; rfl

@[simp] theorem transport_wire (v : Transport) : transport (transportWire v)=.ok v := by cases v; rfl

@[simp] theorem projectTrust_wire (v : ProjectTrust) : projectTrust (projectTrustWire v)=.ok v := by
  cases v; rfl

@[simp] theorem images_wire (v : Images) : images (imagesWire v)=.ok v := by cases v; rfl

@[simp] theorem parse_closedString {what : String} (v : ClosedString what) :
    ClosedString.parse what v.text=.ok v := by simp [ClosedString.parse,v.valid]

@[simp] theorem parse_blake3Digest (v : Blake3Digest) : Blake3Digest.parse v.text=.ok v := by
  simp [Blake3Digest.parse,v.valid]

@[simp] theorem parse_absolutePath (v : AbsolutePath) : AbsolutePath.parse v.text=.ok v := by
  simp [AbsolutePath.parse,v.valid]

@[simp] theorem parse_usdPerMillion (v : UsdPerMillionDecimal) :
    UsdPerMillionDecimal.parse v.text=.ok v := by simp [UsdPerMillionDecimal.parse,v.valid]

@[simp] theorem parse_ranged {lo hi : Nat} (what : String) (v : Ranged lo hi) :
    parseRanged lo hi what v.val=.ok v := by simp [parseRanged,v.valid]

end Words
section Sessions

/-- The bind of `Except` on a result, for every layer of the readers. -/
@[simp] theorem ok_bind {α β : Type} (a : α) (f : α → Except ProtocolError β) :
    ((Except.ok a : Except ProtocolError α) >>= f)=f a := rfl

@[simp] theorem error_bind {α β : Type} (e : ProtocolError) (f : α → Except ProtocolError β) :
    ((Except.error e : Except ProtocolError α) >>= f)=.error e := rfl

@[simp] theorem required_cons (key key' : String) (v : Json) (rest : Fields) :
    required ((key',v)::rest) key=if key'=key then .ok v else required rest key := by
  by_cases h : key'=key <;> simp [required,h]

theorem decodeRetry_encodeRetry (r : RetryPolicyV1) :
    ∃ fields,encodeRetry r=.object fields ∧
      exactKeys fields ["maxRetries","baseDelayMilliseconds","providerTimeoutMilliseconds",
        "providerMaxRetries","providerMaxRetryDelayMilliseconds"]=.ok () ∧
      decodeRetry fields=.ok r := by
  rcases r with ⟨a,b,c,d,e⟩
  refine ⟨_,rfl,exactKeys_fieldsOf (by simp) rfl,?_⟩
  simp [decodeRetry,nonnegative,positive,unsigned,required_fieldsOf,jsonU64,a.valid.2,b.valid.2,
    c.valid.2,d.valid.2,e.valid.2]

theorem decodeCompaction_encodeCompaction (c : CompactionPolicyV1) :
    ∃ fields,encodeCompaction c=.object fields ∧
      exactKeys fields ["mode","reserveTokens","keepRecentTokens"]=.ok () ∧
      decodeCompaction fields=.ok c := by
  rcases c with ⟨mode,reserve,keep⟩
  refine ⟨_,rfl,exactKeys_fieldsOf (by simp) rfl,?_⟩
  simp [decodeCompaction,string,nonnegative,unsigned,required_fieldsOf,jsonU64,jsonString,
    reserve.valid.2,keep.valid.2]

theorem decodeSettings_encodeSettings (s : ActorModelPolicyV1) :
    ∃ fields,encodeSettings s=.object fields ∧ decodeSettings fields=.ok s := by
  rcases s with ⟨retry,compaction,steering,followUp,transport,trust,telemetry,analytics,images⟩
  obtain ⟨retries,hretries,hretryKeys,hretry⟩ := decodeRetry_encodeRetry retry
  obtain ⟨sizes,hsizes,hsizeKeys,hsize⟩ := decodeCompaction_encodeCompaction compaction
  cases telemetry
  cases analytics
  refine ⟨_,rfl,?_⟩
  simp [decodeSettings,exactKeys_fieldsOf,objectField,object,string,boolean,disabled,
    required_fieldsOf,hretries,hretryKeys,hretry,hsizes,hsizeKeys,hsize,jsonString,jsonBool]

theorem decodeForumSessionContract_encode (c : ForumSessionContractV1) :
    ∃ fields,encodeForumSessionContract c=.object fields ∧
      ∀ d,decodeForumSessionContract fields=.ok d → d=c := by
  cases c with
  | forumEnabledV1 awareness tools =>
    refine ⟨_,rfl,?_⟩
    intro d hdec
    simp [decodeForumSessionContract,string,jsonString,exactKeys_fieldsOf,required_fieldsOf] at hdec
    cases hpin : (ForumSessionContractV1.forumEnabledV1 awareness tools).assertPinned with
    | error e => simp [hpin] at hdec
    | ok u => simpa [hpin] using hdec.symm
  | sequesteredV1 =>
    refine ⟨_,rfl,?_⟩
    intro d hdec
    simp [decodeForumSessionContract,exactKeys_fieldsOf,string,required_fieldsOf,jsonString] at hdec
    exact hdec.symm

theorem decodeModelSelection_encode (m : ModelSelection) :
    ∃ fields,encodeModelSelection m=.object fields ∧
      exactKeys fields ["provider","modelId","thinkingLevel"]=.ok () ∧
      literal fields "provider" "openrouter"=.ok () ∧ decodeModelSelection fields=.ok m := by
  rcases m with ⟨p,m,t⟩
  refine ⟨_,rfl,exactKeys_fieldsOf (by simp) rfl,?_,?_⟩
  · cases p
    simp [literal,string,required_fieldsOf,jsonString,providerWire]
  · simp [decodeModelSelection,string,required_fieldsOf,jsonString]

theorem decodeKnownRate_encodeRate (r : KnownPerMillionRateV1) :
    ∃ fields,encodeRate r=.object fields ∧ decodeKnownRate fields=.ok r ∧
      string fields "kind"=.ok "Known" := by
  refine ⟨_,rfl,?_,?_⟩
  · simp [decodeKnownRate,exactKeys_fieldsOf,literal,string,required_fieldsOf,jsonString]
  · simp [string,required_fieldsOf,jsonString]

theorem decodeCacheWriteRate_encode (r : CacheWritePerMillionRateV1) :
    ∃ fields,encodeCacheWriteRate r=.object fields ∧ decodeCacheWriteRate fields=.ok r := by
  cases r with
  | known rate =>
    obtain ⟨fields,henc,hdec,hkind⟩ := decodeKnownRate_encodeRate rate
    exact ⟨fields,henc,by simp [decodeCacheWriteRate,hkind,hdec]⟩
  | absent =>
    refine ⟨_,rfl,?_⟩
    simp [decodeCacheWriteRate,exactKeys_fieldsOf,string,required_fieldsOf,jsonString]

theorem decodeEffectiveModel_encode (m : EffectiveModelDescriptorV1) :
    ∃ fields,encodeEffectiveModel m=.object fields ∧
      exactKeys fields ["provider","baseUrl","api","modelId","canonicalSlug","input","contextWindow",
        "maxTokens","inputUsdPerMillion","outputUsdPerMillion","cacheReadUsdPerMillion",
        "cacheWriteUsdPerMillion"]=.ok () ∧ decodeEffectiveModel fields=.ok m := by
  rcases m with ⟨p,url,api,model,slug,input,window,tokens,inputRate,outputRate,readRate,writeRate⟩
  obtain ⟨fi,hfi,hi,-⟩ := decodeKnownRate_encodeRate inputRate
  obtain ⟨fo,hfo,ho,-⟩ := decodeKnownRate_encodeRate outputRate
  obtain ⟨fr,hfr,hr,-⟩ := decodeKnownRate_encodeRate readRate
  obtain ⟨fw,hfw,hw⟩ := decodeCacheWriteRate_encode writeRate
  refine ⟨_,rfl,exactKeys_fieldsOf (by simp) rfl,?_⟩
  simp [decodeEffectiveModel,string,objectField,object,positive,unsigned,required_fieldsOf,jsonString,
    jsonU64,hfi,hi,hfo,ho,hfr,hr,hfw,hw,window.valid.2,tokens.valid.2]

theorem decodeModelCatalog_encode (c : ModelCatalogPolicyV1) :
    ∃ fields,encodeModelCatalog c=.object fields ∧ decodeModelCatalog fields=.ok c := by
  obtain ⟨model,hmodel,hkeys,hdec⟩ := decodeEffectiveModel_encode c.effectiveModel
  refine ⟨_,rfl,?_⟩
  simp [decodeModelCatalog,exactKeys_fieldsOf,string,objectField,object,required_fieldsOf,jsonString,
    hmodel,hkeys,hdec]

/-- The members of a session read back, unless a check of theirs refuses them. -/
theorem decodeSessionMembers_encode (p : CreateSessionPayload) :
    ∃ fields,encodeCreateSession p=.object fields ∧
      required fields "model"=.ok (encodeModelSelection p.model) ∧
      exactKeys fields ["sessionKind","cwd","agentDirectory","authPath","modelsPath","sessionDirectory",
        "systemPrompt","systemPromptDigest","model","modelCatalog","toolProfile","settings",
        "forumContract"]=.ok () ∧
      ∀ q,decodeSessionMembers fields p.model=.ok q → q=p := by
  obtain ⟨catalog,hcatalog,hc⟩ := decodeModelCatalog_encode p.modelCatalog
  obtain ⟨settings,hsettings,hs⟩ := decodeSettings_encodeSettings p.settings
  obtain ⟨forum,hforum,hsame⟩ := decodeForumSessionContract_encode p.forumContract
  refine ⟨_,rfl,?_,exactKeys_fieldsOf (by simp) rfl,?_⟩
  · simp [required_fieldsOf]
  intro q hdec
  by_cases hprompt : p.systemPrompt=""
  · simp [decodeSessionMembers,string,path,nonempty,required_fieldsOf,jsonString,hprompt] at hdec
  cases hf : decodeForumSessionContract forum with
  | error e =>
    simp [decodeSessionMembers,string,path,nonempty,objectField,object,required_fieldsOf,jsonString,
      hprompt,hcatalog,hc,hsettings,hs,hforum,hf] at hdec
  | ok f =>
    simp [decodeSessionMembers,string,path,nonempty,objectField,object,required_fieldsOf,jsonString,
      hprompt,hcatalog,hc,hsettings,hs,hforum,hf,hsame f hf] at hdec
    exact hdec.symm

theorem decodeCreateSession_encode (p : CreateSessionPayload) :
    ∃ fields,encodeCreateSession p=.object fields ∧ ∀ q,decodeCreateSession fields=.ok q → q=p := by
  obtain ⟨model,hmodel,hmodelKeys,hlit,hm⟩ := decodeModelSelection_encode p.model
  obtain ⟨fields,henc,hreq,hkeys,hsame⟩ := decodeSessionMembers_encode p
  refine ⟨fields,henc,?_⟩
  intro q hdec
  simp only [decodeCreateSession,objectField,object,hkeys,hreq,hmodel,hmodelKeys,hlit,hm,ok_bind] at hdec
  split at hdec
  · cases hdec
  cases hrest : decodeSessionMembers fields p.model with
  | error e => simp [hrest] at hdec
  | ok r =>
    have hr : r=p := hsame r hrest
    cases hcheck : p.check with
    | error e => simp [hrest,hr,hcheck] at hdec
    | ok u =>
      simp [hrest,hr,hcheck] at hdec
      exact hdec.symm

end Sessions
section Frames

/-- A payload that is read back at all is read back as the command it was written for. -/
theorem decodePayload_encodePayload (c : InboundCommand) :
    ∃ fields,encodePayload c=.object fields ∧ ∀ d,decodePayload c.name fields=.ok d → d=c := by
  cases c with
  | createSession p =>
    obtain ⟨fields,henc,hsame⟩ := decodeCreateSession_encode p
    refine ⟨fields,henc,?_⟩
    intro d hdec
    cases hp : decodeCreateSession fields with
    | error e => simp [InboundCommand.name,decodePayload,hp] at hdec
    | ok q =>
      simp [InboundCommand.name,decodePayload,hp,hsame q hp] at hdec
      exact hdec.symm
  | prompt purpose text =>
    refine ⟨_,rfl,?_⟩
    intro d hdec
    by_cases ht : text=""
    all_goals simp [InboundCommand.name,decodePayload,exactKeys_fieldsOf,string,nonempty,
      required_fieldsOf,jsonString,ht] at hdec
    exact hdec.symm
  | followUp notice frontier text =>
    refine ⟨_,rfl,?_⟩
    intro d hdec
    by_cases ht : text=""
    all_goals simp [InboundCommand.name,decodePayload,exactKeys_fieldsOf,string,nonempty,unsigned,
      required_fieldsOf,jsonString,jsonU64,frontier.valid.2,ht] at hdec
    exact hdec.symm
  | steer reason text =>
    refine ⟨_,rfl,?_⟩
    intro d hdec
    by_cases ht : text=""
    all_goals simp [InboundCommand.name,decodePayload,exactKeys_fieldsOf,string,nonempty,
      required_fieldsOf,jsonString,ht] at hdec
    exact hdec.symm
  | abort reason =>
    refine ⟨_,rfl,?_⟩
    intro d hdec
    simp [InboundCommand.name,decodePayload,exactKeys_fieldsOf,string,required_fieldsOf,jsonString] at hdec
    exact hdec.symm
  | getState =>
    refine ⟨_,rfl,?_⟩
    intro d hdec
    simp [InboundCommand.name,decodePayload,exactKeys_fieldsOf] at hdec
    exact hdec.symm
  | dispose reason =>
    refine ⟨_,rfl,?_⟩
    intro d hdec
    simp [InboundCommand.name,decodePayload,exactKeys_fieldsOf,string,required_fieldsOf,jsonString] at hdec
    exact hdec.symm
  | forumToolResult call result isError =>
    refine ⟨_,rfl,?_⟩
    intro d hdec
    simp [InboundCommand.name,decodePayload,exactKeys_fieldsOf,string,boolean,required_fieldsOf,
      jsonString,jsonBool] at hdec
    exact hdec.symm

theorem decodeFrame_encodeFrame {f g : InboundFrame} (hdec : decodeFrame (encodeFrame f)=.ok g) :
    g=f := by
  obtain ⟨payload,hpayload,hsame⟩ := decodePayload_encodePayload f.command
  cases hcommand : decodePayload f.command.name payload with
  | error e =>
    simp [decodeFrame,encodeFrame,jsonObject,object,exactKeys_fieldsOf,literal,string,boundarySequence,
      unsigned,objectField,required_fieldsOf,jsonString,jsonU64,f.sequence.valid.2,hpayload,hcommand] at hdec
  | ok c =>
    simp [decodeFrame,encodeFrame,jsonObject,object,exactKeys_fieldsOf,literal,string,boundarySequence,
      unsigned,objectField,required_fieldsOf,jsonString,jsonU64,f.sequence.valid.2,hpayload,hcommand,
      hsame c hcommand] at hdec
    exact hdec.symm

end Frames
section Texts
variable (lib : JsonLibrary)

def Number.readBack : Number → Json
  | .u64 n => .number (.u64 n)
  | .i64 n => if 0≤n then .number (.u64 n.toNat) else .number (.i64 n)
  | .f64 bits => if isFinite bits then .number (.f64 bits) else .null

mutual

/-- What the reader makes of the text of a value: an integer of either kind becomes the unsigned one
where it can, and what is no number of the grammar was written as `null`. -/
def Json.readBack : Json → Json
  | .null => .null
  | .bool b => .bool b
  | .number n => n.readBack
  | .string s => .string s
  | .array items => .array (readBackItems items)
  | .object fields => .object (readBackFields fields)

def readBackItems : List Json → List Json
  | [] => []
  | v::rest => v.readBack::readBackItems rest

def readBackFields : List (String × Json) → List (String × Json)
  | [] => []
  | (key,v)::rest => (key,v.readBack)::readBackFields rest

end

theorem write_readBack_number (n : Number) : write lib n.readBack=writeNumber lib n := by
  cases n with
  | u64 n => rfl
  | i64 n =>
    by_cases h : 0≤n
    · have hneg : ¬n<0 := by omega
      have habs : n.natAbs=n.toNat := by omega
      simp [Number.readBack,h,hneg,habs,write,writeNumber]
    · simp [Number.readBack,h,write]
  | f64 bits =>
    by_cases h : isFinite bits=true
    · simp [Number.readBack,h,write]
    · simp [Number.readBack,h,write,writeNumber]

mutual

theorem write_readBack (v : Json) : write lib v.readBack=write lib v := by
  cases v with
  | null => rfl
  | bool b => rfl
  | number n => simp [Json.readBack,write,write_readBack_number]
  | string s => rfl
  | array items => simp [Json.readBack,write,writeItems_readBack items]
  | object fields => simp [Json.readBack,write,writeFields_readBack fields]

theorem writeItems_readBack (items : List Json) :
    writeItems lib (readBackItems items)=writeItems lib items := by
  match items with
  | [] => rfl
  | [v] => simp [readBackItems,writeItems,write_readBack v]
  | v::w::rest =>
    have hrest := writeItems_readBack (w::rest)
    simp only [readBackItems] at hrest
    simp [readBackItems,writeItems,write_readBack v,hrest]

theorem writeFields_readBack (fields : List (String × Json)) :
    writeFields lib (readBackFields fields)=writeFields lib fields := by
  match fields with
  | [] => rfl
  | [(key,v)] => simp [readBackFields,writeFields,write_readBack v]
  | (key,v)::(key',w)::rest =>
    have hrest := writeFields_readBack ((key',w)::rest)
    simp only [readBackFields] at hrest
    simp [readBackFields,writeFields,write_readBack v,hrest]

end

theorem readBackFields_insertField (key : String) (v : Json) (fields : Fields) :
    readBackFields (insertField key v fields)=insertField key v.readBack (readBackFields fields) := by
  induction fields with
  | nil => rfl
  | cons f rest ih =>
    rcases f with ⟨k,w⟩
    unfold insertField
    by_cases hk : key=k
    · simp [hk,readBackFields]
    · by_cases hlt : key<k
      · simp [hk,hlt,readBackFields]
      · simp [hk,hlt,readBackFields,ih]

theorem readBackFields_foldl (members fields : Fields) :
    readBackFields (members.foldl (fun fields m => insertField m.1 m.2 fields) fields)=
      (readBackFields members).foldl (fun fields m => insertField m.1 m.2 fields)
        (readBackFields fields) := by
  induction members generalizing fields with
  | nil => rfl
  | cons m rest ih =>
    rcases m with ⟨k,v⟩
    simp [readBackFields,ih,readBackFields_insertField]

theorem readBack_jsonObject (members : Fields) :
    (jsonObject members).readBack=jsonObject (readBackFields members) := by
  simp [jsonObject,fieldsOf,Json.readBack,readBackFields_foldl,readBackFields]

@[simp] theorem readBack_jsonString (s : String) : (jsonString s).readBack=jsonString s := rfl

@[simp] theorem readBack_jsonU64 (n : Nat) : (jsonU64 n).readBack=jsonU64 n := rfl

@[simp] theorem readBack_jsonBool (b : Bool) : (jsonBool b).readBack=jsonBool b := rfl

theorem readBack_encodeRate (r : KnownPerMillionRateV1) : (encodeRate r).readBack=encodeRate r := by
  simp [encodeRate,readBack_jsonObject,readBackFields]

theorem readBack_encodeModelCatalog (c : ModelCatalogPolicyV1) :
    (encodeModelCatalog c).readBack=encodeModelCatalog c := by
  have hwrite : (encodeCacheWriteRate c.effectiveModel.cacheWriteUsdPerMillion).readBack=
      encodeCacheWriteRate c.effectiveModel.cacheWriteUsdPerMillion := by
    cases c.effectiveModel.cacheWriteUsdPerMillion with
    | known rate => exact readBack_encodeRate rate
    | absent => simp [encodeCacheWriteRate,readBack_jsonObject,readBackFields]
  simp [encodeModelCatalog,encodeEffectiveModel,readBack_jsonObject,readBackFields,readBack_encodeRate,
    hwrite]

theorem readBack_encodeSettings (s : ActorModelPolicyV1) :
    (encodeSettings s).readBack=encodeSettings s := by
  simp [encodeSettings,encodeRetry,encodeCompaction,readBack_jsonObject,readBackFields]

theorem readBack_encodeCreateSession (p : CreateSessionPayload) :
    (encodeCreateSession p).readBack=encodeCreateSession p := by
  have hforum : (encodeForumSessionContract p.forumContract).readBack=
      encodeForumSessionContract p.forumContract := by
    cases p.forumContract <;>
      simp [encodeForumSessionContract,readBack_jsonObject,readBackFields]
  simp [encodeCreateSession,encodeModelSelection,readBack_jsonObject,readBackFields,
    readBack_encodeModelCatalog,readBack_encodeSettings,hforum]

/-- The frame whose result is the value that is read back. -/
def InboundFrame.readBack (f : InboundFrame) : InboundFrame :=
  { f with command := match f.command with
    | .forumToolResult call result isError => .forumToolResult call result.readBack isError
    | c => c }

theorem readBack_encodeFrame (f : InboundFrame) : (encodeFrame f).readBack=encodeFrame f.readBack := by
  rcases f with ⟨sequence,session,correlation,command⟩
  cases command
  all_goals simp [encodeFrame,encodePayload,InboundFrame.readBack,InboundCommand.name,
    readBack_jsonObject,readBackFields,readBack_encodeCreateSession]

end Texts
section Lines
variable (lib : JsonLibrary)

theorem space_le_digit {c : Char} (h : c.isDigit=true) : 32 ≤ c.toNat := by
  have hdigit : 48 ≤ c.toNat ∧ c.toNat≤57 := by simpa [Char.isDigit,Char.le_def,UInt32.le_iff_toNat_le] using h
  omega

theorem space_le_escapeDigit {n : Nat} (h : n<16) : 32≤(escapeDigit n).toNat := by
  have hall : ∀ k : Fin 16,32≤(escapeDigit k.val).toNat := by decide
  exact hall ⟨n,h⟩

theorem space_le_escaped {x c : Char} (h : c∈escaped x) : 32 ≤ c.toNat := by
  unfold escaped at h
  split at h
  · simp only [List.mem_cons,List.not_mem_nil,or_false] at h
    rcases h with rfl | rfl <;> decide
  split at h
  · simp only [List.mem_cons,List.not_mem_nil,or_false] at h
    rcases h with rfl | rfl <;> decide
  iterate 5
    split at h
    · simp only [List.mem_cons,List.not_mem_nil,or_false] at h
      rcases h with rfl | rfl <;> decide
  split at h
  · rename_i hx
    simp only [List.mem_cons,List.not_mem_nil,or_false] at h
    rcases h with rfl | rfl | rfl | rfl | rfl | rfl
    any_goals decide
    · exact space_le_escapeDigit (by omega)
    · exact space_le_escapeDigit (by omega)
  · simp only [List.mem_singleton] at h
    subst h
    omega

theorem space_le_quoted {s : String} {c : Char} (h : c∈quoted s) : 32 ≤ c.toNat := by
  simp only [quoted,List.mem_cons,List.mem_append,List.mem_flatMap,List.not_mem_nil,or_false] at h
  rcases h with rfl | ⟨x,-,hx⟩ | rfl
  · decide
  · exact space_le_escaped hx
  · decide

theorem space_le_writeNumber {n : Number} {c : Char} (h : c∈writeNumber lib n) : 32 ≤ c.toNat := by
  have hdigits : ∀ k,c∈Nat.toDigits 10 k → 32 ≤ c.toNat := by
    intro k hk
    exact space_le_digit (Nat.isDigit_of_mem_toDigits (by omega) (by omega) hk)
  cases n with
  | u64 n => exact hdigits n h
  | i64 n =>
    simp only [writeNumber,List.mem_append] at h
    rcases h with h | h
    · split at h
      · simp only [List.mem_singleton] at h
        subst h
        decide
      · simp at h
    · exact hdigits _ h
  | f64 bits =>
    simp only [writeNumber] at h
    split at h
    · rcases lib.plain bits c h with hd | hmark
      · exact space_le_digit hd
      · simp only [List.mem_cons,List.not_mem_nil,or_false] at hmark
        rcases hmark with rfl | rfl | rfl | rfl | rfl <;> decide
    · simp only [List.mem_cons,List.not_mem_nil,or_false] at h
      rcases h with rfl | rfl | rfl | rfl <;> decide

mutual

/-- No character of a value's text is a control character. -/
theorem space_le_write (v : Json) : ∀ c∈write lib v,32 ≤ c.toNat := by
  intro c h
  cases v with
  | null =>
    simp only [write,List.mem_cons,List.not_mem_nil,or_false] at h
    rcases h with rfl | rfl | rfl | rfl <;> decide
  | bool b =>
    cases b <;> simp only [write,List.mem_cons,List.not_mem_nil,or_false] at h
    · rcases h with rfl | rfl | rfl | rfl | rfl <;> decide
    · rcases h with rfl | rfl | rfl | rfl <;> decide
  | number n => exact space_le_writeNumber lib h
  | string s => exact space_le_quoted h
  | array items =>
    simp only [write,List.mem_cons,List.mem_append,List.not_mem_nil,or_false] at h
    rcases h with rfl | h | rfl
    · decide
    · exact space_le_writeItems items c h
    · decide
  | object fields =>
    simp only [write,List.mem_cons,List.mem_append,List.not_mem_nil,or_false] at h
    rcases h with rfl | h | rfl
    · decide
    · exact space_le_writeFields fields c h
    · decide

theorem space_le_writeItems (items : List Json) : ∀ c∈writeItems lib items,32 ≤ c.toNat := by
  intro c h
  match items with
  | [] => simp [writeItems] at h
  | [v] => exact space_le_write v c h
  | v::w::rest =>
    simp only [writeItems,List.mem_append,List.mem_cons] at h
    rcases h with h | rfl | h
    · exact space_le_write v c h
    · decide
    · exact space_le_writeItems (w::rest) c h

theorem space_le_writeFields (fields : List (String × Json)) :
    ∀ c∈writeFields lib fields,32 ≤ c.toNat := by
  intro c h
  match fields with
  | [] => simp [writeFields] at h
  | [(key,v)] =>
    simp only [writeFields,List.mem_append,List.mem_cons] at h
    rcases h with h | rfl | h
    · exact space_le_quoted h
    · decide
    · exact space_le_write v c h
  | (key,v)::f::rest =>
    simp only [writeFields,List.mem_append,List.mem_cons] at h
    rcases h with h | rfl | h | rfl | h
    · exact space_le_quoted h
    · decide
    · exact space_le_write v c h
    · decide
    · exact space_le_writeFields (f::rest) c h

end

/-- Equality of commands as the source has it: two results are equal when they are written the
same. -/
def InboundCommand.Same : InboundCommand → InboundCommand → Prop
  | .forumToolResult call result isError,.forumToolResult call' result' isError' =>
    call=call' ∧ isError=isError' ∧ jsonValuesEqual lib result result'=true
  | c,d => c=d

def InboundFrame.Same (f g : InboundFrame) : Prop :=
  f.sequence=g.sequence ∧ f.sessionIdentity=g.sessionIdentity ∧
    f.correlationIdentity=g.correlationIdentity ∧ f.command.Same lib g.command

theorem same_readBack (f : InboundFrame) : f.readBack.Same lib f := by
  rcases f with ⟨sequence,session,correlation,command⟩
  cases command
  all_goals simp [InboundFrame.Same,InboundFrame.readBack,InboundCommand.Same,jsonValuesEqual,
    write_readBack]

end Lines
section Samples

/-- A library that reads one known line, and strings without escapes. -/
def sampleLibrary (line : List Char) (v : Json) : JsonLibrary where
  formatFinite _ := ['0','.','5']
  plain bits c hc := by
    simp only [List.mem_cons,List.not_mem_nil,or_false] at hc
    rcases hc with rfl | rfl | rfl <;> decide
  parse text :=
    if text=line then some v
    else match text with
      | '"'::rest => some (.string (String.ofList rest.dropLast))
      | _ => none

theorem sampleLibrary_parse (line : List Char) (v : Json) :
    (sampleLibrary line v).parse line=some v := by simp [sampleLibrary]

/-- A tool result whose number the caller made as a signed one. -/
def answerFrame : InboundFrame where
  sequence := ⟨5,by decide⟩
  sessionIdentity := ⟨"s",by decide⟩
  correlationIdentity := ⟨"c",by decide⟩
  command := .forumToolResult ⟨"t",by decide⟩ (.object [("n",.number (.i64 5))]) false

def answerText : List Char :=
  write (sampleLibrary [] .null) (encodeFrame answerFrame)

def answerLibrary : JsonLibrary := sampleLibrary answerText (encodeFrame answerFrame).readBack

theorem encodeInboundJsonl_read {lib : JsonLibrary} {frame g : InboundFrame} {text : List Char}
    {v : Json} (hwrite : write lib (encodeFrame frame)=text)
    (hshort : (utf8 (String.ofList text)).length ≤ maxJsonlFrameBytes)
    (hscan : rejectDuplicateObjectKeys lib.decodeString text=.ok ()) (hparse : lib.parse text=some v)
    (hdec : decodeFrame v=.ok g) : encodeInboundJsonl lib frame=.ok (String.ofList text) := by
  have hnot : ¬maxJsonlFrameBytes<(utf8 (String.ofList text)).length := by omega
  simp only [encodeInboundJsonl,decodeInboundJsonl,decodeFrameValue,hwrite,hnot,if_false,
    String.toList_ofList,hscan,hparse,ok_bind,hdec]

end Samples
end Society.Boundary
