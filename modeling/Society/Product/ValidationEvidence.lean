import Society.OpenRecords
import Society.Product.MaterializerLaws

namespace Society.Product
open Society.Coding
open Society.Kernel (Blake3Digest hexText isAsciiAlphanumeric)

/-! What the bytes under the digest of a validation tell of its steps. -/

section Words

def digestField (d : OutputDigest) : Bytes := utf8 (hexText d.digest)

def argumentField (a : ValidationProgramArgument) : Bytes := utf8 a.value

def programField (p : AssignedValidationProgram) : Bytes := p.path.encoded

theorem hexDigits_of_hex {bytes : Bytes} {b : UInt8} (h : b∈utf8 (hex bytes)) :
    (hexNibble b).isSome=true := by
  rw [utf8_hex] at h
  obtain ⟨c,-,hb⟩ := List.mem_flatMap.mp h
  obtain ⟨hhigh,hlow⟩ := nibble_bounds c
  simp only [List.mem_cons,List.not_mem_nil,or_false] at hb
  rcases hb with rfl | rfl
  · simp [hexNibble_digitByte ⟨_,hhigh⟩]
  · simp [hexNibble_digitByte ⟨_,hlow⟩]

theorem hex_injective {bytes bytes' : Bytes} (h : utf8 (hex bytes)=utf8 (hex bytes')) :
    bytes=bytes' := by
  rw [utf8_hex,utf8_hex] at h
  have hb := decodePairs_hex bytes
  rw [h,decodePairs_hex] at hb
  exact (Option.some.inj hb).symm

theorem length_hex (bytes : Bytes) : (utf8 (hex bytes)).length=bytes.length*2 := by
  simp [utf8_hex,List.length_flatMap]

theorem hex_unterminated (bytes : Bytes) : (0 : UInt8)∉utf8 (hex bytes) := by
  intro h
  exact absurd (hexDigits_of_hex h) (by decide)

theorem digestField_injective {d e : OutputDigest} (h : digestField d=digestField e) : d=e :=
  OutputDigest.ext (Kernel.Blake3Digest.ext (hex_injective h))

theorem length_digestField (d : OutputDigest) : (digestField d).length=64 := by
  have h := length_hex d.digest.bytes
  rw [d.digest.valid] at h
  exact h

theorem argumentField_injective {a b : ValidationProgramArgument}
    (h : argumentField a=argumentField b) : a=b :=
  ValidationProgramArgument.ext (utf8_injective h)

/-- Names behind a slash each are names with a slash after each, but for the ends. -/
theorem slashed_closed (path : Path) :
    path.flatMap (fun name => 47::name)++[47]=47::closed 47 path := by
  induction path with
  | nil => rfl
  | cons name path ih =>
    rw [List.flatMap_cons,List.append_assoc,ih]
    simp [closed]

variable {p q : AssignedValidationProgram}

theorem program_ne_nil (p : AssignedValidationProgram) : p.path≠[] := by
  have h := p.valid
  rintro he
  simp [isProgramPath,he] at h

theorem program_name (p : AssignedValidationProgram) {name : Bytes} (hn : name∈p.path) :
    (0 : UInt8)∉name ∧ (47 : UInt8)∉name := by
  have h := p.valid
  simp only [isProgramPath,Bool.and_eq_true,List.all_eq_true] at h
  have hname := h.1.2 name hn
  simp only [isPathName,Bool.and_eq_true,Bool.not_eq_true',List.contains_eq_mem,
    decide_eq_false_iff_not] at hname
  exact ⟨hname.1.1.1.2,hname.1.1.2⟩

theorem programField_eq (p : AssignedValidationProgram) :
    programField p=p.path.flatMap (fun name => 47::name) := if_neg (program_ne_nil p)

theorem programField_injective (h : programField p=programField q) : p=q := by
  apply AssignedValidationProgram.ext
  rw [programField_eq,programField_eq] at h
  have hclosed : 47::closed 47 p.path=47::closed 47 q.path := by
    rw [← slashed_closed,← slashed_closed,h]
  exact closed_injective (fun _ hl => (program_name p hl).2) (fun _ hl => (program_name q hl).2)
    (List.cons.inj hclosed).2

theorem programField_unterminated (p : AssignedValidationProgram) : (0 : UInt8)∉programField p := by
  rw [programField_eq]
  intro h
  obtain ⟨name,hn,hb⟩ := List.mem_flatMap.mp h
  rcases List.mem_cons.mp hb with hb | hb
  · exact absurd hb (by decide)
  · exact (program_name p hn).1 hb

/-- A path begins with a slash, which is no digit. -/
theorem programField_ne_digest (p : AssignedValidationProgram) (d : OutputDigest) :
    digestField d≠programField p := by
  intro h
  obtain ⟨name,path,hp⟩ := List.exists_cons_of_ne_nil (program_ne_nil p)
  have hslash : (47 : UInt8)∈programField p := by
    rw [programField_eq,hp]
    simp
  rw [← h] at hslash
  exact absurd (hexDigits_of_hex hslash) (by decide)

/-- The fields of a validation, as the words of records. -/
def validationVocabulary : Vocabulary Bytes where
  check := utf8 "git-diff-check"
  program := utf8 "externally-supervised-program-v1"
  digest b := ∃ d,digestField d=b
  path b := ∃ p,programField p=b
  argument b := ∃ a,argumentField a=b
  distinct := by decide +kernel
  check_open := by
    rintro ⟨d,hd⟩
    have := length_digestField d
    rw [hd] at this
    exact absurd this (by decide +kernel)
  program_open := by
    rintro ⟨d,hd⟩
    have := length_digestField d
    rw [hd] at this
    exact absurd this (by decide +kernel)
  path_open := by
    rintro _ ⟨p,rfl⟩ ⟨d,hd⟩
    exact programField_ne_digest p d hd
  check_argument := ⟨⟨"git-diff-check",by decide +kernel⟩,rfl⟩
  program_argument := ⟨⟨"externally-supervised-program-v1",by decide +kernel⟩,rfl⟩
  digest_argument := by
    rintro _ ⟨d,rfl⟩
    refine ⟨⟨hexText d.digest,hex_unterminated d.digest.bytes,?_⟩,rfl⟩
    exact Nat.le_trans (Nat.le_of_eq (length_digestField d)) (by decide)

end Words
section Steps

def ValidationStepReceipt.record (step : ValidationStepReceipt) : OpenRecord Bytes :=
  match step.command with
  | .gitDiffCheck => .check (digestField step.stdout) (digestField step.stderr)
  | .externallySupervisedProgram invocation =>
    .program (programField invocation.program) (invocation.arguments.map argumentField)
      (digestField step.stdout) (digestField step.stderr)

def records (steps : List ValidationStepReceipt) : List (OpenRecord Bytes) := steps.map (·.record)

variable {steps steps' : List ValidationStepReceipt}

theorem record_sound (step : ValidationStepReceipt) : validationVocabulary.Sound step.record := by
  obtain ⟨command,out,err⟩ := step
  cases command with
  | gitDiffCheck => exact ⟨⟨out,rfl⟩,⟨err,rfl⟩⟩
  | externallySupervisedProgram invocation =>
    refine ⟨⟨_,rfl⟩,fun a ha => ?_,⟨out,rfl⟩,⟨err,rfl⟩⟩
    obtain ⟨b,-,rfl⟩ := List.mem_map.mp ha
    exact ⟨b,rfl⟩

theorem record_injective {step step' : ValidationStepReceipt} (h : step.record=step'.record) :
    step=step' := by
  obtain ⟨command,out,err⟩ := step
  obtain ⟨command',out',err'⟩ := step'
  cases command with
  | gitDiffCheck =>
    cases command' with
    | gitDiffCheck =>
      obtain ⟨ho,he⟩ := OpenRecord.check.inj h
      have hout : out=out' := digestField_injective ho
      have herr : err=err' := digestField_injective he
      rw [hout,herr]
    | externallySupervisedProgram invocation => cases h
  | externallySupervisedProgram invocation =>
    cases command' with
    | gitDiffCheck => cases h
    | externallySupervisedProgram invocation' =>
      obtain ⟨hp,ha,ho,he⟩ := OpenRecord.program.inj h
      obtain ⟨program,arguments⟩ := invocation
      obtain ⟨program',arguments'⟩ := invocation'
      have hargs : arguments=arguments' :=
        List.map_injective_iff.mpr (fun _ _ => argumentField_injective) ha
      have hprogram : program=program' := programField_injective hp
      have hout : out=out' := digestField_injective ho
      have herr : err=err' := digestField_injective he
      rw [hprogram,hargs,hout,herr]

theorem records_injective (h : records steps=records steps') : steps=steps' :=
  List.map_injective_iff.mpr (fun _ _ => record_injective) h

/-- Every sound record is that of a step. -/
theorem record_surjective {r : OpenRecord Bytes} (h : validationVocabulary.Sound r) :
    ∃ step : ValidationStepReceipt,step.record=r := by
  cases r with
  | check o e =>
    obtain ⟨⟨out,rfl⟩,⟨err,rfl⟩⟩ := h
    exact ⟨⟨.gitDiffCheck,out,err⟩,rfl⟩
  | program path args o e =>
    obtain ⟨⟨p,rfl⟩,hargs,⟨out,rfl⟩,⟨err,rfl⟩⟩ := h
    obtain ⟨arguments,rfl⟩ : ∃ arguments,List.map argumentField arguments=args := by
      induction args with
      | nil => exact ⟨[],rfl⟩
      | cons a args ih =>
        obtain ⟨b,rfl⟩ := hargs a List.mem_cons_self
        obtain ⟨bs,rfl⟩ := ih (fun x hx => hargs x (List.mem_cons_of_mem _ hx))
        exact ⟨b::bs,rfl⟩
    exact ⟨⟨.externallySupervisedProgram ⟨p,arguments⟩,out,err⟩,rfl⟩

theorem records_surjective {rs : List (OpenRecord Bytes)}
    (h : ∀ r∈rs,validationVocabulary.Sound r) : ∃ steps,records steps=rs := by
  induction rs with
  | nil => exact ⟨[],rfl⟩
  | cons r rs ih =>
    obtain ⟨step,rfl⟩ := record_surjective (h r List.mem_cons_self)
    obtain ⟨steps,rfl⟩ := ih (fun x hx => h x (List.mem_cons_of_mem _ hx))
    exact ⟨step::steps,rfl⟩

theorem records_sound (steps : List ValidationStepReceipt) :
    ∀ r∈records steps,validationVocabulary.Sound r := by
  intro r hr
  obtain ⟨step,-,rfl⟩ := List.mem_map.mp hr
  exact record_sound step

end Steps
section Evidence
variable {profile profile' : ValidationProfileId} {tree tree' : TreeId}
  {steps steps' : List ValidationStepReceipt}

/-- The fields under the digest, each of which a zero byte closes. -/
def validationFields (profile : ValidationProfileId) (tree : TreeId)
    (steps : List ValidationStepReceipt) : List Bytes :=
  utf8 profile.value::utf8 tree.toHex::validationVocabulary.text (records steps)

theorem stepBytes_closed (step : ValidationStepReceipt) :
    stepBytes step=closed 0 (validationVocabulary.fields step.record) := by
  obtain ⟨command,out,err⟩ := step
  cases command with
  | gitDiffCheck =>
    simp [stepBytes,commandBytes,closed,Vocabulary.fields,ValidationStepReceipt.record,digestField,
      validationVocabulary]
  | externallySupervisedProgram invocation =>
    have hargs (l : List ValidationProgramArgument) (b : Bytes) :
        l.flatMap (fun a => 0::utf8 a.value)++0::b=
          0::((l.map argumentField).flatMap (·++[0])++b) := by
      induction l with
      | nil => rfl
      | cons a l ih => simp [ih,argumentField]
    simp only [stepBytes,commandBytes,closed,Vocabulary.fields,ValidationStepReceipt.record,
      digestField,programField,validationVocabulary,List.flatMap_cons,List.flatMap_append,
      List.append_assoc,List.cons_append,List.nil_append,hargs]
    simp

theorem validationBytes_closed (profile : ValidationProfileId) (tree : TreeId)
    (steps : List ValidationStepReceipt) :
    validationBytes profile tree steps=closed 0 (validationFields profile tree steps) := by
  have hsteps : steps.flatMap stepBytes=closed 0 (validationVocabulary.text (records steps)) := by
    induction steps with
    | nil => rfl
    | cons step steps ih =>
      have hcons : validationVocabulary.text (records (step::steps))=
          validationVocabulary.fields step.record++validationVocabulary.text (records steps) := rfl
      rw [List.flatMap_cons,ih,stepBytes_closed,hcons,closed,closed,closed,List.flatMap_append]
  simp [validationBytes,validationFields,hsteps,closed]

theorem identity_unterminated {kind : IdentityKind} (i : Identity kind) :
    (0 : UInt8)∉utf8 i.value := by
  have hvalid := i.valid
  simp only [isClosedIdentity,isName,Bool.and_eq_true,List.all_eq_true,Bool.or_eq_true,beq_iff_eq,
    isAsciiAlphanumeric,decide_eq_true_eq] at hvalid
  have hchars (x : Char) (hx : x∈i.value.toList) : 45≤x.toNat ∧ x.toNat<128 := by
    rcases hvalid.2 x hx with (((h | h) | h) | h) | h
    · omega
    · omega
    · omega
    · rw [h]
      decide
    · rw [h]
      decide
  intro hz
  rw [← String.ofList_toList (s := i.value),utf8_ascii (fun x hx => (hchars x hx).2)] at hz
  obtain ⟨x,hx,hzero⟩ := List.mem_map.mp hz
  have hlow := (hchars x hx).1
  have hsmall := (hchars x hx).2
  have hnat : x.toNat%256=0 := by
    rw [← UInt8.toNat_inj,UInt32.toNat_toUInt8] at hzero
    exact hzero
  omega

theorem fields_unterminated (profile : ValidationProfileId) (tree : TreeId)
    (steps : List ValidationStepReceipt) :
    ∀ l∈validationFields profile tree steps,(0 : UInt8)∉l := by
  have hdigest (d : OutputDigest) : (0 : UInt8)∉digestField d := hex_unterminated _
  intro l hl
  simp only [validationFields,List.mem_cons,Vocabulary.text,List.mem_flatMap,records,
    List.mem_map,exists_exists_and_eq_and] at hl
  rcases hl with rfl | rfl | ⟨⟨command,out,err⟩,-,hl⟩
  · exact identity_unterminated profile
  · exact hex_unterminated _
  · cases command with
    | gitDiffCheck =>
      simp only [ValidationStepReceipt.record,Vocabulary.fields,List.mem_cons,List.not_mem_nil,
        or_false] at hl
      rcases hl with rfl | rfl | rfl
      · decide +kernel
      · exact hdigest out
      · exact hdigest err
    | externallySupervisedProgram invocation =>
      simp only [ValidationStepReceipt.record,Vocabulary.fields,List.mem_cons,List.mem_append,
        List.mem_map,List.not_mem_nil,or_false] at hl
      rcases hl with rfl | rfl | ⟨a,-,rfl⟩ | rfl | rfl
      · decide +kernel
      · exact programField_unterminated _
      · exact a.valid.1
      · exact hdigest out
      · exact hdigest err

theorem toHex_injective (h : utf8 tree.toHex=utf8 tree'.toHex) : tree=tree' := by
  have hbytes : tree.object.bytes=tree'.object.bytes := hex_injective h
  have hlen := congrArg List.length hbytes
  rw [tree.object.valid,tree'.object.valid] at hlen
  have hformat : tree.object.format=tree'.object.format := by
    revert hlen
    cases tree.object.format <;> cases tree'.object.format <;> simp [GitObjectFormat.hexBytes]
  exact TreeId.ext (GitObjectId.ext hformat hbytes)

/-- Equal bytes have equal fields. -/
theorem validationBytes_eq_iff :
    validationBytes profile' tree' steps'=validationBytes profile tree steps ↔
      profile'=profile ∧ tree'=tree ∧
        validationVocabulary.text (records steps')=validationVocabulary.text (records steps) := by
  constructor
  · intro h
    rw [validationBytes_closed,validationBytes_closed] at h
    have hfields := closed_injective (fields_unterminated profile' tree' steps')
      (fields_unterminated profile tree steps) h
    obtain ⟨hprofile,hrest⟩ := List.cons.inj hfields
    obtain ⟨htree,htext⟩ := List.cons.inj hrest
    exact ⟨Identity.ext (utf8_injective hprofile),toHex_injective htree,htext⟩
  · rintro ⟨rfl,rfl,htext⟩
    rw [validationBytes_closed,validationBytes_closed,validationFields,validationFields,htext]

/-- No program step is followed by one that can be read as more arguments of it. -/
def StepsApart (steps : List ValidationStepReceipt) : Prop :=
  validationVocabulary.Unjoined (records steps)

/-- No program step has arguments that can be read as the end of a step and the next one. -/
def StepsWhole (steps : List ValidationStepReceipt) : Prop :=
  validationVocabulary.Unsplit (records steps)

theorem length_records (steps : List ValidationStepReceipt) :
    (records steps).length=steps.length := List.length_map ..

/-- The other readings are those of the records. `P` bounds their number. -/
theorem steps_unique_iff (profile : ValidationProfileId) (tree : TreeId)
    (steps : List ValidationStepReceipt) (P : Nat → Prop) :
    (∀ profile' tree' steps',P steps'.length →
      validationBytes profile' tree' steps'=validationBytes profile tree steps →
        profile'=profile ∧ tree'=tree ∧ steps'=steps) ↔
      ∀ rs,(∀ r∈rs,validationVocabulary.Sound r) → P rs.length →
        validationVocabulary.text rs=validationVocabulary.text (records steps) →
          rs=records steps := by
  constructor
  · intro h rs hrs hp htext
    obtain ⟨steps',rfl⟩ := records_surjective hrs
    rw [length_records] at hp
    rw [(h profile tree steps' hp (validationBytes_eq_iff.mpr ⟨rfl,rfl,htext⟩)).2.2]
  · intro h profile' tree' steps' hp hbytes
    obtain ⟨hprofile,htree,htext⟩ := validationBytes_eq_iff.mp hbytes
    rw [← length_records] at hp
    exact ⟨hprofile,htree,records_injective (h _ (records_sound steps') hp htext)⟩

/-- The bytes under the digest tell the profile and the tree. They tell the steps just when no
step can be read into the one before it and none can be read as two; the second is not asked of
the longest lists when only lists as long as a profile's are compared. -/
theorem validation_evidence_bound (profile : ValidationProfileId) (tree : TreeId)
    (steps : List ValidationStepReceipt) :
    (∀ profile' tree' steps',
      validationBytes profile' tree' steps'=validationBytes profile tree steps →
        profile'=profile ∧ tree'=tree) ∧
    ((∀ profile' tree' steps',
      validationBytes profile' tree' steps'=validationBytes profile tree steps →
        profile'=profile ∧ tree'=tree ∧ steps'=steps) ↔ StepsApart steps ∧ StepsWhole steps) ∧
    (steps.length≤ maxValidationSteps →
      ((∀ profile' tree' steps',steps'.length≤ maxValidationSteps →
        validationBytes profile' tree' steps'=validationBytes profile tree steps →
          profile'=profile ∧ tree'=tree ∧ steps'=steps) ↔
        StepsApart steps ∧ (steps.length=maxValidationSteps ∨ StepsWhole steps))) := by
  refine ⟨fun profile' tree' steps' h => ?_,?_,fun hl => ?_⟩
  · obtain ⟨hprofile,htree,-⟩ := validationBytes_eq_iff.mp h
    exact ⟨hprofile,htree⟩
  · have hsteps := steps_unique_iff profile tree steps (fun _ => True)
    simp only [true_imp_iff] at hsteps
    exact hsteps.trans (Vocabulary.reading_unique_iff (records_sound steps))
  · rw [← length_records] at hl
    have hbounded := Vocabulary.bounded_reading_unique_iff (records_sound steps) hl
    rw [length_records] at hbounded
    exact (steps_unique_iff profile tree steps (·≤ maxValidationSteps)).trans hbounded

def sampleOutput (c : UInt8) : OutputDigest := ⟨Kernel.plainDigest c⟩

/-- The text of a digest, as an argument. -/
def digestArgument (d : OutputDigest) : ValidationProgramArgument :=
  ⟨hexText d.digest,hex_unterminated d.digest.bytes,
    Nat.le_trans (Nat.le_of_eq (length_digestField d)) (by decide)⟩

/-- A program without arguments, and then the check of the tree. -/
def checkedSteps : List ValidationStepReceipt :=
  [⟨.externallySupervisedProgram ⟨echoInvocation.program,[]⟩,sampleOutput 1,sampleOutput 2⟩,
   ⟨.gitDiffCheck,sampleOutput 3,sampleOutput 4⟩]

/-- The program alone, with the rest among its arguments. -/
def uncheckedSteps : List ValidationStepReceipt :=
  [⟨.externallySupervisedProgram ⟨echoInvocation.program,
      [digestArgument (sampleOutput 1),digestArgument (sampleOutput 2),
       ⟨"git-diff-check",by decide +kernel⟩]⟩,sampleOutput 3,sampleOutput 4⟩]

theorem unchecked_confused : ¬∀ profile tree steps profile' tree' steps',
    validationBytes profile' tree' steps'=validationBytes profile tree steps →
      profile'=profile ∧ tree'=tree ∧ steps'=steps := by
  intro h
  have hbytes : validationBytes artifactProfileId changedTree uncheckedSteps=
      validationBytes artifactProfileId changedTree checkedSteps := by
    simp [validationBytes,checkedSteps,uncheckedSteps,stepBytes,commandBytes,digestArgument]
  have hsteps := (h _ _ _ _ _ _ hbytes).2.2
  exact absurd (congrArg List.length hsteps) (by decide)

end Evidence
end Society.Product
