import Society.Boundary.ScannerLaws
import Society.Boundary.Wire

namespace Society.Boundary
open Society.JsonText
open Society.Coding

/-! What a line that passes the scan cannot contain. -/

section Contents
variable {κ : Type} (decode : List Char → Option κ)

/-- No two keys are read the same. -/
def DistinctKeys (keys : List StringLiteral) : Prop :=
  keys.Pairwise (fun a b => ∀ k,decode a.text=some k → decode b.text≠some k)

/-- No key is read as one of these. -/
def FreshKeys (seen : List κ) (keys : List StringLiteral) : Prop :=
  ∀ key∈keys,∀ k,decode key.text=some k → k∉seen

/-- The parser reads these strings, the objects have distinct keys, and no number spells negative
zero. -/
def Readable (strings : List StringLiteral) (objects : List (List StringLiteral))
    (numbers : List NumberLiteral) : Prop :=
  (∀ s∈strings,(decode s.text).isSome=true) ∧ (∀ keys∈objects,DistinctKeys decode keys) ∧
    ∀ n∈numbers,n.isNegativeZero=false

variable {decode}

theorem readable_append {s s' : List StringLiteral} {o o' : List (List StringLiteral)}
    {n n' : List NumberLiteral} : Readable decode (s++s') (o++o') (n++n') ↔
      Readable decode s o n ∧ Readable decode s' o' n' := by
  simp only [Readable,List.forall_mem_append]
  tauto

theorem readable_key {key : StringLiteral} {s : List StringLiteral} {o : List (List StringLiteral)}
    {n : List NumberLiteral} : Readable decode (key::s) o n ↔
      (decode key.text).isSome=true ∧ Readable decode s o n := by
  simp only [Readable,List.forall_mem_cons]
  tauto

theorem readable_object {keys : List StringLiteral} {s : List StringLiteral}
    {o : List (List StringLiteral)} {n : List NumberLiteral} : Readable decode s (keys::o) n ↔
      DistinctKeys decode keys ∧ Readable decode s o n := by
  simp only [Readable,List.forall_mem_cons]
  tauto

theorem fresh_cons {seen : List κ} {key : StringLiteral} {keys : List StringLiteral} :
    FreshKeys decode seen (key::keys) ↔ FreshKeys decode seen [key] ∧ FreshKeys decode seen keys := by
  simp [FreshKeys]

/-- The keys after one that is read as `k` are as distinct as they are fresh for it. -/
theorem distinct_cons {seen : List κ} {key : StringLiteral} {keys : List StringLiteral}
    (h : (decode key.text).isSome=true) :
    FreshKeys decode ((decode key.text).toList++seen) keys ∧ DistinctKeys decode keys ↔
      FreshKeys decode seen keys ∧ DistinctKeys decode (key::keys) := by
  obtain ⟨k,hk⟩ := Option.isSome_iff_exists.mp h
  simp only [DistinctKeys,List.pairwise_cons,FreshKeys,hk,Option.toList_some,List.singleton_append,
    List.mem_cons,not_or,Option.some.injEq]
  constructor
  · rintro ⟨hfresh,hpair⟩
    refine ⟨fun key' hkey' k' hk' => (hfresh key' hkey' k' hk').2,?_,hpair⟩
    rintro key' hkey' k' rfl hk'
    exact (hfresh key' hkey' k hk').1 rfl
  · rintro ⟨hfresh,hhead,hpair⟩
    refine ⟨?_,hpair⟩
    intro key' hkey' k' hk'
    refine ⟨?_,hfresh key' hkey' k' hk'⟩
    intro he
    exact hhead key' hkey' k rfl (he ▸ hk')

theorem number_accepted {n : NumberLiteral} :
    ¬Has SupervisorRefuses (numberFaults n) ↔ n.isNegativeZero=false := by
  unfold numberFaults
  cases n.isNegativeZero with
  | true => simp [has_singleton]
  | false => by_cases hsmall : (n.negative && HostScanner.roundsToZero (parts n))=true <;>
      simp only [hsmall,if_true,if_false,has_singleton,has_nil,Bool.false_eq_true,ne_eq,not_true_eq_false,
        not_false_eq_true]

variable [DecidableEq κ]

theorem key_accepted {seen : List κ} {key : StringLiteral} :
    ¬Has SupervisorRefuses (keyFaults decode seen key) ↔
      (decode key.text).isSome=true ∧ FreshKeys decode seen [key] := by
  unfold keyFaults
  cases h : decode key.text with
  | none => simp [has_singleton]
  | some k => by_cases hk : k∈seen <;> simp [hk,has_singleton,has_nil,FreshKeys,h]

mutual

theorem value_accepted (v : Value) (depth : Nat) (h : depth ≤ maxJsonNesting) :
    ¬Has SupervisorRefuses (valueFaults decode depth v) ↔
      Readable decode v.strings v.objects v.numbers ∧ depth+v.height ≤ maxJsonNesting := by
  cases v with
  | string s =>
    rw [valueFaults,has_string decode s (by simp)]
    simp [Readable,Value.strings,Value.objects,Value.numbers,Value.height,h,Option.isSome_iff_ne_none]
  | number n =>
    rw [valueFaults,number_accepted]
    simp [Readable,Value.strings,Value.objects,Value.numbers,Value.height,h]
  | word w =>
    simp [valueFaults,has_nil,Readable,Value.strings,Value.objects,Value.numbers,Value.height,h]
  | emptyArray inside =>
    simp only [valueFaults,Readable,Value.strings,Value.objects,Value.numbers,Value.height]
    by_cases hd : maxJsonNesting≤depth
    · have hover : ¬depth+1 ≤ maxJsonNesting := by omega
      simp [hd,has_singleton,hover]
    · have hunder : depth+1 ≤ maxJsonNesting := by omega
      simp [hd,has_nil,hunder]
  | emptyObject inside =>
    simp only [valueFaults,Readable,Value.strings,Value.objects,Value.numbers,Value.height]
    by_cases hd : maxJsonNesting≤depth
    · have hover : ¬depth+1 ≤ maxJsonNesting := by omega
      simp [hd,has_singleton,hover]
    · have hunder : depth+1 ≤ maxJsonNesting := by omega
      simp [hd,has_nil,hunder]
  | array items =>
    simp only [valueFaults,has_append,Value.strings,Value.objects,Value.numbers,Value.height]
    by_cases hd : maxJsonNesting≤depth
    · have hover : ¬depth+(items.height+1) ≤ maxJsonNesting := by omega
      simp [hd,has_singleton,hover]
    · have hitems := elements_accepted items (depth+1) (by omega)
      simp only [hd,if_false,has_nil,false_or,hitems]
      rw [show depth+(items.height+1)=depth+1+items.height by omega]
  | object members =>
    simp only [valueFaults,has_append,Value.strings,Value.objects,Value.numbers,Value.height]
    by_cases hd : maxJsonNesting≤depth
    · have hover : ¬depth+(members.height+1) ≤ maxJsonNesting := by omega
      simp [hd,has_singleton,hover]
    · have hmembers := members_accepted members (depth+1) [] (by omega)
      have hfresh : FreshKeys decode [] members.keys := fun _ _ _ _ hk => (List.not_mem_nil hk).elim
      simp only [hd,if_false,has_nil,false_or,hmembers,hfresh,true_and,readable_object]
      rw [show depth+(members.height+1)=depth+1+members.height by omega]
      tauto

theorem elements_accepted (items : Elements) (depth : Nat) (h : depth ≤ maxJsonNesting) :
    ¬Has SupervisorRefuses (elementsFaults decode depth items) ↔
      Readable decode items.strings items.objects items.numbers ∧
        depth+items.height ≤ maxJsonNesting := by
  cases items with
  | last before v after => exact value_accepted v depth h
  | more before v after rest =>
    have hv := value_accepted v depth h
    have hrest := elements_accepted rest depth h
    simp only [elementsFaults,has_append,not_or,hv,hrest,Elements.strings,Elements.objects,
      Elements.numbers,Elements.height,readable_append]
    rw [show depth+max v.height rest.height ≤ maxJsonNesting ↔
      depth+v.height ≤ maxJsonNesting ∧ depth+rest.height ≤ maxJsonNesting by omega]
    tauto

theorem members_accepted (members : Members) (depth : Nat) (seen : List κ)
    (h : depth ≤ maxJsonNesting) :
    ¬Has SupervisorRefuses (membersFaults decode depth seen members) ↔
      FreshKeys decode seen members.keys ∧ DistinctKeys decode members.keys ∧
        Readable decode members.strings members.objects members.numbers ∧
        depth+members.height ≤ maxJsonNesting := by
  cases members with
  | last before key middle before' v after =>
    have hv := value_accepted v depth h
    have hone : DistinctKeys decode [key] := List.pairwise_singleton _ _
    simp only [membersFaults,has_append,not_or,hv,key_accepted,Members.keys,Members.strings,
      Members.objects,Members.numbers,Members.height,readable_key,hone,true_and]
    tauto
  | more before key middle before' v after rest =>
    have hv := value_accepted v depth h
    have hrest := members_accepted rest depth ((decode key.text).toList++seen) h
    simp only [membersFaults,has_append,not_or,hv,hrest,key_accepted,Members.keys,Members.strings,
      Members.objects,Members.numbers,Members.height,readable_key,readable_append]
    have hfresh : FreshKeys decode seen (key::rest.keys) ↔ _ := fresh_cons
    rw [hfresh,show depth+max v.height rest.height ≤ maxJsonNesting ↔
      depth+v.height ≤ maxJsonNesting ∧ depth+rest.height ≤ maxJsonNesting by omega]
    by_cases hk : (decode key.text).isSome=true
    · have hkeys : FreshKeys decode (_++seen) rest.keys ∧ _ ↔ _ := distinct_cons hk
      tauto
    · simp [hk]

end
end Contents
section Frames
variable (lib : JsonLibrary)

/-- No object has two members whose keys are read the same, no number spells negative zero, and no
container is nested deeper than the limit. -/
def Unambiguous (d : Document) : Prop :=
  (∀ keys∈d.value.objects,DistinctKeys lib.decodeString keys) ∧
    (∀ n∈d.value.numbers,n.isNegativeZero=false) ∧ d.value.height ≤ maxJsonNesting

theorem document_accepted (d : Document) :
    (rejectDuplicateObjectKeys lib.decodeString d.text).isOk=true ↔
      Unambiguous lib d ∧ ∀ s∈d.value.strings,(lib.decodeString s.text).isSome=true := by
  rw [supervisor_accepts_iff,documentFaults,value_accepted d.value 0 (Nat.zero_le _),Nat.zero_add]
  simp only [Readable,Unambiguous]
  tauto

end Frames
section Samples

/-- A library that reads strings without escapes, and nothing else. -/
def plainStrings : JsonLibrary where
  formatFinite _ := ['0']
  plain bits c hc := by
    obtain rfl := List.mem_singleton.mp hc
    exact .inl rfl
  parse text :=
    if text.head?=some '"' ∧ text.drop 1=text.tail.dropLast++['"'] ∧
        text.tail.dropLast.all isUnescaped=true then
      some (.string (String.ofList text.tail.dropLast))
    else none

def plainLiteral (body : List Char) (h : body.all isUnescaped=true) : StringLiteral where
  pieces := body.pmap (fun c hc => .plain c hc) (List.all_eq_true.mp h)

theorem plainLiteral_text (body : List Char) (h : body.all isUnescaped=true) :
    (plainLiteral body h).text = '"'::(body++['"']) := by
  have hbody : (plainLiteral body h).body=body := by
    unfold StringLiteral.body plainLiteral
    induction body with
    | nil => rfl
    | cons c rest ih =>
      have hrest : rest.all isUnescaped=true := by
        simp only [List.all_cons,Bool.and_eq_true] at h
        exact h.2
      have hih := ih hrest
      simp only [List.pmap,List.flatMap_cons,Piece.text,List.singleton_append]
      exact congrArg (c::·) hih
  rw [StringLiteral.text,hbody]

theorem plainStrings_rfc (text : List Char) (v : Json) (h : plainStrings.parse text=some v) :
    IsJsonText text := by
  simp only [plainStrings] at h
  split at h
  · rename_i hs
    obtain ⟨hhead,htail,hbody⟩ := hs
    cases text with
    | nil => cases hhead
    | cons c rest =>
      cases hhead
      refine ⟨⟨⟨[],rfl⟩,.string (plainLiteral _ hbody),⟨[],rfl⟩⟩,?_⟩
      simp only [Document.text,Value.text,plainLiteral_text,List.nil_append,List.append_nil,List.tail_cons]
      simp only [List.drop_succ_cons,List.drop_zero,List.tail_cons] at htail
      rw [← htail]
  · cases h

/-- A string literal with half of a surrogate pair. -/
def loneSurrogate : StringLiteral := ⟨[.unicode 'd' '8' '0' '0' (by decide)]⟩

end Samples
end Society.Boundary
