import Society.Boundary.Scanner
import Mathlib.Data.List.DropRight

namespace Society.Boundary
open Society.JsonText

/-! Where the two scans agree, over the concrete syntax of JSON texts. -/

variable {κ ε : Type}

section Faults
variable [DecidableEq κ]

/-- What can be wrong with a JSON text. -/
inductive Fault
  /-- a string that the parser does not read -/
  | undecodable
  /-- a key that an earlier member of its object has -/
  | duplicateKey
  /-- a spelling of negative zero -/
  | negativeZero
  /-- another negative number, whose nearest binary64 is a zero -/
  | vanishing
  /-- a container with something in it, inside of as many containers as the limit allows -/
  | deep
  /-- an empty container inside of as many -/
  | deepEmpty
  deriving DecidableEq

/-- The number as the regular expression of the host takes it apart. -/
def parts (n : NumberLiteral) : HostScanner.NumberMatch where
  negative := n.negative
  whole := n.whole
  fraction := n.fraction.getD []
  smaller := n.exponent.any (fun e => e.sign==some '-')
  exponent := (n.exponent.map Exponent.digits).getD []

variable (decode : List Char → Option κ)

def stringFaults (s : StringLiteral) : List Fault :=
  if (decode s.text).isNone then [.undecodable] else []

def numberFaults (n : NumberLiteral) : List Fault :=
  if n.isNegativeZero then [.negativeZero]
  else if n.negative && HostScanner.roundsToZero (parts n) then [.vanishing] else []

/-- What is wrong with the key of a member after others with these keys. -/
def keyFaults (keys : List κ) (key : StringLiteral) : List Fault :=
  match decode key.text with
  | none => [.undecodable]
  | some k => if k∈keys then [.duplicateKey] else []

mutual

/-- The faults of a value inside of `depth` containers. -/
def valueFaults (depth : Nat) : Value → List Fault
  | .string s => stringFaults decode s
  | .number n => numberFaults n
  | .word _ => []
  | .emptyArray _ => if maxJsonNesting≤depth then [.deepEmpty] else []
  | .array items =>
    (if maxJsonNesting≤depth then [.deep] else [])++elementsFaults (depth+1) items
  | .emptyObject _ => if maxJsonNesting≤depth then [.deepEmpty] else []
  | .object members =>
    (if maxJsonNesting≤depth then [.deep] else [])++membersFaults (depth+1) [] members

def elementsFaults (depth : Nat) : Elements → List Fault
  | .last _ v _ => valueFaults depth v
  | .more _ v _ rest => valueFaults depth v++elementsFaults depth rest

/-- The faults of members after others with these keys. -/
def membersFaults (depth : Nat) (keys : List κ) : Members → List Fault
  | .last _ key _ _ v _ => keyFaults decode keys key++valueFaults depth v
  | .more _ key _ _ v _ rest =>
    keyFaults decode keys key++(valueFaults depth v++membersFaults depth ((decode key.text).toList++keys) rest)

end

attribute [grind =] valueFaults elementsFaults membersFaults

end Faults
section Outcomes

/-- A scan that finds what is wrong, if something is, and else comes to a good end. -/
def Outcome {α : Type} (r : Scan ε α) (faulty : Prop) (good : α → Prop) : Prop :=
  match r with
  | .ok a => ¬faulty ∧ good a
  | .error (some _) => faulty
  | .error none => False

variable {α β : Type} {r : Scan ε α} {k : α → Scan ε β} {A B : Prop} {good : α → Prop}
  {good' : β → Prop}

theorem Outcome.ok {a : α} (hn : ¬A) (hg : good a) : Outcome (.ok a : Scan ε α) A good := ⟨hn,hg⟩

theorem Outcome.bind (h : Outcome r A good) (hk : ∀ a,good a → Outcome (k a) B good') :
    Outcome (r>>=k) (A ∨ B) good' := by
  match r,h with
  | .ok a,⟨hn,hg⟩ =>
    have hb := hk a hg
    change Outcome (k a) _ _
    match k a,hb with
    | .ok b,⟨hn',hg'⟩ => exact ⟨fun h => h.elim hn hn',hg'⟩
    | .error (some e),hb => exact .inr hb
  | .error (some e),h => exact .inl h

theorem Outcome.map {f : α → β} (h : Outcome r A good) (hf : ∀ a,good a → good' (f a)) :
    Outcome (r.map f) A good' := by
  match r,h with
  | .ok a,⟨hn,hg⟩ => exact ⟨hn,hf a hg⟩
  | .error (some e),h => exact h

theorem Outcome.congr (h : Outcome r A good) (hab : A ↔ B) : Outcome r B good := by
  rw [← propext hab]
  exact h

/-- Among the faults there is one that the scan looks for. -/
def Has (bad : Fault → Prop) (faults : List Fault) : Prop := ∃ f∈faults,bad f

theorem has_append {bad : Fault → Prop} (l l' : List Fault) :
    Has bad (l++l') ↔ Has bad l ∨ Has bad l' := by
  simp only [Has,List.mem_append,or_and_right,exists_or]

theorem has_nil {bad : Fault → Prop} : ¬Has bad [] := by
  rintro ⟨f,hf,-⟩
  cases hf

theorem has_singleton {bad : Fault → Prop} (f : Fault) : Has bad [f] ↔ bad f := by
  simp [Has]

theorem has_string (decode : List Char → Option κ) (s : StringLiteral) {bad : Fault → Prop} (hb : bad .undecodable) :
    Has bad (stringFaults decode s) ↔ decode s.text=none := by
  unfold stringFaults
  cases h : decode s.text with
  | none => simp [has_singleton,hb]
  | some k => simp [has_nil]

end Outcomes
section Tokens

/-- What follows a value. -/
def Ends (rest : List Char) : Prop := Stops (fun c => !endsValue c) rest

theorem endsValue_cases {c : Char} (h : endsValue c=true) :
    c = ',' ∨ c = ']' ∨ c = '}' ∨ c = ' ' ∨ c = '\n' ∨ c = '\r' ∨ c = '\t' := by
  simpa [endsValue,isSpace,or_assoc] using h

theorem Ends.head {rest : List Char} {c : Char} (h : Ends rest) (hc : rest.head?=some c) :
    endsValue c=true := by
  simpa using h c hc

/-- Nothing of a number can follow a value. -/
theorem Ends.stops {rest : List Char} {p : Char → Bool} (h : Ends rest)
    (hp : [',',']','}',' ','\n','\r','\t'].all (fun c => !p c)=true) : Stops p rest := by
  intro c hc
  have hc := endsValue_cases (h.head hc)
  have hall := List.all_eq_true.mp hp c (by simpa using hc)
  simpa using hall

theorem ends_cons {c : Char} {rest : List Char} (h : endsValue c=true) : Ends (c::rest) :=
  stops_cons (by simp [h])

theorem Space.ends {rest : List Char} (s : Space) (h : Ends rest) : Ends (s.text++rest) := by
  intro c hc
  cases hs : s.text with
  | nil =>
    rw [hs] at hc
    exact h c hc
  | cons d t =>
    rw [hs] at hc
    cases hc
    have hd : isSpace c=true := List.all_eq_true.mp s.valid c (by simp [hs])
    simp [endsValue,hd]

/-- A run of digits is not empty and holds nothing but digits. -/
theorem isDigits_iff {digits : List Char} :
    isDigits digits=true ↔ digits≠[] ∧ digits.all Char.isDigit=true := by
  simp [isDigits]

theorem isWhole_digits {digits : List Char} (h : isWhole digits=true) :
    digits≠[] ∧ digits.all Char.isDigit=true := by
  simp only [isWhole,Bool.or_eq_true,beq_iff_eq,Bool.and_eq_true] at h
  rcases h with rfl | ⟨hd,hh⟩
  · exact ⟨by simp,by decide⟩
  · refine ⟨?_,hd⟩
    rintro rfl
    cases hh

variable (n : NumberLiteral) {rest : List Char}

theorem exponent_marker (e : Exponent) : e.marker = 'e' ∨ e.marker = 'E' := by
  have h := e.valid
  simp only [Bool.and_eq_true,Bool.or_eq_true,beq_iff_eq] at h
  exact h.1

theorem exponent_digits (e : Exponent) : e.digits≠[] ∧ e.digits.all Char.isDigit=true := by
  have h := e.valid
  simp only [Bool.and_eq_true] at h
  exact isDigits_iff.mp h.2.2

theorem exponent_sign (e : Exponent) : e.sign=none ∨ e.sign=some '+' ∨ e.sign=some '-' := by
  have h := e.valid
  simp only [Bool.and_eq_true] at h
  have hs := h.2.1
  cases hsign : e.sign with
  | none => exact .inl rfl
  | some c =>
    rw [hsign] at hs
    simp only [Option.all_some,Bool.or_eq_true,beq_iff_eq] at hs
    rcases hs with rfl | rfl
    · exact .inr (.inl rfl)
    · exact .inr (.inr rfl)

/-- The sign of an exponent is taken off its digits. -/
theorem unsigned_exponent (e : Exponent) :
    Scanner.unsigned (e.sign.toList++(e.digits++rest))=e.digits++rest := by
  obtain ⟨hn,hd⟩ := exponent_digits e
  rcases exponent_sign e with hs | hs | hs
  · rw [hs,Option.toList_none,List.nil_append]
    cases hdig : e.digits with
    | nil => exact absurd hdig hn
    | cons c t =>
      have hc : c.isDigit=true := List.all_eq_true.mp hd c (by simp [hdig])
      unfold Scanner.unsigned
      split
      · next heq =>
        cases heq
        cases hc
      · next heq =>
        cases heq
        cases hc
      · rfl
  · rw [hs]
    rfl
  · rw [hs]
    rfl

theorem stops_exponent {p : Char → Bool} (hp : p 'e'=false ∧ p 'E'=false) (hr : Stops p rest) :
    Stops p (n.exponentText++rest) := by
  cases he : n.exponent with
  | none => simpa [NumberLiteral.exponentText,he] using hr
  | some e =>
    simp only [NumberLiteral.exponentText,he,Option.map_some,Option.getD_some,Exponent.text,
      List.cons_append]
    refine stops_cons ?_
    rcases exponent_marker e with hm | hm
    · rw [hm]
      exact hp.1
    · rw [hm]
      exact hp.2

theorem stops_fraction {p : Char → Bool} (hp : p '.'=false) {ys : List Char} (hy : Stops p ys) :
    Stops p (n.fractionText++ys) := by
  cases hf : n.fraction with
  | none => simpa [NumberLiteral.fractionText,hf] using hy
  | some d =>
    simp only [NumberLiteral.fractionText,hf,Option.map_some,Option.getD_some,List.cons_append]
    exact stops_cons hp

theorem fraction_digits {digits : List Char} (h : n.fraction=some digits) :
    digits≠[] ∧ digits.all Char.isDigit=true := by
  have hv := n.fractionValid
  rw [h] at hv
  exact isDigits_iff.mp hv

theorem scanner_fraction {ys : List Char} (hd : Stops Char.isDigit ys) (hp : Stops (· == '.') ys) :
    Scanner.fraction (n.fractionText++ys)=some (n.fraction.getD [],ys) := by
  cases hf : n.fraction with
  | none =>
    simp only [NumberLiteral.fractionText,hf,Option.map_none,Option.getD_none,List.nil_append]
    unfold Scanner.fraction
    split
    · have hdot := hp '.' rfl
      cases hdot
    · rfl
  | some digits =>
    obtain ⟨hn,hall⟩ := fraction_digits n hf
    simp only [NumberLiteral.fractionText,hf,Option.map_some,Option.getD_some,List.cons_append,
      Scanner.fraction,takeWhile_run hall hd,dropWhile_run hall hd,if_neg hn]

theorem scanner_exponent {ys : List Char} (hd : Stops Char.isDigit ys)
    (he : Stops (fun c => c == 'e' || c == 'E') ys) :
    Scanner.exponent (n.exponentText++ys)=some ys := by
  cases hn : n.exponent with
  | none =>
    simp only [NumberLiteral.exponentText,hn,Option.map_none,Option.getD_none,List.nil_append]
    cases ys with
    | nil => rfl
    | cons c ys => simp only [Scanner.exponent,he c rfl,Bool.false_eq_true,if_false]
  | some e =>
    have hm : (e.marker == 'e' || e.marker == 'E')=true := by
      rcases exponent_marker e with hm | hm
      · simp [hm]
      · simp [hm]
    obtain ⟨hne,hall⟩ := exponent_digits e
    simp only [NumberLiteral.exponentText,hn,Option.map_some,Option.getD_some,Exponent.text,
      List.cons_append,List.append_assoc,Scanner.exponent,hm,if_true,unsigned_exponent,
      takeWhile_run hall hd,dropWhile_run hall hd,if_neg hne]

theorem ends_nil : Ends [] := stops_nil

/-- The test that the supervisor makes on the text of a number. -/
theorem isNegativeZeroNumber_text : Scanner.isNegativeZeroNumber n.text=n.isNegativeZero := by
  obtain ⟨hne,hall⟩ := isWhole_digits n.wholeValid
  have hexp : Stops Char.isDigit (n.exponentText++[]) := stops_exponent n ⟨rfl,rfl⟩ stops_nil
  have hdot : Stops (· == '.') (n.exponentText++[]) := stops_exponent n ⟨rfl,rfl⟩ stops_nil
  have hfrac : Stops Char.isDigit (n.fractionText++(n.exponentText++[])) := stops_fraction n rfl hexp
  cases hn : n.negative with
  | false =>
    have hhead : n.text.head?≠some '-' := by
      cases hw : n.whole with
      | nil => exact absurd hw hne
      | cons c t =>
        have hc : c.isDigit=true := List.all_eq_true.mp hall c (by simp [hw])
        simp only [NumberLiteral.text,hn,Bool.false_eq_true,if_false,hw,List.nil_append,List.cons_append,
          List.head?_cons,ne_eq,Option.some.injEq]
        rintro rfl
        cases hc
    have hfalse : Scanner.isNegativeZeroNumber n.text=false := by
      unfold Scanner.isNegativeZeroNumber
      split
      · next heq =>
        rw [heq] at hhead
        exact absurd rfl hhead
      · rfl
    rw [hfalse,NumberLiteral.isNegativeZero,hn]
    rfl
  | true =>
    have htext : n.text = '-'::(n.whole++(n.fractionText++(n.exponentText++[]))) := by
      simp [NumberLiteral.text,hn]
    have hwhole : (n.whole != [])=true := by simpa using hne
    rw [htext]
    simp only [Scanner.isNegativeZeroNumber,takeWhile_run hall hfrac,dropWhile_run hall hfrac,
      scanner_fraction n hexp hdot,scanner_exponent n stops_nil stops_nil,hwhole,NumberLiteral.isNegativeZero,
      hn,Bool.true_and]
    simp

theorem number_run : n.text.all (fun c => !endsValue c)=true ∧ n.text≠[] := by
  have hdigit (c : Char) (hc : c.isDigit=true) : (!endsValue c)=true := by
    by_contra hn
    have he : endsValue c=true := by simpa using hn
    rcases endsValue_cases he with rfl | rfl | rfl | rfl | rfl | rfl | rfl
    all_goals cases hc
  have hrun (digits : List Char) (h : digits.all Char.isDigit=true) :
      digits.all (fun c => !endsValue c)=true :=
    List.all_eq_true.mpr (fun c hc => hdigit c (List.all_eq_true.mp h c hc))
  obtain ⟨hne,hall⟩ := isWhole_digits n.wholeValid
  have hfraction : n.fractionText.all (fun c => !endsValue c)=true := by
    cases hf : n.fraction with
    | none => simp [NumberLiteral.fractionText,hf]
    | some digits =>
      have hd := hrun digits (fraction_digits n hf).2
      simp only [NumberLiteral.fractionText,hf,Option.map_some,Option.getD_some,List.all_cons,hd,
        Bool.and_true]
      rfl
  have hexponent : n.exponentText.all (fun c => !endsValue c)=true := by
    cases he : n.exponent with
    | none => simp [NumberLiteral.exponentText,he]
    | some e =>
      have hd := hrun e.digits (exponent_digits e).2
      have hs : e.sign.toList.all (fun c => !endsValue c)=true := by
        rcases exponent_sign e with hs | hs | hs
        · rw [hs]
          rfl
        · rw [hs]
          rfl
        · rw [hs]
          rfl
      have hm : (!endsValue e.marker)=true := by
        rcases exponent_marker e with hm | hm
        · rw [hm]
          rfl
        · rw [hm]
          rfl
      simp only [NumberLiteral.exponentText,he,Option.map_some,Option.getD_some,Exponent.text,
        List.all_cons,List.all_append,hd,hs,hm,Bool.and_self]
  refine ⟨?_,fun hnil => ?_⟩
  · have hsign : (if n.negative then ['-'] else []).all (fun c => !endsValue c)=true := by
      split
      · rfl
      · rfl
    simp only [NumberLiteral.text,List.all_append,hsign,hrun n.whole hall,hfraction,hexponent,Bool.and_self]
  · simp only [NumberLiteral.text,List.append_eq_nil_iff] at hnil
    exact hne hnil.2.1

/-- The supervisor passes over a number that is not a negative zero. -/
theorem scanner_number (hr : Ends rest) :
    Outcome (Scanner.primitive (n.text++rest)) (Has (· ≠ .vanishing) (numberFaults n)) (· = rest) := by
  obtain ⟨hall,hne⟩ := number_run n
  have hstop : Stops (fun c => !endsValue c) rest := hr
  simp only [Scanner.primitive,takeWhile_run hall hstop,dropWhile_run hall hstop,if_neg hne,
    isNegativeZeroNumber_text]
  cases hz : n.isNegativeZero with
  | true =>
    simp only [if_true,Outcome,numberFaults,hz,has_singleton]
    decide
  | false =>
    simp only [Bool.false_eq_true,if_false,numberFaults,hz]
    refine .ok ?_ rfl
    split
    · simp [has_singleton]
    · exact has_nil

theorem host_whole (n : NumberLiteral) {ys : List Char} (hd : Stops Char.isDigit ys) :
    HostScanner.matchWhole (n.whole++ys)=some (n.whole,ys) := by
  have hw := n.wholeValid
  simp only [isWhole,Bool.or_eq_true,beq_iff_eq,Bool.and_eq_true] at hw
  rcases hw with hw | ⟨hall,hhead⟩
  · rw [hw]
    rfl
  · cases hn : n.whole with
    | nil =>
      rw [hn] at hhead
      cases hhead
    | cons c t =>
      rw [hn] at hall hhead
      simp only [List.all_cons,Bool.and_eq_true] at hall
      have hc : c ≠ '0' := by simpa using hhead
      rw [List.cons_append]
      unfold HostScanner.matchWhole
      split
      · next heq =>
        cases heq
        exact absurd rfl hc
      · next heq =>
        cases heq
        rw [if_pos hall.1,takeWhile_run hall.2 hd,dropWhile_run hall.2 hd]
      · next heq => cases heq

theorem host_fraction {ys : List Char} (hd : Stops Char.isDigit ys) (hp : Stops (· == '.') ys) :
    HostScanner.matchFraction (n.fractionText++ys)=(n.fraction.getD [],ys) := by
  cases hf : n.fraction with
  | none =>
    simp only [NumberLiteral.fractionText,hf,Option.map_none,Option.getD_none,List.nil_append]
    unfold HostScanner.matchFraction
    split
    · have hdot := hp '.' rfl
      cases hdot
    · rfl
  | some digits =>
    obtain ⟨hn,hall⟩ := fraction_digits n hf
    simp only [NumberLiteral.fractionText,hf,Option.map_some,Option.getD_some,List.cons_append,
      HostScanner.matchFraction,takeWhile_run hall hd,dropWhile_run hall hd,if_neg hn]

theorem host_exponent {ys : List Char} (hd : Stops Char.isDigit ys)
    (he : Stops (fun c => c == 'e' || c == 'E') ys) :
    HostScanner.matchExponent (n.exponentText++ys)=(((parts n).smaller,(parts n).exponent),ys) := by
  cases hn : n.exponent with
  | none =>
    simp only [NumberLiteral.exponentText,parts,hn,Option.map_none,Option.getD_none,List.nil_append,
      Option.any_none]
    cases ys with
    | nil => rfl
    | cons c ys => simp only [HostScanner.matchExponent,he c rfl,Bool.false_and,Bool.false_eq_true,if_false]
  | some e =>
    have hm : (e.marker == 'e' || e.marker == 'E')=true := by
      rcases exponent_marker e with hm | hm
      · simp [hm]
      · simp [hm]
    obtain ⟨hne,hall⟩ := exponent_digits e
    have hd' : (e.digits != [])=true := by simpa using hne
    have hsign : ((e.sign.toList++(e.digits++ys)).head?==some '-')=(e.sign==some '-') := by
      rcases exponent_sign e with hs | hs | hs
      · rw [hs,Option.toList_none,List.nil_append]
        cases hdig : e.digits with
        | nil => exact absurd hdig hne
        | cons c t =>
          have hc : c.isDigit=true := List.all_eq_true.mp hall c (by simp [hdig])
          have hnot : c ≠ '-' := by
            rintro rfl
            cases hc
          simp [hnot]
      · rw [hs]
        rfl
      · rw [hs]
        rfl
    simp only [NumberLiteral.exponentText,parts,hn,Option.map_some,Option.getD_some,Exponent.text,
      List.cons_append,List.append_assoc,HostScanner.matchExponent,hm,Bool.true_and,unsigned_exponent,
      takeWhile_run hall hd,dropWhile_run hall hd,hd',if_true,hsign,Option.any_some]

theorem host_matchNumber (hr : Ends rest) :
    HostScanner.matchNumber (n.text++rest)=some (parts n,rest) := by
  obtain ⟨hne,hall⟩ := isWhole_digits n.wholeValid
  have hdr : Stops Char.isDigit rest := hr.stops rfl
  have her : Stops (fun c => c == 'e' || c == 'E') rest := hr.stops rfl
  have hpr : Stops (· == '.') rest := hr.stops rfl
  have hexp : Stops Char.isDigit (n.exponentText++rest) := stops_exponent n ⟨rfl,rfl⟩ hdr
  have hdot : Stops (· == '.') (n.exponentText++rest) := stops_exponent n ⟨rfl,rfl⟩ hpr
  have hfrac : Stops Char.isDigit (n.fractionText++(n.exponentText++rest)) := stops_fraction n rfl hexp
  have hhead : ((n.text++rest).head?==some '-')=n.negative := by
    cases hn : n.negative with
    | true => simp [NumberLiteral.text,hn]
    | false =>
      cases hw : n.whole with
      | nil => exact absurd hw hne
      | cons c t =>
        have hc : c.isDigit=true := List.all_eq_true.mp hall c (by simp [hw])
        have hnot : c ≠ '-' := by
          rintro rfl
          cases hc
        simp [NumberLiteral.text,hn,hw,hnot]
  have hrest : (if n.negative then (n.text++rest).drop 1 else n.text++rest)=
      n.whole++(n.fractionText++(n.exponentText++rest)) := by
    cases hn : n.negative with
    | true => simp [NumberLiteral.text,hn]
    | false => simp [NumberLiteral.text,hn]
  simp only [HostScanner.matchNumber,hhead,hrest,host_whole n hfrac,host_fraction n hexp hdot,
    host_exponent n hdr her]
  rfl

theorem digitsValue_zeros {digits : List Char} (h : digits.all (· == '0')=true) :
    HostScanner.digitsValue digits=0 := by
  have hrun : ∀ digits : List Char,digits.all (· == '0')=true →
      digits.foldl (fun n c => 10*n+(c.toNat-48)) 0=0 := by
    intro digits
    induction digits with
    | nil => intro _; rfl
    | cons c digits ih =>
      intro h
      simp only [List.all_cons,Bool.and_eq_true,beq_iff_eq] at h
      rw [List.foldl_cons,h.1]
      exact ih h.2
  exact hrun digits h

/-- What the supervisor takes for a negative zero, the host takes for one. -/
theorem roundsToZero_zero (h : n.isNegativeZero=true) :
    n.negative=true ∧ HostScanner.roundsToZero (parts n)=true := by
  simp only [NumberLiteral.isNegativeZero,Bool.and_eq_true] at h
  refine ⟨h.1.1,?_⟩
  have hz : HostScanner.digitsValue ((parts n).whole++(parts n).fraction)=0 := by
    refine digitsValue_zeros ?_
    simp only [parts,List.all_append,h.1.2,h.2,Bool.and_self]
  simp only [HostScanner.roundsToZero,hz,Nat.zero_mul,Nat.zero_le,decide_true,ite_self]

theorem host_number (hr : Ends rest) :
    Outcome (HostScanner.primitive (n.text++rest)) (Has (· ≠ .deepEmpty) (numberFaults n))
      (· = rest) := by
  obtain ⟨hne,hall⟩ := isWhole_digits n.wholeValid
  have hhead : ∀ c,(n.text++rest).head?=some c → c = '-' ∨ c.isDigit=true := by
    intro c hc
    cases hn : n.negative with
    | true =>
      simp only [NumberLiteral.text,hn,if_true,List.cons_append,List.head?_cons,Option.some.injEq] at hc
      exact .inl hc.symm
    | false =>
      cases hw : n.whole with
      | nil => exact absurd hw hne
      | cons d t =>
        simp only [NumberLiteral.text,hn,Bool.false_eq_true,if_false,hw,List.nil_append,List.cons_append,
          List.head?_cons,Option.some.injEq] at hc
        rw [← hc]
        exact .inr (List.all_eq_true.mp hall d (by simp [hw]))
  unfold HostScanner.primitive
  split
  · next heq =>
    have hc := hhead 't' (by rw [heq]; rfl)
    exact absurd hc (by decide)
  · next heq =>
    have hc := hhead 'f' (by rw [heq]; rfl)
    exact absurd hc (by decide)
  · next heq =>
    have hc := hhead 'n' (by rw [heq]; rfl)
    exact absurd hc (by decide)
  · simp only [host_matchNumber n hr]
    cases hz : n.isNegativeZero with
    | true =>
      obtain ⟨hneg,hround⟩ := roundsToZero_zero n hz
      simp only [show (parts n).negative=true from hneg,hround,Bool.and_self,if_true,Outcome,numberFaults,hz,
        has_singleton]
      decide
    | false =>
      simp only [numberFaults,hz,Bool.false_eq_true,if_false]
      cases hv : (n.negative && HostScanner.roundsToZero (parts n)) with
      | true =>
        simp only [show ((parts n).negative && HostScanner.roundsToZero (parts n))=true from hv,if_true,Outcome,
          has_singleton]
        decide
      | false =>
        simp only [show ((parts n).negative && HostScanner.roundsToZero (parts n))=false from hv,
          Bool.false_eq_true,if_false]
        exact .ok has_nil rfl

theorem scanner_word (w : Word) (hr : Ends rest) : Scanner.primitive (w.text++rest)=.ok rest := by
  have hstop : Stops (fun c => !endsValue c) rest := hr
  have hall : w.text.all (fun c => !endsValue c)=true := by cases w <;> rfl
  have hne : w.text≠[] := by cases w <;> exact List.cons_ne_nil _ _
  have hzero : Scanner.isNegativeZeroNumber w.text=false := by cases w <;> rfl
  simp only [Scanner.primitive,takeWhile_run hall hstop,dropWhile_run hall hstop,if_neg hne,hzero,
    Bool.false_eq_true,if_false]

theorem host_word (w : Word) : HostScanner.primitive (w.text++rest)=.ok rest := by
  cases w <;> rfl

theorem unescaped_cases {c : Char} (h : isUnescaped c=true) : c ≠ '"' ∧ c ≠ '\\' ∧ ¬c.toNat≤31 := by
  simp only [isUnescaped,Bool.and_eq_true,decide_eq_true_eq,bne_iff_ne] at h
  exact ⟨h.1.2,h.2,by omega⟩

theorem hex_plain {c : Char} (h : isHex c=true) : c ≠ '"' ∧ c ≠ '\\' ∧ ¬c.toNat≤31 := by
  have hrange : 48 ≤ c.toNat ∧ c ≠ '\\' := by
    constructor
    · simp only [isHex,Char.isDigit,Bool.or_eq_true,Bool.and_eq_true,decide_eq_true_eq] at h
      rcases h with (h | h) | h
      · exact h.1
      · exact Nat.le_trans (by decide) h.1
      · exact Nat.le_trans (by decide) h.1
    · rintro rfl
      cases h
  refine ⟨?_,hrange.2,by omega⟩
  rintro rfl
  exact absurd hrange.1 (by decide)

/-- A character of a string that is no quotation mark and no backslash. -/
theorem scanner_plain {c : Char} (hq : c ≠ '"') (hb : c ≠ '\\') (hc : ¬c.toNat≤31) (text : List Char) :
    Scanner.stringEnd (c::text)=(Scanner.stringEnd text).map (fun (s,rest) => (c::s,rest)) := by
  rw [Scanner.stringEnd.eq_def]
  split
  · next heq => cases heq
  · next heq =>
    cases heq
    exact absurd rfl hq
  · next heq =>
    cases heq
    exact absurd rfl hb
  · next heq =>
    cases heq
    exact absurd rfl hb
  · next heq =>
    cases heq
    rw [if_neg hc]

theorem host_plain {c : Char} (hq : c ≠ '"') (hb : c ≠ '\\') (hc : ¬c.toNat<32) (text : List Char) :
    HostScanner.stringEnd (c::text)=(HostScanner.stringEnd text).map (fun (s,rest) => (c::s,rest)) := by
  rw [HostScanner.stringEnd.eq_def]
  split
  · next heq => cases heq
  · next heq =>
    cases heq
    exact absurd rfl hb
  · next heq =>
    cases heq
    exact absurd rfl hb
  · next heq =>
    cases heq
    exact absurd rfl hb
  · next heq =>
    cases heq
    exact absurd rfl hq
  · next heq =>
    cases heq
    rw [if_neg hc]

theorem scanner_piece (p : Piece) (text s : List Char) (h : Scanner.stringEnd text=some (s,rest)) :
    Scanner.stringEnd (p.text++text)=some (p.text++s,rest) := by
  cases p with
  | plain c hc =>
    obtain ⟨hq,hb,hn⟩ := unescaped_cases hc
    simp only [Piece.text,List.cons_append,List.nil_append,scanner_plain hq hb hn,h,Option.map_some]
  | escape c hc => simp only [Piece.text,List.cons_append,List.nil_append,Scanner.stringEnd,h,Option.map_some]
  | unicode a b c d hh =>
    simp only [List.all_cons,List.all_nil,Bool.and_true,Bool.and_eq_true] at hh
    obtain ⟨ha,hb,hc,hd⟩ := hh
    obtain ⟨ha,ha',ha''⟩ := hex_plain ha
    obtain ⟨hb,hb',hb''⟩ := hex_plain hb
    obtain ⟨hc,hc',hc''⟩ := hex_plain hc
    obtain ⟨hd,hd',hd''⟩ := hex_plain hd
    simp only [Piece.text,List.cons_append,List.nil_append,Scanner.stringEnd,scanner_plain ha ha' ha'',
      scanner_plain hb hb' hb'',scanner_plain hc hc' hc'',scanner_plain hd hd' hd'',h,Option.map_some]

theorem host_piece (p : Piece) (text s : List Char) (h : HostScanner.stringEnd text=some (s,rest)) :
    HostScanner.stringEnd (p.text++text)=some (p.text++s,rest) := by
  cases p with
  | plain c hc =>
    obtain ⟨hq,hb,hn⟩ := unescaped_cases hc
    simp only [Piece.text,List.cons_append,List.nil_append,host_plain hq hb (by omega),h,Option.map_some]
  | escape c hc =>
    have hu : c ≠ 'u' := by
      rintro rfl
      cases hc
    have hstep : HostScanner.stringEnd ('\\'::c::text)=
        (HostScanner.stringEnd text).map (fun (s,rest) => ('\\'::c::s,rest)) := by
      rw [HostScanner.stringEnd.eq_def]
      split
      · next heq => cases heq
      · next heq =>
        cases heq
        exact absurd rfl hu
      · next heq =>
        cases heq
        rw [if_neg (by simpa using hu)]
      · next heq => cases heq
      · next heq => cases heq
      · next hescape _ _ heq =>
        cases heq
        exact (hescape _ _ rfl rfl).elim
    simp only [Piece.text,List.cons_append,List.nil_append,hstep,h,Option.map_some]
  | unicode a b c d hh =>
    simp only [Piece.text,List.cons_append,List.nil_append,HostScanner.stringEnd,h,Option.map_some]

theorem scanner_body (pieces : List Piece) :
    Scanner.stringEnd (pieces.flatMap Piece.text++ '"'::rest)=some (pieces.flatMap Piece.text++['"'],rest) := by
  induction pieces with
  | nil => rfl
  | cons p pieces ih =>
    rw [List.flatMap_cons,List.append_assoc,List.append_assoc]
    exact scanner_piece p _ _ ih

theorem host_body (pieces : List Piece) :
    HostScanner.stringEnd (pieces.flatMap Piece.text++ '"'::rest)=
      some (pieces.flatMap Piece.text++['"'],rest) := by
  induction pieces with
  | nil => rfl
  | cons p pieces ih =>
    rw [List.flatMap_cons,List.append_assoc,List.append_assoc]
    exact host_piece p _ _ ih

variable (decode : List Char → Option κ) (s : StringLiteral)

/-- Both scans take a string up to its own end, and read it. -/
theorem scanner_string : Scanner.string decode (s.text++rest)=
    match decode s.text with
    | none => .error (some .invalidJson)
    | some key => .ok (key,rest) := by
  have htext : s.text++rest = '"'::(s.pieces.flatMap Piece.text++ '"'::rest) := by
    simp [StringLiteral.text,StringLiteral.body]
  rw [htext]
  simp only [Scanner.string,scanner_body]
  rfl

theorem host_string : HostScanner.string decode (s.text++rest)=
    match decode s.text with
    | none => .error (some .invalidJson)
    | some key => .ok (key,rest) := by
  have htext : s.text++rest = '"'::(s.pieces.flatMap Piece.text++ '"'::rest) := by
    simp [StringLiteral.text,StringLiteral.body]
  rw [htext]
  simp only [HostScanner.string,host_body]
  rfl

end Tokens
section Values

mutual

/-- The calls that the scan of a value nests at most. -/
def valueSize : Value → Nat
  | .array items => 2+elementsSize items
  | .object members => 2+membersSize members
  | .emptyArray _ => 2
  | .emptyObject _ => 2
  | _ => 1

def elementsSize : Elements → Nat
  | .last _ v _ => 1+valueSize v
  | .more _ v _ rest => 1+(valueSize v+elementsSize rest)

def membersSize : Members → Nat
  | .last _ _ _ _ v _ => 1+valueSize v
  | .more _ _ _ _ v _ rest => 1+(valueSize v+membersSize rest)

end

attribute [grind =] valueSize elementsSize membersSize

mutual

theorem valueSize_text (v : Value) : valueSize v≤2*v.text.length := by
  cases v with
  | array items =>
    have h := elementsSize_text items
    simp only [valueSize,Value.text,List.length_cons,List.length_append,List.length_nil]
    omega
  | object members =>
    have h := membersSize_text members
    simp only [valueSize,Value.text,List.length_cons,List.length_append,List.length_nil]
    omega
  | emptyArray inside =>
    simp only [valueSize,Value.text,List.length_cons]
    omega
  | emptyObject inside =>
    simp only [valueSize,Value.text,List.length_cons]
    omega
  | string s =>
    simp only [valueSize,Value.text,StringLiteral.text,List.length_cons]
    omega
  | number n =>
    have h := List.length_pos_of_ne_nil (number_run n).2
    simp only [valueSize,Value.text]
    omega
  | word w =>
    have h : 0<w.text.length := by cases w <;> exact Nat.succ_pos _
    simp only [valueSize,Value.text]
    omega

theorem elementsSize_text (items : Elements) : elementsSize items≤2*items.text.length+1 := by
  cases items with
  | last before v after =>
    have h := valueSize_text v
    simp only [elementsSize,Elements.text,List.length_append]
    omega
  | more before v after rest =>
    have h := valueSize_text v
    have hr := elementsSize_text rest
    simp only [elementsSize,Elements.text,List.length_append,List.length_cons]
    omega

theorem membersSize_text (members : Members) : membersSize members≤2*members.text.length+1 := by
  cases members with
  | last before key middle before' v after =>
    have h := valueSize_text v
    simp only [membersSize,Members.text,List.length_append,List.length_cons]
    omega
  | more before key middle before' v after rest =>
    have h := valueSize_text v
    have hr := membersSize_text rest
    simp only [membersSize,Members.text,List.length_append,List.length_cons]
    omega

end

/-- A character that a value can start with. -/
def startsValue (c : Char) : Bool := ['"','-','t','f','n','[','{'].contains c || c.isDigit

theorem value_head (v : Value) : ∃ c t,v.text=c::t ∧ startsValue c=true := by
  cases v with
  | string s => exact ⟨'"',_,rfl,rfl⟩
  | array items => exact ⟨'[',_,rfl,rfl⟩
  | object members => exact ⟨'{',_,rfl,rfl⟩
  | emptyArray inside => exact ⟨'[',_,rfl,rfl⟩
  | emptyObject inside => exact ⟨'{',_,rfl,rfl⟩
  | word w => cases w <;> exact ⟨_,_,rfl,rfl⟩
  | number n =>
    obtain ⟨hne,hall⟩ := isWhole_digits n.wholeValid
    cases hn : n.negative with
    | true => exact ⟨'-',n.whole++(n.fractionText++n.exponentText),by simp [Value.text,NumberLiteral.text,hn],rfl⟩
    | false =>
      cases hw : n.whole with
      | nil => exact absurd hw hne
      | cons c t =>
        have hc : c.isDigit=true := List.all_eq_true.mp hall c (by simp [hw])
        refine ⟨c,t++(n.fractionText++n.exponentText),?_,by simp [startsValue,hc]⟩
        simp [Value.text,NumberLiteral.text,hn,hw]

theorem startsValue_space {c : Char} (h : startsValue c=true) : HostScanner.isJsSpace c=false := by
  simp only [startsValue,Bool.or_eq_true,List.contains_iff_mem,List.mem_cons,List.not_mem_nil,or_false] at h
  rcases h with (rfl | rfl | rfl | rfl | rfl | rfl | rfl) | h
  · decide
  · decide
  · decide
  · decide
  · decide
  · decide
  · decide
  · have hrange : 48 ≤ c.toNat ∧ c.toNat≤57 := by
      simpa [Char.isDigit,UInt32.le_iff_toNat_le] using h
    have hspace : isSpace c=false := by
      simp only [isSpace,Bool.or_eq_false_iff,beq_eq_false_iff_ne]
      refine ⟨⟨⟨?_,?_⟩,?_⟩,?_⟩
      all_goals
        rintro rfl
        exact absurd hrange.1 (by decide)
    have hrest : ¬0x2000 ≤ c.toNat := by omega
    simp [HostScanner.isJsSpace,hspace,hrest]
    omega

theorem isJsSpace_of_isSpace {c : Char} (h : isSpace c=true) : HostScanner.isJsSpace c=true := by
  simp [HostScanner.isJsSpace,h]

theorem stops_space {c : Char} {rest : List Char} (h : HostScanner.isJsSpace c=false) :
    Stops isSpace (c::rest) ∧ Stops HostScanner.isJsSpace (c::rest) := by
  refine ⟨stops_cons ?_,stops_cons h⟩
  cases hs : isSpace c with
  | false => rfl
  | true =>
    rw [isJsSpace_of_isSpace hs] at h
    cases h

/-- Both scans pass over white space up to what is none. -/
theorem whitespace_space (s : Space) {c : Char} {rest : List Char} (h : HostScanner.isJsSpace c=false) :
    Scanner.whitespace (s.text++c::rest)=c::rest ∧ HostScanner.whitespace (s.text++c::rest)=c::rest := by
  have hs : Stops isSpace (c::rest) := (stops_space h).1
  have hj : Stops HostScanner.isJsSpace (c::rest) := (stops_space h).2
  have hall : s.text.all HostScanner.isJsSpace=true :=
    List.all_eq_true.mpr (fun c hc => isJsSpace_of_isSpace (List.all_eq_true.mp s.valid c hc))
  exact ⟨dropWhile_run s.valid hs,dropWhile_run hall hj⟩

theorem whitespace_value (s : Space) (v : Value) (rest : List Char) :
    Scanner.whitespace (s.text++(v.text++rest))=v.text++rest ∧
      HostScanner.whitespace (s.text++(v.text++rest))=v.text++rest := by
  obtain ⟨c,t,hv,hc⟩ := value_head v
  rw [hv,List.cons_append]
  exact whitespace_space s (startsValue_space hc)

theorem whitespace_string (s : Space) (key : StringLiteral) (rest : List Char) :
    Scanner.whitespace (s.text++(key.text++rest))=key.text++rest ∧
      HostScanner.whitespace (s.text++(key.text++rest))=key.text++rest := by
  exact whitespace_space s (c := '"') (by decide)

theorem whitespace_nil (s : Space) : Scanner.whitespace s.text=[] ∧ HostScanner.whitespace s.text=[] := by
  have hall : s.text.all HostScanner.isJsSpace=true :=
    List.all_eq_true.mpr (fun c hc => isJsSpace_of_isSpace (List.all_eq_true.mp s.valid c hc))
  have hs := dropWhile_run s.valid (stops_nil : Stops isSpace [])
  have hj := dropWhile_run hall (stops_nil : Stops HostScanner.isJsSpace [])
  rw [List.append_nil] at hs hj
  exact ⟨hs,hj⟩

end Values
section Supervisor
open Scanner
variable [DecidableEq κ] (decode : List Char → Option κ)

/-- The faults that the scan of the supervisor finds. -/
abbrev SupervisorRefuses (f : Fault) : Prop := f≠.vanishing

theorem scanner_primitive {fuel depth : Nat} {text : List Char} {c : Char} {t : List Char}
    (hd : depth ≤ maxJsonNesting) (ht : Scanner.whitespace text=c::t) (hq : c ≠ '"') (hb : c ≠ '{')
    (ha : c ≠ '[') : Scanner.value decode (fuel+1) depth text=Scanner.primitive (c::t) := by
  rw [Scanner.value,if_neg (by omega),ht]
  split
  · next heq => cases heq
  · next heq =>
    cases heq
    exact absurd rfl hq
  · next heq =>
    cases heq
    exact absurd rfl hb
  · next heq =>
    cases heq
    exact absurd rfl ha
  · next heq =>
    cases heq
    rfl

theorem number_head (n : NumberLiteral) : ∃ c t,n.text=c::t ∧ c ≠ '"' ∧ c ≠ '{' ∧ c ≠ '[' := by
  obtain ⟨hall,hne⟩ := number_run n
  obtain ⟨c,t,hv,hc⟩ := value_head (.number n)
  refine ⟨c,t,hv,?_,?_,?_⟩
  all_goals
    rintro rfl
    obtain ⟨hw,hd⟩ := isWhole_digits n.wholeValid
    have htext : n.text=_::t := hv
    cases hn : n.negative with
    | true =>
      simp only [NumberLiteral.text,hn,if_true,List.cons_append,List.cons.injEq] at htext
      exact absurd htext.1 (by decide)
    | false =>
      cases hwhole : n.whole with
      | nil => exact hw hwhole
      | cons d u =>
        have hdig : d.isDigit=true := List.all_eq_true.mp hd d (by simp [hwhole])
        simp only [NumberLiteral.text,hn,Bool.false_eq_true,if_false,hwhole,List.nil_append,
          List.cons_append,List.cons.injEq] at htext
        rw [htext.1] at hdig
        exact absurd hdig (by decide)

theorem word_head (w : Word) : ∃ c t,w.text=c::t ∧ c ≠ '"' ∧ c ≠ '{' ∧ c ≠ '[' := by
  cases w <;> exact ⟨_,_,rfl,by decide,by decide,by decide⟩

theorem has_depth {bad : Fault → Prop} {f : Fault} (hb : bad f) (depth : Nat) :
    Has bad (if maxJsonNesting≤depth then [f] else []) ↔ maxJsonNesting≤depth := by
  split
  · next h => simp [has_singleton,hb,h]
  · next h => simp [has_nil,h]

/-- The key of a member, with what is wrong with it. -/
theorem has_key {bad : Fault → Prop} (hu : bad .undecodable) (hd : bad .duplicateKey) (keys : List κ)
    (key : StringLiteral) : Has bad (keyFaults decode keys key) ↔
      ∀ k,decode key.text=some k → k∈keys := by
  unfold keyFaults
  cases h : decode key.text with
  | none => simp [has_singleton,hu]
  | some k =>
    by_cases hk : k∈keys
    · simp [has_singleton,hk,hd]
    · simp [has_nil,hk]

theorem whitespace_twice (text : List Char) :
    Scanner.whitespace (Scanner.whitespace text)=Scanner.whitespace text :=
  List.dropWhile_idempotent isSpace text

theorem scanner_elements_space (fuel depth : Nat) (text : List Char) :
    Scanner.elements decode fuel depth (Scanner.whitespace text)=Scanner.elements decode fuel depth text := by
  have hvalue (fuel : Nat) : Scanner.value decode fuel depth (Scanner.whitespace text)=
      Scanner.value decode fuel depth text := by
    cases fuel with
    | zero => rfl
    | succ fuel => simp only [Scanner.value,whitespace_twice]
  cases fuel with
  | zero => rfl
  | succ fuel => simp only [Scanner.elements,hvalue]

theorem scanner_members_space (fuel depth : Nat) (keys : List κ) (text : List Char) :
    Scanner.members decode fuel depth keys (Scanner.whitespace text)=
      Scanner.members decode fuel depth keys text := by
  cases fuel with
  | zero => rfl
  | succ fuel => simp only [Scanner.members,whitespace_twice]

/-- The values of an array that has some do not start with its end. -/
theorem elements_head (items : Elements) (rest : List Char) :
    ∃ c t,Scanner.whitespace (items.text++rest)=c::t ∧ HostScanner.whitespace (items.text++rest)=c::t ∧
      c ≠ ']' := by
  have hend {c : Char} (h : startsValue c=true) : c ≠ ']' := by
    rintro rfl
    exact absurd h (by decide)
  cases items with
  | last before v after =>
    obtain ⟨c,t,hv,hc⟩ := value_head v
    obtain ⟨hs,hh⟩ := whitespace_value before v (after.text++rest)
    rw [Elements.text,List.append_assoc,List.append_assoc,hs,hh,hv]
    exact ⟨c,_,rfl,rfl,hend hc⟩
  | more before v after rest' =>
    obtain ⟨c,t,hv,hc⟩ := value_head v
    obtain ⟨hs,hh⟩ := whitespace_value before v (after.text++ ','::(rest'.text++rest))
    simp only [Elements.text,List.append_assoc,List.cons_append]
    rw [hs,hh,hv]
    exact ⟨c,_,rfl,rfl,hend hc⟩

theorem members_head (members : Members) (rest : List Char) :
    ∃ t,Scanner.whitespace (members.text++rest) = '"'::t ∧ HostScanner.whitespace (members.text++rest) = '"'::t := by
  cases members with
  | last before key middle before' v after =>
    obtain ⟨hs,hh⟩ := whitespace_string before key (middle.text++ ':'::(before'.text++(v.text++(after.text++rest))))
    simp only [Members.text,List.append_assoc,List.cons_append] at hs hh ⊢
    simp only [hs,hh]
    exact ⟨_,rfl,rfl⟩
  | more before key middle before' v after rest' =>
    obtain ⟨hs,hh⟩ := whitespace_string before key
      (middle.text++ ':'::(before'.text++(v.text++(after.text++ ','::(rest'.text++rest)))))
    simp only [Members.text,List.append_assoc,List.cons_append] at hs hh ⊢
    simp only [hs,hh]
    exact ⟨_,rfl,rfl⟩

theorem scanner_array {fuel depth : Nat} (items : Elements) (rest : List Char) (hd : depth ≤ maxJsonNesting) :
    Scanner.array decode (fuel+1) depth (items.text++ ']'::rest)=
      Scanner.elements decode fuel depth (items.text++ ']'::rest) := by
  obtain ⟨c,t,hw,-,hc⟩ := elements_head items (']'::rest)
  rw [Scanner.array,if_neg (by omega),← scanner_elements_space decode fuel,hw]
  split
  · next heq =>
    cases heq
    exact absurd rfl hc
  · rfl

theorem scanner_object {fuel depth : Nat} (members : Members) (rest : List Char)
    (hd : depth ≤ maxJsonNesting) : Scanner.object decode (fuel+1) depth (members.text++ '}'::rest)=
      Scanner.members decode fuel depth [] (members.text++ '}'::rest) := by
  obtain ⟨t,hw,-⟩ := members_head members ('}'::rest)
  rw [Scanner.object,if_neg (by omega),← scanner_members_space decode fuel,hw]
  split
  · next heq => cases heq
  · rfl

/-- A member is scanned up to its key, which has to be read and new, and then from its value on. -/
theorem keyed_outcome {α : Type} {bad : Fault → Prop} (hu : bad .undecodable) (hd : bad .duplicateKey)
    {keys : List κ} {key : StringLiteral} {e e' : ε} {r : κ → Scan ε α} {faults : List Fault}
    {good : α → Prop} (hr : ∀ k,decode key.text=some k → Outcome (r k) (Has bad faults) good) :
    Outcome (match decode key.text with
      | none => .error (some e)
      | some k => if k∈keys then .error (some e') else r k)
      (Has bad (keyFaults decode keys key++faults)) good := by
  have hkey := has_key decode hu hd keys key
  cases hk : decode key.text with
  | none => exact (has_append ..).mpr (.inl (hkey.mpr (by simp [hk])))
  | some k =>
    simp only
    split
    · next h => exact (has_append ..).mpr (.inl (hkey.mpr (by simpa [hk] using h)))
    · next h =>
      refine (hr k hk).congr ?_
      rw [has_append,hkey]
      exact ⟨.inr,fun hh => hh.resolve_left (fun hall => h (hall k hk))⟩

theorem scanner_member {fuel depth : Nat} {keys : List κ} (before : Space) (key : StringLiteral)
    (middle : Space) (text : List Char) :
    Scanner.members decode (fuel+1) depth keys (before.text++(key.text++(middle.text++ ':'::text)))=
      match decode key.text with
      | none => .error (some .invalidJson)
      | some k => if k∈keys then .error (some .duplicateObjectKey) else (do
        let text ← Scanner.value decode fuel depth text
        match Scanner.whitespace text with
        | '}'::rest => .ok rest
        | ','::rest => Scanner.members decode fuel depth (k::keys) rest
        | _ => .error (some .invalidJson)) := by
  rw [Scanner.members,(whitespace_string before key _).1,scanner_string]
  cases decode key.text with
  | none => rfl
  | some k =>
    have hcolon : Scanner.whitespace (middle.text++ ':'::text) = ':'::text :=
      (whitespace_space middle (by decide)).1
    simp only [bind,Except.bind,hcolon] <;> rfl

mutual

/-- The scan of a value in the supervisor. -/
theorem scanner_value (v : Value) (fuel depth : Nat) (before : Space) (rest : List Char)
    (hf : valueSize v≤fuel) (hd : depth ≤ maxJsonNesting) (hr : Ends rest) :
    Outcome (Scanner.value decode fuel depth (before.text++(v.text++rest)))
      (Has SupervisorRefuses (valueFaults decode depth v)) (· = rest) := by
  obtain ⟨hw,-⟩ := whitespace_value before v rest
  obtain ⟨fuel,rfl⟩ : ∃ n,fuel=n+1 := by
    refine ⟨fuel-1,?_⟩
    cases v <;> simp only [valueSize] at hf <;> omega
  cases v with
  | string s =>
    rw [Scanner.value,if_neg (by omega),hw]
    change Outcome ((Scanner.string decode (s.text++rest)).map Prod.snd) _ _
    rw [scanner_string]
    cases hs : decode s.text with
    | none => exact (has_string decode s (by decide)).mpr hs
    | some k =>
      refine .ok (fun h => ?_) rfl
      rw [(has_string decode s (by decide)).mp h] at hs
      cases hs
  | number n =>
    obtain ⟨c,t,hn,hq,hb,ha⟩ := number_head n
    have htext : Scanner.whitespace (before.text++((Value.number n).text++rest))=c::(t++rest) := by
      rw [hw,Value.text,hn,List.cons_append]
    rw [scanner_primitive decode hd htext hq hb ha,← List.cons_append,← hn]
    exact scanner_number n hr
  | word w =>
    obtain ⟨c,t,hn,hq,hb,ha⟩ := word_head w
    have htext : Scanner.whitespace (before.text++((Value.word w).text++rest))=c::(t++rest) := by
      rw [hw,Value.text,hn,List.cons_append]
    rw [scanner_primitive decode hd htext hq hb ha,← List.cons_append,← hn,scanner_word w hr]
    exact .ok has_nil rfl
  | emptyArray inside =>
    obtain ⟨fuel,rfl⟩ : ∃ n,fuel=n+1 := ⟨fuel-1,by simp only [valueSize] at hf; omega⟩
    rw [Scanner.value,if_neg (by omega),hw]
    simp only [Value.text,List.cons_append,List.append_assoc,List.nil_append,Scanner.array,
      (whitespace_space inside (c := ']') (by decide)).1]
    split
    · next h => exact (has_depth (by decide) depth).mpr (by omega)
    · next h =>
      refine .ok (fun hh => h ?_) rfl
      have hdepth := (has_depth (by decide) depth).mp hh
      omega
  | emptyObject inside =>
    obtain ⟨fuel,rfl⟩ : ∃ n,fuel=n+1 := ⟨fuel-1,by simp only [valueSize] at hf; omega⟩
    rw [Scanner.value,if_neg (by omega),hw]
    simp only [Value.text,List.cons_append,List.append_assoc,List.nil_append,Scanner.object,
      (whitespace_space inside (c := '}') (by decide)).1]
    split
    · next h => exact (has_depth (by decide) depth).mpr (by omega)
    · next h =>
      refine .ok (fun hh => h ?_) rfl
      have hdepth := (has_depth (by decide) depth).mp hh
      omega
  | array items =>
    obtain ⟨fuel,rfl⟩ : ∃ n,fuel=n+1 := ⟨fuel-1,by simp only [valueSize] at hf; omega⟩
    simp only [valueSize] at hf
    rw [Scanner.value,if_neg (by omega),hw]
    simp only [Value.text,List.cons_append,List.append_assoc,List.nil_append]
    by_cases h : depth+1 ≤ maxJsonNesting
    · rw [scanner_array decode items rest h]
      refine (scanner_elements items fuel (depth+1) rest (by omega) h).congr ?_
      rw [valueFaults,has_append,has_depth (by decide)]
      exact ⟨.inr,fun hh => hh.resolve_left (by omega)⟩
    · rw [Scanner.array,if_pos (by omega)]
      exact (has_append ..).mpr (.inl ((has_depth (by decide) depth).mpr (by omega)))
  | object members =>
    obtain ⟨fuel,rfl⟩ : ∃ n,fuel=n+1 := ⟨fuel-1,by simp only [valueSize] at hf; omega⟩
    simp only [valueSize] at hf
    rw [Scanner.value,if_neg (by omega),hw]
    simp only [Value.text,List.cons_append,List.append_assoc,List.nil_append]
    by_cases h : depth+1 ≤ maxJsonNesting
    · rw [scanner_object decode members rest h]
      refine (scanner_members members fuel (depth+1) [] rest (by omega) h).congr ?_
      rw [valueFaults,has_append,has_depth (by decide)]
      exact ⟨.inr,fun hh => hh.resolve_left (by omega)⟩
    · rw [Scanner.object,if_pos (by omega)]
      exact (has_append ..).mpr (.inl ((has_depth (by decide) depth).mpr (by omega)))

theorem scanner_elements (items : Elements) (fuel depth : Nat) (rest : List Char)
    (hf : elementsSize items≤fuel) (hd : depth ≤ maxJsonNesting) :
    Outcome (Scanner.elements decode fuel depth (items.text++ ']'::rest))
      (Has SupervisorRefuses (elementsFaults decode depth items)) (· = rest) := by
  obtain ⟨fuel,rfl⟩ : ∃ n,fuel=n+1 := by
    refine ⟨fuel-1,?_⟩
    cases items <;> simp only [elementsSize] at hf <;> omega
  cases items with
  | last before v after =>
    simp only [elementsSize] at hf
    have hv := scanner_value v fuel depth before (after.text++ ']'::rest) (by omega) hd
      (Space.ends after (ends_cons rfl))
    simp only [Elements.text,List.append_assoc,Scanner.elements,elementsFaults]
    refine (hv.bind (fun text ht => ?_)).congr (Iff.of_eq (or_false _))
    rw [ht,(whitespace_space after (c := ']') (by decide)).1]
    exact .ok id rfl
  | more before v after items =>
    simp only [elementsSize] at hf
    have hv := scanner_value v fuel depth before (after.text++ ','::(items.text++ ']'::rest)) (by omega) hd
      (Space.ends after (ends_cons rfl))
    simp only [Elements.text,List.append_assoc,List.cons_append,Scanner.elements,elementsFaults]
    refine (hv.bind (fun text ht => ?_)).congr (has_append ..).symm
    rw [ht,(whitespace_space after (c := ',') (by decide)).1]
    exact scanner_elements items fuel depth rest (by omega) hd

theorem scanner_members (members : Members) (fuel depth : Nat) (keys : List κ) (rest : List Char)
    (hf : membersSize members≤fuel) (hd : depth ≤ maxJsonNesting) :
    Outcome (Scanner.members decode fuel depth keys (members.text++ '}'::rest))
      (Has SupervisorRefuses (membersFaults decode depth keys members)) (· = rest) := by
  obtain ⟨fuel,rfl⟩ : ∃ n,fuel=n+1 := by
    refine ⟨fuel-1,?_⟩
    cases members <;> simp only [membersSize] at hf <;> omega
  cases members with
  | last before key middle before' v after =>
    simp only [membersSize] at hf
    have hv := scanner_value v fuel depth before' (after.text++ '}'::rest) (by omega) hd
      (Space.ends after (ends_cons rfl))
    simp only [Members.text,List.append_assoc,List.cons_append,scanner_member,membersFaults]
    refine keyed_outcome decode (by decide) (by decide) (fun k _ => ?_)
    refine (hv.bind (fun text ht => ?_)).congr (Iff.of_eq (or_false _))
    rw [ht,(whitespace_space after (c := '}') (by decide)).1]
    exact .ok id rfl
  | more before key middle before' v after members =>
    simp only [membersSize] at hf
    have hv := scanner_value v fuel depth before' (after.text++ ','::(members.text++ '}'::rest)) (by omega)
      hd (Space.ends after (ends_cons rfl))
    simp only [Members.text,List.append_assoc,List.cons_append,scanner_member,membersFaults]
    refine keyed_outcome decode (by decide) (by decide) (fun k hk => ?_)
    refine (hv.bind (fun text ht => ?_)).congr (has_append ..).symm
    rw [ht,(whitespace_space after (c := ',') (by decide)).1,hk]
    exact scanner_members members fuel depth (k::keys) rest (by omega) hd

end
end Supervisor
section Host
variable [DecidableEq κ] (decode : List Char → Option κ)

/-- The faults that the scan of the host finds. -/
abbrev HostRefuses (f : Fault) : Prop := f≠.deepEmpty

theorem host_primitive {fuel depth : Nat} {text : List Char} {c : Char} {t : List Char}
    (hd : depth ≤ maxJsonNesting) (ht : HostScanner.whitespace text=c::t) (hq : c ≠ '"') (hb : c ≠ '{')
    (ha : c ≠ '[') : HostScanner.value decode (fuel+1) depth text=HostScanner.primitive (c::t) := by
  rw [HostScanner.value,if_neg (by omega),ht]
  split
  · next heq =>
    cases heq
    exact absurd rfl hq
  · next heq =>
    cases heq
    exact absurd rfl hb
  · next heq =>
    cases heq
    exact absurd rfl ha
  · rfl

theorem host_whitespace_twice (text : List Char) :
    HostScanner.whitespace (HostScanner.whitespace text)=HostScanner.whitespace text :=
  List.dropWhile_idempotent HostScanner.isJsSpace text

theorem host_elements_space (fuel depth : Nat) (text : List Char) :
    HostScanner.elements decode fuel depth (HostScanner.whitespace text)=
      HostScanner.elements decode fuel depth text := by
  have hvalue (fuel : Nat) : HostScanner.value decode fuel (depth+1) (HostScanner.whitespace text)=
      HostScanner.value decode fuel (depth+1) text := by
    cases fuel with
    | zero => rfl
    | succ fuel => simp only [HostScanner.value,host_whitespace_twice]
  cases fuel with
  | zero => rfl
  | succ fuel => simp only [HostScanner.elements,hvalue]

theorem host_members_space (fuel depth : Nat) (keys : List κ) (text : List Char) :
    HostScanner.members decode fuel depth keys (HostScanner.whitespace text)=
      HostScanner.members decode fuel depth keys text := by
  cases fuel with
  | zero => rfl
  | succ fuel => simp only [HostScanner.members,host_whitespace_twice]

theorem host_array {fuel depth : Nat} (before : Space) (items : Elements) (rest : List Char)
    (hd : depth ≤ maxJsonNesting) :
    HostScanner.value decode (fuel+1) depth (before.text++((Value.array items).text++rest))=
      HostScanner.elements decode fuel depth (items.text++ ']'::rest) := by
  obtain ⟨c,t,-,hw,hc⟩ := elements_head items (']'::rest)
  rw [HostScanner.value,if_neg (by omega),(whitespace_value before _ rest).2]
  simp only [Value.text,List.cons_append,List.append_assoc,List.nil_append]
  rw [← host_elements_space decode fuel,hw]
  split
  · next heq =>
    cases heq
    exact absurd rfl hc
  · rfl

theorem host_object {fuel depth : Nat} (before : Space) (members : Members) (rest : List Char)
    (hd : depth ≤ maxJsonNesting) :
    HostScanner.value decode (fuel+1) depth (before.text++((Value.object members).text++rest))=
      HostScanner.members decode fuel depth [] (members.text++ '}'::rest) := by
  obtain ⟨t,-,hw⟩ := members_head members ('}'::rest)
  rw [HostScanner.value,if_neg (by omega),(whitespace_value before _ rest).2]
  simp only [Value.text,List.cons_append,List.append_assoc,List.nil_append]
  rw [← host_members_space decode fuel,hw]
  split
  · next heq => cases heq
  · rfl

theorem host_member {fuel depth : Nat} {keys : List κ} (before : Space) (key : StringLiteral)
    (middle : Space) (text : List Char) :
    HostScanner.members decode (fuel+1) depth keys (before.text++(key.text++(middle.text++ ':'::text)))=
      match decode key.text with
      | none => .error (some .invalidJson)
      | some k => if k∈keys then .error (some .duplicateJsonObjectKey) else (do
        let text ← HostScanner.value decode fuel (depth+1) text
        match HostScanner.whitespace text with
        | '}'::rest => .ok rest
        | ','::rest => HostScanner.members decode fuel depth (k::keys) rest
        | _ => .error (some .invalidJson)) := by
  rw [HostScanner.members,(whitespace_string before key _).2,host_string]
  cases decode key.text with
  | none => rfl
  | some k =>
    have hcolon : HostScanner.whitespace (middle.text++ ':'::text) = ':'::text :=
      (whitespace_space middle (by decide)).2
    simp only [bind,Except.bind,hcolon] <;> rfl

/-- Below the limit of nesting the host finds no value. -/
theorem host_value_deep {fuel depth : Nat} {text : List Char} (hf : 0<fuel) (hd : maxJsonNesting<depth) :
    HostScanner.value decode fuel depth text=.error (some .jsonNestingLimit) := by
  obtain ⟨fuel,rfl⟩ : ∃ n,fuel=n+1 := ⟨fuel-1,by omega⟩
  rw [HostScanner.value,if_pos hd]

theorem valueSize_pos (v : Value) : 0<valueSize v := by
  cases v <;> simp only [valueSize] <;> omega

theorem host_elements_deep (items : Elements) {fuel depth : Nat} {rest : List Char}
    (hf : elementsSize items≤fuel) (hd : maxJsonNesting≤depth) :
    Outcome (HostScanner.elements decode fuel depth (items.text++ ']'::rest)) True (· = rest) := by
  have hpos : 2≤fuel := by
    cases items with
    | last before v after =>
      have hv := valueSize_pos v
      simp only [elementsSize] at hf
      omega
    | more before v after rest =>
      have hv := valueSize_pos v
      simp only [elementsSize] at hf
      omega
  obtain ⟨fuel,rfl⟩ : ∃ n,fuel=n+1 := ⟨fuel-1,by omega⟩
  rw [HostScanner.elements,host_value_deep decode (by omega) (by omega)]
  trivial

theorem host_members_deep (members : Members) {fuel depth : Nat} {keys : List κ} {rest : List Char}
    (hf : membersSize members≤fuel) (hd : maxJsonNesting≤depth) :
    Outcome (HostScanner.members decode fuel depth keys (members.text++ '}'::rest)) True (· = rest) := by
  have hdeep (fuel : Nat) (hf : 2≤fuel) (before : Space) (key : StringLiteral) (middle : Space)
      (text : List Char) : Outcome (HostScanner.members decode fuel depth keys
        (before.text++(key.text++(middle.text++ ':'::text)))) True (· = rest) := by
    obtain ⟨fuel,rfl⟩ : ∃ n,fuel=n+1 := ⟨fuel-1,by omega⟩
    rw [host_member,host_value_deep decode (by omega) (by omega)]
    cases decode key.text with
    | none => trivial
    | some k =>
      simp only
      split
      · trivial
      · trivial
  cases members with
  | last before key middle before' v after =>
    have hv := valueSize_pos v
    simp only [membersSize] at hf
    simp only [Members.text,List.append_assoc,List.cons_append]
    exact hdeep fuel (by omega) before key middle _
  | more before key middle before' v after members =>
    have hv := valueSize_pos v
    simp only [membersSize] at hf
    simp only [Members.text,List.append_assoc,List.cons_append]
    exact hdeep fuel (by omega) before key middle _

mutual

/-- The scan of a value in the host. -/
theorem host_value (v : Value) (fuel depth : Nat) (before : Space) (rest : List Char)
    (hf : valueSize v≤fuel) (hd : depth ≤ maxJsonNesting) (hr : Ends rest) :
    Outcome (HostScanner.value decode fuel depth (before.text++(v.text++rest)))
      (Has HostRefuses (valueFaults decode depth v)) (· = rest) := by
  obtain ⟨-,hw⟩ := whitespace_value before v rest
  have hempty : ¬Has HostRefuses (if maxJsonNesting≤depth then [.deepEmpty] else []) := by
    split
    · simp [has_singleton]
    · exact has_nil
  obtain ⟨fuel,rfl⟩ : ∃ n,fuel=n+1 := by
    have hpos := valueSize_pos v
    exact ⟨fuel-1,by omega⟩
  cases v with
  | string s =>
    rw [HostScanner.value,if_neg (by omega),hw]
    change Outcome ((HostScanner.string decode (s.text++rest)).map Prod.snd) _ _
    rw [host_string]
    cases hs : decode s.text with
    | none => exact (has_string decode s (by decide)).mpr hs
    | some k =>
      refine .ok (fun h => ?_) rfl
      rw [(has_string decode s (by decide)).mp h] at hs
      cases hs
  | number n =>
    obtain ⟨c,t,hn,hq,hb,ha⟩ := number_head n
    have htext : HostScanner.whitespace (before.text++((Value.number n).text++rest))=c::(t++rest) := by
      rw [hw,Value.text,hn,List.cons_append]
    rw [host_primitive decode hd htext hq hb ha,← List.cons_append,← hn]
    exact host_number n hr
  | word w =>
    obtain ⟨c,t,hn,hq,hb,ha⟩ := word_head w
    have htext : HostScanner.whitespace (before.text++((Value.word w).text++rest))=c::(t++rest) := by
      rw [hw,Value.text,hn,List.cons_append]
    rw [host_primitive decode hd htext hq hb ha,← List.cons_append,← hn,host_word w]
    exact .ok has_nil rfl
  | emptyArray inside =>
    rw [HostScanner.value,if_neg (by omega),hw]
    simp only [Value.text,List.cons_append,List.append_assoc,List.nil_append,
      (whitespace_space inside (c := ']') (by decide)).2]
    exact .ok hempty rfl
  | emptyObject inside =>
    rw [HostScanner.value,if_neg (by omega),hw]
    simp only [Value.text,List.cons_append,List.append_assoc,List.nil_append,
      (whitespace_space inside (c := '}') (by decide)).2]
    exact .ok hempty rfl
  | array items =>
    simp only [valueSize] at hf
    rw [host_array decode before items rest hd,valueFaults]
    by_cases h : depth+1 ≤ maxJsonNesting
    · refine (host_elements items fuel depth rest (by omega) h).congr ?_
      rw [has_append,has_depth (by decide)]
      exact ⟨.inr,fun hh => hh.resolve_left (by omega)⟩
    · refine (host_elements_deep decode items (by omega) (by omega)).congr ?_
      rw [has_append,has_depth (by decide)]
      exact ⟨fun _ => .inl (by omega),fun _ => trivial⟩
  | object members =>
    simp only [valueSize] at hf
    rw [host_object decode before members rest hd,valueFaults]
    by_cases h : depth+1 ≤ maxJsonNesting
    · refine (host_members members fuel depth [] rest (by omega) h).congr ?_
      rw [has_append,has_depth (by decide)]
      exact ⟨.inr,fun hh => hh.resolve_left (by omega)⟩
    · refine (host_members_deep decode members (by omega) (by omega)).congr ?_
      rw [has_append,has_depth (by decide)]
      exact ⟨fun _ => .inl (by omega),fun _ => trivial⟩

theorem host_elements (items : Elements) (fuel depth : Nat) (rest : List Char)
    (hf : elementsSize items≤fuel) (hd : depth+1 ≤ maxJsonNesting) :
    Outcome (HostScanner.elements decode fuel depth (items.text++ ']'::rest))
      (Has HostRefuses (elementsFaults decode (depth+1) items)) (· = rest) := by
  obtain ⟨fuel,rfl⟩ : ∃ n,fuel=n+1 := by
    refine ⟨fuel-1,?_⟩
    cases items <;> simp only [elementsSize] at hf <;> omega
  cases items with
  | last before v after =>
    simp only [elementsSize] at hf
    have hv := host_value v fuel (depth+1) before (after.text++ ']'::rest) (by omega) hd
      (Space.ends after (ends_cons rfl))
    simp only [Elements.text,List.append_assoc,HostScanner.elements,elementsFaults]
    refine (hv.bind (fun text ht => ?_)).congr (Iff.of_eq (or_false _))
    rw [ht,(whitespace_space after (c := ']') (by decide)).2]
    exact .ok id rfl
  | more before v after items =>
    simp only [elementsSize] at hf
    have hv := host_value v fuel (depth+1) before (after.text++ ','::(items.text++ ']'::rest)) (by omega)
      hd (Space.ends after (ends_cons rfl))
    simp only [Elements.text,List.append_assoc,List.cons_append,HostScanner.elements,elementsFaults]
    refine (hv.bind (fun text ht => ?_)).congr (has_append ..).symm
    rw [ht,(whitespace_space after (c := ',') (by decide)).2]
    exact host_elements items fuel depth rest (by omega) hd

theorem host_members (members : Members) (fuel depth : Nat) (keys : List κ) (rest : List Char)
    (hf : membersSize members≤fuel) (hd : depth+1 ≤ maxJsonNesting) :
    Outcome (HostScanner.members decode fuel depth keys (members.text++ '}'::rest))
      (Has HostRefuses (membersFaults decode (depth+1) keys members)) (· = rest) := by
  obtain ⟨fuel,rfl⟩ : ∃ n,fuel=n+1 := by
    refine ⟨fuel-1,?_⟩
    cases members <;> simp only [membersSize] at hf <;> omega
  cases members with
  | last before key middle before' v after =>
    simp only [membersSize] at hf
    have hv := host_value v fuel (depth+1) before' (after.text++ '}'::rest) (by omega) hd
      (Space.ends after (ends_cons rfl))
    simp only [Members.text,List.append_assoc,List.cons_append,host_member,membersFaults]
    refine keyed_outcome decode (by decide) (by decide) (fun k _ => ?_)
    refine (hv.bind (fun text ht => ?_)).congr (Iff.of_eq (or_false _))
    rw [ht,(whitespace_space after (c := '}') (by decide)).2]
    exact .ok id rfl
  | more before key middle before' v after members =>
    simp only [membersSize] at hf
    have hv := host_value v fuel (depth+1) before' (after.text++ ','::(members.text++ '}'::rest)) (by omega)
      hd (Space.ends after (ends_cons rfl))
    simp only [Members.text,List.append_assoc,List.cons_append,host_member,membersFaults]
    refine keyed_outcome decode (by decide) (by decide) (fun k hk => ?_)
    refine (hv.bind (fun text ht => ?_)).congr (has_append ..).symm
    rw [ht,(whitespace_space after (c := ',') (by decide)).2,hk]
    exact host_members members fuel depth (k::keys) rest (by omega) hd

end
end Host
section Texts
variable [DecidableEq κ] (decode : List Char → Option κ) (d : Document)

/-- The faults of a whole text. -/
def documentFaults (d : Document) : List Fault := valueFaults decode 0 d.value

theorem fuelFor_document : valueSize d.value≤Scanner.fuelFor d.text := by
  have h := valueSize_text d.value
  simp only [Scanner.fuelFor,Document.text,List.length_append]
  omega

theorem space_ends (s : Space) : Ends s.text := by
  have h := Space.ends s ends_nil
  rwa [List.append_nil] at h

theorem supervisor_accepts_iff : (rejectDuplicateObjectKeys decode d.text).isOk=true ↔
    ¬Has SupervisorRefuses (documentFaults decode d) := by
  have h := scanner_value decode d.value (Scanner.fuelFor d.text) 0 d.before d.after.text
    (fuelFor_document d) (Nat.zero_le _) (space_ends d.after)
  change Outcome (Scanner.value decode (Scanner.fuelFor d.text) 0 d.text) _ _ at h
  unfold rejectDuplicateObjectKeys
  cases hr : Scanner.value decode (Scanner.fuelFor d.text) 0 d.text with
  | ok text =>
    rw [hr] at h
    obtain ⟨hn,rfl⟩ := h
    simp only [(whitespace_nil d.after).1,if_true]
    exact ⟨fun _ => hn,fun _ => rfl⟩
  | error e =>
    rw [hr] at h
    cases e with
    | none => exact h.elim
    | some e => exact ⟨fun hok => (nomatch hok),fun hn => absurd h hn⟩

theorem host_accepts_iff : (assertNoDuplicateObjectKeys decode d.text).isOk=true ↔
    ¬Has HostRefuses (documentFaults decode d) := by
  have h := host_value decode d.value (Scanner.fuelFor d.text) 0 d.before d.after.text
    (fuelFor_document d) (Nat.zero_le _) (space_ends d.after)
  change Outcome (HostScanner.value decode (Scanner.fuelFor d.text) 0 d.text) _ _ at h
  unfold assertNoDuplicateObjectKeys
  cases hr : HostScanner.value decode (Scanner.fuelFor d.text) 0 d.text with
  | ok text =>
    rw [hr] at h
    obtain ⟨hn,rfl⟩ := h
    simp only [(whitespace_nil d.after).2,if_true]
    exact ⟨fun _ => hn,fun _ => rfl⟩
  | error e =>
    rw [hr] at h
    cases e with
    | none => exact h.elim
    | some e => exact ⟨fun hok => (nomatch hok),fun hn => absurd h hn⟩

/-- A fault that both scans look for. -/
def SharedFault (f : Fault) : Prop := f≠.vanishing ∧ f≠.deepEmpty

theorem has_split (faults : List Fault) (f : Fault) (hf : f=.vanishing ∨ f=.deepEmpty) :
    Has (· ≠ f) faults ↔ Has SharedFault faults ∨
      (if f=.vanishing then .deepEmpty else .vanishing)∈faults := by
  have hother (g : Fault) : g≠f ↔ SharedFault g ∨ g=(if f=.vanishing then .deepEmpty else .vanishing) := by
    rcases hf with rfl | rfl <;> cases g <;> simp [SharedFault]
  simp only [Has,hother,and_or_left,exists_or,exists_eq_right]

/-- The two scans agree on a text if both have a reason to refuse it, or if it has a vanishing
number just when it has an empty container below the limit of nesting. -/
theorem scans_agree_iff : ((rejectDuplicateObjectKeys decode d.text).isOk=true ↔
      (assertNoDuplicateObjectKeys decode d.text).isOk=true) ↔
    Has SharedFault (documentFaults decode d) ∨
      (Fault.vanishing∈documentFaults decode d ↔ Fault.deepEmpty∈documentFaults decode d) := by
  have hsupervisor := has_split (documentFaults decode d) .vanishing (.inl rfl)
  have hhost := has_split (documentFaults decode d) .deepEmpty (.inr rfl)
  rw [supervisor_accepts_iff,host_accepts_iff,hsupervisor,hhost]
  simp only [if_true,reduceCtorEq,if_false]
  tauto

/-- Brackets around brackets. -/
def nested : Nat → Value
  | 0 => .emptyArray ⟨[],rfl⟩
  | n+1 => .array (.last ⟨[],rfl⟩ (nested n) ⟨[],rfl⟩)

/-- One empty array inside of as many arrays as the limit allows. -/
def deepText : List Char := (Document.mk ⟨[],rfl⟩ (nested maxJsonNesting) ⟨[],rfl⟩).text

theorem deepText_disputed : IsJsonText deepText ∧
    rejectDuplicateObjectKeys (fun s => some s) deepText=.error .nestingTooDeep ∧
    assertNoDuplicateObjectKeys (fun s => some s) deepText=.ok () :=
  ⟨⟨_,rfl⟩,by decide +kernel,by decide +kernel⟩

end Texts
end Society.Boundary
