import Society.Codec

namespace Society.Coding

/-! Readers of texts whose fields end at a separator or have a length announced before them. -/

section Fields
variable {α : Type} {p : Bytes} {a : α}

def Reader.literal (p : Bytes) : Reader Unit := fun x =>
  if p.isPrefixOf x then some ((),x.drop p.length) else none

theorem reads_literal (p : Bytes) : Reads (Reader.literal p) p () := by
  intro x
  simp [Reader.literal]

/-- What comes before the next separator. -/
def Reader.until (sep : UInt8) : Reader Bytes
  | [] => none
  | b::x =>
    if b=sep then some ([],x)
    else (Reader.until sep x).map (fun r => (b::r.1,r.2))

theorem reads_until {sep : UInt8} (h : sep∉p) : Reads (Reader.until sep) (p++[sep]) p := by
  intro x
  induction p with
  | nil => simp [Reader.until]
  | cons b p ih =>
    obtain ⟨hb,hp⟩ := not_or.mp (mt List.mem_cons.mpr h)
    have hrest := ih hp
    rw [List.cons_append,List.cons_append,Reader.until,if_neg (Ne.symm hb),hrest]
    rfl

def Reader.exactly (n : Nat) : Reader Bytes := fun x =>
  if n≤x.length then some (x.take n,x.drop n) else none

theorem reads_exactly (p : Bytes) : Reads (Reader.exactly p.length) p p := by
  intro x
  simp [Reader.exactly]

/-- A name, a value and a separator. -/
def Reader.field (name : Bytes) (sep : UInt8) (decode : Bytes → Option α) : Reader α :=
  (Reader.literal name).select (fun _ => (Reader.until sep).check decode)

theorem reads_field {name : Bytes} {sep : UInt8} {decode : Bytes → Option α} (h : sep∉p)
    (hd : decode p=some a) : Reads (Reader.field name sep decode) (name++(p++[sep])) a :=
  (reads_literal name).select ((reads_until h).check hd)

/-- The values up to the end of the input, at most `n`. -/
def Reader.all (m : Reader α) : Nat → Bytes → Option (List α)
  | _,[] => some []
  | 0,_ => none
  | n+1,x => (m x).bind (fun r => (Reader.all m n r.2).map (r.1::·))

theorem length_le_flatMap {β : Type} {f : β → Bytes} (hne : ∀ b,f b≠[]) (bs : List β) :
    bs.length≤(bs.flatMap f).length := by
  induction bs with
  | nil => exact Nat.zero_le _
  | cons b bs ih =>
    have hb := List.length_pos_of_ne_nil (hne b)
    simp only [List.length_cons,List.flatMap_cons,List.length_append]
    omega

/-- Records that are read one by one are read together. -/
theorem all_reads {β : Type} {m : Reader α} {f : β → Bytes} {g : β → α}
    (h : ∀ b,Reads m (f b) (g b)) (hne : ∀ b,f b≠[]) (bs : List β) {n : Nat}
    (hn : bs.length≤n) : Reader.all m n (bs.flatMap f)=some (bs.map g) := by
  induction bs generalizing n with
  | nil => cases n <;> rfl
  | cons b bs ih =>
    obtain ⟨n,rfl⟩ := Nat.exists_eq_add_one_of_ne_zero
      (Nat.ne_of_gt (Nat.lt_of_lt_of_le (Nat.succ_pos _) hn))
    obtain ⟨c,x,hx⟩ := List.exists_cons_of_ne_nil (hne b)
    have hread := h b (bs.flatMap f)
    have hrest := ih (Nat.le_of_succ_le_succ hn)
    rw [List.flatMap_cons]
    rw [hx,List.cons_append] at hread ⊢
    simp only [Reader.all,hread,Option.bind_some,hrest,Option.map_some,List.map_cons]

end Fields
section Numbers

def isDigitByte (b : UInt8) : Bool := 48≤b && b≤57

def decimal (b : Bytes) : Option Nat :=
  if b.all isDigitByte && !b.isEmpty then
    some (Nat.ofDigitChars 10 (b.map (fun c => Char.ofNat c.toNat)) 0)
  else none

theorem digit_bounds {n : Nat} {c : Char} (h : c∈Nat.toDigits 10 n) : 48 ≤ c.toNat ∧ c.toNat≤57 := by
  have hdigit := Nat.isDigit_of_mem_toDigits (by omega) (by omega) h
  simpa [Char.isDigit,Char.le_def,UInt32.le_iff_toNat_le] using hdigit

theorem digit_toNat {n : Nat} {c : Char} (h : c∈Nat.toDigits 10 n) :
    c.val.toUInt8.toNat=c.toNat := by
  have hbounds := digit_bounds h
  rw [UInt32.toNat_toUInt8]
  exact Nat.mod_eq_of_lt (by omega : c.toNat<256)

theorem utf8_digits (n : Nat) :
    utf8 (toString n)=(Nat.toDigits 10 n).map (fun x => x.val.toUInt8) := by
  rw [Nat.toString_eq_ofList_toDigits]
  refine utf8_ascii (fun x hx => ?_)
  have := digit_bounds hx
  omega

/-- The bytes of a number are digits. -/
theorem digits_bytes {n : Nat} {b : UInt8} (h : b∈utf8 (toString n)) : 48≤b ∧ b≤57 := by
  rw [utf8_digits] at h
  obtain ⟨c,hc,rfl⟩ := List.mem_map.mp h
  rw [UInt8.le_iff_toNat_le,UInt8.le_iff_toNat_le,digit_toNat hc]
  exact digit_bounds hc

/-- A number that is written reads back. -/
theorem decimal_toString (n : Nat) : decimal (utf8 (toString n))=some n := by
  have hdigits : (utf8 (toString n)).all isDigitByte=true := by
    refine List.all_eq_true.mpr (fun b hb => ?_)
    simp [isDigitByte,digits_bytes hb]
  have hne : (utf8 (toString n)).isEmpty=false := by
    rw [utf8_digits]
    simp [Nat.toDigits_ne_nil]
  have hchars : (utf8 (toString n)).map (fun c => Char.ofNat c.toNat)=Nat.toDigits 10 n := by
    rw [utf8_digits,List.map_map]
    refine (List.map_congr_left (fun c hc => ?_)).trans (List.map_id _)
    simp only [Function.comp_apply,digit_toNat hc,Char.ofNat_toNat,id_eq]
  rw [decimal,hdigits,hne,hchars,Nat.ofDigitChars_ten_toDigits]
  rfl

/-- A number, or a word for its absence. -/
def numberOr (absent : Bytes) (b : Bytes) : Option (Option Nat) :=
  if b=absent then some none else (decimal b).map some

theorem numberOr_toString {absent : Bytes} {b : UInt8} (hb : b∈absent) (hn : isDigitByte b=false)
    (n : Nat) : numberOr absent (utf8 (toString n))=some (some n) := by
  have hne : utf8 (toString n)≠absent := by
    intro he
    rw [← he] at hb
    simp [isDigitByte,digits_bytes hb] at hn
  rw [numberOr,if_neg hne,decimal_toString]
  rfl

end Numbers
end Society.Coding
