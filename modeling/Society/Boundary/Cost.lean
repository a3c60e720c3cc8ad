import Society.Boundary.Protocol
import Society.Handler

namespace Society.Boundary
open Society.Stateful

/-! What a cumulative usage snapshot adds to the snapshots before it. -/

inductive CostDecodeError
  | invalidHex | nonFiniteOrNegative | overflow | inconsistentUsage | regressedUsage
  | unavailableUsage
  deriving DecidableEq

def hexDigit (c : Char) : Nat := if c.isDigit then c.toNat-48 else c.toNat-87

/-- The bits that sixteen hexadecimal digits spell. -/
def Binary64BigEndianHex.bits (h : Binary64BigEndianHex) : Nat :=
  h.text.toList.foldl (fun n c => 16*n+hexDigit c) 0

@[ext] structure ProviderCost where
  bits : Nat
  deriving DecidableEq

namespace ProviderCost

def fromObservation (h : Binary64BigEndianHex) : Except CostDecodeError ProviderCost :=
  if h.bits/2^63≠0 ∨ h.bits/2^52%2^11=0x7ff then .error .nonFiniteOrNegative else .ok ⟨h.bits⟩

/-- The ceiling of the cost in millionths, in 128-bit arithmetic as the crate does it. The left
shift is refused only from 128 places on; below that it drops the bits it pushes out. -/
def ceilToMicroUsd (c : ProviderCost) : Except CostDecodeError Nat :=
  let exponent : Nat := c.bits/2^52%2^11
  let fraction : Nat := c.bits%2^52
  if exponent=0 ∧ fraction=0 then .ok 0 else
  let significand := if exponent=0 then fraction else 2^52+fraction
  let binaryExponent : Int := if exponent=0 then -1074 else (exponent : Int)-1023-52
  let numerator := significand*1000000
  if 2^128≤numerator then .error .overflow else
  if 0≤binaryExponent then
    if binaryExponent.toNat<128 then .ok (numerator*2^binaryExponent.toNat%2^128)
    else .error .overflow
  else
    let shift := (-binaryExponent).toNat
    if 128 ≤ shift then .ok 1
    else .ok (numerator/2^shift+if numerator%2^shift=0 then 0 else 1)

end ProviderCost

@[ext] structure NormalizedUsage where
  inputTokens : Nat
  outputTokens : Nat
  cacheReadTokens : Nat
  cacheWriteTokens : Nat
  totalTokens : Nat
  providerCost : ProviderCost
  ceilingMicroUsd : Nat
  deriving DecidableEq

def checkedAdd64 (a b : Nat) : Option Nat := if a+b<2^64 then some (a+b) else none

def NormalizedUsage.fromTotals (t : UsageTotals) : Except CostDecodeError NormalizedUsage :=
  match ((checkedAdd64 t.inputTokens.val t.outputTokens.val).bind
      (checkedAdd64 · t.cacheReadTokens.val)).bind (checkedAdd64 · t.cacheWriteTokens.val) with
  | none => .error .inconsistentUsage
  | some total =>
    if total≠t.totalTokens.val then .error .inconsistentUsage else do
    let cost ← ProviderCost.fromObservation t.providerCost
    let ceiling ← cost.ceilToMicroUsd
    pure ⟨t.inputTokens.val,t.outputTokens.val,t.cacheReadTokens.val,t.cacheWriteTokens.val,
      total,cost,ceiling⟩

@[ext] structure UsageDelta where
  inputTokens : Nat
  outputTokens : Nat
  cacheReadTokens : Nat
  cacheWriteTokens : Nat
  totalTokens : Nat
  microUsd : Nat
  idempotent : Bool
  deriving DecidableEq

/-- Some cumulative total of `current` is below that of `previous`. -/
def NormalizedUsage.regressed (previous current : NormalizedUsage) : Prop :=
  current.inputTokens<previous.inputTokens ∨ current.outputTokens<previous.outputTokens ∨
  current.cacheReadTokens<previous.cacheReadTokens ∨
  current.cacheWriteTokens<previous.cacheWriteTokens ∨
  current.totalTokens<previous.totalTokens ∨
  current.providerCost.bits<previous.providerCost.bits ∨
  current.ceilingMicroUsd<previous.ceilingMicroUsd

instance (a b : NormalizedUsage) : Decidable (a.regressed b) := by
  unfold NormalizedUsage.regressed; infer_instance

/-- What `current` adds to the latest snapshot. -/
def UsageDelta.between (previous : Option NormalizedUsage) (current : NormalizedUsage) :
    UsageDelta where
  inputTokens := current.inputTokens-(previous.map (·.inputTokens)).getD 0
  outputTokens := current.outputTokens-(previous.map (·.outputTokens)).getD 0
  cacheReadTokens := current.cacheReadTokens-(previous.map (·.cacheReadTokens)).getD 0
  cacheWriteTokens := current.cacheWriteTokens-(previous.map (·.cacheWriteTokens)).getD 0
  totalTokens := current.totalTokens-(previous.map (·.totalTokens)).getD 0
  microUsd := current.ceilingMicroUsd-(previous.map (·.ceilingMicroUsd)).getD 0
  idempotent := previous=some current

/-- The tracker of one session: the latest snapshot it took. -/
@[ext] structure UsageTracker where
  latest : Option NormalizedUsage
  deriving DecidableEq

def UsageTracker.observe (usage : UsageObservation) :
    Handler UsageTracker CostDecodeError UsageDelta := do
  match usage with
  | .unavailable _ => Handler.fail .unavailableUsage
  | .known totals =>
    let current ← Handler.lift (NormalizedUsage.fromTotals totals)
    let tracker ← Handler.get
    Handler.ensure (∀ previous∈tracker.latest,¬previous.regressed current) .regressedUsage
    Handler.modify (fun t => { t with latest := some current })
    pure (UsageDelta.between tracker.latest current)

section Sums

/-- The six quantities a snapshot accumulates. -/
def NormalizedUsage.amounts (u : NormalizedUsage) : List Nat :=
  [u.inputTokens,u.outputTokens,u.cacheReadTokens,u.cacheWriteTokens,u.totalTokens,
    u.ceilingMicroUsd]

def UsageDelta.amounts (d : UsageDelta) : List Nat :=
  [d.inputTokens,d.outputTokens,d.cacheReadTokens,d.cacheWriteTokens,d.totalTokens,d.microUsd]

/-- The cumulative amounts of a tracker; nothing before its first snapshot. -/
def UsageTracker.amounts (t : UsageTracker) : List Nat :=
  (t.latest.map NormalizedUsage.amounts).getD [0,0,0,0,0,0]

/-- Either the tracker stays as it was, or it takes the snapshot and the delta makes up the
difference; taking the same snapshot again gives nothing. -/
theorem UsageTracker.observe_wp (usage : UsageObservation) (t : UsageTracker) :
    Handler.wp (UsageTracker.observe usage)
      (fun d t' => ∃ totals current,usage=.known totals ∧
        NormalizedUsage.fromTotals totals=.ok current ∧ t'.latest=some current ∧
        List.zipWith (·+·) t.amounts d.amounts=t'.amounts ∧
        (t.latest=some current → d.amounts=[0,0,0,0,0,0] ∧ d.idempotent=true))
      (fun _ t' => t'=t) t := by
  cases usage with
  | unavailable reason => simp [UsageTracker.observe]
  | known totals =>
    simp only [UsageTracker.observe,Handler.wp_bind,Handler.wp_lift,Handler.wp_get,
      Handler.wp_ensure,Handler.wp_modify,Handler.wp_pure]
    refine ⟨fun current hc => ⟨fun hmono => ?_,fun _ => trivial⟩,fun e _ => trivial⟩
    refine ⟨totals,current,rfl,hc,rfl,?_,?_⟩
    · cases hl : t.latest with
      | none =>
        simp [UsageTracker.amounts,hl,UsageDelta.amounts,UsageDelta.between,NormalizedUsage.amounts]
      | some previous =>
        have hp := hmono previous (by simp [hl])
        unfold NormalizedUsage.regressed at hp
        simp only [UsageTracker.amounts,hl,UsageDelta.amounts,UsageDelta.between,
          NormalizedUsage.amounts,Option.map_some,Option.getD_some,List.zipWith,List.cons.injEq,
          and_true]
        omega
    · intro hl
      simp [UsageDelta.amounts,UsageDelta.between,hl]

end Sums
end Society.Boundary
