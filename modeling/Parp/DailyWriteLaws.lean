import Mathlib.Data.List.Count
import Mathlib.Order.MinMax
import Parp.DailyWrite
import Parp.FallibleFolds

set_option autoImplicit false

namespace Parp.DailyWrite

open Memshift SortedMap Daily HookPrograms FallibleFolds List

def Hook.isWrite : Hook → Bool
  | write _ => true
  | _ => false

def clockCalls (time : Option Float) : List Call := (time.map fun t => ⟨.now, .ok t⟩).toList

section

structure Quiet (calls : List Call) (r : Result) : Prop where
  silent : Silent Hook.isWrite calls
  attempted : r.writeAttempted = some false
  unknown : r.writeLength = none
  unverified : r.feedbackVerified = false

/-- A write after the calls `before`, the only one. -/
structure Sent (request : Request) (before : List Call) (ratio : UInt32) (nominal : Bytes)
    (calls : List Call) (r : Result) : Prop where
  split : ∃ answer after, calls = before ++ ⟨.write (toText ratio.toNat), answer⟩ :: after ∧
    Silent Hook.isWrite after ∧
      ∀ length, r.writeLength = some length → ∃ error, answer = .ok ⟨length, error⟩
  attempted : r.writeAttempted = some true
  submitted : r.submittedRatio = ratio
  bytes : r.nominalBytes = nominal
  verified : r.feedbackVerified = true → ∃ f : Feedback,
    ⟨.feedback, .ok f⟩ ∈ calls ∧ f.verified = true ∧ request.keepBytes ≤ f.rssAnonBytes

/-- Nothing was written, or it was after calls as in `B`. -/
def Outcome (request : Request) (B : List Call → UInt32 → Bytes → Prop) (calls : List Call)
    (r : Result) : Prop :=
  Quiet calls r ∨ ∃ before ratio nominal, B before ratio nominal ∧
    Silent Hook.isWrite before ∧ Sent request before ratio nominal calls r

def Returned (request : Request) (B : List Call → UInt32 → Bytes → Prop) (calls : List Call)
    (_ : Unit) (r : Result) : Prop :=
  Outcome request B calls r ∧ (r.writeAttempted = some true → r.writeLength.isSome)

variable {request : Request} {B : List Call → UInt32 → Bytes → Prop} {calls before : List Call}
  {r : Result} {ratio : UInt32} {nominal : Bytes}

theorem Quiet.ask (h : Quiet calls r) (op : Hook) (hop : op.isWrite = false)
    (answer : Except Thrown op.Answer) : Quiet (calls ++ [⟨op, answer⟩]) r :=
  { h with silent := silent_concat h.silent hop answer }

theorem Quiet.returned (h : Quiet calls r) : Returned request B calls () r := by
  refine ⟨.inl h, fun htrue => ?_⟩
  rw [h.attempted] at htrue
  cases htrue

theorem Quiet.setStatus (h : Quiet calls r) (status : String) :
    Ensures (Returned request B) (Outcome request B) calls r (setStatus status) :=
  ensures_update (Quiet.returned { h with })

theorem Quiet.consult (h : Quiet calls r) (op : Hook) (hop : op.isWrite = false) {Q}
    (hok : ∀ value, Q (calls ++ [⟨op, .ok value⟩]) value r) :
    Ensures Q (Outcome request B) calls r (consult op) :=
  ensures_ask hok fun _ => .inl (h.ask op hop _)

theorem Sent.ask (h : Sent request before ratio nominal calls r) (op : Hook)
    (hop : op.isWrite = false) (answer : Except Thrown op.Answer) :
    Sent request before ratio nominal (calls ++ [⟨op, answer⟩]) r := by
  obtain ⟨written, after, hcalls, hafter, hlength⟩ := h.split
  refine { h with split := ?_, verified := fun hv => ?_ }
  · refine ⟨written, after ++ [⟨op, answer⟩], ?_, silent_concat hafter hop answer, hlength⟩
    rw [hcalls, append_assoc, cons_append]
  · obtain ⟨f, hf, hrest⟩ := h.verified hv
    exact ⟨f, mem_append_left _ hf, hrest⟩

theorem Sent.consult (hB : B before ratio nominal) (hbefore : Silent Hook.isWrite before)
    (h : Sent request before ratio nominal calls r) (op : Hook) (hop : op.isWrite = false) {Q}
    (hok : ∀ value, Q (calls ++ [⟨op, .ok value⟩]) value r) :
    Ensures Q (Outcome request B) calls r (consult op) :=
  ensures_ask hok fun _ => .inr ⟨_, _, _, hB, hbefore, h.ask op hop _⟩

end

section

variable {request : Request} {B : List Call → UInt32 → Bytes → Prop} {calls before : List Call}
  {r : Result} {ratio : UInt32} {nominal : Bytes} {e : Evidence}

theorem afterWrite_ensures (hB : B before ratio nominal)
    (hbefore : Silent Hook.isWrite before)
    (h : Sent request before ratio nominal calls r) (hlength : r.writeLength.isSome = true)
    (payload : Text) (written : WriteReceipt) :
    Ensures (Returned request B) (Outcome request B) calls r
      (afterWrite request e payload written) := by
  unfold afterWrite
  refine ensures_ite (fun _ => ?_) fun _ => ensures_ite (fun _ => ?_) fun _ => ?_
  · exact ensures_update ⟨.inr ⟨_, _, _, hB, hbefore, { h with }⟩, fun _ => hlength⟩
  · exact ensures_update ⟨.inr ⟨_, _, _, hB, hbefore, { h with }⟩, fun _ => hlength⟩
  · refine ensures_bind (h.consult hB hbefore .feedbackDelay rfl fun delayed => ?_)
    have hdelayed := h.ask .feedbackDelay rfl (.ok delayed)
    refine ensures_bind (hdelayed.consult hB hbefore .feedback rfl fun feedback => ?_)
    have hfed := hdelayed.ask .feedback rfl (.ok feedback)
    refine ensures_update ⟨.inr ⟨_, _, _, hB, hbefore, { hfed with verified := fun hv => ?_ }⟩,
      fun _ => hlength⟩
    have hboth := Bool.and_eq_true_iff.1 hv
    exact ⟨feedback, mem_append_right _ (.head _), hboth.1, of_decide_eq_true hboth.2⟩

theorem transmit_ensures (h : Quiet calls r)
    (hB : ∀ startedAt, B (calls ++ [⟨.now, .ok startedAt⟩]) ratio nominal) :
    Ensures (Returned request B) (Outcome request B) calls r
      (transmit request e ratio nominal) := by
  unfold transmit
  refine ensures_bind (ensures_update (ensures_bind (ensures_ask (fun startedAt => ?_) fun _ =>
    .inl { h.ask .now rfl _ with })))
  have hbefore := (h.ask .now rfl (.ok startedAt)).silent
  have hwritten : ∀ (answer : Except Thrown WriteReceipt) (r' : Result),
      r'.writeAttempted = some true → r'.submittedRatio = ratio → r'.nominalBytes = nominal →
        r'.feedbackVerified = false → (∀ length, r'.writeLength = some length →
          ∃ error, answer = .ok ⟨length, error⟩) →
        Sent request (calls ++ [⟨.now, .ok startedAt⟩]) ratio nominal
          (calls ++ [⟨.now, .ok startedAt⟩] ++ [⟨.write (toText ratio.toNat), answer⟩]) r' := by
    intro answer r' hattempted hratio hnominal hunverified hknown
    refine ⟨⟨answer, [], rfl, nofun, hknown⟩, hattempted, hratio, hnominal, fun hv => ?_⟩
    rw [hunverified] at hv
    cases hv
  refine ensures_bind (ensures_update (ensures_bind (ensures_ask (fun written => ?_) fun _ => ?_)))
  · refine ensures_bind (ensures_ask (fun returnedAt => ?_) fun _ => ?_)
    · refine ensures_bind (ensures_update ?_)
      have hsent := (hwritten (.ok written) (receive startedAt returnedAt written
        { r with
          submittedRatio := ratio
          nominalBytes := nominal
          preAnonBytes := e.rssAnonBytes
          startedAt := some startedAt
          writeAttempted := some true }) rfl rfl rfl h.unverified
        (fun length hsome => ⟨written.error, by cases hsome; rfl⟩)).ask .now rfl
          (.ok returnedAt)
      exact afterWrite_ensures (hB startedAt) hbefore hsent rfl _ _
    · refine .inr ⟨_, _, _, hB startedAt, hbefore, ?_⟩
      apply Sent.ask
      · refine hwritten (.ok written) _ rfl rfl rfl h.unverified fun length hsome => ?_
        rw [h.unknown] at hsome
        cases hsome
      · rfl
  · refine .inr ⟨_, _, _, hB startedAt, hbefore, hwritten _ _ rfl rfl rfl h.unverified
      fun length hsome => ?_⟩
    rw [h.unknown] at hsome
    cases hsome

def Current (e : Evidence) (time : Option Float) : Prop :=
  time.isSome = decide (0 < e.authorityExpires) ∧ ∀ t ∈ time, ¬ e.authorityExpires < t

theorem expired_ensures (h : Quiet calls r) {Q}
    (hcurrent : ∀ time, Current e time → Q (calls ++ clockCalls time) false r)
    (hexpired : ∀ time, Quiet (calls ++ clockCalls time) r → Q (calls ++ clockCalls time) true r) :
    Ensures Q (Outcome request B) calls r (expired e) := by
  unfold expired
  refine ensures_ite (fun hpos => ?_) fun hpos => ?_
  · refine ensures_bind (h.consult .now rfl fun t => ensures_pure ?_)
    by_cases hlate : e.authorityExpires < t
    · rw [decide_eq_true hlate]
      exact hexpired (some t) (h.ask .now rfl (.ok t))
    · rw [decide_eq_false hlate]
      refine hcurrent (some t) ⟨(decide_eq_true hpos).symm, fun u hu => ?_⟩
      cases hu
      exact hlate
  · refine ensures_pure ?_
    have hnone := hcurrent none ⟨(decide_eq_false hpos).symm, nofun⟩
    rw [show clockCalls none = [] from rfl, append_nil] at hnone
    exact hnone

theorem clockCalls_quiet (h : Quiet calls r) (time : Option Float) :
    Quiet (calls ++ clockCalls time) r := by
  cases time with
  | none =>
    rw [show clockCalls none = [] from rfl, append_nil]
    exact h
  | some t => exact h.ask .now rfl (.ok t)

theorem recheck_ensures (h : Quiet calls r)
    (hB : ∀ authority requestAt forecastAt deadlineAt startedAt, Current e authority →
      staleRequest request requestAt = false → expiredForecast request forecastAt = false →
      deadlineAllows request deadlineAt = true →
      B (calls ++ [⟨.cancelled, .ok false⟩] ++ clockCalls authority ++ [⟨.now, .ok requestAt⟩] ++
        [⟨.now, .ok forecastAt⟩] ++ [⟨.now, .ok deadlineAt⟩] ++ [⟨.now, .ok startedAt⟩]) ratio
        nominal) :
    Ensures (Returned request B) (Outcome request B) calls r
      (recheck request e ratio nominal) := by
  unfold recheck
  refine ensures_bind (h.consult .cancelled rfl fun cancelled => ?_)
  have hcancelled := h.ask .cancelled rfl (.ok cancelled)
  refine ensures_ite (fun _ => hcancelled.setStatus _) fun hrunning => ?_
  obtain rfl : cancelled = false := Bool.eq_false_iff.2 hrunning
  refine ensures_bind (expired_ensures hcancelled (fun authority hauthority => ?_)
    fun _ hquiet => hquiet.setStatus _)
  refine ensures_bind ((clockCalls_quiet hcancelled authority).consult .now rfl fun requestAt => ?_)
  have hrequest := (clockCalls_quiet hcancelled authority).ask .now rfl (.ok requestAt)
  refine ensures_ite (fun _ => hrequest.setStatus _) fun hstale => ?_
  refine ensures_bind (hrequest.consult .now rfl fun forecastAt => ?_)
  have hforecast := hrequest.ask .now rfl (.ok forecastAt)
  refine ensures_ite (fun _ => hforecast.setStatus _) fun hexpired => ?_
  refine ensures_bind (hforecast.consult .now rfl fun deadlineAt => ?_)
  have hdeadline := hforecast.ask .now rfl (.ok deadlineAt)
  refine ensures_ite (fun _ => hdeadline.setStatus _) fun hallowed => ?_
  exact transmit_ensures hdeadline fun startedAt => hB authority requestAt forecastAt deadlineAt
    startedAt hauthority (Bool.eq_false_iff.2 hstale) (Bool.eq_false_iff.2 hexpired)
    (by simpa using hallowed)

def Ceiling (r : Request) (ceiling : UInt32) : Prop :=
  ceiling = 95 ∧ capacityAuthority r = .ok true ∨ ceiling = 60 ∧ strengthAuthority r = .ok true ∨
    ceiling = 20

theorem ratioCeiling_ok {r : Request} {ceiling : UInt32} (h : ratioCeiling r = .ok ceiling) :
    Ceiling r ceiling := by
  unfold ratioCeiling at h
  obtain ⟨capacity, hcapacity, h⟩ := bind_eq_ok.1 h
  cases capacity with
  | true =>
    cases h
    exact .inl ⟨rfl, hcapacity⟩
  | false =>
    obtain ⟨strength, hstrength, h⟩ := bind_eq_ok.1 h
    cases strength with
    | true =>
      cases h
      exact .inr (.inl ⟨rfl, hstrength⟩)
    | false =>
      cases h
      exact .inr (.inr rfl)

theorem Ceiling.le {r : Request} {ceiling : UInt32} (h : Ceiling r ceiling) :
    ceiling.toNat ≤ 95 := by
  rcases h with ⟨rfl, -⟩ | ⟨rfl, -⟩ | rfl
  · decide
  · decide
  · decide

theorem ratioNominal_toNat (denominator : Bytes) {ratio : UInt32} (h : ratio.toNat ≤ 95) :
    (ratioNominal denominator ratio).toNat =
      denominator.toNat / 100 * ratio.toNat + denominator.toNat % 100 * ratio.toNat / 100 := by
  have hbound := denominator.toNat_lt
  have hwhole : denominator.toNat / 100 * ratio.toNat ≤ denominator.toNat / 100 * 95 :=
    Nat.mul_le_mul_left _ h
  have hpart : denominator.toNat % 100 * ratio.toNat ≤ denominator.toNat % 100 * 95 :=
    Nat.mul_le_mul_left _ h
  unfold ratioNominal
  rw [UInt64.toNat_add, UInt64.toNat_mul, UInt64.toNat_div, UInt64.toNat_div, UInt64.toNat_mul,
    UInt64.toNat_mod, UInt32.toNat_toUInt64, show (100 : Bytes).toNat = 100 from rfl]
  generalize denominator.toNat / 100 * ratio.toNat = whole at *
  generalize denominator.toNat % 100 * ratio.toNat = part at *
  omega

structure Funded (request : Request) (e : Evidence) (gap : Bytes) (ratio : UInt32)
    (nominal : Bytes) : Prop where
  positive : ratio ≠ 0
  planned : ratio ≤ request.plannedRatio
  ceiling : ∃ ceiling, Ceiling request ceiling ∧ ratio ≤ ceiling
  bytes : nominal.toNat = e.denominatorBytes.toNat / 100 * ratio.toNat +
    e.denominatorBytes.toNat % 100 * ratio.toNat / 100
  minimum : request.minBatch ≤ nominal
  reserved : nominal ≤ request.reservedBytes
  systemGap : nominal ≤ e.systemGap
  finalGap : nominal ≤ gap
  swapRoom : nominal ≤ e.swapRoom
  keep : nominal ≠ 0 →
    request.keepBytes.toNat + 128 * 1024 + nominal.toNat ≤ e.rssAnonBytes.toNat

theorem writeCap_le {gap : Bytes} (h : nominal ≤ writeCap request e gap) :
    nominal ≤ e.systemGap ∧ nominal ≤ gap ∧ nominal ≤ e.swapRoom ∧ (nominal ≠ 0 →
      request.keepBytes.toNat + 128 * 1024 + nominal.toNat ≤ e.rssAnonBytes.toNat) := by
  obtain ⟨-, hroom, hgap, hfinal, hswap⟩ : nominal ≤ request.reservedBytes ∧
      nominal ≤ sub (sub (min e.rssAnonBytes e.denominatorBytes) request.keepBytes) (128 * 1024) ∧
        nominal ≤ e.systemGap ∧ nominal ≤ gap ∧ nominal ≤ e.swapRoom := by
    simpa only [writeCap, le_min_iff] using h
  refine ⟨hgap, hfinal, hswap, fun hpositive => ?_⟩
  have hdonor := UInt64.le_iff_toNat_le.1 (min_le_left e.rssAnonBytes e.denominatorBytes)
  have hbytes := UInt64.le_iff_toNat_le.1 hroom
  have hnonzero : nominal.toNat ≠ 0 := fun hzero => hpositive (UInt64.toNat_inj.1 hzero)
  rw [sub_toNat, sub_toNat, show (128 * 1024 : Bytes).toNat = 128 * 1024 from rfl] at hbytes
  omega

def budgetCalls (e : Evidence) (budget : Option (Bytes × UInt32)) : List Call :=
  (budget.map fun b => ⟨.ratioForBudget b.1 e.denominatorBytes, .ok b.2⟩).toList

theorem spend_ensures (h : Quiet calls r) {gap : Bytes}
    (hB : ∀ budget authority requestAt forecastAt deadlineAt startedAt ratio nominal,
      Funded request e gap ratio nominal → Current e authority →
      staleRequest request requestAt = false → expiredForecast request forecastAt = false →
      deadlineAllows request deadlineAt = true →
      B (calls ++ budgetCalls e budget ++ [⟨.cancelled, .ok false⟩] ++ clockCalls authority ++
        [⟨.now, .ok requestAt⟩] ++ [⟨.now, .ok forecastAt⟩] ++ [⟨.now, .ok deadlineAt⟩] ++
        [⟨.now, .ok startedAt⟩]) ratio nominal) :
    Ensures (Returned request B) (Outcome request B) calls r (spend request e gap) := by
  unfold spend
  refine ensures_bind (ensures_lift (fun ceiling hceiling => ?_) fun _ _ => .inl h)
  have hauthority := ratioCeiling_ok (mapError_eq_ok.1 hceiling)
  have hrest : ∀ budget budgetRatio, Quiet (calls ++ budgetCalls e budget) r →
      Ensures (Returned request B) (Outcome request B) (calls ++ budgetCalls e budget) r
        (let ratio := min (min request.plannedRatio ceiling) budgetRatio
         let nominal := ratioNominal e.denominatorBytes ratio
         if ratio = 0 ∨ nominal < request.minBatch ∨ request.reservedBytes < nominal ∨
            writeCap request e gap < nominal then
           setStatus "rejected:fresh_budget_or_keep_below_minimum"
         else recheck request e ratio nominal) := by
    intro budget budgetRatio hquiet
    refine ensures_ite (fun _ => hquiet.setStatus _) fun hfunded => ?_
    simp only [not_or, not_lt] at hfunded
    obtain ⟨hpositive, hminimum, hreserved, hcap⟩ := hfunded
    obtain ⟨hgap, hfinal, hswap, hkeep⟩ := writeCap_le hcap
    have hleft : min (min request.plannedRatio ceiling) budgetRatio ≤
        min request.plannedRatio ceiling := Std.min_le_left
    have hceiling : min (min request.plannedRatio ceiling) budgetRatio ≤ ceiling :=
      UInt32.le_trans hleft Std.min_le_right
    have hsmall : (min (min request.plannedRatio ceiling) budgetRatio).toNat ≤ 95 :=
      (UInt32.le_iff_toNat_le.1 hceiling).trans hauthority.le
    refine recheck_ensures hquiet fun authority requestAt forecastAt deadlineAt startedAt =>
      hB budget authority requestAt forecastAt deadlineAt startedAt _ _
        ⟨hpositive, UInt32.le_trans hleft Std.min_le_left,
          ⟨ceiling, hauthority, hceiling⟩, ratioNominal_toNat _ hsmall, hminimum, hreserved, hgap,
          hfinal, hswap, hkeep⟩
  unfold budgetRatio
  refine ensures_bind (ensures_ite (fun _ => ensures_pure ?_) fun _ => ?_)
  · have hnone := hrest none (ratioWithin (writeCap request e gap) e.denominatorBytes ceiling)
    rw [show budgetCalls e none = [] from rfl, append_nil] at hnone
    exact hnone h
  · refine h.consult (.ratioForBudget (writeCap request e gap) e.denominatorBytes) rfl
      fun budgetRatio => ?_
    exact hrest (some (writeCap request e gap, budgetRatio)) budgetRatio (h.ask _ rfl _)

end

section

/-- What the hooks said before a write; the last four reads of the clock are for the request, the
forecast, the deadline and the start of the write. -/
structure Admission where
  evidence : Evidence
  probedAt : Float
  forecastAt : Float
  authorityAt : Option Float
  finalGap : Option Bytes
  budget : Option (Bytes × UInt32)
  authorityAtWrite : Option Float
  requestAtWrite : Float
  forecastAtWrite : Float
  deadlineAtWrite : Float
  startedAt : Float

def gapCalls (finalGap : Option Bytes) : List Call :=
  (finalGap.map fun gap => ⟨.finalGap, .ok (some gap)⟩).toList

def Admission.calls (a : Admission) : List Call :=
  [⟨.cancelled, .ok false⟩, ⟨.probe, .ok a.evidence⟩, ⟨.now, .ok a.probedAt⟩,
      ⟨.now, .ok a.forecastAt⟩] ++ clockCalls a.authorityAt ++ gapCalls a.finalGap ++
    budgetCalls a.evidence a.budget ++ [⟨.cancelled, .ok false⟩] ++
    clockCalls a.authorityAtWrite ++ [⟨.now, .ok a.requestAtWrite⟩] ++
    [⟨.now, .ok a.forecastAtWrite⟩] ++ [⟨.now, .ok a.deadlineAtWrite⟩] ++ [⟨.now, .ok a.startedAt⟩]

structure Admission.Allows (a : Admission) (request : Request) (finalGap : Bool) (ratio : UInt32)
    (nominal : Bytes) : Prop where
  authorized : request.knownStrength = true ∨ request.knownCapacity = true →
    strengthAuthority request = .ok true
  blocked : a.evidence.blocked = []
  identity : changedIdentity request a.evidence = false
  background : a.evidence.background = true ∧ a.evidence.controlActive = true
  authority : Current a.evidence a.authorityAtWrite
  gapHook : a.finalGap.isSome = finalGap
  fresh : staleRequest request a.requestAtWrite = false
  forecast : expiredForecast request a.forecastAtWrite = false
  deadline : deadlineAllows request a.deadlineAtWrite = true
  funded : Funded request a.evidence (a.finalGap.getD a.evidence.systemGap) ratio nominal

def Admitted (request : Request) (finalGap : Bool) (before : List Call) (ratio : UInt32)
    (nominal : Bytes) : Prop :=
  ∃ a : Admission, before = a.calls ∧ a.Allows request finalGap ratio nominal

variable {request : Request} {finalGap : Bool} {r : Result}

theorem refreshedGap_ensures {B : List Call → UInt32 → Bytes → Prop} {calls : List Call}
    (h : Quiet calls r) (e : Evidence) {Q}
    (hgap : ∀ gap : Option Bytes, gap.isSome = finalGap → Quiet (calls ++ gapCalls gap) r →
      Q (calls ++ gapCalls gap) (some (gap.getD e.systemGap)) r)
    (hnone : ∀ c, Quiet c r → Q c none r) :
    Ensures Q (Outcome request B) calls r (refreshedGap finalGap e) := by
  unfold refreshedGap
  refine ensures_ite (fun htrue => ?_) fun hfalse => ?_
  · refine h.consult .finalGap rfl fun gap => ?_
    cases gap with
    | none => exact hnone _ (h.ask .finalGap rfl _)
    | some gap => exact hgap (some gap) htrue.symm (h.ask .finalGap rfl _)
  · have hleft := hgap none (Bool.eq_false_iff.2 hfalse).symm
    rw [show gapCalls none = [] from rfl, append_nil] at hleft
    exact ensures_pure (hleft h)

theorem qualify_ensures {e : Evidence}
    (hauthorized : request.knownStrength = true ∨ request.knownCapacity = true →
      strengthAuthority request = .ok true)
    (h : Quiet ([⟨.cancelled, .ok false⟩] ++ [⟨.probe, .ok e⟩]) r) :
    Ensures (Returned request (Admitted request finalGap))
      (Outcome request (Admitted request finalGap))
      ([⟨.cancelled, .ok false⟩] ++ [⟨.probe, .ok e⟩]) r (qualify request finalGap e) := by
  unfold qualify
  refine ensures_bind (h.consult .now rfl fun probedAt => ?_)
  have hprobed := h.ask .now rfl (.ok probedAt)
  refine ensures_bind (hprobed.consult .now rfl fun forecastAt => ?_)
  have hforecast := hprobed.ask .now rfl (.ok forecastAt)
  refine ensures_ite (fun _ => hforecast.setStatus _) fun _ => ?_
  refine ensures_ite (fun _ => hforecast.setStatus _) fun _ => ?_
  refine ensures_ite (fun _ => ensures_update (Quiet.returned { hforecast with })) fun hblocked => ?_
  refine ensures_ite (fun _ => hforecast.setStatus _) fun hidentity => ?_
  refine ensures_ite (fun _ => hforecast.setStatus _) fun hbackground => ?_
  refine ensures_bind (expired_ensures hforecast (fun authorityAt _ => ?_)
    fun _ hquiet => hquiet.setStatus _)
  have hcurrent := clockCalls_quiet hforecast authorityAt
  refine ensures_bind (refreshedGap_ensures hcurrent e (fun gap hhook hgap => ?_)
    fun _ hquiet => hquiet.setStatus _)
  refine spend_ensures hgap fun budget authority requestAt forecastAtWrite deadlineAt startedAt
    ratio nominal hfunded hauthority hrequest hforecastAtWrite hdeadline => ?_
  refine ⟨⟨e, probedAt, forecastAt, authorityAt, gap, budget, authority, requestAt,
    forecastAtWrite, deadlineAt, startedAt⟩, rfl, hauthorized, not_not.1 hblocked,
    Bool.eq_false_iff.2 hidentity, ?_, hauthority, hhook, hrequest, hforecastAtWrite, hdeadline,
    hfunded⟩
  simpa using hbackground

theorem unauthorized_false (h : unauthorized request = .ok false)
    (hknown : request.knownStrength = true ∨ request.knownCapacity = true) :
    strengthAuthority request = .ok true := by
  unfold unauthorized at h
  rw [if_pos (Bool.or_eq_true_iff.2 hknown)] at h
  obtain ⟨authority, hauthority, heq⟩ := bind_eq_ok.1 h
  cases authority with
  | true => exact hauthority
  | false => cases heq

theorem attempt_ensures (request : Request) (finalGap : Bool) :
    Ensures (Returned request (Admitted request finalGap))
      (Outcome request (Admitted request finalGap)) [] { request := request }
      (attempt request finalGap) := by
  have hstart : Quiet [] { request := request } := ⟨nofun, rfl, rfl, rfl⟩
  unfold attempt
  refine ensures_bind (ensures_lift (fun rejected hrejected => ?_) fun _ _ => .inl hstart)
  refine ensures_ite (fun _ => hstart.setStatus _) fun hallowed => ?_
  obtain rfl : rejected = false := Bool.eq_false_iff.2 hallowed
  refine ensures_bind (hstart.consult .cancelled rfl fun cancelled => ?_)
  have hcancelled := hstart.ask .cancelled rfl (.ok cancelled)
  refine ensures_ite (fun _ => hcancelled.setStatus _) fun hrunning => ?_
  obtain rfl : cancelled = false := Bool.eq_false_iff.2 hrunning
  refine ensures_bind (hcancelled.consult .probe rfl fun e => ?_)
  have hprobed := hcancelled.ask .probe rfl (.ok e)
  refine ensures_bind (ensures_update (qualify_ensures ?_ { hprobed with }))
  exact unauthorized_false (mapError_eq_ok.1 hrejected)

end

section

structure Accounted (request : Request) (calls : List Call) (r : Result) : Prop where
  unverified : ∀ payload receipt, ⟨.write payload, .ok receipt⟩ ∈ calls → 0 ≤ receipt.length →
    r.feedbackVerified = false → r.uncertain = true
  verified : r.feedbackVerified = true → ∃ f : Feedback,
    ⟨.feedback, .ok f⟩ ∈ calls ∧ f.verified = true ∧ request.keepBytes ≤ f.rssAnonBytes
  threw : ∀ payload thrown, ⟨.write payload, .error thrown⟩ ∈ calls → r.uncertain = true
  unknown : ∀ payload answer, ⟨.write payload, answer⟩ ∈ calls → r.writeLength = none →
    r.uncertain = true

variable {request : Request} {B : List Call → UInt32 → Bytes → Prop} {calls : List Call}
  {r : Result}

structure SameWrite (r r' : Result) : Prop where
  attempted : r'.writeAttempted = r.writeAttempted
  length : r'.writeLength = r.writeLength
  verified : r'.feedbackVerified = r.feedbackVerified
  submitted : r'.submittedRatio = r.submittedRatio
  bytes : r'.nominalBytes = r.nominalBytes

theorem handled_same (r : Result) (outcome : Except Thrown Unit) :
    SameWrite r (handled r outcome) := by
  cases outcome with
  | ok value => exact ⟨rfl, rfl, rfl, rfl, rfl⟩
  | error thrown =>
    cases thrown with
    | exception what => exact ⟨rfl, rfl, rfl, rfl, rfl⟩
    | unknown => exact ⟨rfl, rfl, rfl, rfl, rfl⟩

theorem conclude_same (r : Result) : SameWrite r (conclude r) := by
  unfold conclude
  split_ifs
  · exact ⟨rfl, rfl, rfl, rfl, rfl⟩
  · exact ⟨rfl, rfl, rfl, rfl, rfl⟩

theorem conclude_uncertain (h : r.uncertain = true) : (conclude r).uncertain = true := by
  unfold conclude
  split_ifs
  · rfl
  · exact h

theorem conclude_unverified {length : ℤ} (hattempted : r.writeAttempted = some true)
    (hlength : r.writeLength = some length) (hnonneg : 0 ≤ length)
    (hunverified : r.feedbackVerified = false) : (conclude r).uncertain = true := by
  unfold conclude
  rw [if_pos]
  rw [hattempted, hlength, hunverified]
  simpa using hnonneg

theorem handled_unknown {thrown : Thrown} (hattempted : r.writeAttempted = some true)
    (hlength : r.writeLength = none) : (handled r (.error thrown)).uncertain = true := by
  cases thrown with
  | exception what =>
    unfold handled
    dsimp only
    rw [hattempted, hlength]
    rfl
  | unknown => rfl

theorem write_mem_sent {before : List Call} {ratio : UInt32} {nominal : Bytes}
    (hbefore : Silent Hook.isWrite before)
    (h : Sent request before ratio nominal calls r) {payload : Text}
    {answer : Except Thrown WriteReceipt} (hmem : ⟨.write payload, answer⟩ ∈ calls) :
    ∀ length, r.writeLength = some length → ∃ error, answer = .ok ⟨length, error⟩ := by
  obtain ⟨written, after, hcalls, hafter, hlength⟩ := h.split
  rw [hcalls, mem_append, mem_cons] at hmem
  rcases hmem with hmem | heq | hmem
  · cases hbefore _ hmem
  · cases heq
    exact hlength
  · cases hafter _ hmem

theorem conclude_accounted {outcome : Except Thrown Unit} (h : Outcome request B calls r)
    (hreturned : outcome = .ok () → r.writeAttempted = some true → r.writeLength.isSome = true) :
    Accounted request calls (conclude (handled r outcome)) := by
  have hhandled := handled_same r outcome
  have hconclude := conclude_same (handled r outcome)
  have hverified := hconclude.verified.trans hhandled.verified
  rcases h with hquiet | ⟨before, ratio, nominal, -, hbefore, hsent⟩
  · refine ⟨?_, ?_, ?_, ?_⟩
    · intro payload receipt hmem
      cases hquiet.silent _ hmem
    · intro htrue
      rw [hverified, hquiet.unverified] at htrue
      cases htrue
    · intro payload thrown hmem
      cases hquiet.silent _ hmem
    · intro payload answer hmem
      cases hquiet.silent _ hmem
  · have hunknown : r.writeLength = none → (conclude (handled r outcome)).uncertain = true := by
      intro hnone
      cases outcome with
      | ok value =>
        have hsome := hreturned rfl hsent.attempted
        rw [hnone] at hsome
        cases hsome
      | error thrown => exact conclude_uncertain (handled_unknown hsent.attempted hnone)
    refine ⟨?_, ?_, ?_, ?_⟩
    · intro payload receipt hmem hnonneg hunverified
      cases hknown : r.writeLength with
      | none => exact hunknown hknown
      | some length =>
        obtain ⟨error, heq⟩ := write_mem_sent hbefore hsent hmem length hknown
        cases heq
        exact conclude_unverified (hhandled.attempted.trans hsent.attempted)
          (hhandled.length.trans hknown) hnonneg (hhandled.verified.trans (hverified ▸ hunverified))
    · intro htrue
      exact hsent.verified (hverified ▸ htrue)
    · intro payload thrown hmem
      cases hknown : r.writeLength with
      | none => exact hunknown hknown
      | some length =>
        obtain ⟨error, heq⟩ := write_mem_sent hbefore hsent hmem length hknown
        cases heq
    · intro payload answer _ hnone
      exact hunknown ((hconclude.length.trans hhandled.length) ▸ hnone)

end

/-- Whatever the hooks answer, there is at most one write, it is admitted by the calls before it,
and the result accounts for what is not known of it. -/
theorem write_admitted {σ : Type} (request : Request) (finalGap : Bool)
    (hooks : Hooks Hook Hook.Answer Thrown σ) (world : σ) :
    let calls := ((execute request finalGap).run hooks world).1
    let result := ((execute request finalGap).run hooks world).2
    calls.countP (fun c => c.op.isWrite) ≤ 1 ∧
      (∀ before payload answer after, calls = before ++ ⟨.write payload, answer⟩ :: after →
        payload = toText result.submittedRatio.toNat ∧ ∃ a : Admission, before = a.calls ∧
          a.Allows request finalGap result.submittedRatio result.nominalBytes) ∧
      Accounted request calls result := by
  let P := fun (calls : List Call) (result : Result) => ∃ (r : Result) (outcome : Except Thrown Unit),
    result = conclude (handled r outcome) ∧ Outcome request (Admitted request finalGap) calls r ∧
      (outcome = .ok () → r.writeAttempted = some true → r.writeLength.isSome = true)
  have hall : (execute request finalGap).Always P [] := by
    refine Program.always_bind.2 (Program.always_mono ?_ (attempt_ensures request finalGap))
    rintro calls ⟨outcome, r⟩ hback
    cases outcome with
    | ok value => exact ⟨r, .ok (), rfl, hback.1, fun _ => hback.2⟩
    | error thrown => exact ⟨r, .error thrown, rfl, hback, nofun⟩
  have hrun := Program.always_run hooks world hall
  rw [nil_append] at hrun
  generalize (execute request finalGap).run hooks world = run at hrun
  obtain ⟨calls, result⟩ := run
  obtain ⟨r, outcome, rfl, houtcome, hreturned⟩ := hrun
  have hsubmitted := (conclude_same (handled r outcome)).submitted.trans
    (handled_same r outcome).submitted
  have hbytes := (conclude_same (handled r outcome)).bytes.trans (handled_same r outcome).bytes
  refine ⟨?_, ?_, conclude_accounted houtcome hreturned⟩
  · rcases houtcome with hquiet | ⟨before, ratio, nominal, -, hbefore, hsent⟩
    · exact (countP_silent hquiet.silent).le.trans (Nat.zero_le 1)
    · obtain ⟨written, after, rfl, hafter, -⟩ := hsent.split
      exact countP_split hbefore hafter _
  · intro before' payload answer after' hcalls
    dsimp only at hcalls
    rcases houtcome with hquiet | ⟨before, ratio, nominal, hadmitted, hbefore, hsent⟩
    · have hwrite := hquiet.silent ⟨.write payload, answer⟩
        (hcalls ▸ mem_append_right _ (.head _))
      cases hwrite
    · obtain ⟨written, after, hsplit, hafter, -⟩ := hsent.split
      obtain ⟨rfl, heq, -⟩ := split_unique (p := fun c : Call => c.op.isWrite) hbefore hafter rfl
        (hsplit.symm.trans hcalls)
      dsimp only
      rw [hsubmitted, hbytes, hsent.submitted, hsent.bytes]
      cases heq
      exact ⟨rfl, hadmitted⟩

def smallRequest : Request :=
  { plannedRatio := 20
    keepBytes := 512 * MiB
    members := (∅ : Map UInt64 UInt64).emplace 7 1 }

def smallEvidence : Evidence :=
  { members := (∅ : Map UInt64 UInt64).emplace 7 1
    background := true
    controlActive := true
    rssAnonBytes := 4
    denominatorBytes := 4 }

def smallHooks : Hooks Hook Hook.Answer Thrown Unit := fun hook world =>
  (.ok (match hook with
    | .probe => smallEvidence
    | .write payload => ⟨payload.length, 0⟩
    | .feedbackDelay => ()
    | .feedback => { verified := true }
    | .now => 1
    | .cancelled => false
    | .ratioForBudget _ _ => 20
    | .finalGap => none), world)

/-- Without a minimum, a ratio of no bytes is written where nothing can be spared. -/
theorem smallRequest_written :
    let run := (execute smallRequest false).run smallHooks ()
    run.1.countP (fun c => c.op.isWrite) = 1 ∧ run.2.submittedRatio = 20 ∧
      run.2.nominalBytes = 0 ∧
      smallEvidence.rssAnonBytes.toNat - 0 < smallRequest.keepBytes.toNat + 128 * 1024 := by
  decide +kernel

end Parp.DailyWrite
