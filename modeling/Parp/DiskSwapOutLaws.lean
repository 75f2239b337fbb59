import Parp.DailyWriteLaws
import Parp.DiskSwapOut

set_option autoImplicit false

namespace Parp.DiskSwapOut

open Memshift Daily HookPrograms FallibleFolds
open DailyWrite (Thrown staleRequest expiredForecast unauthorized unauthorized_false)

section

variable {r : Request} {e : Evidence} {now : Float} {limit : Bytes}

structure Fits (path : Text) (zram anon keep minimum explicitLimit sharedRoom gap swapRoom : Bytes)
    (headroom : ℕ) (authority : Option Request) : Prop where
  owned : ownedLeaf path = true
  minimum : minimum ≤ zram
  floor : ∃ floor, keepFloor path keep authority = .ok floor ∧ floor ≤ keep
  kept : keep ≤ anon
  explicit : zram.toNat + anon.toNat + Margin.toNat + headroom ≤ explicitLimit.toNat
  shared : zram.toNat + anon.toNat + Margin.toNat + headroom ≤ sharedRoom.toNat
  gap : zram.toNat + anon.toNat + Margin.toNat + headroom ≤ gap.toNat
  swap : zram.toNat + anon.toNat + Margin.toNat + headroom ≤ swapRoom.toNat

theorem text_ne_nil {s : String} (h : s ≠ "") : text s ≠ [] := by
  intro hnil
  exact h (String.toList_inj.1 hnil)

theorem wholeWork_some {zram anon work : Bytes} (h : wholeWork zram anon = some work) :
    work.toNat = zram.toNat + anon.toNat := by
  unfold wholeWork at h
  split_ifs at h with hnone
  cases h
  have hroom := UInt64.le_iff_toNat_le.1 (UInt64.not_lt.1 (not_or.1 hnone).2)
  have hbound := anon.toNat_lt
  rw [UInt64.toNat_sub_of_le _ _ (UInt64.le_iff_toNat_le.2 (Nat.le_of_lt_succ hbound))] at hroom
  rw [UInt64.toNat_add]
  change zram.toNat ≤ 18446744073709551615 - anon.toNat at hroom
  omega

theorem plan_ok {path : Text}
    {zram anon keep minimum explicitLimit sharedRoom gap swapRoom : Bytes} {reserveHeadroom : Bool}
    {authority : Option Request} {p : Plan}
    (h : plan path zram anon keep minimum explicitLimit sharedRoom gap swapRoom reserveHeadroom
      authority = .ok p) :
    p.reason ≠ [] ∧ (p.admitted = true → Fits path zram anon keep minimum explicitLimit sharedRoom gap swapRoom
      (if reserveHeadroom then PlanningHeadroom else 0).toNat authority) := by
  unfold plan at h
  dsimp only at h
  generalize hheadroom : (if reserveHeadroom then PlanningHeadroom else 0) = headroom at *
  have hsmall : headroom ≤ PlanningHeadroom := by
    rw [← hheadroom]
    split_ifs
    · decide
    · decide
  by_cases howned : ownedLeaf path = true
  · rw [if_neg (by simpa using howned)] at h
    cases hwork : wholeWork zram anon with
    | none =>
      rw [hwork] at h
      cases h
      exact ⟨text_ne_nil (by decide), nofun⟩
    | some work =>
      rw [hwork] at h
      dsimp only at h
      by_cases hminimum : zram < minimum
      · rw [if_pos hminimum] at h
        cases h
        exact ⟨text_ne_nil (by decide), nofun⟩
      · rw [if_neg hminimum] at h
        obtain ⟨floor, hfloor, h⟩ := bind_eq_ok.1 h
        split_ifs at h with hkeep hoverflow hcap
        · cases h
          exact ⟨text_ne_nil (by decide), nofun⟩
        · cases h
          exact ⟨text_ne_nil (by decide), nofun⟩
        · cases h
          exact ⟨text_ne_nil (by decide), nofun⟩
        · cases h
          simp only [not_or, not_lt] at hkeep hminimum hoverflow hcap
          obtain ⟨hfloorKeep, hanon⟩ := hkeep
          obtain ⟨-, hcap⟩ := hcap
          simp only [le_min_iff] at hcap
          have hsum := wholeWork_some hwork
          have hreservation : (work + Margin + headroom).toNat =
              zram.toNat + anon.toNat + Margin.toNat + headroom.toNat := by
            have hheadroom := UInt64.le_iff_toNat_le.1 hsmall
            have hroom := UInt64.le_iff_toNat_le.1 hoverflow
            rw [UInt64.toNat_sub_of_le _ _ (hsmall.trans (by decide)),
              UInt64.toNat_sub_of_le _ _ (by decide)] at hroom
            rw [UInt64.toNat_add, UInt64.toNat_add, hsum]
            change work.toNat ≤ 18446744073709551615 - 67108864 - headroom.toNat at hroom
            change headroom.toNat ≤ 16777216 at hheadroom
            rw [show Margin.toNat = 67108864 from rfl]
            omega
          have hwithin : ∀ b : Bytes, work + Margin + headroom ≤ b →
              zram.toNat + anon.toNat + Margin.toNat + headroom.toNat ≤ b.toNat := fun b hb =>
            hreservation ▸ UInt64.le_iff_toNat_le.1 hb
          exact ⟨text_ne_nil (by decide), fun _ => ⟨howned, hminimum, ⟨floor, hfloor, hfloorKeep⟩, hanon, hwithin _ hcap.1,
            hwithin _ hcap.2.1, hwithin _ hcap.2.2.1, hwithin _ hcap.2.2.2⟩⟩
  · rw [if_pos (by simpa using howned)] at h
    cases h
    exact ⟨text_ne_nil (by decide), nofun⟩

def Paired (r : Request) (e : Daily.Evidence) : Prop :=
  r.pairedAfter ≠ [] → strengthAuthority r = .ok true ∧ ∃ member start prior current,
    r.members.begin? = some (member, start) ∧ r.pairFaults.entries = [(member, prior)] ∧
      e.faultCounters.entries = [(member, current)] ∧ current.2 = prior.2 ∧
      prior.1 ≤ current.1 ∧ current.1.toNat - prior.1.toNat ≤ 1024 ∧
      e.rssAnonBytes.toNat ≤ r.pairPostAnon.toNat + MiB.toNat

theorem add_le (a b : Bytes) : (add a b).toNat ≤ a.toNat + b.toNat := by
  unfold add
  split_ifs with h
  · have hbound := b.toNat_lt
    have hlt := UInt64.lt_iff_toNat_lt.1 h
    rw [UInt64.toNat_sub_of_le _ _ (UInt64.le_iff_toNat_le.2 (Nat.le_of_lt_succ hbound))] at hlt
    change 18446744073709551615 - b.toNat < a.toNat at hlt
    change 18446744073709551615 ≤ _
    omega
  · rw [UInt64.toNat_add]
    exact Nat.mod_le _ _

theorem pairProtection_nil {d : Daily.Evidence} (h : pairProtection r d = .ok []) : Paired r d := by
  intro hpaired
  unfold pairProtection at h
  rw [if_neg hpaired] at h
  by_cases hbackend : r.backend ≠ text "force_swapout"
  · rw [if_pos hbackend] at h
    cases h
  rw [if_neg hbackend] at h
  obtain ⟨authority, hauthority, h⟩ := bind_eq_ok.1 h
  cases authority with
  | false => cases h
  | true =>
    refine ⟨hauthority, ?_⟩
    rw [if_neg (by decide)] at h
    split at h
    · rename_i pairPid prior pid current member start hpair hcounters hmember
      split_ifs at h with hother hback hrebound
      · cases h
      · cases h
      · cases h
      · simp only [Bool.or_eq_true, decide_eq_true_eq, not_or, not_not, not_lt]
          at hother hback hrebound
        obtain ⟨rfl, rfl⟩ := hother
        obtain ⟨⟨⟨hminor, hless⟩, hmore⟩, hfaults⟩ := hback
        refine ⟨pid, start, prior, current, hmember, hpair, hcounters, le_antisymm hmore hless,
          hminor, ?_, ?_⟩
        · rw [← UInt64.toNat_sub_of_le _ _ hminor]
          exact UInt64.le_iff_toNat_le.1 hfaults
        · exact (UInt64.le_iff_toNat_le.1 hrebound).trans (add_le _ _)
    · cases h

structure Cleared (r : Request) (e : Evidence) (now : Float) (limit : Bytes) : Prop where
  backend : r.backend = text "force_swapout"
  qualification : r.qualification = text "owned_os_snapshot"
  fresh : staleRequest r now = false
  forecast : expiredForecast r now = false
  unblocked : e.base.blocked = []
  identity : changedIdentity r e.base = false
  paired : Paired r e.base
  background : e.base.background = true ∧ e.base.controlActive = true
  proof : staleProof e now = false
  enabled : e.backendEnabled = true
  pool : e.poolKnown = true ∧ e.ncZramBytes = 0
  fits : Fits r.groupPath e.zramBytes e.base.rssAnonBytes r.keepBytes r.minBatch limit
    r.reservedBytes e.base.systemGap e.base.swapRoom 0 (some r)

theorem no_reason {c : Prop} [Decidable c] {reason : Text} {x : Except Text (Text × Option Text)}
    {first second : Option Text} (hreason : reason ≠ [])
    (h : (if c then .ok (reason, first) else x) = .ok ([], second)) :
    ¬ c ∧ x = .ok ([], second) := by
  by_cases hc : c
  · rw [if_pos hc] at h
    exact absurd (congrArg Prod.fst (Except.ok.inj h)) hreason
  · rw [if_neg hc] at h
    exact ⟨hc, h⟩

theorem blocked_nil {diagnostic : Option Text} (h : blocked r e now limit = .ok ([], diagnostic)) :
    Cleared r e now limit := by
  unfold blocked at h
  obtain ⟨hscope, h⟩ := no_reason (text_ne_nil (by decide)) h
  obtain ⟨hexpired, h⟩ := no_reason (text_ne_nil (by decide)) h
  have hblocked : e.base.blocked = [] := by
    by_contra hreason
    exact (no_reason hreason h).1 hreason
  rw [if_neg (not_not.2 hblocked)] at h
  obtain ⟨hidentity, h⟩ := no_reason (text_ne_nil (by decide)) h
  obtain ⟨reason, hpair, h⟩ := bind_eq_ok.1 h
  have hnone : reason = [] := by
    by_contra hreason
    exact (no_reason hreason h).1 hreason
  subst hnone
  rw [if_neg (not_not.2 rfl)] at h
  obtain ⟨hbackground, h⟩ := no_reason (text_ne_nil (by decide)) h
  obtain ⟨hproof, h⟩ := no_reason
    (fun hnil => text_ne_nil (by decide) (List.append_eq_nil_iff.1 hnil).1) h
  obtain ⟨henabled, h⟩ := no_reason (text_ne_nil (by decide)) h
  obtain ⟨hpool, h⟩ := no_reason (text_ne_nil (by decide)) h
  obtain ⟨p, hplan, h⟩ := bind_eq_ok.1 h
  obtain ⟨hwhy, hfits⟩ := plan_ok hplan
  have hadmitted : p.admitted = true := by
    by_contra hnot
    have hnil : (if p.admitted = true then [] else p.reason) = [] :=
      congrArg Prod.fst (Except.ok.inj h)
    rw [if_neg hnot] at hnil
    exact hwhy hnil
  simp only [not_or, not_not] at hscope
  simp only [Bool.or_eq_true, not_or, Bool.not_eq_true] at hexpired
  simp only [Bool.or_eq_true, not_or, Bool.not_eq_true', Bool.not_eq_false] at hbackground
  simp only [Bool.or_eq_true, not_or, Bool.not_eq_true', Bool.not_eq_false, decide_eq_true_eq,
    not_not] at hpool
  exact ⟨hscope.1, hscope.2, hexpired.1, hexpired.2, hblocked, Bool.eq_false_iff.2 hidentity,
    pairProtection_nil hpair, hbackground, Bool.eq_false_iff.2 hproof, by simpa using henabled,
    hpool, hfits hadmitted⟩

end

section

def Hook.isWrite : Hook → Bool
  | write _ => true
  | _ => false

structure Quiet (calls : List Call) (out : Result) : Prop where
  silent : Silent Hook.isWrite calls
  attempted : out.writeAttempted = some false

/-- A command after the calls `before`, the only one. -/
structure Sent (before calls : List Call) (out : Result) : Prop where
  split : ∃ answer after, calls = before ++ ⟨.write (text "1"), answer⟩ :: after ∧
    Silent Hook.isWrite after
  attempted : out.writeAttempted = some true

def Outcome (B : List Call → Prop) (calls : List Call) (out : Result) : Prop :=
  Quiet calls out ∨ ∃ before, B before ∧ Silent Hook.isWrite before ∧ Sent before calls out

/-- A transition that was observed, verified and within the reservation. -/
structure Observed (r : Request) (out : Result) : Prop where
  status : out.status = text "disk_command_accepted_transition_observed"
  accepted : out.writeLength = some 1
  verified : out.feedbackVerified = true
  more : out.diskEswapBefore < out.diskEswapAfter
  less : out.diskZramAfter < out.diskZramBefore
  reserved : out.diskEswapAfter - out.diskEswapBefore ≤ r.reservedBytes

def Classified (r : Request) (out : Result) : Prop :=
  out.uncertain = true ∨ (∃ length, out.writeLength = some length ∧ length < 0) ∨ Observed r out

def Returned (r : Request) (B : List Call → Prop) (calls : List Call) (_ : Unit) (out : Result) :
    Prop :=
  Outcome B calls out ∧ (out.writeAttempted = some true → Classified r out)

variable {r : Request} {B : List Call → Prop} {before calls : List Call} {out : Result}

theorem Quiet.ask (h : Quiet calls out) (op : Hook) (hop : op.isWrite = false)
    (answer : Except Thrown op.Answer) : Quiet (calls ++ [⟨op, answer⟩]) out :=
  { h with silent := silent_concat h.silent hop answer }

theorem Quiet.returned (h : Quiet calls out) : Returned r B calls () out := by
  refine ⟨.inl h, fun htrue => ?_⟩
  rw [h.attempted] at htrue
  cases htrue

theorem Quiet.setStatus (h : Quiet calls out) (status : Text) :
    Ensures (Returned r B) (Outcome B) calls out (setStatus status) :=
  ensures_update (Quiet.returned { h with })

theorem Quiet.consult (h : Quiet calls out) (op : Hook) (hop : op.isWrite = false) {Q}
    (hok : ∀ value, Q (calls ++ [⟨op, .ok value⟩]) value out) :
    Ensures Q (Outcome B) calls out (consult op) :=
  ensures_ask hok fun _ => .inl (h.ask op hop _)

theorem Sent.ask (h : Sent before calls out) (op : Hook) (hop : op.isWrite = false)
    (answer : Except Thrown op.Answer) : Sent before (calls ++ [⟨op, answer⟩]) out := by
  obtain ⟨written, after, hcalls, hafter⟩ := h.split
  refine { h with split := ⟨written, after ++ [⟨op, answer⟩], ?_, silent_concat hafter hop answer⟩ }
  rw [hcalls, List.append_assoc, List.cons_append]

theorem Sent.consult (hB : B before) (hbefore : Silent Hook.isWrite before)
    (h : Sent before calls out) (op : Hook) (hop : op.isWrite = false) {Q}
    (hok : ∀ value, Q (calls ++ [⟨op, .ok value⟩]) value out) :
    Ensures Q (Outcome B) calls out (consult op) :=
  ensures_ask hok fun _ => .inr ⟨_, hB, hbefore, h.ask op hop _⟩

end

section

variable {r : Request} {B : List Call → Prop} {before calls : List Call} {out : Result}
  {e : Evidence} {limit : Bytes}

theorem observeFeedback_classified (r : Request) (e after : Evidence) (age : Float)
    (hlength : out.writeLength = some 1) (hzram : out.diskZramBefore = e.zramBytes)
    (heswap : out.diskEswapBefore = e.eswapBytes) :
    Classified r (observeFeedback r e after age out) := by
  unfold observeFeedback
  dsimp only
  by_cases hexceeded : e.eswapBytes < after.eswapBytes ∧
      r.reservedBytes < after.eswapBytes - e.eswapBytes
  · rw [if_pos hexceeded]
    exact .inl rfl
  rw [if_neg hexceeded]
  by_cases hunknown : (!feedbackVerified r after age || !transition e after) = true
  · rw [if_pos hunknown]
    exact .inl rfl
  rw [if_neg hunknown]
  simp only [Bool.or_eq_true, not_or, Bool.not_eq_true', Bool.not_eq_false] at hunknown
  obtain ⟨hverified, htransition⟩ := hunknown
  obtain ⟨hmore, hless⟩ := Bool.and_eq_true_iff.1 htransition
  have heswapMore := of_decide_eq_true hmore
  refine .inr (.inr ⟨?_, hlength, hverified, heswap ▸ heswapMore, hzram ▸ of_decide_eq_true hless,
    heswap ▸ not_lt.1 (not_and.1 hexceeded heswapMore)⟩)
  dsimp only
  rw [hverified, htransition]
  rfl

theorem afterCommand_ensures (hB : B before) (hbefore : Silent Hook.isWrite before)
    (h : Sent before calls out) {written : WriteReceipt}
    (hlength : out.writeLength = some written.length) (hzram : out.diskZramBefore = e.zramBytes)
    (heswap : out.diskEswapBefore = e.eswapBytes) :
    Ensures (Returned r B) (Outcome B) calls out (afterCommand r e written) := by
  unfold afterCommand
  refine ensures_ite (fun hnegative => ?_) fun _ => ensures_ite (fun _ => ?_) fun haccepted => ?_
  · exact ensures_update ⟨.inr ⟨_, hB, hbefore, { h with }⟩, fun _ =>
      .inr (.inl ⟨_, hlength, hnegative⟩)⟩
  · exact ensures_update ⟨.inr ⟨_, hB, hbefore, { h with }⟩, fun _ => .inl rfl⟩
  · refine ensures_bind (h.consult hB hbefore .feedbackDelay rfl fun delayed => ?_)
    have hdelayed := h.ask .feedbackDelay rfl (.ok delayed)
    refine ensures_bind (hdelayed.consult hB hbefore .probe rfl fun after => ?_)
    have hprobed := hdelayed.ask .probe rfl (.ok after)
    refine ensures_bind (ensures_update (ensures_bind ?_))
    refine Sent.consult hB hbefore ?_ .now rfl fun now => ?_
    · exact { hprobed with }
    have hclocked := hprobed.ask .now rfl (.ok now)
    have hone : out.writeLength = some 1 := by
      rw [hlength, not_not.1 haccepted]
    refine ensures_update ⟨.inr ⟨_, hB, hbefore, ⟨hclocked.split, ?_⟩⟩, fun _ => ?_⟩
    · have hattempted : ∀ o : Result, (observeFeedback r e after (now - after.oldestProof)
          o).writeAttempted = o.writeAttempted := by
        intro o
        unfold observeFeedback
        dsimp only
        split_ifs <;> rfl
      exact (hattempted _).trans hclocked.attempted
    · exact observeFeedback_classified r e after _ hone hzram heswap

theorem command_ensures (h : Quiet calls out)
    (hB : ∀ startedAt, B (calls ++ [⟨.now, .ok startedAt⟩])) :
    Ensures (Returned r B) (Outcome B) calls out (command r e) := by
  unfold command
  refine ensures_bind (ensures_lift (fun nominal _ => ?_) fun _ _ => .inl h)
  refine ensures_bind (ensures_update (ensures_bind ?_))
  refine Quiet.consult ?_ .now rfl fun startedAt => ?_
  · exact { h with }
  have hbefore := (h.ask .now rfl (.ok startedAt)).silent
  have hwritten : ∀ (answer : Except Thrown WriteReceipt) (o : Result),
      o.writeAttempted = some true → Sent (calls ++ [⟨.now, .ok startedAt⟩])
        (calls ++ [⟨.now, .ok startedAt⟩] ++ [⟨.write (text "1"), answer⟩]) o :=
    fun answer o hattempted => ⟨⟨answer, [], rfl, nofun⟩, hattempted⟩
  refine ensures_bind (ensures_update (ensures_bind ?_))
  refine ensures_ask (fun written => ?_) fun _ =>
    .inr ⟨_, hB startedAt, hbefore, hwritten _ _ rfl⟩
  refine ensures_bind ?_
  refine Sent.consult (hB startedAt) hbefore (hwritten (.ok written) _ rfl) .now rfl
    fun returnedAt => ?_
  refine ensures_bind (ensures_update (afterCommand_ensures (hB startedAt) hbefore ?_ rfl rfl rfl))
  exact (hwritten (.ok written) _ rfl).ask .now rfl (.ok returnedAt)

theorem refusal_ensures (h : Quiet calls out) {Q}
    (hclear : ∀ now diagnostic, Cleared r e now limit →
      Quiet (calls ++ [⟨.now, .ok now⟩]) { out with diskBudgetDiagnostic := diagnostic } →
        Q (calls ++ [⟨.now, .ok now⟩]) [] { out with diskBudgetDiagnostic := diagnostic })
    (hreason : ∀ c reason o, reason ≠ [] → Quiet c o → Q c reason o) :
    Ensures Q (Outcome B) calls out (refusal r e limit) := by
  unfold refusal
  refine ensures_bind (h.consult .now rfl fun now => ?_)
  have hclocked := h.ask .now rfl (.ok now)
  refine ensures_bind (ensures_lift (fun verdict hverdict => ?_) fun _ _ => .inl hclocked)
  obtain ⟨reason, diagnostic⟩ := verdict
  refine ensures_bind (ensures_update (ensures_pure ?_))
  by_cases hnil : reason = []
  · subst hnil
    exact hclear now _ (blocked_nil (mapError_eq_ok.1 hverdict)) { hclocked with }
  · exact hreason _ reason _ hnil { hclocked with }

theorem recheck_ensures (h : Quiet calls out)
    (hB : ∀ now deadlineAt startedAt, Cleared r e now limit → deadlineAllows r deadlineAt = true →
      B (calls ++ [⟨.cancelled, .ok false⟩] ++ [⟨.now, .ok now⟩] ++ [⟨.now, .ok deadlineAt⟩] ++
        [⟨.now, .ok startedAt⟩])) :
    Ensures (Returned r B) (Outcome B) calls out (recheck r limit e) := by
  unfold recheck
  refine ensures_bind (h.consult .cancelled rfl fun cancelled => ?_)
  have hcancelled := h.ask .cancelled rfl (.ok cancelled)
  refine ensures_ite (fun _ => hcancelled.setStatus _) fun hrunning => ?_
  obtain rfl : cancelled = false := Bool.eq_false_iff.2 hrunning
  refine ensures_bind (refusal_ensures hcancelled (fun now diagnostic hcleared hquiet => ?_)
    fun c reason o hreason hquiet => ?_)
  · refine ensures_ite (fun hnot => absurd rfl hnot) fun _ => ?_
    refine ensures_bind (hquiet.consult .now rfl fun deadlineAt => ?_)
    have hdeadline := hquiet.ask .now rfl (.ok deadlineAt)
    refine ensures_ite (fun _ => hdeadline.setStatus _) fun hallowed => ?_
    exact command_ensures hdeadline fun startedAt => hB now deadlineAt startedAt hcleared
      (by simpa using hallowed)
  · exact ensures_ite (fun _ => hquiet.setStatus _) fun hnot => absurd hreason hnot

end

section

/-- What the hooks said before the command; the last three reads of the clock are for the check, the
deadline and the start of the command. -/
structure Admission where
  evidence : Evidence
  probedAt : Float
  finalGap : Option Bytes
  checkedAt : Float
  deadlineAt : Float
  startedAt : Float

def gapCalls (finalGap : Option Bytes) : List Call :=
  (finalGap.map fun gap => ⟨.finalGap, .ok (some gap)⟩).toList

def Admission.calls (a : Admission) : List Call :=
  [⟨.cancelled, .ok false⟩, ⟨.probe, .ok a.evidence⟩, ⟨.now, .ok a.probedAt⟩] ++
    gapCalls a.finalGap ++ [⟨.cancelled, .ok false⟩] ++ [⟨.now, .ok a.checkedAt⟩] ++
    [⟨.now, .ok a.deadlineAt⟩] ++ [⟨.now, .ok a.startedAt⟩]

def Admission.before (a : Admission) : Evidence :=
  match a.finalGap with
  | none => a.evidence
  | some gap =>
    { a.evidence with
      base := { a.evidence.base with systemGap := min a.evidence.base.systemGap gap } }

structure Admission.Allows (a : Admission) (r : Request) (limit : Bytes) (finalGap : Bool) : Prop
    where
  authorized : r.knownStrength = true ∨ r.knownCapacity = true → strengthAuthority r = .ok true
  gapHook : a.finalGap.isSome = finalGap
  cleared : Cleared r a.before a.checkedAt limit
  deadline : deadlineAllows r a.deadlineAt = true

def Admitted (r : Request) (limit : Bytes) (finalGap : Bool) (before : List Call) : Prop :=
  ∃ a : Admission, before = a.calls ∧ a.Allows r limit finalGap

variable {r : Request} {limit : Bytes} {finalGap : Bool}

theorem attempt_ensures (r : Request) (limit : Bytes) (finalGap : Bool) :
    Ensures (Returned r (Admitted r limit finalGap)) (Outcome (Admitted r limit finalGap)) []
      { request := r } (attempt r limit finalGap) := by
  have hstart : Quiet [] { request := r } := ⟨nofun, rfl⟩
  unfold attempt
  refine ensures_bind (ensures_lift (fun rejected hrejected => ?_) fun _ _ => .inl hstart)
  refine ensures_ite (fun _ => hstart.setStatus _) fun hallowed => ?_
  obtain rfl : rejected = false := Bool.eq_false_iff.2 hallowed
  have hauthorized := unauthorized_false (mapError_eq_ok.1 hrejected)
  refine ensures_bind (hstart.consult .cancelled rfl fun cancelled => ?_)
  have hcancelled := hstart.ask .cancelled rfl (.ok cancelled)
  refine ensures_ite (fun _ => hcancelled.setStatus _) fun hrunning => ?_
  obtain rfl : cancelled = false := Bool.eq_false_iff.2 hrunning
  refine ensures_bind (hcancelled.consult .probe rfl fun e => ?_)
  have hprobed := hcancelled.ask .probe rfl (.ok e)
  refine ensures_bind (refusal_ensures hprobed (fun probedAt diagnostic _ hquiet => ?_)
    fun c reason o hreason hquiet => ?_)
  · refine ensures_ite (fun hnot => absurd rfl hnot) fun _ => ?_
    unfold tightened
    refine ensures_bind (ensures_ite (fun hhook => ?_) fun hhook => ?_)
    · refine ensures_bind (hquiet.consult .finalGap rfl fun gap => ?_)
      have hgap := hquiet.ask .finalGap rfl (.ok gap)
      cases gap with
      | none => exact ensures_pure (hgap.setStatus _)
      | some gap =>
        refine ensures_pure (recheck_ensures hgap fun now deadlineAt startedAt hcleared
          hdeadline => ?_)
        exact ⟨⟨e, probedAt, some gap, now, deadlineAt, startedAt⟩, rfl, hauthorized, hhook.symm,
          hcleared, hdeadline⟩
    · refine ensures_pure (recheck_ensures hquiet fun now deadlineAt startedAt hcleared
        hdeadline => ?_)
      exact ⟨⟨e, probedAt, none, now, deadlineAt, startedAt⟩, rfl, hauthorized,
        (Bool.eq_false_iff.2 hhook).symm, hcleared, hdeadline⟩
  · exact ensures_ite (fun _ => hquiet.setStatus _) fun hnot => absurd hreason hnot

theorem handled_attempted (out : Result) (outcome : Except Thrown Unit) :
    (handled out outcome).writeAttempted = out.writeAttempted := by
  cases outcome with
  | ok value => rfl
  | error thrown =>
    cases thrown with
    | exception what => rfl
    | unknown => rfl

theorem handled_error {out : Result} (h : out.writeAttempted = some true) (thrown : Thrown) :
    (handled out (.error thrown)).uncertain = true := by
  cases thrown with
  | exception what =>
    unfold handled
    dsimp only
    rw [h]
    rfl
  | unknown => rfl

/-- Whatever the hooks answer, there is at most one command, it is admitted by the calls before it,
and what it did is an observed transition, a known failure or uncertain. -/
theorem command_admitted {σ : Type} (r : Request) (limit : Bytes) (finalGap : Bool)
    (hooks : Hooks Hook Hook.Answer Thrown σ) (world : σ) :
    let calls := ((execute r limit finalGap).run hooks world).1
    let result := ((execute r limit finalGap).run hooks world).2
    calls.countP (fun c => c.op.isWrite) ≤ 1 ∧
      (∀ before payload answer after, calls = before ++ ⟨.write payload, answer⟩ :: after →
        payload = text "1" ∧ result.writeAttempted = some true ∧
          ∃ a : Admission, before = a.calls ∧ a.Allows r limit finalGap) ∧
      (result.writeAttempted = some true → Classified r result) := by
  let P := fun (calls : List Call) (result : Result) => ∃ (out : Result)
    (outcome : Except Thrown Unit), result = handled out outcome ∧
      Outcome (Admitted r limit finalGap) calls out ∧
      (outcome = .ok () → out.writeAttempted = some true → Classified r out)
  have hall : (execute r limit finalGap).Always P [] := by
    refine Program.always_bind.2 (Program.always_mono ?_ (attempt_ensures r limit finalGap))
    rintro calls ⟨outcome, out⟩ hback
    cases outcome with
    | ok value => exact ⟨out, .ok (), rfl, hback.1, fun _ => hback.2⟩
    | error thrown => exact ⟨out, .error thrown, rfl, hback, nofun⟩
  have hrun := Program.always_run hooks world hall
  rw [List.nil_append] at hrun
  generalize (execute r limit finalGap).run hooks world = run at hrun
  obtain ⟨calls, result⟩ := run
  obtain ⟨out, outcome, rfl, houtcome, hreturned⟩ := hrun
  have hattempted := handled_attempted out outcome
  refine ⟨?_, ?_, ?_⟩
  · rcases houtcome with hquiet | ⟨before, -, hbefore, hsent⟩
    · exact (countP_silent hquiet.silent).le.trans (Nat.zero_le 1)
    · obtain ⟨written, after, rfl, hafter⟩ := hsent.split
      exact countP_split hbefore hafter _
  · intro before' payload answer after' hcalls
    dsimp only at hcalls
    rcases houtcome with hquiet | ⟨before, hadmitted, hbefore, hsent⟩
    · have hwrite := hquiet.silent ⟨.write payload, answer⟩
        (hcalls ▸ List.mem_append_right _ (.head _))
      cases hwrite
    · obtain ⟨written, after, hsplit, hafter⟩ := hsent.split
      obtain ⟨rfl, heq, -⟩ := split_unique (p := fun c : Call => c.op.isWrite) hbefore hafter rfl
        (hsplit.symm.trans hcalls)
      cases heq
      exact ⟨rfl, hattempted.trans hsent.attempted, hadmitted⟩
  · intro htrue
    have hsent := hattempted.symm.trans htrue
    cases outcome with
    | ok value => exact hreturned rfl hsent
    | error thrown => exact .inl (handled_error hsent thrown)

end

end Parp.DiskSwapOut
