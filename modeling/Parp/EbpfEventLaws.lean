import Parp.EbpfEvents
import Parp.SequenceNumbers

set_option autoImplicit false

namespace Parp.EbpfFileEvents

open OrderedDict SequenceNumbers TransitionRuns List

variable {V : Type}

def Datagram.numbers : Datagram V → List ℕ
  | .eventBatch events => events.map FileEvent.sourceSeq
  | .pageWindow sourceSeq _ => [sourceSeq]
  | .sourceStatus _ => []

/-- The numbers of the events and chunks that were sent, or were to be sent when a send raised. -/
def sentNumbers (sends : Sends V) : List ℕ := sends.flatMap fun s => s.1.numbers

def arrivedNumbers (sends : Sends V) : List ℕ :=
  sends.flatMap fun s => if s.2 = .arrived then s.1.numbers else []

def lostNumbers (sends : Sends V) : List ℕ :=
  sends.flatMap fun s => if s.2 = .arrived then [] else s.1.numbers

/-- No page window gets through while numbers are queued, and no status while the first one is. -/
def Passes (queued : List ℕ) (sent : Datagram V × Fate) : Prop :=
  sent.2 = .arrived →
    match sent.1 with
    | .eventBatch _ => True
    | .pageWindow _ _ => queued = []
    | .sourceStatus _ => 1 ∉ queued

instance (queued : List ℕ) : ∀ sent : Datagram V × Fate, Decidable (Passes queued sent)
  | (.eventBatch _, _) => .isTrue fun _ => trivial
  | (.pageWindow _ _, _) => inferInstanceAs (Decidable (_ → queued = []))
  | (.sourceStatus _, _) => inferInstanceAs (Decidable (_ → 1 ∉ queued))

theorem arrivedNumbers_append (left right : Sends V) :
    arrivedNumbers (left ++ right) = arrivedNumbers left ++ arrivedNumbers right :=
  flatMap_append

theorem lostNumbers_append (left right : Sends V) :
    lostNumbers (left ++ right) = lostNumbers left ++ lostNumbers right :=
  flatMap_append

theorem arrivedNumbers_singleton (d : Datagram V) (fate : Fate) :
    arrivedNumbers [(d, fate)] = if fate = .arrived then d.numbers else [] :=
  append_nil _

theorem lostNumbers_singleton (d : Datagram V) (fate : Fate) :
    lostNumbers [(d, fate)] = if fate = .arrived then [] else d.numbers :=
  append_nil _

theorem sentNumbers_of_lost_nil {sends : Sends V} (h : lostNumbers sends = []) :
    sentNumbers sends = arrivedNumbers sends := by
  induction sends with
  | nil => rfl
  | cons s sends ih =>
    obtain ⟨hhead, htail⟩ := append_eq_nil_iff.1 h
    change s.1.numbers ++ sentNumbers sends =
      (if s.2 = .arrived then s.1.numbers else []) ++ arrivedNumbers sends
    have hempty : (if s.2 = .arrived then [] else s.1.numbers) = [] := hhead
    rw [ih htail]
    split_ifs at hempty ⊢
    · rfl
    · rw [hempty]

section

variable {instanceId : String} {c : Collector}

def Collector.view (c : Collector) : Receiver := ⟨c.lastSourceSeq, c.accepted, c.gaps⟩

/-- The collector has rejected nothing, and what it has seen is of this instance. -/
structure Tuned (instanceId : String) (c : Collector) : Prop where
  rejected : c.rejectedDatagrams = 0
  sees : instanceId = "" ∨ c.sourceInstanceId = instanceId ∨ c.lastSourceSeq = 0

theorem seeInstance_view (h : Tuned instanceId c) :
    (c.seeInstance instanceId).view = c.view ∧
      (c.seeInstance instanceId).rejectedDatagrams = 0 ∧
      (instanceId = "" ∨ (c.seeInstance instanceId).sourceInstanceId = instanceId) := by
  unfold Collector.seeInstance
  split_ifs with hnew
  · have hzero := (h.sees.resolve_left hnew.1).resolve_left (Ne.symm hnew.2)
    refine ⟨?_, h.rejected, .inr rfl⟩
    unfold Collector.view
    rw [hzero]
  · refine ⟨rfl, h.rejected, ?_⟩
    rw [not_and_or, not_not, not_not] at hnew
    exact hnew.imp id Eq.symm

theorem acceptPayload_view (h : Tuned instanceId c) {n : ℕ} {app : String}
    (hahead : c.lastSourceSeq < n) (happ : app ≠ "") :
    (c.acceptPayload instanceId (n, app)).view = c.view.receive n ∧
      Tuned instanceId (c.acceptPayload instanceId (n, app)) := by
  obtain ⟨hview, hrejected, hsees⟩ := seeInstance_view h
  have hlast : (c.seeInstance instanceId).lastSourceSeq = c.lastSourceSeq :=
    congrArg Receiver.last hview
  have haccepted : (c.seeInstance instanceId).accepted = c.accepted :=
    congrArg Receiver.accepted hview
  have hgaps : (c.seeInstance instanceId).gaps = c.gaps := congrArg Receiver.gaps hview
  unfold Collector.acceptPayload Collector.acceptFileSequence Receiver.receive Collector.view
  dsimp only
  rw [if_neg (by omega : ¬ n = 0), if_neg (by omega : ¬ n ≤ c.lastSourceSeq), hlast]
  by_cases hgap : c.lastSourceSeq ≠ 0 ∧ c.lastSourceSeq + 1 < n
  · rw [if_pos hgap, if_pos hgap, if_neg nofun, if_neg happ, hgaps, haccepted]
    exact ⟨rfl, hrejected, hsees.imp id .inl⟩
  · rw [if_neg hgap, if_neg hgap, if_neg (by omega : ¬ n ≤ c.lastSourceSeq), if_neg nofun,
      if_neg happ, hgaps, haccepted]
    exact ⟨rfl, hrejected, hsees.imp id .inl⟩

theorem acceptSourceWatermark_view (h : Tuned instanceId c) {watermark : ℕ}
    (hknown : c.lastSourceSeq ≠ 0 ∨ watermark = 0) :
    (c.acceptSourceWatermark instanceId watermark).view = c.view ∧
      Tuned instanceId (c.acceptSourceWatermark instanceId watermark) := by
  obtain ⟨hview, hrejected, hsees⟩ := seeInstance_view h
  have hlast : (c.seeInstance instanceId).lastSourceSeq = c.lastSourceSeq :=
    congrArg Receiver.last hview
  unfold Collector.acceptSourceWatermark
  dsimp only
  rw [hlast, if_neg (by omega)]
  exact ⟨hview, hrejected, hsees.imp id .inl⟩

end

section

variable {setting : Setting V}

structure Follows (setting : Setting V) (next : ℕ) (pending : List ℕ) (sends : Sends V)
    (c : Collector) : Prop where
  ledger : Ledger next (arrivedNumbers sends) (lostNumbers sends) pending c.view
  tuned : Tuned setting.instanceId c

variable {next : ℕ} {pending : List ℕ} {sends : Sends V} {c : Collector}
  {events : List (FileEvent V)} {batches : List (List (FileEvent V))}

theorem follows_events {lost : List ℕ} (hnamed : ∀ e ∈ events, e.app ≠ "") (hlost : 1 ∉ lost) :
    ∀ {arrived : List ℕ} {c : Collector},
      Ledger next arrived lost (events.map FileEvent.sourceSeq ++ pending) c.view →
      Tuned setting.instanceId c →
      Ledger next (arrived ++ events.map FileEvent.sourceSeq) lost pending
        (c.receive setting.instanceId (.eventBatch events)).view ∧
      Tuned setting.instanceId (c.receive setting.instanceId (.eventBatch events)) := by
  induction events with
  | nil =>
    intro arrived c h htuned
    rw [map_nil, append_nil]
    exact ⟨h, htuned⟩
  | cons e events ih =>
    intro arrived c h htuned
    have hahead : c.lastSourceSeq < e.sourceSeq := h.ahead e.sourceSeq (.head _)
    obtain ⟨hview, htuned'⟩ := acceptPayload_view htuned hahead (hnamed e (.head events))
    have hreceived := h.receive hlost
    rw [← hview] at hreceived
    have hrest := ih (fun f hf => hnamed f (.tail e hf)) hreceived htuned'
    rw [append_assoc] at hrest
    exact hrest

theorem follows_batch {fate : Fate}
    (h : Follows setting next (events.map FileEvent.sourceSeq ++ pending) sends c)
    (hnamed : ∀ e ∈ events, e.app ≠ "")
    (hlost : 1 ∉ lostNumbers (sends ++ [(.eventBatch events, fate)])) :
    Follows setting next pending (sends ++ [(.eventBatch events, fate)])
      (c.receiveAll setting.instanceId [(.eventBatch events, fate)]) := by
  rw [lostNumbers_append, lostNumbers_singleton] at hlost
  constructor
  · rw [arrivedNumbers_append, arrivedNumbers_singleton, lostNumbers_append, lostNumbers_singleton]
    change Ledger _ _ _ _ (if fate = .arrived then _ else c).view
    split_ifs at hlost ⊢ with hfate
    · rw [append_nil] at hlost ⊢
      exact (@follows_events V setting _ _ _ _ hnamed hlost _ _ h.ledger h.tuned).1
    · rw [append_nil]
      exact @Ledger.lose _ _ _ _ [] _ _ h.ledger
  · change Tuned _ (if fate = .arrived then _ else c)
    split_ifs at hlost ⊢ with hfate
    · rw [append_nil] at hlost
      exact (@follows_events V setting _ _ _ _ hnamed hlost _ _ h.ledger h.tuned).2
    · exact h.tuned

theorem receiveAll_append (instanceId : String) (c : Collector) (left right : Sends V) :
    c.receiveAll instanceId (left ++ right) =
      (c.receiveAll instanceId left).receiveAll instanceId right :=
  foldl_append

theorem follows_unsent :
    ∀ {sends : Sends V},
      Follows setting next (batches.flatten.map FileEvent.sourceSeq ++ pending) sends c →
      Follows setting next pending (sends ++ batches.map fun batch => (.eventBatch batch, .unsent))
        (c.receiveAll setting.instanceId
          (batches.map fun batch => (Datagram.eventBatch batch, Fate.unsent))) := by
  induction batches with
  | nil =>
    intro sends h
    rw [map_nil, append_nil]
    exact h
  | cons batch batches ih =>
    intro sends h
    rw [flatten_cons, map_append, append_assoc] at h
    rw [map_cons, append_cons]
    refine @ih (sends ++ [(.eventBatch batch, .unsent)]) ⟨?_, h.tuned⟩
    have hgone := @Ledger.lose _ _ _ _ [] (batch.map FileEvent.sourceSeq) _ h.ledger
    rw [arrivedNumbers_append, arrivedNumbers_singleton, lostNumbers_append,
      lostNumbers_singleton, if_neg nofun, if_neg nofun, append_nil]
    exact hgone

theorem follows_batches :
    ∀ {answers : List Answer} {sends : Sends V} {c : Collector},
      Follows setting next (batches.flatten.map FileEvent.sourceSeq ++ pending) sends c →
      (∀ e ∈ batches.flatten, e.app ≠ "") →
      1 ∉ lostNumbers (sends ++ sendBatches setting.encodedSize answers batches) →
      Follows setting next pending (sends ++ sendBatches setting.encodedSize answers batches)
        (c.receiveAll setting.instanceId (sendBatches setting.encodedSize answers batches)) := by
  induction batches with
  | nil =>
    intro answers sends c h _ _
    unfold sendBatches
    rw [append_nil]
    exact h
  | cons batch batches ih =>
    intro answers sends c h hnamed hlost
    rw [flatten_cons, map_append, append_assoc] at h
    unfold sendBatches at hlost ⊢
    generalize fateOf setting.encodedSize (.eventBatch batch) (answers.headD .refused) = fate
      at hlost ⊢
    rw [append_cons] at hlost ⊢
    change Follows _ _ _ _ ((c.receiveAll setting.instanceId
      [(Datagram.eventBatch batch, fate)]).receiveAll setting.instanceId _)
    have hhead : 1 ∉ lostNumbers (sends ++ [(.eventBatch batch, fate)]) := by
      intro hmem
      rw [lostNumbers_append] at hlost
      exact hlost (mem_append_left _ hmem)
    have hbatch := follows_batch h
      (fun e he => hnamed e (mem_append_left _ he)) hhead
    split_ifs at hlost ⊢ with hraised
    · exact follows_unsent hbatch
    · exact ih hbatch (fun e he => hnamed e (mem_append_right _ he)) hlost

theorem batchesFrom_flatten (encodedSize : Datagram V → ℕ) (events : List (FileEvent V)) :
    ∀ batch, (batchesFrom encodedSize batch events).flatten = batch ++ events := by
  induction events with
  | nil =>
    intro batch
    unfold batchesFrom
    split_ifs with hempty
    · rw [hempty]
      rfl
    · rw [flatten_singleton, append_nil]
  | cons event events ih =>
    intro batch
    unfold batchesFrom
    split_ifs with hfull
    · rw [flatten_cons, ih]
      rfl
    · rw [ih, append_assoc]
      rfl

theorem follows_chunk {window : PageWindow} {fate : Fate} (h : Follows setting next pending sends c)
    (happ : window.app ≠ "")
    (horder : Passes pending ((.pageWindow (next + 1) window : Datagram V), fate))
    (hlost : 1 ∉ lostNumbers (sends ++ [(.pageWindow (next + 1) window, fate)])) :
    Follows setting (next + 1) pending (sends ++ [(.pageWindow (next + 1) window, fate)])
      (c.receiveAll setting.instanceId [((.pageWindow (next + 1) window : Datagram V), fate)]) := by
  have hqueued := h.ledger.queue
  rw [lostNumbers_append, lostNumbers_singleton] at hlost
  constructor
  · rw [arrivedNumbers_append, arrivedNumbers_singleton, lostNumbers_append, lostNumbers_singleton]
    change Ledger _ _ _ _ (if fate = .arrived then _ else c).view
    split_ifs at hlost ⊢ with hfate
    · obtain rfl : pending = [] := horder hfate
      rw [append_nil] at hlost ⊢
      have hview := (acceptPayload_view h.tuned (hqueued.ahead _ (.head _)) happ).1
      change Ledger _ _ _ _ (Collector.acceptPayload _ c (next + 1, window.app)).view
      rw [hview]
      exact hqueued.receive hlost
    · rw [append_nil]
      have hgone := @Ledger.lose _ _ _ _ pending [next + 1] [] (by rw [append_nil]; exact hqueued)
      rw [append_nil] at hgone
      exact hgone
  · change Tuned _ (if fate = .arrived then _ else c)
    split_ifs with hfate
    · exact (acceptPayload_view h.tuned (hqueued.ahead _ (mem_append_right _ (.head _))) happ).2
    · exact h.tuned

theorem lost_left {left right : Sends V} (h : 1 ∉ lostNumbers (left ++ right)) :
    1 ∉ lostNumbers left := by
  rw [lostNumbers_append] at h
  exact fun hmem => h (mem_append_left _ hmem)

/-- What a loop of sends does to the helper: it keeps the queue and the owners. -/
structure Sent (setting : Setting V) (h h' : Helper V) (sends new : Sends V) (c : Collector) :
    Prop where
  follows : Follows setting h'.sourceSeq (h.pendingEvents.map FileEvent.sourceSeq) (sends ++ new)
    (c.receiveAll setting.instanceId new)
  pendingEvents : h'.pendingEvents = h.pendingEvents
  windows : ∀ e ∈ h'.windows.ranges.items, e ∈ h.windows.ranges.items

theorem sendChunks_sent {windows : List PageWindow} (hnamed : ∀ w ∈ windows, w.app ≠ "") :
    ∀ {h : Helper V} {answers : List Answer} {sends : Sends V} {c : Collector},
      Follows setting h.sourceSeq (h.pendingEvents.map FileEvent.sourceSeq) sends c →
      (∀ sent ∈ (sendChunks setting.encodedSize h answers windows).1,
        Passes (h.pendingEvents.map FileEvent.sourceSeq) sent) →
      1 ∉ lostNumbers (sends ++ (sendChunks setting.encodedSize h answers windows).1) →
      Sent setting h (sendChunks setting.encodedSize h answers windows).2.1 sends
        (sendChunks setting.encodedSize h answers windows).1 c := by
  induction windows with
  | nil =>
    intro h answers sends c hfollows _ _
    refine ⟨?_, rfl, fun _ => id⟩
    rw [show (sendChunks setting.encodedSize h answers []).1 = [] from rfl, append_nil]
    exact hfollows
  | cons window windows ih =>
    intro h answers sends c hfollows horder hlost
    have hhead := hnamed window (.head windows)
    unfold sendChunks at horder hlost ⊢
    dsimp only at horder hlost ⊢
    generalize fateOf setting.encodedSize (.pageWindow (h.sourceSeq + 1) window)
      (answers.headD .refused) = fate at horder hlost ⊢
    by_cases hraised : fate = .raised
    · rw [if_pos hraised] at horder hlost ⊢
      exact ⟨follows_chunk hfollows hhead (horder _ (.head _)) hlost, rfl, fun _ => id⟩
    · rw [if_neg hraised] at horder hlost ⊢
      dsimp only at horder hlost ⊢
      rw [append_cons] at hlost
      have hchunk := follows_chunk hfollows hhead (horder _ (.head _)) (lost_left hlost)
      generalize hnumbered : ({ h with
        sourceSeq := h.sourceSeq + 1
        deliveryDrops := h.deliveryDrops + if fate = .refused then 1 else 0 } : Helper V) = h'
        at horder hlost ⊢
      have hnext : h'.sourceSeq = h.sourceSeq + 1 := by
        rw [← hnumbered]
      have hpending : h'.pendingEvents = h.pendingEvents := by
        rw [← hnumbered]
      have hwindows : h'.windows = h.windows := by
        rw [← hnumbered]
      rw [← hnext, ← hpending] at hchunk
      rw [← hnext] at hlost
      rw [← hpending] at horder
      have hrest := ih (fun w hw => hnamed w (.tail window hw)) hchunk
        (fun sent hsent => horder sent (.tail _ hsent)) hlost
      refine ⟨?_, hrest.pendingEvents.trans hpending, ?_⟩
      · rw [append_cons, ← hpending, ← hnext]
        exact hrest.follows
      · rw [← hwindows]
        exact hrest.windows

theorem windowMessages_app {pageSize : ℤ} {key : WindowKey} {eventCount : ℕ} {grouped : Grouped} :
    ∀ w ∈ windowMessages pageSize key eventCount grouped, w.app = key.2 := by
  intro w hw
  obtain ⟨chunk, -, rfl⟩ := mem_map.1 hw
  rfl

theorem flushWindows_sent {keys : List WindowKey} (hnamed : ∀ k ∈ keys, k.2 ≠ "") :
    ∀ {h : Helper V} {answers : List Answer} {sends : Sends V} {c : Collector},
      Follows setting h.sourceSeq (h.pendingEvents.map FileEvent.sourceSeq) sends c →
      (∀ sent ∈ (flushWindows setting.encodedSize setting.pageSize h answers keys).1,
        Passes (h.pendingEvents.map FileEvent.sourceSeq) sent) →
      1 ∉ lostNumbers
        (sends ++ (flushWindows setting.encodedSize setting.pageSize h answers keys).1) →
      Sent setting h (flushWindows setting.encodedSize setting.pageSize h answers keys).2.1 sends
        (flushWindows setting.encodedSize setting.pageSize h answers keys).1 c := by
  induction keys with
  | nil =>
    intro h answers sends c hfollows _ _
    refine ⟨?_, rfl, fun _ => id⟩
    rw [show (flushWindows setting.encodedSize setting.pageSize h answers []).1 = [] from rfl,
      append_nil]
    exact hfollows
  | cons key keys ih =>
    intro h answers sends c hfollows horder hlost
    unfold flushWindows at horder hlost ⊢
    dsimp only at horder hlost ⊢
    have hmessages : ∀ w ∈ windowMessages setting.pageSize key
        ((h.windows.eventCounts.get? key).getD 0) ((h.windows.ranges.get? key).getD ∅),
        w.app ≠ "" := by
      intro w hw
      rw [windowMessages_app w hw]
      exact hnamed key (.head keys)
    have hsent := @sendChunks_sent V setting _ hmessages
      { h with windows := h.windows.pop key } answers sends c hfollows
    generalize sendChunks setting.encodedSize { h with windows := h.windows.pop key } answers
      (windowMessages setting.pageSize key ((h.windows.eventCounts.get? key).getD 0)
        ((h.windows.ranges.get? key).getD ∅)) = sent at hsent horder hlost ⊢
    have hpopped : ∀ e ∈ (h.windows.pop key).ranges.items, e ∈ h.windows.ranges.items :=
      fun e he => (Dict.mem_erase.1 he).1
    by_cases hraises : raises sent.1 = true
    · rw [if_pos hraises] at horder hlost ⊢
      have hdone := hsent horder hlost
      exact ⟨hdone.follows, hdone.pendingEvents, fun e he => hpopped e (hdone.windows e he)⟩
    · rw [if_neg hraises] at horder hlost ⊢
      dsimp only at horder hlost ⊢
      rw [← append_assoc] at hlost
      have hdone := hsent (fun s hs => horder s (mem_append_left _ hs)) (lost_left hlost)
      have hfollows' := hdone.follows
      rw [← hdone.pendingEvents] at hfollows'
      have horder' : ∀ s ∈ (flushWindows setting.encodedSize setting.pageSize sent.2.1 sent.2.2
          keys).1, Passes (sent.2.1.pendingEvents.map FileEvent.sourceSeq) s := by
        rw [hdone.pendingEvents]
        exact fun s hs => horder s (mem_append_right _ hs)
      have hrest := ih (fun k hk => hnamed k (.tail key hk)) hfollows' horder' hlost
      refine ⟨?_, hrest.pendingEvents.trans hdone.pendingEvents,
        fun e he => hpopped e (hdone.windows e (hrest.windows e he))⟩
      rw [← append_assoc, receiveAll_append]
      have hlast := hrest.follows
      rw [hdone.pendingEvents] at hlast
      exact hlast

theorem follows_status {h : Helper V} {answer : Answer}
    (hfollows : Follows setting h.sourceSeq (h.pendingEvents.map FileEvent.sourceSeq) sends c)
    (horder : ∀ sent ∈ h.sendStatus setting.encodedSize answer,
      Passes (h.pendingEvents.map FileEvent.sourceSeq) sent)
    (hlost : 1 ∉ lostNumbers (sends ++ h.sendStatus setting.encodedSize answer)) :
    Follows setting h.sourceSeq (h.pendingEvents.map FileEvent.sourceSeq)
      (sends ++ h.sendStatus setting.encodedSize answer)
      (c.receiveAll setting.instanceId (h.sendStatus setting.encodedSize answer)) := by
  unfold Helper.sendStatus at horder hlost ⊢
  generalize fateOf setting.encodedSize (.sourceStatus h.sourceSeq) answer = fate
    at horder hlost ⊢
  have hlostBefore := lost_left hlost
  have hledger := hfollows.ledger
  have hwatermark : fate = .arrived →
      (c.acceptSourceWatermark setting.instanceId h.sourceSeq).view = c.view ∧
        Tuned setting.instanceId (c.acceptSourceWatermark setting.instanceId h.sourceSeq) := by
    intro harrived
    have hfirst := horder _ (.head _) harrived
    exact acceptSourceWatermark_view hfollows.tuned (hledger.started hlostBefore hfirst)
  constructor
  · rw [arrivedNumbers_append, arrivedNumbers_singleton, lostNumbers_append, lostNumbers_singleton]
    change Ledger _ _ _ _ (if fate = .arrived then _ else c).view
    split_ifs with harrived
    · change Ledger _ (_ ++ []) (_ ++ []) _
        (c.acceptSourceWatermark setting.instanceId h.sourceSeq).view
      rw [(hwatermark harrived).1, append_nil, append_nil]
      exact hledger
    · change Ledger _ (_ ++ []) (_ ++ []) _ c.view
      rw [append_nil, append_nil]
      exact hledger
  · change Tuned _ (if fate = .arrived then _ else c)
    split_ifs with harrived
    · exact (hwatermark harrived).2
    · exact hfollows.tuned

end

section

def InOrder (setting : Setting V) (s : System V) (op : Op V) : Prop :=
  ∀ sent ∈ (step setting s op).1, Passes (s.helper.pendingEvents.map FileEvent.sourceSeq) sent

instance (setting : Setting V) (s : System V) (op : Op V) : Decidable (InOrder setting s op) :=
  inferInstanceAs (Decidable (∀ _ ∈ _, _))

/-- The collector follows the helper, and every number is of a named application. -/
structure Protocol (setting : Setting V) (s : System V) (sends : Sends V) : Prop where
  follows : Follows setting s.helper.sourceSeq (s.helper.pendingEvents.map FileEvent.sourceSeq)
    sends s.collector
  events : ∀ e ∈ s.helper.pendingEvents, e.app ≠ ""
  windows : ∀ e ∈ s.helper.windows.ranges.items, e.1.2 ≠ ""

variable {setting : Setting V} {s : System V} {sends : Sends V}

theorem protocol_init (setting : Setting V) : Protocol setting {} [] :=
  ⟨⟨ledger_init, ⟨rfl, .inr (.inr rfl)⟩⟩, nofun, nofun⟩

theorem ready_named {h : Helper V} (hnamed : ∀ e ∈ h.windows.ranges.items, e.1.2 ≠ "")
    {nowNs : ℤ} {force : Bool} : ∀ k ∈ h.windows.ready nowNs force, k.2 ≠ "" := by
  intro k hk
  have hmem := mem_of_mem_filter ((mem_insertionSort _).1 hk)
  obtain ⟨e, he, rfl⟩ := mem_map.1 hmem
  exact hnamed e he

theorem notePageAccess_keeps (pageSize : ℤ) (h : Helper V) (callback : PageCallback) :
    (h.notePageAccess pageSize callback).1.sourceSeq = h.sourceSeq ∧
      (h.notePageAccess pageSize callback).1.pendingEvents = h.pendingEvents := by
  unfold Helper.notePageAccess
  cases h.ownerForTag callback.tag with
  | none => exact ⟨rfl, rfl⟩
  | some owner =>
    dsimp only
    split_ifs <;> exact ⟨rfl, rfl⟩

theorem notePageAccess_named (pageSize : ℤ) {h : Helper V} (callback : PageCallback)
    (hnamed : ∀ e ∈ h.windows.ranges.items, e.1.2 ≠ "") :
    ∀ e ∈ (h.notePageAccess pageSize callback).1.windows.ranges.items, e.1.2 ≠ "" := by
  unfold Helper.notePageAccess
  cases h.ownerForTag callback.tag with
  | none => exact hnamed
  | some owner =>
    have hset : ∀ e ∈ (h.windows.aggregate pageSize
        (callback.timestampNs - callback.timestampNs % pageWindowNs, owner.app)
        callback.access).ranges.items, e.1.2 ≠ "" := by
      intro e he
      rcases Dict.mem_set.1 he with rfl | ⟨hold, -⟩
      · exact owner.named
      · exact hnamed e hold
    dsimp only
    split_ifs
    · exact hset
    · exact hset
    · exact hnamed

section

variable (h : Protocol setting s sends)

include h

theorem tagged_protocol (tag : ℕ) (values : V) :
    Protocol setting { s with helper := s.helper.sendTaggedEvent tag values } sends := by
  unfold Helper.sendTaggedEvent
  cases s.helper.ownerForTag tag with
  | none => exact ⟨h.follows, h.events, h.windows⟩
  | some owner =>
    refine ⟨⟨?_, h.follows.tuned⟩, ?_, h.windows⟩
    · change Ledger (s.helper.sourceSeq + 1) _ _
        ((s.helper.pendingEvents ++ [_]).map FileEvent.sourceSeq) _
      rw [map_append]
      exact h.follows.ledger.queue
    · intro e he
      rcases mem_append.1 he with hold | hnew
      · exact h.events e hold
      · obtain rfl := mem_singleton.1 hnew
        exact owner.named

theorem flushEvents_protocol (answers : List Answer)
    (hlost : 1 ∉ lostNumbers (sends ++ (s.helper.flushEvents setting.encodedSize answers).1)) :
    Protocol setting
      { helper := (s.helper.flushEvents setting.encodedSize answers).2
        collector := s.collector.receiveAll setting.instanceId
          (s.helper.flushEvents setting.encodedSize answers).1 }
      (sends ++ (s.helper.flushEvents setting.encodedSize answers).1) := by
  have hflatten := batchesFrom_flatten setting.encodedSize s.helper.pendingEvents []
  rw [nil_append] at hflatten
  have hfollows := h.follows
  rw [← hflatten, ← append_nil (List.map _ _)] at hfollows
  refine ⟨follows_batches hfollows ?_ hlost, nofun, h.windows⟩
  rw [hflatten]
  exact h.events

theorem flushPageWindows_protocol {nowNs : ℤ} {force : Bool}
    {answers : List Answer}
    (horder : ∀ sent ∈
      (s.helper.flushPageWindows setting.encodedSize setting.pageSize nowNs force answers).1,
      Passes (s.helper.pendingEvents.map FileEvent.sourceSeq) sent)
    (hlost : 1 ∉ lostNumbers (sends ++
      (s.helper.flushPageWindows setting.encodedSize setting.pageSize nowNs force answers).1)) :
    Protocol setting
      { helper :=
          (s.helper.flushPageWindows setting.encodedSize setting.pageSize nowNs force answers).2.1
        collector := s.collector.receiveAll setting.instanceId
          (s.helper.flushPageWindows setting.encodedSize setting.pageSize nowNs force answers).1 }
      (sends ++
        (s.helper.flushPageWindows setting.encodedSize setting.pageSize nowNs force answers).1) ∧
    (s.helper.flushPageWindows setting.encodedSize setting.pageSize nowNs force
      answers).2.1.pendingEvents = s.helper.pendingEvents := by
  have hsent := flushWindows_sent (ready_named h.windows) h.follows horder hlost
  refine ⟨⟨?_, ?_, ?_⟩, hsent.pendingEvents⟩
  · have hfollows := hsent.follows
    rw [← hsent.pendingEvents] at hfollows
    exact hfollows
  · intro e he
    exact h.events e (hsent.pendingEvents ▸ he)
  · exact fun e he => h.windows e (hsent.windows e he)

theorem status_protocol {answer : Answer}
    (horder : ∀ sent ∈ s.helper.sendStatus setting.encodedSize answer,
      Passes (s.helper.pendingEvents.map FileEvent.sourceSeq) sent)
    (hlost : 1 ∉ lostNumbers (sends ++ s.helper.sendStatus setting.encodedSize answer)) :
    Protocol setting
      { s with
        collector := s.collector.receiveAll setting.instanceId
          (s.helper.sendStatus setting.encodedSize answer) }
      (sends ++ s.helper.sendStatus setting.encodedSize answer) :=
  ⟨follows_status h.follows horder hlost, h.events, h.windows⟩

theorem noted_protocol (callback : PageCallback) :
    Protocol setting
      { s with helper := (s.helper.notePageAccess setting.pageSize callback).1 } sends := by
  obtain ⟨hseq, hpending⟩ := notePageAccess_keeps setting.pageSize s.helper callback
  refine ⟨?_, ?_, notePageAccess_named setting.pageSize callback h.windows⟩
  · have hfollows := h.follows
    rw [← hseq, ← hpending] at hfollows
    exact hfollows
  · intro e he
    exact h.events e (hpending ▸ he)

theorem pageAccess_protocol {callback : PageCallback}
    (horder : ∀ sent ∈
      (s.helper.aggregatePageAccess setting.encodedSize setting.pageSize callback).1,
      Passes (s.helper.pendingEvents.map FileEvent.sourceSeq) sent)
    (hlost : 1 ∉ lostNumbers (sends ++
      (s.helper.aggregatePageAccess setting.encodedSize setting.pageSize callback).1)) :
    Protocol setting
      { helper := (s.helper.aggregatePageAccess setting.encodedSize setting.pageSize callback).2
        collector := s.collector.receiveAll setting.instanceId
          (s.helper.aggregatePageAccess setting.encodedSize setting.pageSize callback).1 }
      (sends ++ (s.helper.aggregatePageAccess setting.encodedSize setting.pageSize callback).1) := by
  have hnoted := noted_protocol h callback
  rw [← (notePageAccess_keeps setting.pageSize s.helper callback).2] at horder
  unfold Helper.aggregatePageAccess at horder hlost ⊢
  dsimp only at horder hlost ⊢
  generalize s.helper.notePageAccess setting.pageSize callback = noted at hnoted horder hlost ⊢
  obtain ⟨helper, due⟩ := noted
  cases due with
  | false =>
    rw [if_pos rfl, append_nil]
    exact hnoted
  | true =>
    rw [if_neg nofun] at horder hlost ⊢
    have hflush := @flushPageWindows_protocol V setting { s with helper := helper } sends hnoted
      callback.nowNs false callback.answers
    dsimp only at hflush horder hlost ⊢
    generalize helper.flushPageWindows setting.encodedSize setting.pageSize callback.nowNs false
      callback.answers = flushed at hflush horder hlost ⊢
    by_cases hraises : raises flushed.1 = true
    · rw [if_pos hraises] at horder hlost ⊢
      exact (hflush horder hlost).1
    · rw [if_neg hraises] at horder hlost ⊢
      by_cases hdue : callback.heartbeatDue = true
      · rw [if_pos hdue] at horder hlost ⊢
        dsimp only at horder hlost ⊢
        rw [← append_assoc] at hlost
        obtain ⟨hflushed, hpending⟩ := hflush
          (fun sent hsent => horder sent (mem_append_left _ hsent)) (lost_left hlost)
        rw [← append_assoc, receiveAll_append]
        refine status_protocol hflushed ?_ hlost
        rw [hpending]
        exact fun sent hsent => horder sent (mem_append_right _ hsent)
      · rw [if_neg hdue] at horder hlost ⊢
        exact (hflush horder hlost).1

theorem protocol_step {op : Op V} (horder : InOrder setting s op)
    (hlost : 1 ∉ lostNumbers (sends ++ (step setting s op).1)) :
    Protocol setting (step setting s op).2 (sends ++ (step setting s op).1) := by
  unfold InOrder step at horder
  unfold step at hlost ⊢
  by_cases hrunning : s.helper.running = false
  · rw [if_pos hrunning, append_nil]
    exact h
  · rw [if_neg hrunning] at horder hlost ⊢
    cases op with
    | track owner =>
      change Protocol setting { s with helper := s.helper.tagFor owner } (sends ++ [])
      rw [append_nil]
      unfold Helper.tagFor
      split_ifs <;> exact ⟨h.follows, h.events, h.windows⟩
    | taggedEvent tag values =>
      change Protocol setting { s with helper := s.helper.sendTaggedEvent tag values } (sends ++ [])
      rw [append_nil]
      exact tagged_protocol h tag values
    | pageAccess callback => exact pageAccess_protocol h horder hlost
    | flushEvents answers =>
      have hdone := flushEvents_protocol h answers hlost
      exact ⟨hdone.follows, hdone.events, hdone.windows⟩
    | flushPageWindows nowNs force answers =>
      have hdone := (flushPageWindows_protocol h horder hlost).1
      exact ⟨hdone.follows, hdone.events, hdone.windows⟩
    | status inCallback answer =>
      have hdone := status_protocol h horder hlost
      exact ⟨hdone.follows, hdone.events, hdone.windows⟩

end

theorem run_protocol (setting : Setting V) (ops : List (Op V))
    (horder : Along (step setting) (InOrder setting) {} ops)
    (hlost : 1 ∉ lostNumbers (outputs (step setting) {} ops).flatten) :
    Protocol setting (after (step setting) {} ops) (outputs (step setting) {} ops).flatten := by
  induction ops using List.reverseRecOn with
  | nil => exact protocol_init setting
  | append_singleton ops op ih =>
    obtain ⟨hbefore, hlast, -⟩ := (along_append _ _ _ _ _).1 horder
    rw [outputs_concat, flatten_append, flatten_singleton] at hlost ⊢
    rw [after_concat]
    exact protocol_step (ih hbefore (lost_left hlost)) hlast hlost

end

/-- While nothing overtakes the queued events and the first number arrives, the collector takes
every event and chunk that arrives once and counts exactly those that are lost. -/
theorem events_accounted (setting : Setting V) (ops : List (Op V))
    (horder : Along (step setting) (InOrder setting) {} ops)
    (hfirst : 1 ∉ lostNumbers (outputs (step setting) {} ops).flatten) :
    let sends := (outputs (step setting) {} ops).flatten
    let collector := (after (step setting) {} ops).collector
    collector.accepted = arrivedNumbers sends ∧ collector.accepted.Nodup ∧
      collector.rejectedDatagrams = 0 ∧
      collector.lastSourceSeq = collector.accepted.getLast?.getD 0 ∧
      collector.gaps.sum =
        ((lostNumbers sends).filter fun n => n < collector.lastSourceSeq).length ∧
      (lostNumbers sends = [] →
        collector.accepted = sentNumbers sends ∧ collector.gaps = []) := by
  intro sends collector
  have hprotocol := run_protocol setting ops horder hfirst
  have hledger := hprotocol.follows.ledger
  have haccepted : collector.accepted = arrivedNumbers sends := hledger.accepted
  refine ⟨haccepted, ?_, hprotocol.follows.tuned.rejected, haccepted ▸ hledger.last_eq,
    hledger.missed, ?_⟩
  · rw [haccepted]
    exact hledger.increasing.imp fun hlt => Nat.ne_of_lt hlt
  · intro hnone
    refine ⟨haccepted.trans (sentNumbers_of_lost_nil hnone).symm, ?_⟩
    rw [hnone] at hledger
    exact hledger.no_gaps

def smallSetting : Setting Unit where
  instanceId := "4f1c"
  pageSize := 4096
  encodedSize _ := 512

def someOwner : Owner := ⟨"WPS", "gui", by decide⟩

def someCallback (timestampNs nowMonoNs : ℤ) : PageCallback :=
  { tag := 1, access := ⟨8 * 2 ^ 20 + 1, 77, 0, 4096⟩, timestampNs := timestampNs
    nowMonoNs := nowMonoNs, nowNs := timestampNs, heartbeatDue := false, answers := [.arrives] }

def orderlyRun : List (Op Unit) :=
  [.track someOwner, .status false .arrives, .taggedEvent 1 (), .flushEvents [.arrives],
    .taggedEvent 1 (), .flushEvents [.lost], .pageAccess (someCallback 1500000000 10),
    .flushPageWindows 3000000000 false [.arrives]]

theorem orderlyRun_accounted :
    (after (step smallSetting) {} orderlyRun).collector.accepted = [1, 3] ∧
      (after (step smallSetting) {} orderlyRun).collector.gaps.sum = 1 := by
  have horder : Along (step smallSetting) (InOrder smallSetting) {} orderlyRun := by
    decide +kernel
  have hfirst : 1 ∉ lostNumbers (outputs (step smallSetting) {} orderlyRun).flatten := by
    decide +kernel
  obtain ⟨haccepted, -, -, -, hgaps, -⟩ := events_accounted smallSetting orderlyRun horder hfirst
  refine ⟨haccepted.trans ?_, hgaps.trans ?_⟩
  · decide +kernel
  · decide +kernel

def overtakingRun : List (Op Unit) :=
  [.track someOwner, .status false .arrives, .taggedEvent 1 (), .flushEvents [.arrives],
    .pageAccess (someCallback 1500000000 10), .taggedEvent 1 (),
    .pageAccess (someCallback 3500000000 60000000), .flushEvents [.arrives]]

theorem overtaken_event_rejected :
    ¬ ∀ (setting : Setting Unit) (ops : List (Op Unit)),
      lostNumbers (outputs (step setting) {} ops).flatten = [] →
        (after (step setting) {} ops).collector.accepted.Perm
            (sentNumbers (outputs (step setting) {} ops).flatten) ∧
          (after (step setting) {} ops).collector.gaps = [] := by
  intro h
  have hnone : lostNumbers (outputs (step smallSetting) {} overtakingRun).flatten = [] := by
    decide +kernel
  have hgaps : (after (step smallSetting) {} overtakingRun).collector.gaps ≠ [] := by
    decide +kernel
  exact hgaps (h smallSetting overtakingRun hnone).2

end Parp.EbpfFileEvents
