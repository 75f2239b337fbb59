import Parp.EbpfPageWindows
import Parp.TransitionRuns

set_option autoImplicit false

/-!
# The file event helper and its collector

The helper numbers file events and page-window chunks with one counter. Its datagrams reach the
collector in the order they are sent, or not at all.
-/
namespace Parp.EbpfFileEvents

open TransitionRuns

/-- `values` are the fields of an event that nothing here reads. -/
structure FileEvent (V : Type) where
  sourceSeq : ℕ
  app : String
  values : V
deriving DecidableEq

inductive Datagram (V : Type)
  | eventBatch (events : List (FileEvent V))
  | pageWindow (sourceSeq : ℕ) (window : PageWindow)
  | sourceStatus (sourceSeq : ℕ)
deriving DecidableEq

/-- What becomes of a `sendto`; a send that is refused returns `False`. -/
inductive Answer
  | arrives | lost | refused | raises
deriving DecidableEq

/-- The same of a datagram; after a send that raised the others of its loop are not sent. -/
inductive Fate
  | arrived | lost | refused | raised | unsent
deriving DecidableEq

abbrev Sends (V : Type) := List (Datagram V × Fate)

section

variable {V : Type}

def maxDatagramBytes : ℕ := 64 * 1024
def pageCallbackMaintenanceNs : ℤ := 50000000

/-- `encodedSize` is the length of a message as JSON; `answers` are those of the sends of a run. -/
structure Helper (V : Type) where
  owners : List Owner := []
  sourceSeq : ℕ := 0
  pendingEvents : List (FileEvent V) := []
  windows : PageWindows := {}
  lastMaintenanceNs : ℤ := 0
  deliveryDrops : ℕ := 0
  unattributedEvents : ℕ := 0
  running : Bool := true

/-- `_tag_for`: the owner's place in the list is its tag. -/
def Helper.tagFor (h : Helper V) (owner : Owner) : Helper V :=
  if owner ∈ h.owners then h else { h with owners := h.owners ++ [owner] }

def Helper.ownerForTag (h : Helper V) : ℕ → Option Owner
  | 0 => none
  | tag + 1 => h.owners[tag]?

/-- `_send`. -/
def fateOf (encodedSize : Datagram V → ℕ) (d : Datagram V) (answer : Answer) : Fate :=
  if maxDatagramBytes < encodedSize d then .refused
  else
    match answer with
    | .arrives => .arrived
    | .lost => .lost
    | .refused => .refused
    | .raises => .raised

/-- `_send_tagged_event`. -/
def Helper.sendTaggedEvent (h : Helper V) (tag : ℕ) (values : V) : Helper V :=
  match h.ownerForTag tag with
  | none => { h with unattributedEvents := h.unattributedEvents + 1 }
  | some owner =>
    { h with
      sourceSeq := h.sourceSeq + 1
      pendingEvents := h.pendingEvents ++ [⟨h.sourceSeq + 1, owner.app, values⟩] }

/-- The batches of `_flush_events`, the first of them started already. -/
def batchesFrom (encodedSize : Datagram V → ℕ) :
    List (FileEvent V) → List (FileEvent V) → List (List (FileEvent V))
  | batch, [] => if batch = [] then [] else [batch]
  | batch, event :: events =>
    if batch ≠ [] ∧ maxDatagramBytes < encodedSize (.eventBatch (batch ++ [event])) then
      batch :: batchesFrom encodedSize [event] events
    else batchesFrom encodedSize (batch ++ [event]) events

def sendBatches (encodedSize : Datagram V → ℕ) :
    List Answer → List (List (FileEvent V)) → Sends V
  | _, [] => []
  | answers, batch :: batches =>
    let fate := fateOf encodedSize (.eventBatch batch) (answers.headD .refused)
    (.eventBatch batch, fate) ::
      if fate = .raised then batches.map fun batch => (.eventBatch batch, .unsent)
      else sendBatches encodedSize answers.tail batches

def droppedEvents (sends : Sends V) : ℕ :=
  (sends.map fun s =>
    match s with
    | (.eventBatch batch, .refused) => batch.length
    | _ => 0).sum

def raises (sends : Sends V) : Bool := sends.any fun s => s.2 = .raised

/-- `_flush_events`. -/
def Helper.flushEvents (encodedSize : Datagram V → ℕ) (h : Helper V) (answers : List Answer) :
    Sends V × Helper V :=
  let sends := sendBatches encodedSize answers (batchesFrom encodedSize [] h.pendingEvents)
  (sends,
    { h with
      pendingEvents := []
      deliveryDrops := h.deliveryDrops + droppedEvents sends })

def sendChunks (encodedSize : Datagram V → ℕ) :
    Helper V → List Answer → List PageWindow → Sends V × Helper V × List Answer
  | h, answers, [] => ([], h, answers)
  | h, answers, window :: windows =>
    let d := Datagram.pageWindow (h.sourceSeq + 1) window
    let fate := fateOf encodedSize d (answers.headD .refused)
    let h :=
      { h with
        sourceSeq := h.sourceSeq + 1
        deliveryDrops := h.deliveryDrops + if fate = .refused then 1 else 0 }
    if fate = .raised then ([(d, fate)], h, answers.tail)
    else
      let rest := sendChunks encodedSize h answers.tail windows
      ((d, fate) :: rest.1, rest.2)

def flushWindows (encodedSize : Datagram V → ℕ) (pageSize : ℤ) :
    Helper V → List Answer → List WindowKey → Sends V × Helper V × List Answer
  | h, answers, [] => ([], h, answers)
  | h, answers, key :: keys =>
    let grouped := (h.windows.ranges.get? key).getD ∅
    let eventCount := (h.windows.eventCounts.get? key).getD 0
    let sent := sendChunks encodedSize { h with windows := h.windows.pop key } answers
      (windowMessages pageSize key eventCount grouped)
    if raises sent.1 then sent
    else
      let rest := flushWindows encodedSize pageSize sent.2.1 sent.2.2 keys
      (sent.1 ++ rest.1, rest.2)

/-- `_flush_page_windows`. -/
def Helper.flushPageWindows (encodedSize : Datagram V → ℕ) (pageSize : ℤ) (h : Helper V)
    (nowNs : ℤ) (force : Bool) (answers : List Answer) : Sends V × Helper V × List Answer :=
  flushWindows encodedSize pageSize h answers (h.windows.ready nowNs force)

/-- `_send_status`. -/
def Helper.sendStatus (encodedSize : Datagram V → ℕ) (h : Helper V) (answer : Answer) : Sends V :=
  [(.sourceStatus h.sourceSeq, fateOf encodedSize (.sourceStatus h.sourceSeq) answer)]

/-- What a page access callback reads: its event, the wall clock and the monotonic one. -/
structure PageCallback where
  tag : ℕ
  access : PageAccess
  timestampNs : ℤ
  nowMonoNs : ℤ
  nowNs : ℤ
  heartbeatDue : Bool
  answers : List Answer

def Helper.notePageAccess (pageSize : ℤ) (h : Helper V) (c : PageCallback) : Helper V × Bool :=
  match h.ownerForTag c.tag with
  | none => ({ h with unattributedEvents := h.unattributedEvents + 1 }, false)
  | some owner =>
    if ¬ c.access.Valid then (h, false)
    else
      let key := (c.timestampNs - c.timestampNs % pageWindowNs, owner.app)
      let h := { h with windows := h.windows.aggregate pageSize key c.access }
      if pageCallbackMaintenanceNs ≤ c.nowMonoNs - h.lastMaintenanceNs then
        ({ h with lastMaintenanceNs := c.nowMonoNs }, true)
      else (h, false)

/-- `_aggregate_page_access`. -/
def Helper.aggregatePageAccess (encodedSize : Datagram V → ℕ) (pageSize : ℤ) (h : Helper V)
    (c : PageCallback) : Sends V × Helper V :=
  let noted := h.notePageAccess pageSize c
  if noted.2 = false then ([], noted.1)
  else
    let flushed := noted.1.flushPageWindows encodedSize pageSize c.nowNs false c.answers
    if raises flushed.1 then (flushed.1, flushed.2.1)
    else if c.heartbeatDue then
      (flushed.1 ++ flushed.2.1.sendStatus encodedSize (flushed.2.2.headD .refused), flushed.2.1)
    else (flushed.1, flushed.2.1)

end

section

variable {V : Type}

/-- `accepted` are the numbers of the rows that were taken, `gaps` the missed counts reported. -/
structure Collector where
  sourceInstanceId : String := ""
  lastSourceSeq : ℕ := 0
  accepted : List ℕ := []
  gaps : List ℕ := []
  rejectedDatagrams : ℕ := 0

def Collector.reject (c : Collector) : Collector :=
  { c with rejectedDatagrams := c.rejectedDatagrams + 1 }

def Collector.seeInstance (c : Collector) (instanceId : String) : Collector :=
  if instanceId ≠ "" ∧ instanceId ≠ c.sourceInstanceId then
    { c with sourceInstanceId := instanceId, lastSourceSeq := 0 }
  else c

def Collector.acceptSourceWatermark (c : Collector) (instanceId : String) (watermark : ℕ) :
    Collector :=
  let c := c.seeInstance instanceId
  if c.lastSourceSeq = 0 ∧ 0 < watermark then { c with lastSourceSeq := watermark } else c

def Collector.acceptFileSequence (c : Collector) (instanceId : String) (seq : ℕ) :
    Bool × Collector :=
  let c := c.seeInstance instanceId
  if seq = 0 then (false, c.reject)
  else if c.lastSourceSeq ≠ 0 ∧ c.lastSourceSeq + 1 < seq then
    (true, { c with gaps := c.gaps ++ [seq - c.lastSourceSeq - 1], lastSourceSeq := seq })
  else if seq ≤ c.lastSourceSeq then (false, c.reject)
  else (true, { c with lastSourceSeq := seq })

/-- `_accept_file_event_payload` and `_accept_page_window_payload`. -/
def Collector.acceptPayload (instanceId : String) (c : Collector) (payload : ℕ × String) :
    Collector :=
  let taken := c.acceptFileSequence instanceId payload.1
  if taken.1 = false then taken.2
  else if payload.2 = "" then taken.2.reject
  else { taken.2 with accepted := taken.2.accepted ++ [payload.1] }

/-- `_receive_one`. -/
def Collector.receive (instanceId : String) (c : Collector) : Datagram V → Collector
  | .eventBatch events =>
    (events.map fun e => (e.sourceSeq, e.app)).foldl (Collector.acceptPayload instanceId) c
  | .pageWindow sourceSeq window => c.acceptPayload instanceId (sourceSeq, window.app)
  | .sourceStatus sourceSeq => c.acceptSourceWatermark instanceId sourceSeq

def Collector.receiveAll (instanceId : String) (c : Collector) (sends : Sends V) : Collector :=
  sends.foldl (fun c s => if s.2 = .arrived then c.receive instanceId s.1 else c) c

end

section

/-- The instance of the helper, its page size and the encoded lengths of its messages. -/
structure Setting (V : Type) where
  instanceId : String
  pageSize : ℤ
  encodedSize : Datagram V → ℕ

structure System (V : Type) where
  helper : Helper V := {}
  collector : Collector := {}

/-- A status is sent by a callback, or by the main loop, which a raised error ends. -/
inductive Op (V : Type)
  | track (owner : Owner)
  | taggedEvent (tag : ℕ) (values : V)
  | pageAccess (callback : PageCallback)
  | flushEvents (answers : List Answer)
  | flushPageWindows (nowNs : ℤ) (force : Bool) (answers : List Answer)
  | status (inCallback : Bool) (answer : Answer)

variable {V : Type}

def helperStep (setting : Setting V) (h : Helper V) : Op V → Sends V × Helper V
  | .track owner => ([], h.tagFor owner)
  | .taggedEvent tag values => ([], h.sendTaggedEvent tag values)
  | .pageAccess callback => h.aggregatePageAccess setting.encodedSize setting.pageSize callback
  | .flushEvents answers =>
    let flushed := h.flushEvents setting.encodedSize answers
    (flushed.1, { flushed.2 with running := ! raises flushed.1 })
  | .flushPageWindows nowNs force answers =>
    let flushed := h.flushPageWindows setting.encodedSize setting.pageSize nowNs force answers
    (flushed.1, { flushed.2.1 with running := ! raises flushed.1 })
  | .status inCallback answer =>
    let sends := h.sendStatus setting.encodedSize answer
    (sends, { h with running := inCallback || ! raises sends })

def step (setting : Setting V) (s : System V) (op : Op V) : Sends V × System V :=
  if s.helper.running = false then ([], s)
  else
    let sent := helperStep setting s.helper op
    (sent.1, { helper := sent.2, collector := s.collector.receiveAll setting.instanceId sent.1 })

end

end Parp.EbpfFileEvents
