import Parp.MergedIntervals
import Parp.OrderedDict

set_option autoImplicit false

/-!
# Page windows of the file event helper

Page accesses are kept as page intervals by window, application and file, and are sent as ranges in
chunks once the window is over.
-/
namespace Parp.EbpfFileEvents

open MergedIntervals OrderedDict

def pageWindowNs : ℤ := 1000000000
def pageWindowFlushDelayNs : ℤ := 100000000
def pageRangesPerChunk : ℕ := 400

/-- The owner of a tag; `SYNC_PROCESSES` keeps no process without an application. -/
structure Owner where
  app : String
  role : String
  named : app ≠ ""
deriving DecidableEq

structure FileKey where
  deviceMajor : ℕ
  deviceMinor : ℕ
  inode : ℤ
deriving DecidableEq

def fileLe (f g : FileKey) : Prop :=
  f.deviceMajor < g.deviceMajor ∨ f.deviceMajor = g.deviceMajor ∧
    (f.deviceMinor < g.deviceMinor ∨ f.deviceMinor = g.deviceMinor ∧ f.inode ≤ g.inode)

instance : DecidableRel fileLe := fun _ _ => inferInstanceAs (Decidable (_ ∨ _))

/-- The file of a kernel `dev_t` and an inode. -/
def fileKey (device inode : ℤ) : FileKey where
  deviceMajor := device.toNat / 2 ^ 20
  deviceMinor := device.toNat % 2 ^ 20
  inode := inode

structure PageAccess where
  device : ℤ
  inode : ℤ
  offset : ℤ
  size : ℤ

def PageAccess.Valid (a : PageAccess) : Prop := 0 < a.inode ∧ 0 ≤ a.offset ∧ 0 < a.size

instance (a : PageAccess) : Decidable a.Valid := inferInstanceAs (Decidable (_ ∧ _))

def PageAccess.interval (pageSize : ℤ) (a : PageAccess) : ℤ × ℤ :=
  (a.offset / pageSize, (a.offset + a.size - 1) / pageSize)

abbrev Grouped := Dict FileKey (List (ℤ × ℤ))

abbrev WindowKey := ℤ × String

def windowLe (k l : WindowKey) : Prop := k.1 < l.1 ∨ k.1 = l.1 ∧ k.2 ≤ l.2

instance : DecidableRel windowLe := fun _ _ => inferInstanceAs (Decidable (_ ∨ _))

/-- `page_window_ranges` and `page_window_event_counts`. -/
structure PageWindows where
  ranges : Dict WindowKey Grouped := ∅
  eventCounts : Dict WindowKey ℕ := ∅

def appendInterval (grouped : Grouped) (file : FileKey) (interval : ℤ × ℤ) : Grouped :=
  grouped.set file ((grouped.get? file).getD [] ++ [interval])

/-- `_aggregate_page_access` without the maintenance at its end. -/
def PageWindows.aggregate (pageSize : ℤ) (w : PageWindows) (key : WindowKey) (a : PageAccess) :
    PageWindows where
  ranges := w.ranges.set key
    (appendInterval ((w.ranges.get? key).getD ∅) (fileKey a.device a.inode) (a.interval pageSize))
  eventCounts := w.eventCounts.set key ((w.eventCounts.get? key).getD 0 + 1)

structure PageRange where
  deviceMajor : ℕ
  deviceMinor : ℕ
  inode : ℤ
  startPageIndex : ℤ
  pageCount : ℤ
deriving DecidableEq

def pageRange (file : FileKey) (interval : ℤ × ℤ) : PageRange where
  deviceMajor := file.deviceMajor
  deviceMinor := file.deviceMinor
  inode := file.inode
  startPageIndex := interval.1
  pageCount := interval.2 - interval.1 + 1

structure Compressed where
  ranges : List PageRange := []
  uniquePageCount : ℤ := 0
  repeatedPageHits : ℤ := 0

def totalPages (intervals : List (ℤ × ℤ)) : ℤ := (intervals.map fun i => i.2 - i.1 + 1).sum

def compressFile (c : Compressed) (file : FileKey) (intervals : List (ℤ × ℤ)) : Compressed :=
  if intervals = [] then c
  else
    let merged := merge intervals
    let unique := totalPages merged
    { ranges := c.ranges ++ merged.map (pageRange file)
      uniquePageCount := c.uniquePageCount + unique
      repeatedPageHits := c.repeatedPageHits + max 0 (totalPages intervals - unique) }

def compressedPageRanges (grouped : Grouped) : Compressed :=
  (grouped.items.insertionSort fun e f => fileLe e.1 f.1).foldl
    (fun c e => compressFile c e.1 e.2) {}

/-- A `PAGE_ACCESS_WINDOW` message, but for its number. -/
structure PageWindow where
  timestampNs : ℤ
  app : String
  windowStartNs : ℤ
  windowEndNs : ℤ
  pageSize : ℤ
  pageCount : ℤ
  pageAccessEvents : ℕ
  repeatedPageHits : ℤ
  chunkIndex : ℕ
  chunkCount : ℕ
  pageRanges : List PageRange
deriving DecidableEq

/-- The slices of a list by `n`. -/
def slices {α : Type} (n : ℕ) (xs : List α) : List (List α) :=
  (List.range ((xs.length + n - 1) / n)).map fun i => (xs.drop (i * n)).take n

def chunkMessages (pageSize : ℤ) (key : WindowKey) (eventCount : ℕ) (c : Compressed)
    (chunks : List (List PageRange)) : List PageWindow :=
  chunks.zipIdx.map fun chunk =>
    { timestampNs := key.1 + pageWindowNs
      app := key.2
      windowStartNs := key.1
      windowEndNs := key.1 + pageWindowNs
      pageSize := pageSize
      pageCount := c.uniquePageCount
      pageAccessEvents := if chunk.2 = 0 then eventCount else 0
      repeatedPageHits := if chunk.2 = 0 then c.repeatedPageHits else 0
      chunkIndex := chunk.2
      chunkCount := chunks.length
      pageRanges := chunk.1 }

def windowMessages (pageSize : ℤ) (key : WindowKey) (eventCount : ℕ) (grouped : Grouped) :
    List PageWindow :=
  let c := compressedPageRanges grouped
  chunkMessages pageSize key eventCount c (slices pageRangesPerChunk c.ranges)

def PageWindows.ready (w : PageWindows) (nowNs : ℤ) (force : Bool) : List WindowKey :=
  ((w.ranges.items.map Prod.fst).filter fun key =>
    force ∨ key.1 + pageWindowNs ≤ nowNs - pageWindowFlushDelayNs).insertionSort windowLe

def PageWindows.pop (w : PageWindows) (key : WindowKey) : PageWindows where
  ranges := w.ranges.erase key
  eventCounts := w.eventCounts.erase key

end Parp.EbpfFileEvents
