import Mathlib.Algebra.Order.Ring.Int
import Parp.FallibleFolds
import Parp.IntervalSearch
import Parp.KeyedTable

set_option autoImplicit false

/-!
# The two operation lookups

`get_wss_predictor` over its generated rows, `TableOperationLookup` over the JSON table they are
generated from, and `decode_result`. A C string is its bytes before the NUL.
-/
namespace Parp.OperationLookup

open IntervalSearch KeyedTable

inductive Status where
  | invalidArgument
  | notFound
  | missingFuture
  | dataUnavailable
  | unsupportedApp
deriving DecidableEq

def Status.code : Status → ℤ
  | .invalidArgument => -1
  | .notFound => -2
  | .missingFuture => -4
  | .dataUnavailable => -5
  | .unsupportedApp => -6

structure WssLookupRow where
  listNum : UInt32
  pressureGib : UInt32
  opId : UInt32
  wss : UInt64
  pgfault : UInt64
  validMask : UInt32
deriving DecidableEq

structure WssAppTable where
  name : List UInt8
  rows : List WssLookupRow
  maxOperation : UInt32

def lowerByte (a : UInt8) : UInt8 := if 65 ≤ a ∧ a ≤ 90 then a + 32 else a

def sameAppName : List UInt8 → List UInt8 → Bool
  | a :: left, b :: right => if lowerByte a ≠ lowerByte b then false else sameAppName left right
  | [], [] => true
  | _, _ => false

def findApp (appTables : List WssAppTable) (name : List UInt8) : Option WssAppTable :=
  appTables.find? fun table => sameAppName name table.name

def compareRow (seq pressure op : UInt32) (row : WssLookupRow) : Ordering :=
  if row.listNum = seq ∧ row.pressureGib = pressure ∧ row.opId = op then .eq
  else if row.listNum < seq ∨ (row.listNum = seq ∧ row.pressureGib < pressure) ∨
      (row.listNum = seq ∧ row.pressureGib = pressure ∧ row.opId < op) then .lt
  else .gt

def compareAt (rows : List WssLookupRow) (seq pressure op : UInt32) (i : ℕ) : Ordering :=
  match rows[i]? with
  | some row => compareRow seq pressure op row
  | none => .gt

def findRow (rows : List WssLookupRow) (seq pressure op : UInt32) : Option WssLookupRow :=
  (bisect (compareAt rows seq pressure op) 0 rows.length).bind fun i => rows[i]?

/-- The values for the operation `i + 1` after the current one. -/
def future (table : WssAppTable) (seq pressure op : UInt32) (i : ℕ) : Except Status (ℤ × ℤ) :=
  if (table.maxOperation - op).toNat ≤ i then .ok (-1, -1)
  else
    match findRow table.rows seq pressure (op + UInt32.ofNat i + 1) with
    | none => .error .missingFuture
    | some row =>
      if row.validMask &&& 3 ≠ 3 ∨ 0x7fffffffffffffff < row.wss ∨
          0x7fffffffffffffff < row.pgfault then .error .dataUnavailable
      else .ok (row.wss.toNat, row.pgfault.toNat)

def query (appTables : List WssAppTable) (appName : Option (List UInt8)) (seq op : UInt32)
    (pressure : UInt64) (wssBytes pagefault : Option ℕ) :
    Except Status (ℕ × ℕ × List (ℤ × ℤ)) :=
  match appName, wssBytes, pagefault with
  | some name, some wss, some fault =>
    if name = [] ∨ wss = fault ∨ seq = 0 ∨ op = 0 ∨
        (pressure ≠ 0 ∧ pressure ≠ 8 ∧ pressure ≠ 12 ∧ pressure ≠ 14) then
      .error .invalidArgument
    else if (List.range 4).any fun i => (List.range 4).any fun j => wss + i = fault + j then
      .error .invalidArgument
    else
      match findApp appTables name with
      | none => .error .unsupportedApp
      | some table =>
        if table.maxOperation < op then .error .invalidArgument
        else if (findRow table.rows seq pressure.toUInt32 op).isNone then .error .notFound
        else do
          let values ← (List.range 4).mapM (future table seq pressure.toUInt32 op)
          return (wss, fault, values)
  | _, _, _ => .error .invalidArgument

/-- `get_wss_predictor`: the memory holds a signed word at each address. -/
def getWssPredictor (appTables : List WssAppTable) (memory : ℕ → ℤ) (appName : Option (List UInt8))
    (seq op : UInt32) (pressure : UInt64) (wssBytes pagefault : Option ℕ) : ℤ × (ℕ → ℤ) :=
  match query appTables appName seq op pressure wssBytes pagefault with
  | .error status => (status.code, memory)
  | .ok (wss, fault, values) =>
    (0, values.zipIdx.foldl (fun memory v =>
      Function.update (Function.update memory (wss + v.2) v.1.1) (fault + v.2) v.1.2) memory)

structure LookupResult where
  rawWss : List ℤ
  rawPagefault : List ℤ
  wssBytes : List ℤ
  pagefault : List ℤ
  sourceKind : String := "external_library_unreported"
  wssUnit : String := "bytes"
deriving DecidableEq

def LookupResult.validCount (r : LookupResult) : ℕ := r.wssBytes.length

def integer (value minimum maximum : ℤ) : Except String ℤ :=
  if minimum ≤ value ∧ value ≤ maximum then .ok value
  else .error s!"integer in [{minimum}, {maximum}] required: {value}"

def u64Max : ℤ := 2 ^ 64 - 1

def i64Max : ℤ := 2 ^ 63 - 1

/-- `UNITS`. -/
def units (unit : String) : Option ℤ :=
  if unit = "bytes" then some 1
  else if unit = "kib" then some 1024
  else if unit = "mib" then some (1024 ^ 2)
  else if unit = "gib" then some (1024 ^ 3)
  else none

structure Decoded where
  validWss : List ℤ := []
  validFaults : List ℤ := []
  ended : Bool := false

def decodePair (scale : ℤ) (d : Decoded) (pair : ℤ × ℤ) : Except String Decoded := do
  let w ← integer pair.1 (-1) i64Max
  let f ← integer pair.2 (-1) i64Max
  if w = -1 ∨ f = -1 then
    if (w, f) ≠ (-1, -1) then .error "missing WSS and pagefault must both be -1"
    else return { d with ended := true }
  else if d.ended then .error "missing operations must be a trailing suffix"
  else
    let valid ← integer (w * scale) 0 u64Max
    return { d with validWss := d.validWss ++ [valid], validFaults := d.validFaults ++ [f] }

def decodeResult (wss pagefault : List ℤ) (unit : String) : Except String LookupResult :=
  match units unit with
  | none => .error "explicit WSS unit and two signed arrays of length four required"
  | some scale =>
    if wss.length ≠ 4 ∨ pagefault.length ≠ 4 then
      .error "explicit WSS unit and two signed arrays of length four required"
    else do
      let d ← (wss.zip pagefault).foldlM (decodePair scale) {}
      let _ ← integer d.validFaults.sum 0 u64Max
      return { rawWss := wss, rawPagefault := pagefault, wssBytes := d.validWss,
               pagefault := d.validFaults, wssUnit := unit }

structure Row where
  sequenceNum : ℤ
  opId : ℤ
  pressureGib : ℤ
  wssBytes : ℤ
  pagefault : Option ℤ
  sourceKind : String
deriving DecidableEq

def Row.key (r : Row) : ℤ × ℤ × ℤ := (r.sequenceNum, r.opId, r.pressureGib)

structure Table where
  schemaVersion : ℤ
  apiVersion : ℤ
  interfaceWssUnit : String
  records : List Row

def buckets : List ℤ := [0, 8, 12, 14]

def checkValues (row : Row) : Except String Unit := do
  let _ ← integer row.wssBytes 0 i64Max
  let _ ← row.pagefault.mapM fun f => integer f 0 i64Max
  if row.sourceKind ≠ "MEASURED" ∧ row.sourceKind ≠ "SIMULATED" then
    .error "missing table provenance"
  else return ()

def loadRow (rows : List Row) (row : Row) : Except String (List Row) := do
  let _ ← integer row.sequenceNum 1 30
  let _ ← integer row.opId 1 8
  let _ ← integer row.pressureGib 0 u64Max
  if row.pressureGib ∉ buckets ∨ Present Row.key row.key rows then
    .error "invalid/duplicate operation table key"
  else do
    checkValues row
    return rows ++ [row]

/-- `TableOperationLookup(table)`: the rows under their keys. -/
def tableOperationLookup (table : Table) : Except String (List Row) :=
  if table.schemaVersion ≠ 2 ∨ table.apiVersion ≠ 3 ∨ table.interfaceWssUnit ≠ "bytes" then
    .error "unsupported operation table"
  else do
    let rows ← table.records.foldlM loadRow []
    if rows.length ≠ 960 then .error "complete 30 x 8 x 4 operation table required"
    else return rows

/-- What the loop of `predict` reads for one later operation. -/
def futureRow (rows : List Row) (seq pressure op : ℤ) : Except String (ℤ × ℤ × String) :=
  match lookup Row.key (seq, op, pressure) rows with
  | none => .error "get_wss_predictor failed: ret=-4 (missing future record)"
  | some row =>
    match row.pagefault with
    | none => .error "get_wss_predictor failed: ret=-5 (data unavailable)"
    | some pagefault => .ok (row.wssBytes, pagefault, row.sourceKind)

def originText (origins : List String) : String :=
  if origins = [] then "END_OF_SEQUENCE"
  else "+".intercalate (["MEASURED", "SIMULATED"].filter (origins.contains ·))

def predictLater (rows : List Row) (seq op pressure : ℤ) : Except String LookupResult := do
  let count := (min (op + 4) 8 - op).toNat
  let values ← (List.range count).mapM fun i : ℕ => futureRow rows seq pressure (op + 1 + i)
  let wss := values.map fun v => v.1
  let faults := values.map fun v => v.2.1
  let result ← decodeResult (wss ++ List.replicate (4 - wss.length) (-1))
    (faults ++ List.replicate (4 - faults.length) (-1)) "bytes"
  return { result with sourceKind := originText (values.map fun v => v.2.2) }

def predict (lower : List Char → List Char) (rows : List Row) (appName : List Char)
    (seq op pressure : ℤ) : Except String LookupResult :=
  if appName = [] ∨ Char.ofNat 0 ∈ appName then
    .error "get_wss_predictor failed: ret=-1 (invalid argument)"
  else do
    let _ ← integer seq 0 (2 ^ 32 - 1)
    let _ ← integer op 0 (2 ^ 32 - 1)
    let _ ← integer pressure 0 u64Max
    if seq = 0 ∨ op = 0 ∨ pressure ∉ buckets then
      .error "get_wss_predictor failed: ret=-1 (invalid argument)"
    else if lower appName ≠ "gimp".toList then
      .error "get_wss_predictor failed: ret=-6 (unsupported application)"
    else if 8 < op then .error "get_wss_predictor failed: ret=-1 (invalid operation)"
    else if (lookup Row.key (seq, op, pressure) rows).isNone then
      .error "get_wss_predictor failed: ret=-2 (current record not found)"
    else predictLater rows seq op pressure

end Parp.OperationLookup
