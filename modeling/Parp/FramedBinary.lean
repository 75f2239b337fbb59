import Parp.FallibleFolds
import Parp.Words

set_option autoImplicit false

/-!
# Framed binary logs

`FramedBinaryWriter` and `read_framed_binary`; a file is its bytes, and what `json` and `zlib` do is
a `Codec`.
-/
namespace Parp.FramedBinary

open LittleEndian List

variable {R : Type}

inductive Value (R : Type) where
  | dict (record : R)
  | list (records : List R)

def Value.rows : Value R → List R
  | .dict record => [record]
  | .list records => records

structure Codec (R : Type) where
  dumps : Value R → List UInt8
  loads : List UInt8 → Option (Value R)
  compress : List UInt8 → List UInt8
  decompress : List UInt8 → Option (List UInt8)
  crc32 : List UInt8 → UInt32

structure Codec.Lawful (codec : Codec R) : Prop where
  loads_dumps : ∀ value, codec.loads (codec.dumps value) = some value
  decompress_compress : ∀ raw, codec.decompress (codec.compress raw) = some raw

inductive BinaryError where
  | valueError (message : String)
  | structError
  | decodeError
deriving DecidableEq

variable (codec : Codec R)

structure Writer where
  file : List UInt8 := []
  frames : ℕ := 0

def packFileHeader (magic header : List UInt8) : List UInt8 :=
  magic ++ encode 2 1 ++ encode 2 1 ++ encode 4 header.length ++
    encode 4 (codec.crc32 header).toNat

/-- `FramedBinaryWriter(fd, magic=magic, metadata=metadata)` on an empty file. -/
def newWriter (magic : List UInt8) (metadata : R) : Except BinaryError Writer :=
  if magic.length ≠ 8 then .error (.valueError "binary magic must be exactly eight bytes")
  else
    let header := codec.dumps (.dict metadata)
    -- `struct.pack` refuses a length of more than 32 bits
    if 2 ^ 32 ≤ header.length then .error .structError
    else .ok { file := packFileHeader codec magic header ++ header }

def payloadOf (value : Value R) : List UInt8 := codec.compress (codec.dumps value)

def packFrame (payload : List UInt8) : List UInt8 :=
  encode 4 payload.length ++ encode 4 (codec.crc32 payload).toNat ++ payload

def writePayload (w : Writer) (value : Value R) : Except BinaryError Writer :=
  let payload := payloadOf codec value
  if 2 ^ 32 ≤ payload.length then .error .structError
  else .ok { file := w.file ++ packFrame codec payload, frames := w.frames + 1 }

inductive Call (R : Type) where
  | write (record : R)
  | writeMany (records : List R)

def write (w : Writer) (record : R) : Except BinaryError Writer :=
  writePayload codec w (.dict record)

def writeMany (w : Writer) (records : List R) : Except BinaryError Writer :=
  if records.isEmpty then .ok w else writePayload codec w (.list records)

def runCall (w : Writer) : Call R → Except BinaryError Writer
  | .write record => write codec w record
  | .writeMany records => writeMany codec w records

def rowsOf : Call R → List R
  | .write record => [record]
  | .writeMany records => records

/-- The writer after some calls, and the records that were written: those of calls that return. -/
def runCalls (w : Writer) (written : List R) : List (Call R) → Writer × List R
  | [] => (w, written)
  | call :: calls =>
    match runCall codec w call with
    | .ok w' => runCalls w' (written ++ rowsOf call) calls
    | .error _ => runCalls w written calls

inductive NextFrame (R : Type) where
  | finished
  | truncated (message : String)
  | failed (error : BinaryError)
  | frame (value : Value R) (rest : List UInt8)

def nextFrame (bytes : List UInt8) : NextFrame R :=
  let frameHeader := bytes.take 8
  if frameHeader.isEmpty then .finished
  else if frameHeader.length ≠ 8 then .truncated "truncated frame header"
  else
    let length := decode (frameHeader.take 4)
    let checksum := decode (frameHeader.drop 4)
    let payload := (bytes.drop 8).take length
    if payload.length ≠ length then .truncated "truncated frame payload"
    else if (codec.crc32 payload).toNat ≠ checksum then .failed (.valueError "invalid frame CRC")
    else
      match (codec.decompress payload).bind codec.loads with
      | none => .failed .decodeError
      | some decoded => .frame decoded ((bytes.drop 8).drop length)

theorem nextFrame_shorter {bytes rest : List UInt8} {value : Value R}
    (h : nextFrame codec bytes = .frame value rest) : rest.length < bytes.length := by
  unfold nextFrame at h
  dsimp only at h
  split_ifs at h with hempty hheader hpayload hcrc
  cases hdecoded : (codec.decompress ((bytes.drop 8).take
      (decode ((bytes.take 8).take 4)))).bind codec.loads with
  | none =>
    rw [hdecoded] at h
    cases h
  | some decoded =>
    rw [hdecoded] at h
    cases h
    rw [not_not, length_take] at hheader
    rw [length_drop, length_drop]
    omega

def readFrames (recoverTruncated : Bool) (bytes : List UInt8) (rows : List R) :
    Except BinaryError (Bool × List R) :=
  match _h : nextFrame codec bytes with
  | .finished => .ok (false, rows)
  | .truncated message =>
    if recoverTruncated then .ok (true, rows) else .error (.valueError message)
  | .failed error => .error error
  | .frame value rest => readFrames recoverTruncated rest (rows ++ value.rows)
termination_by bytes.length
decreasing_by exact nextFrame_shorter codec _h

structure Log (R : Type) where
  metadata : Value R
  magic : List UInt8
  truncatedTailRecovered : Bool
  rows : List R

def readFramedBinary (recoverTruncated : Bool) (file : List UInt8) : Except BinaryError (Log R) :=
  let fixed := file.take 20
  if fixed.length ≠ 20 then .error (.valueError "truncated binary header")
  else
    let magic := fixed.take 8
    let version := decode ((fixed.drop 8).take 2)
    let flags := decode ((fixed.drop 10).take 2)
    let headerLen := decode ((fixed.drop 12).take 4)
    let headerCrc := decode ((fixed.drop 16).take 4)
    if version ≠ 1 ∨ flags ≠ 1 then
      .error (.valueError s!"unsupported binary schema version={version} flags={flags}")
    else
      let header := (file.drop 20).take headerLen
      if header.length ≠ headerLen ∨ (codec.crc32 header).toNat ≠ headerCrc then
        .error (.valueError "invalid binary metadata CRC")
      else
        match codec.loads header with
        | none => .error .decodeError
        | some metadata => do
            let (recovered, rows) ← readFrames codec recoverTruncated
              ((file.drop 20).drop headerLen) []
            return ⟨metadata, magic, recovered, rows⟩

end Parp.FramedBinary

/-!
# Reading framed logs back
-/
namespace Parp.FramedBinary

open LittleEndian List

variable {R : Type} {codec : Codec R}

section

variable {recover : Bool} {bytes : List UInt8} {rows : List R}

theorem readFrames_finished (h : nextFrame codec bytes = .finished) :
    readFrames codec recover bytes rows = .ok (false, rows) := by
  rw [readFrames]
  split <;> simp_all

theorem readFrames_truncated {message : String} (h : nextFrame codec bytes = .truncated message) :
    readFrames codec recover bytes rows =
      if recover then .ok (true, rows) else .error (.valueError message) := by
  rw [readFrames]
  split <;> simp_all

theorem readFrames_failed {e : BinaryError} (h : nextFrame codec bytes = .failed e) :
    readFrames codec recover bytes rows = .error e := by
  rw [readFrames]
  split <;> simp_all

theorem readFrames_frame {value : Value R} {rest : List UInt8}
    (h : nextFrame codec bytes = .frame value rest) :
    readFrames codec recover bytes rows = readFrames codec recover rest (rows ++ value.rows) := by
  rw [readFrames]
  split <;> simp_all

end

theorem nextFrame_header {a b : List UInt8} (ha : a.length = 4) (hb : b.length = 4)
    (rest : List UInt8) :
    nextFrame codec (a ++ b ++ rest) =
      if (rest.take (decode a)).length ≠ decode a then .truncated "truncated frame payload"
      else if (codec.crc32 (rest.take (decode a))).toNat ≠ decode b then
        .failed (.valueError "invalid frame CRC")
      else
        match (codec.decompress (rest.take (decode a))).bind codec.loads with
        | none => .failed .decodeError
        | some decoded => .frame decoded (rest.drop (decode a)) := by
  have hlength : (a ++ b).length = 8 := by rw [length_append, ha, hb]
  have htake : (a ++ b ++ rest).take 8 = a ++ b := take_left' hlength
  have hdrop : (a ++ b ++ rest).drop 8 = rest := drop_left' hlength
  have hempty : ¬ (a ++ b).isEmpty = true := by
    rw [List.isEmpty_iff]
    intro h
    rw [h] at hlength
    cases hlength
  unfold nextFrame
  rw [htake, hdrop]
  dsimp only
  rewrite [if_neg hempty, if_neg (not_not.2 hlength), take_left' ha, drop_left' ha]
  rfl

theorem nextFrame_short {bytes : List UInt8} (hne : bytes ≠ []) (h : bytes.length < 8) :
    nextFrame codec bytes = .truncated "truncated frame header" := by
  have htake : bytes.take 8 = bytes := take_of_length_le (by omega)
  unfold nextFrame
  rw [htake]
  dsimp only
  rw [if_neg (by simpa using hne), if_pos (by omega)]

theorem nextFrame_nil : nextFrame codec [] = .finished := rfl

def frameOf (codec : Codec R) (value : Value R) : List UInt8 :=
  packFrame codec (payloadOf codec value)

def Fits (codec : Codec R) (value : Value R) : Prop := (payloadOf codec value).length < 2 ^ 32

theorem decode_length {value : Value R} (hfits : Fits codec value) :
    decode (encode 4 (payloadOf codec value).length) = (payloadOf codec value).length :=
  decode_encode hfits

theorem decode_crc (payload : List UInt8) :
    decode (encode 4 (codec.crc32 payload).toNat) = (codec.crc32 payload).toNat :=
  decode_encode (codec.crc32 payload).toNat_lt

theorem frameOf_length (value : Value R) :
    (frameOf codec value).length = 8 + (payloadOf codec value).length := by
  unfold frameOf packFrame
  rw [length_append, length_append, encode_length, encode_length]

theorem nextFrame_frameOf (hcodec : codec.Lawful) {value : Value R} (hfits : Fits codec value)
    (rest : List UInt8) : nextFrame codec (frameOf codec value ++ rest) = .frame value rest := by
  have htake : (payloadOf codec value ++ rest).take (payloadOf codec value).length =
      payloadOf codec value := take_left
  have hdecoded : (codec.decompress (payloadOf codec value)).bind codec.loads = some value := by
    unfold payloadOf
    rw [hcodec.decompress_compress, Option.bind_some, hcodec.loads_dumps]
  unfold frameOf packFrame
  rw [append_assoc, nextFrame_header (encode_length 4 _) (encode_length 4 _),
    decode_length hfits, decode_crc, htake, if_neg (not_not.2 rfl), if_neg (not_not.2 rfl), hdecoded,
    drop_left]

theorem nextFrame_cut {value : Value R} (hfits : Fits codec value) {n : ℕ} (hpositive : 0 < n)
    (hcut : n < (frameOf codec value).length) :
    ∃ message, nextFrame codec ((frameOf codec value).take n) = .truncated message := by
  have hlength : ((frameOf codec value).take n).length = n := length_take_of_le hcut.le
  by_cases hheader : n < 8
  · refine ⟨_, nextFrame_short (fun hnil => ?_) (by omega)⟩
    rw [hnil] at hlength
    exact hpositive.ne hlength
  · refine ⟨"truncated frame payload", ?_⟩
    have hheaderLength : (encode 4 (payloadOf codec value).length ++
        encode 4 (codec.crc32 (payloadOf codec value)).toNat).length = 8 := by simp
    have hpayload : (frameOf codec value).take n =
        encode 4 (payloadOf codec value).length ++
          encode 4 (codec.crc32 (payloadOf codec value)).toNat ++
            (payloadOf codec value).take (n - 8) := by
      unfold frameOf packFrame
      rw [take_append, hheaderLength, take_of_length_le (by omega)]
    have hshort : (((payloadOf codec value).take (n - 8)).take
        (payloadOf codec value).length).length ≠ (payloadOf codec value).length := by
      rw [frameOf_length] at hcut
      simp only [length_take]
      omega
    rw [hpayload, nextFrame_header (encode_length 4 _) (encode_length 4 _), decode_length hfits,
      if_pos hshort]

theorem readFrames_values (hcodec : codec.Lawful) {values : List (Value R)}
    (hfits : ∀ v ∈ values, Fits codec v) (recover : Bool) (tail : List UInt8) (rows : List R) :
    readFrames codec recover (values.flatMap (frameOf codec) ++ tail) rows =
      readFrames codec recover tail (rows ++ values.flatMap Value.rows) := by
  induction values generalizing rows with
  | nil => simp
  | cons value values ih =>
    have hnext := nextFrame_frameOf hcodec (hfits value (.head _))
      (values.flatMap (frameOf codec) ++ tail)
    rw [flatMap_cons, append_assoc, readFrames_frame hnext,
      ih fun v hv => hfits v (.tail _ hv), flatMap_cons, append_assoc]

section

variable (codec)

/-- The values of the frames that end within the first `n` bytes. -/
def contained (n : ℕ) : List (Value R) → List (Value R)
  | [] => []
  | v :: values =>
    if (frameOf codec v).length ≤ n then
      v :: contained (n - (frameOf codec v).length) values
    else []

def boundary (n : ℕ) (values : List (Value R)) : ℕ :=
  ((contained codec n values).flatMap (frameOf codec)).length

variable {codec}

theorem contained_subset (n : ℕ) (values : List (Value R)) :
    ∀ v ∈ contained codec n values, v ∈ values := by
  induction values generalizing n with
  | nil => exact fun _ h => h
  | cons value values ih =>
    intro v hv
    unfold contained at hv
    split_ifs at hv
    · rcases mem_cons.1 hv with rfl | hv
      · exact .head _
      · exact .tail _ (ih _ v hv)
    · cases hv

theorem take_frames {values : List (Value R)} {n : ℕ}
    (h : n ≤ (values.flatMap (frameOf codec)).length) :
    (values.flatMap (frameOf codec)).take n = (contained codec n values).flatMap (frameOf codec) ∧
        boundary codec n values = n ∨
      ∃ v ∈ values, ∃ m, 0 < m ∧ m < (frameOf codec v).length ∧
        (values.flatMap (frameOf codec)).take n =
          (contained codec n values).flatMap (frameOf codec) ++ (frameOf codec v).take m ∧
        boundary codec n values < n := by
  unfold boundary
  induction values generalizing n with
  | nil =>
    obtain rfl : n = 0 := by simpa using h
    exact .inl ⟨rfl, rfl⟩
  | cons value values ih =>
    rw [flatMap_cons, length_append] at h
    unfold contained
    split_ifs with hwhole
    · have htake : (frameOf codec value ++ values.flatMap (frameOf codec)).take n =
          frameOf codec value ++
            (values.flatMap (frameOf codec)).take (n - (frameOf codec value).length) := by
        rw [take_append, take_of_length_le hwhole]
      rw [flatMap_cons, flatMap_cons, htake, length_append]
      rcases @ih (n - (frameOf codec value).length) (by omega) with
        ⟨hsame, hboundary⟩ | ⟨v, hv, m, hpositive, hcut, hsame, hboundary⟩
      · exact .inl ⟨by rw [hsame], by omega⟩
      · exact .inr ⟨v, .tail _ hv, m, hpositive, hcut, by rw [hsame, append_assoc],
          by omega⟩
    · rw [flatMap_cons, take_append_of_le_length (by omega)]
      by_cases hzero : n = 0
      · subst hzero
        exact .inl ⟨rfl, rfl⟩
      · exact .inr ⟨value, .head _, n, by omega, by omega, rfl, Nat.pos_of_ne_zero hzero⟩

theorem readFrames_take (hcodec : codec.Lawful) {values : List (Value R)}
    (hfits : ∀ v ∈ values, Fits codec v) {n : ℕ}
    (h : n ≤ (values.flatMap (frameOf codec)).length) (recover : Bool) :
    if boundary codec n values < n ∧ recover = false then
      ∃ message, readFrames codec recover ((values.flatMap (frameOf codec)).take n) [] =
        .error (.valueError message)
    else
      readFrames codec recover ((values.flatMap (frameOf codec)).take n) [] =
        .ok (decide (boundary codec n values < n),
          (contained codec n values).flatMap Value.rows) := by
  have hcontained : ∀ v ∈ contained codec n values, Fits codec v := fun v hv =>
    hfits v (contained_subset n values v hv)
  rcases take_frames h with ⟨hsame, hboundary⟩ | ⟨v, hv, m, hpositive, hcut, hsame, hboundary⟩
  · have hread := readFrames_values hcodec hcontained recover [] []
    rw [append_nil, readFrames_finished nextFrame_nil] at hread
    rw [if_neg (by omega), hsame, hread, hboundary, decide_eq_false (lt_irrefl n)]
    rfl
  · obtain ⟨message, htruncated⟩ := nextFrame_cut (hfits v hv) hpositive hcut
    have hread := readFrames_values hcodec hcontained recover ((frameOf codec v).take m) []
    rw [readFrames_truncated htruncated] at hread
    cases recover with
    | false =>
      rw [if_pos ⟨hboundary, rfl⟩, hsame]
      exact ⟨message, hread⟩
    | true =>
      rw [if_neg (by simp), hsame, hread, decide_eq_true hboundary]
      rfl

end

def storedLength (frame : List UInt8) : ℕ := decode (frame.take 4)

def storedCrc (frame : List UInt8) : ℕ := decode ((frame.drop 4).take 4)

def Detected (codec : Codec R) (frame rest : List UInt8) : Prop :=
  (codec.crc32 ((frame.drop 8 ++ rest).take (storedLength frame))).toNat ≠ storedCrc frame

theorem frame_split (frame rest : List UInt8) :
    frame ++ rest = frame.take 4 ++ (frame.drop 4).take 4 ++ (frame.drop 8 ++ rest) := by
  have hmiddle : (frame.drop 4).take 4 ++ frame.drop 8 = frame.drop 4 := by
    have hdrop : frame.drop 8 = (frame.drop 4).drop 4 := by rw [drop_drop]
    rw [hdrop, take_append_drop]
  rw [append_assoc, ← append_assoc _ (frame.drop 8), hmiddle, ← append_assoc,
    take_append_drop]

theorem nextFrame_damaged {frame rest : List UInt8} (h : 8 ≤ frame.length)
    (hdetected : Detected codec frame rest) :
    nextFrame codec (frame ++ rest) =
      if storedLength frame ≤ (frame.drop 8 ++ rest).length then
        .failed (.valueError "invalid frame CRC")
      else .truncated "truncated frame payload" := by
  have ha : (frame.take 4).length = 4 := length_take_of_le (by omega)
  have hb : ((frame.drop 4).take 4).length = 4 := by
    rw [length_take, length_drop]
    omega
  have hread : ((frame.drop 8 ++ rest).take (storedLength frame)).length ≠ storedLength frame ↔
      ¬ storedLength frame ≤ (frame.drop 8 ++ rest).length := by
    rw [length_take]
    omega
  rw [frame_split, nextFrame_header ha hb, ← storedLength, ← storedCrc]
  by_cases hshort : storedLength frame ≤ (frame.drop 8 ++ rest).length
  · unfold Detected at hdetected
    rw [if_neg (fun h => hread.1 h hshort), if_pos hdetected, if_pos hshort]
  · rw [if_pos (hread.2 hshort), if_neg hshort]

theorem readFrames_damaged (hcodec : codec.Lawful) {values : List (Value R)}
    (hfits : ∀ v ∈ values, Fits codec v) {frame rest : List UInt8} (h : 8 ≤ frame.length)
    (hdetected : Detected codec frame rest) (recover : Bool) :
    readFrames codec recover (values.flatMap (frameOf codec) ++ (frame ++ rest)) [] =
      if storedLength frame ≤ (frame.drop 8 ++ rest).length then
        .error (.valueError "invalid frame CRC")
      else if recover then .ok (true, values.flatMap Value.rows)
      else .error (.valueError "truncated frame payload") := by
  have hnext := nextFrame_damaged h hdetected
  rw [readFrames_values hcodec hfits]
  split_ifs at hnext ⊢ with hwithin hrecover
  · exact readFrames_failed hnext
  · rw [readFrames_truncated hnext, if_pos hrecover]
    rfl
  · rw [readFrames_truncated hnext, if_neg hrecover]

def valueOf : Call R → Option (Value R)
  | .write record => some (.dict record)
  | .writeMany records => if records.isEmpty then none else some (.list records)

def framed (codec : Codec R) (calls : List (Call R)) : List (Value R) :=
  (calls.filterMap valueOf).filter fun v => (payloadOf codec v).length < 2 ^ 32

theorem framed_fits (calls : List (Call R)) : ∀ v ∈ framed codec calls, Fits codec v := by
  intro v hv
  unfold Fits
  exact of_decide_eq_true (mem_filter.1 hv).2

theorem runCall_cases (w : Writer) (call : Call R) :
    (runCall codec w call = .ok w ∧ valueOf call = none ∧ rowsOf call = []) ∨
    ∃ v, valueOf call = some v ∧ rowsOf call = v.rows ∧
      runCall codec w call = writePayload codec w v := by
  cases call with
  | write record => exact .inr ⟨.dict record, rfl, rfl, rfl⟩
  | writeMany records =>
    cases records with
    | nil => exact .inl ⟨rfl, rfl, rfl⟩
    | cons record records => exact .inr ⟨.list (record :: records), rfl, rfl, rfl⟩

theorem runCalls_framed (w : Writer) (written : List R) (calls : List (Call R)) :
    (runCalls codec w written calls).1.file =
        w.file ++ (framed codec calls).flatMap (frameOf codec) ∧
      (runCalls codec w written calls).2 = written ++ (framed codec calls).flatMap Value.rows := by
  induction calls generalizing w written with
  | nil => simp [runCalls, framed]
  | cons call calls ih =>
    unfold runCalls
    rcases @runCall_cases R codec w call with ⟨hsame, hvalue, hrows⟩ | ⟨v, hvalue, hrows, hwrite⟩
    · have hframed : framed codec (call :: calls) = framed codec calls := by
        unfold framed
        rw [filterMap_cons_none hvalue]
      rw [hsame, hrows, hframed, append_nil]
      exact ih w written
    · rw [hwrite]
      unfold writePayload
      dsimp only
      by_cases hlong : 2 ^ 32 ≤ (payloadOf codec v).length
      · have hframed : framed codec (call :: calls) = framed codec calls := by
          unfold framed
          rw [filterMap_cons_some hvalue, filter_cons_of_neg (by simpa using hlong)]
        rw [if_pos hlong, hframed]
        exact ih w written
      · have hframed : framed codec (call :: calls) = v :: framed codec calls := by
          unfold framed
          rw [filterMap_cons_some hvalue, filter_cons_of_pos (by simpa using hlong)]
        rw [if_neg hlong, hframed, hrows]
        obtain ⟨hfile, hwritten⟩ := ih
          { file := w.file ++ packFrame codec (payloadOf codec v), frames := w.frames + 1 }
          (written ++ v.rows)
        exact ⟨by rw [hfile, flatMap_cons, append_assoc]; rfl,
          by rw [hwritten, flatMap_cons, append_assoc]⟩

theorem readFramedBinary_header (hcodec : codec.Lawful) {magic : List UInt8} {metadata : R}
    {w : Writer} (hopen : newWriter codec magic metadata = .ok w) (recover : Bool)
    (rest : List UInt8) :
    readFramedBinary codec recover (w.file ++ rest) =
      (fun p => ⟨.dict metadata, magic, p.1, p.2⟩) <$> readFrames codec recover rest [] := by
  unfold newWriter at hopen
  dsimp only at hopen
  split_ifs at hopen with hmagic hlong
  cases hopen
  rw [not_not] at hmagic
  generalize hheader : codec.dumps (.dict metadata) = header at *
  have hfixed : (packFileHeader codec magic header).length = 20 := by
    simp [packFileHeader, hmagic]
  have htake : (packFileHeader codec magic header ++ header ++ rest).take 20 =
      packFileHeader codec magic header := by
    rw [append_assoc]
    exact take_left' hfixed
  have hdrop : (packFileHeader codec magic header ++ header ++ rest).drop 20 = header ++ rest := by
    rw [append_assoc]
    exact drop_left' hfixed
  have hmagic' : (packFileHeader codec magic header).take 8 = magic := by
    unfold packFileHeader
    simp only [append_assoc]
    exact take_left' hmagic
  have hversion : decode (((packFileHeader codec magic header).drop 8).take 2) = 1 := by
    unfold packFileHeader
    simp only [append_assoc]
    rw [drop_left' hmagic, take_left' (encode_length 2 1)]
    rfl
  have hflags : decode (((packFileHeader codec magic header).drop 10).take 2) = 1 := by
    have hlength : (magic ++ encode 2 1).length = 10 := by simp [hmagic]
    unfold packFileHeader
    rw [append_assoc, append_assoc (magic ++ encode 2 1), drop_left' hlength,
      take_left' (encode_length 2 1)]
    rfl
  have hlen : decode (((packFileHeader codec magic header).drop 12).take 4) = header.length := by
    have hlength : (magic ++ encode 2 1 ++ encode 2 1).length = 12 := by simp [hmagic]
    unfold packFileHeader
    rw [append_assoc (magic ++ encode 2 1 ++ encode 2 1), drop_left' hlength,
      take_left' (encode_length 4 _)]
    exact decode_encode (Nat.not_le.1 hlong)
  have hcrc : decode (((packFileHeader codec magic header).drop 16).take 4) =
      (codec.crc32 header).toNat := by
    have hlength : (magic ++ encode 2 1 ++ encode 2 1 ++ encode 4 header.length).length = 16 := by
      simp [hmagic]
    unfold packFileHeader
    rw [drop_left' hlength, take_of_length_le (by rw [encode_length])]
    exact decode_crc header
  have hloads : codec.loads header = some (.dict metadata) := by
    rw [← hheader, hcodec.loads_dumps]
  unfold readFramedBinary
  dsimp only
  rw [htake, hdrop, hmagic', hversion, hflags, hlen, hcrc, if_neg (not_not.2 hfixed),
    if_neg (by simp), take_left, if_neg (by simp), hloads, drop_left]
  cases readFrames codec recover rest [] <;> rfl

/-- Round trip, every cut behind the file header, and every damage that the checksum detects: such
a damage raises in both modes unless the stored length runs past the end of the file. -/
theorem framed_log (hcodec : codec.Lawful) {magic : List UInt8} {metadata : R} {w : Writer}
    (hopen : newWriter codec magic metadata = .ok w) (calls : List (Call R)) :
    (∀ recover, readFramedBinary codec recover (runCalls codec w [] calls).1.file =
      .ok ⟨.dict metadata, magic, false, (runCalls codec w [] calls).2⟩) ∧
    (∀ n, w.file.length ≤ n → n ≤ (runCalls codec w [] calls).1.file.length →
      readFramedBinary codec true ((runCalls codec w [] calls).1.file.take n) =
        .ok ⟨.dict metadata, magic,
          decide (w.file.length +
            boundary codec (n - w.file.length) (framed codec calls) < n),
          (contained codec (n - w.file.length) (framed codec calls)).flatMap Value.rows⟩ ∧
      ((∃ e, readFramedBinary codec false ((runCalls codec w [] calls).1.file.take n) = .error e) ↔
        w.file.length + boundary codec (n - w.file.length) (framed codec calls) < n)) ∧
    ∀ before v later damaged, framed codec calls = before ++ v :: later →
      damaged.length = (frameOf codec v).length →
      Detected codec damaged (later.flatMap (frameOf codec)) →
      ((∀ recover, ∃ e, readFramedBinary codec recover (w.file ++
          (before.flatMap (frameOf codec) ++ (damaged ++ later.flatMap (frameOf codec)))) =
            .error e) ↔
        storedLength damaged ≤ (damaged.drop 8 ++ later.flatMap (frameOf codec)).length) := by
  obtain ⟨hfile, hwritten⟩ := @runCalls_framed R codec w [] calls
  have hfits := @framed_fits R codec calls
  refine ⟨fun recover => ?_, fun n hheader hend => ?_, fun before v later damaged hsplit hlength
    hdetected => ?_⟩
  · have hread := readFrames_values hcodec hfits recover [] []
    rw [append_nil, readFrames_finished nextFrame_nil] at hread
    rw [hfile, hwritten, readFramedBinary_header hcodec hopen, hread]
    rfl
  · rw [hfile, length_append] at hend
    have htake : (w.file ++ (framed codec calls).flatMap (frameOf codec)).take n =
        w.file ++ ((framed codec calls).flatMap (frameOf codec)).take (n - w.file.length) := by
      rw [take_append, take_of_length_le hheader]
    have hread := readFrames_take hcodec hfits
      (show n - w.file.length ≤ ((framed codec calls).flatMap (frameOf codec)).length by omega)
    have hcuts : (boundary codec (n - w.file.length) (framed codec calls) < n - w.file.length) ↔
        w.file.length + boundary codec (n - w.file.length) (framed codec calls) < n := by omega
    rw [hfile, htake, readFramedBinary_header hcodec hopen, readFramedBinary_header hcodec hopen]
    refine ⟨?_, ?_⟩
    · have htrue := hread true
      rw [if_neg (by simp)] at htrue
      rw [htrue, decide_eq_decide.2 hcuts]
      rfl
    · have hfalse := hread false
      rw [← hcuts]
      split_ifs at hfalse with hcut
      · obtain ⟨message, hmessage⟩ := hfalse
        rw [hmessage]
        exact ⟨fun _ => hcut.1, fun _ => ⟨_, rfl⟩⟩
      · rw [hfalse]
        exact ⟨fun ⟨e, he⟩ => (by cases he), fun h => absurd ⟨h, rfl⟩ hcut⟩
  · have hbefore : ∀ v ∈ before, Fits codec v := fun v hv =>
      hfits v (hsplit ▸ mem_append_left _ hv)
    have hheader : 8 ≤ damaged.length := by
      rw [hlength, frameOf_length]
      exact Nat.le_add_right 8 _
    have hread := readFrames_damaged hcodec hbefore hheader hdetected
    constructor
    · intro hraises
      by_contra hpast
      obtain ⟨e, he⟩ := hraises true
      rw [readFramedBinary_header hcodec hopen, hread, if_neg hpast] at he
      cases he
    · intro hwithin recover
      rw [readFramedBinary_header hcodec hopen, hread, if_pos hwithin]
      exact ⟨_, rfl⟩

def crcShift (c : UInt32) : UInt32 := if c &&& 1 = 1 then (c >>> 1) ^^^ 0xEDB88320 else c >>> 1

def crcByte (c : UInt32) (b : UInt8) : UInt32 := crcShift^[8] (c ^^^ b.toUInt32)

/-- `zlib.crc32`. -/
def crc32 (bytes : List UInt8) : UInt32 := ~~~ bytes.foldl crcByte 0xFFFFFFFF

/-- The text of `n` empty records in a list. -/
def listText : ℕ → List UInt8
  | 0 => [93]
  | n + 1 => 123 :: 125 :: 44 :: listText n

theorem listText_length (n : ℕ) : (listText n).length = 3 * n + 1 := by
  induction n with
  | zero => rfl
  | succ n ih => simp [listText, ih]; omega

def emptyDumps : Value Unit → List UInt8
  | .dict _ => [123, 125]
  | .list records => 91 :: listText records.length

def emptyLoads (bytes : List UInt8) : Value Unit :=
  if bytes = [123, 125] then .dict () else .list (List.replicate ((bytes.length - 2) / 3) ())

/-- What `zlib` makes of `\x7b\x7d`. -/
def compressedDict : List UInt8 := [120, 1, 171, 174, 5, 0, 1, 117, 0, 249]

def emptyCompress (raw : List UInt8) : List UInt8 :=
  if raw = [123, 125] then compressedDict else 0 :: raw

def emptyDecompress (bytes : List UInt8) : Option (List UInt8) :=
  if bytes = compressedDict then some [123, 125] else bytes.tail?

/-- Empty records: the text of one and its compressed bytes are those of `json` and `zlib`. -/
def emptyRecords : Codec Unit where
  dumps := emptyDumps
  loads bytes := some (emptyLoads bytes)
  compress := emptyCompress
  decompress := emptyDecompress
  crc32 := crc32

theorem emptyLoads_dumps (value : Value Unit) : emptyLoads (emptyDumps value) = value := by
  cases value with
  | dict record => rfl
  | list records =>
    have hlength : (91 :: listText records.length).length = 3 * records.length + 2 := by
      rw [length_cons, listText_length]
    have hne : (91 :: listText records.length : List UInt8) ≠ [123, 125] := by simp
    have hunits : List.replicate records.length () = records :=
      (eq_replicate_of_mem fun _ _ => rfl).symm
    unfold emptyDumps emptyLoads
    rw [if_neg hne, hlength, Nat.add_sub_cancel, Nat.mul_div_cancel_left _ (by decide), hunits]

theorem emptyDecompress_compress (raw : List UInt8) :
    emptyDecompress (emptyCompress raw) = some raw := by
  unfold emptyCompress
  split_ifs with h
  · rw [h]
    rfl
  · unfold emptyDecompress compressedDict
    rw [if_neg (by simp)]
    rfl

theorem emptyRecords_lawful : emptyRecords.Lawful where
  loads_dumps value := congrArg some (emptyLoads_dumps value)
  decompress_compress := emptyDecompress_compress

/-- `PARPPGW1`. -/
def windowMagic : List UInt8 := [80, 65, 82, 80, 80, 71, 87, 49]

def emptyLog : Writer :=
  { file := packFileHeader emptyRecords windowMagic [123, 125] ++ [123, 125] }

/-- A frame of one record with a byte of its payload and the highest byte of its length damaged. -/
def damagedFrame : List UInt8 :=
  [10, 0, 0, 1] ++ encode 4 (crc32 compressedDict).toNat ++
    [120, 1, 171, 174, 5, 0, 1, 117, 0, 248]

/-- The reader that recovers a truncated tail skips a damaged frame before the last one, although
the checksum of the frame does not match its payload. -/
theorem damaged_skipped :
    let later := [Value.dict ()].flatMap (frameOf emptyRecords)
    damagedFrame.length = (frameOf emptyRecords (.dict ())).length ∧
      (crc32 (damagedFrame.drop 8)).toNat ≠ storedCrc damagedFrame ∧
      readFramedBinary emptyRecords true (emptyLog.file ++ (damagedFrame ++ later)) =
        .ok ⟨.dict (), windowMagic, true, []⟩ := by
  intro later
  have hdetected : Detected emptyRecords damagedFrame later := by
    unfold Detected
    decide +kernel
  have hread := @readFrames_damaged Unit emptyRecords emptyRecords_lawful [] nofun damagedFrame
    later (by decide) hdetected true
  have hopen : newWriter emptyRecords windowMagic () = .ok emptyLog := rfl
  rw [flatMap_nil, nil_append, if_neg (by decide +kernel)] at hread
  refine ⟨by decide, by decide +kernel, ?_⟩
  rw [readFramedBinary_header emptyRecords_lawful hopen, hread]
  rfl

/-- A record written twice, and the file cut in the second frame. -/
theorem second_cut :
    readFramedBinary emptyRecords true
        ((runCalls emptyRecords emptyLog [] [.write (), .writeMany [], .write ()]).1.file.take 50) =
      .ok ⟨.dict (), windowMagic, true, [()]⟩ := by
  have h := (framed_log emptyRecords_lawful (rfl : newWriter emptyRecords windowMagic () =
    .ok emptyLog) [.write (), .writeMany [], .write ()]).2.1 50 (by decide) (by decide +kernel)
  exact h.1

end Parp.FramedBinary
