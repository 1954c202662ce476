import LibusbK.Driver.IsoFrames
import Mathlib.Tactic.Ring

/-!
# Frame numbers of isochronous transfers

`UsbK_IsochReadPipe` and `UsbK_IsochWritePipe` start a transfer at the frame number they are
given and return the one for the next transfer: `CalclNextIsoFrameNumber` divides the size of
the transfer buffer by `BytesPerMillisecond`, which `IsochK_CalcPacketInformation` takes from
the endpoint.  The driver counts the frames of the packets instead
(`mXfer_IsoAssignNextFrameNumber`).

## Main definitions

* `IsochEndpoint` — what an endpoint's descriptors say.
* `calcPacketInformation`, `calcNextIsoFrameNumber` — the functions.
* `isochStartFrames`, `driverStartFrames` — where transfers start, one after the other.
* `FillsFrames` — the transfer buffer holds the frames of the packets.

## Main results

* `calcNextIsoFrameNumber_eq_some` — the division, as a bound on the buffer.
* `isochStartFrames_iff` — transfers start where the driver counts to exactly if the buffer
  holds the frames of each.
-/

namespace LibusbK

/-! ### The endpoint -/

/-- The fields of the descriptors that `UsbStack_QueryPipeEx` reads. -/
structure IsochEndpoint where
  wMaxPacketSize : UInt16
  bInterval : UInt8
  /-- Of the companion descriptor, if there is one. -/
  wBytesPerInterval : Option UInt16
  deriving DecidableEq, Repr

/-- `WINUSB_PIPE_INFORMATION_EX` -/
structure PipeInformationEx where
  maximumPacketSize : UInt16
  interval : UInt8
  maximumBytesPerInterval : UInt32
  deriving DecidableEq, Repr

/-- `UsbStack_QueryPipeEx` -/
def IsochEndpoint.pipeInformationEx (d : IsochEndpoint) : PipeInformationEx :=
  let maximumPacketSize : UInt16 :=
    (d.wMaxPacketSize &&& (0x7FF : UInt16)) * (((d.wMaxPacketSize >>> 11) &&& (0x3 : UInt16)) + 1)
  { maximumPacketSize
    interval := d.bInterval
    maximumBytesPerInterval :=
      match d.wBytesPerInterval with
      | some bytes => if bytes = 0 then maximumPacketSize.toUInt32 else bytes.toUInt32
      | none => maximumPacketSize.toUInt32 }

/-! ### The frame number of the next transfer -/

/-- `PollingPeriod_Per_bInterval_HighSpeed` -/
def pollingPeriodPerBIntervalHighSpeed : List UInt16 := [1, 2, 4, 8, 16] ++ List.replicate 27 32

/-- `PollingPeriod_Per_bInterval_FullSpeed` -/
def pollingPeriodPerBIntervalFullSpeed : List UInt16 :=
  [1, 2, 2, 4, 4, 4, 4] ++ List.replicate 8 8 ++ List.replicate 16 16 ++ [32]

/-- `KISOCH_PACKET_INFORMATION` -/
structure IsochPacketInformation where
  packetsPerFrame : UInt32
  pollingPeriodMicroseconds : UInt32
  bytesPerMillisecond : UInt32
  deriving DecidableEq, Repr

/-- The entry at `(Interval - 1) % _countof(…)`, a remainder of a `size_t`. -/
def pollingPeriod (isHighSpeed : Bool) (interval : UInt8) : UInt16 :=
  (if isHighSpeed then pollingPeriodPerBIntervalHighSpeed
    else pollingPeriodPerBIntervalFullSpeed).getD ((interval.toNat + 31) % 32) 0

/-- `IsochK_CalcPacketInformation` -/
def calcPacketInformation (isHighSpeed : Bool) (pipe : PipeInformationEx) :
    IsochPacketInformation :=
  let pollingPeriod := (pollingPeriod isHighSpeed pipe.interval).toUInt32
  if isHighSpeed then
    let packetsPerFrame := 8 / pollingPeriod
    { packetsPerFrame
      pollingPeriodMicroseconds := pollingPeriod * 125
      bytesPerMillisecond := pipe.maximumBytesPerInterval * packetsPerFrame }
  else
    { packetsPerFrame := 1
      pollingPeriodMicroseconds := pollingPeriod * 1000
      bytesPerMillisecond := pipe.maximumPacketSize.toUInt32 / pollingPeriod }

/-- `CalclNextIsoFrameNumber`; `none` is a division by zero. -/
def calcNextIsoFrameNumber (transferBufferSize : UInt32) (info : IsochPacketInformation)
    (frameNumber : UInt32) : Option UInt32 :=
  if info.bytesPerMillisecond = 0 then none
  else some (frameNumber + transferBufferSize / info.bytesPerMillisecond)

/-- A transfer. -/
structure IsochTransfer where
  dataLength : UInt32
  numberOfPackets : UInt32
  deriving DecidableEq, Repr

/-- The driver accepts the number of packets. -/
structure IsochTransfer.Accepted (isHighSpeed : Bool) (t : IsochTransfer) : Prop where
  pos : 0 < t.numberOfPackets.toNat
  lt : t.numberOfPackets.toNat < 0x8000
  dvd : isHighSpeed → 8 ∣ t.numberOfPackets.toNat

/-- Where transfers start, each at the frame number that the one before it returned, and the
frame number returned by the last. -/
def isochStartFrames (transferBufferSize : UInt32) (info : IsochPacketInformation) :
    UInt32 → List IsochTransfer → Option (List UInt32)
  | frameNumber, [] => some [frameNumber]
  | frameNumber, _ :: ts =>
    (calcNextIsoFrameNumber transferBufferSize info frameNumber).bind fun next =>
      (isochStartFrames transferBufferSize info next ts).map (frameNumber :: ·)

/-- Where the driver counts to. -/
def driverStartFrames (fw : Framework) (isHighSpeed : Bool) :
    QueueContext → List IsochTransfer → List UInt32
  | qc, [] => [qc.nextFrameNumber]
  | qc, t :: ts => qc.nextFrameNumber ::
      driverStartFrames fw isHighSpeed
        (isoAssignNextFrameNumber fw isHighSpeed t.numberOfPackets qc) ts

/-! ### Numbers -/

/-- The division, as a bound on the buffer. -/
theorem calcNextIsoFrameNumber_eq_some {transferBufferSize frameNumber frames : UInt32}
    {info : IsochPacketInformation} :
    calcNextIsoFrameNumber transferBufferSize info frameNumber = some (frameNumber + frames) ↔
      0 < info.bytesPerMillisecond.toNat ∧
        frames.toNat * info.bytesPerMillisecond.toNat ≤ transferBufferSize.toNat ∧
        transferBufferSize.toNat <
          frames.toNat * info.bytesPerMillisecond.toNat + info.bytesPerMillisecond.toNat := by
  unfold calcNextIsoFrameNumber
  split
  next hzero =>
    refine ⟨fun h => ?_, fun h => ?_⟩
    · cases h
    · rw [hzero] at h
      exact absurd h.1 (Nat.lt_irrefl 0)
  next hne =>
    have hpos : 0 < info.bytesPerMillisecond.toNat :=
      Nat.pos_of_ne_zero fun h => hne (UInt32.toNat_inj.mp h)
    rw [Option.some.injEq, UInt32.add_right_inj, ← UInt32.toNat_inj, UInt32.toNat_div,
      Nat.div_eq_iff hpos]
    omega

/-- The frames that the driver counts for packets. -/
def driverFrames (fw : Framework) (isHighSpeed : Bool) (interval : UInt8)
    (numberOfPackets : UInt32) : UInt32 :=
  if isHighSpeed then
    (numberOfPackets >>> 3) *
      (framesPerBInterval fw framesPerBIntervalHighSpeed interval).toUInt32
  else numberOfPackets * (framesPerBInterval fw framesPerBIntervalFullSpeed interval).toUInt32

theorem nextFrameNumber_isoAssignNextFrameNumber (fw : Framework) (isHighSpeed : Bool)
    (numberOfPackets : UInt32) (qc : QueueContext) :
    isoAssignNextFrameNumber fw isHighSpeed numberOfPackets qc =
      { qc with nextFrameNumber := qc.nextFrameNumber +
          driverFrames fw isHighSpeed qc.info.interval numberOfPackets } := by
  cases isHighSpeed <;> rfl

theorem toNat_shiftRight_three (n : UInt32) : (n >>> 3).toNat = n.toNat / 8 := by
  rw [UInt32.toNat_shiftRight]
  exact Nat.shiftRight_eq_div_pow _ 3

theorem toNat_mul_of_lt {a b : UInt32} (ha : a.toNat < 0x8000) (hb : b.toNat < 0x10000) :
    (a * b).toNat = a.toNat * b.toNat := by
  rw [UInt32.toNat_mul]
  have h : a.toNat * b.toNat ≤ 0x8000 * 0x10000 := Nat.mul_le_mul (by omega) (by omega)
  omega

theorem toNat_toUInt32_lt (x : UInt16) : x.toUInt32.toNat < 0x10000 := x.toNat_lt

theorem maximumBytesPerInterval_lt (d : IsochEndpoint) :
    d.pipeInformationEx.maximumBytesPerInterval.toNat < 0x10000 := by
  unfold IsochEndpoint.pipeInformationEx
  split
  · split
    · exact toNat_toUInt32_lt _
    · exact toNat_toUInt32_lt _
  · exact toNat_toUInt32_lt _

/-- The tables have a period for every interval. -/
theorem pollingPeriod_pos (isHighSpeed : Bool) (interval : UInt8) :
    0 < (pollingPeriod isHighSpeed interval).toNat := by
  -- both tables have 32 entries
  have hhigh : ∀ i < 32, 0 < (pollingPeriodPerBIntervalHighSpeed.getD i 0).toNat := by decide
  have hfull : ∀ i < 32, 0 < (pollingPeriodPerBIntervalFullSpeed.getD i 0).toNat := by decide
  unfold pollingPeriod
  cases isHighSpeed with
  | true => exact hhigh _ (Nat.mod_lt _ (by decide))
  | false => exact hfull _ (Nat.mod_lt _ (by decide))

/-- A period within a frame divides it.  The interval is then not 0, so that the driver has the
same entry. -/
theorem pollingPeriod_highSpeed (fw : Framework) {interval : UInt8}
    (h : (pollingPeriod true interval).toNat ≤ 8) :
    (pollingPeriod true interval).toNat ∣ 8 ∧
      framesPerBInterval fw framesPerBIntervalHighSpeed interval = pollingPeriod true interval := by
  have hdvd : ∀ i < 32, (pollingPeriodPerBIntervalHighSpeed.getD i 0).toNat ≤ 8 →
      (pollingPeriodPerBIntervalHighSpeed.getD i 0).toNat ∣ 8 := by decide
  have hne : interval ≠ 0 := by
    rintro rfl
    exact absurd h (by decide)
  exact ⟨hdvd _ (Nat.mod_lt _ (by decide)) h, framesPerBInterval_eq fw _ hne⟩

theorem bytesPerMillisecond_highSpeed (d : IsochEndpoint) :
    (calcPacketInformation true d.pipeInformationEx).bytesPerMillisecond.toNat =
      8 / (pollingPeriod true d.bInterval).toNat *
        d.pipeInformationEx.maximumBytesPerInterval.toNat := by
  have hdiv : (8 / (pollingPeriod true d.bInterval).toUInt32).toNat =
      8 / (pollingPeriod true d.bInterval).toNat := UInt32.toNat_div _ _
  have hle : 8 / (pollingPeriod true d.bInterval).toNat ≤ 8 := Nat.div_le_self _ _
  show (d.pipeInformationEx.maximumBytesPerInterval *
    (8 / (pollingPeriod true d.bInterval).toUInt32)).toNat = _
  -- at most eight times a number of 16 bits
  rw [UInt32.mul_comm, toNat_mul_of_lt (by omega) (maximumBytesPerInterval_lt d), hdiv]

theorem bytesPerMillisecond_fullSpeed (d : IsochEndpoint) :
    (calcPacketInformation false d.pipeInformationEx).bytesPerMillisecond.toNat =
      d.pipeInformationEx.maximumPacketSize.toNat / (pollingPeriod false d.bInterval).toNat :=
  UInt32.toNat_div _ _

/-! ### Where transfers start -/

/-- The transfer buffer holds the frames of the packets, and not a millisecond more.  At high
speed the packets are those of whole frames, so that their bytes decide; at full speed
`BytesPerMillisecond` is rounded down. -/
def FillsFrames (fw : Framework) (isHighSpeed : Bool) (d : IsochEndpoint)
    (transferBufferSize : UInt32) (t : IsochTransfer) : Prop :=
  let period := (pollingPeriod isHighSpeed d.bInterval).toNat
  if isHighSpeed then
    let bytes := t.numberOfPackets.toNat * d.pipeInformationEx.maximumBytesPerInterval.toNat
    period ≤ 8 ∧ 0 < d.pipeInformationEx.maximumBytesPerInterval.toNat ∧
      bytes ≤ transferBufferSize.toNat ∧
      transferBufferSize.toNat <
        bytes + 8 / period * d.pipeInformationEx.maximumBytesPerInterval.toNat
  else
    let frames := t.numberOfPackets.toNat *
      (framesPerBInterval fw framesPerBIntervalFullSpeed d.bInterval).toNat
    let bytes := d.pipeInformationEx.maximumPacketSize.toNat / period
    period ≤ d.pipeInformationEx.maximumPacketSize.toNat ∧
      frames * bytes ≤ transferBufferSize.toNat ∧ transferBufferSize.toNat < frames * bytes + bytes

section Transfers

variable {fw : Framework} {isHighSpeed : Bool} {d : IsochEndpoint}
  {transferBufferSize frameNumber : UInt32} {t : IsochTransfer}

theorem calcNextIsoFrameNumber_highSpeed (ht : t.Accepted true) :
    calcNextIsoFrameNumber transferBufferSize (calcPacketInformation true d.pipeInformationEx)
        frameNumber = some (frameNumber + driverFrames fw true d.bInterval t.numberOfPackets) ↔
      FillsFrames fw true d transferBufferSize t := by
  rw [calcNextIsoFrameNumber_eq_some, bytesPerMillisecond_highSpeed]
  have hperiod := pollingPeriod_pos true d.bInterval
  unfold FillsFrames
  simp only [if_true]
  by_cases hle : (pollingPeriod true d.bInterval).toNat ≤ 8
  · obtain ⟨hdvd, htable⟩ := pollingPeriod_highSpeed fw hle
    obtain ⟨k, hk⟩ := hdvd
    obtain ⟨m, hm⟩ := ht.dvd rfl
    have hlt := ht.lt
    have hframes : (driverFrames fw true d.bInterval t.numberOfPackets).toNat =
        m * (pollingPeriod true d.bInterval).toNat := by
      have hshift : (t.numberOfPackets >>> 3).toNat = m := by
        rw [toNat_shiftRight_three]
        omega
      show ((t.numberOfPackets >>> 3) *
        (framesPerBInterval fw framesPerBIntervalHighSpeed d.bInterval).toUInt32).toNat = _
      rw [htable, toNat_mul_of_lt (by omega) (toNat_toUInt32_lt _), hshift]
      rfl
    -- The frames and the packets in a frame multiply to the packets.
    have hquot : 8 / (pollingPeriod true d.bInterval).toNat = k :=
      Nat.div_eq_of_eq_mul_right hperiod hk
    have hk0 : 0 < k := by
      rcases Nat.eq_zero_or_pos k with rfl | hpos
      · omega
      · exact hpos
    have hbytes (b : ℕ) : m * (pollingPeriod true d.bInterval).toNat * (k * b) =
        t.numberOfPackets.toNat * b := by
      rw [hm, hk]
      ring
    rw [hframes, hquot, hbytes, and_iff_right hle, Nat.mul_pos_iff_of_pos_left hk0]
  -- no packet in each frame: a division by zero
  · have hzero : 8 / (pollingPeriod true d.bInterval).toNat = 0 :=
      Nat.div_eq_of_lt (Nat.lt_of_not_le hle)
    rw [hzero, Nat.zero_mul]
    exact ⟨fun h => absurd h.1 (Nat.lt_irrefl 0), fun h => absurd h.1 hle⟩

theorem calcNextIsoFrameNumber_fullSpeed (ht : t.Accepted false) :
    calcNextIsoFrameNumber transferBufferSize (calcPacketInformation false d.pipeInformationEx)
        frameNumber = some (frameNumber + driverFrames fw false d.bInterval t.numberOfPackets) ↔
      FillsFrames fw false d transferBufferSize t := by
  have hframes : (driverFrames fw false d.bInterval t.numberOfPackets).toNat =
      t.numberOfPackets.toNat *
        (framesPerBInterval fw framesPerBIntervalFullSpeed d.bInterval).toNat :=
    toNat_mul_of_lt ht.lt (toNat_toUInt32_lt _)
  rw [calcNextIsoFrameNumber_eq_some, bytesPerMillisecond_fullSpeed, hframes,
    Nat.div_pos_iff, and_iff_right (pollingPeriod_pos false d.bInterval)]
  rfl

/-- The frame number of the next transfer is the one that the driver counts to. -/
theorem calcNextIsoFrameNumber_iff (ht : t.Accepted isHighSpeed) :
    calcNextIsoFrameNumber transferBufferSize
        (calcPacketInformation isHighSpeed d.pipeInformationEx) frameNumber =
          some (frameNumber + driverFrames fw isHighSpeed d.bInterval t.numberOfPackets) ↔
      FillsFrames fw isHighSpeed d transferBufferSize t := by
  cases isHighSpeed with
  | true => exact calcNextIsoFrameNumber_highSpeed ht
  | false => exact calcNextIsoFrameNumber_fullSpeed ht

theorem head_isochStartFrames {info : IsochPacketInformation} {ts : List IsochTransfer}
    {frames : List UInt32}
    (h : isochStartFrames transferBufferSize info frameNumber ts = some frames) :
    frames.head? = some frameNumber := by
  cases ts with
  | nil =>
    cases h
    rfl
  | cons t ts =>
    simp only [isochStartFrames, Option.bind_eq_some_iff, Option.map_eq_some_iff] at h
    obtain ⟨next, -, rest, -, rfl⟩ := h
    rfl

theorem head_driverStartFrames (qc : QueueContext) (ts : List IsochTransfer) :
    (driverStartFrames fw isHighSpeed qc ts).head? = some qc.nextFrameNumber := by
  cases ts <;> rfl

/-- One transfer and the ones after it. -/
theorem isochStartFrames_cons_eq_some {qc qc' : QueueContext} {info : IsochPacketInformation}
    {ts : List IsochTransfer}
    (hqc' : isoAssignNextFrameNumber fw isHighSpeed t.numberOfPackets qc = qc') :
    isochStartFrames transferBufferSize info qc.nextFrameNumber (t :: ts) =
        some (driverStartFrames fw isHighSpeed qc (t :: ts)) ↔
      calcNextIsoFrameNumber transferBufferSize info qc.nextFrameNumber =
          some qc'.nextFrameNumber ∧
        isochStartFrames transferBufferSize info qc'.nextFrameNumber ts =
          some (driverStartFrames fw isHighSpeed qc' ts) := by
  subst hqc'
  constructor
  · intro h
    simp only [isochStartFrames, Option.bind_eq_some_iff, Option.map_eq_some_iff] at h
    obtain ⟨next, hnext, rest, hrest, heq⟩ := h
    obtain rfl : rest = driverStartFrames fw isHighSpeed _ ts := List.tail_eq_of_cons_eq heq
    -- The rest starts at the frame number that was returned.
    have hhead := (head_isochStartFrames hrest).symm.trans (head_driverStartFrames _ ts)
    rw [Option.some.inj hhead] at hnext hrest
    exact ⟨hnext, hrest⟩
  · rintro ⟨hnext, hrest⟩
    simp only [isochStartFrames, hnext, Option.bind_some, hrest, Option.map_some]
    rfl

/-- **Where transfers start.**  The frame numbers that are returned for the next transfers are
those the driver counts to, so that each transfer starts where the frames of the one before it
end, exactly if the transfer buffer holds the frames of the packets of every transfer. -/
theorem isochStartFrames_iff {ts : List IsochTransfer} (hts : ∀ t ∈ ts, t.Accepted isHighSpeed) :
    ∀ {qc : QueueContext}, qc.info.interval = d.bInterval →
      (isochStartFrames transferBufferSize
          (calcPacketInformation isHighSpeed d.pipeInformationEx) qc.nextFrameNumber ts =
            some (driverStartFrames fw isHighSpeed qc ts) ↔
        ∀ t ∈ ts, FillsFrames fw isHighSpeed d transferBufferSize t) := by
  -- on the transfers, for any frame number the first of them starts at
  induction ts with
  | nil => exact fun _ => iff_of_true rfl (List.forall_mem_nil _)
  | cons t ts ih =>
    intro qc hqc
    obtain ⟨ht, hts⟩ := List.forall_mem_cons.mp hts
    rw [isochStartFrames_cons_eq_some (nextFrameNumber_isoAssignNextFrameNumber fw _ _ qc),
      List.forall_mem_cons, hqc, calcNextIsoFrameNumber_iff ht]
    exact and_congr_right fun _ => ih hts hqc

end Transfers

/-- A queue of an isochronous pipe, at a frame number. -/
def isochQueueAt (interval : UInt8) (nextFrameNumber : UInt32) : QueueContext where
  info := ⟨1024, 0x81, interval, .isochronous, 64⟩
  nextFrameNumber := nextFrameNumber

/-- An endpoint of 1024 bytes, with an interval. -/
def isochEndpoint (bInterval : UInt8) : IsochEndpoint := ⟨1024, bInterval, none⟩

theorem accepted_twoTransfers : ∀ t ∈ [⟨0, 8⟩, (⟨8192, 8⟩ : IsochTransfer)], t.Accepted true := by
  intro t ht
  simp only [List.mem_cons, List.not_mem_nil, or_false] at ht
  rcases ht with rfl | rfl
  · exact ⟨by decide, by decide, fun _ => by decide⟩
  · exact ⟨by decide, by decide, fun _ => by decide⟩

/-- Two transfers of a frame each. -/
theorem isochStartFrames_twoTransfers :
    isochStartFrames 8192 (calcPacketInformation true (isochEndpoint 1).pipeInformationEx)
        100 [⟨0, 8⟩, ⟨8192, 8⟩] =
      some (driverStartFrames {} true (isochQueueAt 1 100) [⟨0, 8⟩, ⟨8192, 8⟩]) := by
  have hqc : (isochQueueAt 1 100).info.interval = (isochEndpoint 1).bInterval := rfl
  refine (isochStartFrames_iff accepted_twoTransfers hqc).mpr fun t ht => ?_
  simp only [List.mem_cons, List.not_mem_nil, or_false] at ht
  rcases ht with rfl | rfl
  · exact ⟨by decide, by decide, by decide, by decide⟩
  · exact ⟨by decide, by decide, by decide, by decide⟩

/-- At high speed, a division by zero with an interval of two frames; and eight packets of a
buffer for sixteen, which take one frame and not two.  At full speed, a division by zero with
packets of one byte every two frames. -/
theorem not_isochStartFrames_eightPackets :
    isochStartFrames 8192 (calcPacketInformation true (isochEndpoint 5).pipeInformationEx)
        100 [⟨0, 8⟩] = none ∧
      isochStartFrames 16384 (calcPacketInformation true (isochEndpoint 1).pipeInformationEx)
          100 [⟨8192, 8⟩] = some [100, 102] ∧
      driverStartFrames {} true (isochQueueAt 1 100) [⟨8192, 8⟩] = [100, 101] ∧
      isochStartFrames 8 (calcPacketInformation false (IsochEndpoint.mk 1 2 none).pipeInformationEx)
        100 [⟨0, 8⟩] = none :=
  ⟨rfl, rfl, rfl, rfl⟩

end LibusbK
