import LibusbK.Dll.IsoContext
import LibusbK.Lib.Enumerate

/-!
# What an isochronous transfer context is for

A context stands for a list of packets.  Its functions set the places of the packets in the
transfer buffer and enumerate them, a transfer takes the places from it and leaves the length and
the status of every packet.

## Main definitions

* `IsoPackets` — what a context stands for, with its operations.
* `IsoPackets.run` — what a call does to it.
* `Does` — what code does to what the fields stand for.

## Main results

* `packetLoop_does` — a loop over the packets.
* `IsoFunction.does` — the functions.
-/

namespace LibusbK

open Access

/-! ### Packets -/

/-- What a context stands for. -/
structure IsoPackets where
  flags : UInt32
  startFrame : UInt32
  errorCount : UInt16
  urbHdrStatus : UInt32
  packets : List KisoPacket

/-- The driver takes a transfer of `n` packets, and the framework its URB. -/
def IsoSubmission.Takes (t : IsoSubmission) (n : ℕ) : Prop :=
  t.locks = true ∧ t.fw.requestContext = true ∧ t.rc.queueContext = true ∧
    t.fw.queueContext = true ∧ t.fw.contextBuffer = true ∧ t.fw.wdmPipeHandle = true ∧ n ≠ 0 ∧
    (t.dc.isHighSpeed = true → n % 8 = 0) ∧ ntSuccess t.fw.transferMdl = true ∧
    ntSuccess t.fw.memoryCreate = true ∧ ntSuccess t.fw.formatRequest = true ∧ t.fw.send = true

instance (t : IsoSubmission) (n : ℕ) : Decidable (t.Takes n) :=
  inferInstanceAs (Decidable (_ ∧ _))

/-- The transfer has come to an end on the bus. -/
def IsoCompletion.Updates (t : IsoCompletion) : Prop :=
  t.fw.urbBuffer = true ∧ t.fw.requestContext = true ∧ t.status ≠ STATUS_CANCELLED ∧
    t.status ≠ STATUS_DEVICE_NOT_CONNECTED ∧ (ntSuccess t.status = true ∨ t.urb.headerStatus = 0)

instance (t : IsoCompletion) : Decidable t.Updates := inferInstanceAs (Decidable (_ ∧ _))

/-- What the driver makes of the status of a packet. -/
def isoPacketStatus (status : UInt32) : UInt16 :=
  ((status &&& (0xFFFF : UInt32)) ||| (status >>> (16 : UInt32))).toUInt16

/-- A callback that counts along. -/
def countVisits {α : Type} (visit : ℕ → α → KisoPacket → Visited KisoPacket α) (ctx : ℕ × α)
    (packet : KisoPacket) : Visited KisoPacket (ℕ × α) :=
  let v := visit ctx.1 ctx.2 packet
  { kept := v.kept, ctx := (ctx.1 + 1, v.ctx), more := v.more }

/-- An enumeration of the packets from `start` on, with their indices. -/
def enumIndexed {α : Type} (visit : ℕ → α → KisoPacket → Visited KisoPacket α)
    (packets : List KisoPacket) (start : ℕ) (acc : α) : List KisoPacket × α :=
  let rest := enumerate (countVisits visit) (packets.drop start) (start, acc)
  (packets.take start ++ rest.1, rest.2.2)

namespace IsoPackets

variable {U : Type}

/-- The packets lie one behind the other, `packetSize` bytes apart. -/
def setPackets (c : IsoPackets) (packetSize : UInt32) : IsoPackets :=
  { c with
    packets := c.packets.mapIdx fun i packet =>
      { packet with offset := UInt32.ofNat i * packetSize } }

/-- The callback of an enumeration. -/
def visitPacket (cb : IsoEnumCallback U) (packetIndex : ℕ) (userState : U) (packet : KisoPacket) :
    Visited KisoPacket U :=
  let answer := cb packetIndex packet userState
  { kept := some answer.1, ctx := answer.2.2, more := answer.2.1 }

/-- The callback is shown the packets from `start` on, with their indices. -/
def enumPackets (c : IsoPackets) (cb : IsoEnumCallback U) (start : ℕ) (userState : U) :
    U × IsoPackets :=
  let rest := enumIndexed (visitPacket cb) c.packets start userState
  (rest.2, { c with packets := rest.1 })

/-- Nothing has been transferred. -/
def reUse (c : IsoPackets) : IsoPackets :=
  { c with
    startFrame := 0
    errorCount := 0
    packets := c.packets.map fun packet => { packet with length := 0, status := 0 } }

/-- What a transfer leaves of a packet. -/
def completePacket (urb : IsoExUrb) (i : ℕ) (packet : KisoPacket) : KisoPacket :=
  { packet with
    length := (urb.isoPacket i).1.toUInt16
    status := isoPacketStatus (urb.isoPacket i).2 }

/-- What a transfer leaves. -/
def complete (c : IsoPackets) (t : IsoCompletion) : IsoPackets :=
  if t.Updates then
    { flags := c.flags
      startFrame := t.urb.startFrame
      errorCount := t.urb.errorCount.toUInt16
      urbHdrStatus := t.urb.headerStatus
      packets := c.packets.mapIdx (completePacket t.urb) }
  else c

/-- The places of the packets on the bus, if all of them are inside the transfer buffer. -/
def submit (c : IsoPackets) (t : IsoSubmission) : Option (List ℕ) :=
  if t.Takes c.packets.length ∧ ∀ packet ∈ c.packets, packet.offset.toNat < t.rc.length then
    some (c.packets.map fun packet => packet.offset.toNat)
  else none

/-- A function. -/
def apply (c : IsoPackets) : IsoFunction U → IsoResult U × IsoPackets
  | .setPackets packetSize => (.success, c.setPackets packetSize.toUInt32)
  | .setPacket packetIndex packet =>
    if packetIndex.toNat < c.packets.length then
      (.success, { c with packets := c.packets.set packetIndex.toNat packet })
    else (.failed, c)
  | .getPacket packetIndex =>
    match c.packets[packetIndex.toNat]? with
    | some packet => (.packet packet, c)
    | none => (.failed, c)
  | .enumPackets cb startPacketIndex userState =>
    if startPacketIndex.toNat < c.packets.length then
      let answer := c.enumPackets cb startPacketIndex.toNat userState
      (.enumerated answer.1, answer.2)
    else (.failed, c)
  | .reUse => (.success, c.reUse)
  | .assignFlags flags => (.success, { c with flags })
  | .assignStartFrame startFrame => (.success, { c with startFrame })
  | .complete t => (.success, c.complete t)

/-- A call. -/
def run (c : IsoPackets) : IsoCall U → IsoResult U × IsoPackets
  | .function f => c.apply f
  | .submit t => (.submitted (c.submit t), c)

/-- One call after the other. -/
def runAll (c : IsoPackets) : List (IsoCall U) → List (IsoResult U) × IsoPackets
  | [] => ([], c)
  | call :: calls =>
    let next := c.run call
    let rest := runAll next.2 calls
    (next.1 :: rest.1, rest.2)

end IsoPackets

/-- The index of a packet, if there is one, is one. -/
def IsoFunction.Indexed {U : Type} : IsoFunction U → Prop
  | .setPacket packetIndex _ | .getPacket packetIndex | .enumPackets _ packetIndex _ =>
    0 ≤ packetIndex
  | _ => True

def IsoCall.Indexed {U : Type} : IsoCall U → Prop
  | .function f => f.Indexed
  | .submit _ => True

/-! ### The fields of a context -/

/-- The values of the fields. -/
abbrev IsoFields := ∀ f, IsoField.Val f

namespace IsoFields

def count (s : IsoFields) : ℤ := Int16.toInt (s .numberOfPackets)

def packet (s : IsoFields) (i : ℕ) : KisoPacket where
  offset := s (.offset i)
  length := s (.length i)
  status := s (.status i)

/-- What the fields stand for. -/
def packets (s : IsoFields) : IsoPackets where
  flags := s .flags
  startFrame := s .startFrame
  errorCount := s .errorCount
  urbHdrStatus := s .urbHdrStatus
  packets := (List.range s.count.toNat).map s.packet

end IsoFields

/-- A field of the header, or of one of `n` packets. -/
def IsoField.Within (n : ℤ) : IsoField → Prop
  | offset packetIndex | length packetIndex | status packetIndex =>
    0 ≤ packetIndex ∧ packetIndex < n
  | _ => True

/-- What a piece of code returns and does to what the fields stand for; it goes to no other
packets. -/
structure Does {α : Type} (p : IsoCode α) (s : IsoFields) (a : α) (c : IsoPackets) : Prop where
  result : p.result s = a
  packets : IsoFields.packets (p.final s) = c
  count : IsoFields.count (p.final s) = s.count
  touches : ∀ f, p.Touches s f → f.Within s.count

/-! ### The packets of the fields -/

section Packets

variable {s s' : IsoFields} {i : ℕ}

theorem length_packets (s : IsoFields) : s.packets.packets.length = s.count.toNat := by
  simp [IsoFields.packets]

theorem getElem?_packets (s : IsoFields) (i : ℕ) :
    s.packets.packets[i]? = if i < s.count.toNat then some (s.packet i) else none := by
  show ((List.range s.count.toNat).map s.packet)[i]? = _
  rw [List.getElem?_map]
  split
  next h => rw [List.getElem?_range h, Option.map_some]
  next h => rw [List.getElem?_eq_none (by simpa using h), Option.map_none]

section Header

variable (s)

theorem packets_put_startFrame (v : UInt32) :
    IsoFields.packets (Function.update s .startFrame v) = { s.packets with startFrame := v } :=
  rfl

theorem packets_put_errorCount (v : UInt16) :
    IsoFields.packets (Function.update s .errorCount v) = { s.packets with errorCount := v } :=
  rfl

theorem packets_put_urbHdrStatus (v : UInt32) :
    IsoFields.packets (Function.update s .urbHdrStatus v) =
      { s.packets with urbHdrStatus := v } :=
  rfl

end Header

/-- A packet whose fields change. -/
theorem packets_set (hcount : s'.count = s.count)
    (hframe : ∀ f, f ≠ .offset i → f ≠ .length i → f ≠ .status i → s' f = s f) :
    s'.packets = { s.packets with packets := s.packets.packets.set i (s'.packet i) } := by
  have hheader (f : IsoField) (hf : ∀ j : ℤ, f ≠ .offset j ∧ f ≠ .length j ∧ f ≠ .status j) :
      s' f = s f := hframe f (hf i).1 (hf i).2.1 (hf i).2.2
  have hlist : s'.packets.packets = s.packets.packets.set i (s'.packet i) := by
    refine List.ext_getElem? fun j => ?_
    rw [getElem?_packets, List.getElem?_set, length_packets, getElem?_packets, hcount]
    by_cases hij : i = j
    · subst hij
      simp
    · have hne : (j : ℤ) ≠ i := by omega
      rw [if_neg hij]
      congr 2
      simp only [IsoFields.packet, KisoPacket.mk.injEq]
      exact ⟨hframe _ (by simpa using hne) nofun nofun, hframe _ nofun (by simpa using hne) nofun,
        hframe _ nofun nofun (by simpa using hne)⟩
  rw [← hlist]
  simp only [IsoFields.packets, IsoPackets.mk.injEq, and_true]
  exact ⟨hheader _ (by simp), hheader _ (by simp), hheader _ (by simp), hheader _ (by simp)⟩

end Packets

/-! ### The loops -/

section Loops

variable {α : Type} {s : IsoFields} {fuel : ℕ} {packetIndex : ℤ} {acc : α}
  {body : ℤ → α → IsoCode (α × Bool)}

theorem packetLoop_final :
    (packetLoop body (fuel + 1) packetIndex acc).final s =
      if packetIndex < s.count then
        if ((body packetIndex acc).result s).2 then
          (packetLoop body fuel (packetIndex + 1) ((body packetIndex acc).result s).1).final
            ((body packetIndex acc).final s)
        else (body packetIndex acc).final s
      else s := by
  simp [packetLoop]
  rfl

theorem packetLoop_result :
    (packetLoop body (fuel + 1) packetIndex acc).result s =
      if packetIndex < s.count then
        if ((body packetIndex acc).result s).2 then
          (packetLoop body fuel (packetIndex + 1) ((body packetIndex acc).result s).1).result
            ((body packetIndex acc).final s)
        else ((body packetIndex acc).result s).1
      else acc := by
  simp [packetLoop]
  rfl

theorem packetLoop_touches {f : IsoField} :
    (packetLoop body (fuel + 1) packetIndex acc).Touches s f ↔
      f = .numberOfPackets ∨ packetIndex < s.count ∧
        ((body packetIndex acc).Touches s f ∨ ((body packetIndex acc).result s).2 = true ∧
          (packetLoop body fuel (packetIndex + 1) ((body packetIndex acc).result s).1).Touches
            ((body packetIndex acc).final s) f) := by
  simp [packetLoop]
  rfl

/-- The body of a loop does to its packet what the callback of an enumeration does. -/
structure BodyDoes (p : IsoCode (α × Bool)) (s : IsoFields) (i : ℕ) (v : Visited KisoPacket α) :
    Prop where
  result : p.result s = (v.ctx, v.more)
  kept : v.kept = some (IsoFields.packet (p.final s) i)
  frame : ∀ f, f ≠ .offset i → f ≠ .length i → f ≠ .status i → p.final s f = s f
  touches : ∀ f, p.Touches s f → f = .offset i ∨ f = .length i ∨ f = .status i

theorem enumIndexed_of_some {visit : ℕ → α → KisoPacket → Visited KisoPacket α}
    {packets : List KisoPacket} {i : ℕ} {packet packet' : KisoPacket}
    (h : packets[i]? = some packet) (hkept : (visit i acc packet).kept = some packet') :
    enumIndexed visit packets i acc =
      if (visit i acc packet).more then
        enumIndexed visit (packets.set i packet') (i + 1) (visit i acc packet).ctx
      else (packets.set i packet', (visit i acc packet).ctx) := by
  obtain ⟨hi, rfl⟩ := List.getElem?_eq_some_iff.mp h
  have hlength : (packets.take i ++ [packet']).length = i + 1 := by
    rw [List.length_append, List.length_take_of_le (Nat.le_of_lt hi)]
    rfl
  have hset : packets.set i packet' = (packets.take i ++ [packet']) ++ packets.drop (i + 1) := by
    rw [List.set_eq_take_append_cons_drop, if_pos hi, List.append_assoc]
    rfl
  have hvisit : countVisits visit (i, acc) packets[i] =
      ⟨some packet', (i + 1, (visit i acc packets[i]).ctx), (visit i acc packets[i]).more⟩ := by
    rw [← hkept]
    rfl
  unfold enumIndexed
  rw [List.drop_eq_getElem_cons hi, enumerate_cons, hvisit, hset, List.take_left' hlength,
    List.drop_left' hlength]
  cases (visit i acc packets[i]).more <;> simp

theorem enumIndexed_of_none {visit : ℕ → α → KisoPacket → Visited KisoPacket α}
    {packets : List KisoPacket} {i : ℕ} (h : packets.length ≤ i) :
    enumIndexed visit packets i acc = (packets, acc) := by
  rw [enumIndexed, List.drop_eq_nil_of_le h, List.take_of_length_le h]
  simp

/-- **A loop over the packets is an enumeration of them.** -/
theorem packetLoop_does {visit : ℕ → α → KisoPacket → Visited KisoPacket α}
    (hbody : ∀ (i : ℕ) acc s, BodyDoes (body i acc) s i (visit i acc (s.packet i))) :
    ∀ {fuel i : ℕ} {acc : α} {s : IsoFields}, s.count ≤ i + fuel →
      Does (packetLoop body fuel i acc) s (enumIndexed visit s.packets.packets i acc).2
        { s.packets with packets := (enumIndexed visit s.packets.packets i acc).1 } := by
  intro fuel
  induction fuel with
  | zero =>
    intro i acc s hfuel
    rw [enumIndexed_of_none (by rw [length_packets]; omega)]
    exact ⟨rfl, rfl, rfl, fun _ h => h.elim⟩
  | succ fuel ih =>
    intro i acc s hfuel
    by_cases hlt : (i : ℤ) < s.count
    · have hdoes := hbody i acc s
      have hpacket : s.packets.packets[i]? = some (s.packet i) := by
        rw [getElem?_packets, if_pos (by omega)]
      have hcount : IsoFields.count ((body i acc).final s) = s.count :=
        congrArg Int16.toInt (hdoes.frame .numberOfPackets nofun nofun nofun)
      have hnext := packets_set hcount hdoes.frame
      rw [enumIndexed_of_some hpacket hdoes.kept]
      cases hmore : (visit i acc (s.packet i)).more with
      | true =>
        have hrest := @ih (i + 1) (visit i acc (s.packet i)).ctx
          ((body i acc).final s) (by omega)
        rw [hnext] at hrest
        rw [if_pos rfl]
        refine ⟨?_, ?_, ?_, fun f hf => ?_⟩
        · rw [packetLoop_result, if_pos hlt, hdoes.result, if_pos hmore]
          exact hrest.result
        · rw [packetLoop_final, if_pos hlt, hdoes.result, if_pos hmore]
          exact hrest.packets
        · rw [packetLoop_final, if_pos hlt, hdoes.result, if_pos hmore]
          exact hrest.count.trans hcount
        · rcases packetLoop_touches.mp hf with rfl | ⟨-, hbody' | ⟨-, hf⟩⟩
          · trivial
          · rcases hdoes.touches f hbody' with rfl | rfl | rfl <;> exact ⟨by omega, hlt⟩
          · rw [hdoes.result] at hf
            rw [← hcount]
            exact hrest.touches f hf
      | false =>
        rw [if_neg Bool.false_ne_true]
        have hstop : ¬(visit i acc (s.packet i)).more = true := by simp [hmore]
        refine ⟨?_, ?_, ?_, fun f hf => ?_⟩
        · rw [packetLoop_result, if_pos hlt, hdoes.result, if_neg hstop]
        · rw [packetLoop_final, if_pos hlt, hdoes.result, if_neg hstop]
          exact hnext
        · rw [packetLoop_final, if_pos hlt, hdoes.result, if_neg hstop]
          exact hcount
        · rcases packetLoop_touches.mp hf with rfl | ⟨-, hbody' | ⟨hgo, -⟩⟩
          · trivial
          · rcases hdoes.touches f hbody' with rfl | rfl | rfl <;> exact ⟨by omega, hlt⟩
          · rw [hdoes.result] at hgo
            exact absurd hgo hstop
    · rw [enumIndexed_of_none (by rw [length_packets]; omega)]
      refine ⟨?_, ?_, ?_, fun f hf => ?_⟩
      · rw [packetLoop_result, if_neg hlt]
      · rw [packetLoop_final, if_neg hlt]
      · rw [packetLoop_final, if_neg hlt]
      · rcases packetLoop_touches.mp hf with rfl | ⟨hlt', -⟩
        · trivial
        · exact absurd hlt' hlt

end Loops

/-! ### The functions -/

section Functions

variable {s : IsoFields} {U : Type}

theorem Does.bind {α β : Type} {p : IsoCode α} {k : α → IsoCode β} {a : α} {b : β}
    {c c' : IsoPackets} (h : Does p s a c)
    (hk : ∀ s' : IsoFields, s'.packets = c → s'.count = s.count → Does (k a) s' b c') :
    Does (p >>= k) s b c' := by
  have hrest := hk (p.final s) h.packets h.count
  refine ⟨?_, ?_, ?_, fun f hf => ?_⟩
  · rw [result_bind, h.result]
    exact hrest.result
  · rw [final_bind, h.result]
    exact hrest.packets
  · rw [final_bind, h.result]
    exact hrest.count.trans h.count
  · rw [touches_bind, h.result] at hf
    rcases hf with hf | hf
    · exact h.touches f hf
    · rw [← h.count]
      exact hrest.touches f hf

theorem does_done {α : Type} (a : α) : Does (done a) s a s.packets :=
  ⟨rfl, rfl, rfl, fun _ h => h.elim⟩

theorem Does.bind_return {α β : Type} {p : IsoCode α} {a : α} {c : IsoPackets}
    (h : Does p s a c) (g : α → β) : Does (p >>= fun a => done (g a)) s (g a) c := by
  refine h.bind fun s' hs' _ => ?_
  subst hs'
  exact does_done (g a)

/-- A header field other than `NumberOfPackets` is assigned. -/
theorem does_put {f : IsoField} {v : f.Val} {c : IsoPackets} (hf : ∀ n, f.Within n)
    (hcount : f ≠ .numberOfPackets) (hc : IsoFields.packets (Function.update s f v) = c) :
    Does (put f v) s () c := by
  refine ⟨rfl, hc, ?_, fun g hg => ?_⟩
  · exact congrArg Int16.toInt (Function.update_of_ne hcount.symm v s)
  · rcases hg with rfl | hg
    · exact hf _
    · exact hg.elim

theorem does_load {α : Type} {k : Int16 → IsoCode α} {a : α} {c : IsoPackets}
    (h : Does (k (s .numberOfPackets)) s a c) :
    Does (load IsoField.numberOfPackets >>= k) s a c := by
  refine ⟨h.result, h.packets, h.count, fun f hf => ?_⟩
  rcases hf with rfl | hf
  · trivial
  · exact h.touches f hf

/-- A function that fails from the last packet on. -/
theorem does_guard {α : Type} {p : IsoCode α} {a b : α} {c : IsoPackets} (packetIndex : ℤ)
    (h : packetIndex < s.count → Does p s a c) :
    Does (load IsoField.numberOfPackets >>= fun numberOfPackets : Int16 =>
        if numberOfPackets.toInt ≤ packetIndex then return b else p) s
      (if packetIndex < s.count then a else b)
      (if packetIndex < s.count then c else s.packets) := by
  refine does_load ?_
  show Does (if s.count ≤ packetIndex then return b else p) s _ _
  by_cases hlt : packetIndex < s.count
  · rw [if_pos hlt, if_pos hlt, if_neg (Int.not_le.mpr hlt)]
    exact h hlt
  · rw [if_neg hlt, if_neg hlt, if_pos (Int.not_lt.mp hlt)]
    exact does_done b

theorem count_le (i : ℕ) : s.count ≤ i + (0x100000000 : ℕ) := by
  have := Int16.toInt_lt (s .numberOfPackets)
  show Int16.toInt (s .numberOfPackets) ≤ _
  omega

/-- What the loop of `IsoK_SetPackets` does to a packet. -/
def setOffset (packetSize : UInt32) (_ : ℕ) (nextOffSet : UInt32) (packet : KisoPacket) :
    Visited KisoPacket UInt32 where
  kept := some { packet with offset := nextOffSet }
  ctx := nextOffSet + packetSize
  more := true

/-- What the loop of `IsoK_ReUse` does to a packet. -/
def resetTransfer (_ : ℕ) (_ : Unit) (packet : KisoPacket) : Visited KisoPacket Unit where
  kept := some { packet with length := 0, status := 0 }
  ctx := ()
  more := true

theorem enumIndexed_setOffset (packetSize : UInt32) (packets : List KisoPacket) :
    (enumIndexed (setOffset packetSize) packets 0 0).1 =
      packets.mapIdx fun i packet => { packet with offset := UInt32.ofNat i * packetSize } := by
  have hvisit (i : ℕ) (packet : KisoPacket) :
      countVisits (setOffset packetSize) (i, UInt32.ofNat i * packetSize) packet =
        ⟨some { packet with offset := UInt32.ofNat i * packetSize },
          (i + 1, UInt32.ofNat (i + 1) * packetSize), true⟩ := by
    have hnext : UInt32.ofNat (i + 1) * packetSize = UInt32.ofNat i * packetSize + packetSize := by
      rw [UInt32.ofNat_add, UInt32.add_mul]
      simp
    rw [hnext]
    rfl
  have h := enumerate_eq_mapIdx (c := fun i => (i, UInt32.ofNat i * packetSize)) hvisit packets 0
  simp only [Nat.zero_add] at h
  rw [← h]
  simp [enumIndexed]

theorem enumIndexed_resetTransfer (packets : List KisoPacket) :
    (enumIndexed resetTransfer packets 0 ()).1 =
      packets.map fun packet => { packet with length := 0, status := 0 } :=
  enumerate_eq_map (fun _ _ => rfl) (fun _ _ => rfl) packets (0, ())

theorem does_setPacketsLoop (packetSize : UInt32) :
    ∃ a, Does (setPacketsLoop packetSize) s a (s.packets.setPackets packetSize) := by
  have hloop : Does (setPacketsLoop packetSize) s
      (enumIndexed (setOffset packetSize) s.packets.packets 0 0).2
      { s.packets with
        packets := (enumIndexed (setOffset packetSize) s.packets.packets 0 0).1 } := by
    refine packetLoop_does (i := 0) (fun i nextOffSet s => ?_) (count_le 0)
    refine ⟨rfl, ?_, fun f h₁ h₂ h₃ => ?_, fun f hf => ?_⟩
    · simp [setOffset, IsoFields.packet]
    · simp [h₁]
    · simp at hf
      exact .inl hf
  rw [enumIndexed_setOffset] at hloop
  exact ⟨_, hloop⟩

theorem does_reUseLoop : Does reUseLoop s ()
    { s.packets with
      packets :=
        s.packets.packets.map fun packet => { packet with length := 0, status := 0 } } := by
  have hloop : Does reUseLoop s (enumIndexed resetTransfer s.packets.packets 0 ()).2
      { s.packets with packets := (enumIndexed resetTransfer s.packets.packets 0 ()).1 } := by
    refine packetLoop_does (i := 0) (fun i nextOffSet s => ?_) (count_le 0)
    refine ⟨rfl, ?_, fun f h₁ h₂ h₃ => ?_, fun f hf => ?_⟩
    · simp [resetTransfer, IsoFields.packet]
    · simp [h₂, h₃]
    · simp at hf
      exact .inr hf
  rw [enumIndexed_resetTransfer] at hloop
  exact hloop

theorem does_enumPacketsLoop (cb : IsoEnumCallback U) (i : ℕ) (userState : U) :
    Does (enumPacketsLoop cb i userState) s (s.packets.enumPackets cb i userState).1
      (s.packets.enumPackets cb i userState).2 := by
  refine packetLoop_does (fun i userState s => ?_) (count_le i)
  refine ⟨rfl, ?_, fun f h₁ h₂ h₃ => ?_, fun f hf => ?_⟩
  · simp [loadIsoPacket, storeIsoPacket, IsoPackets.visitPacket, IsoFields.packet]
  · simp [loadIsoPacket, storeIsoPacket, h₁, h₂, h₃]
  · simp [loadIsoPacket, storeIsoPacket] at hf
    rcases hf with h | h | h | h
    · exact .inl h
    · exact .inr (.inl h)
    · exact .inr (.inr h)
    · exact h

/-- Code that stays with one packet. -/
theorem does_packet {p : IsoCode Unit} {i : ℕ} {packet : KisoPacket} (hi : (i : ℤ) < s.count)
    (hpacket : IsoFields.packet (p.final s) i = packet)
    (hframe : ∀ f, f ≠ .offset i → f ≠ .length i → f ≠ .status i → p.final s f = s f)
    (htouches : ∀ f, p.Touches s f → f = .offset i ∨ f = .length i ∨ f = .status i) :
    Does p s () { s.packets with packets := s.packets.packets.set i packet } := by
  have hcount : IsoFields.count (p.final s) = s.count :=
    congrArg Int16.toInt (hframe .numberOfPackets nofun nofun nofun)
  refine ⟨rfl, ?_, hcount, fun f hf => ?_⟩
  · rw [packets_set hcount hframe, hpacket]
  · rcases htouches f hf with rfl | rfl | rfl <;> exact ⟨by omega, hi⟩

theorem does_storeIsoPacket {i : ℕ} (hi : (i : ℤ) < s.count) (packet : KisoPacket) :
    Does (storeIsoPacket i packet) s ()
      { s.packets with packets := s.packets.packets.set i packet } := by
  refine does_packet hi ?_ (fun f h₁ h₂ h₃ => ?_) fun f hf => ?_
  · simp [storeIsoPacket, IsoFields.packet]
  · simp [storeIsoPacket, h₁, h₂, h₃]
  · simpa [storeIsoPacket] using hf

theorem does_loadIsoPacket {i : ℕ} (hi : (i : ℤ) < s.count) :
    Does (loadIsoPacket i) s (s.packet i) s.packets := by
  refine ⟨rfl, rfl, rfl, fun f hf => ?_⟩
  simp [loadIsoPacket] at hf
  rcases hf with rfl | rfl | rfl <;> exact ⟨by omega, hi⟩

/-- The driver leaves a length and a status. -/
theorem does_completePacket {i : ℕ} (hi : (i : ℤ) < s.count) (urb : IsoExUrb) :
    Does (do
        put (IsoField.length i) (urb.isoPacket i).1.toUInt16
        put (IsoField.status i) (isoPacketStatus (urb.isoPacket i).2)) s ()
      { s.packets with
        packets := s.packets.packets.set i (IsoPackets.completePacket urb i (s.packet i)) } := by
  refine does_packet hi ?_ (fun f h₁ h₂ h₃ => ?_) fun f hf => ?_
  · simp [IsoPackets.completePacket, IsoFields.packet]
  · simp [h₂, h₃]
  · simp at hf
    exact .inr hf

/-- A list is edited from the `i`-th element on: that element, and then the rest. -/
theorem mapIdx_from_succ {α : Type} {f : ℕ → α → α} {as : List α} {i : ℕ} {a : α}
    (h : as[i]? = some a) :
    (as.set i (f i a)).mapIdx (fun j b => if i + 1 ≤ j then f j b else b) =
      as.mapIdx fun j b => if i ≤ j then f j b else b := by
  obtain ⟨hi, rfl⟩ := List.getElem?_eq_some_iff.mp h
  refine List.ext_getElem (by simp) fun j _ _ => ?_
  rw [List.getElem_mapIdx, List.getElem_mapIdx, List.getElem_set]
  by_cases hij : i = j
  · subst hij
    rw [if_pos rfl, if_neg (by omega), if_pos (Nat.le_refl i)]
  · rw [if_neg hij]
    refine if_congr ?_ rfl rfl
    omega

theorem mapIdx_from_length {α : Type} {f : ℕ → α → α} {as : List α} {i : ℕ}
    (h : as.length ≤ i) : as.mapIdx (fun j b => if i ≤ j then f j b else b) = as := by
  refine List.ext_getElem (by simp) fun j _ hj => ?_
  rw [List.getElem_mapIdx, if_neg (by omega)]

theorem does_storeAccesses (updateLoop : ℕ → Int16) (urb : IsoExUrb) (i : ℕ) :
    ∀ {s : IsoFields}, (∀ pos, updateLoop pos = s .numberOfPackets) →
      Does (storeAccesses (isoPacketsFromUrb updateLoop urb i)) s ()
        { s.packets with
          packets := s.packets.packets.mapIdx fun j packet =>
            if i ≤ j then IsoPackets.completePacket urb j packet else packet } := by
  fun_induction isoPacketsFromUrb updateLoop urb i with
  | case1 i hi packet =>
    rename_i ih
    intro s hn
    have hcount : (i : ℤ) < s.count := by rwa [hn i] at hi
    have hboth := (does_completePacket hcount urb).bind
      (k := fun _ => storeAccesses (isoPacketsFromUrb updateLoop urb (i + 1)))
      fun s' hs' hcount' => by
        have hrest := @ih s' fun pos => (hn pos).trans (Int16.toInt_inj.mp hcount'.symm)
        rw [hs'] at hrest
        exact hrest
    have hpacket : s.packets.packets[i]? = some (s.packet i) := by
      rw [getElem?_packets, if_pos (by omega)]
    rw [← mapIdx_from_succ (f := IsoPackets.completePacket urb) hpacket]
    exact hboth
  | case2 i hi =>
    intro s hn
    have hcount : s.packets.packets.length ≤ i := by
      rw [length_packets]
      rw [hn i] at hi
      exact Int.toNat_le.mpr (Int.not_lt.mp hi)
    rw [mapIdx_from_length hcount]
    exact does_done ()

/-- The header `XferIsoExComplete` sets. -/
theorem header_xferIsoExComplete (t : IsoCompletion) (updateLoop : ℕ → Int16) :
    (xferIsoExComplete t.fw t.rc t.status t.urb updateLoop t.qc).header =
      if t.Updates then some ⟨t.urb.errorCount.toUInt16, t.urb.startFrame, t.urb.headerStatus⟩
      else none := by
  unfold xferIsoExComplete IsoCompletion.Updates
  split_ifs <;> simp_all
  all_goals assumption

theorem does_isoComplete (t : IsoCompletion) :
    Does (isoComplete t) s () (s.packets.complete t) := by
  refine does_load ?_
  have hheader := header_xferIsoExComplete t fun _ => s .numberOfPackets
  have haccesses := IsoExTransfer.accesses_xferIsoExComplete t.fw t.rc t.status t.urb
    (fun _ => s .numberOfPackets) t.qc
  by_cases h : t.Updates
  · rw [if_pos h] at hheader
    rw [if_pos (show _ ∧ _ from h)] at haccesses
    rw [IsoPackets.complete, if_pos h]
    simp only [hheader, haccesses]
    refine (does_put (f := .errorCount) (fun _ => trivial) nofun rfl).bind fun s₁ h₁ hcount₁ => ?_
    refine (does_put (f := .startFrame) (fun _ => trivial) nofun rfl).bind fun s₂ h₂ hcount₂ => ?_
    refine (does_put (f := .urbHdrStatus) (fun _ => trivial) nofun rfl).bind
      fun s₃ h₃ hcount₃ => ?_
    have hcount : s .numberOfPackets = s₃ .numberOfPackets :=
      Int16.toInt_inj.mp (hcount₃.trans (hcount₂.trans hcount₁)).symm
    have hloop := does_storeAccesses (s := s₃) (fun _ => s .numberOfPackets) t.urb 0
      fun _ => hcount
    rw [h₃, packets_put_urbHdrStatus, h₂, packets_put_startFrame, h₁,
      packets_put_errorCount] at hloop
    simpa using hloop
  · rw [if_neg h] at hheader
    rw [IsoPackets.complete, if_neg h]
    simp only [hheader]
    exact does_done ()

theorem toNat_lt_length_iff (i : ℕ) :
    (i : ℤ).toNat < s.packets.packets.length ↔ (i : ℤ) < s.count := by
  rw [length_packets]
  omega

/-- **A function does to the fields what it does to the packets they stand for.** -/
theorem IsoFunction.does {f : IsoFunction U} (hf : f.Indexed) :
    Does f.code s (s.packets.apply f).1 (s.packets.apply f).2 := by
  cases f with
  | setPackets packetSize =>
    obtain ⟨a, hloop⟩ := does_setPacketsLoop (s := s) packetSize.toUInt32
    exact hloop.bind_return fun _ => IsoResult.success
  | setPacket packetIndex packet =>
    obtain ⟨i, rfl⟩ := Int.eq_ofNat_of_zero_le hf
    have h := does_guard (s := s) (b := IsoResult.failed (U := U)) i fun hlt =>
      (does_storeIsoPacket hlt packet).bind_return fun _ => IsoResult.success
    simp only [IsoPackets.apply, toNat_lt_length_iff, apply_ite Prod.fst, apply_ite Prod.snd]
    exact h
  | getPacket packetIndex =>
    obtain ⟨i, rfl⟩ := Int.eq_ofNat_of_zero_le hf
    have h := does_guard (s := s) (b := IsoResult.failed (U := U)) i fun hlt =>
      (does_loadIsoPacket hlt).bind_return fun packet => IsoResult.packet packet
    have hlt : i < s.count.toNat ↔ (i : ℤ) < s.count := by omega
    have hget : s.packets.apply (.getPacket i) =
        (if (i : ℤ) < s.count then IsoResult.packet (U := U) (s.packet i) else .failed,
          s.packets) := by
      simp only [IsoPackets.apply, Int.toNat_natCast, getElem?_packets, hlt]
      by_cases h : (i : ℤ) < s.count <;> simp only [h, if_true, if_false]
    rw [hget]
    rw [ite_self] at h
    exact h
  | enumPackets cb startPacketIndex userState =>
    obtain ⟨i, rfl⟩ := Int.eq_ofNat_of_zero_le hf
    have h := does_guard (s := s) (b := .failed) i fun _ =>
      (does_enumPacketsLoop cb i userState).bind_return fun userState =>
        IsoResult.enumerated userState
    simp only [IsoPackets.apply, toNat_lt_length_iff, apply_ite Prod.fst, apply_ite Prod.snd]
    exact h
  | reUse =>
    refine does_reUseLoop.bind fun s₁ h₁ _ => ?_
    refine (does_put (f := .startFrame) (fun _ => trivial) nofun rfl).bind fun s₂ h₂ _ => ?_
    refine (does_put (f := .errorCount) (fun _ => trivial) nofun rfl).bind fun s₃ h₃ _ => ?_
    have h := does_done (s := s₃) (IsoResult.success (U := U))
    rw [h₃, packets_put_errorCount, h₂, packets_put_startFrame, h₁] at h
    exact h
  | assignFlags flags =>
    exact (does_put (f := .flags) (fun _ => trivial) nofun rfl).bind_return fun _ =>
      IsoResult.success
  | assignStartFrame startFrame =>
    exact (does_put (f := .startFrame) (fun _ => trivial) nofun rfl).bind_return fun _ =>
      IsoResult.success
  | complete t => exact (does_isoComplete t).bind_return fun _ => IsoResult.success

end Functions

end LibusbK
