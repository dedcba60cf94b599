/-
This file proves that the two framings of the program are read back as they were
written. Docker puts the length of a piece of log in four bytes of an eight-byte
header, and `dockerLogText` joins the pieces again. The Minecraft protocol puts the
length of a packet in front of it as a number of one to five bytes, and so are the
identifier of the packet and the length of a string written.
-/

import Mathlib.Tactic.Ring
import GuardedAgentRunner.GracefulStops

namespace GuardedAgentRunner

open Fallible

variable {length : Nat}

namespace Paper

/-! ### Checked reading -/

/-- `payload[low:high]`, which panics out of range. -/
def slice (payload : List UInt8) (low high : Nat) : Option (List UInt8) :=
  if low ≤ high ∧ high ≤ payload.length then some ((payload.take high).drop low) else none

/-- `binary.BigEndian.Uint32`, of four bytes. -/
def uint32 (field : List UInt8) : Nat :=
  field.foldl (fun value byte => 256 * value + byte.toNat) 0

/-- The loop of `dockerLogText` with every access checked. There is no value when an index or a
bound is out of range, or when the loop has not ended after so many iterations. -/
def checkedFrames : Nat → List UInt8 → List UInt8 → Option (Except Failure (List UInt8))
  | _, output, [] => some (.ok output)
  | 0, _, _ => none
  | iterations + 1, output, payload =>
    if payload.length < 8 then some (.error (.other "invalid Docker log stream framing"))
    else do
      let first ← payload[1]?
      let second ← payload[2]?
      let third ← payload[3]?
      if first ≠ 0 ∨ second ≠ 0 ∨ third ≠ 0 then
        some (.error (.other "invalid Docker log stream framing"))
      else
        let field ← slice payload 4 8
        let size := uint32 field
        if payload.length - 8 < size then
          some (.error (.other "invalid Docker log frame size"))
        else
          let text ← slice payload 8 (8 + size)
          let rest ← slice payload (8 + size) payload.length
          checkedFrames iterations (output ++ text) rest

/-- `dockerLogText` with every access checked. -/
def checkedLogText (iterations : Nat) (payload : List UInt8) :
    Option (Except Failure (List UInt8)) :=
  if payload.length = 0 then some (.ok payload)
  else do
    let first ← payload[0]?
    if first ≠ 1 ∧ first ≠ 2 then some (.ok payload) else checkedFrames iterations [] payload

section Iterations

variable {fuel : Nat} {stream first second third a b c d : UInt8} {payload text rest : List UInt8}
  {output : List UInt8}

theorem unframe_header :
    unframe (fuel + 1) (stream :: first :: second :: third :: a :: b :: c :: d :: rest) =
      if first ≠ 0 ∨ second ≠ 0 ∨ third ≠ 0 then
        .error (.other "invalid Docker log stream framing")
      else if rest.length < uint32 [a, b, c, d] then
        .error (.other "invalid Docker log frame size")
      else (rest.take (uint32 [a, b, c, d]) ++ ·) <$>
        unframe fuel (rest.drop (uint32 [a, b, c, d])) := by
  have reserved : ((stream :: first :: second :: third :: a :: b :: c :: d :: rest).length < 8 ∨
      ((stream :: first :: second :: third :: a :: b :: c :: d :: rest).drop 1).take 3 ≠
        [0, 0, 0]) ↔ first ≠ 0 ∨ second ≠ 0 ∨ third ≠ 0 := by
    simp
    tauto
  rw [unframe.eq_3 _ _ (List.cons_ne_nil _ _), refuse, if_congr reserved rfl rfl]
  split
  · rfl
  · show (do
      refuse (rest.length < uint32 [a, b, c, d]) (Failure.other "invalid Docker log frame size")
      let more ← unframe fuel (List.drop (8 + uint32 [a, b, c, d]) _)
      pure (rest.take (uint32 [a, b, c, d]) ++ more)) = _
    rw [← List.drop_drop, refuse]
    split
    · rfl
    · rfl

theorem checkedFrames_header :
    checkedFrames (fuel + 1) output
        (stream :: first :: second :: third :: a :: b :: c :: d :: rest) =
      if first ≠ 0 ∨ second ≠ 0 ∨ third ≠ 0 then
        some (.error (.other "invalid Docker log stream framing"))
      else if rest.length < uint32 [a, b, c, d] then
        some (.error (.other "invalid Docker log frame size"))
      else checkedFrames fuel (output ++ rest.take (uint32 [a, b, c, d]))
        (rest.drop (uint32 [a, b, c, d])) := by
  show (if rest.length + 8 < 8 then _ else
    if first ≠ 0 ∨ second ≠ 0 ∨ third ≠ 0 then _ else _) = _
  rw [if_neg (by omega)]
  split
  · rfl
  rw [slice, if_pos (by simp)]
  show (if rest.length < uint32 [a, b, c, d] then _ else _) = _
  split
  · rfl
  · rename_i fits
    rw [slice, if_pos (by simp; omega), slice, if_pos (by simp; omega), List.take_length,
      ← List.drop_drop, List.take_add]
    rfl

/-- The loop ends within as many iterations as there are bytes, and reads only what is there. -/
theorem checkedFrames_eq (enough : payload.length ≤ fuel) :
    checkedFrames fuel output payload = some ((output ++ ·) <$> unframe fuel payload) := by
  induction fuel generalizing payload output with
  | zero =>
    obtain rfl := List.length_eq_zero_iff.mp (Nat.le_zero.mp enough)
    exact congrArg (fun text => some (Except.ok text)) (List.append_nil output).symm
  | succ fuel hypothesis =>
    match payload, enough with
    | [], _ => exact congrArg (fun text => some (Except.ok text)) (List.append_nil output).symm
    | [_], _ | [_, _], _ | [_, _, _], _ | [_, _, _, _], _ | [_, _, _, _, _], _
    | [_, _, _, _, _, _], _ | [_, _, _, _, _, _, _], _ => rfl
    | stream :: first :: second :: third :: a :: b :: c :: d :: rest, enough =>
      have shorter : (rest.drop (uint32 [a, b, c, d])).length ≤ fuel := by
        simp at enough ⊢
        omega
      rw [unframe_header, checkedFrames_header]
      split
      · rfl
      split
      · rfl
      · rw [hypothesis shorter, Functor.map_map]
        simp

theorem length_unframe (unframed : unframe fuel payload = .ok text) :
    text.length ≤ payload.length := by
  induction fuel generalizing payload text with
  | zero =>
    cases payload with
    | nil => cases unframed; exact le_refl _
    | cons first others => exact nomatch unframed
  | succ fuel hypothesis =>
    match payload, unframed with
    | [], unframed => cases unframed; exact le_refl _
    | stream :: first :: second :: third :: a :: b :: c :: d :: rest, unframed =>
      rw [unframe_header] at unframed
      split at unframed
      · exact nomatch unframed
      split at unframed
      · exact nomatch unframed
      · rw [map_eq_pure_bind] at unframed
        obtain ⟨more, isMore, same⟩ := bind_eq_ok.mp unframed
        cases same
        have shorter := hypothesis isMore
        simp at shorter ⊢
        omega

end Iterations

/-! ### Log frames -/

/-- A frame of a log stream: its stream and less than four gigabytes of text. -/
structure LogFrame where
  stream : UInt8
  payload : List UInt8
  known : stream = 1 ∨ stream = 2
  short : payload.length < 2 ^ 32

/-- The stream, three reserved bytes, the length in network order, and the text. -/
def LogFrame.bytes (frame : LogFrame) : List UInt8 :=
  let length := frame.payload.length
  frame.stream :: 0 :: 0 :: 0 :: (length / 2 ^ 24).toUInt8 :: (length / 2 ^ 16).toUInt8 ::
    (length / 2 ^ 8).toUInt8 :: length.toUInt8 :: frame.payload

theorem uint32_length (short : length < 2 ^ 32) :
    uint32 [(length / 2 ^ 24).toUInt8, (length / 2 ^ 16).toUInt8, (length / 2 ^ 8).toUInt8,
      length.toUInt8] = length := by
  simp [uint32]
  omega

variable {frames : List LogFrame} {frame : LogFrame} {fuel : Nat} {payload rest : List UInt8}

theorem unframe_frames :
    unframe (frames.length + fuel) (frames.flatMap LogFrame.bytes ++ rest) =
      (frames.flatMap LogFrame.payload ++ ·) <$> unframe fuel rest := by
  induction frames with
  | nil => simp
  | cons frame frames hypothesis =>
    rw [List.length_cons, Nat.add_right_comm, List.flatMap_cons, List.append_assoc]
    rw [LogFrame.bytes]
    simp only [List.cons_append]
    rw [unframe_header, uint32_length frame.short, if_neg (by simp), if_neg (by simp),
      List.take_left, List.drop_left, hypothesis, Functor.map_map]
    simp

theorem unframe_truncated (truncated : payload <+: frame.bytes) (proper : payload ≠ frame.bytes)
    (nonempty : payload ≠ []) : ∃ failure, unframe fuel payload = .error failure := by
  obtain ⟨missing, complete⟩ := truncated
  have lacking : missing ≠ [] := by
    rintro rfl
    exact proper ((List.append_nil payload).symm.trans complete)
  cases fuel with
  | zero =>
    cases payload with
    | nil => exact absurd rfl nonempty
    | cons first others => exact ⟨_, rfl⟩
  | succ fuel =>
    match payload, nonempty, complete with
    | [_], _, _ | [_, _], _, _ | [_, _, _], _, _ | [_, _, _, _], _, _ | [_, _, _, _, _], _, _
    | [_, _, _, _, _, _], _, _ | [_, _, _, _, _, _, _], _, _ => exact ⟨_, rfl⟩
    | stream :: first :: second :: third :: a :: b :: c :: d :: rest, _, complete =>
      simp only [LogFrame.bytes, List.cons_append, List.cons.injEq] at complete
      obtain ⟨rfl, rfl, rfl, rfl, rfl, rfl, rfl, rfl, same⟩ := complete
      have shorter : rest.length < frame.payload.length := by
        rw [← same, List.length_append]
        exact Nat.lt_add_of_pos_right (List.length_pos_iff.mpr lacking)
      rw [unframe_header, uint32_length frame.short, if_neg (by simp), if_pos shorter]
      exact ⟨_, rfl⟩

theorem length_frames : frames.length ≤ (frames.flatMap LogFrame.bytes).length := by
  induction frames with
  | nil => exact le_refl _
  | cons frame frames hypothesis =>
    rw [List.flatMap_cons, List.length_append, List.length_cons]
    have positive : 1 ≤ frame.bytes.length := Nat.le_add_left ..
    omega

/-- A stream that starts with frames, or with the beginning of one, is read as frames. -/
theorem dockerLogText_frames (nonempty : frames.flatMap LogFrame.bytes ++ rest ≠ [])
    (begins : rest <+: frame.bytes) :
    ∃ fuel, dockerLogText (frames.flatMap LogFrame.bytes ++ rest) =
      (frames.flatMap LogFrame.payload ++ ·) <$> unframe fuel rest := by
  have framed : (frames.flatMap LogFrame.bytes ++ rest).head? = some 1 ∨
      (frames.flatMap LogFrame.bytes ++ rest).head? = some 2 := by
    cases frames with
    | cons frame others => exact frame.known.imp (congrArg some) (congrArg some)
    | nil =>
      obtain ⟨missing, complete⟩ := begins
      cases rest with
      | nil => exact absurd rfl nonempty
      | cons first others =>
        obtain rfl : first = frame.stream := (List.cons.inj complete).1
        exact frame.known.imp (congrArg some) (congrArg some)
  have long : frames.length ≤ (frames.flatMap LogFrame.bytes ++ rest).length := by
    rw [List.length_append]
    exact length_frames.trans (Nat.le_add_right _ _)
  obtain ⟨fuel, enough⟩ := Nat.exists_eq_add_of_le long
  refine ⟨fuel, ?_⟩
  rw [dockerLogText, if_pos framed, enough, unframe_frames]

/-- The frames of a log stream are joined again; whatever the bytes are, the loop ends, reads
nothing out of range and returns no more than it was given; and a stream that ends inside a frame
is refused. -/
theorem dockerLogText_demultiplexes :
    (∀ frames : List LogFrame, frames ≠ [] →
      dockerLogText (frames.flatMap LogFrame.bytes) = .ok (frames.flatMap LogFrame.payload)) ∧
    (∀ payload : List UInt8,
      (∃ iterations, checkedLogText iterations payload = some (dockerLogText payload)) ∧
      ∀ text, dockerLogText payload = .ok text → text.length ≤ payload.length) ∧
    ∀ (frames : List LogFrame) (frame : LogFrame) (truncated : List UInt8),
      truncated <+: frame.bytes → truncated ≠ frame.bytes → truncated ≠ [] →
      ∃ failure, dockerLogText (frames.flatMap LogFrame.bytes ++ truncated) = .error failure := by
  refine ⟨fun frames nonempty => ?_, fun payload => ⟨⟨payload.length, ?_⟩, fun text isText => ?_⟩,
    fun frames frame truncated begins proper nonempty => ?_⟩
  · obtain ⟨frame, others, rfl⟩ := List.exists_cons_of_ne_nil nonempty
    have some : (frame :: others).flatMap LogFrame.bytes ++ [] ≠ [] := by simp [LogFrame.bytes]
    obtain ⟨fuel, reads⟩ := dockerLogText_frames some (List.nil_prefix : [] <+: frame.bytes)
    have ended : unframe fuel [] = .ok [] := by cases fuel <;> rfl
    rw [List.append_nil, ended] at reads
    exact reads.trans (congrArg Except.ok (List.append_nil _))
  · cases payload with
    | nil => rfl
    | cons first others =>
      show (if first ≠ 1 ∧ first ≠ 2 then _ else _) = _
      by_cases known : first = 1 ∨ first = 2
      · rw [if_neg (by tauto), dockerLogText, if_pos (by simpa using known),
          checkedFrames_eq (le_refl _)]
        simp
      · rw [if_pos (by tauto), dockerLogText, if_neg (by simpa using known)]
        rfl
  · unfold dockerLogText at isText
    split at isText
    · exact length_unframe isText
    · cases isText
      exact le_refl _
  · have some : frames.flatMap LogFrame.bytes ++ truncated ≠ [] := by simp [nonempty]
    obtain ⟨fuel, reads⟩ := dockerLogText_frames some begins
    have refused : ∃ failure, unframe fuel truncated = .error failure :=
      unframe_truncated begins proper nonempty
    obtain ⟨failure, refused⟩ := refused
    exact ⟨failure, by rw [reads, refused]; rfl⟩

/-- Two frames of the two streams, and then the beginning of a third. -/
theorem dockerLogText_demultiplexes_of_two :
    dockerLogText [1, 0, 0, 0, 0, 0, 0, 2, 72, 105, 2, 0, 0, 0, 0, 0, 0, 1, 33] =
        .ok [72, 105, 33] ∧
      ∃ failure, dockerLogText [1, 0, 0, 0, 0, 0, 0, 2, 72, 105, 2, 0, 0, 0, 0, 0, 0, 1] =
        .error failure := by
  have joined := dockerLogText_demultiplexes.1
    [⟨1, [72, 105], Or.inl rfl, by decide⟩, ⟨2, [33], Or.inr rfl, by decide⟩] nofun
  have refused := dockerLogText_demultiplexes.2.2 [⟨1, [72, 105], Or.inl rfl, by decide⟩]
    ⟨2, [33], Or.inr rfl, by decide⟩ [2, 0, 0, 0, 0, 0, 0, 1] ⟨[33], by decide⟩ (by decide) nofun
  exact ⟨joined, refused⟩

end Paper

namespace Minecraft

/-! ### Numbers of one to five bytes -/

def maxPacket : Nat := 2 ^ 20

/-- The loop of `appendVarInt`: seven bits a byte, the low ones first, with the high bit of a byte
set when another one follows. -/
def varInt (remaining : Nat) : List UInt8 :=
  let current := remaining &&& 0x7f
  if remaining >>> 7 ≠ 0 then (current ||| 0x80).toUInt8 :: varInt (remaining >>> 7)
  else [current.toUInt8]
termination_by remaining
decreasing_by
  rw [Nat.shiftRight_eq_div_pow] at *
  omega

/-- `appendVarInt`. -/
def appendVarInt (destination : List UInt8) (value : Int32) : List UInt8 :=
  destination ++ varInt value.toUInt32.toNat

/-- The loop of `readVarInt`. -/
def readVarIntFrom (position value : Nat) : List UInt8 → Except String (Int32 × List UInt8)
  | [] => if position < 5 then .error "EOF" else .error "Minecraft VarInt exceeds five bytes"
  | current :: rest =>
    if position < 5 then
      let value := value ||| ((current.toNat &&& 0x7f) <<< (7 * position)) % 2 ^ 32
      if current.toNat &&& 0x80 = 0 then .ok ((UInt32.ofNat value).toInt32, rest)
      else readVarIntFrom (position + 1) value rest
    else .error "Minecraft VarInt exceeds five bytes"

/-- `readVarInt`. -/
def readVarInt (reader : List UInt8) : Except String (Int32 × List UInt8) :=
  readVarIntFrom 0 0 reader

/-- `io.ReadFull`. -/
def readFull (length : Nat) (reader : List UInt8) : Except String (List UInt8 × List UInt8) :=
  if length ≤ reader.length then .ok (reader.take length, reader.drop length)
  else .error (if reader = [] then "EOF" else "unexpected EOF")

/-! ### Strings and packets -/

/-- `appendString`. -/
def appendString (destination value : List UInt8) : List UInt8 :=
  appendVarInt destination (Int32.ofNat value.length) ++ value

/-- `consumeString`. -/
def consumeString (payload : List UInt8) : Except String (List UInt8 × List UInt8) := do
  let (length, reader) ← readVarInt payload
  if length.toInt < 0 ∨ length.toInt > maxPacket ∨ length.toInt > reader.length then
    .error ("invalid Minecraft string length " ++ toString length.toInt)
  else readFull length.toInt.toNat reader

/-- The identifier and the payload of a packet. -/
structure Packet where
  id : Int32
  payload : List UInt8

/-- The bytes that the length of a packet counts. -/
def Packet.body (packet : Packet) : List UInt8 := appendVarInt [] packet.id ++ packet.payload

/-- `writePacket`. -/
def writePacket (packet : Packet) : List UInt8 :=
  appendVarInt [] (Int32.ofNat packet.body.length) ++ packet.body

/-- `readPacket`. -/
def readPacket (reader : List UInt8) : Except String (Packet × List UInt8) := do
  let (length, reader) ← readVarInt reader
  if length.toInt < 1 ∨ length.toInt > maxPacket then
    .error ("invalid Minecraft packet length " ++ toString length.toInt)
  else do
    let (payload, reader) ← readFull length.toInt.toNat reader
    let (id, rest) ← readVarInt payload
    pure (⟨id, rest⟩, reader)

/-- Read packets one by one. -/
def readPackets : Nat → List UInt8 → Except String (List Packet × List UInt8)
  | 0, reader => pure ([], reader)
  | count + 1, reader => do
    let (packet, reader) ← readPacket reader
    let (packets, reader) ← readPackets count reader
    pure (packet :: packets, reader)

/-! ### Round trips -/

variable {position value remaining : Nat} {rest : List UInt8} {packet : Packet}

theorem varInt_eq (remaining : Nat) :
    varInt remaining = if remaining / 128 ≠ 0 then
      (remaining % 128 + 128).toUInt8 :: varInt (remaining / 128)
      else [(remaining % 128).toUInt8] := by
  have low : remaining &&& 0x7f = remaining % 128 := Nat.and_two_pow_sub_one_eq_mod remaining 7
  have high : remaining % 128 ||| 0x80 = remaining % 128 + 128 := by
    rw [Nat.or_comm, Nat.add_comm]
    exact (Nat.two_pow_add_eq_or_of_lt (i := 7) (Nat.mod_lt _ (by decide)) 1).symm
  rw [varInt, low, high, Nat.shiftRight_eq_div_pow]

theorem or_shiftLeft {bits : Nat} (small : value < 2 ^ (7 * position))
    (fits : value + bits * 2 ^ (7 * position) < 2 ^ 32) :
    value ||| (bits <<< (7 * position)) % 2 ^ 32 = value + bits * 2 ^ (7 * position) := by
  have above := Nat.two_pow_add_eq_or_of_lt small bits
  rw [Nat.shiftLeft_eq, Nat.mod_eq_of_lt (by omega), Nat.or_comm, Nat.mul_comm bits, ← above,
    Nat.add_comm]

theorem readVarIntFrom_cons {byte : Nat} (isByte : byte < 256) (early : position < 5)
    (small : value < 2 ^ (7 * position))
    (fits : value + byte % 128 * 2 ^ (7 * position) < 2 ^ 32) :
    readVarIntFrom position value (byte.toUInt8 :: rest) =
      if byte < 128 then
        .ok ((UInt32.ofNat (value + byte % 128 * 2 ^ (7 * position))).toInt32, rest)
      else readVarIntFrom (position + 1) (value + byte % 128 * 2 ^ (7 * position)) rest := by
  have number : byte.toUInt8.toNat = byte := by
    simp
    omega
  have low : byte &&& 0x7f = byte % 128 := Nat.and_two_pow_sub_one_eq_mod byte 7
  have high : byte &&& 0x80 = 0 ↔ byte < 128 := by
    have each : ∀ byte < 256, (byte &&& 0x80 = 0 ↔ byte < 128) := by decide +kernel
    exact each byte isByte
  rw [readVarIntFrom, if_pos early, number, low]
  dsimp only
  rw [or_shiftLeft small fits, if_congr high rfl rfl]

theorem readVarIntFrom_varInt (early : position < 5) (small : value < 2 ^ (7 * position))
    (fits : value + remaining * 2 ^ (7 * position) < 2 ^ 32) :
    readVarIntFrom position value (varInt remaining ++ rest) =
      .ok ((UInt32.ofNat (value + remaining * 2 ^ (7 * position))).toInt32, rest) := by
  induction remaining using Nat.strong_induction_on generalizing position value with
  | _ remaining hypothesis =>
    have parts := Nat.mod_add_div remaining 128
    have remainder : remaining % 128 < 128 := Nat.mod_lt _ (by decide)
    rw [varInt_eq]
    split
    · rename_i more
      have power : 2 ^ (7 * (position + 1)) = 2 ^ (7 * position) * 128 := by
        rw [Nat.mul_add, Nat.pow_add]
      have bits : (remaining % 128 + 128) % 128 = remaining % 128 := by omega
      have whole : remaining % 128 * 2 ^ (7 * position) +
          remaining / 128 * 2 ^ (7 * (position + 1)) = remaining * 2 ^ (7 * position) := by
        nth_rewrite 3 [← parts]
        rw [power, Nat.add_mul]
        ring
      have next : position + 1 < 5 := by
        by_contra late
        obtain rfl : position = 4 := by omega
        omega
      have below : value + remaining % 128 * 2 ^ (7 * position) < 2 ^ (7 * (position + 1)) := by
        have most := Nat.mul_le_mul_right (2 ^ (7 * position)) (Nat.le_of_lt_succ remainder)
        omega
      rw [List.cons_append, readVarIntFrom_cons (by omega) early small (by rw [bits]; omega), bits,
        if_neg (by omega), hypothesis _ (by omega) next below (by omega), Nat.add_assoc,
        whole]
    · rename_i last
      have bits : remaining % 128 = remaining := by omega
      rw [bits, List.singleton_append, readVarIntFrom_cons (by omega) early small
        (by rw [bits]; exact fits), if_pos (by omega), bits]

theorem readVarInt_appendVarInt (number : Int32) :
    readVarInt (appendVarInt [] number ++ rest) = .ok (number, rest) := by
  have small : 0 + number.toUInt32.toNat * 2 ^ (7 * 0) < 2 ^ 32 := by
    have := number.toUInt32.toNat_lt
    omega
  rw [readVarInt, appendVarInt, List.nil_append,
    readVarIntFrom_varInt (by decide) (by decide) small]
  simp

theorem length_varInt (groups : Nat) (small : remaining < 2 ^ (7 * (groups + 1))) :
    1 ≤ (varInt remaining).length ∧ (varInt remaining).length ≤ groups + 1 := by
  induction groups generalizing remaining with
  | zero =>
    rw [varInt_eq, if_neg (by omega)]
    exact ⟨le_refl _, le_refl _⟩
  | succ groups hypothesis =>
    have power : 2 ^ (7 * (groups + 1 + 1)) = 2 ^ (7 * (groups + 1)) * 128 := by
      rw [Nat.mul_add, Nat.pow_add]
    rw [varInt_eq]
    split
    · have shorter := hypothesis (Nat.div_lt_of_lt_mul (by omega : remaining < 128 * _))
      rw [List.length_cons]
      omega
    · exact ⟨le_refl _, Nat.le_add_left ..⟩

theorem length_appendVarInt (number : Int32) :
    1 ≤ (appendVarInt [] number).length ∧ (appendVarInt [] number).length ≤ 5 :=
  length_varInt 4 (lt_of_lt_of_le number.toUInt32.toNat_lt (by decide))

theorem toInt_length (short : length ≤ maxPacket) :
    (Int32.ofNat length).toInt = length :=
  Int32.toInt_ofNat_of_lt (lt_of_le_of_lt short (by decide))

theorem readFull_append (value : List UInt8) :
    readFull value.length (value ++ rest) = .ok (value, rest) := by
  rw [readFull, if_pos (by simp), List.take_left, List.drop_left]

theorem consumeString_appendString {value : List UInt8} (short : value.length ≤ maxPacket) :
    consumeString (appendString [] value ++ rest) = .ok (value, rest) := by
  have fits : ¬ ((Int32.ofNat value.length).toInt < 0 ∨
      (Int32.ofNat value.length).toInt > maxPacket ∨
      (Int32.ofNat value.length).toInt > (value ++ rest).length) := by
    rw [toInt_length short, List.length_append]
    omega
  rw [consumeString, appendString, List.append_assoc, readVarInt_appendVarInt]
  show (if _ then _ else _) = _
  rw [if_neg fits, toInt_length short]
  exact readFull_append value

theorem readPacket_writePacket (short : packet.body.length ≤ maxPacket) :
    readPacket (writePacket packet ++ rest) = .ok (packet, rest) := by
  have counts := (length_appendVarInt packet.id).1
  have long : packet.body.length = (appendVarInt [] packet.id).length + packet.payload.length :=
    List.length_append
  have fits : ¬ ((Int32.ofNat packet.body.length).toInt < 1 ∨
      (Int32.ofNat packet.body.length).toInt > maxPacket) := by
    rw [toInt_length short]
    omega
  rw [readPacket, writePacket, List.append_assoc, readVarInt_appendVarInt]
  show (if _ then _ else _) = _
  rw [if_neg fits, toInt_length short, Int.toNat_natCast, readFull_append]
  show (readVarInt packet.body >>= _) = _
  rw [Packet.body, readVarInt_appendVarInt]
  rfl

theorem readPackets_writePackets {packets : List Packet}
    (short : ∀ packet ∈ packets, packet.body.length ≤ maxPacket) :
    readPackets packets.length (packets.flatMap writePacket ++ rest) = .ok (packets, rest) := by
  induction packets with
  | nil => rfl
  | cons packet packets hypothesis =>
    obtain ⟨head, tail⟩ := List.forall_mem_cons.mp short
    rw [List.length_cons, List.flatMap_cons, List.append_assoc, readPackets,
      readPacket_writePacket head]
    show (readPackets packets.length _ >>= _) = _
    rw [hypothesis tail]
    rfl

theorem length_readVarIntFrom {bytes : List UInt8} {number : Int32}
    (read : readVarIntFrom position value bytes = .ok (number, rest)) :
    rest.length < bytes.length := by
  induction bytes generalizing position value with
  | nil =>
    rw [readVarIntFrom] at read
    split at read <;> exact nomatch read
  | cons current bytes hypothesis =>
    rw [readVarIntFrom] at read
    split at read
    · dsimp only at read
      split at read
      · cases read
        exact Nat.lt_succ_self _
      · exact (hypothesis read).trans (Nat.lt_succ_self _)
    · exact nomatch read

theorem length_readPacket {reader : List UInt8} (read : readPacket reader = .ok (packet, rest)) :
    packet.payload.length < maxPacket := by
  obtain ⟨⟨length, reader⟩, -, read⟩ := bind_eq_ok.mp read
  dsimp only at read
  split at read
  · exact nomatch read
  · rename_i accepted
    obtain ⟨⟨payload, reader⟩, isPayload, read⟩ := bind_eq_ok.mp read
    obtain ⟨⟨id, others⟩, isId, read⟩ := bind_eq_ok.mp read
    cases read
    have shorter : others.length < payload.length := length_readVarIntFrom isId
    have bounded : payload.length ≤ length.toInt.toNat := by
      unfold readFull at isPayload
      split at isPayload
      · cases isPayload
        exact List.length_take_le ..
      · exact nomatch isPayload
    show others.length < maxPacket
    omega

/-- Numbers, strings and sequences of packets are read back from what is written of them, whatever
follows, and no packet that is read has more than the allowed payload. -/
theorem framing_roundTrip :
    (∀ (number : Int32) (rest : List UInt8),
      readVarInt (appendVarInt [] number ++ rest) = .ok (number, rest) ∧
        1 ≤ (appendVarInt [] number).length ∧ (appendVarInt [] number).length ≤ 5) ∧
    (∀ text rest : List UInt8, text.length ≤ 2 ^ 20 →
      consumeString (appendString [] text ++ rest) = .ok (text, rest)) ∧
    (∀ packets : List Packet, (∀ packet ∈ packets, packet.body.length ≤ 2 ^ 20) →
      readPackets packets.length (packets.flatMap writePacket) = .ok (packets, [])) ∧
    ∀ (reader rest : List UInt8) (packet : Packet), readPacket reader = .ok (packet, rest) →
      packet.payload.length < 2 ^ 20 := by
  refine ⟨fun number rest => ⟨readVarInt_appendVarInt number, length_appendVarInt number⟩,
    fun text rest short => consumeString_appendString short, fun packets short => ?_,
    fun reader rest packet => length_readPacket⟩
  have read : readPackets packets.length (packets.flatMap writePacket ++ []) = .ok (packets, []) :=
    readPackets_writePackets short
  rwa [List.append_nil] at read

/-- A negative number, an empty string and two packets. -/
theorem framing_roundTrip_of_login :
    readVarInt (appendVarInt [] (-1) ++ [7]) = .ok (-1, [7]) ∧
      consumeString (appendString [] [] ++ [9]) = .ok ([], [9]) ∧
      readPackets 2 (writePacket ⟨0, [1, 2]⟩ ++ (writePacket ⟨-1, []⟩ ++ [])) =
        .ok ([⟨0, [1, 2]⟩, ⟨-1, []⟩], []) := by
  refine ⟨(framing_roundTrip.1 (-1) [7]).1, framing_roundTrip.2.1 [] [9] (by decide),
    framing_roundTrip.2.2.1 [⟨0, [1, 2]⟩, ⟨-1, []⟩] fun packet listed => ?_⟩
  have small := (framing_roundTrip.1 packet.id []).2.2
  have short : packet.payload.length ≤ 2 := by
    rcases List.mem_cons.mp listed with rfl | listed
    · exact le_refl _
    · obtain rfl := List.mem_singleton.mp listed
      exact Nat.zero_le _
  rw [Packet.body, List.length_append]
  omega

end Minecraft

end GuardedAgentRunner
