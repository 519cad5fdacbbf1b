import CommandShell.ArgVector
import CommandShell.Proofs.LineCalls
import Mathlib

/-!
# How buffers grow

A buffer has room for a multiple of its step, the least one that is enough for its items and never
less than one step (`GrowingBuffer.room`).  It is full just when its items fill such a multiple, so
that is when room is made, by one step, for the next item.  The enlargements are therefore known
from the number of items alone (`GrowingBuffer.enlargements`), and they come in time: an item is
stored only where there is room for it.  `GrowingBuffer.Fits` says this of a buffer; storing an item
keeps it (`GrowingBuffer.Fits.push`).

Reading a line goes from one moment to the next by storing a byte (`LineRead.Stores`).  At each
moment the buffer holds what was stored so far, and at the last one the bytes that stand before the
first newline, end or failure (`Input.stored`), so what holds of buffers in general holds at all
moments of the call.
-/

namespace CommandShell

namespace GrowingBuffer

variable {α : Type}

/-! ### Room and enlargements -/

/-- The room that a number of items take, in steps. -/
def room (step count : Nat) : Nat :=
  step * max 1 (count ⌈/⌉ step)

/-- The room after each enlargement that a number of items make necessary: two steps, three steps,
and so on. -/
def enlargements (step count : Nat) : List Nat :=
  (List.range' 2 (count ⌈/⌉ step - 1)).map (step * ·)

variable {step : Nat}

/-- One more item than so many begins a new step. -/
lemma succ_ceilDiv (hstep : 0 < step) (n : Nat) : (n + 1) ⌈/⌉ step = n / step + 1 := by
  rw [Nat.ceilDiv_eq_add_pred_div, show n + 1 + step - 1 = n + step by omega,
    Nat.add_div_right n hstep]

lemma room_zero (step : Nat) : room step 0 = step := by
  simp [room]

lemma room_succ (hstep : 0 < step) (n : Nat) : room step (n + 1) = step * (n / step + 1) := by
  rw [room, succ_ceilDiv hstep, Nat.max_eq_right (Nat.le_add_left 1 _)]

lemma enlargements_zero (step : Nat) : enlargements step 0 = [] := by
  simp [enlargements]

lemma enlargements_succ (hstep : 0 < step) (n : Nat) :
    enlargements step (n + 1) = (List.range' 2 (n / step)).map (step * ·) := by
  rw [enlargements, succ_ceilDiv hstep, Nat.add_sub_cancel]

/-- Items fill their room if and only if there are some and their number is a multiple of the
step. -/
lemma eq_room_iff (hstep : 0 < step) (count : Nat) :
    count = room step count ↔ count ≠ 0 ∧ step ∣ count := by
  cases count with
  | zero =>
    rw [room_zero]
    simp [hstep.ne]
  | succ n =>
    rw [room_succ hstep]
    constructor
    · intro h
      exact ⟨Nat.succ_ne_zero n, Dvd.intro _ h.symm⟩
    · rintro ⟨-, hdvd⟩
      have hdiv : (n + 1) / step = n / step + 1 := by rw [Nat.succ_div, if_pos hdvd]
      rw [← hdiv, Nat.mul_div_cancel' hdvd]

/-- There is room for all items. -/
lemma le_room (hstep : 0 < step) (count : Nat) : count ≤ room step count := by
  have hceil : count ≤ step * (count ⌈/⌉ step) := (ceilDiv_le_iff_le_mul hstep).mp le_rfl
  exact hceil.trans (Nat.mul_le_mul_left step (Nat.le_max_right 1 _))

/-- One more item takes one more step if and only if the others fill their room. -/
lemma room_succ_eq (hstep : 0 < step) (count : Nat) :
    room step (count + 1) = room step count + if count ≠ 0 ∧ step ∣ count then step else 0 := by
  cases count with
  | zero => rw [room_succ hstep, room_zero, Nat.zero_div]; simp
  | succ n =>
    rw [room_succ hstep, room_succ hstep, Nat.succ_div]
    by_cases hdvd : step ∣ n + 1
    · simp [hdvd, Nat.mul_add]
    · simp [hdvd]

/-- One more item makes one more enlargement necessary if and only if the others fill their room. -/
lemma enlargements_succ_eq (hstep : 0 < step) (count : Nat) :
    enlargements step (count + 1) =
      enlargements step count ++ if count ≠ 0 ∧ step ∣ count then [count + step] else [] := by
  cases count with
  | zero => rw [enlargements_succ hstep, enlargements_zero, Nat.zero_div]; simp
  | succ n =>
    rw [enlargements_succ hstep, enlargements_succ hstep, Nat.succ_div]
    by_cases hdvd : step ∣ n + 1
    · have hfull : n + 1 = step * (n / step + 1) := by
        have h := (eq_room_iff hstep (n + 1)).mpr ⟨Nat.succ_ne_zero n, hdvd⟩
        rwa [room_succ hstep] at h
      have hroom : n + 1 + step = step * (2 + n / step) := by rw [hfull]; ring
      simp [hdvd, List.range'_concat, hroom]
    · simp [hdvd]

/-- No enlargement is necessary if and only if the first step is enough. -/
lemma enlargements_eq_nil_iff (hstep : 0 < step) (count : Nat) :
    enlargements step count = [] ↔ count ≤ step := by
  rw [enlargements, List.map_eq_nil_iff, List.range'_eq_nil_iff, Nat.sub_eq_zero_iff_le,
    ceilDiv_le_iff_le_mul hstep, Nat.mul_one]

/-! ### Buffers that fit -/

/-- A buffer holds some items, has just the room for them, and was enlarged when that was necessary.
Before one more item is stored it is enlarged by a step, if the items fill the steps so far, and
then there is room for that item. -/
structure Fits (step : Nat) (items : List α) (b : GrowingBuffer α) : Prop where
  step_eq : b.step = step
  toList_eq : b.toList = items
  size_eq : b.size = items.length
  size_le : b.size ≤ b.capacity
  capacity_eq : b.capacity = room step items.length
  growthList_eq : b.growthList = enlargements step items.length
  /-- There is room for one more item before it is stored. -/
  size_reserve_lt : b.reserve.size < b.reserve.capacity
  /-- It was made just then, or it was there. -/
  growthList_reserve : b.reserve.growthList = b.growthList ++
    if items.length ≠ 0 ∧ step ∣ items.length then [items.length + step] else []

/-- A buffer with just the room for so many items is full if and only if they fill the steps so
far. -/
lemma full_iff (hstep : 0 < step) {b : GrowingBuffer α} {count : Nat} (hsize : b.size = count)
    (hcapacity : b.capacity = room step count) :
    b.size = b.capacity ↔ count ≠ 0 ∧ step ∣ count := by
  rw [hsize, hcapacity]
  exact eq_room_iff hstep count

/-- What a buffer holds, its room and its enlargements are enough for it to fit. -/
lemma fits_of_eq (hstep : 0 < step) {items : List α} {b : GrowingBuffer α} (hb : b.step = step)
    (htoList : b.toList = items) (hsize : b.size = items.length)
    (hcapacity : b.capacity = room step items.length)
    (hgrowths : b.growthList = enlargements step items.length) : Fits step items b := by
  have hle : b.size ≤ b.capacity := by
    rw [hsize, hcapacity]
    exact le_room hstep items.length
  have hfull := full_iff hstep hsize hcapacity
  refine ⟨hb, htoList, hsize, hle, hcapacity, hgrowths, ?_, ?_⟩
  · rw [reserve]
    split
    · next h => simp only [h, hb]; omega
    · next h => omega
  · rw [reserve]
    by_cases h : b.size = b.capacity
    · simp only [if_pos h, if_pos (hfull.mp h), growthList, List.reverse_cons]
      rw [← h, hsize, hb]
    · rw [if_neg h, if_neg (mt hfull.mpr h), List.append_nil]

lemma fits_empty (hstep : 0 < step) : Fits step [] (empty step : GrowingBuffer α) :=
  fits_of_eq hstep rfl rfl rfl (room_zero step).symm (enlargements_zero step).symm

/-- Storing an item leaves a buffer that fits. -/
lemma Fits.push (hstep : 0 < step) {items : List α} {b : GrowingBuffer α} (h : Fits step items b)
    (a : α) : Fits step (items ++ [a]) (b.push a) := by
  have hreserve : b.reserve.step = step ∧ b.reserve.capacity = room step (items.length + 1) := by
    have hfull := full_iff hstep h.size_eq h.capacity_eq
    rw [room_succ_eq hstep, ← h.capacity_eq, reserve]
    by_cases hb : b.size = b.capacity
    · rw [if_pos hb, if_pos (hfull.mp hb)]
      exact ⟨h.step_eq, congrArg (b.capacity + ·) h.step_eq⟩
    · rw [if_neg hb, if_neg (mt hfull.mpr hb)]
      exact ⟨h.step_eq, rfl⟩
  have hgrowths : (b.push a).growthList = b.reserve.growthList := rfl
  have hlength : (items ++ [a]).length = items.length + 1 := List.length_append
  refine fits_of_eq hstep hreserve.1 ?_ ?_ ?_ ?_
  · rw [toList_push, h.toList_eq]
  · rw [hlength, ← h.size_eq]
    rfl
  · rw [hlength]
    exact hreserve.2
  · rw [hgrowths, h.growthList_reserve, h.growthList_eq, hlength, enlargements_succ_eq hstep]

/-- Items that are stored one after the other fit, whatever there was before. -/
lemma Fits.foldl_push (hstep : 0 < step) {items : List α} {b : GrowingBuffer α}
    (h : Fits step items b) (more : List α) :
    Fits step (items ++ more) (more.foldl GrowingBuffer.push b) := by
  induction more generalizing items b with
  | nil => rwa [List.append_nil]
  | cons a more ih =>
    rw [← List.singleton_append, ← List.append_assoc]
    exact ih (h.push hstep a)

/-- A buffer into which some items were stored fits. -/
lemma fits_ofList (hstep : 0 < step) (items : List α) : Fits step items (ofList step items) :=
  (fits_empty hstep).foldl_push hstep items

end GrowingBuffer

open GrowingBuffer (Fits enlargements)
open LineRead (newline)

/-! ### Storing the bytes of a line -/

/-- A byte that belongs to a line. -/
def Arrival.isInner : Arrival → Bool
  | byte b => b ≠ newline
  | _ => false

/-- The bytes that reading a line stores: those that arrive before the first newline, end or
failure. -/
def Input.stored (i : Input) : Bytes :=
  Arrival.data (i.arrivals.takeWhile Arrival.isInner)

namespace Arrival

/-- Reading a line stores the bytes before the first newline, end or failure, in order. -/
lemma buffer_readLine (buffer : GrowingBuffer UInt8) (items : List Arrival) :
    (readLine buffer items).buffer =
      (data (items.takeWhile isInner)).foldl GrowingBuffer.push buffer := by
  induction items generalizing buffer with
  | nil => rfl
  | cons item rest ih =>
    cases item with
    | ended => rfl
    | failed e => rfl
    | byte b =>
      by_cases hb : b = newline
      · rw [readLine, if_pos hb]
        simp [isInner, hb]
      · rw [readLine, if_neg hb, ih]
        simp [isInner, hb]

/-- What is returned depends on the bytes in the buffer and not on the room for them. -/
lemma result_readLine_eq {buffer other : GrowingBuffer UInt8} (h : buffer.toList = other.toList)
    (items : List Arrival) : (readLine buffer items).result = (readLine other items).result := by
  induction items generalizing buffer other with
  | nil => rfl
  | cons item rest ih =>
    cases item with
    | ended => rfl
    | failed e => rfl
    | byte b =>
      by_cases hb : b = newline
      · rw [readLine, readLine, if_pos hb, if_pos hb, h]
      · rw [readLine, readLine, if_neg hb, if_neg hb]
        exact ih (by rw [GrowingBuffer.toList_push, GrowingBuffer.toList_push, h])

/-- A line that is returned is what was stored. -/
lemma eq_of_readLine_eq_line {buffer : GrowingBuffer UInt8} {items : List Arrival} {bytes : Bytes}
    (h : (readLine buffer items).result = .line bytes) :
    bytes = (readLine buffer items).buffer.toList := by
  fun_induction readLine buffer items with
  | case1 => cases h
  | case2 => cases h
  | case3 => cases h
  | case4 => exact (LineResult.line.inj h).symm
  | case5 _ _ _ _ ih => exact ih h

end Arrival

namespace Input

/-- A byte that is read and belongs to the line is the first one that is stored. -/
lemma stored_of_next {i j : Input} {b : UInt8} (read : i.next = (.byte b, j))
    (inner : b ≠ newline) :
    i.stored = b :: j.stored := by
  rcases arrivals_of_next read with hitems | ⟨hend, -⟩
  · rw [stored, hitems, List.takeWhile_cons_of_pos (by simp [Arrival.isInner, inner]),
      Arrival.data_cons_byte, stored]
  · cases hend

/-- The first byte that is stored is the next one that is read. -/
lemma exists_next_of_stored_eq_cons {i : Input} {b : UInt8} {more : Bytes}
    (h : i.stored = b :: more) :
    ∃ j, i.next = (.byte b, j) ∧ b ≠ newline ∧ j.stored = more := by
  cases hnext : i.next with | mk a j =>
  have hnothing (ha : a.isInner = false) : i.stored = [] := by
    rcases arrivals_of_next hnext with hitems | ⟨-, hitems, -⟩
    · rw [stored, hitems, List.takeWhile_cons_of_neg (by simp [ha]), Arrival.data_nil]
    · rw [stored, hitems, List.takeWhile_nil, Arrival.data_nil]
  cases ha : a.isInner with
  | false =>
    rw [hnothing ha] at h
    cases h
  | true =>
    cases a with
    | ended => cases ha
    | failed e => cases ha
    | byte c =>
      have hc : c ≠ newline := by simpa [Arrival.isInner] using ha
      rw [stored_of_next hnext hc, List.cons.injEq] at h
      obtain ⟨rfl, rfl⟩ := h
      exact ⟨j, rfl, hc, rfl⟩

end Input

/-! ### What reading a line and cutting it come to -/

namespace Input

/-- The records of reading a line are those of storing its bytes. -/
lemma records_readLine (i : Input) :
    i.readLine.records =
      (enlargements LineRead.byteStep i.stored.length).map LineRead.growthRecord := by
  obtain ⟨-, hrecords, -⟩ := i.readLine_eq
  rw [hrecords, Arrival.buffer_readLine]
  exact congrArg (List.map LineRead.growthRecord)
    (GrowingBuffer.fits_ofList (by decide) i.stored).growthList_eq

/-- A line that is returned consists of the bytes that were stored. -/
lemma eq_stored_of_readLine_eq_line {i : Input} {bytes : Bytes}
    (h : i.readLine.result = .line bytes) : bytes = i.stored := by
  obtain ⟨hresult, -, -⟩ := i.readLine_eq
  rw [hresult] at h
  rw [Arrival.eq_of_readLine_eq_line h, Arrival.buffer_readLine]
  exact GrowingBuffer.toList_ofList _ i.stored

/-- What is returned does not depend on how often there was too little room. -/
lemma result_readOn_empty (i : Input) (step : Nat) :
    (LineRead.readOn (.empty step) i).result = i.readLine.result := by
  have hempty : (GrowingBuffer.empty step : GrowingBuffer UInt8).toList =
      (GrowingBuffer.empty LineRead.byteStep).toList := rfl
  rw [(LineRead.readOn_eq _ i).1, (i.readLine_eq).1, Arrival.result_readLine_eq hempty]

end Input

/-- The records of storing arguments depend on their number only. -/
lemma ArgVector.growthRecords_eq (args : ArgVector) :
    args.growthRecords = (enlargements slotStep args.length).map growthRecord := by
  rw [growthRecords, (GrowingBuffer.fits_ofList (by decide) args).growthList_eq]

namespace LineRead

/-! ### The moments of reading a line -/

/-- The next byte of a line is stored, after room was made for it if there was none.  A moment of
reading a line is the buffer with what is still to happen. -/
inductive Stores : GrowingBuffer UInt8 × Input → GrowingBuffer UInt8 × Input → Prop
  | mk {buffer : GrowingBuffer UInt8} {input rest : Input} {b : UInt8}
      (read : input.next = (.byte b, rest)) (inner : b ≠ newline) :
      Stores (buffer, input) (buffer.push b, rest)

/-- The moments of reading a line: it begins with a buffer that is new. -/
def Passes (input : Input) : GrowingBuffer UInt8 × Input → Prop :=
  Relation.ReflTransGen Stores (.empty byteStep, input)

/-- What a call comes to after a byte was stored is what it comes to. -/
lemma Stores.readOn_eq {m m' : GrowingBuffer UInt8 × Input} (h : Stores m m') :
    readOn m.1 m.2 = readOn m'.1 m'.2 := by
  obtain ⟨read, inner⟩ := h
  rw [readOn]
  split
  · next b rest heq =>
    rw [read] at heq
    cases heq
    rw [if_neg inner]
  · next heq => rw [read] at heq; cases heq
  · next heq => rw [read] at heq; cases heq

/-- Reading a line comes to what it comes to from any of its moments on. -/
lemma Passes.readLine_eq {input : Input} {m : GrowingBuffer UInt8 × Input} (h : Passes input m) :
    input.readLine = readOn m.1 m.2 := by
  induction h with
  | refl => rfl
  | tail _ hstores ih => exact ih.trans hstores.readOn_eq

/-- At each moment the buffer fits the bytes that were stored so far, and the others are still to be
stored. -/
lemma Passes.exists_stored_eq {input : Input} {m : GrowingBuffer UInt8 × Input}
    (h : Passes input m) :
    ∃ before, input.stored = before ++ m.2.stored ∧ m.1 = .ofList byteStep before := by
  induction h with
  | refl => exact ⟨[], rfl, rfl⟩
  | tail _ hstores ih =>
    obtain ⟨before, hstored, hbuffer⟩ := ih
    cases hstores with | @mk buffer i rest b read inner =>
    refine ⟨before ++ [b], ?_, ?_⟩
    · rw [hstored, Input.stored_of_next read inner, List.append_assoc, List.singleton_append]
    · rw [GrowingBuffer.ofList, List.foldl_append, List.foldl_cons, List.foldl_nil,
        ← GrowingBuffer.ofList, ← hbuffer]

/-- Every beginning of the bytes to be stored is what the buffer holds at some moment. -/
lemma exists_passes {input : Input} {before after : Bytes} (h : input.stored = before ++ after) :
    ∃ rest, Passes input (.ofList byteStep before, rest) ∧ rest.stored = after := by
  induction before using List.reverseRecOn generalizing after with
  | nil => exact ⟨input, .refl, h⟩
  | append_singleton before b ih =>
    rw [List.append_assoc, List.singleton_append] at h
    obtain ⟨i, hpasses, hi⟩ := ih h
    obtain ⟨rest, read, inner, hrest⟩ := Input.exists_next_of_stored_eq_cons hi
    refine ⟨rest, ?_, hrest⟩
    rw [GrowingBuffer.ofList, List.foldl_append]
    exact hpasses.tail (Stores.mk read inner)

end LineRead

namespace GrowingBuffer

/-! ### Reading lines and cutting them -/

/-- While a line is read, and however reading it ends, its buffer fits the bytes stored so far at
each moment, and every beginning of the bytes to be stored has its moment.  So the records tell of
2048 bytes, of 3072 and so on, as far as that is necessary, and of nothing if 1024 bytes are enough;
and what is returned would be the same with any other step.  The same holds of the vector that the
arguments of a line are stored in, with steps of 64. -/
theorem grown_in_time (input : Input) (line : Bytes) :
    ((∀ m, LineRead.Passes input m →
        ∃ before, input.stored = before ++ m.2.stored ∧ Fits 1024 before m.1) ∧
      (∀ before after, input.stored = before ++ after →
        ∃ m, LineRead.Passes input m ∧ m.1.toList = before ∧ m.2.stored = after ∧
          input.readLine = LineRead.readOn m.1 m.2) ∧
      input.readLine.records =
        (enlargements 1024 input.stored.length).map LineRead.growthRecord ∧
      (input.readLine.records = [] ↔ input.stored.length ≤ 1024) ∧
      (∀ bytes, input.readLine.result = .line bytes → bytes = input.stored) ∧
      ∀ step, (LineRead.readOn (.empty step) input).result = input.readLine.result) ∧
    let args := ArgVector.ofLine line
    (∀ before after, args = before ++ after → Fits 64 before (ofList 64 before) ∧
        ofList 64 args = after.foldl push (ofList 64 before)) ∧
      args.growthRecords = (enlargements 64 args.length).map ArgVector.growthRecord ∧
      (args.growthRecords = [] ↔ args.length ≤ 64) ∧
      ∀ step, (ofList step args).toList = args := by
  refine ⟨⟨?_, ?_, input.records_readLine, ?_, fun bytes => Input.eq_stored_of_readLine_eq_line,
    input.result_readOn_empty⟩, ?_, ArgVector.growthRecords_eq _, ?_,
    fun step => toList_ofList step _⟩
  · intro m hpasses
    obtain ⟨before, hstored, hm⟩ := hpasses.exists_stored_eq
    exact ⟨before, hstored, hm ▸ fits_ofList (by decide) before⟩
  · intro before after h
    obtain ⟨rest, hpasses, hrest⟩ := LineRead.exists_passes h
    exact ⟨_, hpasses, toList_ofList _ before, hrest, hpasses.readLine_eq⟩
  · rw [input.records_readLine, List.map_eq_nil_iff]
    exact enlargements_eq_nil_iff (by decide) _
  · intro before after h
    refine ⟨fits_ofList (by decide) before, ?_⟩
    rw [h, ofList, List.foldl_append, ofList]
  · rw [ArgVector.growthRecords_eq, List.map_eq_nil_iff]
    exact enlargements_eq_nil_iff (by decide) _

/-- A buffer of 1024 bytes that is just full is not enlarged for the newline, and for one byte more
it is. -/
theorem grown_in_time_full :
    let line (n : Nat) := Input.ofBytes (List.replicate n 0x61 ++ [newline])
    (line 1024).readLine.records = [] ∧
      (line 2049).readLine.records = [LineRead.growthRecord 2048, LineRead.growthRecord 3072] := by
  intro line
  have hstored (n : Nat) : (line n).stored = List.replicate n 0x61 := by
    have harrivals : (line n).arrivals =
        (List.replicate n 0x61).map Arrival.byte ++ [.byte newline] := by
      simp [line, Input.ofBytes, InputEvent.arrivals]
    rw [Input.stored, harrivals, List.takeWhile_append_of_pos (by simp [Arrival.isInner, newline]),
      List.takeWhile_cons_of_neg (by simp [Arrival.isInner]), List.append_nil,
      Arrival.data_map_byte]
  obtain ⟨⟨-, -, -, hnone, -, -⟩, -⟩ := grown_in_time (line 1024) []
  obtain ⟨⟨-, -, hrecords, -, -, -⟩, -⟩ := grown_in_time (line 2049) []
  constructor
  · rw [hnone, hstored, List.length_replicate]
  · rw [hrecords, hstored, List.length_replicate]
    decide

end GrowingBuffer

end CommandShell
