import CommandShell.Line
import Mathlib.Data.List.Basic

/-!
# The arrivals on an input

What the reads of single bytes get depends on the events of an input only through its *arrivals*:
the bytes, the ends and the failures in order, without the interruptions and without the cuts
between chunks.  Each read takes the first arrival away, and finds the end when there is none
(`Input.arrivals_of_next`).  So reading a line is a function on arrivals, `Arrival.readLine`, which
is recursive on the list of them; `LineRead.readOn_eq` is the bridge to reading an input byte by
byte.
-/

namespace CommandShell

namespace Arrival

/-- The byte that arrives, if one does. -/
def byte? : Arrival → Option UInt8
  | byte b => some b
  | _ => none

/-- The bytes among some arrivals. -/
def data (items : List Arrival) : Bytes :=
  items.filterMap byte?

@[simp] lemma data_nil : data [] = [] := rfl

@[simp] lemma data_append (a b : List Arrival) : data (a ++ b) = data a ++ data b :=
  List.filterMap_append

@[simp] lemma data_cons_byte (b : UInt8) (items : List Arrival) :
    data (.byte b :: items) = b :: data items := rfl

@[simp] lemma data_cons_ended (items : List Arrival) : data (.ended :: items) = data items := rfl

@[simp] lemma data_cons_failed (e : IoError) (items : List Arrival) :
    data (.failed e :: items) = data items := rfl

@[simp] lemma data_map_byte (bytes : Bytes) : data (bytes.map .byte) = bytes := by
  induction bytes with
  | nil => rfl
  | cons b rest ih => rw [List.map_cons, data_cons_byte, ih]

/-- What a call that reads a line does to the arrivals. -/
structure LineTaken where
  /-- What it returns. -/
  result : LineResult
  /-- The bytes stored on the way. -/
  buffer : GrowingBuffer UInt8
  /-- The arrivals that it leaves. -/
  left : List Arrival

/-- Reads a line off some arrivals, with the bytes since the last newline in a buffer. -/
def readLine (buffer : GrowingBuffer UInt8) : List Arrival → LineTaken
  | [] => ⟨.ended, buffer, []⟩
  | .ended :: rest => ⟨.ended, buffer, rest⟩
  | .failed e :: rest => ⟨.failed e, buffer, rest⟩
  | .byte b :: rest =>
    if b = LineRead.newline then ⟨.line buffer.toList, buffer, rest⟩
    else readLine (buffer.push b) rest

end Arrival

namespace InputEvent

/-- The arrivals of some events: chunks are cut into bytes, interruptions are left out. -/
def arrivals : List InputEvent → List Arrival
  | [] => []
  | .chunk bytes :: rest => bytes.map .byte ++ arrivals rest
  | .ended :: rest => .ended :: arrivals rest
  | .interrupted :: rest => arrivals rest
  | .failed e :: rest => if e.isInterruption then arrivals rest else .failed e :: arrivals rest

/-- A read of one byte gets the first arrival. -/
lemma nextArrival_fst (events : List InputEvent) :
    (nextArrival events).1 = (arrivals events).headD .ended := by
  fun_induction nextArrival events with
  | case1 => rfl
  | case2 events ih => exact ih
  | case3 b bytes events => rfl
  | case4 events => rfl
  | case5 events ih => exact ih
  | case6 e events he ih => rw [ih, arrivals, if_pos he]
  | case7 e events he => rw [arrivals, if_neg he]; rfl

/-- A read of one byte takes the first arrival away. -/
lemma arrivals_nextArrival_snd (events : List InputEvent) :
    arrivals (nextArrival events).2 = (arrivals events).tail := by
  fun_induction nextArrival events with
  | case1 => rfl
  | case2 events ih => exact ih
  | case3 b bytes events => rfl
  | case4 events => rfl
  | case5 events ih => exact ih
  | case6 e events he ih => rw [ih, arrivals, if_pos he]
  | case7 e events he => rw [arrivals, if_neg he]; rfl

/-- No failure that arrives is an interruption. -/
lemma isInterruption_of_failed_mem {events : List InputEvent} {e : IoError}
    (h : .failed e ∈ arrivals events) : e.isInterruption = false := by
  fun_induction arrivals events with
  | case1 => cases h
  | case2 bytes rest ih =>
    rcases List.mem_append.mp h with hb | hr
    · obtain ⟨b, -, hb⟩ := List.mem_map.mp hb
      cases hb
    · exact ih hr
  | case3 rest ih =>
    rcases List.mem_cons.mp h with he | hr
    · cases he
    · exact ih hr
  | case4 rest ih => exact ih h
  | case5 f rest hf ih => exact ih h
  | case6 f rest hf ih =>
    rcases List.mem_cons.mp h with he | hr
    · cases he
      simpa using hf
    · exact ih hr

end InputEvent

namespace Input

/-- What is still to arrive. -/
def arrivals (i : Input) : List Arrival :=
  InputEvent.arrivals i.pending

@[simp] lemma arrivals_ofEvents (events : List InputEvent) :
    (ofEvents events).arrivals = InputEvent.arrivals events := rfl

@[simp] lemma consumed_ofEvents (events : List InputEvent) : (ofEvents events).consumed = 0 := rfl

/-- A read gets the first arrival and takes it away, or there is none and it finds the end. -/
lemma arrivals_of_next {i rest : Input} {a : Arrival} (h : i.next = (a, rest)) :
    i.arrivals = a :: rest.arrivals ∨ (a = .ended ∧ i.arrivals = [] ∧ rest.arrivals = []) := by
  have hfst : i.next.1 = i.arrivals.headD .ended := by
    rw [arrivals, ← InputEvent.nextArrival_fst]
    unfold next
    split <;> next hnext => rw [hnext]
  have hsnd : i.next.2.arrivals = i.arrivals.tail := by
    rw [arrivals, arrivals, ← InputEvent.arrivals_nextArrival_snd]
    unfold next
    split <;> next hnext => rw [hnext]
  rw [h] at hfst hsnd
  cases hitems : i.arrivals with
  | nil =>
    rw [hitems] at hfst hsnd
    exact Or.inr ⟨hfst, rfl, hsnd⟩
  | cons item items =>
    rw [hitems] at hfst hsnd
    have ha : a = item := hfst
    have hrest : rest.arrivals = items := hsnd
    rw [ha, hrest]
    exact Or.inl rfl

/-- A read that gets a byte counts it. -/
lemma consumed_of_next {i rest : Input} {a : Arrival} (h : i.next = (a, rest)) :
    rest.consumed = i.consumed + (Arrival.data [a]).length := by
  unfold next at h
  split at h <;> cases h <;> rfl

/-- Bytes are counted when they are read: those counted and those still to arrive are as many as
before. -/
lemma consumed_add_of_next {i rest : Input} {a : Arrival} (h : i.next = (a, rest)) :
    rest.consumed + (Arrival.data rest.arrivals).length =
      i.consumed + (Arrival.data i.arrivals).length := by
  have hcount := consumed_of_next h
  rcases arrivals_of_next h with hitems | ⟨rfl, hitems, hrest⟩
  · have hdata : Arrival.data i.arrivals = Arrival.data [a] ++ Arrival.data rest.arrivals := by
      rw [hitems, ← Arrival.data_append, List.singleton_append]
    rw [hdata, List.length_append, hcount]
    omega
  · rw [hitems, hrest, hcount]
    rfl

end Input

namespace LineRead

/-- Reading an input byte by byte comes to what reading its arrivals comes to. -/
lemma readOn_eq (buffer : GrowingBuffer UInt8) (input : Input) :
    (readOn buffer input).result = (Arrival.readLine buffer input.arrivals).result ∧
      (readOn buffer input).records =
        (Arrival.readLine buffer input.arrivals).buffer.growthList.map growthRecord ∧
      (readOn buffer input).input.arrivals = (Arrival.readLine buffer input.arrivals).left := by
  fun_induction readOn buffer input with
  | case1 buffer input rest heq =>
    rcases Input.arrivals_of_next heq with hitems | ⟨hend, -⟩
    · rw [hitems, Arrival.readLine, if_pos rfl]
      exact ⟨rfl, rfl, rfl⟩
    · cases hend
  | case2 buffer input b rest heq hb ih =>
    rcases Input.arrivals_of_next heq with hitems | ⟨hend, -⟩
    · rw [hitems, Arrival.readLine, if_neg hb]
      exact ih
    · cases hend
  | case3 buffer input rest heq =>
    rcases Input.arrivals_of_next heq with hitems | ⟨-, hitems, hrest⟩
    · rw [hitems]
      exact ⟨rfl, rfl, rfl⟩
    · rw [hitems]
      exact ⟨rfl, rfl, hrest⟩
  | case4 buffer input e rest heq =>
    rcases Input.arrivals_of_next heq with hitems | ⟨hend, -⟩
    · rw [hitems]
      exact ⟨rfl, rfl, rfl⟩
    · cases hend

/-- Reading a line counts the bytes that it takes. -/
lemma consumed_readOn_add (buffer : GrowingBuffer UInt8) (input : Input) :
    (readOn buffer input).input.consumed +
        (Arrival.data (readOn buffer input).input.arrivals).length =
      input.consumed + (Arrival.data input.arrivals).length := by
  fun_induction readOn buffer input with
  | case1 buffer input rest heq => exact Input.consumed_add_of_next heq
  | case2 buffer input b rest heq hb ih => exact ih.trans (Input.consumed_add_of_next heq)
  | case3 buffer input rest heq => exact Input.consumed_add_of_next heq
  | case4 buffer input e rest heq => exact Input.consumed_add_of_next heq

end LineRead

end CommandShell
