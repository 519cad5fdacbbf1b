import CommandShell.Proofs.Arrivals

/-!
# Reading one line after the other

Calls that read lines share the arrivals of an input between them.  A call takes the arrivals up to
and including the first newline, end or failure, and returns the bytes before the newline, the end,
or the failure (`Arrival.Call`).  The next call goes on right there with nothing in its buffer, so
bytes that an end or a failure cuts off are in no line.

`Input.calls_lineCalls` says this of any number of calls.  Nothing but the arrivals counts
(`Input.map_seen_lineCalls`), and from bytes alone the lines and what is left over can be put
together again (`Input.exists_eq_flatMap_lines`).
-/

namespace CommandShell

open LineRead (newline)

namespace Arrival

/-- A call by the arrivals that it takes, those that it leaves and what it returns, where some bytes
of the line were stored before. -/
inductive Call (held : Bytes) : List Arrival → List Arrival → LineResult → Prop
  /-- A newline comes first. -/
  | line {bytes : Bytes} (h : newline ∉ bytes) (left : List Arrival) :
      Call held (bytes.map .byte ++ [.byte newline]) left (.line (held ++ bytes))
  /-- The end comes first. -/
  | ended {bytes : Bytes} (h : newline ∉ bytes) (left : List Arrival) :
      Call held (bytes.map .byte ++ [.ended]) left .ended
  /-- A failure comes first. -/
  | failed {bytes : Bytes} (h : newline ∉ bytes) (e : IoError) (left : List Arrival) :
      Call held (bytes.map .byte ++ [.failed e]) left (.failed e)
  /-- Nothing of that kind comes. -/
  | exhausted {bytes : Bytes} (h : newline ∉ bytes) : Call held (bytes.map .byte) [] .ended

/-- A byte that was just stored might as well have been the first to be taken. -/
lemma Call.cons {held : Bytes} {b : UInt8} {part left : List Arrival} {result : LineResult}
    (hb : b ≠ newline) (h : Call (held ++ [b]) part left result) :
    Call held (.byte b :: part) left result := by
  have hcons {bytes : Bytes} (hbytes : newline ∉ bytes) : newline ∉ b :: bytes :=
    List.not_mem_cons_of_ne_of_not_mem hb.symm hbytes
  cases h with
  | line hbytes left =>
    rw [List.append_assoc, List.singleton_append]
    exact Call.line (hcons hbytes) left
  | ended hbytes left => exact Call.ended (hcons hbytes) left
  | failed hbytes e left => exact Call.failed (hcons hbytes) e left
  | exhausted hbytes => exact Call.exhausted (hcons hbytes)

/-- Reading a line off some arrivals takes a first part of them, as a call does. -/
lemma exists_call_readLine (buffer : GrowingBuffer UInt8) (items : List Arrival) :
    ∃ part, items = part ++ (readLine buffer items).left ∧
      Call buffer.toList part (readLine buffer items).left (readLine buffer items).result := by
  have hnone : newline ∉ ([] : Bytes) := List.not_mem_nil
  induction items generalizing buffer with
  | nil => exact ⟨[], rfl, Call.exhausted hnone⟩
  | cons item rest ih =>
    cases item with
    | ended => exact ⟨[.ended], rfl, Call.ended hnone rest⟩
    | failed e => exact ⟨[.failed e], rfl, Call.failed hnone e rest⟩
    | byte b =>
      by_cases hb : b = newline
      · rw [readLine, if_pos hb, hb]
        refine ⟨[.byte newline], rfl, ?_⟩
        have h : Call buffer.toList _ rest (.line (buffer.toList ++ [])) := Call.line hnone rest
        rwa [List.append_nil] at h
      · obtain ⟨part, hitems, hcall⟩ := ih (buffer.push b)
        rw [readLine, if_neg hb]
        rw [GrowingBuffer.toList_push] at hcall
        exact ⟨.byte b :: part, congrArg (Arrival.byte b :: ·) hitems, hcall.cons hb⟩

/-- Calls one after the other, by the arrivals that they share and the count of bytes before them:
each takes a part of what the calls before it have left. -/
inductive Calls : List Arrival → Nat → List LineRead → Prop
  /-- No call takes anything. -/
  | nil (items : List Arrival) (consumed : Nat) : Calls items consumed []
  /-- A call takes its part and counts the bytes in it; the others share the rest. -/
  | cons {part : List Arrival} {consumed : Nat} {call : LineRead} {later : List LineRead}
      (taken : Call [] part call.input.arrivals call.result)
      (counted : call.input.consumed = consumed + (data part).length)
      (shared : Calls call.input.arrivals call.input.consumed later) :
      Calls (part ++ call.input.arrivals) consumed (call :: later)

end Arrival

/-- What a caller sees of a call: its result, its records, and the count of bytes. -/
def LineRead.seen (call : LineRead) : LineResult × List Record × Nat :=
  (call.result, call.records, call.input.consumed)

/-- The lines among the results of some calls. -/
def LineRead.lines (calls : List LineRead) : List Bytes :=
  calls.filterMap fun call =>
    match call.result with
    | .line bytes => some bytes
    | _ => none

namespace Input

open Arrival

/-- A number of calls that read lines, one after the other. -/
def lineCalls : Nat → Input → List LineRead
  | 0, _ => []
  | n + 1, i => i.readLine :: i.readLine.input.lineCalls n

@[simp] lemma lineCalls_zero (i : Input) : i.lineCalls 0 = [] := rfl

@[simp] lemma lineCalls_succ (n : Nat) (i : Input) :
    i.lineCalls (n + 1) = i.readLine :: i.readLine.input.lineCalls n := rfl

/-! ### A single call -/

/-- A call depends on the arrivals only. -/
lemma readLine_eq (i : Input) :
    i.readLine.result = (Arrival.readLine (.empty LineRead.byteStep) i.arrivals).result ∧
      i.readLine.records =
        (Arrival.readLine (.empty LineRead.byteStep) i.arrivals).buffer.growthList.map
          LineRead.growthRecord ∧
      i.readLine.input.arrivals = (Arrival.readLine (.empty LineRead.byteStep) i.arrivals).left :=
  LineRead.readOn_eq (.empty LineRead.byteStep) i

/-- The bytes that are counted and those still to arrive are as many as before a call. -/
lemma consumed_readLine_add (i : Input) :
    i.readLine.input.consumed + (data i.readLine.input.arrivals).length =
      i.consumed + (data i.arrivals).length :=
  LineRead.consumed_readOn_add (.empty LineRead.byteStep) i

/-- A call takes a first part of the arrivals and counts the bytes in it. -/
lemma exists_call_readLine (i : Input) :
    ∃ part, i.arrivals = part ++ i.readLine.input.arrivals ∧
      Call [] part i.readLine.input.arrivals i.readLine.result ∧
      i.readLine.input.consumed = i.consumed + (data part).length := by
  obtain ⟨hresult, -, hleft⟩ := i.readLine_eq
  obtain ⟨part, hitems, hcall⟩ :=
    Arrival.exists_call_readLine (.empty LineRead.byteStep) i.arrivals
  rw [← hresult, ← hleft, GrowingBuffer.toList_empty] at hcall
  rw [← hleft] at hitems
  refine ⟨part, hitems, hcall, ?_⟩
  have hcount := i.consumed_readLine_add
  have hdata : data i.arrivals = data part ++ data i.readLine.input.arrivals := by
    rw [← data_append, ← hitems]
  rw [hdata, List.length_append] at hcount
  omega

/-- When nothing is left to arrive, a call finds the end and leaves nothing. -/
lemma readLine_of_arrivals_eq_nil {i : Input} (h : i.arrivals = []) :
    i.readLine.result = .ended ∧ i.readLine.input.arrivals = [] := by
  obtain ⟨hresult, -, hleft⟩ := i.readLine_eq
  rw [h] at hresult hleft
  exact ⟨hresult, hleft⟩

/-- A failure that a call returns has arrived. -/
lemma failed_mem_arrivals (i : Input) {e : IoError} (h : i.readLine.result = .failed e) :
    .failed e ∈ i.arrivals := by
  obtain ⟨part, hitems, hcall, -⟩ := i.exists_call_readLine
  rw [h] at hcall
  rw [hitems]
  generalize i.readLine.input.arrivals = left at hcall ⊢
  cases hcall with
  | failed hbytes => simp

/-! ### Any number of calls -/

/-- There are as many results as calls. -/
lemma length_lineCalls (n : Nat) (i : Input) : (i.lineCalls n).length = n := by
  induction n generalizing i with
  | zero => rfl
  | succ n ih => rw [lineCalls_succ, List.length_cons, ih]

/-- Calls share the arrivals of an input between them, in order. -/
lemma calls_lineCalls (n : Nat) (i : Input) : Calls i.arrivals i.consumed (i.lineCalls n) := by
  induction n generalizing i with
  | zero => exact Calls.nil i.arrivals i.consumed
  | succ n ih =>
    obtain ⟨part, hitems, hcall, hcount⟩ := i.exists_call_readLine
    rw [hitems, lineCalls_succ]
    exact Calls.cons hcall hcount (ih i.readLine.input)

/-- When nothing is left to arrive, every call finds the end. -/
lemma result_of_arrivals_eq_nil (n : Nat) {i : Input} (h : i.arrivals = []) :
    ∀ call ∈ i.lineCalls n, call.result = .ended := by
  induction n generalizing i with
  | zero => exact fun call hcall => absurd hcall List.not_mem_nil
  | succ n ih =>
    obtain ⟨hresult, hleft⟩ := readLine_of_arrivals_eq_nil h
    exact List.forall_mem_cons.mpr ⟨hresult, ih hleft⟩

/-- Inputs with the same arrivals cannot be told apart by calls. -/
lemma map_seen_lineCalls (n : Nat) {i j : Input} (harr : i.arrivals = j.arrivals)
    (hcount : i.consumed = j.consumed) :
    (i.lineCalls n).map LineRead.seen = (j.lineCalls n).map LineRead.seen := by
  induction n generalizing i j with
  | zero => rfl
  | succ n ih =>
    obtain ⟨hresult, hrecords, hleft⟩ := i.readLine_eq
    obtain ⟨hresult', hrecords', hleft'⟩ := j.readLine_eq
    have hleft_eq : i.readLine.input.arrivals = j.readLine.input.arrivals := by
      rw [hleft, hleft', harr]
    have hcount_eq : i.readLine.input.consumed = j.readLine.input.consumed := by
      have hi := i.consumed_readLine_add
      have hj := j.consumed_readLine_add
      rw [hleft_eq, harr, hcount] at hi
      omega
    have hseen : i.readLine.seen = j.readLine.seen := by
      simp only [LineRead.seen, hresult, hrecords, hresult', hrecords', harr, hcount_eq]
    rw [lineCalls_succ, lineCalls_succ, List.map_cons, List.map_cons, hseen,
      ih hleft_eq hcount_eq]

/-! ### Bytes alone -/

/-- A first part of some bytes, with no more than bytes in it, and the bytes after it. -/
lemma exists_of_map_byte_eq_append {bytes : Bytes} {part left : List Arrival}
    (h : bytes.map .byte = part ++ left) :
    ∃ before after, bytes = before ++ after ∧ part = before.map .byte ∧ left = after.map .byte := by
  obtain ⟨before, after, hbytes, hbefore, hafter⟩ := List.map_eq_append_iff.mp h
  exact ⟨before, after, hbytes, hbefore.symm, hafter.symm⟩

/-- Calls that all find the end return no line. -/
lemma lines_eq_nil {calls : List LineRead} (h : ∀ call ∈ calls, call.result = .ended) :
    LineRead.lines calls = [] := by
  rw [LineRead.lines, List.filterMap_eq_nil_iff]
  intro call hcall
  rw [h call hcall]

/-- Where bytes alone arrive, a call returns what stands before the first newline, or there is no
newline and the call leaves nothing. -/
lemma readLine_of_data {i : Input} {bytes : Bytes} (h : i.arrivals = bytes.map .byte) :
    (∃ line after, newline ∉ line ∧ bytes = line ++ newline :: after ∧
      i.readLine.result = .line line ∧ i.readLine.input.arrivals = after.map .byte) ∨
    (newline ∉ bytes ∧ i.readLine.result = .ended ∧ i.readLine.input.arrivals = []) := by
  obtain ⟨part, hitems, hcall, -⟩ := i.exists_call_readLine
  rw [h] at hitems
  obtain ⟨before, after, hbytes, hpart, hleft⟩ := exists_of_map_byte_eq_append hitems
  have honly : ∀ item ∈ part, ∃ b, item = .byte b := by
    rw [hpart]
    intro item hitem
    obtain ⟨b, -, rfl⟩ := List.mem_map.mp hitem
    exact ⟨b, rfl⟩
  generalize hresult : i.readLine.result = result at hcall ⊢
  generalize hrest : i.readLine.input.arrivals = left at hcall hleft ⊢
  cases hcall with
  | @line line hline left =>
    have hsplit : before.map Arrival.byte = line.map Arrival.byte ++ [.byte newline] := hpart.symm
    rw [← List.map_singleton, ← List.map_append] at hsplit
    have hbefore : before = line ++ [newline] :=
      List.map_injective_iff.mpr (fun _ _ hb => Arrival.byte.inj hb) hsplit
    refine Or.inl ⟨line, after, hline, ?_, rfl, hleft⟩
    rw [hbytes, hbefore, List.append_assoc, List.singleton_append]
  | ended hline left =>
    obtain ⟨b, hb⟩ := honly .ended (by simp)
    cases hb
  | failed hline e left =>
    obtain ⟨b, hb⟩ := honly (.failed e) (by simp)
    cases hb
  | @exhausted line hline =>
    have hbefore : before = line :=
      List.map_injective_iff.mpr (fun _ _ hb => Arrival.byte.inj hb) hpart.symm
    have hafter : after = [] := List.map_eq_nil_iff.mp hleft.symm
    refine Or.inr ⟨?_, rfl, rfl⟩
    rwa [hbytes, hbefore, hafter, List.append_nil]

/-- From bytes alone, the lines with their newlines and what is left over make up all of them.  With
more calls than newlines, what is left over is what no newline follows. -/
lemma exists_eq_flatMap_lines (n : Nat) {i : Input} {bytes : Bytes}
    (h : i.arrivals = bytes.map .byte) :
    ∃ rest, bytes = (LineRead.lines (i.lineCalls n)).flatMap (· ++ [newline]) ++ rest ∧
      (bytes.count newline < n → newline ∉ rest) := by
  induction n generalizing i bytes with
  | zero => exact ⟨bytes, rfl, fun hlt => absurd hlt (Nat.not_lt_zero _)⟩
  | succ n ih =>
    rcases readLine_of_data h with ⟨line, after, hline, rfl, hresult, hleft⟩ | ⟨hno, hresult, hleft⟩
    · obtain ⟨rest, hrest, hlast⟩ := ih hleft
      refine ⟨rest, ?_, ?_⟩
      · have hlines : LineRead.lines (i.lineCalls (n + 1)) =
            line :: LineRead.lines (i.readLine.input.lineCalls n) := by
          simp [LineRead.lines, hresult]
        rw [hlines, List.flatMap_cons, List.append_assoc, List.append_assoc, ← hrest,
          List.singleton_append]
      · intro hlt
        rw [List.count_append, List.count_cons_self] at hlt
        exact hlast (by omega)
    · refine ⟨bytes, ?_, fun _ => hno⟩
      have hlines : LineRead.lines (i.lineCalls (n + 1)) = [] := by
        refine lines_eq_nil ?_
        exact List.forall_mem_cons.mpr ⟨hresult, result_of_arrivals_eq_nil n hleft⟩
      rw [hlines]
      rfl

/-! ### The calls on the events of an input -/

/-- However many calls are made on some events, they share the arrivals in order, each taking those
up to and including the first newline, end or failure and returning what that says; and when nothing
is left to arrive, they find the end.  Events with the same arrivals lead to the same results,
records and counts.  From bytes alone, the lines with their newlines and the rest that no newline
follows make up the bytes. -/
theorem lineCalls_partition_arrivals (events : List InputEvent) (n : Nat) :
    ((ofEvents events).lineCalls n).length = n ∧
    Calls (InputEvent.arrivals events) 0 ((ofEvents events).lineCalls n) ∧
    (∀ i : Input, i.arrivals = [] → ∀ call ∈ i.lineCalls n, call.result = .ended) ∧
    (∀ others : List InputEvent, InputEvent.arrivals others = InputEvent.arrivals events →
      ((ofEvents others).lineCalls n).map LineRead.seen =
        ((ofEvents events).lineCalls n).map LineRead.seen) ∧
    (∀ bytes : Bytes, InputEvent.arrivals events = bytes.map .byte →
      ∃ rest, bytes = (LineRead.lines ((ofEvents events).lineCalls n)).flatMap (· ++ [newline]) ++
        rest ∧ (bytes.count newline < n → newline ∉ rest)) := by
  refine ⟨length_lineCalls n _, calls_lineCalls n (ofEvents events),
    fun i hi => result_of_arrivals_eq_nil n hi, ?_, ?_⟩
  · intro others hothers
    exact map_seen_lineCalls n hothers rfl
  · intro bytes hbytes
    exact exists_eq_flatMap_lines n hbytes

/-- A chunk can be cut and the read be interrupted there. -/
theorem lineCalls_rechunked :
    ((ofEvents [.chunk [0x6C], .interrupted, .chunk [], .chunk [0x73, 0x0A]]).lineCalls 2).map
        LineRead.seen =
      ((ofEvents [.chunk [0x6C, 0x73, 0x0A]]).lineCalls 2).map LineRead.seen :=
  (lineCalls_partition_arrivals _ 2).2.2.2.1 _ (by decide)

end Input

end CommandShell
