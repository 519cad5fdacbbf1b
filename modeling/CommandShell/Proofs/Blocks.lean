import CommandShell.Launch.Attempt
import CommandShell.Proofs.Layout

/-!
# What a program is given

A program finds its arguments in a block: a memory and the addresses of strings in it.  Reading a
string at an address goes on to the next byte zero, so what can be read depends on what stands in
the memory from the address on.  That is the invariant here: from its address on, the memory holds
an argument, a byte zero, and the arguments after it.

Without a byte zero in them, the arguments are what is read (`ArgBlock.strings_ofArgs`).  With one
they are not given to any program; and since a byte zero is no delimiter, it is in some argument
wherever in the line it stands (`ArgVector.exists_mem_ofLine_iff`).
-/

namespace CommandShell

namespace ArgBlock

/-- The end of everything in a block can be found: the addresses end with the null address, and the
string at each other address ends with a byte zero in the memory. -/
structure IsTerminated (b : ArgBlock) : Prop where
  null : b.addresses.getLast? = some none
  zero : ∀ address, some address ∈ b.addresses →
    b.memory[address + (b.stringAt address).length]? = some 0

variable {memory : Array UInt8} {address : Nat}

/-! ### One string -/

/-- The string at an address is an argument that stands there, if that has no byte zero in it. -/
lemma stringFrom_eq_of_drop_eq {arg rest : Bytes} (hzero : 0 ∉ arg)
    (h : memory.toList.drop address = arg ++ 0 :: rest) : stringFrom memory address = arg := by
  have hnonzero : ∀ b ∈ arg, decide (b ≠ 0) = true := by
    intro b hb
    exact decide_eq_true fun hb0 => hzero (hb0 ▸ hb)
  rw [stringFrom_eq, h, List.takeWhile_append_of_pos hnonzero]
  simp

/-- A byte zero ends an argument that stands at an address. -/
lemma getElem?_of_drop_eq {arg rest : Bytes} (h : memory.toList.drop address = arg ++ 0 :: rest) :
    memory[address + arg.length]? = some 0 := by
  rw [← Array.getElem?_toList, ← List.getElem?_drop, h, List.getElem?_append_right (Nat.le_refl _),
    Nat.sub_self, List.getElem?_cons_zero]

/-- After an argument and its byte zero come the other ones. -/
lemma drop_succ_of_drop_eq {arg rest : Bytes}
    (h : memory.toList.drop address = arg ++ 0 :: rest) :
    memory.toList.drop (address + arg.length + 1) = rest := by
  rw [Nat.add_assoc, ← List.drop_drop, h, List.drop_append]
  simp

/-! ### All strings -/

/-- The addresses end with the null address. -/
lemma getLast?_addressesFrom (args : ArgVector) (address : Nat) :
    (addressesFrom address args).getLast? = some none := by
  induction args generalizing address with
  | nil => rfl
  | cons arg rest ih => rw [addressesFrom, List.getLast?_cons, ih]; rfl

/-- At each address stands an argument with a byte zero after it. -/
lemma exists_drop_eq_of_mem_addressesFrom {args : ArgVector} {start : Nat}
    (h : memory.toList.drop start = args.flatMap (· ++ [0]))
    (haddress : some address ∈ addressesFrom start args) :
    ∃ arg ∈ args, ∃ rest, memory.toList.drop address = arg ++ 0 :: rest := by
  induction args generalizing start with
  | nil => simp [addressesFrom] at haddress
  | cons arg later ih =>
    rw [List.flatMap_cons, List.append_assoc, List.singleton_append] at h
    rw [addressesFrom, List.mem_cons] at haddress
    rcases haddress with hfirst | hlater
    · cases hfirst
      exact ⟨arg, List.mem_cons_self, _, h⟩
    · obtain ⟨arg', harg', hrest⟩ := ih (drop_succ_of_drop_eq h) hlater
      exact ⟨arg', List.mem_cons_of_mem arg harg', hrest⟩

/-- The strings at the addresses before the null address are the arguments, in order. -/
lemma strings_addressesFrom {args : ArgVector} (hzero : ∀ arg ∈ args, 0 ∉ arg)
    (h : memory.toList.drop address = args.flatMap (· ++ [0])) :
    (((addressesFrom address args).takeWhile Option.isSome).filterMap
      fun a => a.map (stringFrom memory)) = args := by
  induction args generalizing address with
  | nil => rfl
  | cons arg later ih =>
    obtain ⟨harg, hlater⟩ := List.forall_mem_cons.mp hzero
    -- From the next address on, the memory holds the arguments after this one.
    rw [List.flatMap_cons, List.append_assoc, List.singleton_append] at h
    rw [addressesFrom, List.takeWhile_cons_of_pos rfl, List.filterMap_cons, Option.map_some,
      stringFrom_eq_of_drop_eq harg h, ih hlater (drop_succ_of_drop_eq h)]

/-- Arguments without a byte zero are what a program reads in their block. -/
theorem strings_ofArgs {args : ArgVector} (hzero : ∀ arg ∈ args, 0 ∉ arg) :
    (ofArgs args).strings = args :=
  strings_addressesFrom hzero rfl

/-- The block of arguments without a byte zero is terminated. -/
lemma isTerminated_ofArgs {args : ArgVector} (hzero : ∀ arg ∈ args, 0 ∉ arg) :
    (ofArgs args).IsTerminated where
  null := getLast?_addressesFrom args 0
  zero address haddress := by
    have hstart : (ofArgs args).memory.toList.drop 0 = args.flatMap (· ++ [0]) := rfl
    obtain ⟨arg, harg, rest, hrest⟩ := exists_drop_eq_of_mem_addressesFrom hstart haddress
    rw [stringAt, stringFrom_eq_of_drop_eq (hzero arg harg) hrest]
    exact getElem?_of_drop_eq hrest

end ArgBlock

namespace ArgVector

/-! ### Which arguments are given to a program -/

/-- A byte that is no delimiter is on a line just if it is in one of its arguments. -/
lemma exists_mem_ofLine_iff {b : UInt8} (hb : isDelimiter b = false) (line : Bytes) :
    (∃ arg ∈ ofLine line, b ∈ arg) ↔ b ∈ line := by
  have hgap {g : Bytes} (hg : IsGap g) : b ∉ g := by
    intro hmem
    rw [hg b hmem] at hb
    cases hb
  obtain ⟨l, rfl⟩ := exists_layout line
  rw [l.ofLine_line, Layout.arguments, Layout.line, Layout.body, List.mem_append,
    or_iff_right (hgap l.isGap_lead), List.mem_flatMap]
  constructor
  · rintro ⟨arg, harg, hmem⟩
    obtain ⟨p, hp, rfl⟩ := List.mem_map.mp harg
    exact ⟨p, hp, List.mem_append_left p.2 hmem⟩
  · rintro ⟨p, hp, hmem⟩
    refine ⟨p.1, List.mem_map_of_mem hp, ?_⟩
    exact (List.mem_append.mp hmem).resolve_right (hgap (l.isGap p hp))

/-- No argument of a line has a byte zero in it just if the line has none, since a byte zero is no
delimiter. -/
lemma forall_zero_notMem_ofLine_iff (line : Bytes) : (∀ arg ∈ ofLine line, 0 ∉ arg) ↔ 0 ∉ line := by
  have hiff : (∃ arg ∈ ofLine line, 0 ∈ arg) ↔ 0 ∈ line := exists_mem_ofLine_iff (by decide) line
  rw [← hiff]
  simp

/-- Arguments with a name and without a byte zero are given to a program. -/
lemma block_eq_ok {args : ArgVector} (hname : args ≠ []) (hzero : ∀ arg ∈ args, 0 ∉ arg) :
    args.block = .ok (.ofArgs args) := by
  cases args with
  | nil => exact absurd rfl hname
  | cons name rest =>
    rw [block, if_neg]
    simpa using hzero

/-- Other arguments are not given to any program. The error names the command, if there is one. -/
lemma block_eq_error {args : ArgVector} (h : ¬ (args ≠ [] ∧ ∀ arg ∈ args, 0 ∉ arg)) :
    args.block = .error (.invalidArgument ((args.command?.map Text.display).getD "")) := by
  cases args with
  | nil => rfl
  | cons name rest =>
    have hzero : ∃ arg ∈ name :: rest, 0 ∈ arg := by
      by_contra hnone
      exact h ⟨List.cons_ne_nil name rest, fun arg harg hmem => hnone ⟨arg, harg, hmem⟩⟩
    obtain ⟨arg, harg, hmem⟩ := hzero
    have hany : (name :: rest).any (·.contains 0) = true :=
      List.any_eq_true.mpr ⟨arg, harg, List.contains_iff_mem.mpr hmem⟩
    rw [block, if_pos hany]
    rfl

end ArgVector

namespace Attempt

/-- Where the arguments are not given to any program, nothing else is done. -/
lemma ofAnswers_of_block_eq_error {args : ArgVector} {e : ShellError} (h : args.block = .error e)
    (answers : ArgBlock → KernelAnswers) : ofAnswers args answers = ⟨none, 0, .error e, []⟩ := by
  rw [ofAnswers, h]

/-- Where the arguments can be given to a program, a process is asked for with them. -/
lemma forked_of_block_eq_ok {args : ArgVector} {block : ArgBlock} (h : args.block = .ok block)
    (answers : ArgBlock → KernelAnswers) : (ofAnswers args answers).forked = some block := by
  rw [ofAnswers, h]
  simp only
  cases (answers block).fork with
  | error e => rfl
  | ok pid => rfl

/-- A process is asked for with the arguments of a line just if there are any and the line has no
byte zero.  What a program reads in the block that it is given then, each string up to its byte zero
and the strings up to the null address, are the arguments of the line, unchanged and in order.
Otherwise nothing is done, and the error names the command as it is shown, or nothing if there is
none. -/
theorem forked_ofLine_iff (line : Bytes) (answers : ArgBlock → KernelAnswers) :
    let args := ArgVector.ofLine line
    let a := Attempt.ofAnswers args answers
    (a.forked ≠ none ↔ args ≠ [] ∧ 0 ∉ line) ∧
    (∀ block, a.forked = some block → block.IsTerminated ∧ block.strings = args) ∧
    (a.forked = none →
      a.result = .error (.invalidArgument ((args.command?.map Text.display).getD "")) ∧
        a.waits = 0 ∧ a.records = []) := by
  intro args a
  -- A byte zero is looked for in the arguments, not on the line.
  rw [← ArgVector.forall_zero_notMem_ofLine_iff line]
  by_cases hfit : args ≠ [] ∧ ∀ arg ∈ args, 0 ∉ arg
  · have hforked : a.forked = some (.ofArgs args) :=
      forked_of_block_eq_ok (ArgVector.block_eq_ok hfit.1 hfit.2) answers
    refine ⟨?_, ?_, ?_⟩
    · rw [hforked]
      exact iff_of_true (Option.some_ne_none _) hfit
    · intro block hblock
      rw [hforked] at hblock
      cases hblock
      exact ⟨ArgBlock.isTerminated_ofArgs hfit.2, ArgBlock.strings_ofArgs hfit.2⟩
    · intro hnone
      rw [hforked] at hnone
      cases hnone
  · have ha : a =
        ⟨none, 0, .error (.invalidArgument ((args.command?.map Text.display).getD "")), []⟩ :=
      ofAnswers_of_block_eq_error (ArgVector.block_eq_error hfit) answers
    rw [ha]
    refine ⟨iff_of_false (fun hne => hne rfl) hfit, ?_, fun _ => ⟨rfl, rfl, rfl⟩⟩
    intro block hblock
    cases hblock

/-- A line in which quotation marks stand around an argument that is no text, and the same line with
a byte zero in its last argument. -/
theorem forked_ofLine_no_text :
    let answers : ArgBlock → KernelAnswers := fun _ => ⟨.error .tryAgain, []⟩
    let line : Bytes := [0x6C, 0x73, 0x20, 0x27, 0xE9, 0x27, 0x61]
    let a := Attempt.ofAnswers (.ofLine line) answers
    let b := Attempt.ofAnswers (.ofLine (line ++ [0])) answers
    (∃ block, a.forked = some block ∧ block.strings = [[0x6C, 0x73], [0xE9], [0x61]]) ∧
      b.forked = none ∧ b.result = .error (.invalidArgument "ls") := by
  intro answers line a b
  obtain ⟨hiff, hstrings, -⟩ := forked_ofLine_iff line answers
  obtain ⟨hiff', -, hrefused⟩ := forked_ofLine_iff (line ++ [0]) answers
  obtain ⟨block, hblock⟩ := Option.ne_none_iff_exists'.mp (hiff.mpr (by decide))
  have hnone : b.forked = none := by
    by_contra hsome
    exact (hiff'.mp hsome).2 (by decide)
  refine ⟨⟨block, hblock, (hstrings block hblock).2.trans (by decide)⟩, hnone, ?_⟩
  exact (hrefused hnone).1.trans (by decide)

end Attempt

end CommandShell
