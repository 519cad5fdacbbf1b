import CommandShell.ArgVector

/-!
# Argument blocks

The form in which a program is given its arguments: one memory in which each argument is ended by
a byte zero, and an array of the addresses of the arguments that ends with the null address. An
argument that contains a byte zero would be cut short there.
-/

namespace CommandShell

/-- Arguments as a program finds them. -/
structure ArgBlock where
  /-- The arguments, each followed by a byte zero. -/
  memory : Array UInt8
  /-- The addresses of the arguments in order; `none` is the null address. -/
  addresses : List (Option Nat)
deriving DecidableEq, Repr

namespace ArgBlock

/-- The addresses of arguments that stand one after the other from an address on. -/
def addressesFrom (address : Nat) : ArgVector → List (Option Nat)
  | [] => [none]
  | arg :: rest => some address :: addressesFrom (address + arg.length + 1) rest

/-- The block of an argument vector. -/
def ofArgs (args : ArgVector) : ArgBlock :=
  ⟨(args.flatMap (· ++ [0])).toArray, addressesFrom 0 args⟩

/-- The bytes of a memory from an address to the next byte zero. -/
def stringFrom (memory : Array UInt8) (address : Nat) : Bytes :=
  if h : address < memory.size then
    if memory[address] = 0 then [] else memory[address] :: stringFrom memory (address + 1)
  else []
termination_by memory.size - address

/-- The string at an address is what stands there before the next byte zero. -/
theorem stringFrom_eq (memory : Array UInt8) (address : Nat) :
    stringFrom memory address = (memory.toList.drop address).takeWhile (· ≠ 0) := by
  fun_induction stringFrom memory address with
  | case1 address h hz => simp [List.drop_eq_getElem_cons (l := memory.toList) h, hz]
  | case2 address h hz ih => simp [List.drop_eq_getElem_cons (l := memory.toList) h, hz, ih]
  | case3 address h =>
    have : memory.toList.length ≤ address := by simpa using h
    simp [List.drop_eq_nil_of_le this]

/-- The string at an address. -/
def stringAt (b : ArgBlock) (address : Nat) : Bytes :=
  stringFrom b.memory address

/-- The strings at the addresses before the null address. -/
def strings (b : ArgBlock) : List Bytes :=
  (b.addresses.takeWhile Option.isSome).filterMap fun a => a.map b.stringAt

end ArgBlock

end CommandShell
