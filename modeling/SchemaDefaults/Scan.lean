/-! # Reading from the front

A `Scan` takes symbols off the front of a list and gives a result and the rest of the
list, or fails with a cause. The readers of the text formats are put together from the
steps below; `Scan.loop` is the only one that repeats.
-/

namespace SchemaDefaults

/-- A reading step over symbols `σ` that can fail with an `ε`. -/
abbrev Scan (σ ε : Type) := StateT (List σ) (Except ε)

namespace Scan

variable {σ ε α β : Type}

def fail (cause : ε) : Scan σ ε α := fun _ => .error cause

/-- The next symbol, which stays where it is. -/
def peek : Scan σ ε (Option σ) := fun input => .ok (input.head?, input)

/-- Takes the next symbol, if there is one. -/
def next : Scan σ ε (Option σ)
  | [] => .ok (none, [])
  | symbol :: rest => .ok (some symbol, rest)

/-- Takes the symbols up to the first that does not have a property. -/
def takeWhile (p : σ → Bool) : Scan σ ε (List σ) := fun input =>
  .ok (input.takeWhile p, input.dropWhile p)

/-- Drops the symbols up to the first that does not have a property. -/
def skipWhile (p : σ → Bool) : Scan σ ε Unit := fun input =>
  .ok ((), input.dropWhile p)

/-- Takes a given beginning off the input, if the input begins with it. -/
def accept [BEq σ] (start : List σ) : Scan σ ε Bool := fun input =>
  if start.isPrefixOf input then .ok (true, input.drop start.length) else .ok (false, input)

/-- Takes a given beginning off the input and fails if the input begins otherwise. -/
def expect [BEq σ] (cause : ε) (start : List σ) : Scan σ ε Unit := do
  unless ← accept start do fail cause

/-- Fails unless the input is used up. -/
def atEnd (cause : ε) : Scan σ ε Unit
  | [] => .ok ((), [])
  | _ :: _ => .error cause

/-- What a round of a loop decides: to go on with a new state, or to end with a result. -/
inductive Round (α β : Type) where
  | again (state : α)
  | done (result : β)

/-- One round for each symbol of a budget, and a last one. -/
def loopWithin (stuck : ε) (round : α → Scan σ ε (Round α β)) : List σ → α → Scan σ ε β
  | [], state => do
      match ← round state with
      | .again _ => fail stuck
      | .done result => pure result
  | _ :: budget, state => do
      match ← round state with
      | .again state => loopWithin stuck round budget state
      | .done result => pure result

/-- Repeats a round until it decides to end. A loop that stands still fails. -/
def loop (stuck : ε) (round : α → Scan σ ε (Round α β)) (state : α) : Scan σ ε β :=
  -- A round that goes on has to take a symbol, so one for each symbol and a last one are enough.
  fun input => loopWithin stuck round input state input

/-- The result of a reading step on a whole input. -/
def run (scan : Scan σ ε α) (input : List σ) : Except ε α :=
  (StateT.run scan input).map Prod.fst

end Scan

end SchemaDefaults
