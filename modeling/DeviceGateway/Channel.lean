/-! Bounded channels. What was accepted waits in order until it is taken. A slot can
be reserved; it then counts as full, and the channel is not done while it is held.
Closing refuses what comes later and keeps what waits; a channel is closed by its receiver,
or when its last sender is gone. -/

namespace DeviceGateway

structure Channel (α : Type) where
  capacity : Nat
  queue : List α := []
  /-- Slots that are reserved. -/
  held : Nat := 0
  closed : Bool := false
  deriving Repr

/-- What became of an offer to a channel. -/
inductive Offer where
  | accepted
  | full
  | closed
  deriving DecidableEq, Repr

namespace Channel

variable {α : Type}

instance : Inhabited (Channel α) := ⟨{ capacity := 1 }⟩

/-- An open channel with at least one slot. -/
def ofCapacity (n : Nat) : Channel α := { capacity := max n 1 }

variable (c : Channel α)

def hasRoom : Bool := decide (c.queue.length + c.held < c.capacity)

/-- What an offer would meet. -/
def offer : Offer :=
  if c.closed then .closed else if c.hasRoom then .accepted else .full

/-- The channel after `a` is offered. -/
def send (a : α) : Channel α :=
  if c.offer = .accepted then { c with queue := c.queue ++ [a] } else c

/-- The channel after a slot is asked for. -/
def reserve : Channel α :=
  if c.offer = .accepted then { c with held := c.held + 1 } else c

/-- The channel with all reserved slots given back. -/
def release : Channel α := { c with held := 0 }

/-- What was accepted first, and the channel without it. -/
def take? : Option (α × Channel α) :=
  match c.queue with
  | [] => none
  | a :: r => some (a, { c with queue := r })

def close : Channel α := { c with closed := true }

/-- Nothing waits and nothing can come any more. -/
def isDone : Bool := c.closed && c.queue.isEmpty && c.held == 0

/-- As much of `as` accepted as there is room for, and the rest. -/
def fill (c : Channel α) : List α → Channel α × List α
  | [] => (c, [])
  | a :: r => if c.offer = .accepted then (c.send a).fill r else (c, a :: r)

end Channel

end DeviceGateway
