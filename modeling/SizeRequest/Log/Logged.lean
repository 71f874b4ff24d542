import SizeRequest.Log.Event

namespace SizeRequest

/-- The events that were logged, and how the computation ended. -/
structure Logged (ε α : Type) where
  events : List Event
  outcome : Except ε α

namespace Logged

variable {ε δ α β : Type}

def done (a : α) : Logged ε α := ⟨[], .ok a⟩

def fail (fault : ε) : Logged ε α := ⟨[], .error fault⟩

def silent (outcome : Except ε α) : Logged ε α := ⟨[], outcome⟩

def log (event : Event) : Logged ε Unit := ⟨[event], .ok ()⟩

/-- A computation and, unless it stops, the next one. -/
def andThen (x : Logged ε α) (next : α → Logged ε β) : Logged ε β :=
  match x.outcome with
  | .error fault => ⟨x.events, .error fault⟩
  | .ok a => ⟨x.events ++ (next a).events, (next a).outcome⟩

def mapFault (f : ε → δ) (x : Logged ε α) : Logged δ α := ⟨x.events, x.outcome.mapError f⟩

theorem andThen_of_ok {x : Logged ε α} {a : α} (h : x.outcome = .ok a) (next : α → Logged ε β) :
    x.andThen next = ⟨x.events ++ (next a).events, (next a).outcome⟩ := by
  rw [andThen, h]

theorem andThen_of_error {x : Logged ε α} {fault : ε} (h : x.outcome = .error fault)
    (next : α → Logged ε β) : x.andThen next = ⟨x.events, .error fault⟩ := by
  rw [andThen, h]

end Logged

end SizeRequest
