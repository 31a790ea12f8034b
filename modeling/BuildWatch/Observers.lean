/-! Observers of an event, called in the order in which they came. Each subscription has a number of its
own, so releasing one does not touch another. Numbers come back only when all of them have been used. -/

namespace BuildWatch

structure Observers (α : Type) where
  nextNumber : UInt64 := 0
  handlers : List (UInt64 × α) := []
  deriving Inhabited

namespace Observers

variable {α : Type}

/-- The observers with one more at the end, and the number of its subscription. -/
def subscribe (observers : Observers α) (handler : α) : Observers α × UInt64 :=
  (⟨observers.nextNumber + 1, observers.handlers ++ [(observers.nextNumber, handler)]⟩, observers.nextNumber)

def release (observers : Observers α) (number : UInt64) : Observers α :=
  { observers with handlers := observers.handlers.filter (·.1 != number) }

/-- The handlers that an event calls, in their order. -/
def called (observers : Observers α) : List α := observers.handlers.map (·.2)

end Observers

/-- Observers under names. The observers themselves may be gone while names still hold subscriptions; then
nothing can be subscribed or called any more, and releasing does nothing. -/
structure NamedObservers where
  observers : Option (Observers String) := some {}
  subscriptions : List (String × UInt64) := []
  deriving Inhabited

namespace NamedObservers

def number? (named : NamedObservers) (name : String) : Option UInt64 :=
  (named.subscriptions.find? (·.1 == name)).map (·.2)

/-- Takes a name off without releasing its subscription. -/
def forget (named : NamedObservers) (name : String) : NamedObservers :=
  { named with subscriptions := named.subscriptions.filter (·.1 != name) }

def release (named : NamedObservers) (number : Option UInt64) : NamedObservers :=
  match named.observers, number with
  | some observers, some number => { named with observers := some (observers.release number) }
  | _, _ => named

def dispose (named : NamedObservers) (name : String) : NamedObservers :=
  (named.forget name).release (named.number? name)

/-- A name that is taken gives up its former subscription after the new one has been made. -/
def subscribe (named : NamedObservers) (name : String) : NamedObservers :=
  match named.observers with
  | none => named
  | some observers =>
    let former := named.number? name
    let (observers, number) := observers.subscribe name
    let renewed := (named.forget name)
    ({ observers := some observers, subscriptions := renewed.subscriptions ++ [(name, number)] }
      : NamedObservers).release former

def called (named : NamedObservers) : List String := (named.observers.map (·.called)).getD []

def leave (named : NamedObservers) : NamedObservers := { named with observers := none }

end NamedObservers

end BuildWatch
