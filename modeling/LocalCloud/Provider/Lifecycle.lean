import LocalCloud.Provider.ProvidedService
import LocalCloud.Provider.Subscription

/-!
# Bulk operations

Registering, unregistering, subscribing and unsubscribing everything that was
declared.  A bulk operation visits each item once, in order, and calls for those
that are not in the wanted state.  A failed call is reported and the remaining
items are still visited; an item changes only when its call succeeded.
-/

namespace LocalCloud

/-- What became of the items of a bulk operation, by name and in order. -/
structure Report where
  succeeded : List String := []
  skipped : List String := []
  /-- Names with the text of the failure. -/
  failed : List (String × String) := []
deriving DecidableEq, Repr

/-- Whether nothing failed. -/
def Report.isClean (report : Report) : Bool :=
  report.failed.isEmpty

/-- A state that items are to be brought into. -/
structure Change (α : Type) where
  name : α → String
  /-- Whether an item is in the wanted state. -/
  isReached : α → Bool
  /-- The item in the wanted state. -/
  reach : α → α

namespace Change

variable {α : Type} {m : Type → Type} [Monad m]

/-- An item after its call. -/
def settle (change : Change α) (item : α) : Except Error Unit → α
  | .ok () => change.reach item
  | .error _ => item

/-- The report on an item after its call, in front of that on later items. -/
def record (change : Change α) (item : α) (outcome : Except Error Unit) (later : Report) : Report :=
  match outcome with
  | .ok () => { later with succeeded := change.name item :: later.succeeded }
  | .error failure =>
    { later with failed := (change.name item, failure.message) :: later.failed }

/-- The report on an item that needs no call, in front of that on later items. -/
def skip (change : Change α) (item : α) (later : Report) : Report :=
  { later with skipped := change.name item :: later.skipped }

/-- Brings every item into the wanted state, as far as the calls allow. -/
def run (change : Change α) (call : α → m (Except Error Unit)) : List α → m (List α × Report)
  | [] => pure ([], {})
  | item :: rest =>
    if change.isReached item then do
      let (items, report) ← run change call rest
      return (item :: items, change.skip item report)
    else do
      let outcome ← call item
      let (items, report) ← run change call rest
      return (change.settle item outcome :: items, change.record item outcome report)

end Change

variable {H : Type}

def Change.registered : Change (ProvidedService H) where
  name := ProvidedService.definition
  isReached := ProvidedService.isProvided
  reach := fun provided => { provided with isProvided := true }

/-- Services that the registry does not list. -/
def Change.unregistered : Change (ProvidedService H) where
  name := ProvidedService.definition
  isReached := fun provided => !provided.isProvided
  reach := fun provided => { provided with isProvided := false }

/-- Subscriptions that the event handler knows. -/
def Change.activated : Change (Subscription H) where
  name := Subscription.eventType
  isReached := Subscription.isSubscribed
  reach := fun subscription => { subscription with isSubscribed := true }

/-- Subscriptions that the event handler does not know. -/
def Change.ended : Change (Subscription H) where
  name := Subscription.eventType
  isReached := fun subscription => !subscription.isSubscribed
  reach := fun subscription => { subscription with isSubscribed := false }

end LocalCloud
