import LocalCloud.Provider.Lifecycle
import Mathlib.Data.List.Nodup
import Mathlib.Data.Set.Insert

/-!
# What a remote system holds of the items of bulk operations

The items of a bulk operation carry a mark each, and the calls for them change a
set that a remote system keeps.  `Tracks` relates the marks to that set.  One call
preserves it whatever the outcome, so it is preserved by every bulk operation, and
by one that is cut off between two calls.

The world that the calls change is arbitrary, and so are their outcomes.
-/

namespace LocalCloud

variable {α κ ω : Type}

namespace Change

section Visit

variable {m : Type → Type} [Monad m]

/-- The items that a bulk operation leaves. -/
def settled (change : Change α) (call : α → m (Except Error Unit)) (items : List α) :
    m (List α) :=
  Prod.fst <$> change.run call items

/-- The items after a bulk operation that was cut off when it had visited the
first `count` of them. -/
def visit (change : Change α) (call : α → m (Except Error Unit)) (count : Nat) (items : List α) :
    m (List α) :=
  (· ++ items.drop count) <$> change.settled call (items.take count)

variable [LawfulMonad m] {change : Change α} {call : α → m (Except Error Unit)}

theorem settled_nil : change.settled call [] = pure [] := by
  rw [settled, run, map_pure]

theorem settled_cons_of_reached {item : α} (h : change.isReached item = true) (rest : List α) :
    change.settled call (item :: rest) = (item :: ·) <$> change.settled call rest := by
  rw [settled, settled, run, if_pos h]
  simp only [map_eq_pure_bind, bind_assoc, pure_bind]

theorem settled_cons_of_not_reached {item : α} (h : change.isReached item = false)
    (rest : List α) :
    change.settled call (item :: rest) =
      call item >>= fun outcome =>
        (change.settle item outcome :: ·) <$> change.settled call rest := by
  rw [settled, settled, run, if_neg (by simp [h])]
  simp only [map_eq_pure_bind, bind_assoc, pure_bind]

/-- A bulk operation visits a first part of the items and then the others, so what
it leaves when it is cut off in between is what it goes on from otherwise. -/
theorem settled_append (first rest : List α) :
    change.settled call (first ++ rest) =
      change.settled call first >>= fun done => (done ++ ·) <$> change.settled call rest := by
  induction first with
  | nil => simp [settled_nil]
  | cons item first ih =>
      rw [List.cons_append]
      cases hreached : change.isReached item with
      | true =>
          rw [settled_cons_of_reached hreached, settled_cons_of_reached hreached, ih]
          simp
      | false =>
          rw [settled_cons_of_not_reached hreached, settled_cons_of_not_reached hreached, ih]
          simp

/-- An operation that comes to the end of the items is not cut off. -/
theorem visit_of_length_le {count : Nat} {items : List α} (h : items.length ≤ count) :
    change.visit call count items = change.settled call items := by
  rw [visit, List.take_of_length_le h, List.drop_of_length_le h]
  simp

end Visit

section Preservation

variable {change : Change α} {call : α → StateM ω (Except Error Unit)}
  {holds : List α → ω → Prop}

/-- What every call preserves, with the items around its own as they are, is
preserved by visiting some of the items. -/
theorem settled_preserves
    (hcall : ∀ before item rest world, holds (before ++ item :: rest) world →
      change.isReached item = false →
      holds (before ++ change.settle item ((call item).run world).1 :: rest)
        ((call item).run world).2)
    (items before rest : List α) (world : ω) (h : holds (before ++ (items ++ rest)) world) :
    holds (before ++ (((change.settled call items).run world).1 ++ rest))
      ((change.settled call items).run world).2 := by
  induction items generalizing before world with
  | nil =>
      rw [settled_nil]
      exact h
  | cons item items ih =>
      cases hreached : change.isReached item with
      | true =>
          have hitems : holds ((before ++ [item]) ++ (items ++ rest)) world := by
            rw [List.append_assoc]
            exact h
          have hlater := ih (before ++ [item]) world hitems
          rw [List.append_assoc] at hlater
          rw [settled_cons_of_reached hreached]
          exact hlater
      | false =>
          have hitem := hcall before item (items ++ rest) world h hreached
          rw [← List.singleton_append, ← List.append_assoc] at hitem
          have hlater := ih _ _ hitem
          rw [List.append_assoc] at hlater
          rw [settled_cons_of_not_reached hreached]
          exact hlater

theorem visit_preserves
    (hcall : ∀ before item rest world, holds (before ++ item :: rest) world →
      change.isReached item = false →
      holds (before ++ change.settle item ((call item).run world).1 :: rest)
        ((call item).run world).2)
    (count : Nat) {items : List α} {world : ω} (h : holds items world) :
    holds ((change.visit call count items).run world).1
      ((change.visit call count items).run world).2 := by
  have hsplit : holds ([] ++ (items.take count ++ items.drop count)) world := by
    rw [List.nil_append, List.take_append_drop]
    exact h
  exact settled_preserves hcall (items.take count) [] (items.drop count) world hsplit

end Preservation

end Change

/-- How a remote system holds the items of bulk operations: under keys, of which
it keeps a set. -/
structure Mirror (ω α κ : Type) where
  /-- The mark that the remote system is meant to hold the item. -/
  isUp : α → Bool
  key : α → κ
  /-- The keys that go when the first one is taken away. -/
  Drops : κ → κ → Prop
  drops_self : ∀ key, Drops key key
  remote : ω → Set κ

namespace Mirror

variable {mirror : Mirror ω α κ} {change : Change α} {call : α → StateM ω (Except Error Unit)}
  {up : Bool} {item : α} {before rest items : List α} {world : ω}

/-- The set after a call for a key succeeded. -/
def effect (mirror : Mirror ω α κ) (up : Bool) (key : κ) (held : Set κ) : Set κ :=
  if up then insert key held else {other ∈ held | ¬ mirror.Drops key other}

/-- A bulk operation gives items a mark, and its calls have the effect that
belongs to the mark. -/
structure Sets (mirror : Mirror ω α κ) (up : Bool) (change : Change α)
    (call : α → StateM ω (Except Error Unit)) : Prop where
  isReached : ∀ item, change.isReached item = (mirror.isUp item == up)
  isUp_reach : ∀ item, mirror.isUp (change.reach item) = up
  key_reach : ∀ item, mirror.key (change.reach item) = mirror.key item
  remote_ok : ∀ item world, ((call item).run world).1 = .ok () →
    mirror.remote ((call item).run world).2 =
      mirror.effect up (mirror.key item) (mirror.remote world)
  remote_error : ∀ item world failure, ((call item).run world).1 = .error failure →
    mirror.remote ((call item).run world).2 = mirror.remote world

/-- No other item's key goes with an item's own. -/
def Alone (mirror : Mirror ω α κ) (items : List α) (item : α) : Prop :=
  ∀ key ∈ items.map mirror.key, mirror.Drops key (mirror.key item) → key = mirror.key item

/-- The marks of the items agree with what the remote system holds. -/
structure Tracks (mirror : Mirror ω α κ) (items : List α) (held : Set κ) : Prop where
  nodup : (items.map mirror.key).Nodup
  known : ∀ key ∈ held, key ∈ items.map mirror.key
  isUp_of_held : ∀ item ∈ items, mirror.key item ∈ held → mirror.isUp item = true
  held_of_isUp : ∀ item ∈ items, mirror.Alone items item → mirror.isUp item = true →
    mirror.key item ∈ held

/-- In the beginning nothing is marked and nothing is held. -/
theorem tracks_empty (hnodup : (items.map mirror.key).Nodup)
    (hdown : ∀ item ∈ items, mirror.isUp item = false) : mirror.Tracks items ∅ where
  nodup := hnodup
  known _ hkey := absurd hkey (Set.notMem_empty _)
  isUp_of_held _ _ hheld := absurd hheld (Set.notMem_empty _)
  held_of_isUp item hitem _ hup := by
    rw [hdown item hitem] at hup
    cases hup

theorem mem_of_mem_effect {held : Set κ} {key other : κ} (hne : other ≠ key)
    (h : other ∈ mirror.effect up key held) : other ∈ held := by
  cases up with
  | true => exact Set.mem_of_mem_insert_of_ne h hne
  | false => exact h.1

/-- A key that goes with no other stays when another one is called for. -/
theorem mem_effect {held : Set κ} {key other : κ} (hdrops : ¬ mirror.Drops key other)
    (h : other ∈ held) : other ∈ mirror.effect up key held := by
  cases up with
  | true => exact Set.mem_insert_of_mem _ h
  | false => exact ⟨h, hdrops⟩

theorem mem_effect_self_iff {held : Set κ} {key : κ} :
    key ∈ mirror.effect up key held ↔ up = true := by
  cases up with
  | true => exact iff_of_true (Set.mem_insert _ _) rfl
  | false => exact iff_of_false (fun h => h.2 (mirror.drops_self key)) Bool.false_ne_true

/-- A call that succeeds changes the mark of its item and what is held alike. -/
theorem Tracks.effect {held : Set κ} {reached : α}
    (h : mirror.Tracks (before ++ item :: rest) held) (hkey : mirror.key reached = mirror.key item)
    (hup : mirror.isUp reached = up) :
    mirror.Tracks (before ++ reached :: rest) (mirror.effect up (mirror.key item) held) := by
  have hkeys : (before ++ reached :: rest).map mirror.key =
      (before ++ item :: rest).map mirror.key := by
    rw [List.map_append, List.map_append, List.map_cons, List.map_cons, hkey]
  have hself : mirror.key item ∈ (before ++ item :: rest).map mirror.key :=
    List.mem_map_of_mem (List.mem_append_right _ List.mem_cons_self)
  -- The other items keep their marks and have other keys.
  have hothers : ∀ other ∈ before ++ reached :: rest, other = reached ∨
      other ∈ before ++ item :: rest ∧ mirror.key other ≠ mirror.key item := by
    have hnodup := h.nodup
    rw [List.map_append, List.map_cons, List.nodup_middle, List.nodup_cons, ← List.map_append]
      at hnodup
    intro other hother
    rw [List.mem_append, List.mem_cons] at hother ⊢
    by_cases hreached : other = reached
    · exact .inl hreached
    · have hrest : other ∈ before ∨ other ∈ rest := hother.imp_right (Or.resolve_left · hreached)
      refine .inr ⟨hrest.imp_right .inr, ?_⟩
      intro heq
      apply hnodup.1
      rw [← heq]
      exact List.mem_map_of_mem (List.mem_append.2 hrest)
  constructor
  · rw [hkeys]
    exact h.nodup
  · intro key hheld
    rw [hkeys]
    by_cases heq : key = mirror.key item
    · rw [heq]
      exact hself
    · exact h.known key (mem_of_mem_effect heq hheld)
  · intro other hother hheld
    rcases hothers other hother with rfl | ⟨hitem, hne⟩
    · rw [hkey, mem_effect_self_iff] at hheld
      rw [hup, hheld]
    · exact h.isUp_of_held other hitem (mem_of_mem_effect hne hheld)
  · intro other hother halone hmark
    rcases hothers other hother with rfl | ⟨hitem, hne⟩
    · rw [hkey, mem_effect_self_iff, ← hup]
      exact hmark
    · rw [Alone, hkeys] at halone
      apply mem_effect _ (h.held_of_isUp other hitem halone hmark)
      intro hdrops
      exact hne (halone _ hself hdrops).symm

/-- One call preserves the agreement. -/
theorem Sets.tracks_settle (hsets : mirror.Sets up change call)
    (h : mirror.Tracks (before ++ item :: rest) (mirror.remote world)) :
    mirror.Tracks (before ++ change.settle item ((call item).run world).1 :: rest)
      (mirror.remote ((call item).run world).2) := by
  cases houtcome : ((call item).run world).1 with
  | ok value =>
      rw [hsets.remote_ok item world houtcome]
      exact h.effect (hsets.key_reach item) (hsets.isUp_reach item)
  | error failure =>
      rw [hsets.remote_error item world failure houtcome]
      exact h

end Mirror

end LocalCloud
