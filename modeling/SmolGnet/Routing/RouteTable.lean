import SmolGnet.Library.Machine
import SmolGnet.Library.Slots
import SmolGnet.Routing.Types
import SmolGnet.Time
import Mathlib.Data.List.Nodup

/-!
# The table of routes of an endpoint

A table has a fixed number of slots for routes.  Of the routes that have not expired and whose prefix
contains the destination, one with the longest prefix is chosen; of several, the one in the first
slot.  That is the one that was added first, unless a route has been added in a slot that had become
free before the slot of an older route with the same prefix.
-/

namespace SmolGnet

/-- A route to the addresses in a prefix. -/
structure Route where
  gdpPrefix : GdpPrefix
  viaRouter : GdpAddress
  preferredUntil : Option Instant
  expiresAt : Option Instant
  deriving DecidableEq

namespace Route

def new (gdpPrefix : GdpPrefix) (viaRouter : GdpAddress) : Route where
  gdpPrefix
  viaRouter
  preferredUntil := none
  expiresAt := none

/-- A route to all addresses. -/
def newDefault (viaRouter : GdpAddress) : Route :=
  new .defaultRoute viaRouter

def isExpired (route : Route) (now : Instant) : Bool :=
  match route.expiresAt with
  | some expiresAt => expiresAt < now
  | none => false

end Route

/-- All slots of a table are taken. -/
inductive RouteTableFull where
  | routeTableFull
  deriving DecidableEq, Repr

/-- A table with `N` slots, and the number of slots that are taken. -/
structure RouteTable (N : ℕ) where
  routes : List (Option Route)
  len : ℕ
  length_routes : routes.length = N
  len_eq : len = routes.reduceOption.length

namespace RouteTable

variable {N : ℕ}

/-- A table without routes. -/
def new (N : ℕ) : RouteTable N where
  routes := List.replicate N none
  len := 0
  length_routes := List.length_replicate
  len_eq := by rw [List.reduceOption_replicate_none, List.length_nil]

/-- Add a route in the first free slot. -/
def add (table : RouteTable N) (route : Route) : Except RouteTableFull (RouteTable N) :=
  match h : Slots.add route table.routes with
  | none => .error .routeTableFull
  | some routes =>
    .ok
      { routes
        len := table.len + 1
        length_routes := (Slots.length_add h).trans table.length_routes
        len_eq := by rw [Slots.length_reduceOption_add h, table.len_eq] }

/-- Remove the first route to a prefix. -/
def remove (table : RouteTable N) (gdpPrefix : GdpPrefix) : Option Route × RouteTable N :=
  match h : Slots.remove (fun route => route.gdpPrefix = gdpPrefix) table.routes with
  | none => (none, table)
  | some (route, routes) =>
    (some route,
      { routes
        len := table.len - 1
        length_routes := (Slots.length_remove h).trans table.length_routes
        len_eq := by rw [table.len_eq, Slots.length_reduceOption_remove h, Nat.add_sub_cancel] })

def removeDefaultRoute (table : RouteTable N) : Option Route × RouteTable N :=
  table.remove .defaultRoute

/-- Put a default route in the place of the old one, which is put back if that fails. -/
def addDefaultRoute (table : RouteTable N) (viaRouter : GdpAddress) :
    Except RouteTableFull (Option Route) × RouteTable N :=
  match table.removeDefaultRoute with
  | (old, removed) =>
    match removed.add (.newDefault viaRouter) with
    | .ok added => (.ok old, added)
    | .error err =>
      match old with
      | none => (.error err, removed)
      | some route =>
        match removed.add route with
        | .ok restored => (.error err, restored)
        | .error _ => (.error err, removed)

/-- The router of the route to an address. -/
def lookup (table : RouteTable N) (destination : GdpAddress) (now : Instant) : Option GdpAddress :=
  (table.routes.reduceOption.foldl
    (fun best route =>
      if route.isExpired now || !route.gdpPrefix.contains destination then best
      else
        match best with
        | none => some route
        | some current =>
          if current.gdpPrefix.prefixLen < route.gdpPrefix.prefixLen then some route else best)
    none).map Route.viaRouter

/-- The first time at which a route expires. -/
def nextExpiry (table : RouteTable N) : Option Instant :=
  (table.routes.reduceOption.filterMap Route.expiresAt).argmin (fun expiry => expiry.millis.toNat)

/-- Remove the routes that have expired, and count them. -/
def pruneExpired (table : RouteTable N) (now : Instant) : ℕ × RouteTable N :=
  let routes := Slots.prune (fun route => route.isExpired now) table.routes
  let removed := table.routes.reduceOption.countP (fun route => route.isExpired now)
  (removed,
    { routes
      len := table.len - removed
      length_routes := Slots.length_prune.trans table.length_routes
      len_eq := by
        rw [Slots.reduceOption_prune, ← List.countP_eq_length_filter, table.len_eq,
          List.length_eq_countP_add_countP (fun route => route.isExpired now),
          Nat.add_sub_cancel_left]
        simp })

/-- What changes the routes of a table. -/
inductive Op where
  | add (route : Route)
  | remove (gdpPrefix : GdpPrefix)
  | addDefaultRoute (viaRouter : GdpAddress)
  | removeDefaultRoute
  | pruneExpired (now : Instant)

/-- The table after a call, whether it succeeds or not. -/
def step (table : RouteTable N) : Op → RouteTable N
  | .add route =>
    match table.add route with
    | .error _ => table
    | .ok added => added
  | .remove gdpPrefix => (table.remove gdpPrefix).2
  | .addDefaultRoute viaRouter => (table.addDefaultRoute viaRouter).2
  | .removeDefaultRoute => table.removeDefaultRoute.2
  | .pruneExpired now => (table.pruneExpired now).2

/-- No route in a slot after the first free one has the prefix of `route` and another router. -/
def AddsInOrder (routes : List (Option Route)) (route : Route) : Prop :=
  ∀ later ∈ (routes.dropWhile Option.isSome).reduceOption,
    later.gdpPrefix = route.gdpPrefix → later.viaRouter = route.viaRouter

instance (routes : List (Option Route)) (route : Route) : Decidable (AddsInOrder routes route) :=
  List.decidableBAll _ _

/-- The call adds no route in a slot before that of an older route with the same prefix and another
router. -/
def InOrder (table : RouteTable N) : Op → Prop
  | .add route => AddsInOrder table.routes route
  | .addDefaultRoute viaRouter =>
    AddsInOrder table.removeDefaultRoute.2.routes (.newDefault viaRouter)
  | .remove _ | .removeDefaultRoute | .pruneExpired _ => True

instance (table : RouteTable N) : ∀ op, Decidable (table.InOrder op)
  | .add _ | .addDefaultRoute _ => inferInstanceAs (Decidable (AddsInOrder _ _))
  | .remove _ | .removeDefaultRoute | .pruneExpired _ => inferInstanceAs (Decidable True)

/-! ### What the calls do -/

variable {table table' : RouteTable N} {route : Route}

theorem add_eq_error :
  table.add route = .error .routeTableFull ↔ Slots.add route table.routes = none
  := by
  rw [add]
  split
  · next h => exact iff_of_true rfl h
  · next h => exact iff_of_false nofun (h ▸ nofun)

/-- A route is not added exactly when there are `N` routes. -/
theorem add_eq_error_iff :
  table.add route = .error .routeTableFull ↔ table.routes.reduceOption.length = N
  := by rw [add_eq_error, Slots.add_eq_none_iff, table.length_routes]

theorem add_eq_ok (h : table.add route = .ok table') :
  Slots.add route table.routes = some table'.routes
  := by
  rw [add] at h
  split at h
  · cases h
  · next hadd =>
    cases h
    exact hadd

theorem routes_remove (gdpPrefix : GdpPrefix) :
  (table.remove gdpPrefix).2.routes =
    match Slots.remove (fun route => route.gdpPrefix = gdpPrefix) table.routes with
    | none => table.routes
    | some (_, routes) => routes
  := by
  rw [remove]
  split
  · next h => simp only [h]
  · next h => simp only [h]

/-- When a default route has been removed, there is a slot for another one, and when none has been
removed, the table has not changed: a default route is removed, and then added. -/
theorem snd_addDefaultRoute (table : RouteTable N) (viaRouter : GdpAddress) :
  (table.addDefaultRoute viaRouter).2 =
    table.removeDefaultRoute.2.step (.add (.newDefault viaRouter))
  := by
  rcases hremove : table.removeDefaultRoute with ⟨old, removed⟩
  rw [addDefaultRoute, hremove, step]
  cases hadd : removed.add (.newDefault viaRouter) with
  | ok added => simp only [hadd]
  | error err =>
    cases old with
    | none => simp only [hadd]
    | some old =>
      exfalso
      rw [removeDefaultRoute, remove] at hremove
      split at hremove
      · cases hremove
      · next hold =>
        cases hremove
        cases err
        rw [add_eq_error] at hadd
        obtain ⟨slots, hslots⟩ := Slots.exists_add_of_remove hold (.newDefault viaRouter)
        rw [hslots] at hadd
        cases hadd

/-- No route has expired before the first time at which one expires. -/
theorem pruneExpired_eq_zero_iff {now : Instant} :
  (table.pruneExpired now).1 = 0 ↔ ∀ expiry, table.nextExpiry = some expiry → now ≤ expiry
  := by
  have hexpired : ∀ route : Route, route.isExpired now = true ↔
      ∃ expiry, route.expiresAt = some expiry ∧ expiry < now := by
    intro route
    rw [Route.isExpired]
    cases route.expiresAt with
    | none => simp
    | some expiry => simp
  change table.routes.reduceOption.countP _ = 0 ↔ _
  rw [List.countP_eq_zero]
  constructor
  · intro h expiry hnext
    obtain ⟨route, hroute, hexpiry⟩ := List.mem_filterMap.mp (List.argmin_mem hnext)
    rw [Instant.le_def, ← Nat.not_lt]
    intro hlt
    exact h route hroute ((hexpired route).mpr ⟨expiry, hexpiry, hlt⟩)
  · intro h route hroute hisExpired
    obtain ⟨expiry, hexpiry, hlt⟩ := (hexpired route).mp hisExpired
    have hmem : expiry ∈ table.routes.reduceOption.filterMap Route.expiresAt :=
      List.mem_filterMap.mpr ⟨route, hroute, hexpiry⟩
    cases hnext : table.nextExpiry with
    | none =>
      rw [nextExpiry, List.argmin_eq_none] at hnext
      rw [hnext] at hmem
      cases hmem
    | some first =>
      have hle : first.millis.toNat ≤ expiry.millis.toNat :=
        List.le_of_mem_argmin (f := fun expiry : Instant => expiry.millis.toNat) hmem hnext
      have hnow := h first hnext
      rw [Instant.le_def] at hnow
      rw [Instant.lt_def] at hlt
      omega

end RouteTable

/-! ### The record of a table -/

/-- Which routes are stored, the number of routes that had been added before each of them, and the
number of those that have been added so far. -/
structure RouteRecord where
  slots : List (Option (Route × ℕ))
  clock : ℕ

namespace RouteRecord

/-- No routes have been added. -/
def new (N : ℕ) : RouteRecord where
  slots := List.replicate N none
  clock := 0

/-- Add a route, if there is room. -/
def add (record : RouteRecord) (route : Route) : RouteRecord :=
  match Slots.add (route, record.clock) record.slots with
  | none => record
  | some slots => ⟨slots, record.clock + 1⟩

/-- Remove a route to a prefix. -/
def remove (record : RouteRecord) (gdpPrefix : GdpPrefix) : RouteRecord :=
  match Slots.remove (fun entry => entry.1.gdpPrefix = gdpPrefix) record.slots with
  | none => record
  | some (_, slots) => { record with slots }

/-- The record after a call. -/
def step (record : RouteRecord) : RouteTable.Op → RouteRecord
  | .add route => record.add route
  | .remove gdpPrefix => record.remove gdpPrefix
  | .addDefaultRoute viaRouter => (record.remove .defaultRoute).add (.newDefault viaRouter)
  | .removeDefaultRoute => record.remove .defaultRoute
  | .pruneExpired now =>
    { record with slots := Slots.prune (fun entry => entry.1.isExpired now) record.slots }

/-- The record of what a run has done to a new table. -/
def run (N : ℕ) (ops : List RouteTable.Op) : RouteRecord :=
  Machine.run step (new N) ops

/-- The routes that are stored, in the order of their slots. -/
def stored (record : RouteRecord) : List (Route × ℕ) :=
  record.slots.reduceOption

/-- The route may be chosen: it has not expired, and its prefix contains the destination. -/
def Matches (destination : GdpAddress) (now : Instant) (route : Route) : Bool :=
  !route.isExpired now && route.gdpPrefix.contains destination

/-- Of the stored routes that may be chosen none has a longer prefix, and none of those with a prefix
as long was added before. -/
def IsFirstOfLongest (record : RouteRecord) (destination : GdpAddress) (now : Instant)
    (entry : Route × ℕ) : Prop :=
  entry ∈ record.stored ∧ Matches destination now entry.1 = true ∧
    ∀ other ∈ record.stored, Matches destination now other.1 = true →
      other.1.gdpPrefix.prefixLen < entry.1.gdpPrefix.prefixLen ∨
      other.1.gdpPrefix.prefixLen = entry.1.gdpPrefix.prefixLen ∧ entry.2 ≤ other.2

/-- The record is one of the table. -/
def Of {N : ℕ} (record : RouteRecord) (table : RouteTable N) : Prop :=
  table.routes = record.slots.map (Option.map Prod.fst)

variable {N : ℕ} {record : RouteRecord} {table : RouteTable N}

theorem Of.add (h : record.Of table) (route : Route) :
  (record.add route).Of (table.step (.add route))
  := by
  have hmap := Slots.add_map Prod.fst (route, record.clock) record.slots
  rw [← h] at hmap
  rw [RouteTable.step, RouteRecord.add]
  cases hslots : Slots.add (route, record.clock) record.slots with
  | none =>
    rw [hslots] at hmap
    rw [RouteTable.add_eq_error.mpr hmap]
    exact h
  | some slots =>
    rw [hslots] at hmap
    cases hadd : table.add route with
    | error err =>
      cases err
      rw [RouteTable.add_eq_error.mp hadd] at hmap
      cases hmap
    | ok added =>
      rw [RouteTable.add_eq_ok hadd] at hmap
      exact Option.some_injective _ hmap

theorem Of.remove (h : record.Of table) (gdpPrefix : GdpPrefix) :
  (record.remove gdpPrefix).Of (table.remove gdpPrefix).2
  := by
  have hmap := Slots.remove_map Prod.fst (fun route : Route => route.gdpPrefix = gdpPrefix)
    record.slots
  rw [← h] at hmap
  rw [Of, RouteTable.routes_remove, hmap, RouteRecord.remove]
  cases Slots.remove (fun entry => decide (entry.1.gdpPrefix = gdpPrefix)) record.slots with
  | none => exact h
  | some taken => rfl

theorem Of.step (h : record.Of table) (op : RouteTable.Op) :
  (record.step op).Of (table.step op)
  := by
  cases op with
  | add route => exact h.add route
  | remove gdpPrefix => exact h.remove gdpPrefix
  | addDefaultRoute viaRouter =>
    rw [RouteTable.step, RouteTable.snd_addDefaultRoute]
    exact (h.remove .defaultRoute).add (.newDefault viaRouter)
  | removeDefaultRoute => exact h.remove .defaultRoute
  | pruneExpired now =>
    change Slots.prune _ table.routes = _
    rw [h, Slots.prune_map]
    rfl

/-! ### The order of the slots -/

/-- What is stored was added at different times. -/
structure Stamped (record : RouteRecord) : Prop where
  lt_clock : ∀ entry ∈ record.stored, entry.2 < record.clock
  nodup : (record.stored.map Prod.snd).Nodup

/-- Of two routes to the same prefix, the one in the first slot is the older one, unless they have
the same router. -/
def Ordered (record : RouteRecord) : Prop :=
  record.stored.Pairwise
    (fun x y => x.1.gdpPrefix = y.1.gdpPrefix → x.1.viaRouter ≠ y.1.viaRouter → x.2 < y.2)

theorem Stamped.sublist {slots : List (Option (Route × ℕ))} (h : record.Stamped)
    (hsub : slots.reduceOption.Sublist record.stored) :
  Stamped { record with slots }
  where
  lt_clock entry hentry := h.lt_clock entry (hsub.subset hentry)
  nodup := h.nodup.sublist (hsub.map _)

theorem stored_remove_sublist (record : RouteRecord) (gdpPrefix : GdpPrefix) :
  (record.remove gdpPrefix).stored.Sublist record.stored ∧
    (record.Stamped → (record.remove gdpPrefix).Stamped)
  := by
  rw [remove]
  split
  · exact ⟨List.Sublist.refl _, id⟩
  · next h =>
    have hsub := Slots.reduceOption_remove_sublist h
    exact ⟨hsub, fun hstamped => hstamped.sublist hsub⟩

theorem stored_prune_sublist (record : RouteRecord) (now : Instant) :
  (record.step (.pruneExpired now)).stored.Sublist record.stored
  := by
  change (Slots.prune _ record.slots).reduceOption.Sublist _
  rw [Slots.reduceOption_prune]
  exact List.filter_sublist

/-- Where a route is added among those that are stored. -/
theorem stored_add (record : RouteRecord) (route : Route) :
  record.add route = record ∨
    ∃ before after, record.stored = before ++ after ∧
      (record.add route).stored = before ++ (route, record.clock) :: after ∧
      (record.add route).clock = record.clock + 1 ∧
      (record.slots.dropWhile Option.isSome).reduceOption = after
  := by
  rw [add]
  split
  · exact .inl rfl
  · next h =>
    obtain ⟨before, after, hslots, rfl, hdrop⟩ := Slots.add_eq_some h
    refine .inr ⟨before.reduceOption, after.reduceOption, ?_, ?_, rfl, ?_⟩
    · rw [stored, hslots, List.reduceOption_append, List.reduceOption_cons_of_none]
    · rw [stored, List.reduceOption_append, List.reduceOption_cons_of_some]
    · rw [hdrop, List.reduceOption_cons_of_none]

theorem Stamped.add (h : record.Stamped) (route : Route) :
  (record.add route).Stamped
  := by
  rcases record.stored_add route with hsame | ⟨before, after, hold, hnew, hclock, -⟩
  · rw [hsame]
    exact h
  have hperm : (record.add route).stored.Perm ((route, record.clock) :: record.stored) := by
    rw [hnew, hold]
    exact List.perm_middle
  constructor
  · intro entry hentry
    rw [hclock]
    rcases List.mem_cons.mp (hperm.subset hentry) with rfl | hentry
    · exact Nat.lt_succ_self _
    · exact Nat.lt_succ_of_lt (h.lt_clock entry hentry)
  · rw [(hperm.map Prod.snd).nodup_iff, List.map_cons, List.nodup_cons]
    refine ⟨?_, h.nodup⟩
    intro hmem
    obtain ⟨entry, hentry, heq⟩ := List.mem_map.mp hmem
    exact absurd (h.lt_clock entry hentry) (heq ▸ Nat.lt_irrefl _)

theorem Stamped.step (h : record.Stamped) (op : RouteTable.Op) :
  (record.step op).Stamped
  := by
  cases op with
  | add route => exact h.add route
  | remove gdpPrefix => exact (record.stored_remove_sublist gdpPrefix).2 h
  | addDefaultRoute viaRouter =>
    exact ((record.stored_remove_sublist .defaultRoute).2 h).add (.newDefault viaRouter)
  | removeDefaultRoute => exact (record.stored_remove_sublist .defaultRoute).2 h
  | pruneExpired now => exact h.sublist (record.stored_prune_sublist now)

theorem Ordered.add (hof : record.Of table) (hstamped : record.Stamped) (h : record.Ordered)
    {route : Route} (hroute : RouteTable.AddsInOrder table.routes route) :
  (record.add route).Ordered
  := by
  rcases record.stored_add route with hsame | ⟨before, after, hold, hnew, -, hdrop⟩
  · rw [hsame]
    exact h
  have hlater : ∀ later ∈ after, later.1.gdpPrefix = route.gdpPrefix →
      later.1.viaRouter = route.viaRouter := by
    intro later hmem
    apply hroute later.1
    have hmap : (table.routes.dropWhile Option.isSome).reduceOption = after.map Prod.fst := by
      rw [hof, List.dropWhile_map, List.reduceOption_map, ← hdrop]
      congr 3
      funext slot
      exact Option.isSome_map
    rw [hmap]
    exact List.mem_map_of_mem hmem
  rw [Ordered, hold, List.pairwise_append] at h
  obtain ⟨hbefore, hafter, hacross⟩ := h
  rw [Ordered, hnew, List.pairwise_append, List.pairwise_cons]
  refine ⟨hbefore, ⟨?_, hafter⟩, ?_⟩
  · intro later hmem hprefix hvia
    exact absurd (hlater later hmem hprefix.symm).symm hvia
  · intro entry hentry other hother hprefix hvia
    rcases List.mem_cons.mp hother with rfl | hother
    · apply hstamped.lt_clock entry
      rw [hold]
      exact List.mem_append_left _ hentry
    · exact hacross entry hentry other hother hprefix hvia

/-- A call that adds no route before an older one keeps the order. -/
theorem Ordered.step (hof : record.Of table) (hstamped : record.Stamped) (h : record.Ordered)
    {op : RouteTable.Op} (hop : table.InOrder op) :
  (record.step op).Ordered
  := by
  cases op with
  | add route => exact h.add hof hstamped hop
  | remove gdpPrefix => exact h.sublist (record.stored_remove_sublist gdpPrefix).1
  | addDefaultRoute viaRouter =>
    obtain ⟨hsub, hkeep⟩ := record.stored_remove_sublist .defaultRoute
    exact Ordered.add (hof.remove .defaultRoute) (hkeep hstamped) (h.sublist hsub) hop
  | removeDefaultRoute => exact h.sublist (record.stored_remove_sublist .defaultRoute).1
  | pruneExpired now => exact h.sublist (record.stored_prune_sublist now)

/-! ### What is looked up -/

/-- The stored routes that may be chosen. -/
def matching (record : RouteRecord) (destination : GdpAddress) (now : Instant) :
    List (Route × ℕ) :=
  record.stored.filter (fun entry => Matches destination now entry.1)

/-- The length by which the routes are compared. -/
def prefixLen (entry : Route × ℕ) : ℕ :=
  entry.1.gdpPrefix.prefixLen.toNat

theorem mem_matching {destination : GdpAddress} {now : Instant} {entry : Route × ℕ} :
  entry ∈ record.matching destination now ↔
    entry ∈ record.stored ∧ Matches destination now entry.1 = true
  := List.mem_filter

/-- The route that is found is the first one with the longest prefix. -/
theorem lookup_eq (hof : record.Of table) (destination : GdpAddress) (now : Instant) :
  table.lookup destination now =
    ((record.matching destination now).argmax prefixLen).map (fun entry => entry.1.viaRouter)
  := by
  have hroutes : table.routes.reduceOption = record.stored.map Prod.fst := by
    rw [hof, List.reduceOption_map, stored]
  have hvia : (fun entry : Route × ℕ => entry.1.viaRouter) = Route.viaRouter ∘ Prod.fst := rfl
  rw [RouteTable.lookup, hroutes, List.foldl_map, List.argmax, matching, List.foldl_filter, hvia,
    ← Option.map_map]
  congr 1
  have hnone : (none : Option Route) = Option.map Prod.fst (none : Option (Route × ℕ)) := rfl
  rw [hnone]
  apply List.foldl_hom
  intro best entry
  rw [Matches]
  cases entry.1.isExpired now with
  | true => rfl
  | false =>
    cases entry.1.gdpPrefix.contains destination with
    | false => rfl
    | true =>
      cases best with
      | none => rfl
      | some current =>
        by_cases hlt : prefixLen current < prefixLen entry
        · have hlt' : current.1.gdpPrefix.prefixLen < entry.1.gdpPrefix.prefixLen := hlt
          simp [List.argAux, hlt, hlt']
        · have hlt' : ¬ current.1.gdpPrefix.prefixLen < entry.1.gdpPrefix.prefixLen := hlt
          simp [List.argAux, hlt, hlt']

theorem IsFirstOfLongest.unique (h : record.Stamped) {destination : GdpAddress} {now : Instant}
    {entry other : Route × ℕ} (hentry : record.IsFirstOfLongest destination now entry)
    (hother : record.IsFirstOfLongest destination now other) :
  entry = other
  := by
  obtain ⟨hmem, hmatches, hfirst⟩ := hentry
  obtain ⟨hmem', hmatches', hfirst'⟩ := hother
  apply List.inj_on_of_nodup_map h.nodup hmem hmem'
  rcases hfirst other hmem' hmatches' with hlt | ⟨heq, hle⟩
  · rcases hfirst' entry hmem hmatches with hlt' | ⟨heq', -⟩
    · exact absurd (BitVec.lt_trans hlt hlt') (BitVec.lt_irrefl _)
    · exact absurd (heq' ▸ hlt) (BitVec.lt_irrefl _)
  · rcases hfirst' entry hmem hmatches with hlt' | ⟨-, hle'⟩
    · exact absurd (heq ▸ hlt') (BitVec.lt_irrefl _)
    · exact Nat.le_antisymm hle hle'

section Lookup

variable {destination : GdpAddress} {now : Instant} {chosen first : Route × ℕ}

/-- Of the longest ones, one was added first. -/
theorem exists_isFirstOfLongest
    (hchosen : (record.matching destination now).argmax prefixLen = some chosen) :
  ∃ first, record.IsFirstOfLongest destination now first
  := by
  obtain ⟨first, hfirst⟩ : ∃ first, ((record.matching destination now).filter
      (fun entry => prefixLen entry = prefixLen chosen)).argmin Prod.snd = some first := by
    rw [← Option.ne_none_iff_exists', Ne, List.argmin_eq_none]
    apply List.ne_nil_of_mem (a := chosen)
    exact List.mem_filter.mpr ⟨List.argmax_mem hchosen, decide_eq_true rfl⟩
  obtain ⟨hmem, hlen⟩ := List.mem_filter.mp (List.argmin_mem hfirst)
  rw [decide_eq_true_eq] at hlen
  obtain ⟨hstored, hmatches⟩ := mem_matching.mp hmem
  refine ⟨first, hstored, hmatches, ?_⟩
  intro other hother hotherMatches
  have hmem' : other ∈ record.matching destination now := mem_matching.mpr ⟨hother, hotherMatches⟩
  have hle : prefixLen other ≤ prefixLen chosen := List.le_of_mem_argmax hmem' hchosen
  rcases Nat.lt_or_eq_of_le hle with hlt | heq
  · left
    rw [BitVec.lt_def]
    exact hlt.trans_eq hlen.symm
  · right
    have htied : other ∈ (record.matching destination now).filter
        (fun entry => prefixLen entry = prefixLen chosen) :=
      List.mem_filter.mpr ⟨hmem', decide_eq_true heq⟩
    exact ⟨BitVec.eq_of_toNat_eq (heq.trans hlen.symm), List.le_of_mem_argmin htied hfirst⟩

/-- The first route in the order of the slots has the router of the one that was added first. -/
theorem viaRouter_eq (h : record.Ordered)
    (hchosen : (record.matching destination now).argmax prefixLen = some chosen)
    (hfirst : record.IsFirstOfLongest destination now first) :
  chosen.1.viaRouter = first.1.viaRouter
  := by
  obtain ⟨hstored, hmatches, hmin⟩ := hfirst
  obtain ⟨hchosenStored, hchosenMatches⟩ := mem_matching.mp (List.argmax_mem hchosen)
  obtain ⟨before, after, hsplit, hbefore, -⟩ := Slots.argmax_eq_some hchosen
  have horder : (record.matching destination now).Pairwise _ := h.sublist List.filter_sublist
  have hmem := mem_matching.mpr ⟨hstored, hmatches⟩
  have hle : prefixLen first ≤ prefixLen chosen := List.le_of_mem_argmax hmem hchosen
  have hlonger := hmin chosen hchosenStored hchosenMatches
  rw [BitVec.lt_def] at hlonger
  obtain ⟨hlen, hfirst⟩ := hlonger.resolve_left (Nat.not_lt.mpr hle)
  have hprefix : chosen.1.gdpPrefix = first.1.gdpPrefix :=
    GdpPrefix.eq_of_contains (Bool.and_eq_true_iff.mp hchosenMatches).2
      (Bool.and_eq_true_iff.mp hmatches).2 hlen
  rw [hsplit] at hmem horder
  by_contra hvia
  rcases List.mem_append.mp hmem with hmem | hmem
  · -- a route in a slot before has a shorter prefix
    apply absurd (hbefore first hmem)
    rw [prefixLen, prefixLen, hprefix]
    exact Nat.lt_irrefl _
  · rcases List.mem_cons.mp hmem with rfl | hmem
    · exact hvia rfl
    · -- a route in a slot behind is younger
      have hyounger := List.rel_of_pairwise_cons (List.pairwise_append.mp horder).2.1 hmem
      exact Nat.not_lt.mpr hfirst (hyounger hprefix hvia)

end Lookup

/-- The route that is found has the router of the one that was added first. -/
theorem lookup_eq_some_iff (hof : record.Of table) (h : record.Ordered) {destination : GdpAddress}
    {now : Instant} {viaRouter : GdpAddress} :
  table.lookup destination now = some viaRouter ↔
    ∃ entry, record.IsFirstOfLongest destination now entry ∧ entry.1.viaRouter = viaRouter
  := by
  rw [lookup_eq hof, Option.map_eq_some_iff]
  constructor
  · rintro ⟨chosen, hchosen, rfl⟩
    obtain ⟨first, hfirst⟩ := exists_isFirstOfLongest hchosen
    exact ⟨first, hfirst, (viaRouter_eq h hchosen hfirst).symm⟩
  · rintro ⟨first, hfirst, rfl⟩
    obtain ⟨chosen, hchosen⟩ : ∃ chosen,
        (record.matching destination now).argmax prefixLen = some chosen := by
      rw [← Option.ne_none_iff_exists', Ne, List.argmax_eq_none]
      exact List.ne_nil_of_mem (mem_matching.mpr ⟨hfirst.1, hfirst.2.1⟩)
    exact ⟨chosen, hchosen, viaRouter_eq h hchosen hfirst⟩

theorem lookup_eq_none_iff (hof : record.Of table) {destination : GdpAddress} {now : Instant} :
  table.lookup destination now = none ↔
    ∀ entry ∈ record.stored, Matches destination now entry.1 = false
  := by
  rw [lookup_eq hof, Option.map_eq_none_iff, List.argmax_eq_none, matching, List.filter_eq_nil_iff]
  simp only [Bool.not_eq_true]

end RouteRecord

namespace RouteTable

open RouteRecord

/-- The record of a run is that of the table the run ends with, and what is stored was added at
different times. -/
theorem of_run (N : ℕ) (ops : List Op) :
  (RouteRecord.run N ops).Of (Machine.run step (new N) ops) ∧ (RouteRecord.run N ops).Stamped
  := by
  induction ops using List.reverseRecOn with
  | nil =>
    have hstored : (RouteRecord.run N []).stored = [] := List.reduceOption_replicate_none
    refine ⟨?_, ?_, ?_⟩
    · change List.replicate N none = (List.replicate N none).map _
      rw [List.map_replicate]
      rfl
    · rw [hstored]
      exact nofun
    · rw [hstored]
      exact List.nodup_nil
  | append_singleton ops op ih =>
    rw [RouteRecord.run, Machine.run_append, Machine.run_append]
    exact ⟨ih.1.step op, ih.2.step op⟩

/-- In a run in which no route is added before an older one the slots stay in order. -/
theorem ordered_run {ops : List Op} (h : Machine.Along step InOrder (new N) ops) :
  (RouteRecord.run N ops).Ordered
  := by
  induction ops using List.reverseRecOn with
  | nil =>
    have hstored : (RouteRecord.run N []).stored = [] := List.reduceOption_replicate_none
    rw [Ordered, hstored]
    exact List.Pairwise.nil
  | append_singleton ops op ih =>
    rw [Machine.along_append] at h
    obtain ⟨hof, hstamped⟩ := of_run N ops
    rw [RouteRecord.run, Machine.run_append]
    exact (ih h.1).step hof hstamped h.2.1

/-- The length of a table is the number of its routes, and a route is not added exactly when there
are `N` of them.  In a run in which no route is added in a slot before that of an older route with
the same prefix and another router, the router that is looked up is that of the route that was added
first among those with the longest prefix. -/
theorem lookup_first_added (N : ℕ) (ops : List Op) :
  (RouteRecord.run N ops).Of (Machine.run step (new N) ops) ∧
  (Machine.run step (new N) ops).len = (Machine.run step (new N) ops).routes.reduceOption.length ∧
  (∀ route, (Machine.run step (new N) ops).add route = .error .routeTableFull ↔
    (Machine.run step (new N) ops).routes.reduceOption.length = N) ∧
  (Machine.Along step InOrder (new N) ops → ∀ destination now,
    ((Machine.run step (new N) ops).lookup destination now = none ↔
      ∀ entry ∈ (RouteRecord.run N ops).stored, Matches destination now entry.1 = false) ∧
    ∀ viaRouter, (Machine.run step (new N) ops).lookup destination now = some viaRouter ↔
      ∃ entry, (RouteRecord.run N ops).IsFirstOfLongest destination now entry ∧
        entry.1.viaRouter = viaRouter)
  := by
  obtain ⟨hof, -⟩ := of_run N ops
  refine ⟨hof, (Machine.run step (new N) ops).len_eq, fun route => add_eq_error_iff, ?_⟩
  intro hinOrder destination now
  exact ⟨lookup_eq_none_iff hof, fun viaRouter => lookup_eq_some_iff hof (ordered_run hinOrder)⟩

/-- Of two routes to one prefix the one that was added first is found, also when a slot has become
free behind it. -/
theorem lookup_first_added_sample :
  ∃ entry,
    (RouteRecord.run 2
      [.add (.new (.host ⟨7#64⟩) ⟨1#64⟩), .add (.new (.host ⟨8#64⟩) ⟨9#64⟩), .remove (.host ⟨8#64⟩),
        .add (.new (.host ⟨7#64⟩) ⟨2#64⟩)]).IsFirstOfLongest ⟨7#64⟩ .zero entry ∧
    entry.1.viaRouter = ⟨1#64⟩
  := by
  apply (((lookup_first_added 2 _).2.2.2 _ ⟨7#64⟩ .zero).2 ⟨1#64⟩).mp
  · decide +kernel
  · decide +kernel

/-- The slot of a route to another prefix is filled with a second route to the prefix. -/
def refilled : List Op :=
  [.add (.new (.host ⟨8#64⟩) ⟨9#64⟩), .add (.new (.host ⟨7#64⟩) ⟨1#64⟩), .remove (.host ⟨8#64⟩),
    .add (.new (.host ⟨7#64⟩) ⟨2#64⟩)]

/-- A route that is added in a slot before an older one is found in its place. -/
theorem not_lookup_first_added :
  (RouteRecord.run 2 refilled).IsFirstOfLongest ⟨7#64⟩ .zero (.new (.host ⟨7#64⟩) ⟨1#64⟩, 1) ∧
    (Machine.run step (new 2) refilled).lookup ⟨7#64⟩ .zero = some ⟨2#64⟩
  := by
  have hstored : (RouteRecord.run 2 refilled).stored =
      [(.new (.host ⟨7#64⟩) ⟨2#64⟩, 2), (.new (.host ⟨7#64⟩) ⟨1#64⟩, 1)] := by decide +kernel
  refine ⟨?_, by decide +kernel⟩
  rw [IsFirstOfLongest, hstored]
  decide +kernel

end RouteTable

end SmolGnet
