import Mathlib.Algebra.BigOperators.Group.List.Lemmas
import PubSub.Proofs.Shares.Lifetime

/-!
Matches counted from both sides.  A topic lists every endpoint that is there, and lists it once; an endpoint that is
gone may stay listed until the next one of its own side is registered.  What an endpoint matches therefore does not
depend on when either list was last cleaned, and the two sides count the same pairs.
-/

namespace PubSub

structure Side {Value : Type} (arena : Arena Value) (listed : List Nat) (names : Table String Nat) : Prop where
  once : listed.Nodup
  given : ∀ index ∈ listed, index < arena.next
  /-- Everything that is there is listed; of what is listed, anything may be gone. -/
  every : ∀ index, arena.contains index = true → index ∈ listed
  held : ∀ name index, names.get? name = some index → arena.contains index = true
  apart : ∀ first second index, names.get? first = some index → names.get? second = some index → first = second

namespace Side

variable {Value : Type} {arena later : Arena Value} {listed : List Nat} {names : Table String Nat}

theorem unnamed_next (side : Side arena listed names) (name : String) : names.get? name ≠ some arena.next := by
  intro found
  have there := side.held name arena.next found
  unfold Arena.contains at there
  rw [arena.get?_next] at there
  cases there

theorem same (side : Side arena listed names) (next : later.next = arena.next)
    (contains : ∀ index, later.contains index = arena.contains index) : Side later listed names where
  once := side.once
  given := by
    rw [next]
    exact side.given
  every := by
    intro index there
    exact side.every index ((contains index).symm.trans there)
  held := by
    intro name index found
    exact (contains index).trans (side.held name index found)
  apart := side.apart

/-- An end that goes stays listed, and its name is free again. -/
theorem drop (side : Side arena listed names) {name : String} {index : Nat}
    (found : names.get? name = some index) (next : later.next = arena.next)
    (contains : ∀ other, later.contains other = (decide (other ≠ index) && arena.contains other)) :
    Side later listed (names.erase name) where
  once := side.once
  given := by
    rw [next]
    exact side.given
  every := by
    intro other there
    rw [contains, Bool.and_eq_true] at there
    exact side.every other there.2
  held := by
    intro other number named
    have before := Table.get?_of_erase named
    have different : number ≠ index := by
      intro same
      subst same
      rw [side.apart other name number before found, Table.get?_erase, if_pos rfl] at named
      cases named
    rw [contains, decide_eq_true different, Bool.true_and]
    exact side.held other number before
  apart := by
    intro first second number here there
    exact side.apart first second number (Table.get?_of_erase here) (Table.get?_of_erase there)

theorem enter (side : Side arena listed names) (next : later.next = arena.next + 1)
    (contains : ∀ other, later.contains other = (decide (other = arena.next) || arena.contains other)) :
    Side later (listed.filter arena.contains ++ [arena.next]) names where
  once := by
    refine (side.once.filter _).append (List.nodup_singleton _) ?_
    intro index kept new
    have below := side.given index (List.mem_of_mem_filter kept)
    rw [List.mem_singleton.1 new] at below
    exact Nat.lt_irrefl _ below
  given := by
    intro index member
    rw [next]
    rcases List.mem_append.1 member with kept | new
    · exact Nat.lt_succ_of_lt (side.given index (List.mem_of_mem_filter kept))
    · rw [List.mem_singleton.1 new]
      exact Nat.lt_succ_self _
  every := by
    intro index there
    rw [contains, Bool.or_eq_true, decide_eq_true_eq] at there
    rcases there with new | old
    · exact List.mem_append_right _ (List.mem_singleton.2 new)
    · exact List.mem_append_left _ (List.mem_filter.2 ⟨side.every index old, old⟩)
  held := by
    intro name index found
    rw [contains, side.held name index found, Bool.or_true]
  apart := side.apart

theorem call (side : Side arena listed names) {name : String} {index : Nat}
    (there : arena.contains index = true) (unnamed : ∀ other, names.get? other ≠ some index) :
    Side arena listed (names.set name index) where
  once := side.once
  given := side.given
  every := side.every
  held := by
    intro other number found
    rw [Table.get?_set] at found
    by_cases same : other = name
    · rw [if_pos same, Option.some_inj] at found
      rw [← found]
      exact there
    · rw [if_neg same] at found
      exact side.held other number found
  apart := by
    intro first second number here there
    rw [Table.get?_set] at here there
    by_cases firstNew : first = name
    · by_cases secondNew : second = name
      · rw [firstNew, secondNew]
      · rw [if_pos firstNew, Option.some_inj] at here
        rw [if_neg secondNew, ← here] at there
        exact absurd there (unnamed second)
    · rw [if_neg firstNew] at here
      by_cases secondNew : second = name
      · rw [if_pos secondNew, Option.some_inj] at there
        rw [← there] at here
        exact absurd here (unnamed first)
      · rw [if_neg secondNew] at there
        exact side.apart first second number here there

theorem live_perm (side : Side arena listed names) :
    (listed.filterMap (fun index => (arena.get? index).map (fun value => (index, value)))).Perm
      arena.cells.entries := by
  have distinct : (listed.filterMap
      (fun index => (arena.get? index).map (fun value => (index, value)))).Nodup := by
    refine side.once.filterMap ?_
    intro first second entry here there
    obtain ⟨_, _, rfl⟩ := Option.map_eq_some_iff.1 (Option.mem_def.1 here)
    obtain ⟨_, _, same⟩ := Option.map_eq_some_iff.1 (Option.mem_def.1 there)
    exact (congrArg Prod.fst same).symm
  refine (List.perm_ext_iff_of_nodup distinct (List.Nodup.of_map _ arena.cells.distinct)).2 ?_
  rintro ⟨index, value⟩
  rw [List.mem_filterMap, ← Table.get?_eq_some_iff]
  constructor
  · rintro ⟨other, -, found⟩
    obtain ⟨_, there, same⟩ := Option.map_eq_some_iff.1 found
    cases same
    exact there
  · intro there
    refine ⟨index, side.every index ((Arena.contains_iff _ _).2 ⟨value, there⟩), ?_⟩
    exact Option.map_eq_some_iff.2 ⟨value, there, rfl⟩

/-- Whoever reads a list past what is gone counts over all that is there. -/
theorem countP_live (side : Side arena listed names) (accepts : Value → Bool) :
    (listed.filterMap (fun index => (arena.get? index).map (fun value => (index, value)))).countP
        (fun entry => accepts entry.2) = arena.cells.values.countP accepts := by
  rw [side.live_perm.countP_eq, Table.values, List.countP_map]
  rfl

theorem contains_iff_named (side : Side arena listed names) (named : Exchange.NamedIn arena names)
    (index : Nat) : arena.contains index = true ↔ ∃! name, names.get? name = some index := by
  constructor
  · intro there
    obtain ⟨name, found⟩ := named index there
    exact ⟨name, found, fun other again => side.apart other name index again found⟩
  · rintro ⟨name, found, -⟩
    exact side.held name index found

end Side

theorem countP_eq_sum {Item : Type} (items : List Item) (accepts : Item → Bool) :
    items.countP accepts = (items.map (fun item => if accepts item = true then 1 else 0)).sum := by
  induction items with
  | nil => rfl
  | cons item rest ih => rw [List.countP_cons, List.map_cons, List.sum_cons, ih, Nat.add_comm]

/-- Related pairs of two lists are as many from either side. -/
theorem sum_countP_comm {First Second : Type} (firsts : List First) (seconds : List Second)
    (related : First → Second → Bool) :
    (firsts.map (fun first => seconds.countP (related first))).sum =
      (seconds.map (fun second => firsts.countP (fun first => related first second))).sum := by
  induction firsts with
  | nil => simp
  | cons head rest ih =>
      calc
        ((head :: rest).map (fun first => seconds.countP (related first))).sum
          = (seconds.map (fun second => if related head second = true then 1 else 0)).sum +
              (seconds.map (fun second => rest.countP (fun first => related first second))).sum := by
            rw [List.map_cons, List.sum_cons, countP_eq_sum, ih]
        _ = (seconds.map (fun second => (head :: rest).countP (fun first => related first second))).sum := by
            rw [← List.sum_map_add]
            simp only [List.countP_cons, Nat.add_comm]

namespace Exchange

variable {exchange later : Exchange}

structure TwoSided (exchange : Exchange) : Prop where
  publishers : Side exchange.transport.publishers exchange.topic.publishers exchange.publishers
  subscribers : Side exchange.transport.subscribers exchange.topic.subscribers exchange.subscribers

theorem TwoSided.same (sides : exchange.TwoSided) (same : exchange.SameSides later) : later.TwoSided where
  publishers := by
    rw [same.topic, same.publisherNames]
    exact sides.publishers.same same.nextPublisher same.publishers
  subscribers := by
    rw [same.topic, same.subscriberNames]
    exact sides.subscribers.same same.nextSubscriber same.subscribers

theorem TwoSided.removePublisher (sides : exchange.TwoSided) (name : String) :
    (exchange.removePublisher name).TwoSided := by
  unfold Exchange.removePublisher
  cases found : exchange.publishers.get? name with
  | none => exact sides
  | some publisher =>
      constructor
      · exact sides.publishers.drop found (exchange.transport.nextPublisher_dropPublisher publisher)
          (exchange.transport.contains_dropPublisher publisher)
      · dsimp only
        rw [Transport.subscribers_dropPublisher]
        exact sides.subscribers

theorem TwoSided.removeSubscriber (sides : exchange.TwoSided) (name : String) :
    (exchange.removeSubscriber name).TwoSided := by
  unfold Exchange.removeSubscriber
  cases found : exchange.subscribers.get? name with
  | none => exact sides
  | some subscriber =>
      constructor
      · dsimp only
        rw [Transport.publishers_dropSubscriber]
        exact sides.publishers
      · exact sides.subscribers.drop found (exchange.transport.nextSubscriber_dropSubscriber subscriber)
          (exchange.transport.contains_dropSubscriber subscriber)

theorem TwoSided.renamePublisher (sides : exchange.TwoSided) {index : Nat}
    (there : exchange.transport.publishers.contains index = true)
    (unnamed : ∀ other, exchange.publishers.get? other ≠ some index) (name : String) :
    { exchange.removePublisher name with
      publishers := (exchange.removePublisher name).publishers.set name index }.TwoSided := by
  refine ⟨(sides.removePublisher name).publishers.call ?_ ?_, (sides.removePublisher name).subscribers⟩
  · unfold Exchange.removePublisher
    cases found : exchange.publishers.get? name with
    | none => exact there
    | some old =>
        have different : index ≠ old := fun same => unnamed name (found.trans (congrArg some same.symm))
        rw [Transport.contains_dropPublisher, decide_eq_true different, Bool.true_and]
        exact there
  · intro other found
    rw [publishers_removePublisher] at found
    by_cases same : other = name
    · rw [if_pos same] at found
      cases found
    · rw [if_neg same] at found
      exact unnamed other found

theorem TwoSided.renameSubscriber (sides : exchange.TwoSided) {index : Nat}
    (there : exchange.transport.subscribers.contains index = true)
    (unnamed : ∀ other, exchange.subscribers.get? other ≠ some index) (name : String) :
    { exchange.removeSubscriber name with
      subscribers := (exchange.removeSubscriber name).subscribers.set name index }.TwoSided := by
  refine ⟨(sides.removeSubscriber name).publishers, (sides.removeSubscriber name).subscribers.call ?_ ?_⟩
  · unfold Exchange.removeSubscriber
    cases found : exchange.subscribers.get? name with
    | none => exact there
    | some old =>
        have different : index ≠ old := fun same => unnamed name (found.trans (congrArg some same.symm))
        rw [Transport.contains_dropSubscriber, decide_eq_true different, Bool.true_and]
        exact there
  · intro other found
    rw [subscribers_removeSubscriber] at found
    by_cases same : other = name
    · rw [if_pos same] at found
      cases found
    · rw [if_neg same] at found
      exact unnamed other found

theorem TwoSided.addPublisher (sides : exchange.TwoSided) (name : String) (qos : Qos) (context : String) :
    (exchange.step (.addPublisher name qos context)).2.TwoSided := by
  have opened := sides.same (exchange.sameSides_contextOf context)
  have inserted := Arena.contains_insert (exchange.contextOf context).2.transport.publishers
    { qos, context := (exchange.contextOf context).1, history := [] }
  have entered : (exchange.withPublisher qos context).TwoSided :=
    ⟨opened.publishers.enter rfl inserted, opened.subscribers⟩
  refine entered.renamePublisher ?_ opened.publishers.unnamed_next name
  exact (inserted _).trans (by rw [decide_eq_true rfl, Bool.true_or])

theorem TwoSided.addSubscriber (sides : exchange.TwoSided) (name : String) (qos : Qos) (context : String) :
    (exchange.step (.addSubscriber name qos context)).2.TwoSided := by
  have opened := sides.same (exchange.sameSides_contextOf context)
  have ends := (exchange.contextOf context).2.transport.sameEnds_addSubscriber
    (exchange.contextOf context).2.topic qos (exchange.contextOf context).1
  have inserted : ∀ index, (exchange.withSubscriber qos context).transport.subscribers.contains index =
      (decide (index = (exchange.contextOf context).2.transport.subscribers.next) ||
        (exchange.contextOf context).2.transport.subscribers.contains index) :=
    fun index => (ends.subscribers index).trans (Arena.contains_insert _ _ _)
  have entered : (exchange.withSubscriber qos context).TwoSided :=
    ⟨opened.publishers.same ends.nextPublisher ends.publishers,
      opened.subscribers.enter ends.nextSubscriber inserted⟩
  refine entered.renameSubscriber ?_ opened.subscribers.unnamed_next name
  exact (inserted _).trans (by rw [decide_eq_true rfl, Bool.true_or])

theorem TwoSided.step (sides : exchange.TwoSided) (action : Action) :
    (exchange.step action).2.TwoSided := by
  cases action with
  | addPublisher name qos context => exact sides.addPublisher name qos context
  | addSubscriber name qos context => exact sides.addSubscriber name qos context
  | dropPublisher name => exact sides.removePublisher name
  | dropSubscriber name => exact sides.removeSubscriber name
  | _ => exact sides.same ((exchange.steps_step _).sameSides rfl)

theorem TwoSided.run (sides : exchange.TwoSided) (actions : List Action) :
    (exchange.run actions).TwoSided := by
  induction actions generalizing exchange with
  | nil => exact sides
  | cons action rest ih => exact ih (sides.step action)

theorem twoSided_empty : empty.TwoSided := by
  have nothing {Value : Type} : Side (.empty : Arena Value) [] .empty :=
    { once := List.nodup_nil
      given := by simp
      every := by intro index there; cases there
      held := by intro name index found; cases found
      apart := by intro first second index here; cases here }
  exact ⟨nothing, nothing⟩

theorem TwoSided.matchedSubscriptions (sides : exchange.TwoSided) {index : Nat} {held : PublisherEnd}
    (found : exchange.transport.publishers.get? index = some held) :
    exchange.transport.matchedSubscriptions exchange.topic index =
      exchange.transport.subscribers.cells.values.countP
        (fun subscriber => held.qos.compatible subscriber.qos) := by
  unfold Transport.matchedSubscriptions
  rw [found]
  exact sides.subscribers.countP_live (fun subscriber => held.qos.compatible subscriber.qos)

theorem TwoSided.matchedPublishers (sides : exchange.TwoSided) {index : Nat} {held : SubscriberEnd}
    (found : exchange.transport.subscribers.get? index = some held) :
    exchange.transport.matchedPublishers exchange.topic index =
      exchange.transport.publishers.cells.values.countP
        (fun publisher => publisher.qos.compatible held.qos) := by
  unfold Transport.matchedPublishers
  rw [found]
  exact sides.publishers.countP_live (fun publisher => publisher.qos.compatible held.qos)

theorem sum_keys {Value : Type} (arena : Arena Value) (byNumber : Nat → Nat) (byValue : Value → Nat)
    (same : ∀ index value, arena.get? index = some value → byNumber index = byValue value) :
    (arena.cells.keys.map byNumber).sum = (arena.cells.values.map byValue).sum := by
  unfold Table.keys Table.values
  rw [List.map_map, List.map_map]
  congr 1
  apply List.map_congr_left
  rintro ⟨index, value⟩ member
  exact same index value ((arena.cells.get?_eq_some_iff index value).2 member)

/-- What the endpoints of a topic count, in terms of those that are there. -/
structure CountsAgree (exchange : Exchange) : Prop where
  publisherNamed : ∀ index, exchange.transport.publishers.contains index = true ↔
    ∃! name, exchange.publishers.get? name = some index
  subscriberNamed : ∀ index, exchange.transport.subscribers.contains index = true ↔
    ∃! name, exchange.subscribers.get? name = some index
  /-- A publisher counts the subscribers that are there and that match it, and that is what it answers. -/
  subscriptions : ∀ index held, exchange.transport.publishers.get? index = some held →
    exchange.transport.matchedSubscriptions exchange.topic index =
        exchange.transport.subscribers.cells.values.countP
          (fun subscriber => held.qos.compatible subscriber.qos) ∧
      ∀ name, exchange.publishers.get? name = some index →
        (exchange.step (.countSubscriptions name)).1 =
          .count (exchange.transport.matchedSubscriptions exchange.topic index)
  publishers : ∀ index held, exchange.transport.subscribers.get? index = some held →
    exchange.transport.matchedPublishers exchange.topic index =
        exchange.transport.publishers.cells.values.countP
          (fun publisher => publisher.qos.compatible held.qos) ∧
      ∀ name, exchange.subscribers.get? name = some index →
        (exchange.step (.countPublishers name)).1 =
          .count (exchange.transport.matchedPublishers exchange.topic index)
  /-- Over all that are there, both sides count the same pairs. -/
  sums :
    (exchange.transport.publishers.cells.keys.map
        (exchange.transport.matchedSubscriptions exchange.topic)).sum =
      (exchange.transport.subscribers.cells.keys.map
        (exchange.transport.matchedPublishers exchange.topic)).sum

/-- Along every run the counts are of what is there, whatever is still listed beside it. -/
theorem counts_agree (actions : List Action) : (empty.run actions).CountsAgree := by
  have sides := twoSided_empty.run actions
  have named := (kept_empty.run actions).named
  generalize empty.run actions = exchange at sides named
  refine
    { publisherNamed := sides.publishers.contains_iff_named named.publishers
      subscriberNamed := sides.subscribers.contains_iff_named named.subscribers
      subscriptions := ?_
      publishers := ?_
      sums := ?_ }
  · intro index held found
    refine ⟨sides.matchedSubscriptions found, ?_⟩
    intro name called
    dsimp only [Exchange.step]
    rw [called]
  · intro index held found
    refine ⟨sides.matchedPublishers found, ?_⟩
    intro name called
    dsimp only [Exchange.step]
    rw [called]
  · calc
      (exchange.transport.publishers.cells.keys.map
          (exchange.transport.matchedSubscriptions exchange.topic)).sum
        = (exchange.transport.publishers.cells.values.map (fun publisher =>
            exchange.transport.subscribers.cells.values.countP
              (fun subscriber => publisher.qos.compatible subscriber.qos))).sum :=
          sum_keys _ _ _ (fun _ _ found => sides.matchedSubscriptions found)
      _ = (exchange.transport.subscribers.cells.values.map (fun subscriber =>
            exchange.transport.publishers.cells.values.countP
              (fun publisher => publisher.qos.compatible subscriber.qos))).sum :=
          sum_countP_comm _ _ (fun publisher subscriber =>
            (PublisherEnd.qos publisher).compatible (SubscriberEnd.qos subscriber))
      _ = (exchange.transport.subscribers.cells.keys.map
            (exchange.transport.matchedPublishers exchange.topic)).sum :=
          (sum_keys _ _ _ (fun _ _ found => sides.matchedPublishers found)).symm

end Exchange

end PubSub
