import BuildWatch.Observers
import Mathlib.Data.List.Nodup

/-! Who is called by an event. Subscriptions come and go under names, and the names may outlive the observers. An event calls
the handlers whose subscriptions have not been released by then, in the order in which they came. This holds as long as the
numbers last, of which each subscription takes one. -/

namespace BuildWatch.NamedObservers
variable {ε : Type}

/-- What is done with observers. A subscription is released by being disposed of or dropped, and when its name is given
to another one. A forgotten one is nobody's to release. -/
inductive Act (ε : Type) where
  | subscribe (name : String)
  | dispose (name : String)
  | drop (name : String)
  | forget (name : String)
  | fire (event : ε)
  | leave

/-- The observers after an act, and the handlers it calls, each with the event. -/
def perform (named : NamedObservers) : Act ε → NamedObservers × List (String × ε)
  | .subscribe name => (named.subscribe name, [])
  | .dispose name | .drop name => (named.dispose name, [])
  | .forget name => (named.forget name, [])
  | .fire event => (named, named.called.map fun handler => (handler, event))
  | .leave => (named.leave, [])

def play (named : NamedObservers) (acts : List (Act ε)) : NamedObservers :=
  acts.foldl (fun named act => (named.perform act).1) named

/-- Whether what is subscribed under a name is released by later acts: the first of them that is about the name decides. -/
def isReleased (name : String) : List (Act ε) → Bool
  | [] => false
  | .subscribe other :: later | .dispose other :: later | .drop other :: later => other == name || isReleased name later
  | .forget other :: later => other != name && isReleased name later
  | .fire _ :: later | .leave :: later => isReleased name later

/-- The subscriptions that are made and not released, numbered from `next` on. -/
def standing (next : UInt64) : List (Act ε) → List (UInt64 × String)
  | [] => []
  | .subscribe name :: later =>
    if isReleased name later then standing (next + 1) later else (next, name) :: standing (next + 1) later
  | _ :: later => standing next later

def Act.isLeave : Act ε → Bool
  | .leave => true
  | _ => false

def Act.isSubscribe : Act ε → Bool
  | .subscribe _ => true
  | _ => false

/-- Whether the numbers last for all subscriptions that are made. -/
def Numbered (acts : List (Act ε)) : Prop := acts.countP Act.isSubscribe < UInt64.size

instance (acts : List (Act ε)) : Decidable (Numbered acts) := inferInstanceAs (Decidable (_ < _))

/-- The handlers that are there, with their numbers. -/
def handlers (named : NamedObservers) : List (UInt64 × String) := (named.observers.map (·.handlers)).getD []

theorem called_eq (named : NamedObservers) : named.called = named.handlers.map (·.2) := by
  cases gone : named.observers <;> simp [called, handlers, gone, Observers.called]

theorem next_toNat {number : UInt64} (room : number.toNat + 1 < UInt64.size) : (number + 1).toNat = number.toNat + 1 := by
  rw [UInt64.toNat_add]
  exact Nat.mod_eq_of_lt room

theorem lt_next {number : UInt64} (room : number.toNat + 1 < UInt64.size) : number < number + 1 := by
  rw [UInt64.lt_iff_toNat_lt, next_toNat room]
  exact Nat.lt_succ_self _

/-- Observers whose numbers grow and were all given out before, and names that each hold one of them. -/
structure Sound (observers : Observers String) (subscriptions : List (String × UInt64)) : Prop where
  ordered : observers.handlers.Pairwise fun one other => one.1 < other.1
  below : ∀ entry ∈ observers.handlers, entry.1 < observers.nextNumber
  names : (subscriptions.map (·.1)).Nodup
  held : ∀ subscription ∈ subscriptions, (subscription.2, subscription.1) ∈ observers.handlers

/-- Whether a handler can still be released under its name. -/
def isHeld (subscriptions : List (String × UInt64)) (entry : UInt64 × String) : Bool := subscriptions.contains (entry.2, entry.1)

theorem isHeld_without (name : String) (subscriptions : List (String × UInt64)) (entry : UInt64 × String) :
    isHeld (subscriptions.filter (·.1 != name)) entry = (isHeld subscriptions entry && entry.2 != name) := by
  rw [Bool.eq_iff_iff]
  simp [isHeld]

/-- The handlers without the one that a name holds. -/
def without (name : String) (observers : Observers String) (subscriptions : List (String × UInt64)) : List (UInt64 × String) :=
  observers.handlers.filter fun entry => !(isHeld subscriptions entry && entry.2 == name)

namespace Sound
variable {observers : Observers String} {subscriptions : List (String × UInt64)} (sound : Sound observers subscriptions)
include sound

/-- No two handlers have one number. -/
theorem unique {one other : UInt64 × String} (first : one ∈ observers.handlers) (second : other ∈ observers.handlers)
    (same : one.1 = other.1) : one = other := by
  have numbers : (observers.handlers.map (·.1)).Nodup := List.pairwise_map.mpr (sound.ordered.imp UInt64.ne_of_lt)
  exact List.inj_on_of_nodup_map numbers first second same

theorem number?_iff {name : String} {number : UInt64} :
    (⟨some observers, subscriptions⟩ : NamedObservers).number? name = some number ↔ (name, number) ∈ subscriptions := by
  simp only [number?, Option.map_eq_some_iff]
  constructor
  · rintro ⟨⟨held, _⟩, found, rfl⟩
    have same : held = name := by simpa using List.find?_some found
    rw [← same]
    exact List.mem_of_find?_eq_some found
  · intro member
    cases found : subscriptions.find? (·.1 == name) with
    | none => simpa using List.find?_eq_none.mp found _ member
    | some first =>
      have same : first.1 = name := by simpa using List.find?_some found
      exact ⟨first, rfl, congrArg (·.2) (List.inj_on_of_nodup_map sound.names (List.mem_of_find?_eq_some found) member same)⟩

theorem without_free {name : String}
    (free : (⟨some observers, subscriptions⟩ : NamedObservers).number? name = none) :
    without name observers subscriptions = observers.handlers := by
  refine List.filter_eq_self.mpr fun entry _ => ?_
  by_contra holding
  simp only [isHeld, Bool.not_eq_true', Bool.not_eq_false, Bool.and_eq_true, List.contains_iff_mem, beq_iff_eq] at holding
  obtain ⟨member, rfl⟩ := holding
  rw [sound.number?_iff.mpr member] at free
  cases free

/-- Taking a number out takes out what is held under the name, since no other handler has the number. -/
theorem without_held {name : String} {number : UInt64}
    (found : (⟨some observers, subscriptions⟩ : NamedObservers).number? name = some number) :
    observers.handlers.filter (·.1 != number) = without name observers subscriptions := by
  have holding := sound.number?_iff.mp found
  refine List.filter_congr fun entry member => ?_
  rw [Bool.eq_iff_iff]
  simp only [isHeld, bne_iff_ne, Bool.not_eq_true', ← Bool.not_eq_true, Bool.and_eq_true, List.contains_iff_mem, beq_iff_eq]
  refine not_congr ⟨?_, ?_⟩
  · intro same
    cases sound.unique member (sound.held _ holding) same
    exact ⟨holding, rfl⟩
  · rintro ⟨inside, rfl⟩
    exact Option.some.inj ((sound.number?_iff.mpr inside).symm.trans found)

/-- The handler that a name holds, between those before and those after it. -/
theorem parted {name : String} {number : UInt64}
    (found : (⟨some observers, subscriptions⟩ : NamedObservers).number? name = some number) :
    ∃ front back, observers.handlers = front ++ (number, name) :: back ∧
      without name observers subscriptions = front ++ back := by
  obtain ⟨front, back, shape⟩ := List.append_of_mem (sound.held _ (sound.number?_iff.mp found))
  have ordered := sound.ordered
  rw [shape] at ordered
  obtain ⟨_, behind, before⟩ := List.pairwise_append.mp ordered
  have front_stays : front.filter (·.1 != number) = front :=
    List.filter_eq_self.mpr fun entry member => bne_iff_ne.mpr (UInt64.ne_of_lt (before entry member _ List.mem_cons_self))
  have back_stays : back.filter (·.1 != number) = back :=
    List.filter_eq_self.mpr fun entry member => bne_iff_ne.mpr (UInt64.ne_of_lt (List.rel_of_pairwise_cons behind member)).symm
  refine ⟨front, back, shape, ?_⟩
  rw [← sound.without_held found, shape, List.filter_append, List.filter_cons_of_neg (by simp), front_stays, back_stays]

theorem disposed (name : String) :
    (⟨some observers, subscriptions⟩ : NamedObservers).dispose name =
      ⟨some ⟨observers.nextNumber, without name observers subscriptions⟩, subscriptions.filter (·.1 != name)⟩ := by
  cases found : (⟨some observers, subscriptions⟩ : NamedObservers).number? name with
  | none => simp only [NamedObservers.dispose, NamedObservers.forget, release, found, sound.without_free found]
  | some number =>
    simp only [NamedObservers.dispose, NamedObservers.forget, release, found, Observers.release, sound.without_held found]

theorem dispose (name : String) :
    Sound ⟨observers.nextNumber, without name observers subscriptions⟩ (subscriptions.filter (·.1 != name)) where
  ordered := sound.ordered.sublist List.filter_sublist
  below := fun entry member => sound.below entry (List.mem_filter.mp member).1
  names := sound.names.sublist (List.filter_sublist.map _)
  held := by
    intro subscription member
    obtain ⟨inside, other⟩ := List.mem_filter.mp member
    refine List.mem_filter.mpr ⟨sound.held subscription inside, ?_⟩
    simp only [bne_iff_ne] at other
    simp [other]

theorem forget (name : String) : Sound observers (subscriptions.filter (·.1 != name)) where
  ordered := sound.ordered
  below := sound.below
  names := sound.names.sublist (List.filter_sublist.map _)
  held := fun subscription member => sound.held subscription (List.mem_filter.mp member).1

/-- A name that is given to a new subscription gives up what it held. -/
theorem subscribed (name : String) :
    (⟨some observers, subscriptions⟩ : NamedObservers).subscribe name =
      ⟨some ⟨observers.nextNumber + 1, without name observers subscriptions ++ [(observers.nextNumber, name)]⟩,
        subscriptions.filter (·.1 != name) ++ [(name, observers.nextNumber)]⟩ := by
  cases found : (⟨some observers, subscriptions⟩ : NamedObservers).number? name with
  | none =>
    simp only [NamedObservers.subscribe, NamedObservers.forget, Observers.subscribe, release, found,
      sound.without_free found]
  | some number =>
    have older : number < observers.nextNumber := sound.below _ (sound.held _ (sound.number?_iff.mp found))
    have newer : (observers.nextNumber != number) = true := bne_iff_ne.mpr (UInt64.ne_of_lt older).symm
    have kept : [(observers.nextNumber, name)].filter (·.1 != number) = [(observers.nextNumber, name)] :=
      List.filter_cons_of_pos newer
    simp only [NamedObservers.subscribe, NamedObservers.forget, Observers.subscribe, release, found, Observers.release,
      List.filter_append, sound.without_held found, kept]

theorem subscribe (room : observers.nextNumber.toNat + 1 < UInt64.size) (name : String) :
    Sound ⟨observers.nextNumber + 1, without name observers subscriptions ++ [(observers.nextNumber, name)]⟩
      (subscriptions.filter (·.1 != name) ++ [(name, observers.nextNumber)]) := by
  have rest := sound.dispose name
  have newest := lt_next room
  refine ⟨?_, ?_, ?_, ?_⟩
  · refine List.pairwise_append.mpr ⟨rest.ordered, List.pairwise_singleton _ _, ?_⟩
    intro entry member new last
    cases List.mem_singleton.mp last
    exact rest.below entry member
  · intro entry member
    rcases List.mem_append.mp member with old | new
    · exact UInt64.lt_trans (rest.below entry old) newest
    · cases List.mem_singleton.mp new
      exact newest
  · rw [List.map_append]
    refine List.nodup_append.mpr ⟨rest.names, List.nodup_singleton _, ?_⟩
    intro held inside new last
    cases List.mem_singleton.mp last
    obtain ⟨subscription, member, rfl⟩ := List.mem_map.mp inside
    simpa using (List.mem_filter.mp member).2
  · intro subscription member
    rcases List.mem_append.mp member with old | new
    · exact List.mem_append_left _ (rest.held subscription old)
    · cases List.mem_singleton.mp new
      exact List.mem_append_right _ (List.mem_singleton_self _)

end Sound

theorem dispose_of_free {named : NamedObservers} {name : String} (free : named.number? name = none) :
    named.dispose name = named := by
  have others : named.subscriptions.filter (·.1 != name) = named.subscriptions := by
    refine List.filter_eq_self.mpr fun subscription member => ?_
    have absent := List.find?_eq_none.mp (Option.map_eq_none_iff.mp free) subscription member
    simpa using absent
  rw [dispose, free, forget, others]
  simp [release]

theorem dispose_frees (named : NamedObservers) (name : String) : (named.dispose name).number? name = none := by
  have gone : (named.subscriptions.filter (·.1 != name)).find? (·.1 == name) = none := by
    refine List.find?_eq_none.mpr fun subscription member => ?_
    simpa using (List.mem_filter.mp member).2
  simp only [dispose, forget, release]
  split <;> simp [number?, gone]

/-! ### Runs -/

/-- The handlers that are still there after acts that release them under the names that hold them. -/
def spared (observers : Observers String) (subscriptions : List (String × UInt64)) (acts : List (Act ε)) : List (UInt64 × String) :=
  observers.handlers.filter fun entry => !(isHeld subscriptions entry && isReleased entry.2 acts)

theorem spared_disposed (name : String) (observers : Observers String) (subscriptions : List (String × UInt64))
    (later : List (Act ε)) :
    spared ⟨observers.nextNumber, without name observers subscriptions⟩ (subscriptions.filter (·.1 != name)) later =
      spared observers subscriptions (.dispose name :: later) := by
  simp only [spared, without, List.filter_filter, isHeld_without, isReleased]
  refine List.filter_congr fun entry _ => ?_
  rw [bne, Bool.beq_comm (a := name)]
  cases isHeld subscriptions entry <;> cases entry.2 == name <;> simp

theorem spared_forgotten (name : String) (observers : Observers String) (subscriptions : List (String × UInt64))
    (later : List (Act ε)) :
    spared observers (subscriptions.filter (·.1 != name)) later = spared observers subscriptions (.forget name :: later) := by
  simp only [spared, isHeld_without, isReleased]
  refine List.filter_congr fun entry _ => ?_
  rw [bne_comm, Bool.and_assoc]

theorem Sound.spared_subscribed {observers : Observers String} {subscriptions : List (String × UInt64)}
    (sound : Sound observers subscriptions) (name : String) (later : List (Act ε)) :
    spared ⟨observers.nextNumber + 1, without name observers subscriptions ++ [(observers.nextNumber, name)]⟩
        (subscriptions.filter (·.1 != name) ++ [(name, observers.nextNumber)]) later =
      spared observers subscriptions (.subscribe name :: later) ++
        if isReleased name later then [] else [(observers.nextNumber, name)] := by
  have old : ∀ entry ∈ without name observers subscriptions,
      isHeld (subscriptions.filter (·.1 != name) ++ [(name, observers.nextNumber)]) entry =
        isHeld (subscriptions.filter (·.1 != name)) entry := by
    intro entry member
    have below : entry.1 < observers.nextNumber := sound.below entry (List.mem_filter.mp member).1
    rw [Bool.eq_iff_iff]
    simp [isHeld, UInt64.ne_of_lt below]
  have new : isHeld (subscriptions.filter (·.1 != name) ++ [(name, observers.nextNumber)]) (observers.nextNumber, name) =
      true := by simp [isHeld]
  have first : (without name observers subscriptions).filter (fun entry =>
        !(isHeld (subscriptions.filter (·.1 != name) ++ [(name, observers.nextNumber)]) entry &&
          isReleased entry.2 later)) =
      spared observers subscriptions (.subscribe name :: later) := by
    rw [List.filter_congr fun entry member => by rw [old entry member]]
    exact spared_disposed name observers subscriptions later
  rw [spared, List.filter_append, first]
  cases released : isReleased name later <;> simp [new, released]

/-- What becomes of the handlers that are there, and what comes in addition. -/
theorem play_handlers {observers : Observers String} {subscriptions : List (String × UInt64)}
    (sound : Sound observers subscriptions) {acts : List (Act ε)} (staying : acts.any Act.isLeave = false)
    (room : observers.nextNumber.toNat + acts.countP Act.isSubscribe < UInt64.size) :
    ∃ after held, play ⟨some observers, subscriptions⟩ acts = ⟨some after, held⟩ ∧ Sound after held ∧
      after.nextNumber.toNat = observers.nextNumber.toNat + acts.countP Act.isSubscribe ∧
      after.handlers = spared observers subscriptions acts ++ standing observers.nextNumber acts := by
  induction acts generalizing observers subscriptions with
  | nil => exact ⟨observers, subscriptions, rfl, sound, rfl, by simp [spared, isReleased, standing]⟩
  | cons act later ih =>
    obtain ⟨stays, others⟩ := Bool.or_eq_false_iff.mp staying
    cases act with
    | subscribe name =>
      -- no other act takes a number, so no other uses up the room
      rw [List.countP_cons_of_pos rfl] at room ⊢
      have first : observers.nextNumber.toNat + 1 < UInt64.size := by omega
      have next := next_toNat first
      have remaining : (observers.nextNumber + 1).toNat + later.countP Act.isSubscribe < UInt64.size := by omega
      obtain ⟨after, held, played, kept, number, handlers⟩ := ih (sound.subscribe first name) others remaining
      refine ⟨after, held, ?_, kept, ?_, ?_⟩
      · rw [← played, ← sound.subscribed name]
        rfl
      · rw [number, next]
        omega
      · rw [handlers, sound.spared_subscribed, List.append_assoc, standing]
        cases isReleased name later <;> rfl
    | dispose name | drop name =>
      obtain ⟨after, held, played, kept, number, handlers⟩ := ih (sound.dispose name) others room
      refine ⟨after, held, ?_, kept, number, ?_⟩
      · rw [← played, ← sound.disposed name]
        rfl
      · rw [handlers, spared_disposed]
        rfl
    | forget name =>
      obtain ⟨after, held, played, kept, number, handlers⟩ := ih (sound.forget name) others room
      refine ⟨after, held, played, kept, number, ?_⟩
      rw [handlers, spared_forgotten]
      rfl
    | fire event => exact ih sound others room
    | leave => cases stays

theorem perform_gone {named : NamedObservers} (gone : named.observers = none) (act : Act ε) :
    (named.perform act).1.observers = none := by
  cases act <;> simp [perform, subscribe, dispose, forget, release, leave, gone]

theorem play_gone {named : NamedObservers} (acts : List (Act ε)) (gone : named.observers = none) :
    (play named acts).observers = none := by
  induction acts generalizing named with
  | nil => exact gone
  | cons act later ih => exact ih (perform_gone gone act)

theorem play_left (named : NamedObservers) {acts : List (Act ε)} (left : acts.any Act.isLeave = true) :
    (play named acts).observers = none := by
  induction acts generalizing named with
  | nil => cases left
  | cons act later ih =>
    cases act with
    | leave => exact play_gone later rfl
    | _ => exact ih _ left

theorem Sound.initial : Sound {} [] := ⟨List.Pairwise.nil, nofun, List.nodup_nil, nofun⟩

theorem fire_calls (named : NamedObservers) (event : ε) :
    named.perform (.fire event) = (named, named.handlers.map fun entry => (entry.2, event)) := by
  simp only [perform, called_eq, List.map_map, Function.comp_def]

theorem Sound.forgotten_stays {observers : Observers String} {subscriptions : List (String × UInt64)}
    (sound : Sound observers subscriptions) {name : String} {number : UInt64}
    (found : (⟨some observers, subscriptions⟩ : NamedObservers).number? name = some number) {later : List (Act ε)}
    (staying : later.any Act.isLeave = false)
    (room : observers.nextNumber.toNat + later.countP Act.isSubscribe < UInt64.size) :
    (number, name) ∈ (play ((⟨some observers, subscriptions⟩ : NamedObservers).forget name) later).handlers := by
  obtain ⟨after, held, played, -, -, after_handlers⟩ := play_handlers (sound.forget name) staying room
  have unheld : isHeld (subscriptions.filter (·.1 != name)) (number, name) = false := by simp [isHeld_without]
  have stays : (number, name) ∈ spared observers (subscriptions.filter (·.1 != name)) later :=
    List.mem_filter.mpr ⟨sound.held _ (sound.number?_iff.mp found), by simp [unheld]⟩
  have last : (number, name) ∈ after.handlers := after_handlers ▸ List.mem_append_left _ stays
  rw [NamedObservers.forget, played]
  exact last

/-- As long as the numbers last, an event calls each handler that came before it and was not released since, once and in the
order of coming. A name releases the handler that it holds and no other, and only once; a handler that is replaced makes room
for the new one at the end; and what is forgotten stays whatever comes later. -/
theorem fire_calls_unreleased_handlers (acts : List (Act ε)) (numbered : Numbered acts) :
    (play {} acts).handlers = (if acts.any Act.isLeave then [] else standing 0 acts) ∧
    (∀ event : ε, (play {} acts).perform (.fire event) =
      (play {} acts, (play {} acts).handlers.map fun entry => (entry.2, event))) ∧
    (play {} acts).handlers.Pairwise (fun one other => one.1 < other.1) ∧
    (∀ name, (play {} acts).number? name = none → (play {} acts).dispose name = play {} acts) ∧
    ∀ name number, (play {} acts).number? name = some number → acts.any Act.isLeave = false →
      ∃ front back,
        (play {} acts).handlers = front ++ (number, name) :: back ∧
        ((play {} acts).dispose name).handlers = front ++ back ∧
        ((play {} acts).dispose name).dispose name = (play {} acts).dispose name ∧
        (∃ new, ((play {} acts).subscribe name).handlers = front ++ back ++ [(new, name)] ∧
          ∀ entry ∈ (play {} acts).handlers, entry.1 < new) ∧
        ∀ later : List (Act ε), Numbered (acts ++ later) → later.any Act.isLeave = false →
          (number, name) ∈ (play ((play {} acts).forget name) later).handlers := by
  cases staying : acts.any Act.isLeave with
  | true =>
    have gone := play_left {} staying
    have silent : (play {} acts).handlers = [] := by simp [handlers, gone]
    refine ⟨silent, fire_calls _, ?_, fun name => dispose_of_free, fun _ _ _ present => Bool.noConfusion present⟩
    rw [silent]
    exact List.Pairwise.nil
  | false =>
    have room : (0 : UInt64).toNat + acts.countP Act.isSubscribe < UInt64.size := by
      rw [UInt64.toNat_zero, Nat.zero_add]
      exact numbered
    obtain ⟨observers, subscriptions, played, sound, made, standing_handlers⟩ :=
      play_handlers Sound.initial staying room
    have present : (play {} acts).handlers = standing 0 acts := by
      rw [played]
      exact standing_handlers
    refine ⟨present, fire_calls _, ?_, fun name => dispose_of_free, ?_⟩
    · rw [played]
      exact sound.ordered
    intro name number found _
    rw [played] at found ⊢
    obtain ⟨front, back, shape, rest⟩ := sound.parted found
    refine ⟨front, back, shape, ?_, dispose_of_free (dispose_frees _ name), ⟨observers.nextNumber, ?_, sound.below⟩, ?_⟩
    · rw [sound.disposed name]
      exact rest
    · rw [sound.subscribed name, ← rest]
      rfl
    · intro later more others
      rw [Numbered, List.countP_append] at more
      refine sound.forgotten_stays found others ?_
      rw [made, UInt64.toNat_zero, Nat.zero_add]
      exact more

/-- The name that is given twice holds the second handler, which then outlives every attempt to release it. -/
theorem forgotten_handler_outlives_name :
    let acts : List (Act Nat) := [.subscribe "a", .subscribe "b", .subscribe "a", .fire 7]
    let later : List (Act Nat) := [.dispose "a", .subscribe "a", .drop "b"]
    let named := play {} acts
    Numbered (acts ++ later) ∧ named.handlers = [(1, "b"), (2, "a")] ∧
      (named.perform (.fire 8)).2 = [("b", 8), ("a", 8)] ∧ (2, "a") ∈ (play (named.forget "a") later).handlers := by
  intro acts later named
  obtain ⟨present, calls, -, -, held⟩ := fire_calls_unreleased_handlers acts (by decide)
  have handlers : named.handlers = [(1, "b"), (2, "a")] := present.trans (by decide)
  refine ⟨by decide, handlers, ?_, ?_⟩
  · exact (congrArg Prod.snd (calls 8)).trans (congrArg (List.map fun entry => (entry.2, 8)) handlers)
  · obtain ⟨front, back, -, -, -, -, stays⟩ := held "a" 2 (by decide) (by decide)
    exact stays later (by decide) (by decide)

end BuildWatch.NamedObservers
