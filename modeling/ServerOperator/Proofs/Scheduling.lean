import ServerOperator.Controller.Run

/-!
# When passes run

Throughout the run of a controller, at most one pass over a record is under way, at most one entry for
it waits in the queue, and no more passes are under way than the settings allow. Time does not go back.
What waits is not put off, whatever else happens: it stays in the queue, for no later a time, until its
pass is started.
-/

namespace ServerOperator.Controller

namespace State

variable {scenario : Scenario} {state : State} {time : Nat}

/-! ### What happens next -/

theorem earliest?_eq_none {entries : List (Nat × α)} (hnone : earliest? entries = none) :
    entries = [] := by
  cases entries with
  | nil => rfl
  | cons first rest =>
      unfold earliest? at hnone
      split at hnone
      · split at hnone <;> cases hnone
      · cases hnone

theorem earliest?_spec {entries : List (Nat × α)} {entry : Nat × α}
    (hfirst : earliest? entries = some entry) :
    entry ∈ entries ∧ ∀ other ∈ entries, entry.1 ≤ other.1 := by
  induction entries generalizing entry with
  | nil => cases hfirst
  | cons held rest ih =>
      unfold earliest? at hfirst
      split at hfirst
      · rename_i later hlater
        obtain ⟨hmem, hleast⟩ := ih hlater
        split at hfirst
        · rename_i hbefore
          cases hfirst
          refine ⟨List.mem_cons_of_mem held hmem, List.forall_mem_cons.mpr ⟨?_, hleast⟩⟩
          omega
        · rename_i hafter
          cases hfirst
          refine ⟨List.mem_cons_self, List.forall_mem_cons.mpr ⟨Nat.le_refl _, ?_⟩⟩
          intro other hother
          have hle := hleast other hother
          omega
      · rename_i hnone
        cases hfirst
        rw [earliest?_eq_none hnone]
        simp

theorem isRunning_iff {reference : Reference} :
    state.isRunning reference = true ↔ reference ∈ state.flights.map Flight.reference := by
  simp [isRunning]

/-- What can happen next, and at which time. -/
inductive Next (scenario : Scenario) (state : State) : Nat → Occurrence → Prop where
  | observed {event : Event} {later : List Event} (hcoming : state.coming = event :: later) :
      Next scenario state event.time (.observed event)
  | landed {flight : Flight} (hflight : flight ∈ state.flights) :
      Next scenario state (flight.sent + scenario.latency) (.landed flight)
  | started {reference : Reference} {due : Nat} (hqueued : (reference, due) ∈ state.queue)
      (hfree : reference ∉ state.flights.map Flight.reference)
      (hroom : state.flights.length < scenario.settings.concurrency.toNat) :
      Next scenario state (max state.now due) (.started reference)

theorem next_of_next? {occurrence : Occurrence}
    (hnext : state.next? scenario = some (time, occurrence)) :
    Next scenario state time occurrence := by
  obtain ⟨hmem, _⟩ := earliest?_spec hnext
  rw [List.mem_append, List.mem_append] at hmem
  rcases hmem with (hevent | hlanding) | hstart
  · unfold nextEvent at hevent
    cases hcoming : state.coming with
    | nil => simp [hcoming] at hevent
    | cons event later =>
        obtain ⟨rfl, rfl⟩ : time = event.time ∧ occurrence = .observed event := by
          simpa [hcoming] using hevent
        exact .observed hcoming
  · obtain ⟨flight, hflight, hentry⟩ := List.mem_map.mp hlanding
    cases hentry
    exact .landed hflight
  · unfold starts at hstart
    split at hstart
    · rename_i hroom
      obtain ⟨⟨reference, due⟩, hready, hentry⟩ := List.mem_map.mp hstart
      obtain ⟨hqueued, hidle⟩ := List.mem_filter.mp hready
      cases hentry
      refine .started hqueued ?_ hroom
      rw [← isRunning_iff]
      simpa using hidle
    · cases hstart

/-- Of all that is to come and all that is under way, nothing is due before what happens next. -/
theorem le_of_next? {occurrence : Occurrence}
    (hnext : state.next? scenario = some (time, occurrence)) :
    (∀ event ∈ state.coming.head?, time ≤ event.time) ∧
      ∀ flight ∈ state.flights, time ≤ flight.sent + scenario.latency := by
  obtain ⟨_, hleast⟩ := earliest?_spec hnext
  constructor
  · intro event hevent
    refine hleast (event.time, .observed event) ?_
    unfold nextEvent
    simp [Option.mem_def.mp hevent]
  · intro flight hflight
    refine hleast (flight.sent + scenario.latency, .landed flight) ?_
    refine List.mem_append_left _ (List.mem_append_right _ ?_)
    exact List.mem_map_of_mem hflight

/-! ### What the parts of a step do -/

/-- Something may have been put into the queue, and some requests were sent. -/
structure Adds (before : State) (sent : List Flight) (after : State) : Prop where
  now : after.now = before.now
  coming : after.coming = before.coming
  queue : before.queue.Grows after.queue
  flights : after.flights = before.flights ++ sent

theorem Adds.refl (state : State) : state.Adds [] state :=
  ⟨rfl, rfl, .refl state.queue, (List.append_nil _).symm⟩

theorem Adds.trans {before between after : State} (hfirst : before.Adds [] between)
    (hsecond : between.Adds [] after) : before.Adds [] after where
  now := hsecond.now.trans hfirst.now
  coming := hsecond.coming.trans hfirst.coming
  queue := hfirst.queue.trans hsecond.queue
  flights := by rw [hsecond.flights, hfirst.flights, List.append_nil, List.append_nil]

theorem adds_schedule (state : State) (reference : Reference) (time : Nat) :
    state.Adds [] (state.schedule reference time) :=
  ⟨rfl, rfl, state.queue.grows_schedule reference time, (List.append_nil _).symm⟩

theorem adds_trigger (state : State) (kind : Kind) (object : kind.Object) :
    state.Adds [] (state.trigger kind object) := by
  unfold trigger
  split
  · exact state.adds_schedule _ _
  · exact .refl state

theorem adds_watch (state : State) (kind : Kind) (object : kind.Object) (deleted : Bool) :
    state.Adds [] (state.watch kind object deleted) := by
  cases kind <;> exact ⟨rfl, rfl, .refl state.queue, (List.append_nil _).symm⟩

theorem adds_observe (state : State) (event : Event) : state.Adds [] (state.observe event) := by
  let told : State := { state with cluster := event.apply state.cluster }
  have htold : state.Adds [] told := ⟨rfl, rfl, .refl state.queue, (List.append_nil _).symm⟩
  exact (htold.trans (told.adds_watch _ _ _)).trans (adds_trigger _ _ _)

theorem adds_settle (state : State) (reference : Reference) (action : Action) :
    state.Adds [] (state.settle reference action) := by
  cases action with
  | awaitChange => exact .refl state
  | requeue milliseconds => exact state.adds_schedule reference _

/-- The requests that a pass sends when it goes on: one at most. -/
def Sends (reference : Reference) (now : Nat) (sent : List Flight) : Prop :=
  sent = [] ∨ ∃ call next, sent = [⟨reference, now, call, next⟩]

theorem adds_advance (state : State) (scenario : Scenario) (reference : Reference)
    (pass : Pass Action) :
    ∃ sent, Sends reference state.now sent ∧
      state.Adds sent (state.advance scenario reference pass) := by
  induction pass generalizing state with
  | finished action => exact ⟨[], .inl rfl, state.adds_settle reference _⟩
  | failed error => exact ⟨[], .inl rfl, state.adds_settle reference _⟩
  | ask call next ih =>
      unfold advance
      split
      · exact ih _ state
      · exact ⟨_, .inr ⟨call, next, rfl⟩, ⟨rfl, rfl, .refl state.queue, rfl⟩⟩

theorem adds_land (state : State) (scenario : Scenario) (flight : Flight) :
    let others := state.flights.filter fun other => other.reference ≠ flight.reference
    ∃ sent, Sends flight.reference state.now sent ∧
      State.Adds { state with flights := others } sent (state.land scenario flight) := by
  intro others
  let freed (cluster : Cluster) : State := { state with flights := others, cluster := cluster }
  unfold land
  split
  · exact (freed state.cluster).adds_advance scenario flight.reference _
  · -- The effect on the cluster is nothing that is looked at here.
    obtain ⟨sent, hsent, hadds⟩ := (freed (state.cluster.answer flight.call).2).adds_advance scenario
      flight.reference (flight.next (state.cluster.answer flight.call).1)
    exact ⟨sent, hsent, hadds.now, hadds.coming, hadds.queue, hadds.flights⟩

theorem adds_start (state : State) (scenario : Scenario) (reference : Reference) :
    ∃ sent, Sends reference state.now sent ∧
      State.Adds { state with queue := state.queue.remove reference } sent
        (state.start scenario reference) := by
  let taken : State := { state with queue := state.queue.remove reference }
  unfold start
  dsimp only
  split
  · exact taken.adds_advance scenario reference _
  · exact ⟨[], .inl rfl, .refl taken⟩

theorem adds_foldl (step : State → α → State)
    (hstep : ∀ (state : State) item, state.Adds [] (step state item)) (items : List α)
    (state : State) : state.Adds [] (items.foldl step state) := by
  induction items generalizing state with
  | nil => exact .refl state
  | cons item rest ih => exact (hstep state item).trans (ih (step state item))

theorem adds_listAll (scenario : Scenario) (state : State) :
    state.Adds [] (state.listAll scenario) := by
  refine adds_foldl _ (fun state kind => ?_) Kind.all state
  refine adds_foldl _ (fun state object => ?_) _ state
  exact (state.adds_watch kind object false).trans (adds_trigger _ kind object)

/-! ### One pass at a time -/

/-- The queue and the passes under way are in order, and nothing is overdue. -/
structure Orderly (scenario : Scenario) (state : State) : Prop where
  queued : state.queue.items.Nodup
  alone : (state.flights.map Flight.reference).Nodup
  limited : state.flights.length ≤ scenario.settings.concurrency.toNat
  sorted : state.coming.Pairwise fun earlier later => earlier.time ≤ later.time
  coming : ∀ event ∈ state.coming, state.now ≤ event.time
  landing : ∀ flight ∈ state.flights, state.now ≤ flight.sent + scenario.latency

namespace Orderly

theorem now_le (horderly : Orderly scenario state) {occurrence : Occurrence}
    (hnext : Next scenario state time occurrence) : state.now ≤ time := by
  cases hnext with
  | observed hcoming =>
      refine horderly.coming _ ?_
      rw [hcoming]
      exact List.mem_cons_self
  | landed hflight => exact horderly.landing _ hflight
  | started hqueued hfree hroom => exact Nat.le_max_left _ _

/-- Time goes on to what happens next. -/
theorem at_next (horderly : Orderly scenario state) {occurrence : Occurrence}
    (hnext : state.next? scenario = some (time, occurrence)) :
    Orderly scenario { state with now := time } := by
  obtain ⟨hevents, hlandings⟩ := le_of_next? hnext
  refine { horderly with coming := ?_, landing := hlandings }
  intro event hevent
  have hsorted := horderly.sorted
  change event ∈ state.coming at hevent
  cases hcoming : state.coming with
  | nil => simp [hcoming] at hevent
  | cons first later =>
      rw [hcoming] at hevent hsorted hevents
      have hfirst : time ≤ first.time := hevents first rfl
      rcases List.mem_cons.mp hevent with rfl | hlater
      · exact hfirst
      · exact Nat.le_trans hfirst ((List.pairwise_cons.mp hsorted).1 event hlater)

/-- Only what is under way has to be looked at: the queue keeps in order by itself. -/
theorem of_adds (horderly : Orderly scenario state) {sent : List Flight} {after : State}
    (hadds : state.Adds sent after)
    (halone : ((state.flights ++ sent).map Flight.reference).Nodup)
    (hlimited : (state.flights ++ sent).length ≤ scenario.settings.concurrency.toNat)
    (hlanding : ∀ flight ∈ sent, state.now ≤ flight.sent + scenario.latency) :
    Orderly scenario after := by
  refine ⟨hadds.queue.nodup horderly.queued, ?_, ?_, ?_, ?_, ?_⟩
  · rw [hadds.flights]
    exact halone
  · rw [hadds.flights]
    exact hlimited
  · rw [hadds.coming]
    exact horderly.sorted
  · rw [hadds.coming, hadds.now]
    exact horderly.coming
  · rw [hadds.flights, hadds.now]
    exact List.forall_mem_append.mpr ⟨horderly.landing, hlanding⟩

theorem adds (horderly : Orderly scenario state) {after : State} (hadds : state.Adds [] after) :
    Orderly scenario after := by
  refine horderly.of_adds hadds ?_ ?_ (List.forall_mem_nil _)
  · rw [List.append_nil]
    exact horderly.alone
  · rw [List.append_nil]
    exact horderly.limited

/-- A pass goes on for which there is room, and none other over that record is under way. -/
theorem sends (horderly : Orderly scenario state) {reference : Reference} {sent : List Flight}
    {after : State} (hfree : reference ∉ state.flights.map Flight.reference)
    (hroom : state.flights.length < scenario.settings.concurrency.toNat)
    (hsent : Sends reference state.now sent) (hadds : state.Adds sent after) :
    Orderly scenario after := by
  rcases hsent with rfl | ⟨call, next, rfl⟩
  · exact horderly.adds hadds
  · refine horderly.of_adds hadds ?_ ?_ (List.forall_mem_singleton.mpr ?_)
    · rw [List.map_append]
      refine List.nodup_append.mpr ⟨horderly.alone, List.pairwise_singleton _ _, ?_⟩
      rintro other hother sent hsent rfl
      obtain rfl : other = reference := List.mem_singleton.mp hsent
      exact hfree hother
    · rw [List.length_append, List.length_singleton]
      omega
    · exact Nat.le_add_right state.now scenario.latency

theorem land (horderly : Orderly scenario state) {flight : Flight}
    (hflight : flight ∈ state.flights) : Orderly scenario (state.land scenario flight) := by
  let others := state.flights.filter fun other => other.reference ≠ flight.reference
  have hothers : Orderly scenario { state with flights := others } :=
    { horderly with
      alone := horderly.alone.sublist (List.filter_sublist.map _)
      limited := Nat.le_trans (List.length_filter_le _ _) horderly.limited
      landing := fun other hother => horderly.landing other (List.mem_filter.mp hother).1 }
  have hfree : flight.reference ∉ others.map Flight.reference := by
    intro hmem
    obtain ⟨other, hother, hreference⟩ := List.mem_map.mp hmem
    exact of_decide_eq_true (List.mem_filter.mp hother).2 hreference
  have hroom : others.length < scenario.settings.concurrency.toNat := by
    have hfewer : others.length < state.flights.length :=
      List.length_filter_lt_length_iff_exists.mpr ⟨flight, hflight, by simp⟩
    have hlimited := horderly.limited
    omega
  obtain ⟨sent, hsent, hadds⟩ := state.adds_land scenario flight
  exact hothers.sends hfree hroom hsent hadds

theorem start (horderly : Orderly scenario state) {reference : Reference}
    (hfree : reference ∉ state.flights.map Flight.reference)
    (hroom : state.flights.length < scenario.settings.concurrency.toNat) :
    Orderly scenario (state.start scenario reference) := by
  have hremoved : Orderly scenario { state with queue := state.queue.remove reference } :=
    { horderly with queued := Queue.nodup_items_remove reference horderly.queued }
  obtain ⟨sent, hsent, hadds⟩ := state.adds_start scenario reference
  exact hremoved.sends hfree hroom hsent hadds

theorem happen (horderly : Orderly scenario state) {occurrence : Occurrence}
    (hnext : state.next? scenario = some (time, occurrence)) :
    Orderly scenario (state.happen scenario time occurrence) := by
  have hthen := horderly.at_next hnext
  cases next_of_next? hnext with
  | @observed event later hcoming =>
      have hadds := State.adds_observe { state with now := event.time } event
      have htail : state.coming.tail.Sublist state.coming := List.tail_sublist _
      refine { hthen.adds hadds with
        sorted := horderly.sorted.sublist htail
        coming := fun other hother => ?_ }
      exact hadds.now ▸ hthen.coming other (htail.subset hother)
  | landed hflight => exact hthen.land hflight
  | started hqueued hfree hroom => exact hthen.start hfree hroom

/-- A controller goes by settled settings, and by events in the order of their times. -/
theorem initial (scenario : Scenario) :
    Orderly scenario.normalized (State.initial scenario.normalized) := by
  refine Orderly.adds ?_ (adds_listAll scenario.normalized _)
  refine ⟨List.nodup_nil, List.nodup_nil, Nat.zero_le _, ?_, ?_, ?_⟩
  · have htrans (first second third : Event) :
        decide (first.time ≤ second.time) = true → decide (second.time ≤ third.time) = true →
          decide (first.time ≤ third.time) = true := by
      simp only [decide_eq_true_eq]
      exact Nat.le_trans
    have htotal (first second : Event) :
        (decide (first.time ≤ second.time) || decide (second.time ≤ first.time)) = true := by
      simp only [Bool.or_eq_true, decide_eq_true_eq]
      exact Nat.le_total first.time second.time
    exact (List.pairwise_mergeSort htrans htotal scenario.events).imp of_decide_eq_true
  · intro event _
    exact Nat.zero_le _
  · intro flight hflight
    cases hflight

end Orderly

/-! ### Runs -/

/-- A run has ended, or something happens and it goes on from there. -/
theorem ended_or_happens (scenario : Scenario) (state : State) :
    (∀ steps, state.runFor scenario steps = state) ∨
      ∃ time occurrence, state.next? scenario = some (time, occurrence) ∧
        time < scenario.deadline ∧ ∀ steps, state.runFor scenario (steps + 1) =
          (state.happen scenario time occurrence).runFor scenario steps := by
  cases hnext : state.next? scenario with
  | none =>
      left
      intro steps
      cases steps with
      | zero => rfl
      | succ steps => simp only [runFor, hnext]
  | some entry =>
      obtain ⟨time, occurrence⟩ := entry
      by_cases htime : time < scenario.deadline
      · refine .inr ⟨time, occurrence, rfl, htime, fun steps => ?_⟩
        simp only [runFor, hnext, if_pos htime]
      · left
        intro steps
        cases steps with
        | zero => rfl
        | succ steps => simp only [runFor, hnext, if_neg htime]

theorem now_happen (scenario : Scenario) (time : Nat) (occurrence : Occurrence) (state : State) :
    (state.happen scenario time occurrence).now = time := by
  cases occurrence with
  | observed event => exact (adds_observe { state with now := time } event).now
  | landed flight =>
      obtain ⟨sent, _, hadds⟩ := adds_land { state with now := time } scenario flight
      exact hadds.now
  | started reference =>
      obtain ⟨sent, _, hadds⟩ := adds_start { state with now := time } scenario reference
      exact hadds.now

/-- What waits for another pass than the one that is started goes on waiting, for no later a time. -/
theorem due?_happen (scenario : Scenario) (time : Nat) {occurrence : Occurrence} {state : State}
    {reference : Reference} {due : Nat} (hdue : state.queue.due? reference = some due)
    (hother : occurrence ≠ .started reference) :
    ∃ earlier ≤ due,
      (state.happen scenario time occurrence).queue.due? reference = some earlier := by
  cases occurrence with
  | observed event =>
      exact (adds_observe { state with now := time } event).queue.due reference due hdue
  | landed flight =>
      obtain ⟨sent, _, hadds⟩ := adds_land { state with now := time } scenario flight
      exact hadds.queue.due reference due hdue
  | started started =>
      obtain ⟨sent, _, hadds⟩ := adds_start { state with now := time } scenario started
      refine hadds.queue.due reference due ?_
      have hne : reference ≠ started := fun heq => hother (congrArg Occurrence.started heq.symm)
      rw [← hdue]
      exact Queue.due?_remove_of_ne state.queue hne

theorem Orderly.now_le_happen (horderly : Orderly scenario state) {occurrence : Occurrence}
    (hnext : state.next? scenario = some (time, occurrence)) :
    state.now ≤ (state.happen scenario time occurrence).now := by
  have hnow := horderly.now_le (next_of_next? hnext)
  rwa [now_happen]

/-- However long a run goes on, it stays in order, and time does not go back. -/
theorem Orderly.runFor (horderly : Orderly scenario state) (steps : Nat) :
    Orderly scenario (state.runFor scenario steps) ∧
      state.now ≤ (state.runFor scenario steps).now := by
  induction steps generalizing state with
  | zero => exact ⟨horderly, Nat.le_refl _⟩
  | succ steps ih =>
      rcases ended_or_happens scenario state with hended | ⟨time, occurrence, hnext, _, hgoes⟩
      · rw [hended]
        exact ⟨horderly, Nat.le_refl _⟩
      · obtain ⟨hafter, hlater⟩ := ih (horderly.happen hnext)
        rw [hgoes]
        exact ⟨hafter, Nat.le_trans (horderly.now_le_happen hnext) hlater⟩

/-- What waits is not put off. However long a run goes on, it waits still, for no later a time, unless
its pass was started as soon as that time had come and there was room for it. -/
theorem due?_runFor (horderly : Orderly scenario state) {reference : Reference} {due : Nat}
    (hdue : state.queue.due? reference = some due) (steps : Nat) :
    (∃ earlier ≤ due, (state.runFor scenario steps).queue.due? reference = some earlier) ∨
      ∃ before < steps, ∃ earlier ≤ due,
        let reached := state.runFor scenario before
        let start := max reached.now earlier
        reached.next? scenario = some (start, .started reference) ∧ start < scenario.deadline := by
  induction steps generalizing state due with
  | zero => exact .inl ⟨due, Nat.le_refl due, hdue⟩
  | succ steps ih =>
      rcases ended_or_happens scenario state with hended | ⟨time, occurrence, hnext, htime, hgoes⟩
      · rw [hended]
        exact .inl ⟨due, Nat.le_refl due, hdue⟩
      by_cases hstarted : occurrence = .started reference
      · subst hstarted
        refine .inr ⟨0, Nat.succ_pos steps, due, Nat.le_refl due, ?_⟩
        cases next_of_next? hnext with
        | started hqueued hfree hroom =>
            have hsame := Queue.due?_of_mem horderly.queued hqueued
            obtain rfl := Option.some.inj (hsame.symm.trans hdue)
            exact ⟨hnext, htime⟩
      · obtain ⟨earlier, hearlier, hwaits⟩ := due?_happen scenario time hdue hstarted
        rw [hgoes]
        rcases ih (horderly.happen hnext) hwaits with
          ⟨first, hfirst, hlater⟩ | ⟨before, hbefore, first, hfirst, hlater⟩
        · exact .inl ⟨first, Nat.le_trans hfirst hearlier, hlater⟩
        · refine .inr ⟨before + 1, Nat.succ_lt_succ hbefore, first, Nat.le_trans hfirst hearlier, ?_⟩
          rw [hgoes]
          exact hlater

end State

/-- Whatever happens around a controller, it runs at most one pass over a record at a time, and no more
passes than its settings allow; and each record waits once at most. -/
theorem Scenario.orderly (scenario : Scenario) (steps : Nat) :
    let settled := scenario.normalized
    State.Orderly settled ((State.initial settled).runFor settled steps) :=
  ((State.Orderly.initial scenario).runFor steps).1

end ServerOperator.Controller
