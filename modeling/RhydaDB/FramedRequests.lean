import RhydaDB.FramedRuns

namespace RhydaDB

open ByteStrings AtomicPrograms FiniteRuns Storage

/-!
# Requests behind byte streams

What the requests of a connection over bytes do is a run of `Connection`, which
receives a frame only while no request that the reader serves itself is
unfinished and fewer than 512 others are.  The reader does not look: it waits
for a frame that it serves itself, and every other unfinished one holds a
permit.
-/

/-- Whether a frame is served by a task that holds a permit. -/
def Service.holdsPermit {shards : Nat} (service : Service shards) : Bool :=
  !service.inline && service.phase.isActive

/-- The response to a frame is built before the frame is done. -/
theorem ServicePhase.IsWorking.isActive
    {phase : ServicePhase}
    (working : phase.IsWorking) :
    phase.isActive = true := by
  rcases working with rfl | ⟨agreed, rfl⟩
  · rfl
  · rfl

namespace FramedConnection

section Abstraction

variable {shards : Nat}

/-- The requests of a connection over bytes. -/
def connection (framed : FramedConnection shards) : Connection shards where
  state := framed.state
  tasks := framed.services.filterMap Service.task

/-- The reader waits until the error it answers with is sent. -/
theorem Rejection.awaited
    {index : Nat}
    {raw : RawFrame}
    {last : Bool}
    {phase : ServicePhase}
    {reader : ReaderPhase}
    (rejection : Rejection index raw last phase reader)
    (active : phase.isActive = true) :
    ∃ last, reader = .awaiting index last := by
  cases rejection with
  | answered frame =>
      exact ⟨last, rfl⟩
  | panicked =>
      cases active
  | dropped =>
      cases active

/-- Who serves which frame, and with how many permits. -/
structure Orderly (framed : FramedConnection shards) : Prop where
  permits :
    framed.permits + framed.services.countP Service.holdsPermit =
      perConnInflight
  /-- The reader waits for the frame that it serves itself. -/
  awaited :
    ∀ (index : Nat) (service : Service shards),
      framed.services[index]? = some service →
      service.inline = true →
      service.phase.isActive = true →
      ∃ last, framed.reader = .awaiting index last
  /-- A request that has not ended is still being served. -/
  unfinished :
    ∀ service ∈ framed.services,
      ∀ task,
        service.task = some task →
        task.isDone = false →
        service.phase.IsWorking
  inline :
    ∀ service ∈ framed.services,
      ∀ task,
        service.task = some task →
        task.frame.inline = service.inline

/-- A connection that was just accepted serves nothing. -/
theorem orderly_accepted (mode : FlushMode) (store : Storage shards) :
    (accepted mode store).Orderly where
  permits := rfl
  awaited := by
    intro index service found
    cases found
  unfinished := by
    intro service member
    cases member
  inline := by
    intro service member
    cases member

variable {framed next : FramedConnection shards}

namespace Orderly

/-- While the reader is not waiting, active frames are served by tasks. -/
theorem not_inline
    (orderly : framed.Orderly)
    (free : ∀ index last, framed.reader ≠ .awaiting index last)
    {service : Service shards}
    (member : service ∈ framed.services)
    (active : service.phase.isActive = true) :
    service.inline = false := by
  by_contra inline
  obtain ⟨index, found⟩ := List.getElem?_of_mem member
  obtain ⟨last, reader⟩ :=
    orderly.awaited index service found (Bool.eq_true_of_not_eq_false inline)
      active
  exact free index last reader

/-- The reader goes on while it is not waiting for a frame. -/
theorem moves
    (orderly : framed.Orderly)
    (free : ∀ index last, framed.reader ≠ .awaiting index last)
    (services : next.services = framed.services)
    (permits : next.permits = framed.permits) :
    next.Orderly := by
  refine ⟨?_, ?_, ?_, ?_⟩
  · rw [services, permits]
    exact orderly.permits
  · rw [services]
    intro index service found inline active
    have spawned :=
      orderly.not_inline free (List.mem_of_getElem? found) active
    cases inline.symm.trans spawned
  · rw [services]
    exact orderly.unfinished
  · rw [services]
    exact orderly.inline

/-- What does not concern the frames or the reader. -/
theorem of_same
    (orderly : framed.Orderly)
    (services : next.services = framed.services)
    (permits : next.permits = framed.permits)
    (reader : next.reader = framed.reader) :
    next.Orderly := by
  obtain ⟨held, awaited, unfinished, inline⟩ := orderly
  refine ⟨?_, ?_, ?_, ?_⟩
  · rw [services, permits]
    exact held
  · rw [services, reader]
    exact awaited
  · rw [services]
    exact unfinished
  · rw [services]
    exact inline

/-- A frame is taken up while the reader is not waiting. -/
theorem appends
    (orderly : framed.Orderly)
    (free : ∀ index last, framed.reader ≠ .awaiting index last)
    {service : Service shards}
    (services : next.services = framed.services ++ [service])
    (permits :
      next.permits + (if service.holdsPermit then 1 else 0) = framed.permits)
    (awaited :
      service.inline = true →
      service.phase.isActive = true →
      ∃ last, next.reader = .awaiting framed.services.length last)
    (unfinished :
      ∀ task, service.task = some task → service.phase.IsWorking)
    (inline :
      ∀ task, service.task = some task → task.frame.inline = service.inline) :
    next.Orderly := by
  refine ⟨?_, ?_, ?_, ?_⟩
  · have held := orderly.permits
    rw [services, List.countP_append, List.countP_singleton]
    omega
  · intro index other found isInline active
    rw [services, List.getElem?_append] at found
    split at found
    · have spawned :=
        orderly.not_inline free (List.mem_of_getElem? found) active
      cases isInline.symm.trans spawned
    · rename_i outside
      obtain ⟨inside, rfl⟩ := List.getElem?_eq_some_iff.mp found
      simp only [List.length_singleton] at inside
      obtain rfl : index = framed.services.length := by omega
      simp only [Nat.sub_self, List.getElem_singleton] at isInline active
      exact awaited isInline active
  · intro other member task queried undone
    rw [services] at member
    rcases List.mem_append.mp member with old | new
    · exact orderly.unfinished other old task queried undone
    · obtain rfl := List.mem_singleton.mp new
      exact unfinished task queried
  · intro other member task queried
    rw [services] at member
    rcases List.mem_append.mp member with old | new
    · exact orderly.inline other old task queried
    · obtain rfl := List.mem_singleton.mp new
      exact inline task queried

/-- A frame is answered or given up by the reader. -/
theorem rejects
    (orderly : framed.Orderly)
    (free : ∀ index last, framed.reader ≠ .awaiting index last)
    {raw : RawFrame}
    {last : Bool}
    {phase : ServicePhase}
    (rejection : Rejection framed.services.length raw last phase next.reader)
    (services :
      next.services = framed.services ++ [⟨raw, [], true, none, phase⟩])
    (permits : next.permits = framed.permits) :
    next.Orderly := by
  refine orderly.appends free services permits (fun _ => rejection.awaited) ?_ ?_
  · intro task queried
    cases queried
  · intro task queried
    cases queried

/-- A frame is served a step further. -/
theorem sets
    (orderly : framed.Orderly)
    {index : Nat}
    {service other : Service shards}
    (found : framed.services[index]? = some service)
    (services : next.services = framed.services.set index other)
    (reader : next.reader = framed.reader)
    (permits :
      next.permits + (if other.holdsPermit then 1 else 0) =
        framed.permits + (if service.holdsPermit then 1 else 0))
    (sameInline : other.inline = service.inline)
    (active : other.phase.isActive = true → service.phase.isActive = true)
    (unfinished :
      ∀ task,
        other.task = some task →
        task.isDone = false →
        other.phase.IsWorking)
    (inline :
      ∀ task, other.task = some task → task.frame.inline = other.inline) :
    next.Orderly := by
  obtain ⟨before, after, whole, replaced, _⟩ := exists_split_set found other
  refine ⟨?_, ?_, ?_, ?_⟩
  · have held := orderly.permits
    rw [whole] at held
    rw [services, replaced]
    simp only [List.countP_append, List.countP_cons] at held ⊢
    omega
  · intro position member foundThere isInline isActive
    rw [services] at foundThere
    rw [reader]
    by_cases here : index = position
    · subst here
      obtain ⟨inside, _⟩ := List.getElem?_eq_some_iff.mp found
      rw [List.getElem?_set_self inside] at foundThere
      cases foundThere
      exact orderly.awaited index service found (sameInline ▸ isInline)
        (active isActive)
    · rw [List.getElem?_set_ne here] at foundThere
      exact orderly.awaited position member foundThere isInline isActive
  · intro member isMember task queried undone
    rw [services] at isMember
    rcases List.mem_or_eq_of_mem_set isMember with old | rfl
    · exact orderly.unfinished member old task queried undone
    · exact unfinished task queried undone
  · intro member isMember task queried
    rw [services] at isMember
    rcases List.mem_or_eq_of_mem_set isMember with old | rfl
    · exact orderly.inline member old task queried
    · exact inline task queried

/-- The request behind a response that is being sent has ended. -/
theorem finished
    (orderly : framed.Orderly)
    {index : Nat}
    {service : Service shards}
    {response : Bytes}
    (found : framed.services[index]? = some service)
    (phase : service.phase = .sending response)
    (task : ConnTask shards)
    (queried : service.task = some task) :
    task.isDone = true := by
  by_contra undone
  have working :=
    orderly.unfinished service (List.mem_of_getElem? found) task queried
      (Bool.eq_false_of_not_eq_true undone)
  rcases working with spawned | ⟨agreed, serving⟩
  · cases phase.symm.trans spawned
  · cases phase.symm.trans serving

/-- A frame is done with and its permit, if it holds one, is released. -/
theorem concludes
    (orderly : framed.Orderly)
    {index : Nat}
    {service : Service shards}
    {phase : ServicePhase}
    (found : framed.services[index]? = some service)
    (active : service.phase.isActive = true)
    (inactive : phase.isActive = false)
    (finished : ∀ task, service.task = some task → task.isDone = true)
    (services :
      next.services =
        framed.services.set index { service with phase := phase })
    (reader : next.reader = framed.reader)
    (permits :
      next.permits =
        if service.inline then framed.permits else framed.permits + 1) :
    next.Orderly := by
  have member := List.mem_of_getElem? found
  refine orderly.sets found services reader ?_ rfl (fun _ => active) ?_
    (orderly.inline service member)
  · rw [permits]
    cases inline : service.inline with
    | false =>
        simp [Service.holdsPermit, inline, active, inactive]
    | true =>
        simp [Service.holdsPermit, inline]
  · intro task queried undone
    cases undone.symm.trans (finished task queried)

end Orderly

end Abstraction

variable
  {shards : Nat} [NeZero shards]
  {crates : WireCrates}
  {framed next : FramedConnection shards}
  {label : FramedLabel shards}

/-- A request is served by the reader where `Connection` says so. -/
theorem service_inline
    (numbers : crates.NumbersOpcodes)
    {raw : RawFrame}
    {body : Bytes}
    {task : ConnTask shards}
    (queried :
      (service crates raw body (servesInline crates raw body)).task =
        some task) :
    task.frame.inline = servesInline crates raw body := by
  cases read : crates.tryFromOpcode raw.header.opcode with
  | none =>
      simp [service, read] at queried
  | some opcode =>
      cases opcode with
      | control opcode =>
          simp [service, read] at queried
      | request opcode =>
          have frame : task.frame = ⟨opcode, body⟩ := by
            simp only [service, read, Option.some.injEq] at queried
            rw [← queried]
          have byte := (numbers _ _).mp read
          have other :
              ∀ second,
                opcode ≠ second →
                raw.header.opcode ≠ crates.opcodeByte (.request second) := by
            intro second different same
            have reread := read.symm.trans ((numbers _ _).mpr same.symm)
            exact different (Opcode.request.inj (Option.some.inj reread))
          rw [frame]
          cases opcode with
          | query =>
              simp [Frame.inline, servesInline, byte]
          | prepare =>
              have notQuery := other .query (by decide)
              have notExecute := other .execute (by decide)
              simp [Frame.inline, servesInline, notQuery, notExecute]
          | execute =>
              simp [Frame.inline, servesInline, byte]

/-- Every step keeps the services orderly. -/
theorem Orderly.step
    (numbers : crates.NumbersOpcodes)
    (orderly : framed.Orderly)
    (step : Step crates framed label next) :
    next.Orderly := by
  cases step with
  | arrive chunk =>
      exact orderly.of_same rfl rfl rfl
  | hangUp =>
      exact orderly.of_same rfl rfl rfl
  | stops reads idle =>
      refine orderly.moves ?_ rfl rfl
      rcases idle with phase | ⟨header, phase⟩
      all_goals simp [phase]
  | headed phase buffer taken =>
      exact orderly.moves (by simp [phase]) rfl rfl
  | refuses phase buffer refused fits rejection =>
      exact orderly.rejects (by simp [phase]) rejection rfl rfl
  | bodied phase buffer whole =>
      exact orderly.moves (by simp [phase]) rfl rfl
  | rejects phase buffer whole rejection =>
      exact orderly.rejects (by simp [phase]) rejection rfl rfl
  | @inlines raw body phase inline =>
      refine orderly.appends (by simp [phase]) rfl rfl
        (fun _ _ => ⟨false, rfl⟩) (fun _ _ => .inl rfl) ?_
      intro task queried
      rw [← inline] at queried
      exact (service_inline numbers queried).trans inline
  | @spawns raw body phase inline permitted =>
      refine orderly.appends (by simp [phase]) rfl ?_ nofun
        (fun _ _ => .inl rfl) ?_
      · simp only [Service.holdsPermit, service, ServicePhase.isActive]
        exact Nat.sub_add_cancel permitted
      · intro task queried
        rw [← inline] at queried
        exact (service_inline numbers queried).trans inline
  | @awaited index last service reader phase found concluded moves =>
      refine ⟨orderly.permits, ?_, orderly.unfinished, orderly.inline⟩
      intro position other foundThere inline active
      obtain ⟨otherLast, waits⟩ :=
        orderly.awaited position other foundThere inline active
      cases phase.symm.trans waits
      cases found.symm.trans foundThere
      cases active.symm.trans concluded
  | @enters index service task found phase queried =>
      refine orderly.sets found rfl rfl ?_ rfl ?_ ?_
        (orderly.inline service (List.mem_of_getElem? found))
      · simp [Service.holdsPermit, phase, ServicePhase.isActive]
      · intro _
        rw [phase]
        rfl
      · intro _ _ _
        exact .inr ⟨framed.compression, rfl⟩
  | @accesses index service agreed task action rest found phase queried program
      ready =>
      refine orderly.sets found rfl rfl rfl rfl id ?_ ?_
      · intro _ _ _
        exact .inr ⟨agreed, phase⟩
      · rintro moved ⟨⟩
        rw [ConnTask.goOn_frame]
        exact orderly.inline service (List.mem_of_getElem? found) task queried
  | @builds index service compression response found working frame result =>
      refine orderly.sets found rfl rfl ?_ rfl (fun _ => working.isActive) ?_
        (orderly.inline service (List.mem_of_getElem? found))
      · have sending : (ServicePhase.sending response).isActive = true := rfl
        simp [Service.holdsPermit, working.isActive, sending]
      · intro task queried undone
        obtain ⟨agreed, current, responds⟩ := result task queried
        cases undone.symm.trans (task.isDone_of_response? responds)
  | panics found working finished =>
      exact orderly.concludes found working.isActive rfl finished rfl rfl rfl
  | @sends index service response writer found phase sent =>
      exact orderly.concludes found (by rw [phase]; rfl) rfl
        (orderly.finished found phase) rfl rfl rfl
  | @drops index service response found phase =>
      exact orderly.concludes found (by rw [phase]; rfl) rfl
        (orderly.finished found phase) rfl rfl rfl
  | writes unsent wrote =>
      exact orderly.of_same rfl rfl rfl
  | engine thread taken =>
      exact orderly.of_same rfl rfl rfl
  | elsewhere action =>
      exact orderly.of_same rfl rfl rfl

omit [NeZero shards] in
/-- A request that the reader takes is accepted by `Connection`. -/
theorem Orderly.accepts
    (orderly : framed.Orderly)
    (free : ∀ index last, framed.reader ≠ .awaiting index last)
    {frame : Frame}
    (permitted : frame.inline = true ∨ 0 < framed.permits) :
    framed.connection.accepts frame = true := by
  have spawned :
      ∀ service ∈ framed.services,
        ∀ task,
          service.task = some task →
          task.isDone = false →
          service.inline = false ∧ service.phase.isActive = true := by
    intro service member task queried undone
    have active :=
      (orderly.unfinished service member task queried undone).isActive
    exact ⟨orderly.not_inline free member active, active⟩
  rw [Connection.accepts, Bool.and_eq_true]
  refine ⟨?_, ?_⟩
  · rw [List.all_eq_true]
    intro task member
    obtain ⟨service, isMember, queried⟩ := List.mem_filterMap.mp member
    cases done : task.isDone with
    | true =>
        simp
    | false =>
        have inline := orderly.inline service isMember task queried
        rw [(spawned service isMember task queried done).1] at inline
        simp [inline]
  · rcases permitted with inline | permitted
    · simp [inline]
    · have held :
          (framed.connection.tasks.countP fun task => !task.isDone) ≤
            framed.services.countP Service.holdsPermit := by
        rw [connection, List.countP_filterMap]
        refine List.countP_mono_left fun service member undone => ?_
        cases queried : service.task with
        | none =>
            simp [queried] at undone
        | some task =>
            have isUndone : task.isDone = false := by
              simpa [queried] using undone
            obtain ⟨notInline, active⟩ :=
              spawned service member task queried isUndone
            simp [Service.holdsPermit, notInline, active]
      have budget := orderly.permits
      have few :
          (framed.connection.tasks.countP fun task => !task.isDone) <
            perConnInflight := by
        omega
      simp [few]

/-- A run of `Connection` of at most one step. -/
abbrev Follows
    (crates : WireCrates)
    (connection next : Connection shards) :
    Prop :=
  ∃ labels,
    Run (Connection.step? crates.toCrates) (fun _ _ => True) connection labels
      next

/-- What does not concern the requests is no step of `Connection`. -/
theorem follows_same (same : next.connection = framed.connection) :
    Follows crates framed.connection next.connection := by
  rw [same]
  exact ⟨[], .nil _⟩

omit [NeZero shards] in
/-- The requests stay as they are while a frame is served without an access. -/
theorem connection_set
    {index : Nat}
    {service other : Service shards}
    (found : framed.services[index]? = some service)
    (services : next.services = framed.services.set index other)
    (state : next.state = framed.state)
    (same : other.task = service.task) :
    next.connection = framed.connection := by
  obtain ⟨before, after, whole, replaced, _⟩ := exists_split_set found other
  simp only [connection, services, state, replaced]
  rw [whole]
  simp only [List.filterMap_append, List.filterMap_cons, same]

omit [NeZero shards] in
/-- A frame that is rejected is no request. -/
theorem connection_append
    {service : Service shards}
    (unqueried : service.task = none)
    (services : next.services = framed.services ++ [service])
    (state : next.state = framed.state) :
    next.connection = framed.connection := by
  simp [connection, services, state, unqueried]

/-- A request starts with the program that serves its frame. -/
theorem service_task
    {raw : RawFrame}
    {body : Bytes}
    {inline : Bool}
    {task : ConnTask shards}
    (queried : (service crates raw body inline).task = some task) :
    task =
      ⟨task.frame, handleRequest crates.toCrates task.frame, none, none,
        none⟩ := by
  unfold service at queried
  dsimp only at queried
  split at queried
  · cases queried
    rfl
  · cases queried

/-- A frame that the reader takes is received by `Connection`, if it concerns it. -/
theorem Orderly.follows_dispatch
    (orderly : framed.Orderly)
    (free : ∀ index last, framed.reader ≠ .awaiting index last)
    {raw : RawFrame}
    {body : Bytes}
    {inline : Bool}
    (permitted :
      ∀ task : ConnTask shards,
        (service crates raw body inline).task = some task →
        task.frame.inline = true ∨ 0 < framed.permits)
    (services :
      next.services = framed.services ++ [service crates raw body inline])
    (state : next.state = framed.state) :
    Follows crates framed.connection next.connection := by
  cases queried : (service crates raw body inline : Service shards).task with
  | none =>
      exact follows_same (connection_append queried services state)
  | some task =>
      have accepted := orderly.accepts free (permitted task queried)
      have taken :
          framed.connection.step? crates.toCrates (.receive task.frame) =
            some next.connection := by
        rw [Connection.step?, if_pos accepted, ← service_task queried]
        simp [connection, services, state, queried]
      exact ⟨[.receive task.frame], .cons trivial taken (.nil _)⟩

/-- Every step is a step of `Connection`, or none. -/
theorem Orderly.follows
    (numbers : crates.NumbersOpcodes)
    (orderly : framed.Orderly)
    (step : Step crates framed label next) :
    Follows crates framed.connection next.connection := by
  cases step with
  | @inlines raw body phase inline =>
      refine orderly.follows_dispatch (by simp [phase]) ?_ rfl rfl
      intro task queried
      rw [← inline] at queried
      exact .inl ((service_inline numbers queried).trans inline)
  | @spawns raw body phase inline permitted =>
      exact orderly.follows_dispatch (by simp [phase])
        (fun _ _ => .inr permitted) rfl rfl
  | @accesses index service agreed task action rest found phase queried program
      ready =>
      obtain ⟨before, after, whole, replaced, _⟩ :=
        exists_split_set found
          { service with
            task :=
              some (task.goOn action (framed.state.answer action).2
                (rest (framed.state.answer action).2)) }
      have here :
          framed.connection.tasks[(before.filterMap Service.task).length]? =
            some task := by
        simp [connection, whole, queried]
      have taken :
          framed.connection.step? crates.toCrates
              (.advance (before.filterMap Service.task).length) =
            some ⟨(framed.state.answer action).1,
              framed.connection.tasks.set
                (before.filterMap Service.task).length
                (task.goOn action (framed.state.answer action).2
                  (rest (framed.state.answer action).2))⟩ := by
        simp only [Connection.step?, here, program]
        rw [if_pos (show framed.connection.state.ready action = true from ready)]
        rfl
      refine ⟨[.advance (before.filterMap Service.task).length],
        .cons trivial taken ?_⟩
      have moved :
          framed.connection.tasks.set (before.filterMap Service.task).length
              (task.goOn action (framed.state.answer action).2
                (rest (framed.state.answer action).2)) =
            (framed.services.set index
              { service with
                task :=
                  some (task.goOn action (framed.state.answer action).2
                    (rest (framed.state.answer action).2)) }).filterMap
              Service.task := by
        rw [replaced]
        simp [connection, whole, queried]
      rw [moved]
      exact .nil _
  | @engine engine label store thread taken =>
      refine ⟨[.engine engine label], .cons trivial ?_ (.nil _)⟩
      simp [Connection.step?, thread, connection, taken]
  | elsewhere action =>
      exact ⟨[.elsewhere action], .cons trivial rfl (.nil _)⟩
  | refuses phase buffer refused fits rejection =>
      exact follows_same (connection_append rfl rfl rfl)
  | rejects phase buffer whole rejection =>
      exact follows_same (connection_append rfl rfl rfl)
  | enters found phase queried =>
      exact follows_same (connection_set found rfl rfl rfl)
  | builds found working frame result =>
      exact follows_same (connection_set found rfl rfl rfl)
  | panics found working finished =>
      exact follows_same (connection_set found rfl rfl rfl)
  | sends found phase sent =>
      exact follows_same (connection_set found rfl rfl rfl)
  | drops found phase =>
      exact follows_same (connection_set found rfl rfl rfl)
  | _ =>
      exact follows_same rfl

/-- An orderly connection whose requests have run as a `Connection` does. -/
structure Followed
    (crates : WireCrates)
    (store : Storage shards)
    (framed : FramedConnection shards) :
    Prop where
  orderly : framed.Orderly
  follows : Follows crates (.open_ store) framed.connection

/-- Every step keeps the requests running as a `Connection` does. -/
theorem Followed.step
    (numbers : crates.NumbersOpcodes)
    {store : Storage shards}
    (followed : framed.Followed crates store)
    (step : Step crates framed label next) :
    next.Followed crates store := by
  obtain ⟨orderly, earlier, ran⟩ := followed
  obtain ⟨later, follows⟩ := orderly.follows numbers step
  exact ⟨orderly.step numbers step, earlier ++ later, ran.append follows⟩

/--
What the requests of a connection over bytes do is a run of `Connection`: when
the reader takes a frame, none that it serves itself is unfinished, and fewer
than 512 others are.
-/
theorem requests_run_as_connection
    (numbers : crates.NumbersOpcodes)
    {mode : FlushMode}
    {store : Storage shards}
    {labels : List (FramedLabel shards)}
    (run :
      Run (step? crates) (fun _ _ => True) (accepted mode store) labels framed) :
    (∃ connLabels,
        Run (Connection.step? crates.toCrates) (fun _ _ => True)
          (.open_ store) connLabels framed.connection) ∧
      framed.permits + framed.services.countP Service.holdsPermit =
        perConnInflight := by
  have initially : (accepted mode store).Followed crates store :=
    ⟨orderly_accepted mode store, [], .nil _⟩
  have followed : framed.Followed crates store :=
    run.invariant (fun _ taken holds => holds.step numbers (step?_sound taken))
      initially
  exact ⟨followed.follows, followed.orderly.permits⟩

/-- The QUERY and its USE are a run of `Connection`. -/
theorem requests_run_as_connection_two :
    ∃ (framed : FramedConnection 1) (connLabels : List (ConnLabel 1)),
      framed.frames.map (fun frame => frame.header.stream) = [1, 2] ∧
        Run (Connection.step? sessionCrates) (fun _ _ => True)
          (.open_ twoKeyspaces) connLabels framed.connection ∧
        framed.permits + framed.services.countP Service.holdsPermit =
          perConnInflight := by
  obtain ⟨framed, run, frames, _⟩ := overtakingOptions_run
  obtain ⟨⟨connLabels, ran⟩, permits⟩ :=
    requests_run_as_connection sessionWireCrates_numbersOpcodes run
  exact ⟨framed, connLabels, frames, ran, permits⟩

end FramedConnection

end RhydaDB
