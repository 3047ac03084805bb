import PerfTest.Systems.Handles
import PerfTest.Topology.Recovery

namespace PerfTestProof

open Systems Program PerfTestModel TopologyRecording

structure Issues (world : World) (channel : Channel) (events : List Performed) (after : World)
    (last : Channel) : Prop where
  performed : after.performed = world.performed ++ events
  closed : after.closed = world.closed
  connection : last.connection = channel.connection
  threaded : Threaded Performed.channel Performed.failed (Channel.mk channel.connection) channel
    world.channelCount events last after.channelCount

namespace Issues

variable {world middle after : World} {channel next last : Channel} {events more : List Performed}

theorem refl (world : World) (channel : Channel) : Issues world channel [] world channel :=
  ⟨(List.append_nil _).symm, rfl, rfl, .done _ _⟩

theorem trans (first : Issues world channel events middle next)
    (second : Issues middle next more after last) : Issues world channel (events ++ more) after last := by
  refine ⟨?_, second.closed.trans first.closed, second.connection.trans first.connection, ?_⟩
  · rw [second.performed, first.performed, List.append_assoc]
  · have threaded := second.threaded
    rw [first.connection] at threaded
    exact first.threaded.append threaded

end Issues

variable {broker : Broker} {world : World} {channel : Channel} {connection : Connection}

theorem createChannel_ends {returned : Channel → World → Prop} {thrown : Failure → World → Prop}
    (opens : broker.AlwaysOpens) (live : connection ∉ world.closed) :
    (createChannel broker connection).ends returned thrown world ↔
      returned ⟨connection, world.channelCount⟩ world.opened := by
  simp only [createChannel, ends_bind, ends_get, ends_set, if_neg live,
    opens world.performed world.channelCount, if_true, ends_pure]

theorem createChannel_ran (opens : broker.AlwaysOpens) (live : connection ∉ world.closed) :
    createChannel broker connection world = (.ok ⟨connection, world.channelCount⟩, world.opened) := by
  have ends : (createChannel broker connection).ends
      (fun channel after => channel = ⟨connection, world.channelCount⟩ ∧ after = world.opened)
      (fun _ _ => False) world := (createChannel_ends opens live).mpr ⟨rfl, rfl⟩
  rcases ends_cases ends with ⟨channel, after, ran, rfl, rfl⟩ | ⟨_, _, _, impossible⟩
  · exact ran
  · exact impossible.elim

theorem perform_ends {returned : String → World → Prop} {thrown : Failure → World → Prop}
    {operation : BrokerOperation} :
    (perform broker operation channel).ends returned thrown world ↔
      match broker.reply world.performed operation with
      | .ok name => returned name (world.did ⟨channel, operation, .ok name⟩)
      | .failed failure => thrown failure (world.did ⟨channel, operation, .failed failure⟩) := by
  simp only [perform, ends_bind, ends_get, ends_set]
  cases broker.reply world.performed operation <;> rfl

theorem Issues.passed {name : String} {operation : BrokerOperation} :
    Issues world channel [⟨channel, operation, .ok name⟩] (world.did ⟨channel, operation, .ok name⟩)
      channel :=
  ⟨rfl, rfl, rfl, .passed rfl rfl (.done _ _)⟩

theorem Issues.replaced {failure : Failure} {operation : BrokerOperation} :
    Issues world channel [⟨channel, operation, .failed failure⟩]
      (world.did ⟨channel, operation, .failed failure⟩).opened
      ⟨channel.connection, world.channelCount⟩ :=
  ⟨rfl, rfl, rfl, .replaced rfl rfl (.done _ _)⟩

theorem Issues.renamed {events : List Performed} {after : World} {last : Channel} {record : QueueRef}
    {name : String} (issues : Issues world channel events after last) :
    Issues world channel events (after.renamed record name) last :=
  ⟨issues.performed, issues.closed, issues.connection, issues.threaded⟩

theorem reliableWrite_ends (opens : broker.AlwaysOpens) (live : channel.connection ∉ world.closed)
    (operation : BrokerOperation) :
    (reliableWrite broker channel.connection channel fun channel => do
      let _ ← perform broker operation channel).ends
      (fun last after => ∃ event : Performed, event.operation = operation ∧
        event.reply = broker.reply world.performed operation ∧ after.records = world.records ∧
        Issues world channel [event] after last)
      (fun _ _ => False) world := by
  simp only [reliableWrite, ends_tryCatch, ends_bind, perform_ends, ends_pure]
  cases broker.reply world.performed operation with
  | ok name => exact ⟨_, rfl, rfl, rfl, .passed⟩
  | failed failure =>
    refine (createChannel_ends opens ?_).mpr ⟨_, rfl, rfl, rfl, .replaced⟩
    exact live

theorem checkQueue_ends (opens : broker.AlwaysOpens) (live : channel.connection ∉ world.closed)
    (queue : RecordedQueue) :
    (checkQueue broker channel queue).ends
      (fun result after => ∃ check : List Performed,
        check.map Performed.operation =
          (if isChecked queue then [.queueDeclarePassive queue.name] else []) ∧
        (∀ event ∈ check, event.reply = broker.reply world.performed (.queueDeclarePassive queue.name)) ∧
        result.2 = !check.any (fun event => !event.failed) ∧ after.records = world.records ∧
        Issues world channel check after result.1)
      (fun _ after => isChecked queue = true ∧ after.records = world.records ∧
        broker.reply world.performed (.queueDeclarePassive queue.name) = .failed .runtimeException ∧
        after.performed = world.performed ++
          [⟨channel, .queueDeclarePassive queue.name, .failed .runtimeException⟩])
      world := by
  unfold checkQueue
  cases checked : isChecked queue with
  | false => exact ⟨[], rfl, List.forall_mem_nil _, rfl, rfl, .refl _ _⟩
  | true =>
    simp only [if_true, ends_tryCatch, ends_bind, perform_ends, ends_pure]
    cases answer : broker.reply world.performed (.queueDeclarePassive queue.name) with
    | ok name => exact ⟨_, rfl, List.forall_mem_singleton.mpr rfl, rfl, rfl, .passed⟩
    | failed failure =>
      cases failure with
      | runtimeException => exact ⟨trivial, rfl, rfl, rfl⟩
      | notFound | ioException =>
        simp only [Failure.isIOException, if_true, ends_bind, ends_pure]
        refine (createChannel_ends opens ?_).mpr
          ⟨_, rfl, List.forall_mem_singleton.mpr rfl, rfl, rfl, .replaced⟩
        exact live

def redeclaration (queue : RecordedQueue) : BrokerOperation :=
  .queueDeclare (requestedName queue) queue.durable queue.exclusive queue.autoDelete queue.arguments

def bindingTo (queueName : String) (binding : RecordedBinding) : BrokerOperation :=
  .queueBind queueName binding.exchange
    (if binding.routingKeyIsQueue then queueName else binding.routingKey)

def nameAfter (queue : RecordedQueue) : Reply → String
  | .ok generatedName => declaredQueue (requestedName queue) generatedName
  | .failed _ => queue.name

inductive Redeclares (broker : Broker) (queue : RecordedQueue) (earlier check : List Performed) :
    List Performed → String → Prop where
  | around (passed : check.any (fun event => !event.failed) = true) :
      Redeclares broker queue earlier check [] queue.name
  | again (event : Performed) (missing : check.any (fun event => !event.failed) = false)
      (operation : event.operation = redeclaration queue)
      (reply : event.reply = broker.reply (earlier ++ check) (redeclaration queue)) :
      Redeclares broker queue earlier check [event] (nameAfter queue event.reply)

theorem Redeclares.declared {queue : RecordedQueue} {earlier check declaration : List Performed}
    {name : String} (redeclares : Redeclares broker queue earlier check declaration name)
    (missing : check.any (fun event => !event.failed) = false) :
    ∃ event, declaration = [event] ∧ event.operation = redeclaration queue := by
  cases redeclares with
  | around passed => rw [missing] at passed; cases passed
  | again event _ operation _ => exact ⟨event, rfl, operation⟩

theorem redeclareQueue_ends (opens : broker.AlwaysOpens) (live : channel.connection ∉ world.closed)
    {queue : RecordedQueue} {record : QueueRef} (read : world.records record = queue) :
    (reliableWrite broker channel.connection channel (redeclareQueue broker record)).ends
      (fun last after => ∃ event : Performed, event.operation = redeclaration queue ∧
        event.reply = broker.reply world.performed (redeclaration queue) ∧
        after.records =
          Function.update world.records record { queue with name := nameAfter queue event.reply } ∧
        Issues world channel [event] after last)
      (fun _ _ => False) world := by
  simp only [reliableWrite, redeclareQueue, queueDeclare, readRecord, rename, ends_tryCatch, ends_bind,
    ends_get, ends_pure, perform_ends, ends_modify, read]
  subst read
  split <;> rename_i answer
  · exact ⟨_, rfl, answer.symm, rfl, Issues.passed.renamed⟩
  · refine (createChannel_ends opens ?_).mpr ⟨_, rfl, answer.symm, ?_, .replaced⟩
    · exact live
    · exact (Function.update_eq_self record world.records).symm

theorem redeclareIfNeeded_ends (opens : broker.AlwaysOpens) {before : World} {first : Channel}
    {queue : RecordedQueue} {record : QueueRef} {check : List Performed}
    (live : first.connection ∉ before.closed) (issued : Issues before first check world channel)
    (read : world.records record = queue) :
    (redeclareIfNeeded broker first.connection channel record
        (!check.any fun event => !event.failed)).ends
      (fun last after => ∃ declaration name,
        Redeclares broker queue before.performed check declaration name ∧
        after.records = Function.update world.records record { queue with name } ∧
        Issues before first (check ++ declaration) after last)
      (fun _ _ => False) world := by
  cases passed : check.any fun event => !event.failed with
  | true =>
    refine ⟨[], queue.name, .around passed, ?_, by rwa [List.append_nil]⟩
    rw [← read]
    exact (Function.update_eq_self record world.records).symm
  | false =>
    rw [← issued.connection, ← issued.closed] at live
    have writes := redeclareQueue_ends opens live read
    rw [issued.connection] at writes
    refine ends_mono writes ?_ fun _ _ => id
    rintro last after ⟨event, operation, reply, renamed, more⟩
    rw [issued.performed] at reply
    exact ⟨[event], _, .again event passed operation reply, renamed, issued.trans more⟩

theorem deleteFormer_ends (opens : broker.AlwaysOpens) {before : World} {first : Channel}
    {earlier : List Performed} (polling : Bool) (queue : RecordedQueue)
    (live : first.connection ∉ before.closed) (issued : Issues before first earlier world channel) :
    (deleteFormer broker polling first.connection channel queue).ends
      (fun last after => ∃ deletion : List Performed,
        deletion.map Performed.operation =
          (if isFormerDeleted polling queue then [.queueDelete queue.name] else []) ∧
        after.records = world.records ∧ Issues before first (earlier ++ deletion) after last)
      (fun _ _ => False) world := by
  unfold deleteFormer
  cases deleting : isFormerDeleted polling queue with
  | false => exact ⟨[], rfl, rfl, by rwa [List.append_nil]⟩
  | true =>
    rw [← issued.connection, ← issued.closed] at live
    have writes := reliableWrite_ends opens live (.queueDelete queue.name)
    rw [issued.connection] at writes
    refine ends_mono writes ?_ fun _ _ => id
    rintro last after ⟨event, operation, _, sameRecords, more⟩
    exact ⟨[event], by rw [List.map_singleton, operation]; rfl, sameRecords, issued.trans more⟩

structure QueueTurn where
  check : List Performed
  declaration : List Performed
  deletion : List Performed

def QueueTurn.events (turn : QueueTurn) : List Performed := turn.check ++ turn.declaration ++ turn.deletion

structure Recovers (broker : Broker) (polling : Bool) (queue : RecordedQueue) (earlier : List Performed)
    (turn : QueueTurn) (name : String) : Prop where
  checks : turn.check.map Performed.operation =
    if isChecked queue then [.queueDeclarePassive queue.name] else []
  answers : ∀ event ∈ turn.check,
    event.reply = broker.reply earlier (.queueDeclarePassive queue.name)
  redeclares : Redeclares broker queue earlier turn.check turn.declaration name
  deletes : turn.deletion.map Performed.operation =
    if isFormerDeleted polling queue then [.queueDelete queue.name] else []

theorem recoverQueue_ends (opens : broker.AlwaysOpens) (live : channel.connection ∉ world.closed)
    (polling : Bool) {queue : RecordedQueue} {record : QueueRef} (read : world.records record = queue) :
    (recoverQueue broker polling channel record).ends
      (fun last after => ∃ turn name, Recovers broker polling queue world.performed turn name ∧
        after.records = Function.update world.records record { queue with name } ∧
        Issues world channel turn.events after last)
      (fun _ after => isChecked queue = true ∧ after.records = world.records ∧
        broker.reply world.performed (.queueDeclarePassive queue.name) = .failed .runtimeException ∧
        after.performed = world.performed ++
          [⟨channel, .queueDeclarePassive queue.name, .failed .runtimeException⟩])
      world := by
  simp only [recoverQueue, readRecord, ends_bind, ends_get, ends_pure, read]
  refine ends_mono (checkQueue_ends opens live queue) ?_ fun _ _ => id
  rintro ⟨next, _⟩ checked ⟨check, checks, answers, rfl, sameRecords, issued⟩
  have sameRead : checked.records record = queue := by rw [sameRecords, read]
  refine ends_mono (redeclareIfNeeded_ends opens live issued sameRead) ?_ fun _ _ => False.elim
  rintro next declared ⟨declaration, name, redeclares, renamed, issued⟩
  refine ends_mono (deleteFormer_ends opens polling queue live issued) ?_ fun _ _ => False.elim
  rintro last after ⟨deletion, deletes, unchanged, issued⟩
  refine ⟨⟨check, declaration, deletion⟩, name, ⟨checks, answers, redeclares, deletes⟩, ?_, issued⟩
  rw [unchanged, renamed, sameRecords]

end PerfTestProof
