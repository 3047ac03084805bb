import PerfTest.Topology.RecoverySteps

namespace PerfTestModel

open Systems TopologyRecording

structure QueueCall where
  channel : Channel
  record : QueueRef
  world : World

namespace QueueCall

def queue (call : QueueCall) : RecordedQueue := call.world.records call.record

def after (broker : Broker) (polling : Bool) (call : QueueCall) : World :=
  (recoverQueue broker polling call.channel call.record call.world).2

def events (broker : Broker) (polling : Bool) (call : QueueCall) : List Performed :=
  (call.after broker polling).performed.drop call.world.performed.length

end QueueCall

def queueCalls (broker : Broker) (polling : Bool) : Channel → List QueueRef → World → List QueueCall
  | _, [], _ => []
  | channel, record :: records, world =>
    ⟨channel, record, world⟩ ::
      match recoverQueue broker polling channel record world with
      | (.ok next, after) => queueCalls broker polling next records after
      | (.error _, _) => []

def TopologyRecording.RecoveryCall.queueCalls (broker : Broker) (recording : TopologyRecording)
    (connection : Connection) (world : World) (call : RecoveryCall) : List QueueCall :=
  match createChannel broker connection world with
  | (.ok channel, opened) =>
    match call with
    | .recover => PerfTestModel.queueCalls broker recording.polling channel recording.queues.values opened
    | .recoverQueueAndBindings (some record) => [⟨channel, record, opened⟩]
    | .recoverQueueAndBindings none => []
  | (.error _, _) => []

end PerfTestModel

namespace PerfTestProof

open Systems Program PerfTestModel TopologyRecording

variable {broker : Broker} {polling : Bool} {world : World} {channel : Channel}

theorem Issues.drop {events : List Performed} {after : World} {last : Channel}
    (issues : Issues world channel events after last) :
    after.performed.drop world.performed.length = events := by
  rw [issues.performed, List.drop_left]

structure Completes (broker : Broker) (polling : Bool) (call : QueueCall) (last : Channel)
    (turn : QueueTurn) (name : String) : Prop where
  ran : recoverQueue broker polling call.channel call.record call.world =
    (.ok last, call.after broker polling)
  recovers : Recovers broker polling call.queue call.world.performed turn name
  records : (call.after broker polling).records =
    Function.update call.world.records call.record { call.queue with name }
  events : call.events broker polling = turn.events
  issues : Issues call.world call.channel turn.events (call.after broker polling) last

structure Aborts (broker : Broker) (polling : Bool) (call : QueueCall) (failure : Failure) : Prop where
  ran : recoverQueue broker polling call.channel call.record call.world =
    (.error failure, call.after broker polling)
  checked : isChecked call.queue = true
  records : (call.after broker polling).records = call.world.records
  answer : broker.reply call.world.performed (.queueDeclarePassive call.queue.name) =
    .failed .runtimeException
  events : call.events broker polling =
    [⟨call.channel, .queueDeclarePassive call.queue.name, .failed .runtimeException⟩]
  performed : (call.after broker polling).performed =
    call.world.performed ++ call.events broker polling

theorem queueCall_outcome (opens : broker.AlwaysOpens) (polling : Bool) (call : QueueCall)
    (live : call.channel.connection ∉ call.world.closed) :
    (∃ last turn name, Completes broker polling call last turn name) ∨
      ∃ failure, Aborts broker polling call failure := by
  have ends := recoverQueue_ends opens live polling (rfl : _ = call.queue)
  rcases ends_cases ends with ⟨last, after, ran, turn, name, recovers, renamed, issues⟩ |
    ⟨failure, after, ran, checked, same, answer, performed⟩
  · have reached : after = call.after broker polling := by rw [QueueCall.after, ran]
    subst reached
    exact .inl ⟨last, turn, name, ran, recovers, renamed, issues.drop, issues⟩
  · have reached : after = call.after broker polling := by rw [QueueCall.after, ran]
    subst reached
    refine .inr ⟨failure, ran, checked, same, answer, ?_, ?_⟩
    · rw [QueueCall.events, performed, List.drop_left]
    · rw [QueueCall.events, performed, List.drop_left]

theorem queueCalls_live (opens : broker.AlwaysOpens) (records : List QueueRef)
    (live : channel.connection ∉ world.closed) :
    ∀ call ∈ queueCalls broker polling channel records world,
      call.channel.connection ∉ call.world.closed := by
  induction records generalizing channel world with
  | nil => exact fun call member => absurd member List.not_mem_nil
  | cons record records ih =>
    intro call member
    rcases queueCall_outcome opens polling ⟨channel, record, world⟩ live with
      ⟨next, turn, name, completes⟩ | ⟨failure, aborts⟩
    · simp only [queueCalls, completes.ran, List.mem_cons] at member
      rcases member with rfl | later
      · exact live
      · refine ih ?_ call later
        rwa [completes.issues.closed, completes.issues.connection]
    · simp only [queueCalls, aborts.ran, List.mem_singleton] at member
      subst member
      exact live

/-- The loop over the records performs what its calls perform, one after the other. It throws only
    when a check fails with an unchecked exception. -/
theorem queueCalls_ends (opens : broker.AlwaysOpens) (polling : Bool) (records : List QueueRef)
    (live : channel.connection ∉ world.closed) :
    (records.foldlM (recoverQueue broker polling) channel).ends
      (fun last after =>
        (queueCalls broker polling channel records world).map QueueCall.record = records ∧
        (∀ call ∈ queueCalls broker polling channel records world,
          ∃ last turn name, Completes broker polling call last turn name) ∧
        Issues world channel
          ((queueCalls broker polling channel records world).flatMap (QueueCall.events broker polling))
          after last)
      (fun _ after => after.performed = world.performed ++
          (queueCalls broker polling channel records world).flatMap (QueueCall.events broker polling) ∧
        ∃ earlier queue, broker.reply earlier (.queueDeclarePassive queue) = .failed .runtimeException)
      world := by
  induction records generalizing channel world with
  | nil => exact ⟨rfl, fun call member => absurd member List.not_mem_nil, .refl _ _⟩
  | cons record records ih =>
    rw [List.foldlM_cons, ends_bind]
    rcases queueCall_outcome opens polling ⟨channel, record, world⟩ live with
      ⟨next, turn, name, completes⟩ | ⟨failure, aborts⟩
    · have issues := completes.issues
      have stillLive : next.connection ∉ (QueueCall.after broker polling ⟨channel, record, world⟩).closed := by
        rwa [issues.closed, issues.connection]
      simp only [queueCalls, ends_of_return completes.ran, completes.ran, List.map_cons,
        List.flatMap_cons, List.forall_mem_cons, completes.events]
      refine ends_mono (ih stillLive) ?_ ?_
      · rintro last after ⟨inOrder, complete, more⟩
        exact ⟨by rw [inOrder], ⟨⟨next, turn, name, completes⟩, complete⟩, issues.trans more⟩
      · rintro _ after ⟨performed, unchecked⟩
        exact ⟨by rw [performed, issues.performed, List.append_assoc], unchecked⟩
    · simp only [queueCalls, ends_of_throw aborts.ran, aborts.ran, List.flatMap_singleton]
      exact ⟨aborts.performed, _, _, aborts.answer⟩

end PerfTestProof
