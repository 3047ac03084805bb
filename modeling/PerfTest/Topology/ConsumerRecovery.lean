import PerfTest.Topology.BestEffort

namespace PerfTestProof

open Systems Program PerfTestModel TopologyRecording

variable {broker : Broker} {world : World} {channel : Channel} {connection : Connection}

/-- The bindings are made one after the other on one channel, up to one that fails. -/
theorem queueBinds_ends (broker : Broker) (channel : Channel) (queueName : String)
    (bindings : List RecordedBinding) (world : World) :
    (forM bindings fun binding => queueBind broker queueName binding.exchange
      (if binding.routingKeyIsQueue then queueName else binding.routingKey) channel).ends
      (fun _ after => ∃ events : List Performed,
        events.map Performed.operation = bindings.map (bindingTo queueName) ∧
        after.records = world.records ∧ after.closed = world.closed ∧
        after.performed = world.performed ++ events)
      (fun _ after => ∃ events : List Performed,
        events.map Performed.operation <+: bindings.map (bindingTo queueName) ∧
        after.records = world.records ∧ after.closed = world.closed ∧
        after.performed = world.performed ++ events ∧
        ∃ earlier queue exchange routingKey failure,
          broker.reply earlier (.queueBind queue exchange routingKey) = .failed failure)
      world := by
  induction bindings generalizing world with
  | nil => exact ⟨[], rfl, rfl, rfl, (List.append_nil _).symm⟩
  | cons binding bindings ih =>
    simp only [List.forM_cons, queueBind, ends_bind, ends_pure, perform_ends]
    split <;> rename_i reply answer
    · refine ends_mono (ih _) ?_ ?_
      · rintro _ after ⟨events, operations, unchanged, closed, performed⟩
        refine ⟨⟨channel, bindingTo queueName binding, .ok reply⟩ :: events, ?_, unchanged, closed, ?_⟩
        · rw [List.map_cons, operations, List.map_cons]
        · rw [performed, World.did, List.append_assoc, List.singleton_append]; rfl
      · rintro _ after ⟨events, operations, unchanged, closed, performed, refused⟩
        refine ⟨⟨channel, bindingTo queueName binding, .ok reply⟩ :: events, ?_, unchanged, closed, ?_,
          refused⟩
        · exact List.cons_prefix_cons.mpr ⟨rfl, operations⟩
        · rw [performed, World.did, List.append_assoc, List.singleton_append]; rfl
    · refine ⟨[⟨channel, bindingTo queueName binding, .failed reply⟩], ?_, rfl, rfl, rfl, _, _, _, _, _,
        answer⟩
      exact List.cons_prefix_cons.mpr ⟨rfl, List.nil_prefix⟩

theorem recoverNoQueue_ends (recording : TopologyRecording) (opens : broker.AlwaysOpens)
    (live : connection ∉ world.closed) :
    (recording.recoverQueueAndBindings broker connection none).ends
      (fun _ after => after = world.opened) (fun _ _ => False) world := by
  simp only [recoverQueueAndBindings, ends_tryCatch, ends_bind,
    ends_of_return (createChannel_ran opens live), ends_throw, ends_pure]

structure RecoversQueue (broker : Broker) (recording : TopologyRecording) (call : QueueCall)
    (world after : World) (bindings : List Performed) : Prop where
  completes : ∃ last turn name, Completes broker recording.polling call last turn name
  performed : after.performed = world.performed ++ (call.events broker recording.polling ++ bindings)
  records : after.records = (call.after broker recording.polling).records
  closed : after.closed = world.closed
  bound : bindings.map Performed.operation <+:
    (recording.getBindingsFor call.queue.name).map (bindingTo (after.records call.record).name)
  complete : bindings.map Performed.operation =
      (recording.getBindingsFor call.queue.name).map (bindingTo (after.records call.record).name) ∨
    ∃ earlier queue exchange routingKey failure,
      broker.reply earlier (.queueBind queue exchange routingKey) = .failed failure

theorem recoverQueueAndBindings_ends (recording : TopologyRecording) (opens : broker.AlwaysOpens)
    (live : connection ∉ world.closed) (call : QueueCall)
    (called : call = ⟨⟨connection, world.channelCount⟩, call.record, world.opened⟩) :
    (recording.recoverQueueAndBindings broker connection (some call.record)).ends
      (fun _ after => (∃ bindings, RecoversQueue broker recording call world after bindings) ∨
        after.performed = world.performed ++ call.events broker recording.polling ∧
        ∃ earlier queue, broker.reply earlier (.queueDeclarePassive queue) = .failed .runtimeException)
      (fun _ _ => False) world := by
  have alive : call.channel.connection ∉ call.world.closed := by rw [called]; exact live
  have reached : call.world.performed = world.performed := by rw [called]; rfl
  unfold recoverQueueAndBindings
  simp only [ends_tryCatch, ends_bind, ends_of_return (createChannel_ran opens live), readRecord, ends_get,
    ends_pure]
  have recovered : recoverQueue broker recording.polling ⟨connection, world.channelCount⟩ call.record
      world.opened = recoverQueue broker recording.polling call.channel call.record call.world := by
    rw [called]
  rcases queueCall_outcome opens recording.polling call alive with
    ⟨next, turn, name, completes⟩ | ⟨failure, aborts⟩
  · rw [ends_of_return (recovered.trans completes.ran)]
    have issued := completes.issues.performed
    rw [← completes.events, reached] at issued
    have kept : (call.after broker recording.polling).closed = world.closed := by
      rw [completes.issues.closed, called]; rfl
    have oldQueue : world.opened.records call.record = call.queue := by rw [QueueCall.queue, called]
    rw [oldQueue]
    refine ends_mono (queueBinds_ends broker next _ _ _) ?_ ?_
    · rintro _ after ⟨bindings, operations, unchanged, closed, performed⟩
      rw [← unchanged] at operations
      refine .inl ⟨bindings, ⟨next, turn, name, completes⟩, ?_, unchanged, closed.trans kept, ?_,
        .inl operations⟩
      · rw [performed, issued, List.append_assoc]
      · exact ⟨[], (List.append_nil _).trans operations⟩
    · rintro _ after ⟨bindings, operations, unchanged, closed, performed, refused⟩
      rw [← unchanged] at operations
      refine .inl ⟨bindings, ⟨next, turn, name, completes⟩, ?_, unchanged, closed.trans kept, operations,
        .inr refused⟩
      rw [performed, issued, List.append_assoc]
  · rw [ends_of_throw (recovered.trans aborts.ran)]
    exact .inr ⟨by rw [aborts.performed, reached], _, _, aborts.answer⟩

end PerfTestProof
