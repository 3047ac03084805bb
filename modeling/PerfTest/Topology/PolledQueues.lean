import PerfTest.Topology.Deletion
import PerfTest.Topology.ReservedExchanges
import PerfTest.Topology.Restoration
import PerfTest.Topology.SubRecording

namespace PerfTestModel

open Systems

namespace TopologyRecording

mutual

/-- The queues of the recording and of its children. A record is listed as often as it is held. -/
def allQueues : TopologyRecording → List QueueRef
  | ⟨_, _, _, queues, _, children⟩ => queues.values ++ allQueuesOf children

def allQueuesOf : List TopologyRecording → List QueueRef
  | [] => []
  | child :: children => allQueues child ++ allQueuesOf children

end

end TopologyRecording

section

variable (broker : Broker) (interrupted : World → Bool)

/-- The thread is asked whether it was interrupted before each deletion. -/
def deleteAutoDeleteQueues (channel : Channel) : List QueueRef → Call Unit
  | [] => pure ()
  | record :: records => do
    let queue ← readRecord record
    if queue.autoDelete && !queue.exclusive then
      let world ← get
      if interrupted world then pure ()
      else
        let _ ← perform broker (.queueDelete queue.name) channel
        deleteAutoDeleteQueues channel records
    else deleteAutoDeleteQueues channel records

def closeChannel (channel : Channel) : Call Unit := do
  let _ ← perform broker .channelClose channel

def deleteAutoDeleteQueuesIfNecessary (params : MulticastParams) (connection : Connection) : Setting Unit :=
  if params.polling then do
    let channel ← onBroker (createChannel broker connection)
    let setup ← get
    onBroker ((deleteAutoDeleteQueues broker interrupted channel setup.topologyRecording.allQueues).closing
      (closeChannel broker channel))
  else pure ()

end

def autoDeleteAfter (queues : Finset String) (event : Performed) : Finset String :=
  match event.operation, event.reply with
  | .queueDeclare queue _ _ autoDelete _, .ok generatedName =>
    if autoDelete then insert (declaredQueue queue generatedName) queues else queues
  | .queueDelete queue, .ok _ => queues.erase queue
  | _, _ => queues

def autoDeleteQueues (performed : List Performed) : Finset String := performed.foldl autoDeleteAfter ∅

def Broker.NamesAfresh (broker : Broker) (listed : List String) : Prop :=
  ∀ performed durable exclusive autoDelete arguments name,
    broker.reply performed (.queueDeclare "" durable exclusive autoDelete arguments) = .ok name →
    name ∉ listed ∧ ∀ event ∈ performed, event.declaredName ≠ some name

def Performed.writeFailed (event : Performed) : Bool := event.failed && !event.operation.isPassive

end PerfTestModel

namespace PerfTestProof

open Systems Program PerfTestModel TopologyRecording

def touchesQueues : BrokerOperation → Bool
  | .queueDeclare .. | .queueDelete _ => true
  | _ => false

section

variable {events : List Performed} {performed : List Performed} {event : Performed}

theorem autoDeleteQueues_append (first second : List Performed) :
    autoDeleteQueues (first ++ second) = second.foldl autoDeleteAfter (autoDeleteQueues first) :=
  List.foldl_append ..

/-- Queues stay as they are when something else is done, or when nothing is. -/
theorem autoDeleteAfter_idle (idle : event.failed = true ∨ touchesQueues event.operation = false)
    (queues : Finset String) : autoDeleteAfter queues event = queues := by
  unfold autoDeleteAfter
  split
  · rename_i operation reply
    rw [Performed.failed, operation, reply] at idle
    rcases idle with failed | other
    · cases failed
    · cases other
  · rename_i operation reply
    rw [Performed.failed, operation, reply] at idle
    rcases idle with failed | other
    · cases failed
    · cases other
  · rfl

theorem autoDeleteQueues_idle
    (idle : ∀ event ∈ events, event.failed = true ∨ touchesQueues event.operation = false) :
    autoDeleteQueues (performed ++ events) = autoDeleteQueues performed := by
  rw [autoDeleteQueues_append]
  generalize autoDeleteQueues performed = queues
  induction events with
  | nil => rfl
  | cons event events ih =>
    rw [List.forall_mem_cons] at idle
    rw [List.foldl_cons, autoDeleteAfter_idle idle.1]
    exact ih idle.2

theorem autoDeleteAfter_delete {channel : Channel} {queue generatedName : String} (queues : Finset String) :
    autoDeleteAfter queues ⟨channel, .queueDelete queue, .ok generatedName⟩ = queues.erase queue := rfl

end

def heldBy (holds : String → QueueRef → Prop) : Set QueueRef := {record | ∃ name, holds name record}

structure TracksQueues (listed : List String) (holds : String → QueueRef → Prop) (world : World) : Prop where
  named : Named listed (heldBy holds) world
  clientKeys : ∀ key record, holds key record → (world.records record).serverNamed = false →
    (world.records record).name = key
  serverKeys : ∀ key record, holds key record → (world.records record).serverNamed = true →
    key ∉ listed ∧ Known world.performed key
  polled : ∀ record ∈ heldBy holds,
    (world.records record).autoDelete = true ∧ (world.records record).exclusive = false
  counted : ∀ record ∈ heldBy holds, record < world.recordCount
  queues : ∀ name, name ∈ autoDeleteQueues world.performed ↔
    ∃ record ∈ heldBy holds, (world.records record).name = name

section

variable {listed : List String} {holds : String → QueueRef → Prop} {world after : World}
  {events : List Performed} {record : QueueRef} {name : String}

theorem TracksQueues.kept (tracked : TracksQueues listed holds world) (records : after.records = world.records)
    (count : after.recordCount = world.recordCount) (performed : after.performed = world.performed ++ events)
    (same : autoDeleteQueues after.performed = autoDeleteQueues world.performed) :
    TracksQueues listed holds after := by
  refine ⟨tracked.named.later records performed, ?_, ?_, ?_, ?_, ?_⟩
  · rw [records]
    exact tracked.clientKeys
  · rw [records, performed]
    intro key record held kind
    exact (tracked.serverKeys key record held kind).imp id fun known => known.later events
  · rw [records]
    exact tracked.polled
  · rw [count]
    exact tracked.counted
  · rw [records, same]
    exact tracked.queues

/-- A server-named queue was declared again, and the former one deleted. -/
theorem TracksQueues.replaced (tracked : TracksQueues listed holds world) (member : record ∈ heldBy holds)
    (kind : (world.records record).serverNamed = true) (unlisted : name ∉ listed)
    (unknown : ¬ Known world.performed name) (known : Known after.performed name)
    (records : after.records = Function.update world.records record { world.records record with name })
    (count : after.recordCount = world.recordCount) (performed : after.performed = world.performed ++ events)
    (queues : autoDeleteQueues after.performed =
      (insert name (autoDeleteQueues world.performed)).erase (world.records record).name) :
    TracksQueues listed holds after := by
  have here : after.records record = { world.records record with name } := by
    rw [records, Function.update_self]
  have there : ∀ other, other ≠ record → after.records other = world.records other := by
    intro other distinct
    rw [records, Function.update_of_ne distinct]
  have serverNamed : ∀ other, (after.records other).serverNamed = (world.records other).serverNamed := by
    intro other
    by_cases same : other = record
    · rw [same, here]
    · rw [there other same]
  rw [performed] at known
  have renewed : Renewed listed world.performed events (world.records record) name :=
    .new name kind unlisted unknown known
  refine ⟨tracked.named.renewed member renewed records performed, ?_, ?_, ?_, ?_, ?_⟩
  · intro key other held client
    rw [serverNamed] at client
    have distinct : other ≠ record := by
      rintro rfl
      rw [kind] at client
      cases client
    rw [there other distinct]
    exact tracked.clientKeys key other held client
  · intro key other held server
    rw [serverNamed] at server
    rw [performed]
    exact (tracked.serverKeys key other held server).imp id fun earlier => earlier.later events
  · intro other held
    by_cases same : other = record
    · rw [same, here]
      exact tracked.polled record member
    · rw [there other same]
      exact tracked.polled other held
  · rw [count]
    exact tracked.counted
  · intro queue
    have former : Known world.performed (world.records record).name :=
      (tracked.named.server record member kind).2
    rw [queues, Finset.mem_erase, Finset.mem_insert, tracked.queues]
    constructor
    · rintro ⟨distinct, rfl | ⟨other, held, rfl⟩⟩
      · exact ⟨record, member, by rw [here]⟩
      · refine ⟨other, held, ?_⟩
        rw [there other fun same => distinct (by rw [same])]
    · rintro ⟨other, held, rfl⟩
      by_cases same : other = record
      · subst same
        have distinct : name ≠ (world.records other).name := fun clash => unknown (clash ▸ former)
        rw [here]
        exact ⟨distinct, .inl rfl⟩
      · rw [there other same]
        refine ⟨fun clash => ?_, .inr ⟨other, held, rfl⟩⟩
        exact same (tracked.named.apart record member other held kind clash.symm).symm

structure Recordable (listed : List String) (holds : String → QueueRef → Prop) (world after : World)
    (queue : RecordedQueue) (added : Prop) : Prop where
  autoDelete : queue.autoDelete = true
  exclusive : queue.exclusive = false
  client : queue.serverNamed = false →
    queue.name ∈ listed ∧ queue.name ≠ "" ∧ (added ∨ ∃ record, holds queue.name record)
  server : queue.serverNamed = true →
    queue.name ∉ listed ∧ ¬ Known world.performed queue.name ∧ Known after.performed queue.name ∧ added

theorem TracksQueues.unused {queue : RecordedQueue} {added : Prop} (tracked : TracksQueues listed holds world)
    (recordable : Recordable listed holds world after queue added) (member : record ∈ heldBy holds)
    (either : queue.serverNamed = true ∨ (world.records record).serverNamed = true) :
    (world.records record).name ≠ queue.name := by
  intro same
  cases kind : queue.serverNamed with
  | true =>
    obtain ⟨unlisted, unknown, _⟩ := recordable.server kind
    cases recorded : (world.records record).serverNamed with
    | true => exact unknown (same ▸ (tracked.named.server record member recorded).2)
    | false => exact unlisted (same ▸ (tracked.named.client record member recorded).1)
  | false =>
    rw [kind] at either
    have recorded := either.resolve_left Bool.false_ne_true
    exact (tracked.named.server record member recorded).1 (same ▸ (recordable.client kind).1)

/-- The record of a queue that a client named has the name under which it is held. -/
theorem TracksQueues.name_held {queue : RecordedQueue} {added : Prop} (tracked : TracksQueues listed holds world)
    (recordable : Recordable listed holds world after queue added) (kind : queue.serverNamed = false)
    (held : holds queue.name record) : (world.records record).name = queue.name := by
  apply tracked.clientKeys _ _ held
  by_contra server
  exact (tracked.serverKeys _ _ held (Bool.eq_true_of_not_eq_false server)).1 (recordable.client kind).1

structure AddsRecord (holds now : String → QueueRef → Prop) (world after : World) (queue : RecordedQueue)
    (added : Prop) (events : List Performed) : Prop where
  holding : ∀ key record, now key record ↔ holds key record ∨ added ∧ key = queue.name ∧ record = world.recordCount
  records : after.records = Function.update world.records world.recordCount queue
  recordCount : after.recordCount = world.recordCount + 1
  performed : after.performed = world.performed ++ events

namespace AddsRecord

variable {now : String → QueueRef → Prop} {queue : RecordedQueue} {added : Prop}

theorem here (adds : AddsRecord holds now world after queue added events) :
    after.records world.recordCount = queue := by
  rw [adds.records, Function.update_self]

theorem there (adds : AddsRecord holds now world after queue added events) (tracked : TracksQueues listed holds world) :
    ∀ record ∈ heldBy holds, after.records record = world.records record := by
  intro record held
  rw [adds.records, Function.update_of_ne (Nat.ne_of_lt (tracked.counted record held))]

theorem members (adds : AddsRecord holds now world after queue added events) (record : QueueRef) :
    record ∈ heldBy now ↔ record ∈ heldBy holds ∨ added ∧ record = world.recordCount := by
  constructor
  · rintro ⟨key, held⟩
    exact ((adds.holding key record).mp held).imp (fun before => ⟨key, before⟩) fun new => ⟨new.1, new.2.2⟩
  · rintro (⟨key, held⟩ | ⟨new, same⟩)
    · exact ⟨key, (adds.holding key record).mpr (.inl held)⟩
    · exact ⟨queue.name, (adds.holding _ record).mpr (.inr ⟨new, rfl, same⟩)⟩

theorem named (adds : AddsRecord holds now world after queue added events)
    (tracked : TracksQueues listed holds world) (recordable : Recordable listed holds world after queue added) :
    Named listed (heldBy now) after := by
  refine ⟨?_, ?_, ?_⟩
  · intro record held kind
    rcases (adds.members record).mp held with before | ⟨_, rfl⟩
    · rw [adds.there tracked record before] at kind ⊢
      exact tracked.named.client record before kind
    · rw [adds.here] at kind ⊢
      obtain ⟨inList, named, _⟩ := recordable.client kind
      exact ⟨inList, named⟩
  · intro record held kind
    rcases (adds.members record).mp held with before | ⟨_, rfl⟩
    · rw [adds.there tracked record before] at kind ⊢
      rw [adds.performed]
      exact (tracked.named.server record before kind).imp id fun known => known.later events
    · rw [adds.here] at kind ⊢
      obtain ⟨unlisted, _, known, _⟩ := recordable.server kind
      exact ⟨unlisted, known⟩
  · intro record held other otherHeld kind same
    rcases (adds.members record).mp held with before | ⟨_, rfl⟩
    · rw [adds.there tracked record before] at kind same
      rcases (adds.members other).mp otherHeld with otherBefore | ⟨_, rfl⟩
      · rw [adds.there tracked other otherBefore] at same
        exact tracked.named.apart record before other otherBefore kind same
      · rw [adds.here] at same
        exact absurd same (tracked.unused recordable before (.inr kind))
    · rw [adds.here] at kind same
      rcases (adds.members other).mp otherHeld with otherBefore | ⟨_, rfl⟩
      · rw [adds.there tracked other otherBefore] at same
        exact absurd same.symm (tracked.unused recordable otherBefore (.inl kind))
      · rfl

/-- A record that is held has the name of the queue, if not the new one then one that was there. -/
theorem recorded_name (adds : AddsRecord holds now world after queue added events)
    (tracked : TracksQueues listed holds world) (recordable : Recordable listed holds world after queue added) :
    ∃ record ∈ heldBy now, (after.records record).name = queue.name := by
  suffices either : added ∨ ∃ record, holds queue.name record ∧ queue.serverNamed = false from by
    rcases either with new | ⟨record, held, kind⟩
    · exact ⟨world.recordCount, (adds.members _).mpr (.inr ⟨new, rfl⟩), by rw [adds.here]⟩
    · refine ⟨record, (adds.members _).mpr (.inl ⟨_, held⟩), ?_⟩
      rw [adds.there tracked record ⟨_, held⟩, tracked.name_held recordable kind held]
  cases kind : queue.serverNamed with
  | true => exact .inl (recordable.server kind).2.2.2
  | false =>
    obtain ⟨_, _, either⟩ := recordable.client kind
    exact either.imp id fun ⟨record, held⟩ => ⟨record, held, rfl⟩

end AddsRecord

theorem TracksQueues.recorded {queue : RecordedQueue} {added : Prop} {now : String → QueueRef → Prop}
    (tracked : TracksQueues listed holds world) (recordable : Recordable listed holds world after queue added)
    (adds : AddsRecord holds now world after queue added events)
    (queues : autoDeleteQueues after.performed = insert queue.name (autoDeleteQueues world.performed)) :
    TracksQueues listed now after := by
  refine ⟨adds.named tracked recordable, ?_, ?_, ?_, ?_, ?_⟩
  · intro key record held kind
    rcases (adds.holding key record).mp held with before | ⟨_, rfl, rfl⟩
    · rw [adds.there tracked record ⟨key, before⟩] at kind ⊢
      exact tracked.clientKeys key record before kind
    · rw [adds.here]
  · intro key record held kind
    rcases (adds.holding key record).mp held with before | ⟨_, rfl, rfl⟩
    · rw [adds.there tracked record ⟨key, before⟩] at kind
      rw [adds.performed]
      exact (tracked.serverKeys key record before kind).imp id fun known => known.later events
    · rw [adds.here] at kind
      obtain ⟨unlisted, _, known, _⟩ := recordable.server kind
      exact ⟨unlisted, known⟩
  · intro record held
    rcases (adds.members record).mp held with before | ⟨_, rfl⟩
    · rw [adds.there tracked record before]
      exact tracked.polled record before
    · rw [adds.here]
      exact ⟨recordable.autoDelete, recordable.exclusive⟩
  · intro record held
    rw [adds.recordCount]
    rcases (adds.members record).mp held with before | ⟨_, rfl⟩
    · exact Nat.lt_succ_of_lt (tracked.counted record before)
    · exact Nat.lt_succ_self _
  · intro name
    rw [queues, Finset.mem_insert, tracked.queues]
    constructor
    · rintro (rfl | ⟨record, held, rfl⟩)
      · exact adds.recorded_name tracked recordable
      · exact ⟨record, (adds.members _).mpr (.inl held), by rw [adds.there tracked record held]⟩
    · rintro ⟨record, held, rfl⟩
      rcases (adds.members record).mp held with before | ⟨_, rfl⟩
      · exact .inr ⟨record, before, by rw [adds.there tracked record before]⟩
      · exact .inl (by rw [adds.here])

end

structure Idles (world after : World) : Prop where
  records : after.records = world.records
  recordCount : after.recordCount = world.recordCount
  performed : ∃ events, after.performed = world.performed ++ events ∧
    ∀ event ∈ events, event.failed = true ∨ touchesQueues event.operation = false

instance : IsPreorder World Idles where
  refl world := ⟨rfl, rfl, ⟨[], (List.append_nil _).symm, List.forall_mem_nil _⟩⟩
  trans := by
    rintro world middle after ⟨records, count, first, reached, idle⟩ ⟨same, still, second, continued, more⟩
    refine ⟨same.trans records, still.trans count, first ++ second, ?_, fun event member => ?_⟩
    · rw [continued, reached, List.append_assoc]
    · exact (List.mem_append.mp member).elim (idle event) (more event)

abbrev Idling {Value : Type} (call : Call Value) (world : World) : Prop :=
  call.follows Idles (fun _ => True) (fun _ _ => True) world

section

variable {broker : Broker} {world : World} {connection : Connection} {channel : Channel} {Value Other : Type}

theorem idling_pure (value : Value) : Idling (pure value) world := follows_pure trivial

theorem idling_get : Idling (get : Call World) world := ⟨refl_of _ _, trivial⟩

theorem idling_createChannel : Idling (createChannel broker connection) world := by
  have opened : Idles world world.opened := ⟨rfl, rfl, ⟨[], (List.append_nil _).symm, List.forall_mem_nil _⟩⟩
  simp only [Idling, follows, createChannel, ends_bind, ends_get, ends_set, ends_ite, ends_pure, ends_throw]
  split
  · exact ⟨opened, trivial⟩
  · split <;> exact ⟨opened, trivial⟩

theorem idling_perform {operation : BrokerOperation} (idle : touchesQueues operation = false) :
    Idling (perform broker operation channel) world := by
  rw [Idling, follows, perform_ends]
  split <;> exact ⟨⟨rfl, rfl, [_], rfl, List.forall_mem_singleton.mpr (.inr idle)⟩, trivial⟩

theorem idling_performEach {operations : List BrokerOperation}
    (modes : ∀ operation ∈ operations, operation.setsMode = true) :
    Idling (performEach broker operations channel) world := by
  refine follows_forM fun operation member middle _ => ?_
  have idle : touchesQueues operation = false := by
    have mode := modes operation member
    cases operation <;> first | rfl | cases mode
  exact (idling_perform idle).bind fun _ _ => idling_pure _

theorem idling_existsAt {operation : BrokerOperation} (idle : touchesQueues operation = false) :
    Idling (existsAt broker connection operation) world := by
  apply follows.tryCatch
  · exact idling_createChannel.bind fun _ _ => (idling_perform idle).bind fun _ _ => idling_pure _
  · intro failure middle
    split
    · exact idling_pure _
    · exact follows_throw trivial

theorem idling_exchangeExists {exchangeName : String} :
    Idling (exchangeExists broker connection exchangeName) world := by
  unfold exchangeExists
  split
  · exact idling_pure _
  · exact idling_existsAt rfl

theorem idling_exchangeDeclare {exchange type : String} :
    Idling (exchangeDeclare broker exchange type channel) world :=
  (idling_perform rfl).bind fun _ _ => idling_pure _

theorem idling_queueBind {queue exchange routingKey : String} :
    Idling (queueBind broker queue exchange routingKey channel) world :=
  (idling_perform rfl).bind fun _ _ => idling_pure _

theorem Idling.write {operation : Channel → Call Unit} (idle : Idling (operation channel) world) :
    Idling (reliableWrite broker connection channel operation) world :=
  (idle.bind fun _ _ => idling_pure _).tryCatch fun _ _ => idling_createChannel

end

def Recovering (listed : List String) (holds : String → QueueRef → Prop) (world after : World) : Prop :=
  ∃ events, after.performed = world.performed ++ events ∧ ((∀ event ∈ events, event.writeFailed = false) →
    TracksQueues listed holds world → TracksQueues listed holds after)

instance (listed : List String) (holds : String → QueueRef → Prop) : IsPreorder World (Recovering listed holds) where
  refl world := ⟨[], (List.append_nil _).symm, fun _ => id⟩
  trans := by
    rintro world middle after ⟨first, reached, kept⟩ ⟨second, continued, still⟩
    refine ⟨first ++ second, ?_, fun written tracked => ?_⟩
    · rw [continued, reached, List.append_assoc]
    · rw [List.forall_mem_append] at written
      exact still written.2 (kept written.1 tracked)

section

variable {listed : List String} {holds : String → QueueRef → Prop} {world after : World} {broker : Broker}
  {channel : Channel} {record : QueueRef} {connection : Connection} {Value : Type}

theorem Idles.tracked (idles : Idles world after) (tracked : TracksQueues listed holds world) :
    TracksQueues listed holds after := by
  obtain ⟨events, performed, idle⟩ := idles.performed
  apply tracked.kept idles.records idles.recordCount performed
  rw [performed]
  exact autoDeleteQueues_idle idle

theorem Idles.recovering (idles : Idles world after) : Recovering listed holds world after := by
  obtain ⟨events, performed, _⟩ := idles.performed
  exact ⟨events, performed, fun _ => idles.tracked⟩

theorem Idling.recovering {call : Call Value} (idle : Idling call world) :
    call.follows (Recovering listed holds) (fun _ => True) (fun _ _ => True) world :=
  ends_mono idle (fun _ _ => And.imp_left Idles.recovering) fun _ _ => And.imp_left Idles.recovering

/-- A write has failed, so there is nothing to be kept whatever comes next. -/
theorem recovering_of_failure {middle : World} {call : Call Value}
    (performs : Performing broker (fun _ => True) call middle)
    (failed : ∃ events, middle.performed = world.performed ++ events ∧ ∃ event ∈ events, event.writeFailed = true) :
    call.ends (fun _ after => Recovering listed holds world after ∧ True)
      (fun _ after => Recovering listed holds world after ∧ True) middle := by
  obtain ⟨events, reached, event, member, failed⟩ := failed
  have recovering : ∀ after, Performs broker (fun _ => True) middle after → Recovering listed holds world after := by
    rintro after ⟨_, ⟨more, performed, _⟩, _⟩
    refine ⟨events ++ more, by rw [performed, reached, List.append_assoc], fun written => ?_⟩
    have passed := written event (List.mem_append_left _ member)
    rw [failed] at passed
    cases passed
  exact ends_mono performs (fun _ after => And.imp_left (recovering after)) fun _ after =>
    And.imp_left (recovering after)

theorem performing_deleteFormer (queue : RecordedQueue) (polling : Bool) :
    Performing broker (fun _ => True) (deleteFormer broker polling connection channel queue) world := by
  unfold deleteFormer
  split
  · apply Performing.write
    exact (performing_perform fun _ => trivial).bind fun _ _ => performing_pure _
  · exact performing_pure _

section DeleteFormer

variable {generatedName : String} {declaration : Performed}

theorem autoDeleteAfter_redeclared (polled : (world.records record).autoDelete = true)
    (operation : declaration.operation = redeclaration (world.records record))
    (reply : declaration.reply = .ok generatedName) (queues : Finset String) :
    autoDeleteAfter queues declaration =
      insert (declaredQueue (requestedName (world.records record)) generatedName) queues := by
  unfold autoDeleteAfter
  rw [operation, reply, redeclaration, polled]
  rfl

/-- A queue that the client named is declared under its name again, and nothing is deleted. -/
theorem deleteFormer_client (tracked : TracksQueues listed holds world) (member : record ∈ heldBy holds)
    (operation : declaration.operation = redeclaration (world.records record))
    (reply : declaration.reply = .ok generatedName) (kind : (world.records record).serverNamed = false) :
    (deleteFormer broker true connection channel (world.records record)).ends
      (fun _ after => Recovering listed holds world after ∧ True)
      (fun _ after => Recovering listed holds world after ∧ True)
      ((world.did declaration).renamed record
        (declaredQueue (requestedName (world.records record)) generatedName)) := by
  have declared := autoDeleteAfter_redeclared (tracked.polled record member).1 operation reply
  have requested : declaredQueue (requestedName (world.records record)) generatedName =
      (world.records record).name := by
    rw [requestedName, kind, if_neg Bool.false_ne_true, declaredQueue,
      if_neg (tracked.named.client record member kind).2]
  rw [requested] at declared ⊢
  rw [deleteFormer, not_former_of_client kind]
  refine ⟨⟨[declaration], rfl, fun _ _ => ?_⟩, trivial⟩
  have same : ((world.did declaration).renamed record (world.records record).name).records = world.records :=
    Function.update_eq_self record world.records
  apply tracked.kept same rfl rfl
  change autoDeleteQueues (world.performed ++ [declaration]) = _
  rw [autoDeleteQueues_append, List.foldl_cons, List.foldl_nil, declared]
  exact Finset.insert_eq_of_mem ((tracked.queues _).mpr ⟨record, member, rfl⟩)

/-- A queue that the server named has a new name, and the former one is deleted. -/
theorem deleteFormer_served (fresh : broker.NamesAfresh listed) (tracked : TracksQueues listed holds world)
    (member : record ∈ heldBy holds) (operation : declaration.operation = redeclaration (world.records record))
    (answer : broker.reply world.performed (redeclaration (world.records record)) = .ok generatedName)
    (reply : declaration.reply = .ok generatedName) (kind : (world.records record).serverNamed = true) :
    (deleteFormer broker true connection channel (world.records record)).ends
      (fun _ after => Recovering listed holds world after ∧ True)
      (fun _ after => Recovering listed holds world after ∧ True)
      ((world.did declaration).renamed record
        (declaredQueue (requestedName (world.records record)) generatedName)) := by
  obtain ⟨autoDelete, exclusive⟩ := tracked.polled record member
  have declared := autoDeleteAfter_redeclared autoDelete operation reply
  have requested : requestedName (world.records record) = "" := by rw [requestedName, kind, if_pos rfl]
  have made : declaredQueue (requestedName (world.records record)) generatedName = generatedName := by
    rw [requested, declaredQueue, if_pos rfl]
  have former : isFormerDeleted true (world.records record) = true := by
    rw [isFormerDeleted, autoDelete, kind, exclusive]
    rfl
  rw [made] at declared ⊢
  rw [deleteFormer, former, if_pos rfl, reliableWrite, ends_tryCatch, ends_bind, ends_bind, perform_ends]
  have unnamed := answer
  rw [redeclaration, requested] at unnamed
  obtain ⟨unlisted, undeclared⟩ := fresh _ _ _ _ _ _ unnamed
  have declares : declaration.declaredName = some generatedName := by
    rw [Performed.declaredName, operation, reply, redeclaration]
    exact congrArg some made
  have known : Known (world.performed ++ [declaration]) generatedName :=
    ⟨declaration, List.mem_append_right _ (List.mem_singleton_self _), declares⟩
  split
  · rename_i deleted deletion
    refine ⟨⟨[declaration, _], List.append_assoc world.performed [declaration] _, fun _ _ => ?_⟩, trivial⟩
    have unknown : ¬ Known world.performed generatedName := by
      rintro ⟨event, held, same⟩
      exact undeclared event held same
    refine tracked.replaced member kind unlisted unknown (known.later _) ?_ ?_
      (List.append_assoc world.performed [declaration] _) ?_
    · rfl
    · rfl
    change autoDeleteQueues (world.performed ++ [declaration] ++ [_]) = _
    rw [autoDeleteQueues_append, autoDeleteQueues_append, List.foldl_cons, List.foldl_nil, List.foldl_cons,
      List.foldl_nil, declared, autoDeleteAfter_delete]
  · rename_i failure deletion
    apply recovering_of_failure performing_createChannel
    refine ⟨[declaration, _], List.append_assoc world.performed [declaration] _, _,
      List.mem_cons_of_mem _ (List.mem_singleton_self _), rfl⟩

/-- The queue was declared again, and only its former name is still to be dealt with. -/
theorem deleteFormer_recovering (fresh : broker.NamesAfresh listed) (tracked : TracksQueues listed holds world)
    (member : record ∈ heldBy holds) (operation : declaration.operation = redeclaration (world.records record))
    (answer : broker.reply world.performed (redeclaration (world.records record)) = .ok generatedName)
    (reply : declaration.reply = .ok generatedName) :
    (deleteFormer broker true connection channel (world.records record)).ends
      (fun _ after => Recovering listed holds world after ∧ True)
      (fun _ after => Recovering listed holds world after ∧ True)
      ((world.did declaration).renamed record
        (declaredQueue (requestedName (world.records record)) generatedName)) := by
  cases kind : (world.records record).serverNamed with
  | false => exact deleteFormer_client tracked member operation reply kind
  | true => exact deleteFormer_served fresh tracked member operation answer reply kind

end DeleteFormer

theorem recoverQueue_recovering (fresh : broker.NamesAfresh listed) (member : record ∈ heldBy holds) :
    (recoverQueue broker true channel record).follows (Recovering listed holds) (fun _ => True)
      (fun _ _ => True) world := by
  by_cases tracked : TracksQueues listed holds world
  · have unchecked : isChecked (world.records record) = false := by
      rw [isChecked, (tracked.polled record member).1]
      simp
    simp only [follows, recoverQueue, readRecord, ends_bind, ends_get, ends_pure, checkQueue, unchecked,
      redeclareIfNeeded, reliableWrite, redeclareQueue, queueDeclare, rename, ends_tryCatch, ends_modify,
      Bool.false_eq_true, if_false, if_true, perform_ends]
    split
    · rename_i generatedName answer
      exact deleteFormer_recovering fresh tracked member rfl answer rfl
    · rename_i failure answer
      have rest : Performing broker (fun _ => True) (do
          let last ← createChannel broker channel.connection
          deleteFormer broker true channel.connection last (world.records record))
          (world.did ⟨channel, redeclaration (world.records record), .failed failure⟩) :=
        performing_createChannel.bind fun _ _ => performing_deleteFormer _ _
      apply (ends_bind _ _).mp
      apply recovering_of_failure rest
      exact ⟨[⟨channel, redeclaration (world.records record), .failed failure⟩], rfl, _, List.mem_singleton_self _, rfl⟩
  · have performs : Performing broker (fun _ => True) (recoverQueue broker true channel record) world :=
      performing_recoverQueue (fun _ _ => trivial) true record
    have recovering : ∀ after, Performs broker (fun _ => True) world after → Recovering listed holds world after := by
      rintro after ⟨_, ⟨events, performed, _⟩, _⟩
      exact ⟨events, performed, fun _ now => absurd now tracked⟩
    exact ends_mono performs (fun _ after => And.imp_left (recovering after)) fun _ after =>
      And.imp_left (recovering after)

theorem recover_recovering (recording : TopologyRecording) (fresh : broker.NamesAfresh listed)
    (polling : recording.polling = true) (members : ∀ record ∈ recording.queues.values, record ∈ heldBy holds) :
    (recording.recover broker connection).follows (Recovering listed holds) (fun _ => True)
      (fun _ _ => True) world := by
  rw [recover, polling]
  refine follows_tryCatch (follows_bind idling_createChannel.recovering ?_) fun _ _ _ _ => follows_pure trivial
  intro channel _ _ _
  refine follows_bind (follows.foldlM ?_) fun queued _ _ _ => ?_
  · exact fun record held _ _ => recoverQueue_recovering fresh (members record held)
  · refine follows_bind (follows.foldlM ?_) fun declared _ _ _ => ?_
    · exact fun exchange _ _ _ => Idling.recovering (Idling.write idling_exchangeDeclare)
    · refine follows_bind (follows.foldlM ?_) fun _ _ _ _ => follows_pure trivial
      exact fun binding _ _ _ => Idling.recovering (idling_get.bind fun _ _ => Idling.write idling_queueBind)

theorem recoverQueueAndBindings_recovering (recording : TopologyRecording) (fresh : broker.NamesAfresh listed)
    (polling : recording.polling = true) (queueRecord : Option QueueRef)
    (members : ∀ record ∈ queueRecord, record ∈ heldBy holds) :
    (recording.recoverQueueAndBindings broker connection queueRecord).follows (Recovering listed holds)
      (fun _ => True) (fun _ _ => True) world := by
  have read : ∀ (record : QueueRef) (world : World), Idling (readRecord record) world :=
    fun record _ => idling_get.bind fun _ _ => idling_pure _
  rw [recoverQueueAndBindings, polling]
  refine follows_tryCatch (follows_bind idling_createChannel.recovering ?_) fun _ _ _ _ => follows_pure trivial
  intro channel opened _ _
  cases queueRecord with
  | none => exact follows_throw trivial
  | some record =>
    refine follows_bind (read record _).recovering fun oldQueue _ _ _ => ?_
    refine follows_bind (recoverQueue_recovering fresh (members record rfl)) fun _ _ _ _ => ?_
    refine follows_bind (read record _).recovering fun newQueue _ _ _ => follows_forM ?_
    exact fun _ _ _ _ => idling_queueBind.recovering

end

structure Deletes (world : World) (records : List QueueRef) (events : List Performed) (after : World) : Prop where
  performed : after.performed = world.performed ++ events
  operations : events.map Performed.operation <+: records.map fun record => .queueDelete (world.records record).name

section

variable {broker : Broker} {interrupted : World → Bool} {channel : Channel} {world after : World}
  {records : List QueueRef} {record : QueueRef} {events performed : List Performed}

theorem Deletes.cons {event : Performed} (operation : event.operation = .queueDelete (world.records record).name)
    (deletes : Deletes (world.did event) records events after) :
    Deletes world (record :: records) (event :: events) after := by
  apply Deletes.mk
  · rw [deletes.performed, World.did, List.append_assoc, List.singleton_append]
  · rw [List.map_cons, List.map_cons, operation, List.prefix_cons_inj]
    exact deletes.operations

theorem deleteAutoDeleteQueues_ends
    (polled : ∀ record ∈ records, (world.records record).autoDelete = true ∧ (world.records record).exclusive = false) :
    (deleteAutoDeleteQueues broker interrupted channel records).ends
      (fun _ after => ∃ events, Deletes world records events after ∧ (∀ event ∈ events, event.failed = false) ∧
        ((∀ world, interrupted world = false) → events.length = records.length))
      (fun _ after => ∃ events, Deletes world records events after ∧ ∃ event ∈ events, event.failed = true) world := by
  induction records generalizing world with
  | nil =>
    exact ⟨[], ⟨(List.append_nil _).symm, List.prefix_rfl⟩, List.forall_mem_nil _, fun _ => rfl⟩
  | cons record records ih =>
    rw [List.forall_mem_cons] at polled
    have deleted : ((world.records record).autoDelete && !(world.records record).exclusive) = true := by
      rw [polled.1.1, polled.1.2]
      rfl
    simp only [deleteAutoDeleteQueues, readRecord, ends_bind, ends_get, ends_pure, deleted, if_true]
    cases stopped : interrupted world with
    | true =>
      refine ⟨[], ⟨(List.append_nil _).symm, List.nil_prefix⟩, List.forall_mem_nil _, fun never => ?_⟩
      rw [never] at stopped
      cases stopped
    | false =>
      simp only [Bool.false_eq_true, if_false, ends_bind, perform_ends]
      split
      · refine ends_mono (ih ?_) ?_ ?_
        · exact polled.2
        · rintro _ after ⟨events, deletes, passed, all⟩
          refine ⟨_, deletes.cons rfl, List.forall_mem_cons.mpr ⟨rfl, passed⟩, fun never => ?_⟩
          rw [List.length_cons, List.length_cons, all never]
        · rintro _ after ⟨events, deletes, event, member, failed⟩
          exact ⟨_, deletes.cons rfl, event, List.mem_cons_of_mem _ member, failed⟩
      · refine ⟨[_], ⟨rfl, ?_⟩, _, List.mem_singleton_self _, rfl⟩
        exact ⟨_, rfl⟩

theorem closeChannel_ends (broker : Broker) (channel : Channel) (world : World) :
    (closeChannel broker channel).ends
      (fun _ after => ∃ event : Performed, event.operation = .channelClose ∧ after = world.did event)
      (fun _ after => ∃ event : Performed, event.operation = .channelClose ∧ event.failed = true ∧
        after = world.did event) world := by
  rw [closeChannel, ends_bind, perform_ends]
  cases broker.reply world.performed .channelClose with
  | ok name => exact ⟨_, rfl, rfl⟩
  | failed failure => exact ⟨_, rfl, rfl, rfl⟩

/-- Deletions that the broker accepts take the queues away that they name, and no others. -/
theorem autoDeleteQueues_deletes {names : List String} (passed : ∀ event ∈ events, event.failed = false)
    (operations : events.map Performed.operation = names.map .queueDelete) :
    autoDeleteQueues (performed ++ events) = autoDeleteQueues performed \ names.toFinset := by
  rw [autoDeleteQueues_append]
  generalize autoDeleteQueues performed = queues
  induction events generalizing names queues with
  | nil =>
    rw [List.map_nil, eq_comm, List.map_eq_nil_iff] at operations
    rw [operations, List.toFinset_nil, Finset.sdiff_empty]
    rfl
  | cons event events ih =>
    obtain ⟨name, names, rfl, operation, later⟩ := List.map_eq_cons_iff.mp operations.symm
    rw [List.forall_mem_cons] at passed
    have step : autoDeleteAfter queues event = queues.erase name := by
      obtain ⟨channel, performed, reply⟩ := event
      cases operation
      cases reply with
      | ok generatedName => rfl
      | failed failure => cases passed.1
    rw [List.foldl_cons, step, ih passed.2 later.symm, List.toFinset_cons]
    ext other
    simp only [Finset.mem_sdiff, Finset.mem_erase, Finset.mem_insert, not_or]
    tauto

end

end PerfTestProof
