import PositionLog.Session.Basic

/-! # How a session runs -/

namespace PositionLog.Session

variable {α : Type}

def runCache (name : String) : CacheStep → Turn Answer
  | .create capacity => do
    let i ← Shared.newCache capacity
    modify fun s => { s with caches := s.caches.insert name i }
    return .done
  | .add p => do
    let i ← find name ((← get).caches.get? name)
    Shared.modifyCache i (·.add p.stream p.offset)
    return .cache (← Shared.cache i)
  | .get stream => do
    let i ← find name ((← get).caches.get? name)
    return .offset ((← Shared.cache i).get? stream)
  | .clear => do
    let i ← find name ((← get).caches.get? name)
    Shared.modifyCache i RecencyCache.clear
    return .done
  | .dump => do
    let i ← find name ((← get).caches.get? name)
    return .cache (← Shared.cache i)

def runLoader (name : String) : LoaderStep → Turn Answer
  | .create cache stopAt => do
    let i ← find cache ((← get).caches.get? cache)
    let l ← Loader.create i stopAt
    modify fun s => { s with loaders := s.loaders.insert name l }
    return .done
  | .load key value => do
    let l ← find name ((← get).loaders.get? name)
    return .flag (← l.load key value)
  | .seen => do
    let l ← find name ((← get).loaders.get? name)
    return .number (← l.seen)

def runLosses (name : String) : LossStep → Turn Answer
  | .create => do
    modify fun s => { s with queues := s.queues.insert name [] }
    return .done
  | .push l => do
    let losses ← find name ((← get).queues.get? name)
    modify fun s => { s with queues := s.queues.insert name (losses ++ [l]) }
    return .done
  | .clear => do
    modify fun s => { s with queues := s.queues.insert name [] }
    return .done
  | .dump => do
    return .queue (← find name ((← get).queues.get? name))

def runProducer (h : Handle) : ProducerStep → Turn Answer
  | .send topic key value =>
    askProducer h (LogProducer.transmit topic key value .watcher) fun _ => .done
  | .close => askProducer h LogProducer.close fun _ => .done
  | .show => askProducer h get .producer

def runWriter (name : String) : WriterStep → Turn Answer
  | .create topic => do
    let x ← Writer.create topic
    modify fun s => { s with writers := s.writers.insert name x }
    return .done
  | .append producer key value => do
    let x ← find name ((← get).writers.get? name)
    askProducer producer (x.append key value) fun _ => .done
  | .losses => do
    let x ← find name ((← get).writers.get? name)
    return .losses (← x.lost)
  | .clear => do
    let x ← find name ((← get).writers.get? name)
    x.forget
    return .done
  | .topic => do
    let x ← find name ((← get).writers.get? name)
    return .text x.topic

def deserializer : DeserializerSpec → Turn AnyDeserializer
  | .loader name => do return .loader (← find name ((← get).loaders.get? name))
  | .scripted script => return .scripted script

def adapter (x : AdapterSpec) : Turn (Adapter AnyDeserializer) := do
  let cache ← x.cache.mapM fun name => do find name ((← get).caches.get? name)
  let deserializer ← x.deserializer.mapM deserializer
  return { cache, deserializer }

/-- Replays what a consumer finds, waiting as short as can be. -/
def replay (retries : Nat) (halt : HaltScope) (d : AnyDeserializer) :
    Request AnyConsumer Replay.Summary := fun consumer => do
  let (result, playback) ← (Replay.Playback.run 1 retries halt { consumer, deserializer := d } :
    StateM Shared (_ × Replay.Playback AnyConsumer AnyDeserializer AnyProducer))
  return (result, playback.consumer)

/-- Only a consumer of the broker in memory can stall. -/
def AnyConsumer.stall (polls : Nat) : AnyConsumer → AnyConsumer
  | .memory c => .memory (c.stall polls)
  | c => c

def runConsumer (h : Handle) : ConsumerStep → Turn Answer
  | .subscribe topic listener =>
    askConsumer h (LogConsumer.subscribe topic listener) fun _ => .done
  | .unsubscribe => askConsumer h LogConsumer.unsubscribe fun _ => .done
  | .close => askConsumer h LogConsumer.close fun _ => .done
  | .stall polls => askConsumer h (modify (·.stall polls)) fun _ => .done
  | .poll => askConsumer h (LogConsumer.poll 1000000) .records
  | .firstBatch polls => askConsumer h (Replay.firstBatch (LogConsumer.poll 1) polls) .records
  | .replay retries halt into => do
    askConsumer h (replay retries halt (← deserializer into)) .summary
  | .show => askConsumer h get .consumer

def createCheckpointer (name : String) (spec : CheckpointerSpec) : Turn Answer := do
  match ← spec.draft.build with
  | .error e => throw (.config e)
  | .ok settings =>
    let k ← (Checkpointer.create settings (← spec.factory.create) : StateM Shared AnyCheckpointer)
    let a ← match spec.adapter with
      | none => pure {}
      | some a => adapter a
    let s ← get
    let producer := spec.producer.bind s.producers.get?
    let consumer := spec.consumer.bind s.consumers.get?
    let k := ((k.setProducer producer).setConsumer consumer).withAdapter a
    set (putCheckpointer name k { s with
      producers := spec.producer.elim s.producers s.producers.erase
      consumers := spec.consumer.elim s.consumers s.consumers.erase })
    dropCheckpointer (s.checkpointers.get? name)
    return .done

def publishAll : List Position → Operation AnyCheckpointer Unit
  | [] => pure ()
  | p :: ps => do
    Checkpointer.publish p
    publishAll ps

def viewAdapter (k : AnyCheckpointer) : StateM Shared AdapterView := do
  let a := k.adapter
  let capacity ← a.cache.mapM fun i => do return (← Shared.cache i).capacity
  return {
    isCacheable := a.cache.isSome
    isDeserializable := a.deserializer.isSome
    replayDepth := ← k.replayDepth
    text := a.render
    capacity }

/-- A step of a checkpointer that cannot fail. -/
def calmly (x : Act AnyCheckpointer α) : Operation AnyCheckpointer α := liftM x

/-- What a checkpointer does. The deserializer of an adapter to set is at hand. -/
def runOn (a : Adapter AnyDeserializer) : CheckpointerStep → Operation AnyCheckpointer Answer
  | .init => do Checkpointer.init; return .done
  | .start => do Checkpointer.start; return .done
  | .stop => do calmly Checkpointer.stop; return .done
  | .build => return .done
  | .subscribe => do Checkpointer.subscribe; return .done
  | .unsubscribe => do calmly Checkpointer.unsubscribe; return .done
  | .publish p => do Checkpointer.publish p; return .done
  | .publishMany stem first last factor => do
    publishAll ((Broker.range first last).map fun n =>
      ⟨Broker.numberedKey stem n, Int64.ofInt (n * factor)⟩)
    return .done
  | .restore => do return .summary (← Checkpointer.restore)
  | .losses => do return .losses (← (← get).losses)
  | .clearLosses => do (← get).clearLosses; return .done
  | .setPollTimeout timeout => do Checkpointer.setPollTimeout timeout; return .done
  | .setAdapter _ => do modify (·.withAdapter a); return .done
  | .mirror p => do (← get).write.mirror p; return .done
  | .adapter => do return .adapter (← viewAdapter (← get))
  | .settings => do return .settings (← get).settings
  | .clients => do
    let k ← get
    return .clients k.write.producer.isSome k.read.consumer.isSome

def runCheckpointer (name : String) (x : CheckpointerStep) : Turn Answer := do
  let k ← find name ((← get).checkpointers.get? name)
  let a ← match x with
    | .setAdapter spec => adapter spec
    | _ => pure {}
  let (result, k) ← (runOn a x k : StateM Shared (_ × AnyCheckpointer))
  modify (putCheckpointer name k)
  match result with
  | .ok answer => return answer
  | .error e => throw (.checkpointer e)

def runStep : Step → Turn Answer
  | .broker c => do return .broker (← orFault (← Shared.command c))
  | .cache name x => runCache name x
  | .loader name x => runLoader name x
  | .losses name x => runLosses name x
  | .createProducer name spec => do
    let p ← orFault (← spec.create)
    let old := (← get).producers.get? name
    modify (putProducer name (some p))
    dropProducer old
    return .done
  | .dropProducer name => do
    let old := (← get).producers.get? name
    modify fun s => { s with producers := s.producers.erase name }
    dropProducer old
    return .flag old.isSome
  | .producer h x => runProducer h x
  | .writer name x => runWriter name x
  | .deliver index report => do
    let w ← getThe Shared
    match w.pending[index]? with
    | none => throw (.unknown (toString index))
    | some t =>
      set { w with pending := w.pending.eraseIdx index }
      Shared.settle t report
      return .done
  | .createConsumer name spec => do
    let c ← orFault (← spec.create)
    modify (putConsumer name (some c))
    return .done
  | .dropConsumer name => do
    let old := (← get).consumers.get? name
    modify fun s => { s with consumers := s.consumers.erase name }
    return .flag old.isSome
  | .consumer h x => runConsumer h x
  | .createCheckpointer name spec => createCheckpointer name spec
  | .dropCheckpointer name => do
    let old := (← get).checkpointers.get? name
    modify fun s => { s with checkpointers := s.checkpointers.erase name }
    dropCheckpointer old
    return .flag old.isSome
  | .checkpointer name x => runCheckpointer name x

def standing (s : Session) (x : Step) : Option Standing := do
  let k ← s.checkpointers.get? (← x.subject?)
  return ⟨k.isInitialized, k.isRunning, k.isStopped, k.isSubscribed⟩

/-- Does one step, and collects what was seen and told meanwhile. -/
def next (x : Step) : Act Session Outcome := do
  let result ← (runStep x).run
  let w ← getThe Shared
  set { w with observations := {}, notices := {} }
  return ⟨result, w.observations.toList, w.notices.toList, (← get).standing x⟩

/-- Runs a whole session against a new broker. -/
def run (broker : Broker) (steps : List Step) : List Outcome :=
  ((steps.mapM next).run {} |>.run { broker }).1.1

end PositionLog.Session
