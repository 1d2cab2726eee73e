import PositionLog.Proofs.Checkpointer.Steps
import PositionLog.Proofs.Congruence
import PositionLog.Session.Clients

/-!
# What is seen of scripted clients

Scripted clients let each call on them be seen.  Most steps keep the clients they work with, and
close none; a deserializer is trusted with the write path, and closes none either.
-/

namespace PositionLog

/-- Whether a client is seen to be closed. -/
def Observation.closes : Observation → Bool
  | .called _ .closeProducer | .called _ .closeConsumer => true
  | _ => false

/-- Parties may have joined in between, and no client was closed. -/
structure Shared.Unclosed (w w' : Shared) : Prop where
  parties_le : w.parties ≤ w'.parties
  observed : ∃ during, w'.observations.toList = w.observations.toList ++ during ∧
    ∀ o ∈ during, o.closes = false

namespace Shared.Unclosed

variable {w w' w'' : Shared}

/-- Nothing was seen at all. -/
theorem unseen (h : w.parties ≤ w'.parties) (ho : w'.observations = w.observations) :
    w.Unclosed w' :=
  ⟨h, [], by rw [ho, List.append_nil], nofun⟩

theorem seen {o : Observation} (h : w.parties ≤ w'.parties)
    (ho : w'.observations = w.observations.push o) (hcloses : o.closes = false) :
    w.Unclosed w' := by
  refine ⟨h, [o], by rw [ho, Log.toList_push], fun o' ho' => ?_⟩
  rw [List.mem_singleton.mp ho']
  exact hcloses

theorem refl (w : Shared) : w.Unclosed w := unseen (Nat.le_refl _) rfl

theorem trans (h : w.Unclosed w') (h' : w'.Unclosed w'') : w.Unclosed w'' := by
  obtain ⟨before, hbefore, hcloses⟩ := h.observed
  obtain ⟨after, hafter, hcloses'⟩ := h'.observed
  refine ⟨Nat.le_trans h.parties_le h'.parties_le, before ++ after, ?_, fun o ho => ?_⟩
  · rw [hafter, hbefore, List.append_assoc]
  · rcases List.mem_append.mp ho with ho | ho
    · exact hcloses o ho
    · exact hcloses' o ho

end Shared.Unclosed

/-- A step that keeps what `f` tells of the state, and closes no client. -/
def Calm {S β α : Type} (f : S → β) (x : Act S α) : Prop :=
  ∀ s w, f (x s w).1.2 = f s ∧ w.Unclosed (x s w).2

namespace Calm

variable {S T α β γ : Type} {f : S → β}

theorem closed (f : S → β) : Act.Closed (Calm f) where
  pure _ _ w := ⟨rfl, .refl w⟩
  bind hx hg s w := by
    obtain ⟨hkept, hw⟩ := hx s w
    obtain ⟨hkept', hw'⟩ := hg (_ : _) _ _
    exact ⟨hkept'.trans hkept, hw.trans hw'⟩
  tell _ _ _ := ⟨rfl, .unseen (Nat.le_refl _) rfl⟩

theorem get (f : S → β) : Calm f (MonadState.get : Act S S) := fun _ w => ⟨rfl, .refl w⟩

/-- What is done to what is shared keeps the state. -/
theorem lift {x : StateM Shared α} (h : ∀ w : Shared, w.Unclosed (x w).2) :
    Calm f (liftM x : Act S α) :=
  fun _ w => ⟨rfl, h w⟩

theorem on {part : S → T} {put : T → S → S} {x : Act T α} {g : T → γ} (hx : Calm g x)
    (hput : ∀ s t, g t = g (part s) → f (put t s) = f s) : Calm f (x.on part put) := fun s w =>
  ⟨hput s _ (hx (part s) w).1, (hx (part s) w).2⟩

theorem onSome {x : Act S α} (hx : Calm f x) : Calm (fun s : Option S => s.map f) x.onSome := by
  intro s w
  cases s with
  | none => exact ⟨rfl, .refl w⟩
  | some s => exact ⟨congrArg some (hx s w).1, (hx s w).2⟩

end Calm

namespace Scripted

/-! ## Producers -/

theorem Producer.calm_send (topic : String) (key value : Bytes) (t : Ticket) :
    Calm Producer.party (Producer.send topic key value t).run := by
  rintro ⟨party, _ | ⟨_ | _ | _ | _ | _, sends⟩, closes⟩ w <;>
    exact ⟨rfl, .seen (Nat.le_refl _) rfl rfl⟩

end Scripted

theorem Shared.unclosed_settle (t : Ticket) (report : Report) (w : Shared) :
    w.Unclosed (Shared.settle t report w).2 := by
  cases t with
  | watcher => exact .seen (Nat.le_refl _) rfl rfl
  | writer losses key => cases report <;> exact .unseen (Nat.le_refl _) rfl

open Scripted (Producer Consumer)

theorem LogProducer.calm_transmit (topic : String) (key value : Bytes) (t : Ticket) :
    Calm Producer.party (LogProducer.transmit topic key value t : Request Producer Unit).run := by
  refine (Calm.closed _).try_bind (Producer.calm_send topic key value t) fun receipt => ?_
  cases receipt with
  | settled report => exact Calm.lift (Shared.unclosed_settle t report)
  | outstanding => exact (Calm.closed _).try_pure ()

theorem Writer.calm_append (x : Writer) (key value : Bytes) :
    Calm Producer.party (x.append key value).run := by
  have hsend := LogProducer.calm_transmit x.topic key value (.writer x.losses key)
  refine (Calm.closed _).try_bind ((Calm.closed _).try_lift hsend) fun result => ?_
  match result with
  | .ok () => exact (Calm.closed _).try_pure ()
  | .error .closed => exact (Calm.closed _).try_throw _
  | .error (.unavailable _) | .error (.invalidState _) | .error (.kafka _) =>
    exact (Calm.closed _).try_bind ((Calm.closed _).try_lift ((Calm.closed _).tell _)) fun _ =>
      (Calm.closed _).try_lift (Calm.lift fun w => .unseen (Nat.le_refl _) rfl)

/-- Which producer there is on a write path. -/
def WritePath.party (s : WritePath Producer) : Option Nat := s.producer.map Producer.party

theorem WritePath.unclosed_mirror (s : WritePath Producer) (p : Position) (w : Shared) :
    w.Unclosed (s.mirror p w).2 := by
  rcases s with ⟨_, _, _ | _⟩ <;> exact .unseen (Nat.le_refl _) rfl

theorem WritePath.calm_publish (p : Position) : Calm WritePath.party (WritePath.publish p).run := by
  intro s w
  rw [Try.run_apply]
  cases hs : s.producer with
  | none =>
    rw [publish, Try.bind_of_ok (Try.get_apply s w), hs]
    exact ⟨rfl, .refl w⟩
  | some producer =>
    let w₁ := w.withNotices (w.notices.push (.updating s.writer.topic p.key.length p.value.length))
    have htold : w.Unclosed w₁ := .unseen (Nat.le_refl _) rfl
    obtain ⟨hparty, hw⟩ := s.writer.calm_append p.key p.value producer w₁
    rcases happend : (s.writer.append p.key p.value producer : StateM Shared _) w₁ with
      ⟨⟨result, producer'⟩, w₂⟩
    rw [Try.run_apply, happend] at hparty hw
    have hpath : party { s with producer := some producer' } = party s := by
      rw [party, party, hs]
      exact congrArg some hparty
    rw [publish_of_answer hs happend]
    exact ⟨hpath, (htold.trans hw).trans (s.unclosed_mirror p w₂)⟩

/-! ## Deserializers -/

/-- Which producer there is on the write path of an intake, if there is one. -/
def Intake.party {D : Type} (i : Intake D Producer) : Option (Option Nat) :=
  i.write.map WritePath.party

/-- A deserializer that may publish, but leaves the clients to whoever handed them to it. -/
class Deserializer.Discreet (D : Type) [Deserializer D] : Prop where
  calm (key value : Bytes) :
    Calm Intake.party (Deserializer.deserialize key value : Act (Intake D Producer) Bool)

instance : Deserializer.Discreet Loader where
  calm key value i w := by
    refine ⟨rfl, .unseen ?_ ?_⟩
    · change w.parties ≤ (i.deserializer.load key value w).2.parties
      rw [Loader.load]
      cases Position.ofRecord? key value <;> exact Nat.le_refl _
    · change (i.deserializer.load key value w).2.observations = _
      rw [Loader.load]
      cases Position.ofRecord? key value <;> rfl

namespace Scripted.Deserializer

theorem calm_perform (h : Hook) :
    Calm (Option.map WritePath.party)
      (perform h : Act (Option (WritePath Producer)) HookReply) := by
  cases h with
  | broker c => exact fun _ w => ⟨rfl, .unseen (Nat.le_refl _) rfl⟩
  | publish p =>
    exact (Calm.closed _).bind (Calm.onSome (WritePath.calm_publish p)) fun _ =>
      (Calm.closed _).pure _
  | losses =>
    rintro (_ | s) w <;> exact ⟨rfl, .unseen (Nat.le_refl _) rfl⟩
  | clearLosses =>
    rintro (_ | s) w <;> exact ⟨rfl, .unseen (Nat.le_refl _) rfl⟩

theorem calm_runHook (h : Hook) :
    Calm (Option.map WritePath.party) (runHook h : Act (Option (WritePath Producer)) Unit) :=
  (Calm.closed _).bind (calm_perform h) fun _ => Calm.lift fun _ =>
    .seen (Nat.le_refl _) rfl rfl

end Scripted.Deserializer

instance : Deserializer.Discreet Scripted.Deserializer where
  calm key value i w := by
    have hhooks : Calm Intake.party (Act.on Intake.write
        (fun write (s : Intake Scripted.Deserializer Producer) => { s with write })
        ((i.deserializer.hooksAt (i.deserializer.seen + 1)).forM Scripted.Deserializer.runHook)) :=
      Calm.on ((Calm.closed _).forM Scripted.Deserializer.calm_runHook _) fun _ _ h => h
    obtain ⟨hparty, hw⟩ := hhooks
      { i with deserializer := { i.deserializer with seen := i.deserializer.seen + 1 } }
      { w with observations := w.observations.push (.record key value) }
    have hrecord : w.Unclosed { w with observations := w.observations.push (.record key value) } :=
      .seen (Nat.le_refl _) rfl rfl
    exact ⟨hparty, hrecord.trans hw⟩

instance : Deserializer.Discreet Session.AnyDeserializer where
  calm key value
    | ⟨.loader l, write⟩, w => Deserializer.Discreet.calm key value (⟨l, write⟩ : Intake Loader _) w
    | ⟨.scripted d, write⟩, w =>
      Deserializer.Discreet.calm key value (⟨d, write⟩ : Intake Scripted.Deserializer _) w

/-! ## Consumers -/

namespace Scripted

theorem calm_cursor_endOffset (party : Nat) (as : List Assignment) (p : TopicPartition) :
    Calm id ((cursor party as).endOffset p) := fun _ _ =>
  ⟨rfl, .seen (Nat.le_refl _) rfl rfl⟩

theorem calm_cursor_seek (party : Nat) (as : List Assignment) (p : TopicPartition) (offset : Int) :
    Calm id ((cursor party as).seek p offset) := fun _ _ =>
  ⟨rfl, .seen (Nat.le_refl _) rfl rfl⟩

theorem calm_command (c : CursorCommand) (party : Nat) (as : List Assignment) :
    Calm id (c.run (cursor party as)) := by
  cases c with
  | endOffset p =>
    exact (Calm.closed _).bind (calm_cursor_endOffset party as p) fun _ => Calm.lift fun _ =>
      .seen (Nat.le_refl _) rfl rfl
  | seek p offset =>
    exact (Calm.closed _).bind (calm_cursor_seek party as p offset) fun _ => Calm.lift fun _ =>
      .seen (Nat.le_refl _) rfl rfl

theorem calm_assigned (l : Listener) (party : Nat) (as : List Assignment)
    (ps : List TopicPartition) : Calm id (l.assigned (cursor party as) ps) :=
  (Calm.closed _).assigned (calm_cursor_endOffset party as) (calm_cursor_seek party as)
    (fun c => calm_command c party as)
    (fun _ => Calm.lift fun _ => .seen (Nat.le_refl _) rfl rfl) l ps

namespace Consumer

theorem unclosed_rebalance (c : Consumer) (revoked : Option (List TopicPartition))
    (assigned : Option (List Assignment)) (w : Shared) :
    w.Unclosed (c.rebalance revoked assigned w).2 := by
  rw [rebalance]
  cases c.listener with
  | none => exact .refl w
  | some l =>
    have hrevoked (ps : List TopicPartition) : w.Unclosed (l.revoked ps w).2 := by
      cases l with
      | rewind r => exact .refl w
      | probe commands => exact .seen (Nat.le_refl _) rfl rfl
    cases assigned with
    | none =>
      cases revoked with
      | none => exact .refl w
      | some ps => exact hrevoked ps
    | some as =>
      have hassigned (w : Shared) := (calm_assigned l c.party as (as.map (·.partition)) () w).2
      cases revoked with
      | none => exact hassigned w
      | some ps => exact (hrevoked ps).trans (hassigned _)

theorem calm_subscribe (topic : String) (l : Option Listener) :
    Calm Consumer.party (Consumer.subscribe topic l).run := by
  rintro ⟨party, _ | ⟨_ | _, subscribes⟩, _, _, _, _⟩ w <;>
    exact ⟨rfl, .seen (Nat.le_refl _) rfl rfl⟩

theorem calm_unsubscribe : Calm Consumer.party Consumer.unsubscribe.run := by
  rintro ⟨party, _, _ | ⟨_ | _, unsubscribes⟩, _, _, _⟩ w <;>
    exact ⟨rfl, .seen (Nat.le_refl _) rfl rfl⟩

theorem calm_poll (timeout : Nat) : Calm Consumer.party (Consumer.poll timeout).run := by
  rintro ⟨party, _, _, _ | ⟨_ | ⟨revoked, assigned, records⟩, polls⟩, _, l⟩ w
  · exact ⟨rfl, .seen (Nat.le_refl _) rfl rfl⟩
  · exact ⟨rfl, .seen (Nat.le_refl _) rfl rfl⟩
  · have hcall : w.Unclosed (Shared.call party (.poll timeout) w).2 := .seen (Nat.le_refl _) rfl rfl
    exact ⟨rfl, hcall.trans (unclosed_rebalance _ revoked assigned _)⟩

end Consumer

end Scripted

end PositionLog
