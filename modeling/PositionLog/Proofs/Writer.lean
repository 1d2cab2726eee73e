import PositionLog.Proofs.Checkpointer.Steps
import PositionLog.Proofs.Custody
import PositionLog.Proofs.History

/-!
# What a writer loses

A writer learns that a record is lost in two ways.  The producer refuses it, or takes it and a
report tells that it was not delivered.  The report may be there at once, come later from whoever
keeps the ticket of the record, or never come.
-/

namespace PositionLog

/-! ## What is lost -/

/-- What can happen to the records of a writer. -/
inductive Occurrence where
  /-- One was sent under a key.  The producer answered this, and the writer returned that. -/
  | sent (key : Bytes) (answer : Except BrokerError Receipt) (returned : Except BrokerError Unit)
  /-- There was a report on one that was sent under a key. -/
  | reported (key : Bytes) (report : Report)
  /-- The losses were forgotten. -/
  | cleared
deriving DecidableEq

namespace Occurrence

/-- A record is lost if it is refused, unless by a closed producer, or if it is not delivered. -/
def loss? : Occurrence → Option Loss
  | sent _ (.error .closed) _ => none
  | sent key (.error cause) _ => some ⟨key, none, cause⟩
  | reported key (.error failure) => some ⟨key, failure.metadata, failure.error⟩
  | sent _ (.ok _) _ | reported _ (.ok _) | cleared => none

def clears : Occurrence → Bool
  | cleared => true
  | sent .. | reported .. => false

/-- What is noted when a record is sent.  The report may be there at once. -/
def ofSend (key : Bytes) (answer : Except BrokerError Receipt)
    (returned : Except BrokerError Unit) : List Occurrence :=
  sent key answer returned ::
    match answer with
    | .ok (.settled report) => [reported key report]
    | .ok .outstanding | .error _ => []

/-- What was lost since that was last forgotten. -/
def lostSince (hist : List Occurrence) : List Loss := History.left clears loss? hist

end Occurrence

/-- A writer that keeps its losses under a number lost this, and no ticket was handed on. -/
structure Shared.Lost (i : Nat) (ls : List Loss) (w w' : Shared) : Prop where
  toList : i < w.losses.size → (w'.losses.get i).toList = (w.losses.get i).toList ++ ls
  size : w'.losses.size = w.losses.size
  pending : w'.pending = w.pending

namespace Shared

variable {i : Nat} {ls ms : List Loss} {w w' w'' : Shared}

theorem Lost.of_eq (hpending : w'.pending = w.pending) (hlosses : w'.losses = w.losses) :
    Lost i [] w w' where
  toList _ := by rw [hlosses, List.append_nil]
  size := by rw [hlosses]
  pending := hpending

theorem Lost.trans (h : Lost i ls w w') (h' : Lost i ms w' w'') : Lost i (ls ++ ms) w w'' where
  toList hi := by rw [h'.toList (h.size ▸ hi), h.toList hi, List.append_assoc]
  size := h'.size.trans h.size
  pending := h'.pending.trans h.pending

theorem lost_lose (i : Nat) (l : Loss) (w : Shared) : Lost i [l] w (lose i l w).2 where
  toList hi := by
    rw [lose_apply, Pool.toList_get_modify_push w.losses hi, if_pos rfl]
  size := Pool.size_modify ..
  pending := rfl

/-- A report on a record is a loss to its writer if it is a failure. -/
theorem lost_settle (i : Nat) (key : Bytes) (report : Report) (w : Shared) :
    Lost i (Occurrence.reported key report).loss?.toList w
      (settle (.writer i key) report w).2 := by
  cases report with
  | ok place => exact .of_eq rfl rfl
  | error failure =>
    have htold : Lost i [] w (tell (.deliveryFailed failure.error) w).2 := .of_eq rfl rfl
    rw [settle_writer_error]
    exact htold.trans (lost_lose i ⟨key, failure.metadata, failure.error⟩ _)

/-- So it is with several reports, one after the other. -/
theorem lost_settle_forM {xs : List (Ticket × Report)} {keys : List Bytes}
    (h : xs.map Prod.fst = keys.map (.writer i)) (w : Shared) :
    Lost i ((List.zipWith Occurrence.reported keys (xs.map Prod.snd)).filterMap Occurrence.loss?) w
      (xs.forM (fun (t, report) => settle t report) w).2 := by
  induction xs generalizing keys w with
  | nil =>
    cases keys with
    | nil => exact .of_eq rfl rfl
    | cons key keys => exact absurd h nofun
  | cons x xs ih =>
    obtain ⟨t, report⟩ := x
    cases keys with
    | nil => exact absurd h nofun
    | cons key keys =>
      obtain ⟨rfl, hrest⟩ := List.cons.inj h
      have hfirst := lost_settle i key report w
      have hall := hfirst.trans (ih hrest (settle (.writer i key) report w).2)
      rw [List.map_cons, List.zipWith_cons_cons, ← List.singleton_append, List.filterMap_append]
      exact hall

end Shared

/-- A writer passes on that the producer is closed.  Whatever else goes wrong is a loss. -/
theorem Writer.append_of_send {P : Type} [LogProducer P] {x : Writer} {key value : Bytes}
    {producer producer' : P} {w w₁ : Shared} {answer : Except BrokerError Receipt}
    (hsend : (LogProducer.send x.topic key value (.writer x.losses key) : Request P Receipt)
      producer w = ((answer, producer'), w₁)) :
    ∃ w', (x.append key value : Request P Unit) producer w = ((returned answer, producer'), w') ∧
      Shared.Lost x.losses
        ((Occurrence.ofSend key answer (returned answer)).filterMap Occurrence.loss?) w₁ w' := by
  refine ⟨_, append_of_answer hsend, ?_⟩
  have hrefused (cause : BrokerError) : Shared.Lost x.losses [⟨key, none, cause⟩] w₁
      (Shared.lose x.losses ⟨key, none, cause⟩ (Shared.tell (.sendRefused x.topic cause) w₁).2).2 :=
    have htold : Shared.Lost x.losses [] w₁ (Shared.tell (.sendRefused x.topic cause) w₁).2 :=
      .of_eq rfl rfl
    htold.trans (Shared.lost_lose x.losses ⟨key, none, cause⟩ _)
  match answer with
  | .ok .outstanding | .error .closed => exact .of_eq rfl rfl
  | .ok (.settled report) =>
    have hsettled := Shared.lost_settle x.losses key report w₁
    cases report with
    | ok place => exact hsettled
    | error failure => exact hsettled
  | .error (.unavailable _) | .error (.invalidState _) | .error (.kafka _) => exact hrefused _

end PositionLog
