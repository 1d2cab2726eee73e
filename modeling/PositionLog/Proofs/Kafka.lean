import PositionLog.Kafka.Offline
import PositionLog.Proofs.Shared

/-!
# Kafka clients

A Kafka client answers by itself once it is closed.  All else it leaves to its library, and what it
does is said by what the library does.  Of the library nothing is taken for granted but laws, which
have to be shown of each.
-/

namespace PositionLog

namespace Kafka

variable {L α : Type}

/-! ## Producers -/

namespace Producer

theorem ask_of_eq {x : Try String L α} {p : Producer L} {result : Except String α} {l : L}
    {w w' : Shared} (h : x p.library w = ((result, l), w')) :
    ask x p w = ((result.mapError .kafka, { p with library := l }), w') := by
  have hrun : x.run p.library w = ((result, l), w') := h
  rw [ask, Try.bind_of_ok (Try.liftAct_of_eq (Act.on_of_eq hrun))]
  cases result <;> rfl

section Steps

variable [ProducerLibrary L] {p : Producer L} {topic : String} {key value : Bytes} {t : Ticket}
  {result : Except String Unit} {l : L} {w w' : Shared}

theorem send_of_closed (hclosed : p.closed = true) :
    send topic key value t p w = ((.error .closed, p), w) := by
  rw [send, Try.bind_of_ok (Try.get_apply p w), hclosed]
  rfl

theorem send_of_opened (hopen : p.closed = false)
    (h : (ProducerLibrary.send topic key value t : Try String L Unit) p.library w =
      ((result, l), w')) :
    send topic key value t p w =
      (((result.mapError .kafka).map fun _ => .outstanding, { p with library := l }), w') := by
  rw [send, Try.bind_of_ok (Try.get_apply p w), hopen, if_neg Bool.false_ne_true]
  apply (Try.bind_apply _ _ p w).trans
  rw [ask_of_eq h]
  cases result <;> rw [← hopen] <;> rfl

theorem close_of_closed (hclosed : p.closed = true) : close p w = ((.ok (), p), w) := by
  rw [close, Try.bind_of_ok (Try.get_apply p w), hclosed]
  rfl

/-- It is closed, whether or not the library comes to an end in time. -/
theorem close_of_opened (hopen : p.closed = false)
    (h : (ProducerLibrary.flush p.flushTimeout : Try String L Unit) p.library
      (w.withNotices (w.notices.push (.flushing (p.flushTimeout / 1000000)))) =
        ((result, l), w')) :
    close p w = ((result.mapError .kafka, { p with library := l, closed := true }), w') := by
  rw [close, Try.bind_of_ok (Try.get_apply p w), hopen, if_neg Bool.false_ne_true]
  apply (Try.bind_of_ok (Try.set_apply p _ w)).trans
  apply (Try.bind_of_ok (Try.lift_of_eq (Shared.tell_eq _ w))).trans
  exact ask_of_eq h

end Steps

end Producer

/-! ## Consumers -/

/-- A library that leaves alone what is shared, as long as it is given no partitions and there is
nothing to tell a listener, and that finds no more records than it says. -/
class ConsumerLibrary.Lawful (L : Type) [ConsumerLibrary L] : Prop where
  subscribe (topic : String) (listener : Option Listener) (l : L) (w : Shared) :
    ((ConsumerLibrary.subscribe topic listener : Try String L Unit) l w).2 = w
  unsubscribe (l : L) (w : Shared) : ((ConsumerLibrary.unsubscribe : Act L Unit) l w).2 = w
  poll (timeout : Nat) (l : L) (w : Shared) :
    let x := (ConsumerLibrary.poll timeout : Act L (Option (Except String Record))) l w
    x.2 = w ∧
      ConsumerLibrary.backlog x.1.2 + (if (x.1.1.any (·.isOk)) then 1 else 0) ≤
        ConsumerLibrary.backlog l

namespace Consumer

variable [ConsumerLibrary L] [ConsumerLibrary.Lawful L] {c : Consumer L} (w : Shared)

theorem subscribe_snd (topic : String) (listener : Option Listener) :
    (subscribe topic listener c w).2 = w := by
  rw [subscribe, Try.bind_of_ok (Try.get_apply c w)]
  cases c.closed with
  | true => rfl
  | false =>
    have hlaw := ConsumerLibrary.Lawful.subscribe topic listener c.library w
    rcases h : (ConsumerLibrary.subscribe topic listener : Try String L Unit) c.library w with
      ⟨⟨_ | _, l⟩, w'⟩
    all_goals
      rw [h] at hlaw
      rw [if_neg Bool.false_ne_true]
      apply (congrArg Prod.snd (Try.bind_of_ok (Try.liftAct_of_eq (Act.on_of_eq h)))).trans
      exact hlaw

theorem leave_snd : (ask ConsumerLibrary.unsubscribe c w).2 = w :=
  ConsumerLibrary.Lawful.unsubscribe c.library w

theorem unsubscribe_snd : (unsubscribe c w).2 = w := by
  rw [unsubscribe, Try.bind_of_ok (Try.get_apply c w)]
  cases c.closed with
  | true => rfl
  | false => exact leave_snd w

theorem close_snd : (close c w).2 = w := by
  rw [close, Try.bind_of_ok (Try.get_apply c w)]
  cases c.closed with
  | true => rfl
  | false => exact leave_snd w

/-- Each record that is gathered was still to be found. -/
theorem gather_spec (timeout room : Nat) :
    (gather timeout room c w).2 = w ∧
      ConsumerLibrary.backlog (gather timeout room c w).1.2.library +
        (match (gather timeout room c w).1.1 with
          | .ok rs => rs.length
          | .error _ => 0) ≤ ConsumerLibrary.backlog c.library := by
  induction room generalizing c timeout with
  | zero => exact ⟨rfl, Nat.le_refl _⟩
  | succ room ih =>
    obtain ⟨hw, hle⟩ := ConsumerLibrary.Lawful.poll timeout c.library w
    rcases h : (ConsumerLibrary.poll timeout : Act L (Option (Except String Record))) c.library w
      with ⟨⟨answer, l⟩, w'⟩
    rw [h] at hw hle
    obtain rfl : w' = w := hw
    have hask : (ask (ConsumerLibrary.poll timeout) : Act (Consumer L) _) c w' =
      ((answer, { c with library := l }), w') := Act.on_of_eq h
    rw [gather, Try.bind_of_ok (Try.liftAct_of_eq hask)]
    match answer with
    | none => exact ⟨rfl, hle⟩
    | some (.error text) => exact ⟨rfl, hle⟩
    | some (.ok r) =>
      obtain ⟨hw₁, hle₁⟩ := ih 0 (c := { c with library := l })
      rcases hrest : gather 0 room { c with library := l } w' with ⟨⟨result, c₁⟩, w₁⟩
      rw [hrest] at hw₁ hle₁
      dsimp only
      rw [Try.bind_apply, hrest]
      cases result with
      | error cause => exact ⟨hw₁, by dsimp only at hle hle₁ ⊢; omega⟩
      | ok rs =>
        refine ⟨hw₁, ?_⟩
        change ConsumerLibrary.backlog c₁.library + (rs.length + 1) ≤ _
        have hone : ConsumerLibrary.backlog l + 1 ≤ ConsumerLibrary.backlog c.library := hle
        dsimp only at hle₁
        omega

/-- Each record that is found was still to be found. -/
theorem poll_spec (timeout : Nat) :
    (poll timeout c w).2 = w ∧
      ConsumerLibrary.backlog (poll timeout c w).1.2.library +
        (match (poll timeout c w).1.1 with
          | .ok rs => rs.length
          | .error _ => 0) ≤ ConsumerLibrary.backlog c.library := by
  rw [poll, Try.bind_of_ok (Try.get_apply c w)]
  cases c.closed with
  | true => exact ⟨rfl, Nat.le_refl _⟩
  | false => exact gather_spec w timeout maxPollRecords

end Consumer

end Kafka

/-- Nothing is ever found where no broker is reached. -/
instance : Kafka.ConsumerLibrary.Lawful Offline.Member where
  subscribe topic _ member w := by
    change (Offline.Member.subscribe topic member w).2 = w
    rw [Offline.Member.subscribe, Try.bind_of_ok (Try.get_apply member w)]
    cases member.hasGroup with
    | false => rfl
    | true => cases topic.isEmpty <;> rfl
  unsubscribe _ _ := rfl
  poll _ _ _ := ⟨rfl, Nat.le_refl _⟩

end PositionLog
