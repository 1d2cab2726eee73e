import PositionLog.Checkpointer.Basic
import PositionLog.Proofs.Shared
import PositionLog.Proofs.Table
import Mathlib.Data.List.DropRight

/-!
# What choices come to

Of the choices that decide the same, the last one counts, and it does not matter when the others
were made.  Defaults are no choices: they come in when a draft is checked, under the names that were
not chosen.
-/

namespace PositionLog

namespace Text

/-- A text without the blank characters at its ends. -/
def trim (s : String) : String := .ofList ((s.toList.dropWhile isSpace).rdropWhile isSpace)

theorem isBlank_iff (s : String) : isBlank s = true ↔ trim s = "" := by
  rw [trim, String.ofList_eq_empty_iff, List.rdropWhile_eq_nil_iff, isBlank, List.all_eq_true]
  constructor
  · intro h c hc
    exact h c ((List.dropWhile_sublist _).subset hc)
  · intro h
    -- What is left at the front would begin with a character that is not blank.
    have hnil : s.toList.dropWhile isSpace = [] := by
      by_contra hne
      exact absurd (h _ (List.head_mem hne)) (by simpa using List.head_dropWhile_not isSpace hne)
    exact List.dropWhile_eq_nil_iff.mp hnil

end Text

namespace Settings

/-! ## Choices -/

namespace Choice

def pollTimeout? : Choice → Option Nat
  | .pollTimeout timeout => some timeout
  | _ => none

def retryCount? : Choice → Option Nat
  | .retryCount count => some count
  | _ => none

def halt? : Choice → Option HaltScope
  | .halt scope => some scope
  | _ => none

def servers? : Choice → Option String
  | .servers addresses => some addresses
  | _ => none

/-- What is chosen for a client under a name. -/
def property? (role : ClientRole) (key : String) : Choice → Option String
  | .producerProperty k value => if role = .producer ∧ key = k then some value else none
  | .consumerProperty k value => if role = .consumer ∧ key = k then some value else none
  | _ => none

/-- What there is to be decided. -/
inductive Subject where
  | pollTimeout
  | retryCount
  | halt
  | servers
  | property (role : ClientRole) (key : String)
deriving DecidableEq

def subject : Choice → Subject
  | .pollTimeout _ => .pollTimeout
  | .retryCount _ => .retryCount
  | .halt _ => .halt
  | .servers _ => .servers
  | .producerProperty key _ => .property .producer key
  | .consumerProperty key _ => .property .consumer key

theorem subject_of_property? {role : ClientRole} {key : String} (c : Choice)
    (h : (c.property? role key).isSome) : c.subject = .property role key := by
  cases c <;> grind [property?, subject]

end Choice

/-- What was chosen last. -/
def last? {α : Type} (chosen? : Choice → Option α) (choices : List Choice) : Option α :=
  (choices.filterMap chosen?).getLast?

section Last

variable {α : Type} (chosen? : Choice → Option α)

@[simp] theorem last?_nil : last? chosen? [] = none := rfl

theorem last?_append_singleton (choices : List Choice) (c : Choice) :
    last? chosen? (choices ++ [c]) = (chosen? c).or (last? chosen? choices) := by
  rw [last?, List.filterMap_append, List.getLast?_append]
  cases h : chosen? c <;> simp [last?, h]

variable {chosen?}

/-- The other choices do not matter. -/
theorem last?_filter {x : Choice.Subject} (h : ∀ c, (chosen? c).isSome → c.subject = x)
    (choices : List Choice) :
    last? chosen? (choices.filter (·.subject = x)) = last? chosen? choices := by
  rw [last?, last?, List.filterMap_filter]
  congr 2
  funext c
  by_cases hc : c.subject = x
  · rw [if_pos (decide_eq_true hc)]
  · rw [if_neg (by simpa using hc)]
    exact (Option.not_isSome_iff_eq_none.mp (mt (h c) hc)).symm

end Last

/-- The same was chosen, in the same order where it decides the same.  So the one list is a
rearrangement of the other. -/
def SameChoices (choices choices' : List Choice) : Prop :=
  ∀ x : Choice.Subject, choices.filter (·.subject = x) = choices'.filter (·.subject = x)

theorem SameChoices.last?_eq {choices choices' : List Choice} (h : SameChoices choices choices')
    {α : Type} {chosen? : Choice → Option α} (x : Choice.Subject)
    (hx : ∀ c, (chosen? c).isSome → c.subject = x) :
    last? chosen? choices = last? chosen? choices' := by
  rw [← last?_filter hx, h x, last?_filter hx]

/-! ## Drafts -/

namespace Draft

/-- The draft holds what was chosen last. -/
structure Follows (d : Draft) (topic : String) (choices : List Choice) : Prop where
  topic : d.topic = topic
  pollTimeout : d.pollTimeout = (last? Choice.pollTimeout? choices).getD 1000000000
  retryCount : d.retryCount = (last? Choice.retryCount? choices).getD 10
  halt : d.halt = (last? Choice.halt? choices).getD .batch
  servers : d.servers = last? Choice.servers? choices
  producer : ∀ k, d.producer.get? k = last? (Choice.property? .producer k) choices
  consumer : ∀ k, d.consumer.get? k = last? (Choice.property? .consumer k) choices
  ascending_producer : d.producer.Ascending
  ascending_consumer : d.consumer.Ascending

/-- One more choice takes the place of those that decided the same. -/
theorem Follows.choose {d : Draft} {topic : String} {choices : List Choice}
    (h : d.Follows topic choices) (c : Choice) : (d.choose c).Follows topic (choices ++ [c]) := by
  obtain ⟨htopic, htimeout, hcount, hhalt, hservers, hproducer, hconsumer, hascp, hascc⟩ := h
  have hinsert {t : Properties} {f : String → Option String} (ht : ∀ k, t.get? k = f k)
      (key value : String) (k : String) :
      (t.insert key value).get? k = (if k = key then some value else none).or (f k) := by
    rw [Table.get?_insert, ht]
    split <;> rfl
  cases c <;> constructor <;>
    simp_all [Draft.choose, last?_append_singleton, Choice.pollTimeout?, Choice.retryCount?,
      Choice.halt?, Choice.servers?, Choice.property?]
  case producerProperty.ascending_producer key value => exact hascp.insert key value
  case consumerProperty.ascending_consumer key value => exact hascc.insert key value

theorem follows_ofChoices (topic : String) (choices : List Choice) :
    (ofChoices topic choices).Follows topic choices := by
  induction choices using List.reverseRecOn with
  | nil =>
    exact ⟨rfl, rfl, rfl, rfl, rfl, fun _ => rfl, fun _ => rfl, Table.ascending_empty,
      Table.ascending_empty⟩
  | append_singleton choices c ih =>
    rw [ofChoices, List.foldl_concat]
    exact ih.choose c

/-- Rearranged choices are followed as well. -/
theorem Follows.rearranged {d : Draft} {topic : String} {choices choices' : List Choice}
    (h : d.Follows topic choices) (hsame : SameChoices choices choices') :
    d.Follows topic choices' where
  topic := h.topic
  pollTimeout := by
    rw [h.pollTimeout, hsame.last?_eq .pollTimeout]
    rintro ⟨⟩ <;> simp [Choice.pollTimeout?, Choice.subject]
  retryCount := by
    rw [h.retryCount, hsame.last?_eq .retryCount]
    rintro ⟨⟩ <;> simp [Choice.retryCount?, Choice.subject]
  halt := by
    rw [h.halt, hsame.last?_eq .halt]
    rintro ⟨⟩ <;> simp [Choice.halt?, Choice.subject]
  servers := by
    rw [h.servers, hsame.last?_eq .servers]
    rintro ⟨⟩ <;> simp [Choice.servers?, Choice.subject]
  producer k := by
    rw [h.producer, hsame.last?_eq (.property .producer k) Choice.subject_of_property?]
  consumer k := by
    rw [h.consumer, hsame.last?_eq (.property .consumer k) Choice.subject_of_property?]
  ascending_producer := h.ascending_producer
  ascending_consumer := h.ascending_consumer

/-- Only one draft holds what was chosen last. -/
theorem Follows.unique {d d' : Draft} {topic : String} {choices : List Choice}
    (h : d.Follows topic choices) (h' : d'.Follows topic choices) : d = d' := by
  have hproducer : d.producer = d'.producer :=
    h.ascending_producer.ext h'.ascending_producer fun k =>
      (h.producer k).trans (h'.producer k).symm
  have hconsumer : d.consumer = d'.consumer :=
    h.ascending_consumer.ext h'.ascending_consumer fun k =>
      (h.consumer k).trans (h'.consumer k).symm
  have htopic := h.topic.trans h'.topic.symm
  have htimeout := h.pollTimeout.trans h'.pollTimeout.symm
  have hcount := h.retryCount.trans h'.retryCount.symm
  have hhalt := h.halt.trans h'.halt.symm
  have hservers := h.servers.trans h'.servers.symm
  cases d
  cases d'
  simp_all

theorem ofChoices_congr (topic : String) {choices choices' : List Choice}
    (h : SameChoices choices choices') : ofChoices topic choices = ofChoices topic choices' :=
  ((follows_ofChoices topic choices).rearranged h).unique (follows_ofChoices topic choices')

/-! ## Checking a draft -/

end Draft

/-- The checks that the choices fail, in the order in which they are made. -/
def failures (topic : String) (choices : List Choice) : List ConfigError :=
  (if Text.trim topic = "" then [.missingTopic] else []) ++
  (if last? Choice.pollTimeout? choices = some 0 then [.zeroPollTimeout] else []) ++
  (if last? Choice.retryCount? choices = some 0 then [.zeroRetryCount] else []) ++
  (if (last? Choice.servers? choices).any (Text.trim · = "") then [.missingServers] else [])

theorem failures_eq_nil {topic : String} {choices : List Choice} :
    failures topic choices = [] ↔ Text.trim topic ≠ "" ∧
      last? Choice.pollTimeout? choices ≠ some 0 ∧ last? Choice.retryCount? choices ≠ some 0 ∧
      ∀ addresses, last? Choice.servers? choices = some addresses → Text.trim addresses ≠ "" := by
  simp [failures, Option.any_eq_false]

namespace Draft

/-- The properties of both clients. -/
def clientProperties (d : Draft) (groupName : String) : Properties × Properties :=
  match d.servers with
  | none => (d.producer, d.consumer)
  | some addresses =>
    ((Properties.ofList [("bootstrap.servers", addresses)]).merge d.producer,
      (Properties.ofList [("bootstrap.servers", addresses), ("group.id", groupName),
        ("enable.auto.commit", "true"), ("auto.offset.reset", "earliest")]).merge d.consumer)

/-- What a draft comes to if it passes all checks. -/
def settled (d : Draft) (groupName : String) : Settings where
  topic := d.topic
  pollTimeout := d.pollTimeout
  retryCount := d.retryCount
  halt := d.halt
  producer := (d.clientProperties groupName).1
  consumer := (d.clientProperties groupName).2

theorem clients_eq (d : Draft) (groupName : String) :
    d.clients groupName = if d.servers.any (Text.trim · = "") then .error .missingServers
      else .ok (d.clientProperties groupName) := by
  rw [clients, clientProperties]
  cases d.servers with
  | none => rfl
  | some addresses =>
    simp only [Properties.producerDefaults, Properties.consumerDefaults, Text.isBlank_iff,
      Option.any_some, decide_eq_true_eq]
    split <;> rfl

/-- Of different names, each is found with its own text. -/
theorem get?_ofList {l : List (String × String)} (h : (l.map (·.1)).Nodup) (k : String) :
    (Properties.ofList l).get? k = List.lookup k l := by
  induction l using List.reverseRecOn with
  | nil => rfl
  | append_singleton l e ih =>
    rw [List.map_append, List.nodup_append] at h
    obtain ⟨hl, -, hnew⟩ := h
    rw [Properties.ofList, List.foldl_concat, Table.get?_insert, List.lookup_append]
    split
    · next hk =>
      have hnone : List.lookup k l = none := by
        rw [List.lookup_eq_none_iff]
        intro f hf
        rw [bne_iff_ne, hk]
        exact (hnew f.1 (List.mem_map_of_mem hf) e.1 (List.mem_singleton_self e.1)).symm
      rw [hnone, hk, Option.none_or, List.lookup_cons_self]
    · next hk =>
      rw [← Properties.ofList, ih hl, List.lookup_cons, beq_false_of_ne hk]
      exact (Option.or_none).symm

theorem ascending_ofList (l : List (String × String)) : (Properties.ofList l).Ascending :=
  Table.ascending_empty.merge ⟨l⟩

/-- A default that is not zero does not make zero. -/
theorem getD_eq_zero_iff {o : Option Nat} {n : Nat} (hn : n ≠ 0) : o.getD n = 0 ↔ o = some 0 := by
  cases o <;> simp [hn]

section Follows

variable {d : Draft} {topic : String} {choices : List Choice} (h : d.Follows topic choices)
include h

/-- What was chosen for a producer wins over the defaults of the servers. -/
theorem Follows.get?_producer (groupName k : String) :
    (d.clientProperties groupName).1.get? k =
      (last? (Choice.property? .producer k) choices).or ((last? Choice.servers? choices).bind
        fun addresses => List.lookup k [("bootstrap.servers", addresses)]) := by
  rw [clientProperties, ← h.servers, ← h.producer]
  cases d.servers with
  | none => exact Option.or_none.symm
  | some addresses =>
    exact (Table.get?_merge _ h.ascending_producer k).trans (by rw [get?_ofList (by simp)]; rfl)

/-- So does what was chosen for a consumer. -/
theorem Follows.get?_consumer (groupName k : String) :
    (d.clientProperties groupName).2.get? k =
      (last? (Choice.property? .consumer k) choices).or ((last? Choice.servers? choices).bind
        fun addresses => List.lookup k
          [("bootstrap.servers", addresses), ("group.id", groupName),
            ("enable.auto.commit", "true"), ("auto.offset.reset", "earliest")]) := by
  rw [clientProperties, ← h.servers, ← h.consumer]
  cases d.servers with
  | none => exact Option.or_none.symm
  | some addresses =>
    exact (Table.get?_merge _ h.ascending_consumer k).trans (by rw [get?_ofList (by simp)]; rfl)

theorem Follows.ascending_clientProperties (groupName : String) :
    (d.clientProperties groupName).2.Ascending := by
  rw [clientProperties]
  cases d.servers with
  | none => exact h.ascending_consumer
  | some addresses => exact (ascending_ofList _).merge _

/-- A draft is refused for the first check that it fails. -/
theorem Follows.check_eq (groupName : String) :
    d.check groupName =
      (failures topic choices).head?.elim (.ok (d.settled groupName)) .error := by
  have htimeout : d.pollTimeout = 0 ↔ last? Choice.pollTimeout? choices = some 0 := by
    rw [h.pollTimeout, getD_eq_zero_iff (by decide)]
  have hcount : d.retryCount = 0 ↔ last? Choice.retryCount? choices = some 0 := by
    rw [h.retryCount, getD_eq_zero_iff (by decide)]
  obtain rfl := h.topic
  simp only [check, clients_eq, Text.isBlank_iff, h.servers, htimeout, hcount, failures]
  repeat' split
  all_goals rfl

/-- What passes all checks has a poll timeout. -/
theorem Follows.pollTimeout_ne_zero (hnone : (failures topic choices).head? = none) :
    d.pollTimeout ≠ 0 := by
  obtain ⟨-, htimeout, -⟩ := failures_eq_nil.mp (List.head?_eq_none_iff.mp hnone)
  rw [h.pollTimeout]
  exact mt (getD_eq_zero_iff (by decide)).mp htimeout

end Follows

/-- The next group name is used, and given out if the consumer joins that group. -/
theorem build_spec (d : Draft) (w : Shared) :
    (d.build w).1 = d.check (w.groupName w.groups) ∧ (d.build w).2.groupName = w.groupName ∧
      (d.build w).2.groups =
        w.groups + if d.servers.isSome && (d.check (w.groupName w.groups)).isOk then 1 else 0 := by
  rw [build, Shared.bind_apply, Shared.get_apply]
  dsimp only
  generalize d.check (w.groupName w.groups) = result
  cases d.servers <;> cases result <;> exact ⟨rfl, rfl, rfl⟩

end Draft

/-- The settings, whatever group the consumer joins. -/
def ungrouped (s : Settings) : Settings := { s with consumer := s.consumer.erase Properties.group }

/-- Another group for the consumer changes nothing else. -/
theorem Draft.Follows.check_ungrouped {d : Draft} {topic : String} {choices : List Choice}
    (h : d.Follows topic choices) (groupName groupName' : String) :
    (d.check groupName).map ungrouped = (d.check groupName').map ungrouped := by
  have hproducer : (d.clientProperties groupName).1 = (d.clientProperties groupName').1 := by
    rw [clientProperties, clientProperties]
    cases d.servers <;> rfl
  have hconsumer : (d.clientProperties groupName).2.erase Properties.group =
      (d.clientProperties groupName').2.erase Properties.group := by
    apply Table.Ascending.ext
    · exact (h.ascending_clientProperties groupName).erase _
    · exact (h.ascending_clientProperties groupName').erase _
    · intro k
      rw [Table.get?_erase, Table.get?_erase]
      split
      · rfl
      · next hk =>
        simp only [h.get?_consumer, List.lookup_cons,
          beq_false_of_ne (show k ≠ "group.id" from hk)]
  have hsettled : (d.settled groupName).ungrouped = (d.settled groupName').ungrouped := by
    simp only [ungrouped, settled, hproducer, hconsumer]
  rw [h.check_eq, h.check_eq]
  cases (failures topic choices).head? with
  | none => exact congrArg Except.ok hsettled
  | some cause => rfl

end Settings

namespace Checkpointer

variable {F P C D : Type}

/-- Of several poll timeouts the last one that is not zero counts. -/
theorem mapM_setPollTimeout (timeouts : List Nat) (s : Checkpointer F P C D) (w : Shared) :
    (timeouts.mapM fun timeout => (setPollTimeout timeout).run : Act (Checkpointer F P C D) _) s w =
      ((timeouts.map fun timeout =>
          if timeout = 0 then .error (.config .zeroPollTimeout) else .ok (),
        { s with settings := { s.settings with
          pollTimeout := ((timeouts.filter (· ≠ 0)).getLast?).getD s.settings.pollTimeout } }),
        w) := by
  induction timeouts generalizing s with
  | nil => rfl
  | cons timeout timeouts ih =>
    rw [List.mapM_cons]
    by_cases hzero : timeout = 0
    · subst hzero
      have hset : (setPollTimeout 0).run s w = ((.error (.config .zeroPollTimeout), s), w) := rfl
      rw [Act.bind_of_eq hset, Act.bind_of_eq (ih s)]
      rfl
    · have hset : (setPollTimeout timeout).run s w =
          ((.ok (), { s with settings := { s.settings with pollTimeout := timeout } }), w) := by
        rw [Try.run_apply, setPollTimeout, Try.bind_of_ok (Try.get_apply s w),
          Settings.withPollTimeout, if_neg hzero]
        rfl
      rw [Act.bind_of_eq hset, Act.bind_of_eq (ih _), List.map_cons, if_neg hzero,
        List.filter_cons_of_pos (by simpa using hzero), List.getLast?_cons]
      rfl

theorem getLast?_filter_ne_zero (timeouts : List Nat) {timeout : Nat} (h : timeout ≠ 0) :
    ((timeouts.filter (· ≠ 0)).getLast?).getD timeout ≠ 0 := by
  cases hlast : (timeouts.filter (· ≠ 0)).getLast? with
  | none => exact h
  | some last => exact of_decide_eq_true (List.mem_filter.mp (List.mem_of_getLast? hlast)).2

end Checkpointer

namespace Settings

/-- A draft is refused for the first check that it fails.  What passes all checks has, for each
thing to be decided, what was chosen last; a client has the defaults of its servers under the names
that were not chosen for it.  So it does not matter in which order different things were chosen, but
for the group that the consumer is given; the next consumer is given the next one.
The poll timeout will never be zero. -/
theorem last_choices_count (topic : String) (choices : List Choice) (groupName : String) :
    let d := Draft.ofChoices topic choices
    let servers := last? Choice.servers? choices
    (∀ w, (d.build w).1 = d.check (w.groupName w.groups) ∧
      (d.build w).2.groupName = w.groupName ∧
      (d.build w).2.groups = w.groups + if servers.isSome && (d.build w).1.isOk then 1 else 0) ∧
    (∀ cause, d.check groupName = .error cause ↔ (failures topic choices).head? = some cause) ∧
    ((∃ s, d.check groupName = .ok s) ↔
      Text.trim topic ≠ "" ∧
        last? Choice.pollTimeout? choices ≠ some 0 ∧ last? Choice.retryCount? choices ≠ some 0 ∧
        ∀ addresses, servers = some addresses → Text.trim addresses ≠ "") ∧
    (∀ s, d.check groupName = .ok s →
      s.topic = topic ∧
      s.pollTimeout = (last? Choice.pollTimeout? choices).getD 1000000000 ∧
      s.retryCount = (last? Choice.retryCount? choices).getD 10 ∧
      s.halt = (last? Choice.halt? choices).getD .batch ∧
      (∀ k, s.producer.get? k = (last? (Choice.property? .producer k) choices).or
        (servers.bind fun addresses => List.lookup k [("bootstrap.servers", addresses)])) ∧
      (∀ k, s.consumer.get? k = (last? (Choice.property? .consumer k) choices).or
        (servers.bind fun addresses => List.lookup k
          [("bootstrap.servers", addresses), ("group.id", groupName),
            ("enable.auto.commit", "true"), ("auto.offset.reset", "earliest")])) ∧
      ∀ {F P C D : Type} (t : Checkpointer F P C D) (timeouts : List Nat) (w : Shared),
        t.settings = s →
        let x := (timeouts.mapM fun timeout => (Checkpointer.setPollTimeout timeout).run :
          Act (Checkpointer F P C D) (List (Except Error Unit))) t w
        x.1.1 = timeouts.map (fun timeout =>
          if timeout = 0 then .error (.config .zeroPollTimeout) else .ok ()) ∧
        x.1.2.settings = { s with
          pollTimeout := ((timeouts.filter (· ≠ 0)).getLast?).getD s.pollTimeout } ∧
        x.1.2.settings.pollTimeout ≠ 0) ∧
    ∀ choices', SameChoices choices choices' →
      (Draft.ofChoices topic choices').check groupName = d.check groupName ∧
      ∀ groupName', ((Draft.ofChoices topic choices').check groupName').map ungrouped =
        (d.check groupName).map ungrouped := by
  intro d servers
  have h : d.Follows topic choices := Draft.follows_ofChoices topic choices
  refine ⟨fun w => ?_, fun cause => ?_, ?_, fun s hs => ?_, fun choices' hsame => ?_⟩
  · have hservers : d.servers = servers := h.servers
    obtain ⟨hbuild, hname, hgroups⟩ := d.build_spec w
    rw [hbuild, ← hservers]
    exact ⟨rfl, hname, hgroups⟩
  · rw [h.check_eq]
    cases (failures topic choices).head? <;> simp
  · rw [← failures_eq_nil, ← List.head?_eq_none_iff, h.check_eq]
    cases (failures topic choices).head? <;> simp
  · rw [h.check_eq] at hs
    cases hnone : (failures topic choices).head? with
    | some cause =>
      rw [hnone] at hs
      cases hs
    | none =>
      rw [hnone] at hs
      obtain rfl : d.settled groupName = s := Except.ok.inj hs
      refine ⟨h.topic, h.pollTimeout, h.retryCount, h.halt, h.get?_producer groupName,
        h.get?_consumer groupName, fun t timeouts w ht => ?_⟩
      have hpos : (d.settled groupName).pollTimeout ≠ 0 := h.pollTimeout_ne_zero hnone
      rw [Checkpointer.mapM_setPollTimeout, ht]
      exact ⟨rfl, rfl, Checkpointer.getLast?_filter_ne_zero timeouts hpos⟩
  · have hd : Draft.ofChoices topic choices' = d := (Draft.ofChoices_congr topic hsame).symm
    rw [hd]
    exact ⟨rfl, fun groupName' => h.check_ungrouped groupName' groupName⟩

/-- Something was chosen before the defaults came in, and something was chosen twice. -/
def overriding : List Choice :=
  [.consumerProperty "auto.offset.reset" "latest", .servers " b ", .retryCount 0, .retryCount 3]

/-- The same was chosen, after the defaults came in. -/
def overridingLate : List Choice :=
  [.servers " b ", .retryCount 0, .consumerProperty "auto.offset.reset" "latest", .retryCount 3]

/-- It makes no difference.  Without the last choice no draft would do. -/
theorem last_choices_count_of_overriding :
    (∃ s, (Draft.ofChoices "t" overriding).check "g" = .ok s ∧
      (Draft.ofChoices "t" overridingLate).check "g" = .ok s ∧
      s.retryCount = 3 ∧ s.producer.get? "bootstrap.servers" = some " b " ∧
      s.consumer.get? "auto.offset.reset" = some "latest" ∧
      s.consumer.get? "group.id" = some "g" ∧
      let t : Checkpointer Unit Unit Unit Unit :=
        { settings := s, factory := (), write := { writer := ⟨"t", 0⟩ } }
      let x := ([5, 0].mapM fun timeout => (Checkpointer.setPollTimeout timeout).run :
        Act (Checkpointer Unit Unit Unit Unit) (List (Except Error Unit))) t {}
      x.1.1 = [.ok (), .error (.config .zeroPollTimeout)] ∧ x.1.2.settings.pollTimeout = 5) ∧
    (Draft.ofChoices "t" [.servers " ", .retryCount 0]).check "g" = .error .zeroRetryCount := by
  obtain ⟨-, -, hok, hsettings, hsame⟩ := last_choices_count "t" overriding "g"
  obtain ⟨-, herror, -⟩ := last_choices_count "t" [.servers " ", .retryCount 0] "g"
  have hrearranged : SameChoices overriding overridingLate := by
    rintro (_ | _ | _ | _ | ⟨role, key⟩)
    case property => simp [overriding, overridingLate, Choice.subject, List.filter_cons]
    all_goals decide
  obtain ⟨s, hs⟩ := hok.mpr (by decide +kernel)
  obtain ⟨-, -, hcount, -, hproducer, hconsumer, htimeouts⟩ := hsettings s hs
  refine ⟨⟨s, hs, ?_, ?_, ?_, ?_, ?_, ?_⟩, ?_⟩
  · rw [(hsame _ hrearranged).1, hs]
  · rw [hcount]
    decide
  · rw [hproducer]
    decide
  · rw [hconsumer]
    decide
  · rw [hconsumer]
    decide
  · intro t x
    obtain ⟨hanswers, hlast, -⟩ := htimeouts t [5, 0] {} rfl
    refine ⟨hanswers, ?_⟩
    rw [hlast]
    rfl
  · rw [herror]
    decide +kernel

end Settings

end PositionLog
