import Mathlib.Data.List.Forall2
import RuleStack.Notification
import RuleStack.Proofs.Outcome
set_option autoImplicit false

namespace RuleStack

namespace Variables

/-- The value belongs to the first variable of this name that has a value. -/
def FirstSet (vars : Variables) (name value : String) : Prop :=
  value ≠ "" ∧ ∃ before after, vars = before ++ (name, value) :: after ∧
    ∀ v ∈ before, v.1 = name → v.2 = ""

theorem named?_eq_some_iff (vars : Variables) (name value : String) :
    vars.named? name = some value ↔ vars.FirstSet name value := by
  simp only [named?, FirstSet, Option.map_eq_some_iff, List.find?_eq_some_iff_append,
    Bool.and_eq_true, beq_iff_eq, Bool.not_eq_true', Bool.and_eq_false_iff, beq_eq_false_iff_ne,
    Bool.not_eq_false', String.isEmpty_iff, String.isEmpty_eq_false_iff]
  constructor
  · rintro ⟨⟨_, _⟩, ⟨⟨rfl, hvalue⟩, before, after, hvars, hbefore⟩, rfl⟩
    exact ⟨hvalue, before, after, hvars, fun v hv => (hbefore v hv).neg_resolve_left⟩
  · rintro ⟨hvalue, before, after, hvars, hbefore⟩
    exact ⟨(name, value), ⟨⟨rfl, hvalue⟩, before, after, hvars, fun v hv =>
      Decidable.not_or_of_imp (hbefore v hv)⟩, rfl⟩

theorem named?_eq_none_iff (vars : Variables) (name : String) :
    vars.named? name = none ↔ ∀ v ∈ vars, v.1 = name → v.2 = "" := by
  simp [named?]

end Variables

namespace Outbox

structure Call where
  vars : Variables
  notification : Notification

namespace Call

def HasTopic (c : Call) : Prop := ∃ v ∈ c.vars, v.1 = Key.alarmTopic ∧ v.2 ≠ ""

instance (c : Call) : Decidable c.HasTopic :=
  inferInstanceAs (Decidable (∃ v ∈ c.vars, v.1 = Key.alarmTopic ∧ v.2 ≠ ""))

structure Sends (c : Call) (r : PublishRequest) : Prop where
  topic : c.vars.FirstSet Key.alarmTopic r.topic
  subject : r.subject = c.notification.subject
  message : r.message = c.notification.summary ++ "\n\n" ++ c.notification.event.pretty

variable {c : Call} {r : PublishRequest}

theorem requestFor_of_sends (h : c.Sends r) : c.notification.requestFor c.vars = .ok r := by
  obtain ⟨topic, subject, message⟩ := r
  obtain ⟨htopic, rfl, rfl⟩ := h
  rw [Notification.requestFor, (Variables.named?_eq_some_iff ..).2 htopic]
  rfl

theorem requestFor_of_not_hasTopic (h : ¬ c.HasTopic) :
    c.notification.requestFor c.vars = .error .noTopic := by
  have hnone : c.vars.named? Key.alarmTopic = none := by
    rw [Variables.named?_eq_none_iff]
    exact fun v hv hname => Decidable.by_contra fun hvalue => h ⟨v, hv, hname, hvalue⟩
  rw [Notification.requestFor, hnone]

theorem exists_sends (h : c.HasTopic) : ∃ r, c.Sends r := by
  cases hnamed : c.vars.named? Key.alarmTopic with
  | none =>
    obtain ⟨v, hv, hname, hvalue⟩ := h
    exact absurd ((Variables.named?_eq_none_iff ..).1 hnamed v hv hname) hvalue
  | some topic =>
    exact ⟨⟨topic, _, _⟩, (Variables.named?_eq_some_iff ..).1 hnamed, rfl, rfl⟩

end Call

variable {c : Call} {r : PublishRequest}

theorem notify_of_sends (o : Outbox) (h : c.Sends r) :
    o.notify c.vars c.notification =
      (⟨o.sent ++ [r]⟩, .ok ("recorded-" ++ toString (o.sent.length + 1))) := by
  rw [notify, Call.requestFor_of_sends h]
  simp only [publish, messageId, List.length_append, List.length_singleton]
  rfl

theorem notify_of_not_hasTopic (o : Outbox) (h : ¬ c.HasTopic) :
    o.notify c.vars c.notification = (o, .error .noTopic) := by
  rw [notify, Call.requestFor_of_not_hasTopic h]

def notifyAll (o : Outbox) : List Call → Outbox × List (Except NotifyError String)
  | [] => (o, [])
  | c :: calls =>
    let first := o.notify c.vars c.notification
    let rest := first.1.notifyAll calls
    (rest.1, first.2 :: rest.2)

theorem notifyAll_append (o : Outbox) (before after : List Call) :
    o.notifyAll (before ++ after) =
      (((o.notifyAll before).1.notifyAll after).1,
        (o.notifyAll before).2 ++ ((o.notifyAll before).1.notifyAll after).2) := by
  induction before generalizing o with
  | nil => rfl
  | cons c calls ih => rw [List.cons_append, notifyAll, ih]; rfl

theorem length_answers (o : Outbox) (calls : List Call) :
    (o.notifyAll calls).2.length = calls.length := by
  induction calls generalizing o with
  | nil => rfl
  | cons c calls ih => rw [notifyAll, List.length_cons, ih, List.length_cons]

/-- A run adds to the record what its calls with a topic have to send. -/
theorem sent_notifyAll (o : Outbox) (calls : List Call) :
    ∃ requests, List.Forall₂ Call.Sends (calls.filter (·.HasTopic)) requests ∧
      (o.notifyAll calls).1.sent = o.sent ++ requests := by
  induction calls generalizing o with
  | nil => exact ⟨[], .nil, (List.append_nil _).symm⟩
  | cons c calls ih =>
    by_cases htopic : c.HasTopic
    · obtain ⟨r, hr⟩ := Call.exists_sends htopic
      obtain ⟨requests, hrequests, hsent⟩ := ih ⟨o.sent ++ [r]⟩
      refine ⟨r :: requests, ?_, ?_⟩
      · rw [List.filter_cons_of_pos (by simpa using htopic)]
        exact .cons hr hrequests
      · rw [notifyAll, notify_of_sends o hr, hsent, List.append_assoc, List.singleton_append]
    · obtain ⟨requests, hrequests, hsent⟩ := ih o
      refine ⟨requests, ?_, ?_⟩
      · rwa [List.filter_cons_of_neg (by simpa using htopic)]
      · rw [notifyAll, notify_of_not_hasTopic o htopic, hsent]

theorem record_notifyAll (calls : List Call) :
    List.Forall₂ Call.Sends (calls.filter (·.HasTopic)) (empty.notifyAll calls).1.sent := by
  obtain ⟨requests, hrequests, hsent⟩ := sent_notifyAll empty calls
  rwa [hsent]

theorem length_record (calls : List Call) :
    (empty.notifyAll calls).1.sent.length = calls.countP (·.HasTopic) := by
  rw [List.countP_eq_length_filter, (record_notifyAll calls).length_eq]

/-- The answer to a call, and the record after it. -/
theorem notifyAll_at (o : Outbox) (before after : List Call) (c : Call) :
    (o.notifyAll (before ++ c :: after)).2[before.length]? =
        some ((o.notifyAll before).1.notify c.vars c.notification).2 ∧
      (o.notifyAll (before ++ [c])).1 =
        ((o.notifyAll before).1.notify c.vars c.notification).1 := by
  refine ⟨?_, by rw [notifyAll_append]; rfl⟩
  rw [notifyAll_append, List.getElem?_append_right (Nat.le_of_eq (length_answers o before)),
    length_answers, Nat.sub_self]
  rfl

/-- Every call is answered. A call succeeds just if its variables give a topic: its answer has the
number that it has among the calls that succeed, and its request is put after the record. A call
that fails leaves the record as it is. So the record holds what the calls that succeed have to send,
in order. -/
theorem notifyAll_outcome (calls : List Call) :
    (empty.notifyAll calls).2.length = calls.length ∧
    List.Forall₂ Call.Sends (calls.filter (·.HasTopic)) (empty.notifyAll calls).1.sent ∧
    ∀ before c after, calls = before ++ c :: after →
      ((∃ id, (empty.notifyAll calls).2[before.length]? = some (.ok id)) ↔ c.HasTopic) ∧
      (c.HasTopic →
        (empty.notifyAll calls).2[before.length]? =
          some (.ok ("recorded-" ++ toString (before.countP (·.HasTopic) + 1))) ∧
        ∃ r, c.Sends r ∧ (empty.notifyAll (before ++ [c])).1.sent =
          (empty.notifyAll before).1.sent ++ [r]) ∧
      (¬ c.HasTopic →
        (empty.notifyAll calls).2[before.length]? = some (.error .noTopic) ∧
        (empty.notifyAll (before ++ [c])).1.sent = (empty.notifyAll before).1.sent) := by
  refine ⟨length_answers _ _, record_notifyAll calls, ?_⟩
  rintro before c after rfl
  obtain ⟨hanswer, hrecord⟩ := notifyAll_at empty before after c
  by_cases htopic : c.HasTopic
  · obtain ⟨r, hr⟩ := Call.exists_sends htopic
    rw [notify_of_sends _ hr] at hanswer hrecord
    rw [length_record] at hanswer
    exact ⟨iff_of_true ⟨_, hanswer⟩ htopic, fun _ => ⟨hanswer, r, hr, by rw [hrecord]⟩,
      fun h => absurd htopic h⟩
  · rw [notify_of_not_hasTopic _ htopic] at hanswer hrecord
    refine ⟨iff_of_false ?_ htopic, fun h => absurd h htopic, fun _ => ⟨hanswer, by rw [hrecord]⟩⟩
    rintro ⟨id, hid⟩
    cases hanswer.symm.trans hid

namespace Runs

def notification : Notification := ⟨"root login", "Root logged in", .null⟩

def refused : Call := ⟨[("HOME", "/root")], notification⟩

def accepted : Call :=
  ⟨[(Key.alarmTopic, ""), (Key.alarmTopic, "arn:alarms"), (Key.alarmTopic, "arn:other")],
    notification⟩

end Runs

theorem notifyAll_outcome_sample :
    (empty.notifyAll [Runs.refused, Runs.accepted]).2[0]? = some (.error .noTopic) ∧
      (empty.notifyAll [Runs.refused, Runs.accepted]).2[1]? = some (.ok "recorded-1") ∧
      ∃ r, Runs.accepted.Sends r ∧
        (empty.notifyAll [Runs.refused, Runs.accepted]).1.sent = [r] := by
  obtain ⟨-, -, hcalls⟩ := notifyAll_outcome [Runs.refused, Runs.accepted]
  have hrefused := hcalls [] Runs.refused [Runs.accepted] rfl
  have haccepted := hcalls [Runs.refused] Runs.accepted [] rfl
  obtain ⟨hanswer, hrecord⟩ := hrefused.2.2 (by decide)
  obtain ⟨hanswer', r, hr, hrecord'⟩ := haccepted.2.1 (by decide)
  refine ⟨hanswer, hanswer', r, hr, ?_⟩
  rw [List.nil_append] at hrecord
  rw [hrecord] at hrecord'
  exact hrecord'

end Outbox
end RuleStack
