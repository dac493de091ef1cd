import DnsView.View.Session
import DnsView.Proofs.Digest.Streams
import DnsView.Proofs.View.Fingerprints
import Mathlib.Data.List.Induction
import Mathlib.Data.List.Forall2

/-!
# Sessions over whole runs

Sessions are followed through whole runs of operations, one run at a time and two runs side by side.
-/

/-!
## Baselines over whole runs

A session is worked on by any sequence of operations: parts of its view are assigned, views of other
sessions are taken over, and it is asked for its fingerprint, for modifications and for the message
that it stands for.  Through all of this the baseline is the fingerprint of the view at the time
when it was last taken, and nothing if it never was.
-/

namespace DnsView

/-!
### Operations

Each operation leads from a session to a session and an answer.  An assignment may change any parts
of the view; the session whose view is taken over may have a baseline of its own.
-/

inductive Operation where
  | assign (change : View → View)
  | apply (edited : Session)
  | updateBaseline
  | fingerprint
  | isModified
  | toMessage

inductive Answer where
  | done
  | fingerprint (f : Fingerprint)
  | modified (b : Bool)
  | message (m : Message) (report : Report)

namespace Session

def baselineText (s : Session) : String :=
  s.baseline.elim "" Fingerprint.text

def perform (s : Session) : Operation → Logged (Session × Answer)
  | .assign change => return ({ s with view := change s.view }, .done)
  | .apply edited => return (s.apply edited, .done)
  | .updateBaseline => do
      let s ← s.updateBaseline
      return (s, .done)
  | .fingerprint => return (s, .fingerprint s.view.fingerprint)
  | .isModified => return (s, .modified s.isModified)
  | .toMessage => do
      let (m, report) ← s.toMessage
      return (s, .message m report)

/-- The session after a sequence of operations, and the answers in their order. -/
def run (s : Session) : List Operation → Logged (Session × List Answer)
  | [] => return (s, [])
  | op :: ops => do
      let (next, answer) ← s.perform op
      let (last, answers) ← next.run ops
      return (last, answer :: answers)

def after (s : Session) (ops : List Operation) : Session :=
  (s.run ops).result.1

theorem after_nil (s : Session) : s.after [] = s :=
  rfl

theorem after_cons (s : Session) (op : Operation) (ops : List Operation) :
    s.after (op :: ops) = (s.perform op).result.1.after ops :=
  rfl

theorem after_append (s : Session) (ops ops' : List Operation) :
    s.after (ops ++ ops') = (s.after ops).after ops' := by
  induction ops generalizing s with
  | nil =>
      rfl
  | cons op ops ih =>
      exact ih (s.perform op).result.1

/-!
### One operation
-/

theorem baseline_perform {op : Operation} (hop : op ≠ .updateBaseline) (s : Session) :
    (s.perform op).result.1.baseline = s.baseline := by
  cases op with
  | updateBaseline =>
      exact absurd rfl hop
  | _ =>
      rfl

theorem perform_updateBaseline (s : Session) :
    (s.perform .updateBaseline).result.1 = ⟨s.view, some s.view.fingerprint⟩ :=
  rfl

theorem perform_apply (s edited : Session) :
    (s.perform (.apply edited)).result.1 = ⟨edited.view, s.baseline⟩ :=
  rfl

theorem answer_isModified (s : Session) :
    (s.perform .isModified).result.2 = .modified s.isModified :=
  rfl

theorem isModified_iff (s : Session) :
    s.isModified = true ↔ s.view.fingerprint.text ≠ s.baselineText := by
  rw [isModified, decide_eq_true_eq, baselineText]
  cases hbaseline : s.baseline with
  | none =>
      simp [Fingerprint.text_ne_empty]
  | some f =>
      have hsame : f = s.view.fingerprint ↔ s.view.fingerprint.text = f.text :=
        ⟨fun h => by rw [h], fun h => (Fingerprint.text_injective h).symm⟩
      simp [hsame]

/-!
### Runs
-/

/--
The sessions that runs begin with, and the view that the baseline of each was taken of.  The view of
a message is its own baseline; a view that is blank or comes from a document has none.
-/
inductive Begins : Session → Option View → Prop where
  | message (m : Message) (client : String) (lookup : Lookup) :
      Begins (ofMessage m client lookup).result.1 (some (View.ofMessage m client lookup).1)
  | blank : Begins (ofView default) none
  | document {text : String} {v : View} (h : View.ofString text = .ok v) : Begins (ofView v) none

/--
The view that the baseline was last taken of in a run: the view at the last update, or without
updates the one that the session began with.
-/
inductive LastTaken (s : Session) (first : Option View) : List Operation → Option View → Prop where
  | never {ops : List Operation} (h : .updateBaseline ∉ ops) : LastTaken s first ops first
  | taken {earlier later : List Operation} (h : .updateBaseline ∉ later) :
      LastTaken s first (earlier ++ .updateBaseline :: later) (some (s.after earlier).view)

/-- What holds of a session whose baseline was last taken of a view, or was never taken. -/
structure Tracked (s : Session) (taken : Option View) : Prop where
  baseline : s.baselineText = taken.elim "" fun v => v.fingerprint.text
  modified : ∀ b, (s.perform .isModified).result.2 = .modified b →
    (b = true ↔ s.view.fingerprint.text ≠ s.baselineText)
  onlyUpdate : ∀ op, (s.perform op).result.1.baselineText ≠ s.baselineText → op = .updateBaseline
  /-- All that a script sees is taken over, and the baseline of the other session is not. -/
  applied : ∀ edited, (s.perform (.apply edited)).result.1 = ⟨edited.view, s.baseline⟩
  updated : (s.perform .updateBaseline).result.1.view = s.view ∧
    (s.perform .updateBaseline).result.1.baselineText = s.view.fingerprint.text ∧
    (s.perform .updateBaseline).result.1.isModified = false
  /-- A session that is back at the view of its baseline is not modified. -/
  reverted : taken = some s.view → s.isModified = false
  untaken : taken = none → s.isModified = true
  text : s.view.fingerprint.text.length = 64 ∧
    ∀ c ∈ s.view.fingerprint.text.toList, c ∈ Text.smallHexDigits

theorem Begins.baseline {s : Session} {first : Option View} (h : Begins s first) :
    s.baseline = first.map View.fingerprint := by
  cases h with
  | message m client lookup =>
      rfl
  | blank =>
      rfl
  | document h =>
      rfl

theorem baseline_after {ops : List Operation} (h : .updateBaseline ∉ ops) (s : Session) :
    (s.after ops).baseline = s.baseline := by
  induction ops generalizing s with
  | nil =>
      rfl
  | cons op ops ih =>
      rw [List.mem_cons, not_or] at h
      rw [after_cons, ih h.right, baseline_perform (Ne.symm h.left)]

theorem exists_lastTaken (s : Session) (first : Option View) (ops : List Operation) :
    ∃ taken, LastTaken s first ops taken := by
  -- From the end: if the last operation is an update, nothing before it matters.
  induction ops using List.reverseRecOn with
  | nil =>
      exact ⟨first, .never List.not_mem_nil⟩
  | append_singleton ops op ih =>
      by_cases hop : op = .updateBaseline
      · subst hop
        exact ⟨_, .taken List.not_mem_nil⟩
      · have hsingle : Operation.updateBaseline ∉ [op] := by
          simpa using Ne.symm hop
        rcases ih with ⟨taken, hnever | hlater⟩
        · exact ⟨_, .never (List.not_mem_append hnever hsingle)⟩
        · rw [List.append_assoc, List.cons_append]
          exact ⟨_, .taken (List.not_mem_append hlater hsingle)⟩

theorem LastTaken.baseline {s : Session} {first taken : Option View} {ops : List Operation}
    (h : LastTaken s first ops taken) (hfirst : s.baseline = first.map View.fingerprint) :
    (s.after ops).baseline = taken.map View.fingerprint := by
  cases h with
  | never hnever =>
      rw [baseline_after hnever, hfirst]
  | taken hlater =>
      rw [after_append, after_cons, baseline_after hlater, perform_updateBaseline]
      rfl

theorem tracked_of_baseline {s : Session} {taken : Option View}
    (h : s.baseline = taken.map View.fingerprint) : s.Tracked taken where
  baseline := by
    rw [baselineText, h]
    cases taken with
    | none =>
        rfl
    | some v =>
        rfl
  modified := by
    intro b hanswer
    rw [answer_isModified, Answer.modified.injEq] at hanswer
    rw [← hanswer, isModified_iff]
  onlyUpdate := by
    intro op hchanged
    by_contra hop
    apply hchanged
    rw [baselineText, baselineText, baseline_perform hop]
  applied := perform_apply s
  updated := by
    rw [perform_updateBaseline]
    refine ⟨rfl, rfl, ?_⟩
    simp [isModified]
  reverted := by
    rintro rfl
    simp [isModified, h]
  untaken := by
    rintro rfl
    simp [isModified, h]
  text := ⟨s.view.fingerprint.length_text, s.view.fingerprint.mem_smallHexDigits_of_text⟩

/--
Whatever is done with a session, its baseline is the fingerprint of the view that it was last taken
of, and is empty if it never was; and it decides by the fingerprints alone what counts as modified.
-/
theorem tracked_after_run {s : Session} {first : Option View} (h : Begins s first)
    (ops : List Operation) :
    (∃ taken, LastTaken s first ops taken) ∧
      ∀ taken, LastTaken s first ops taken → (s.after ops).Tracked taken := by
  constructor
  · exact exists_lastTaken s first ops
  · intro taken htaken
    exact tracked_of_baseline (htaken.baseline h.baseline)

def turnCompression : Operation :=
  .assign fun v => { v with compress := !v.compress }

/--
A view from a document is modified until a baseline is taken of it, and no longer once a later edit
is taken back.
-/
theorem tracked_after_run_document :
    ∃ v, View.ofString "\x7b\"Compress\":true\x7d" = .ok v ∧
      ((ofView v).after [turnCompression]).isModified = true ∧
      ((ofView v).after ([turnCompression, .apply (ofView default)] ++
        .updateBaseline :: [turnCompression, .toMessage, turnCompression])).isModified = false := by
  have hread : View.ofString "\x7b\"Compress\":true\x7d" =
      .ok { (default : View) with compress := true } := by
    cbv
  have hrun := tracked_after_run (.document hread)
  refine ⟨_, hread, ?_, ?_⟩
  · exact ((hrun [turnCompression]).right none (.never (by simp [turnCompression]))).untaken rfl
  · refine ((hrun _).right _ (.taken (by simp [turnCompression]))).reverted ?_
    simp only [after_append, after_cons, after_nil]
    rfl

end Session

/-!
## Devices

What an address book knows of the device of a sender stands in the view, and a script may set it to
anything.  Nothing else is made of it: two sessions that differ in the device only remain so through
any operations that do not look at it themselves, and give the same answers and events.
-/

/-!
### Views without the device

What is known of the device is taken out of a view to compare it with another one.
-/

namespace View

def withDevice (v : View) (e : Endpoint) : View :=
  { v with client := ⟨v.client.ip, e.mac, e.nickname⟩ }

def anonymous (v : View) : View :=
  v.withDevice default

theorem agrees_withDevice (v : View) (e e' : Endpoint) :
    (v.withDevice e).Agrees (v.withDevice e') :=
  ⟨rfl, rfl, rfl, rfl, rfl, rfl, rfl⟩

theorem Agrees.anonymous_eq {v w : View} (h : v.Agrees w) : v.anonymous = w.anonymous := by
  rw [anonymous, withDevice, anonymous, withDevice, h.answers, h.ip, h.compress, h.extras, h.header,
    h.nameservers, h.questions]

theorem agrees_of_anonymous_eq {v w : View} (h : v.anonymous = w.anonymous) : v.Agrees w where
  answers := (congrArg View.answers h :)
  ip := (congrArg (fun u => u.client.ip) h :)
  compress := (congrArg View.compress h :)
  extras := (congrArg View.extras h :)
  header := (congrArg View.header h :)
  nameservers := (congrArg View.nameservers h :)
  questions := (congrArg View.questions h :)

end View

/-!
### Pairs of sessions
-/

/-- Two sessions that nothing but the device of the sender tells apart. -/
structure Session.Alike (s s' : Session) : Prop where
  view : s.view.Agrees s'.view
  baseline : s.baseline = s'.baseline
  fingerprint : s.view.fingerprint = s'.view.fingerprint
  modified : s.isModified = s'.isModified
  message : s.toMessage = s'.toMessage

theorem Session.alike_of_agrees {s s' : Session} (hview : s.view.Agrees s'.view)
    (hbaseline : s.baseline = s'.baseline) : s.Alike s' where
  view := hview
  baseline := hbaseline
  fingerprint := hview.fingerprint_eq
  modified := by rw [isModified, isModified, hview.fingerprint_eq, hbaseline]
  message := by rw [toMessage, toMessage, hview.toMessage_eq]

structure Logged.Alike {α : Type} (x y : Logged (Session × α)) : Prop where
  session : x.result.1.Alike y.result.1
  answer : x.result.2 = y.result.2
  events : x.events = y.events

/--
The same operation twice.  What an assignment makes of the view without the device is the same; what
it makes of the device may be anything.
-/
inductive Operation.Alike : Operation → Operation → Prop where
  | assign (change : View → View) (device device' : View → Endpoint) :
      Alike (.assign fun v => (change v.anonymous).withDevice (device v))
        (.assign fun v => (change v.anonymous).withDevice (device' v))
  | apply {edited edited' : Session} (h : edited.view.Agrees edited'.view) :
      Alike (.apply edited) (.apply edited')
  | updateBaseline : Alike .updateBaseline .updateBaseline
  | fingerprint : Alike .fingerprint .fingerprint
  | isModified : Alike .isModified .isModified
  | toMessage : Alike .toMessage .toMessage

namespace Session

/-!
### Runs
-/

theorem alike_ofMessage (m : Message) (client : String) (lookup lookup' : Lookup) :
    (ofMessage m client lookup).Alike (ofMessage m client lookup') := by
  have hview := View.agrees_ofMessage m client lookup lookup'
  have hfingerprint := hview.fingerprint_eq
  refine ⟨alike_of_agrees hview ?_, rfl, ?_⟩
  · exact congrArg some hfingerprint
  · show _ ++ ([Event.baselineStored (View.ofMessage m client lookup).1.fingerprint] ++ [] ++ _) = _
    rw [hfingerprint]
    rfl

theorem Alike.perform {s s' : Session} (h : s.Alike s') {op op' : Operation} (hop : op.Alike op') :
    (s.perform op).Alike (s'.perform op') := by
  cases hop with
  | assign change device device' =>
      refine ⟨alike_of_agrees ?_ h.baseline, rfl, rfl⟩
      show ((change s.view.anonymous).withDevice _).Agrees ((change s'.view.anonymous).withDevice _)
      rw [h.view.anonymous_eq]
      exact View.agrees_withDevice _ _ _
  | apply hedited =>
      exact ⟨alike_of_agrees hedited h.baseline, rfl, rfl⟩
  | updateBaseline =>
      refine ⟨alike_of_agrees h.view (congrArg some h.fingerprint), rfl, ?_⟩
      exact congrArg (fun f => [Event.baselineStored f]) h.fingerprint
  | fingerprint =>
      exact ⟨h, congrArg Answer.fingerprint h.fingerprint, rfl⟩
  | isModified =>
      exact ⟨h, congrArg Answer.modified h.modified, rfl⟩
  | toMessage =>
      refine ⟨h, ?_, ?_⟩
      · exact congrArg (fun x => Answer.message x.result.1 x.result.2) h.message
      · exact congrArg (fun x => x.events ++ []) h.message

theorem Alike.run {s s' : Session} (h : s.Alike s') {ops ops' : List Operation}
    (hops : List.Forall₂ Operation.Alike ops ops') : (s.run ops).Alike (s'.run ops') := by
  induction hops generalizing s s' with
  | nil =>
      exact ⟨h, rfl, rfl⟩
  | cons hop _ ih =>
      have hstep := h.perform hop
      have hrest := ih hstep.session
      refine ⟨hrest.session, ?_, ?_⟩
      · exact congrArg₂ List.cons hstep.answer hrest.answer
      · exact congrArg₂ (· ++ ·) hstep.events (congrArg (· ++ []) hrest.events)

end Session

end DnsView
