import DnsView.Command.Run
import DnsView.Proofs.Attempts
import DnsView.Proofs.Message.MessageTexts
import DnsView.Proofs.View.Fingerprints
import DnsView.Proofs.View.ViewTexts
import Mathlib

/-!
# Runs of the program

Once a request has found its settings, its address book and its message, showing the message cannot
fail; and once the edits are read as well, neither can applying them.
-/

namespace DnsView

/-!
## Reading what was printed
-/

theorem View.read_present (s : Settings) {v : View}
    (h : ∀ fields ∈ v.mappings, fields.Leaves Value.Solid ∧ fields.depth ≤ 1) :
    Json.read shape.read (s.present v.toJson) = .ok v := by
  have hunscaled : ∀ fields ∈ v.mappings, fields.Leaves Value.Unscaled := fun fields hfields =>
    Fields.Leaves.mono (fun _ => Value.Solid.unscaled) (h fields hfields).left
  have hdepth : ∀ fields ∈ v.mappings, fields.depth < 125 := fun fields hfields =>
    Nat.lt_of_le_of_lt (h fields hfields).right (by decide)
  have hread := read_toJson hunscaled 125
  rw [if_pos hdepth, settled_of_solid fun fields hfields => (h fields hfields).left] at hread
  rw [Settings.present, Json.read_line]
  · exact hread
  · intro rest
    trivial

theorem Files.text?_of_content? {files : Files} {path text : String}
    (h : files.content? path = some text.toUTF8) : files.text? path = some text := by
  rw [text?, h]
  exact dif_pos text.isValidUTF8

theorem Files.read_present {files : Files} {path : String} {s : Settings} {v : View}
    (hcontent : files.content? path = some (s.present v.toJson).toUTF8)
    (h : ∀ fields ∈ v.mappings, fields.Leaves Value.Solid ∧ fields.depth ≤ 1) :
    files.read View.shape.read path = .ok v := by
  rw [read, text?_of_content? hcontent]
  simp only [View.read_present s h]
  rfl

theorem Message.IsNormal.isCoded {m : Message} (h : m.IsNormal) : m.IsCoded where
  questions q hq := ⟨(h.questions q hq).qtype, (h.questions q hq).qclass⟩
  answers r hr :=
    have hnormal := (h.records r (by simp [hr])).right
    ⟨hnormal.rtype, hnormal.rclass⟩
  authorities r hr :=
    have hnormal := (h.records r (by simp [hr])).right
    ⟨hnormal.rtype, hnormal.rclass⟩
  additionals r hr :=
    have hnormal := (h.records r (by simp [hr])).right
    ⟨hnormal.rtype, hnormal.rclass⟩

theorem Files.isCoded_of_read {files : Files} {path : String} {m : Message}
    (h : files.read Message.shape.read path = .ok m) : m.IsCoded := by
  rw [read] at h
  split at h
  · cases h
  · rename_i text _
    cases hread : Json.read Message.shape.read text with
    | error e =>
        rw [hread] at h
        cases h
    | ok m' =>
        rw [hread] at h
        cases h
        exact Message.isCoded_of_read hread

/-- How a result of applying edits is read. -/
def Applied.shape : Json.Shape Applied where
  name := "ApplyOutput"
  blank := ⟨false, default⟩
  fields :=
    [.of "modified" Json.readBool (fun a x => { a with modified := x }) true,
      .of "message" Message.shape.read (fun a x => { a with message := x }) true]

theorem Applied.read_present (s : Settings) {a : Applied} (h : a.message.IsCoded) :
    Json.read shape.read (s.present a.toJson) = .ok a := by
  have hnames : (shape.fields.map Json.Field.name).Nodup := by decide
  have hmessage := a.message.read_toJson 121
  rw [Message.recoded_eq_iff _ |>.mpr h] at hmessage
  rw [Settings.present, Json.read_line]
  · exact Json.Shape.read_object hnames (.of rfl (.of hmessage .nil))
  · intro rest
    trivial

/-!
## What a run prints
-/

theorem Settings.outcome_loadBook_none {s : Settings} (h : s.addressBook = none) (files : Files) :
    (s.loadBook files).outcome = .ok .empty := by
  rw [loadBook, h]
  rfl

theorem Settings.outcome_loadBook_some {s : Settings} {path : String}
    (h : s.addressBook = some path) (files : Files) :
    (s.loadBook files).outcome = (AddressBook.ofFile files path).outcome := by
  rw [loadBook, h]
  show (AddressBook.ofFile files path >>= _).outcome = _
  rw [Attempt.outcome_bind]
  cases (AddressBook.ofFile files path).outcome with
  | error e =>
      rfl
  | ok book =>
      rfl

theorem Applied.result_ofSession (m : Message) (s : Session) :
    (Applied.ofSession m s).result =
      if s.isModified then ⟨true, s.view.toMessage.1⟩ else ⟨false, m⟩ := by
  show (choose m s).result = _
  rw [choose]
  split
  · rfl
  · rfl

namespace Request

/-- A request finds its settings, its address book and its message. -/
structure Finds (r : Request) (environment : Environment) (files : Files) (s : Settings)
    (book : AddressBook) (m : Message) : Prop where
  settings : Settings.load environment files r.addressBook = .ok s
  book : (s.loadBook files).outcome = .ok book
  message : files.read Message.shape.read r.message = .ok m

variable {r : Request} {environment : Environment} {files : Files} {s : Settings}
  {book : AddressBook} {m : Message}

theorem outcome_run (r : Request) (s : Settings) (files : Files) :
    (r.run s files).outcome = do
      let book ← (s.loadBook files).outcome.mapError RunError.addressBook
      let m ← (files.read Message.shape.read r.message).mapError RunError.message
      match r.work with
      | .inspect => return (View.ofMessage m r.client book).1.toJson
      | .apply path =>
          let v ← (files.read View.shape.read path).mapError RunError.edits
          return (Applied.ofSession m (Session.edited m r.client book v)).result.toJson := by
  rw [run, Attempt.outcome_bind, Attempt.outcome_mapError]
  congr 1
  funext book
  rw [Attempt.outcome_bind]
  congr 1
  funext m
  rw [Attempt.outcome_bind]
  cases r.work with
  | inspect =>
      rfl
  | apply path =>
      exact Attempt.outcome_bind _ _

theorem outcome_print (r : Request) (environment : Environment) (files : Files) :
    (r.print environment files).outcome = do
      let s ← (Settings.load environment files r.addressBook).mapError RunError.settings
      let shown ← (r.run s files).outcome
      return s.present shown := by
  rw [print, Attempt.outcome_bind]
  congr 1
  funext s
  exact Attempt.outcome_bind _ _

theorem outcome_print_of_settings
    (hsettings : Settings.load environment files r.addressBook = .ok s) :
    (r.print environment files).outcome = s.present <$> (r.run s files).outcome := by
  rw [outcome_print, hsettings]
  rfl

theorem outcome_inspect (h : r.Finds environment files s book m) (hwork : r.work = .inspect) :
    (r.print environment files).outcome =
      .ok (s.present (View.ofMessage m r.client book).1.toJson) := by
  rw [outcome_print_of_settings h.settings, outcome_run, h.book, h.message, hwork]
  rfl

theorem outcome_apply (h : r.Finds environment files s book m) {path : String}
    (hwork : r.work = .apply path) {v : View} (hedits : files.read View.shape.read path = .ok v) :
    (r.print environment files).outcome = .ok
      (s.present (Applied.ofSession m (Session.edited m r.client book v)).result.toJson) := by
  rw [outcome_print_of_settings h.settings, outcome_run, h.book, h.message, hwork]
  simp only [hedits]
  rfl

end Request

namespace Outcome

variable {args : List String} {r : Request} {environment : Environment} {files : Files}

theorem ofRun_eq_printed (hargs : Request.ofArguments args = .ok r) {text : String}
    (hprint : (r.print environment files).outcome = .ok text) :
    (ofRun args environment files).result = .printed text := by
  rw [ofRun, hargs]
  simp only [ofPrinting, hprint]

theorem ofRun_eq_failed (hargs : Request.ofArguments args = .ok r) {e : RunError}
    (hprint : (r.print environment files).outcome = .error e) :
    (ofRun args environment files).result = .failed e := by
  rw [ofRun, hargs]
  simp only [ofPrinting, hprint]

theorem events_ofRun (hargs : Request.ofArguments args = .ok r) :
    (ofRun args environment files).events = (r.print environment files).events := by
  rw [ofRun, hargs]
  rfl

end Outcome

/-!
## What a run tells

What is told in one stage stays told if a later one fails.
-/

namespace Request

variable {r : Request} {environment : Environment} {files : Files} {s : Settings}

theorem events_print (hsettings : Settings.load environment files r.addressBook = .ok s) :
    (r.print environment files).events = (r.run s files).events := by
  rw [print, hsettings]
  exact Attempt.events_bind_pure (r.run s files) s.present

theorem events_book_prefix (r : Request) (s : Settings) (files : Files) :
    (s.loadBook files).events <+: (r.run s files).events :=
  Attempt.events_prefix_bind ((s.loadBook files).mapError RunError.addressBook) _

/-- The events of a request that finds its address book and its message. -/
theorem events_run {book : AddressBook} (hbook : (s.loadBook files).outcome = .ok book)
    {m : Message} (hmessage : files.read Message.shape.read r.message = .ok m) :
    (r.run s files).events =
      (s.loadBook files).events ++ (Session.ofMessage m r.client book).events ++
        match r.work with
        | .inspect => []
        | .apply path =>
            match files.read View.shape.read path with
            | .error _ => []
            | .ok v => (Applied.ofSession m (Session.edited m r.client book v)).events := by
  have hloaded : (s.loadBook files).mapError RunError.addressBook =
      ⟨.ok book, (s.loadBook files).events⟩ := by
    rw [Attempt.mapError, hbook]
    rfl
  rw [run, Attempt.bind_of_ok hloaded, hmessage, List.append_assoc]
  cases r.work with
  | inspect =>
      rfl
  | apply path =>
      cases hedits : files.read View.shape.read path with
      | error e =>
          simp only [hedits]
          rfl
      | ok v =>
          simp only [hedits]
          exact congrArg (fun later => (s.loadBook files).events ++
            ((Session.ofMessage m r.client book).events ++ later)) (List.append_nil _)

end Request

theorem Applied.events_ofSession (m : Message) (s : Session) :
    (ofSession m s).events.getLast? = some (.editsApplied (ofSession m s).result.modified
      (ofSession m s).result.message.header.id) := by
  show ((choose m s).events ++ [_]).getLast? = _
  exact List.getLast?_concat

/--
A run tells of its address book whatever becomes of the message, and of the view of the message,
with every record that it leaves out, whatever becomes of the edits.  If these can be read as well,
the last event says whether the message was modified.
-/
theorem Outcome.told_stays_told {args : List String} {r : Request} {environment : Environment}
    {files : Files} {s : Settings} (hargs : Request.ofArguments args = .ok r)
    (hsettings : Settings.load environment files r.addressBook = .ok s) :
    let told := (ofRun args environment files).events
    (s.loadBook files).events <+: told ∧
      ∀ {book : AddressBook} {m : Message}, r.Finds environment files s book m →
        (s.loadBook files).events ++ (Session.ofMessage m r.client book).events <+: told ∧
        ∀ {path : String} {v : View}, r.work = .apply path →
          files.read View.shape.read path = .ok v →
          let applied := (Applied.ofSession m (Session.edited m r.client book v)).result
          told.getLast? = some (.editsApplied applied.modified applied.message.header.id) := by
  intro told
  have htold : told = (r.run s files).events :=
    (events_ofRun hargs).trans (Request.events_print hsettings)
  rw [htold]
  refine ⟨r.events_book_prefix s files, ?_⟩
  intro book m hfinds
  rw [Request.events_run hfinds.book hfinds.message]
  refine ⟨List.prefix_append _ _, ?_⟩
  intro path v hwork hedits applied
  rw [hwork]
  simp only [hedits]
  rw [List.getLast?_append, Applied.events_ofSession]
  rfl

/-!
## Runs on two files
-/

def Files.ofTexts (message edits : String) : Files where
  isFile path := path = "message" ∨ path = "edits"
  content? path :=
    if path = "message" then some message.toUTF8
    else if path = "edits" then some edits.toUTF8
    else none

theorem Request.finds_ofTexts {message : String} {m : Message}
    (h : Message.ofString message = .ok m) (edits client : String) (work : Work) :
    Finds ⟨none, "message", client, work⟩ ⟨fun _ => none⟩ (.ofTexts message edits) .standard .empty
      m where
  settings := rfl
  book := rfl
  message := by
    have htext : (Files.ofTexts message edits).content? "message" = some message.toUTF8 := rfl
    rw [Files.read, Files.text?_of_content? htext]
    exact congrArg (Except.mapError DocumentError.malformed) h

/-!
## Skipping the rebuild

The example is a message with one address, in normal form.  Its view is handed back with a name for
the device of the sender, and once more as the view of a message that is compressed.
-/

/--
Unless the digest collides on just these two views, a session counts as unmodified if and only if
the view that was handed back agrees with the fresh one; and then the message rebuilt from it is the
normal form of the message.  So for a message in normal form it makes no difference to what is
printed that an unmodified message is passed on without being rebuilt.
-/
theorem Session.skipped_rebuild_is_sound {m : Message} {client : String} {lookup : Lookup}
    {v : View} (hclear : ¬Sha256.Collision (View.ofMessage m client lookup).1.stream v.stream) :
    ((edited m client lookup v).isModified = false ↔ v.Agrees (View.ofMessage m client lookup).1) ∧
      ((edited m client lookup v).isModified = false →
        (edited m client lookup v).toMessage.result = (m.normal, ⟨[]⟩)) ∧
      (m.normal = m → ∀ {args : List String} {r : Request} {environment : Environment}
        {files : Files} {s : Settings} {book : AddressBook} {path : String},
        Request.ofArguments args = .ok r → r.Finds environment files s book m →
        book.lookup = lookup → r.client = client → r.work = .apply path →
        files.read View.shape.read path = .ok v →
        (Outcome.ofRun args environment files).result = .printed (s.present (.object
          [("modified", .boolean (edited m client lookup v).isModified),
            ("message", v.toMessage.1.toJson)])) ∧
        Json.read Applied.shape.read (Outcome.ofRun args environment files).result.output =
          .ok ⟨(edited m client lookup v).isModified, v.toMessage.1⟩) := by
  have hrebuilt : (edited m client lookup v).isModified = false →
      v.toMessage = (m.normal, ⟨[]⟩) := by
    intro h
    rw [(agrees_of_isModified_edited hclear h).toMessage_eq, View.toMessage_ofMessage]
  refine ⟨⟨agrees_of_isModified_edited hclear, isModified_edited_of_agrees⟩, hrebuilt, ?_⟩
  intro hnormal args r environment files s book path hargs hfinds hlookup hclient hwork hedits
  subst hlookup hclient
  have happlied : (Applied.ofSession m (edited m r.client book v)).result =
      ⟨(edited m r.client book v).isModified, v.toMessage.1⟩ := by
    rw [Applied.result_ofSession]
    cases hmodified : (edited m r.client book v).isModified with
    | true =>
        rfl
    | false =>
        rw [hrebuilt hmodified, hnormal]
        rfl
  have hprinted := Outcome.ofRun_eq_printed hargs (Request.outcome_apply hfinds hwork hedits)
  rw [happlied] at hprinted
  refine ⟨hprinted, ?_⟩
  rw [hprinted]
  exact Applied.read_present s v.isNormal_toMessage.isCoded

def addressMessage : Message where
  header := ⟨7, true, 0, false, false, true, true, false, false, false, 0⟩
  questions := [⟨⟨["a", ""]⟩, .a, .internet⟩]
  answers := [⟨⟨["a", ""]⟩, .a, .internet, 60, .a ⟨1, 2, 3, 4⟩⟩]
  authorities := []
  additionals := []
  compress := false

def addressText : String :=
  "[[7,true,0,false,false,true,true,false,false,false,0],[[[\"a\",\"\"],1,1]]," ++
    "[[[\"a\",\"\"],1,1,60,\x7b\"A\":\"1.2.3.4\"\x7d]],[],[]]"

theorem ofString_addressText : Message.ofString addressText = .ok addressMessage := by
  cbv

def printerView : View :=
  { (View.ofMessage addressMessage "1.2.3.4" AddressBook.empty).1 with
    client := ⟨"1.2.3.4", "", "printer"⟩ }

def compressView : View :=
  { printerView with compress := true }

theorem Session.skipped_rebuild_is_sound_nickname :
    let fresh := (View.ofMessage addressMessage "1.2.3.4" AddressBook.empty).1
    ¬Sha256.Collision fresh.stream printerView.stream ∧
      (edited addressMessage "1.2.3.4" AddressBook.empty printerView).isModified = false ∧
      (edited addressMessage "1.2.3.4" AddressBook.empty printerView).toMessage.result =
        (addressMessage.normal, ⟨[]⟩) ∧
      (Outcome.ofRun ["apply", "-m", "message", "-e", "edits", "-c", "1.2.3.4"] ⟨fun _ => none⟩
        (.ofTexts addressText (Settings.standard.present printerView.toJson))).result =
        .printed (Settings.standard.present (.object
          [("modified", .boolean
              (edited addressMessage "1.2.3.4" AddressBook.empty printerView).isModified),
            ("message", printerView.toMessage.1.toJson)])) ∧
      fresh.stream ≠ compressView.stream ∧
      ¬Sha256.Collision fresh.stream compressView.stream ∧
      (edited addressMessage "1.2.3.4" AddressBook.empty compressView).isModified = true := by
  intro fresh
  have hagrees : printerView.Agrees fresh := ⟨rfl, rfl, rfl, rfl, rfl, rfl, rfl⟩
  have hclear : ¬Sha256.Collision fresh.stream printerView.stream :=
    fun h => h.left hagrees.stream_eq.symm
  have hsound := skipped_rebuild_is_sound hclear
  have hargs : Request.ofArguments ["apply", "-m", "message", "-e", "edits", "-c", "1.2.3.4"] =
      .ok ⟨none, "message", "1.2.3.4", .apply "edits"⟩ := rfl
  have hnormal : addressMessage.normal = addressMessage := rfl
  have hedits : (Files.ofTexts addressText (Settings.standard.present printerView.toJson)).read
      View.shape.read "edits" = .ok printerView := by
    apply Files.read_present (s := Settings.standard)
    · rfl
    · exact View.solid_ofMessage addressMessage "1.2.3.4" AddressBook.empty
  have hunmodified := hsound.left.mpr hagrees
  have hprinted := hsound.right.right hnormal hargs
    (Request.finds_ofTexts ofString_addressText _ _ _) rfl rfl rfl hedits
  have hdigests : fresh.fingerprint ≠ compressView.fingerprint := by decide +kernel
  have hdifferent := View.not_collision_of_fingerprint_ne hdigests
  have hstreams := View.stream_ne_of_fingerprint_ne hdigests
  have hmodified :
      (edited addressMessage "1.2.3.4" AddressBook.empty compressView).isModified = true := by
    rw [← Bool.not_eq_false, (skipped_rebuild_is_sound hdifferent).left]
    intro h
    exact hstreams h.stream_eq.symm
  exact ⟨hclear, hunmodified, hsound.right.left hunmodified, hprinted.left, hstreams, hdifferent,
    hmodified⟩

/-!
## Edits that are handed back untouched

The example is a message that its view does not show in full: the operation code is wider than on
the wire, and the only answer has an address under a type of texts.
-/

/--
The view that is printed of a message, handed back as it is, leaves the message as it is, whatever
address books and layouts the two runs use: it is printed in full and not as a modified one, and the
text is read back as this message.
-/
theorem Outcome.untouched_view_keeps_message {m : Message}
    {args args' : List String} {r r' : Request} {environment environment' : Environment}
    {files files' : Files} {s s' : Settings} {book book' : AddressBook} {path : String}
    (hargs : Request.ofArguments args = .ok r) (hargs' : Request.ofArguments args' = .ok r')
    (hwork : r.work = .inspect) (hwork' : r'.work = .apply path) (hclient : r'.client = r.client)
    (hfinds : r.Finds environment files s book m)
    (hfinds' : r'.Finds environment' files' s' book' m) :
    ∃ text, (ofRun args environment files).result = .printed text ∧
      (files'.content? path = some text.toUTF8 →
        (ofRun args' environment' files').result = .printed (s'.present (.object
          [("modified", .boolean false), ("message", m.toJson)])) ∧
        Json.read Applied.shape.read (ofRun args' environment' files').result.output =
          .ok ⟨false, m⟩) := by
  refine ⟨_, ofRun_eq_printed hargs (Request.outcome_inspect hfinds hwork), ?_⟩
  intro hcontent
  have hedits : files'.read View.shape.read path = .ok (View.ofMessage m r.client book).1 :=
    Files.read_present hcontent (View.solid_ofMessage m r.client book)
  have hagrees := View.agrees_ofMessage m r.client book book'
  have hprinted := ofRun_eq_printed hargs' (Request.outcome_apply hfinds' hwork' hedits)
  rw [Applied.result_ofSession, hclient, Session.isModified_edited_of_agrees hagrees] at hprinted
  refine ⟨hprinted, ?_⟩
  rw [hprinted]
  exact Applied.read_present s' (Files.isCoded_of_read hfinds'.message)

def oddMessage : Message :=
  { addressMessage with
    header := { addressMessage.header with opcode := 255 }
    answers := [⟨⟨["b", ""]⟩, .txt, .internet, 60, .a ⟨1, 2, 3, 4⟩⟩] }

def oddText : String :=
  "[[7,true,255,false,false,true,true,false,false,false,0],[[[\"a\",\"\"],1,1]]," ++
    "[[[\"b\",\"\"],16,1,60,\x7b\"A\":\"1.2.3.4\"\x7d]],[],[]]"

theorem ofString_oddText : Message.ofString oddText = .ok oddMessage := by
  cbv

theorem Outcome.untouched_view_keeps_message_odd :
    ∃ text, (ofRun ["inspect", "-m", "message", "-c", "1.2.3.4"] ⟨fun _ => none⟩
        (.ofTexts oddText "")).result = .printed text ∧
      (ofRun ["apply", "-m", "message", "-e", "edits", "-c", "1.2.3.4"] ⟨fun _ => none⟩
        (.ofTexts oddText text)).result =
        .printed (Settings.standard.present (.object
          [("modified", .boolean false), ("message", oddMessage.toJson)])) ∧
      Json.read Applied.shape.read (ofRun ["apply", "-m", "message", "-e", "edits", "-c", "1.2.3.4"]
        ⟨fun _ => none⟩ (.ofTexts oddText text)).result.output = .ok ⟨false, oddMessage⟩ := by
  have hargs : Request.ofArguments ["inspect", "-m", "message", "-c", "1.2.3.4"] =
      .ok ⟨none, "message", "1.2.3.4", .inspect⟩ := rfl
  have hargs' : Request.ofArguments ["apply", "-m", "message", "-e", "edits", "-c", "1.2.3.4"] =
      .ok ⟨none, "message", "1.2.3.4", .apply "edits"⟩ := rfl
  have hshown := fun edits => untouched_view_keeps_message hargs hargs' rfl rfl rfl
    (Request.finds_ofTexts ofString_oddText "" _ _)
    (Request.finds_ofTexts ofString_oddText edits _ _)
  rcases hshown "" with ⟨text, hprinted, _⟩
  rcases hshown text with ⟨text', hprinted', hkept⟩
  have hsame : text = text' := by
    rw [hprinted] at hprinted'
    exact Outcome.printed.inj hprinted'
  subst hsame
  exact ⟨text, hprinted, hkept rfl⟩

end DnsView
