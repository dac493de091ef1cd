import DnsView.Proofs.Command.Runs
import DnsView.Proofs.View.Baselines

/-!
# Runs for different devices

What is printed of an edited message depends on the message, on the address of its sender and on the
edits, but neither on the device that the address book knows at this address nor on the one that the
edits name.
-/

namespace DnsView

/-!
## Outcomes of applying edits
-/

/-- A command line asks for edits to be applied, and finds its settings and its address book. -/
structure Request.Prepared (r : Request) (args : List String) (environment : Environment)
    (files : Files) (s : Settings) (path : String) : Prop where
  arguments : ofArguments args = .ok r
  work : r.work = .apply path
  settings : Settings.load environment files r.addressBook = .ok s
  book : ∃ book, (s.loadBook files).outcome = .ok book

def Outcome.applied (s : Settings) (client : String) (lookup : Lookup) :
    Except DocumentError Message → Except DocumentError View → Outcome
  | .error e, _ => .failed (.message e)
  | .ok _, .error e => .failed (.edits e)
  | .ok m, .ok v =>
      .printed (s.present (Applied.ofSession m (Session.edited m client lookup v)).result.toJson)

theorem Request.Prepared.result_ofRun {r : Request} {args : List String}
    {environment : Environment} {files : Files} {s : Settings} {path : String}
    (h : r.Prepared args environment files s path) :
    ∃ lookup, (Outcome.ofRun args environment files).result =
      .applied s r.client lookup (files.read Message.shape.read r.message)
        (files.read View.shape.read path) := by
  rcases h.book with ⟨book, hbook⟩
  refine ⟨book, ?_⟩
  have hfailed {e : RunError} (hrun : (r.run s files).outcome = .error e) :
      (Outcome.ofRun args environment files).result = .failed e := by
    apply Outcome.ofRun_eq_failed h.arguments
    rw [Request.outcome_print_of_settings h.settings, hrun]
    rfl
  cases hmessage : files.read Message.shape.read r.message with
  | error e =>
      apply hfailed
      rw [Request.outcome_run, hbook, hmessage]
      rfl
  | ok m =>
      cases hedits : files.read View.shape.read path with
      | error e =>
          apply hfailed
          rw [Request.outcome_run, hbook, hmessage, h.work]
          simp only [hedits]
          rfl
      | ok v =>
          have hprint := Request.outcome_apply ⟨h.settings, hbook, hmessage⟩ h.work hedits
          rw [Outcome.ofRun_eq_printed h.arguments hprint, Outcome.applied]

/-!
## Outcomes that agree
-/

theorem Session.Alike.applied_eq {s s' : Session} (h : s.Alike s') (m : Message) :
    Applied.ofSession m s = Applied.ofSession m s' := by
  rw [Applied.ofSession, Applied.ofSession, Applied.choose, Applied.choose, h.modified, h.message]

theorem Settings.present_congr {s s' : Settings} (h : s.prettyOutput = s'.prettyOutput) (j : Json) :
    s.present j = s'.present j := by
  rw [present, present, spacing, spacing, h]

theorem Outcome.applied_congr {s s' : Settings} (hlayout : s.prettyOutput = s'.prettyOutput)
    (client : String) (lookup lookup' : Lookup) (message : Except DocumentError Message)
    {edits edits' : Except DocumentError View}
    (hedits : View.anonymous <$> edits = View.anonymous <$> edits') :
    applied s client lookup message edits = applied s' client lookup' message edits' := by
  cases message with
  | error e =>
      rfl
  | ok m =>
      cases edits with
      | error e =>
          cases edits' with
          | error e' =>
              cases hedits
              rfl
          | ok v' =>
              cases hedits
      | ok v =>
          cases edits' with
          | error e' =>
              cases hedits
          | ok v' =>
              have hagrees := View.agrees_of_anonymous_eq (Except.ok.inj hedits)
              have hsessions : (Session.edited m client lookup v).Alike
                  (Session.edited m client lookup' v') :=
                ((Session.alike_ofMessage m client lookup lookup').session.perform
                  (@Operation.Alike.apply (.ofView v) (.ofView v') hagrees)).session
              rw [applied, applied, hsessions.applied_eq, Settings.present_congr hlayout]

/--
The address book has no influence on the message.  The sessions of a message for a client are alike,
whatever is looked up; they stay so through the same operations, whatever these make of the device;
and a message is rebuilt without its sender or its baseline.  So the outcome of applying edits is
the same for all address books and for all devices that the edits name.
-/
theorem Session.device_has_no_influence (m : Message) (client : String) (lookup lookup' : Lookup) :
    (ofMessage m client lookup).Alike (ofMessage m client lookup') ∧
      (∀ {ops ops' : List Operation}, List.Forall₂ Operation.Alike ops ops' →
        ((ofMessage m client lookup).result.1.run ops).Alike
          ((ofMessage m client lookup').result.1.run ops')) ∧
      (∀ (s : Session) (c : Client) (baseline : Option Fingerprint),
        (⟨{ s.view with client := c }, baseline⟩ : Session).toMessage = s.toMessage) ∧
      ∀ {args args' : List String} {environment environment' : Environment} {files files' : Files}
        {r r' : Request} {s s' : Settings} {path path' : String},
        r.Prepared args environment files s path → r'.Prepared args' environment' files' s' path' →
        r.client = r'.client → s.prettyOutput = s'.prettyOutput →
        files.read Message.shape.read r.message = files'.read Message.shape.read r'.message →
        View.anonymous <$> files.read View.shape.read path =
          View.anonymous <$> files'.read View.shape.read path' →
        (Outcome.ofRun args environment files).result =
          (Outcome.ofRun args' environment' files').result ∧
        ∀ {message : Message} {v : View}, files.read Message.shape.read r.message = .ok message →
          files.read View.shape.read path = .ok v →
          ∃ text, (Outcome.ofRun args environment files).result = .printed text := by
  have hfresh := alike_ofMessage m client lookup lookup'
  refine ⟨hfresh, fun hops => hfresh.session.run hops, fun s c baseline => rfl, ?_⟩
  intro args args' environment environment' files files' r r' s s' path path' hready hready'
    hclient hlayout hmessage hedits
  rcases hready.result_ofRun with ⟨used, hresult⟩
  rcases hready'.result_ofRun with ⟨used', hresult'⟩
  constructor
  · rw [hresult, hresult', ← hclient, ← hmessage]
    exact Outcome.applied_congr hlayout r.client used used' _ hedits
  · intro message v hread hview
    rw [hresult, hread, hview]
    exact ⟨_, rfl⟩

/-!
## Runs with an address book

The example is one edit, made with and without an address book among the files and with other names
for the device of the sender.
-/

def Files.withBook (files : Files) (book : String) : Files where
  isFile path := path = "book" ∨ files.isFile path
  content? path := if path = "book" then some book.toUTF8 else files.content? path

theorem Files.read_withBook {α : Type} (files : Files) (book : String) (reader : Json.Reader α)
    {path : String} (h : path ≠ "book") :
    (files.withBook book).read reader path = files.read reader path := by
  have hcontent : (files.withBook book).content? path = files.content? path := if_neg h
  rw [read, read, text?, text?, hcontent]

theorem Settings.load_withBook (files : Files) (book : String) :
    load ⟨fun _ => none⟩ (files.withBook book) (some "book") =
      .ok (standard.withAddressBook (some "book")) := by
  have hset : (ofEnvironment ⟨fun _ => none⟩).withAddressBook (some "book") =
      standard.withAddressBook (some "book") := rfl
  have hfile : (files.withBook book).isFile "book" = true := rfl
  have hlevel : (Level.ofName? "info").isNone = false := rfl
  have herror : (standard.withAddressBook (some "book")).error? (files.withBook book) = none := by
    simp [error?, withAddressBook, standard, hlevel, hfile]
  rw [load, hset]
  simp only [herror]
  rfl

theorem Settings.outcome_loadBook_withBook (files : Files) (book : String) :
    ((standard.withAddressBook (some "book")).loadBook (files.withBook book)).outcome =
      (AddressBook.ofText book).outcome := by
  have hcontent : (files.withBook book).content? "book" = some book.toUTF8 := rfl
  rw [outcome_loadBook_some rfl, AddressBook.ofFile, Files.text?_of_content? hcontent]

def laptopText : String := "endpoint=[[\"1.2.3.4\",\"aa\",\"laptop\"]]"

theorem Request.prepared_ofTexts (message edits : String) :
    Prepared ⟨none, "message", "1.2.3.4", .apply "edits"⟩
      ["apply", "-m", "message", "-e", "edits", "-c", "1.2.3.4"] ⟨fun _ => none⟩
      (.ofTexts message edits) .standard "edits" where
  arguments := rfl
  work := rfl
  settings := rfl
  book := ⟨_, rfl⟩

theorem Request.prepared_withBook (message edits : String) :
    Prepared ⟨some "book", "message", "1.2.3.4", .apply "edits"⟩
      ["apply", "--address-book", "book", "-m", "message", "-e", "edits", "-c", "1.2.3.4"]
      ⟨fun _ => none⟩ ((Files.ofTexts message edits).withBook laptopText)
      (Settings.standard.withAddressBook (some "book")) "edits" where
  arguments := rfl
  work := rfl
  settings := Settings.load_withBook (.ofTexts message edits) laptopText
  book := by
    have hentries : (Toml.Table.ofString? laptopText).bind AddressBook.entriesOf? =
        some [⟨"1.2.3.4", "aa", "laptop"⟩] := by
      cbv
    have hloaded : (AddressBook.ofText laptopText).outcome =
        .ok ⟨[(.v4 ⟨1, 2, 3, 4⟩, ⟨"aa", "laptop"⟩)]⟩ := by
      rw [AddressBook.ofText, hentries]
      rfl
    exact ⟨_, (Settings.outcome_loadBook_withBook _ laptopText).trans hloaded⟩

def compressedView (e : Endpoint) : View :=
  { (View.ofMessage addressMessage "1.2.3.4" AddressBook.empty).1 with
    compress := true }.withDevice e

theorem Session.device_has_no_influence_laptop :
    ∃ text,
      (Outcome.ofRun ["apply", "-m", "message", "-e", "edits", "-c", "1.2.3.4"] ⟨fun _ => none⟩
        (.ofTexts addressText
          (Settings.standard.present (compressedView ⟨"", "printer"⟩).toJson))).result =
        .printed text ∧
      (Outcome.ofRun
        ["apply", "--address-book", "book", "-m", "message", "-e", "edits", "-c", "1.2.3.4"]
        ⟨fun _ => none⟩ ((Files.ofTexts addressText
          (Settings.standard.present (compressedView ⟨"bb", "camera"⟩).toJson)).withBook
            laptopText)).result = .printed text := by
  have hedits (e : Endpoint) : (Files.ofTexts addressText
      (Settings.standard.present (compressedView e).toJson)).read View.shape.read "edits" =
        .ok (compressedView e) := by
    apply Files.read_present (s := Settings.standard)
    · rfl
    · exact View.solid_ofMessage addressMessage "1.2.3.4" AddressBook.empty
  have hread (edits : String) :
      (Files.ofTexts addressText edits).read Message.shape.read "message" = .ok addressMessage :=
    (Request.finds_ofTexts ofString_addressText edits "1.2.3.4" .inspect).message
  have hmessages (edits edits' : String) :
      (Files.ofTexts addressText edits).read Message.shape.read "message" =
        ((Files.ofTexts addressText edits').withBook laptopText).read
          Message.shape.read "message" := by
    rw [Files.read_withBook _ _ _ (by decide), hread, hread]
  have hviews (e e' : Endpoint) :
      View.anonymous <$> (Files.ofTexts addressText
        (Settings.standard.present (compressedView e).toJson)).read View.shape.read "edits" =
      View.anonymous <$> ((Files.ofTexts addressText (Settings.standard.present
        (compressedView e').toJson)).withBook laptopText).read View.shape.read "edits" := by
    have hanonymous : (compressedView e).anonymous = (compressedView e').anonymous :=
      (View.agrees_withDevice _ e e').anonymous_eq
    rw [Files.read_withBook _ _ _ (by decide), hedits, hedits]
    exact congrArg Except.ok hanonymous
  have hpair := (device_has_no_influence addressMessage "1.2.3.4" AddressBook.empty
    AddressBook.empty).right.right.right
    (Request.prepared_ofTexts _ _) (Request.prepared_withBook _ _) rfl rfl (hmessages _ _)
    (hviews ⟨"", "printer"⟩ ⟨"bb", "camera"⟩)
  rcases hpair.right (hread _) (hedits _) with ⟨text, hprinted⟩
  exact ⟨text, hprinted, by rw [← hpair.left, hprinted]⟩

end DnsView
