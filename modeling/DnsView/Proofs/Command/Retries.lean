import DnsView.Proofs.Command.DeviceRuns
import DnsView.Proofs.Message.MessageTexts
import DnsView.Proofs.Settings.Sources

/-!
# Applying edits once more

Whoever does not know whether edits were applied may apply them again.  If the first run rebuilt the
message, the second one either rebuilds the same from the same view or finds nothing to change; and
if the first run passed the message on as it was, the second one begins where the first one did.
-/

namespace DnsView

/-!
## What is passed on
-/

/-- What is passed on of a message after an edited view was taken over. -/
def Applied.ofEdits (m : Message) (client : String) (lookup : Lookup) (v : View) : Applied :=
  (ofSession m (Session.edited m client lookup v)).result

namespace Applied

variable {m : Message} {client : String} {lookup : Lookup} {v : View}

theorem ofEdits_of_modified (h : (Session.edited m client lookup v).isModified = true) :
    ofEdits m client lookup v = ⟨true, v.toMessage.1⟩ := by
  rw [ofEdits, result_ofSession, if_pos h]
  rfl

theorem ofEdits_of_unmodified (h : (Session.edited m client lookup v).isModified = false) :
    ofEdits m client lookup v = ⟨false, m⟩ := by
  rw [ofEdits, result_ofSession, h]
  rfl

theorem isModified_edited_congr (m : Message) (client : String) (lookup lookup' : Lookup)
    (v : View) :
    (Session.edited m client lookup v).isModified =
      (Session.edited m client lookup' v).isModified := by
  have hfresh := (View.agrees_ofMessage m client lookup lookup').fingerprint_eq
  rw [Bool.eq_iff_iff, ← not_iff_not, Bool.not_eq_true, Bool.not_eq_true,
    Session.isModified_edited_iff, Session.isModified_edited_iff, hfresh]

/-- The same edits leave the message as it is that they have led to. -/
theorem exists_ofEdits_again (m : Message) (client : String) (lookup lookup' : Lookup) (v : View) :
    ∃ modified, ofEdits (ofEdits m client lookup v).message client lookup' v =
      ⟨modified, (ofEdits m client lookup v).message⟩ := by
  cases hfirst : (Session.edited m client lookup v).isModified with
  | false =>
      rw [ofEdits_of_unmodified hfirst]
      rw [isModified_edited_congr m client lookup lookup' v] at hfirst
      exact ⟨false, ofEdits_of_unmodified hfirst⟩
  | true =>
      rw [ofEdits_of_modified hfirst]
      cases hagain : (Session.edited v.toMessage.1 client lookup' v).isModified with
      | true =>
          exact ⟨true, ofEdits_of_modified hagain⟩
      | false =>
          exact ⟨false, ofEdits_of_unmodified hagain⟩

theorem isCoded_message (hm : m.IsCoded) (client : String) (lookup : Lookup) (v : View) :
    (ofEdits m client lookup v).message.IsCoded := by
  cases h : (Session.edited m client lookup v).isModified with
  | true =>
      rw [ofEdits_of_modified h]
      exact v.isNormal_toMessage.isCoded
  | false =>
      rw [ofEdits_of_unmodified h]
      exact hm

end Applied

/-!
## Runs that print
-/

theorem Settings.error?_congr {s : Settings} {files files' : Files}
    (h : ∀ path, s.addressBook = some path → files'.isFile path = files.isFile path) :
    s.error? files' = s.error? files := by
  rw [error?, error?]
  cases hbook : s.addressBook with
  | none =>
      rfl
  | some path =>
      simp only [h path hbook]

theorem Settings.loadBook_congr {s : Settings} {files files' : Files}
    (h : ∀ path, s.addressBook = some path → files'.content? path = files.content? path) :
    s.loadBook files' = s.loadBook files := by
  rw [loadBook, loadBook]
  cases hbook : s.addressBook with
  | none =>
      rfl
  | some path =>
      simp only [AddressBook.ofFile, Files.text?, h path hbook]

namespace Request

variable {args : List String} {r : Request} {environment : Environment} {files : Files}
  {path : String}

theorem prepared_or_failed (hargs : ofArguments args = .ok r) (hwork : r.work = .apply path) :
    (∃ s, r.Prepared args environment files s path) ∨
      ∃ e, (Outcome.ofRun args environment files).result = .failed e := by
  cases hsettings : Settings.load environment files r.addressBook with
  | error e =>
      right
      refine ⟨.settings e, Outcome.ofRun_eq_failed hargs ?_⟩
      rw [outcome_print, hsettings]
      rfl
  | ok s =>
      cases hbook : (s.loadBook files).outcome with
      | error e =>
          right
          refine ⟨.addressBook e, Outcome.ofRun_eq_failed hargs ?_⟩
          rw [outcome_print_of_settings hsettings, outcome_run, hbook]
          rfl
      | ok book =>
          left
          exact ⟨s, hargs, hwork, hsettings, book, hbook⟩

theorem Prepared.of_congr {s : Settings} (h : r.Prepared args environment files s path)
    {args' : List String} {r' : Request} {files' : Files} {path' : String}
    (hargs : ofArguments args' = .ok r') (hwork : r'.work = .apply path')
    (hbook : r'.addressBook = r.addressBook)
    (hfiles : ∀ p, s.addressBook = some p →
      files'.isFile p = files.isFile p ∧ files'.content? p = files.content? p) :
    r'.Prepared args' environment files' s path' where
  arguments := hargs
  work := hwork
  settings := by
    rw [hbook, Settings.load_eq_ok_iff, Settings.error?_congr fun p hp => (hfiles p hp).left]
    exact Settings.load_eq_ok_iff.mp h.settings
  book := by
    rw [Settings.loadBook_congr fun p hp => (hfiles p hp).right]
    exact h.book

end Request

theorem Outcome.applied_eq_printed {s : Settings} {client : String} {lookup : Lookup}
    {message : Except DocumentError Message} {edits : Except DocumentError View} {text : String}
    (h : applied s client lookup message edits = .printed text) :
    ∃ m v, message = .ok m ∧ edits = .ok v ∧
      text = s.present (Applied.ofEdits m client lookup v).toJson := by
  cases message with
  | error e =>
      cases h
  | ok m =>
      cases edits with
      | error e =>
          cases h
      | ok v =>
          cases h
          exact ⟨m, v, rfl, rfl, rfl⟩

/-!
## Messages in files
-/

def Files.Holds (files : Files) (path : String) (m : Message) : Prop :=
  ∃ text, files.content? path = some text.toUTF8 ∧ Json.Spells text m.toJson

theorem Files.read_of_holds {files : Files} {path : String} {m : Message}
    (h : files.Holds path m) : files.read Message.shape.read path = .ok m.recoded := by
  rcases h with ⟨text, hcontent, hspells⟩
  rw [read, text?_of_content? hcontent]
  simp only [Message.read_of_spells hspells]
  rfl

/-!
## Messages in what is printed

The text that a run prints after edits determines the message, up to the spelling of its codes.  The
example is an edit after which names are compressed and the only answer is no record, so the message
is rebuilt without it, and with a shorter operation code.
-/

/-- A printed text shows one message only, up to the spelling of its codes. -/
theorem Applied.recoded_eq_of_present {s s' : Settings} {a a' : Applied}
    (h : s.present a.toJson = s'.present a'.toJson) : a.message.recoded = a'.message.recoded := by
  have hobject (a : Applied) : ∀ rest, Json.Delimits rest a.toJson := fun _ => trivial
  have hdocument := congrArg Json.Document.ofString h
  rw [Settings.present, Settings.present, Json.Document.ofString_line _ (hobject a),
    Json.Document.ofString_line _ (hobject a')] at hdocument
  have hnode : a.message.toJson.node = a'.message.toJson.node := by
    simp only [toJson, Json.node, Json.memberNodes, Json.Document.mk.injEq,
      Json.Node.object.injEq, Json.Members.cons.injEq] at hdocument
    exact hdocument.left.right.right.right.left
  have hread := a.message.read_toJson 0
  rw [hnode, a'.message.read_toJson 0] at hread
  exact (Except.ok.inj hread).symm

theorem Applied.toJson_eq_of_recoded {m m' : Message} (h : m.recoded = m'.recoded)
    (modified : Bool) : toJson ⟨modified, m⟩ = toJson ⟨modified, m'⟩ := by
  rw [toJson, toJson, ← m.toJson_recoded, h, m'.toJson_recoded]

/--
Applying edits once more is safe.  A run that applies edits and prints a message can be followed by
one with the same edits and for the same client on a file with this message, under any configuration
that is in order, and in particular under the same one.  The second run succeeds and prints the same
message, whichever of the two modifies it and whatever records were left out.
-/
theorem Outcome.apply_again {args : List String} {r : Request} {environment : Environment}
    {files : Files} {path : String} {layout : Settings} {modified : Bool} {m : Message}
    (hargs : Request.ofArguments args = .ok r) (hwork : r.work = .apply path)
    (hprinted : (ofRun args environment files).result = .printed (layout.present (.object
      [("modified", .boolean modified), ("message", m.toJson)]))) :
    ∃ s, r.Prepared args environment files s path ∧
      (∀ {args' : List String} {r' : Request} {files' : Files} {path' : String},
        Request.ofArguments args' = .ok r' → r'.work = .apply path' →
        r'.addressBook = r.addressBook →
        (∀ p, s.addressBook = some p →
          files'.isFile p = files.isFile p ∧ files'.content? p = files.content? p) →
        r'.Prepared args' environment files' s path') ∧
      ∀ {args' : List String} {r' : Request} {environment' : Environment} {files' : Files}
        {s' : Settings} {path' : String}, r'.Prepared args' environment' files' s' path' →
        r'.client = r.client →
        files'.read View.shape.read path' = files.read View.shape.read path →
        files'.Holds r'.message m →
        ∃ modified', (ofRun args' environment' files').result = .printed (s'.present (.object
          [("modified", .boolean modified'), ("message", m.toJson)])) := by
  rcases Request.prepared_or_failed hargs hwork with ⟨s, hready⟩ | ⟨e, hfailed⟩
  · refine ⟨s, hready, hready.of_congr, ?_⟩
    intro args' r' environment' files' s' path' hready' hclient hsame hfile
    rcases hready.result_ofRun with ⟨lookup, hresult⟩
    rw [hprinted] at hresult
    rcases applied_eq_printed hresult.symm with ⟨first, v, hmessage, hedits, htext⟩
    have hrecoded := Applied.recoded_eq_of_present (a := ⟨modified, m⟩) htext
    have hcoded := Applied.isCoded_message (Files.isCoded_of_read hmessage) r.client lookup v
    have hread := Files.read_of_holds hfile
    rcases hready'.result_ofRun with ⟨lookup', hresult'⟩
    rcases Applied.exists_ofEdits_again first r.client lookup lookup' v with ⟨modified', hagain⟩
    have htwice := Applied.toJson_eq_of_recoded hrecoded modified'
    refine ⟨modified', ?_⟩
    rw [← hagain] at htwice
    rw [hresult', hread, hsame, hedits, hclient, hrecoded, Message.recoded_eq_iff _ |>.mpr hcoded]
    exact congrArg (fun j => Outcome.printed (s'.present j)) htwice.symm
  · rw [hprinted] at hfailed
    cases hfailed

def Request.applyArguments : List String :=
  ["apply", "-m", "message", "-e", "edits", "-c", "1.2.3.4"]

def sloppyView : View :=
  { (View.ofMessage oddMessage "1.2.3.4" AddressBook.empty).1 with
    compress := true
    answers := [.nil] }

def sloppyMessage : Message :=
  { addressMessage with
    header := { addressMessage.header with opcode := 15 }
    answers := []
    compress := true }

theorem Outcome.apply_again_sloppy :
    let edits := Settings.standard.present sloppyView.toJson
    (ofRun Request.applyArguments ⟨fun _ => none⟩ (.ofTexts oddText edits)).result =
        .printed (Settings.standard.present (.object
          [("modified", .boolean true), ("message", sloppyMessage.toJson)])) ∧
      ∃ modified, (ofRun Request.applyArguments ⟨fun _ => none⟩
          (.ofTexts (sloppyMessage.toJson.render .compact) edits)).result =
        .printed (Settings.standard.present (.object
          [("modified", .boolean modified), ("message", sloppyMessage.toJson)])) := by
  intro edits
  have hedits (message : String) : (Files.ofTexts message edits).read View.shape.read "edits" =
      .ok sloppyView := by
    have hsolid := View.solid_ofMessage oddMessage "1.2.3.4" AddressBook.empty
    apply Files.read_present (s := Settings.standard)
    · rfl
    · rw [View.forall_mappings] at hsolid ⊢
      refine ⟨?_, hsolid.right⟩
      intro fields hfields
      cases List.mem_singleton.mp hfields
      exact ⟨trivial, Nat.zero_le 1⟩
  have hmodified : (Session.edited oddMessage "1.2.3.4" AddressBook.empty
        sloppyView).isModified = true := by
    decide +kernel
  have hprinted : (ofRun Request.applyArguments ⟨fun _ => none⟩ (.ofTexts oddText edits)).result =
      .printed (Settings.standard.present (.object
        [("modified", .boolean true), ("message", sloppyMessage.toJson)])) := by
    have hprint := Request.outcome_apply
      (Request.finds_ofTexts ofString_oddText edits "1.2.3.4" (.apply "edits")) rfl
      (hedits oddText)
    have happlied := Applied.ofEdits_of_modified hmodified
    have hrebuilt : sloppyView.toMessage.1 = sloppyMessage := rfl
    rw [Applied.ofEdits, hrebuilt] at happlied
    rw [Outcome.ofRun_eq_printed rfl hprint, happlied]
    rfl
  rcases apply_again rfl rfl hprinted with ⟨s, hready, _, hagain⟩
  refine ⟨hprinted, hagain (Request.prepared_ofTexts _ _) rfl ?_ ?_⟩
  · rw [hedits, hedits]
  · exact ⟨_, rfl, Json.spells_render .compact _⟩

end DnsView
