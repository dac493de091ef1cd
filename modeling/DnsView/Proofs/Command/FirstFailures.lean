import DnsView.Proofs.Command.Retries

/-!
# Why runs fail

A run goes through stages, and each stage looks at inputs of its own: what a stage fails with can be
told without regard to the others.  A run fails if and only if a stage does, and then with the error
of the first such stage and nothing on the standard output.  No other reason is left: whatever the
message and the edits hold, a run whose stages all pass prints a document that can be read back.
-/

namespace DnsView

/-!
## Stages

There are five stages, in this order.  What a stage fails with is stated about its own inputs, so
that the first stage to fail can be found without running any.
-/

inductive Stage where
  | logLevel
  | bookPath
  | book
  | message
  | edits
deriving DecidableEq, Repr

def Stage.all : List Stage := [.logLevel, .bookPath, .book, .message, .edits]

theorem findSome?_cons_eq_or {α β : Type} (f : α → Option β) (a : α) (l : List α) :
    (a :: l).findSome? f = (f a).or (l.findSome? f) := by
  rw [List.findSome?_cons]
  cases f a with
  | none =>
      rfl
  | some b =>
      rfl

theorem Stage.mem_all (stage : Stage) : stage ∈ all := by
  cases stage
  all_goals decide

namespace Request

/-- What a stage fails with on its own inputs, whatever becomes of the other stages. -/
def failure? (r : Request) (environment : Environment) (files : Files) : Stage → Option RunError
  | .logLevel =>
      let level := (r.settings environment).logLevel
      if level ∈ Settings.levelNames then none else some (.settings (.logLevel level))
  | .bookPath =>
      ((r.settings environment).addressBook.filter fun path => !files.isFile path).map
        fun path => .settings (.addressBook path)
  | .book =>
      (r.settings environment).addressBook.bind fun path =>
        (errorOf? (AddressBook.load files path)).map .addressBook
  | .message => (errorOf? (files.read Message.shape.read r.message)).map .message
  | .edits =>
      match r.work with
      | .inspect => none
      | .apply path => (errorOf? (files.read View.shape.read path)).map .edits

/-- What the first stage that fails does so with. -/
def firstFailure? (r : Request) (environment : Environment) (files : Files) : Option RunError :=
  Stage.all.findSome? (r.failure? environment files)

variable {r : Request} {environment : Environment} {files : Files}

theorem firstFailure?_eq_none_iff :
    r.firstFailure? environment files = none ↔
      ∀ stage, r.failure? environment files stage = none := by
  rw [firstFailure?, List.findSome?_eq_none_iff]
  constructor
  · intro h stage
    exact h stage stage.mem_all
  · intro h stage _
    exact h stage

theorem errorOf?_load (r : Request) (environment : Environment) (files : Files) :
    (errorOf? (Settings.load environment files r.addressBook)).map RunError.settings =
      (r.failure? environment files .logLevel).or (r.failure? environment files .bookPath) := by
  have hload : errorOf? (Settings.load environment files r.addressBook) =
      (r.settings environment).error? files := by
    apply Option.ext
    intro e
    rw [errorOf?_eq_some_iff, Settings.load_eq_error_iff, settings]
  rw [hload, Settings.error?_eq, failure?, failure?]
  split
  · rw [Option.map_map, Option.none_or]
    rfl
  · rfl

theorem errorOf?_loadBook (r : Request) (environment : Environment) (files : Files) :
    (errorOf? ((r.settings environment).loadBook files).outcome).map RunError.addressBook =
      r.failure? environment files .book := by
  rw [failure?]
  cases hbook : (r.settings environment).addressBook with
  | none =>
      rw [Settings.outcome_loadBook_none hbook]
      rfl
  | some path =>
      rw [Settings.outcome_loadBook_some hbook, Option.bind_some, AddressBook.load,
        errorOf?_settled]

theorem errorOf?_run (r : Request) (environment : Environment) (files : Files) :
    errorOf? (r.run (r.settings environment) files).outcome =
      (r.failure? environment files .book).or
        ((r.failure? environment files .message).or (r.failure? environment files .edits)) := by
  rw [outcome_run, ← errorOf?_loadBook, ← errorOf?_mapError]
  apply errorOf?_bind
  intro book _
  rw [failure?, ← errorOf?_mapError]
  apply errorOf?_bind
  intro m _
  rw [failure?]
  cases r.work with
  | inspect =>
      rfl
  | apply path =>
      simp only [← errorOf?_mapError]
      cases (files.read View.shape.read path).mapError RunError.edits with
      | error e =>
          rfl
      | ok v =>
          rfl

/-- A request fails with what its first failing stage fails with. -/
theorem errorOf?_print (r : Request) (environment : Environment) (files : Files) :
    errorOf? (r.print environment files).outcome = r.firstFailure? environment files := by
  have hprint : errorOf? (r.print environment files).outcome =
      ((r.failure? environment files .logLevel).or (r.failure? environment files .bookPath)).or
        ((r.failure? environment files .book).or
          ((r.failure? environment files .message).or (r.failure? environment files .edits))) := by
    rw [outcome_print, ← errorOf?_load, ← errorOf?_mapError]
    apply errorOf?_bind
    intro s hload
    have hs : s = r.settings environment := by
      rw [mapError_eq_ok] at hload
      exact (Settings.load_eq_ok_iff.mp hload).left
    rw [hs, ← errorOf?_run]
    cases (r.run (r.settings environment) files).outcome with
    | error e =>
        rfl
    | ok shown =>
        rfl
  rw [hprint, firstFailure?, Stage.all]
  simp only [findSome?_cons_eq_or, List.findSome?_nil, Option.or_none, Option.or_assoc]

theorem finds_of_firstFailure?_eq_none (h : r.firstFailure? environment files = none) :
    ∃ s book m, r.Finds environment files s book m ∧
      ∀ path, r.work = .apply path → ∃ v, files.read View.shape.read path = .ok v := by
  rw [firstFailure?_eq_none_iff] at h
  have hload : errorOf? (Settings.load environment files r.addressBook) = none := by
    rw [← Option.map_eq_none_iff, errorOf?_load, h, h]
    rfl
  rcases errorOf?_eq_none_iff.mp hload with ⟨s, hs⟩
  have hloadBook : errorOf? (s.loadBook files).outcome = none := by
    rw [(Settings.load_eq_ok_iff.mp hs).left, ← Option.map_eq_none_iff]
    exact (errorOf?_loadBook r environment files).trans (h .book)
  rcases errorOf?_eq_none_iff.mp hloadBook with ⟨book, hbook⟩
  rcases errorOf?_eq_none_iff.mp (Option.map_eq_none_iff.mp (h .message)) with ⟨m, hm⟩
  refine ⟨s, book, m, ⟨hs, hbook, hm⟩, ?_⟩
  intro path hwork
  have hedits := h .edits
  rw [failure?, hwork] at hedits
  exact errorOf?_eq_none_iff.mp (Option.map_eq_none_iff.mp hedits)

end Request

/-!
## Results read back
-/

namespace Outcome

variable {args : List String} {r : Request} {environment : Environment} {files : Files}
  {s : Settings} {book : AddressBook} {m : Message}

/-- What is printed of a message is read back as its view. -/
theorem output_shows_view (hargs : Request.ofArguments args = .ok r)
    (hfinds : r.Finds environment files s book m) (hwork : r.work = .inspect) :
    View.ofString (ofRun args environment files).result.output =
      .ok (View.ofMessage m r.client book).1 := by
  rw [ofRun_eq_printed hargs (Request.outcome_inspect hfinds hwork), output]
  exact View.read_present s (View.solid_ofMessage m r.client book)

/-- What is printed after edits is read back with the message that is passed on. -/
theorem output_shows_chosen (hargs : Request.ofArguments args = .ok r)
    (hfinds : r.Finds environment files s book m) {path : String} (hwork : r.work = .apply path)
    {v : View} (hedits : files.read View.shape.read path = .ok v) :
    Json.read Applied.shape.read (ofRun args environment files).result.output =
      .ok (if (Session.edited m r.client book v).isModified then ⟨true, v.toMessage.1⟩
        else ⟨false, m⟩) := by
  have hcoded : (Applied.ofSession m (Session.edited m r.client book v)).result.message.IsCoded :=
    Applied.isCoded_message (Files.isCoded_of_read hfinds.message) r.client book v
  rw [ofRun_eq_printed hargs (Request.outcome_apply hfinds hwork hedits), output,
    Applied.read_present s hcoded, Applied.result_ofSession]
  rfl

/--
A run fails only for its inputs.  It does so if and only if a stage fails on its own inputs, and
then with the error of the first such stage and with nothing on the standard output.  If no stage
fails, it succeeds and prints a document that can be read back: the view of the message, or after
edits whether they modify the message, and the message that is passed on.
-/
theorem fails_only_for_inputs (hargs : Request.ofArguments args = .ok r)
    (environment : Environment) (files : Files) :
    let outcome := (ofRun args environment files).result
    (outcome.status ≠ 0 ↔ ∃ stage e, r.failure? environment files stage = some e) ∧
      (∀ e, outcome = .failed e ↔ r.firstFailure? environment files = some e) ∧
      (outcome.status ≠ 0 → outcome.output = "") ∧
      ((∀ stage, r.failure? environment files stage = none) →
        ∃ s book m, r.Finds environment files s book m ∧
          (r.work = .inspect →
            View.ofString outcome.output = .ok (View.ofMessage m r.client book).1) ∧
          ∀ path, r.work = .apply path → ∃ v, files.read View.shape.read path = .ok v ∧
            Json.read Applied.shape.read outcome.output =
              .ok (if (Session.edited m r.client book v).isModified then ⟨true, v.toMessage.1⟩
                else ⟨false, m⟩)) := by
  intro outcome
  have hprint := r.errorOf?_print environment files
  cases hfirst : r.firstFailure? environment files with
  | some e =>
      have hfailed : outcome = .failed e :=
        ofRun_eq_failed hargs (errorOf?_eq_some_iff.mp (hprint.trans hfirst))
      have hstage : ∃ stage e, r.failure? environment files stage = some e := by
        rcases List.exists_of_findSome?_eq_some hfirst with ⟨stage, _, hstage⟩
        exact ⟨stage, e, hstage⟩
      have hstatus : outcome.status ≠ 0 := by
        rw [hfailed]
        simp [status]
      refine ⟨⟨fun _ => hstage, fun _ => hstatus⟩, ?_, ?_, ?_⟩
      · intro e'
        rw [hfailed, Outcome.failed.injEq, Option.some.injEq]
      · intro _
        rw [hfailed]
        rfl
      · intro hnone
        rcases hstage with ⟨stage, e', hstage⟩
        rw [hnone] at hstage
        cases hstage
  | none =>
      have hnone := Request.firstFailure?_eq_none_iff.mp hfirst
      rcases Request.finds_of_firstFailure?_eq_none hfirst with ⟨s, book, m, hfinds, hedits⟩
      rcases errorOf?_eq_none_iff.mp (hprint.trans hfirst) with ⟨shown, hshown⟩
      have hprinted : outcome = .printed shown := ofRun_eq_printed hargs hshown
      refine ⟨?_, ?_, ?_, fun _ => ⟨s, book, m, hfinds, output_shows_view hargs hfinds, ?_⟩⟩
      · rw [hprinted]
        simp [status, hnone]
      · intro e
        rw [hprinted]
        simp
      · intro hstatus
        rw [hprinted] at hstatus
        exact absurd rfl hstatus
      · intro path hwork
        rcases hedits path hwork with ⟨v, hv⟩
        exact ⟨v, hv, output_shows_chosen hargs hfinds hwork hv⟩

theorem fails_only_for_inputs_odd :
    (ofRun ["apply", "-m", "message", "-e", "edits", "-c", "1.2.3.4"] ⟨fun _ => none⟩
        (.ofTexts "[" "]")).result = .failed (.message (.malformed .malformed)) ∧
      (ofRun ["apply", "--address-book", "book", "-m", "message", "-e", "edits", "-c", "1.2.3.4"]
        ⟨fun _ => none⟩ (.ofTexts "[" "]")).result = .failed (.settings (.addressBook "book")) ∧
      ∃ book : AddressBook,
        View.ofString (ofRun ["inspect", "-m", "message", "-c", "1.2.3.4"] ⟨fun _ => none⟩
          (.ofTexts oddText "]")).result.output =
            .ok (View.ofMessage oddMessage "1.2.3.4" book).1 := by
  have hmalformed : (Files.ofTexts "[" "]").read Message.shape.read "message" =
      .error (.malformed .malformed) := by
    have htext : (Files.ofTexts "[" "]").content? "message" = some "[".toUTF8 := rfl
    rw [Files.read, Files.text?_of_content? htext]
    cbv
  have hfound := (Request.finds_ofTexts ofString_oddText "]" "1.2.3.4" .inspect).message
  have hargs : Request.ofArguments ["apply", "-m", "message", "-e", "edits", "-c", "1.2.3.4"] =
      .ok ⟨none, "message", "1.2.3.4", .apply "edits"⟩ := rfl
  have hargs' : Request.ofArguments
      ["apply", "--address-book", "book", "-m", "message", "-e", "edits", "-c", "1.2.3.4"] =
        .ok ⟨some "book", "message", "1.2.3.4", .apply "edits"⟩ := rfl
  have hargs'' : Request.ofArguments ["inspect", "-m", "message", "-c", "1.2.3.4"] =
      .ok ⟨none, "message", "1.2.3.4", .inspect⟩ := rfl
  have happly := fails_only_for_inputs hargs ⟨fun _ => none⟩ (.ofTexts "[" "]")
  have hbook := fails_only_for_inputs hargs' ⟨fun _ => none⟩ (.ofTexts "[" "]")
  have hinspect := fails_only_for_inputs hargs'' ⟨fun _ => none⟩ (.ofTexts oddText "]")
  refine ⟨(happly.right.left _).mpr ?_, (hbook.right.left _).mpr rfl, ?_⟩
  · have hlater : Request.firstFailure? ⟨none, "message", "1.2.3.4", .apply "edits"⟩
        ⟨fun _ => none⟩ (.ofTexts "[" "]") =
          ((errorOf? ((Files.ofTexts "[" "]").read Message.shape.read "message")).map
            RunError.message).or ((errorOf? ((Files.ofTexts "[" "]").read View.shape.read
              "edits")).map RunError.edits) := rfl
    rw [hlater, hmalformed]
    rfl
  · have hpass : ∀ stage, Request.failure? ⟨none, "message", "1.2.3.4", .inspect⟩
        ⟨fun _ => none⟩ (.ofTexts oddText "]") stage = none := by
      intro stage
      cases stage with
      | message =>
          rw [Request.failure?, hfound]
          rfl
      | logLevel | bookPath | book | edits =>
          rfl
    rcases hinspect.right.right.right hpass with ⟨s, book, m, hfinds, hread, _⟩
    have hm : m = oddMessage := Except.ok.inj (hfinds.message.symm.trans hfound)
    exact ⟨book, hm ▸ hread rfl⟩

end Outcome

end DnsView
