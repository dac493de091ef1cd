import DnsView.View.Session
import Mathlib.Data.List.Forall2
import Mathlib.Tactic.Common

/-!
# Sections and their records

What becomes of the sections of a message or a view, element by element, and what is told of it.
-/

/-!
## Converting sections

A section becomes what comes of its elements one by one, in their order.  Each of its places is the
place of one result or of one failure, and a failure names the section, the place and the reason.
-/

namespace DnsView

variable {α β γ : Type} (part : Section)

theorem results_convertFrom (convert : α → Except CodecError β) (index : Nat) (as : List α) :
    (convertFrom part convert index as).results =
      as.filterMap fun a => (convert a).toOption := by
  induction as generalizing index with
  | nil =>
      rfl
  | cons a as ih =>
      cases h : convert a with
      | error e =>
          simp [convertFrom, h, ih, Except.toOption]
      | ok b =>
          simp [convertFrom, h, ih, Except.toOption]

theorem failures_convertFrom_eq_nil (convert : α → Except CodecError β) {as : List α}
    (h : ∀ a ∈ as, ∃ b, convert a = .ok b) (index : Nat) :
    (convertFrom part convert index as).failures = [] := by
  induction as generalizing index with
  | nil =>
      rfl
  | cons a as ih =>
      rcases h a (by simp) with ⟨b, hb⟩
      have hrest := ih (fun c hc => h c (by simp [hc])) (index + 1)
      simp [convertFrom, hb, hrest]

theorem results_convertSection (convert : α → Except CodecError β) (as : List α) :
    (convertSection part convert as).results = as.filterMap fun a => (convert a).toOption :=
  results_convertFrom part convert 0 as

theorem failures_convertSection_eq_nil (convert : α → Except CodecError β) {as : List α}
    (h : ∀ a ∈ as, ∃ b, convert a = .ok b) : (convertSection part convert as).failures = [] :=
  failures_convertFrom_eq_nil part convert h 0

theorem exists_of_mem_results {convert : α → Except CodecError β} {as : List α} {b : β}
    (h : b ∈ (convertSection part convert as).results) : ∃ a ∈ as, convert a = .ok b := by
  rw [results_convertSection] at h
  rcases List.mem_filterMap.mp h with ⟨a, ha, hb⟩
  refine ⟨a, ha, ?_⟩
  cases hconvert : convert a with
  | error e =>
      simp [hconvert, Except.toOption] at hb
  | ok c =>
      simpa [hconvert, Except.toOption] using hb

theorem convertFrom_congr {convert : α → Except CodecError β} {as bs : List α}
    (h : List.Forall₂ (fun a b => convert a = convert b) as bs) (index : Nat) :
    convertFrom part convert index as = convertFrom part convert index bs := by
  induction h generalizing index with
  | nil =>
      rfl
  | cons hfirst _ ih =>
      rw [convertFrom, convertFrom, hfirst, ih]

/-!
### Places

Each place is counted from the index of the first element, so the inductions go through sections
that begin anywhere.
-/

theorem mem_failures_convertFrom (convert : α → Except CodecError β) (index : Nat) (as : List α)
    (f : Failure) :
    f ∈ (convertFrom part convert index as).failures ↔
      f.part = part ∧ ∃ a, (a, f.index) ∈ as.zipIdx index ∧ convert a = .error f.error := by
  induction as generalizing index with
  | nil =>
      simp [convertFrom]
  | cons a as ih =>
      rw [List.zipIdx_cons, convertFrom]
      cases h : convert a with
      | ok b =>
          rw [ih]
          constructor
          · rintro ⟨hpart, c, hc, herror⟩
            exact ⟨hpart, c, List.mem_cons_of_mem _ hc, herror⟩
          · rintro ⟨hpart, c, hc, herror⟩
            refine ⟨hpart, c, ?_, herror⟩
            rcases List.mem_cons.mp hc with hhead | htail
            · cases hhead
              rw [h] at herror
              cases herror
            · exact htail
      | error e =>
          rw [List.mem_cons, ih]
          constructor
          · rintro (rfl | ⟨hpart, c, hc, herror⟩)
            · exact ⟨rfl, a, List.mem_cons_self, h⟩
            · exact ⟨hpart, c, List.mem_cons_of_mem _ hc, herror⟩
          · rintro ⟨hpart, c, hc, herror⟩
            rcases List.mem_cons.mp hc with hhead | htail
            · left
              rcases f with ⟨fpart, findex, ferror⟩
              cases hhead
              rw [h] at herror
              cases herror
              cases hpart
              rfl
            · exact Or.inr ⟨hpart, c, htail, herror⟩

theorem ascending_failures_convertFrom (convert : α → Except CodecError β) (index : Nat)
    (as : List α) :
    (convertFrom part convert index as).failures.Pairwise fun f g => f.index < g.index := by
  induction as generalizing index with
  | nil =>
      exact List.Pairwise.nil
  | cons a as ih =>
      rw [convertFrom]
      cases h : convert a with
      | ok b =>
          exact ih (index + 1)
      | error e =>
          apply List.Pairwise.cons _ (ih (index + 1))
          intro g hg
          rcases (mem_failures_convertFrom part convert (index + 1) as g).mp hg with ⟨_, c, hc, _⟩
          exact List.le_snd_of_mem_zipIdx hc

theorem exists_places_convertFrom (convert : α → Except CodecError β) (index : Nat)
    (as : List α) :
    ∃ places : List Nat, places.Pairwise (· < ·) ∧
      List.Forall₂ (fun i b => ∃ a, (a, i) ∈ as.zipIdx index ∧ convert a = .ok b) places
        (convertFrom part convert index as).results ∧
      (places ++ (convertFrom part convert index as).failures.map Failure.index).Perm
        (List.range' index as.length) := by
  induction as generalizing index with
  | nil =>
      exact ⟨[], List.Pairwise.nil, List.Forall₂.nil, List.Perm.refl _⟩
  | cons a as ih =>
      rcases ih (index + 1) with ⟨places, hascending, hconverted, hperm⟩
      have hlater : List.Forall₂ (fun i b => ∃ c, (c, i) ∈ (a :: as).zipIdx index ∧
          convert c = .ok b) places (convertFrom part convert (index + 1) as).results := by
        apply hconverted.imp
        rintro i b ⟨c, hc, hb⟩
        exact ⟨c, List.mem_cons_of_mem _ hc, hb⟩
      rw [convertFrom, List.length_cons, List.range'_succ]
      cases h : convert a with
      | ok b =>
          refine ⟨index :: places, ?_, ?_, ?_⟩
          · apply List.Pairwise.cons _ hascending
            intro i hi
            have hmem : i ∈ List.range' (index + 1) as.length :=
              hperm.subset (List.mem_append_left _ hi)
            exact (List.mem_range'_1.mp hmem).left
          · exact List.Forall₂.cons ⟨a, List.mem_cons_self, h⟩ hlater
          · exact hperm.cons index
      | error e =>
          refine ⟨places, hascending, hlater, ?_⟩
          exact List.perm_middle.trans (hperm.cons index)

end DnsView

/-!
## Accounts of records

A record may be left out on the way from a message to its view or back, but never without notice.
Every place of a section is the place of one result or of one failure, results and failures come in
the order of their places, and no section has any part in what comes of another.  What is told of a
passage are its failures, and a summary whose numbers add up to the records there were.
-/

namespace DnsView

def Message.recordsOf (m : Message) : Section → List Record
  | .answer => m.answers
  | .authority => m.authorities
  | .additional => m.additionals

def View.mappingsOf (v : View) : Section → List Mapping
  | .answer => v.answers
  | .authority => v.nameservers
  | .additional => v.extras

variable {α β : Type}

/-- How results and a report account for the elements of three sections. -/
structure Accounts (convert : α → Except CodecError β) (source : Section → List α)
    (results : Section → List β) (report : Report) : Prop where
  results_eq : ∀ part, results part = (source part).filterMap fun a => (convert a).toOption
  /-- Each failure is in the list of one section, and the lists come in this order. -/
  failures_eq : report.failures =
    report.failuresIn .answer ++ report.failuresIn .additional ++ report.failuresIn .authority
  mem_failuresIn : ∀ part f, f ∈ report.failuresIn part ↔
    f.part = part ∧ ∃ a, (source part)[f.index]? = some a ∧ convert a = .error f.error
  ascending : ∀ part, (report.failuresIn part).Pairwise fun f g => f.index < g.index
  /-- The places of the results, and with those of the failures all places, each of them once. -/
  places : ∀ part, ∃ places : List Nat, places.Pairwise (· < ·) ∧
    List.Forall₂ (fun i b => ∃ a, (source part)[i]? = some a ∧ convert a = .ok b) places
      (results part) ∧
    (places ++ (report.failuresIn part).map Failure.index).Perm
      (List.range (source part).length)
  lengths : ∀ part,
    (results part).length + (report.failuresIn part).length = (source part).length

/-!
### Three sections and one report
-/

section

variable (convert : α → Except CodecError β)

def reportOn (source : Section → List α) : Report :=
  ⟨(convertSection .answer convert (source .answer)).failures ++
    (convertSection .additional convert (source .additional)).failures ++
    (convertSection .authority convert (source .authority)).failures⟩

theorem part_of_mem_failures {part : Section} {as : List α} {f : Failure}
    (h : f ∈ (convertSection part convert as).failures) : f.part = part :=
  ((mem_failures_convertFrom part convert 0 as f).mp h).left

theorem filter_failures_same (part : Section) (as : List α) :
    ((convertSection part convert as).failures.filter fun f => f.part = part) =
      (convertSection part convert as).failures := by
  apply List.filter_eq_self.mpr
  intro f hf
  exact decide_eq_true (part_of_mem_failures convert hf)

theorem filter_failures_other {part other : Section} (h : other ≠ part) (as : List α) :
    ((convertSection other convert as).failures.filter fun f => f.part = part) = [] := by
  apply List.filter_eq_nil_iff.mpr
  intro f hf
  rw [part_of_mem_failures convert hf, decide_eq_true_eq]
  exact h

theorem failuresIn_reportOn (source : Section → List α) (part : Section) :
    (reportOn convert source).failuresIn part =
      (convertSection part convert (source part)).failures := by
  simp only [reportOn, Report.failuresIn, List.filter_append]
  cases part with
  | answer =>
      rw [filter_failures_same, filter_failures_other convert (by decide),
        filter_failures_other convert (by decide), List.append_nil, List.append_nil]
  | authority =>
      rw [filter_failures_same, filter_failures_other convert (by decide),
        filter_failures_other convert (by decide)]
      rfl
  | additional =>
      rw [filter_failures_same, filter_failures_other convert (by decide),
        filter_failures_other convert (by decide), List.append_nil]
      rfl

theorem exists_places (part : Section) (as : List α) :
    ∃ places : List Nat, places.Pairwise (· < ·) ∧
      List.Forall₂ (fun i b => ∃ a, as[i]? = some a ∧ convert a = .ok b) places
        (convertSection part convert as).results ∧
      (places ++ (convertSection part convert as).failures.map Failure.index).Perm
        (List.range as.length) := by
  rcases exists_places_convertFrom part convert 0 as with ⟨places, hascending, hresults, hperm⟩
  refine ⟨places, hascending, ?_, ?_⟩
  · apply hresults.imp
    rintro i b ⟨a, ha, hb⟩
    exact ⟨a, List.mem_zipIdx_iff_getElem?.mp ha, hb⟩
  · rw [List.range_eq_range']
    exact hperm

theorem accounts_reportOn (source : Section → List α) :
    Accounts convert source (fun part => (convertSection part convert (source part)).results)
      (reportOn convert source) where
  results_eq := by
    intro part
    exact results_convertSection part convert (source part)
  failures_eq := by
    simp only [failuresIn_reportOn]
    rfl
  mem_failuresIn := by
    intro part f
    rw [failuresIn_reportOn]
    constructor
    · intro hf
      rcases (mem_failures_convertFrom part convert 0 _ f).mp hf with ⟨hpart, a, ha, herror⟩
      exact ⟨hpart, a, List.mem_zipIdx_iff_getElem?.mp ha, herror⟩
    · rintro ⟨hpart, a, ha, herror⟩
      apply (mem_failures_convertFrom part convert 0 _ f).mpr
      exact ⟨hpart, a, List.mem_zipIdx_iff_getElem?.mpr ha, herror⟩
  ascending := by
    intro part
    rw [failuresIn_reportOn]
    exact ascending_failures_convertFrom part convert 0 (source part)
  places := by
    intro part
    rw [failuresIn_reportOn]
    exact exists_places convert part (source part)
  lengths := by
    intro part
    rcases exists_places convert part (source part) with ⟨places, _, hresults, hperm⟩
    have hlength := hperm.length_eq
    rw [List.length_append, List.length_map, List.length_range] at hlength
    rw [failuresIn_reportOn, ← hresults.length_eq]
    exact hlength

end

namespace Accounts

variable {convert : α → Except CodecError β} {source source' : Section → List α}
  {results results' : Section → List β} {report report' : Report}

theorem length_failures (h : Accounts convert source results report) :
    (results .answer).length + (results .authority).length + (results .additional).length +
        report.failures.length =
      (source .answer).length + (source .authority).length + (source .additional).length := by
  have hfailures := congrArg List.length h.failures_eq
  rw [List.length_append, List.length_append] at hfailures
  have hanswers := h.lengths .answer
  have hauthorities := h.lengths .authority
  have hadditionals := h.lengths .additional
  omega

theorem nodup_failuresIn (h : Accounts convert source results report) (part : Section) :
    (report.failuresIn part).Nodup := by
  apply (h.ascending part).imp
  rintro f g hless rfl
  exact Nat.lt_irrefl f.index hless

/-- What comes of a section does not depend on what the other sections hold. -/
theorem congr (h : Accounts convert source results report)
    (h' : Accounts convert source' results' report') {part : Section}
    (hsource : source part = source' part) :
    results part = results' part ∧ report.failuresIn part = report'.failuresIn part := by
  constructor
  · rw [h.results_eq, h'.results_eq, hsource]
  · have hperm : (report.failuresIn part).Perm (report'.failuresIn part) := by
      apply (List.perm_ext_iff_of_nodup (h.nodup_failuresIn part) (h'.nodup_failuresIn part)).mpr
      intro f
      rw [h.mem_failuresIn, h'.mem_failuresIn, hsource]
    apply hperm.eq_of_pairwise _ (h.ascending part) (h'.ascending part)
    intro f g _ _ hless hgreater
    exact absurd hless (Nat.lt_asymm hgreater)

end Accounts

/-!
### Messages and views
-/

theorem View.accounts_ofMessage (m : Message) (client : String) (lookup : Lookup) :
    Accounts Record.toMapping m.recordsOf (ofMessage m client lookup).1.mappingsOf
      (ofMessage m client lookup).2 := by
  have hresults : (ofMessage m client lookup).1.mappingsOf = fun part =>
      (convertSection part Record.toMapping (m.recordsOf part)).results := by
    funext part
    cases part with
    | answer =>
        rfl
    | authority =>
        rfl
    | additional =>
        rfl
  rw [hresults]
  exact accounts_reportOn Record.toMapping m.recordsOf

theorem View.accounts_toMessage (v : View) :
    Accounts Record.ofMapping v.mappingsOf v.toMessage.1.recordsOf v.toMessage.2 := by
  have hresults : v.toMessage.1.recordsOf = fun part =>
      (convertSection part Record.ofMapping (v.mappingsOf part)).results := by
    funext part
    cases part with
    | answer =>
        rfl
    | authority =>
        rfl
    | additional =>
        rfl
  rw [hresults]
  exact accounts_reportOn Record.ofMapping v.mappingsOf

/-!
### What is told
-/

/--
Every failure is told as an error, with its section, its place and its reason, and nothing else is.
The only summary counts the records that were converted and those that were left out, which are all
there were.
-/
structure Told (events : List Event) (report : Report) (summary : Nat → Nat → Event)
    (converted total : Nat) : Prop where
  errors : (events.filter fun e => e.level = .error) =
    report.failures.map fun f => .recordDropped f.part f.index f.error
  summary : (events.filter fun e => e.level = .debug) =
    [summary converted report.failures.length]
  total : converted + report.failures.length = total

theorem Failure.filter_error_events (fs : List Failure) :
    ((fs.map Failure.event).filter fun e => e.level = .error) = fs.map Failure.event := by
  apply List.filter_eq_self.mpr
  intro e he
  rcases List.mem_map.mp he with ⟨f, _, rfl⟩
  rfl

theorem Failure.filter_debug_events (fs : List Failure) :
    ((fs.map Failure.event).filter fun e => e.level = .debug) = [] := by
  apply List.filter_eq_nil_iff.mpr
  intro e he
  rcases List.mem_map.mp he with ⟨f, _, rfl⟩
  exact Bool.false_ne_true

theorem Told.of_events (others : List Event) {events : List Event} {report : Report}
    {summary : Nat → Nat → Event} {converted total : Nat}
    (hevents : events = report.failures.map Failure.event ++ others)
    (herrors : (others.filter fun e => e.level = .error) = [])
    (hsummary : (others.filter fun e => e.level = .debug) =
      [summary converted report.failures.length])
    (htotal : converted + report.failures.length = total) :
    Told events report summary converted total where
  errors := by
    rw [hevents, List.filter_append, Failure.filter_error_events, herrors, List.append_nil]
    rfl
  summary := by
    rw [hevents, List.filter_append, Failure.filter_debug_events, hsummary, List.nil_append]
  total := htotal

namespace Session

theorem told_ofMessage (m : Message) (client : String) (lookup : Lookup) :
    Told (ofMessage m client lookup).events (ofMessage m client lookup).result.2
      (.viewBuilt m.header.id client m.questions.length)
      (ofMessage m client lookup).result.1.view.recordCount m.recordCount := by
  have hquestions : (View.ofMessage m client lookup).1.questions.length = m.questions.length :=
    List.length_map _
  rw [← hquestions]
  apply Told.of_events [.baselineStored _, .viewBuilt ..] rfl rfl rfl
  exact (View.accounts_ofMessage m client lookup).length_failures

theorem told_toMessage (s : Session) :
    Told s.toMessage.events s.toMessage.result.2
      (.messageRebuilt s.view.header.id s.view.questions.length)
      s.toMessage.result.1.recordCount s.view.recordCount := by
  have hquestions : s.view.toMessage.1.questions.length = s.view.questions.length :=
    List.length_map _
  rw [← hquestions]
  apply Told.of_events [.messageRebuilt ..] rfl rfl rfl
  exact (View.accounts_toMessage s.view).length_failures

/--
No record is lost, doubled, moved or misattributed between a message and its view, in either
direction.  The errors told are the failures in their order, the records and the failures of a
summary add up to the records there were, and what comes of a section depends on that section only.
-/
theorem every_record_accounted_for :
    (∀ (m : Message) (client : String) (lookup : Lookup),
      let built := ofMessage m client lookup
      Accounts Record.toMapping m.recordsOf built.result.1.view.mappingsOf built.result.2 ∧
        Told built.events built.result.2 (.viewBuilt m.header.id client m.questions.length)
          built.result.1.view.recordCount m.recordCount) ∧
      (∀ s : Session,
        let rebuilt := s.toMessage
        Accounts Record.ofMapping s.view.mappingsOf rebuilt.result.1.recordsOf rebuilt.result.2 ∧
          Told rebuilt.events rebuilt.result.2
            (.messageRebuilt s.view.header.id s.view.questions.length)
            rebuilt.result.1.recordCount s.view.recordCount) ∧
      (∀ (m m' : Message) (client client' : String) (lookup lookup' : Lookup) (part : Section),
        m.recordsOf part = m'.recordsOf part →
          let built := (ofMessage m client lookup).result
          let built' := (ofMessage m' client' lookup').result
          built.1.view.mappingsOf part = built'.1.view.mappingsOf part ∧
            built.2.failuresIn part = built'.2.failuresIn part) ∧
      (∀ (s s' : Session) (part : Section), s.view.mappingsOf part = s'.view.mappingsOf part →
        let rebuilt := s.toMessage.result
        let rebuilt' := s'.toMessage.result
        rebuilt.1.recordsOf part = rebuilt'.1.recordsOf part ∧
          rebuilt.2.failuresIn part = rebuilt'.2.failuresIn part) := by
  refine ⟨?_, ?_, ?_, ?_⟩
  · intro m client lookup built
    constructor
    · exact View.accounts_ofMessage m client lookup
    · exact told_ofMessage m client lookup
  · intro s rebuilt
    constructor
    · exact View.accounts_toMessage s.view
    · exact told_toMessage s
  · intro m m' client client' lookup lookup' part hsource
    exact (View.accounts_ofMessage m client lookup).congr
      (View.accounts_ofMessage m' client' lookup') hsource
  · intro s s' part hsource
    exact (View.accounts_toMessage s.view).congr (View.accounts_toMessage s'.view) hsource

end Session

end DnsView
