import DnsView.Text.Lowercase
import DnsView.Settings
import Mathlib

/-!
# Where settings come from

Settings are read from lower-case texts, whatever letters these were written in, and each setting
has its source.
-/

/-!
## Lower-case texts in ASCII

The lower-case mapping takes an ASCII letter to its small letter and leaves any other character of
ASCII as it is.  It leads from elsewhere into ASCII in one place only, from the Kelvin sign to a
small k: the other capital with an ASCII letter in its lower-case form has a combining dot there as
well.  So for a word of ASCII characters without a k, the texts with this lower-case form are those
that spell it in ASCII letters of either case.
-/

namespace DnsView.Text

/-- A character of ASCII, but not the small letter of the Kelvin sign. -/
def Plain (c : Char) : Prop := c.toNat < 128 ∧ c ≠ 'k'

instance (c : Char) : Decidable (Plain c) := inferInstanceAs (Decidable (_ ∧ _))

/-!
### Single characters
-/

theorem lowerChar_of_ascii {c : Char} (h : c.toNat < 128) : lowerChar c = c.toLower := by
  have hall : ∀ n < 128, lowerChar (Char.ofNat n) = (Char.ofNat n).toLower := by
    decide +kernel
  have hc := hall c.toNat h
  rwa [Char.ofNat_toNat] at hc

theorem capitalRuns_outside : ∀ r ∈ capitalRuns, r.last < 128 ∨
    r.first = r.last ∧ r.small = 'k'.toNat ∨
    128 ≤ r.small ∧ r.small + (r.last - r.first) < 0x110000 ∧
      (r.small + (r.last - r.first) < 0xD800 ∨ 0xE000 ≤ r.small) := by
  decide +kernel

theorem not_plain_lowerChar {c : Char} (h : 128 ≤ c.toNat) : ¬Plain (lowerChar c) := by
  rw [lowerChar]
  split
  · rename_i r hfind
    have hrun := List.find?_some hfind
    simp only [Bool.and_eq_true, decide_eq_true_eq] at hrun
    rcases hrun with ⟨⟨hfirst, hlast⟩, _⟩
    rcases capitalRuns_outside r (List.mem_of_find?_eq_some hfind) with hlow | hkelvin | hsmall
    · omega
    · have hk : r.small + (c.toNat - r.first) = 'k'.toNat := by omega
      rw [hk, Char.ofNat_toNat]
      decide
    · have hvalid : (r.small + (c.toNat - r.first)).isValidChar := by
        rw [Nat.isValidChar]
        omega
      have hvalue : (Char.ofNat (r.small + (c.toNat - r.first))).toNat =
          r.small + (c.toNat - r.first) := by
        rw [Char.toNat_ofNat, if_pos hvalid]
      rintro ⟨hascii, _⟩
      omega
  · rintro ⟨hascii, _⟩
    omega

/-!
### Texts
-/

theorem lowerAfter_of_ascii {cs : List Char} (h : ∀ c ∈ cs, c.toNat < 128) (before : List Char) :
    lowerAfter before cs = cs.map Char.toLower := by
  induction cs generalizing before with
  | nil =>
      rfl
  | cons c cs ih =>
      rw [List.forall_mem_cons] at h
      have hdot : c ≠ 'İ' := by
        rintro rfl
        exact absurd h.left (by decide)
      have hsigma : c ≠ 'Σ' := by
        rintro rfl
        exact absurd h.left (by decide)
      rw [lowerAfter, if_neg hdot, if_neg hsigma, lowerChar_of_ascii h.left, ih h.right]
      rfl

theorem ascii_of_plain_lowerAfter {cs before : List Char}
    (h : ∀ c ∈ lowerAfter before cs, Plain c) : ∀ c ∈ cs, c.toNat < 128 := by
  induction cs generalizing before with
  | nil =>
      simp
  | cons c cs ih =>
      rw [lowerAfter] at h
      simp only [List.forall_mem_append] at h
      rw [List.forall_mem_cons]
      refine ⟨?_, ih h.right⟩
      by_contra hlarge
      have hsmall := h.left
      split at hsmall
      · exact absurd (hsmall '\u0307' (by simp)) (by decide)
      · split at hsmall
        · split at hsmall
          · exact absurd (hsmall 'ς' (by simp)) (by decide)
          · exact absurd (hsmall 'σ' (by simp)) (by decide)
        · exact not_plain_lowerChar (Nat.le_of_not_lt hlarge) (hsmall _ (by simp))

theorem ascii_of_toLower {c : Char} (h : c.toLower.toNat < 128) : c.toNat < 128 := by
  rw [Char.toLower] at h
  split at h
  · rename_i hcapital
    have hlast : c.toNat ≤ 'Z'.toNat := UInt32.le_iff_toNat_le.mp hcapital.right
    exact Nat.lt_of_le_of_lt hlast (by decide)
  · exact h

/-- The texts with a plain lower-case form are those that spell it in ASCII letters. -/
theorem lowercase_eq_iff_of_plain {s word : String} (hword : ∀ c ∈ word.toList, Plain c) :
    lowercase s = word ↔ s.toList.map Char.toLower = word.toList := by
  rw [← String.toList_inj, lowercase, String.toList_ofList]
  constructor
  · intro h
    have hascii : ∀ c ∈ s.toList, c.toNat < 128 := ascii_of_plain_lowerAfter (h ▸ hword)
    rw [← h, lowerAfter_of_ascii hascii]
  · intro h
    have hascii : ∀ c ∈ s.toList, c.toNat < 128 := by
      intro c hc
      apply ascii_of_toLower
      exact (hword c.toLower (h ▸ List.mem_map_of_mem hc)).left
    rw [← h, lowerAfter_of_ascii hascii]

end DnsView.Text

/-!
## Where settings come from

The level comes from a variable, in any spelling and with white space around it; a variable that
holds no text counts as absent.  The address book comes from the command line if it is named there,
and otherwise from a variable that is not empty.  What is wrong with the level is found first, and
an address book that is named outright leaves no part to the variable.
-/

namespace DnsView

namespace Settings

variable {environment : Environment} {files : Files} {path : Option String} {s : Settings}

/-!
### Checks
-/

def levelNames : List String := ["trace", "debug", "info", "warn", "error"]

theorem isSome_ofName?_iff {name : String} : (Level.ofName? name).isSome ↔ name ∈ levelNames := by
  have hnames : levelNames = Level.all.map Level.name := rfl
  rw [hnames]
  simp [Level.ofName?]

theorem error?_eq (s : Settings) (files : Files) :
    s.error? files =
      if s.logLevel ∈ levelNames then
        (s.addressBook.filter fun book => !files.isFile book).map .addressBook
      else some (.logLevel s.logLevel) := by
  rw [error?, ← Option.not_isSome]
  by_cases hlevel : s.logLevel ∈ levelNames
  · rw [if_pos hlevel, isSome_ofName?_iff.mpr hlevel, Bool.not_true, if_neg Bool.false_ne_true]
    cases s.addressBook with
    | none =>
        rfl
    | some book =>
        cases hfile : files.isFile book with
        | true =>
            simp [hfile]
        | false =>
            simp [hfile]
  · have hnone : (Level.ofName? s.logLevel).isSome = false := by
      rw [← Bool.not_eq_true, isSome_ofName?_iff]
      exact hlevel
    rw [if_neg hlevel, hnone, Bool.not_false, if_pos rfl]

theorem error?_eq_logLevel_iff {name : String} :
    s.error? files = some (.logLevel name) ↔
      s.logLevel = name ∧ name ∉ levelNames := by
  rw [error?_eq]
  split
  · rename_i hlevel
    constructor
    · intro h
      simp at h
    · rintro ⟨rfl, h⟩
      exact absurd hlevel h
  · rename_i hlevel
    constructor
    · intro h
      cases h
      exact ⟨rfl, hlevel⟩
    · rintro ⟨rfl, _⟩
      rfl

theorem error?_eq_addressBook_iff (hlevel : s.logLevel ∈ levelNames)
    {book : String} : s.error? files = some (.addressBook book) ↔
      s.addressBook = some book ∧ files.isFile book = false := by
  rw [error?_eq, if_pos hlevel]
  simp [Option.filter_eq_some_iff]

theorem load_eq_error_iff {e : SettingsError} :
    load environment files path = .error e ↔
      ((ofEnvironment environment).withAddressBook path).error? files = some e := by
  rw [load]
  cases ((ofEnvironment environment).withAddressBook path).error? files with
  | none =>
      simp [pure, Except.pure]
  | some e' =>
      simp [throw, throwThe, MonadExceptOf.throw]

theorem load_eq_ok_iff :
    load environment files path = .ok s ↔
      s = (ofEnvironment environment).withAddressBook path ∧ s.error? files = none := by
  rw [load]
  cases herror : ((ofEnvironment environment).withAddressBook path).error? files with
  | some e =>
      constructor
      · intro h
        cases h
      · rintro ⟨rfl, h⟩
        rw [herror] at h
        cases h
  | none =>
      constructor
      · intro h
        cases h
        exact ⟨rfl, herror⟩
      · rintro ⟨rfl, _⟩
        rfl

/-!
### Levels
-/

/-- A text spells the name of a level, in ASCII letters of either case, with white space around. -/
def NamesLevel (level : String) : Prop :=
  ∃ name ∈ levelNames, (Text.trimBlanks level.toList).map Char.toLower = name.toList

theorem plain_of_mem_levelNames : ∀ name ∈ levelNames, ∀ c ∈ name.toList, Text.Plain c := by
  simp [levelNames, Text.Plain]

theorem lowercase_of_mem_levelNames {name : String} (h : name ∈ levelNames) :
    Text.lowercase name = name := by
  have hsmall : ∀ name ∈ levelNames, name.toList.map Char.toLower = name.toList := by
    simp [levelNames]
  rw [Text.lowercase_eq_iff_of_plain (plain_of_mem_levelNames name h)]
  exact hsmall name h

theorem cleanLevel_eq_iff {level name : String} (hname : name ∈ levelNames) :
    cleanLevel level = name ↔ (Text.trimBlanks level.toList).map Char.toLower = name.toList := by
  rw [cleanLevel, Text.lowercase_eq_iff_of_plain (plain_of_mem_levelNames name hname),
    String.toList_ofList]

theorem cleanLevel_mem_iff (level : String) : cleanLevel level ∈ levelNames ↔ NamesLevel level := by
  constructor
  · intro h
    exact ⟨cleanLevel level, h, (cleanLevel_eq_iff h).mp rfl⟩
  · rintro ⟨name, hname, hlevel⟩
    rw [(cleanLevel_eq_iff hname).mpr hlevel]
    exact hname

theorem ofEnvironment_logLevel_mem_iff (environment : Environment) :
    (ofEnvironment environment).logLevel ∈ levelNames ↔
      ∀ level, environment.text? logLevelVariable = some level → NamesLevel level := by
  have hstandard : standard.logLevel ∈ levelNames := by
    simp [levelNames, standard]
  rw [ofEnvironment]
  cases environment.text? logLevelVariable with
  | none =>
      simp [hstandard]
  | some level =>
      simp [cleanLevel_mem_iff]

/-!
### Address books
-/

/-- The path of the address book, given the one that is named outright. -/
def bookPath (environment : Environment) : Option String → Option String
  | some path => some path
  | none =>
      match environment.text? addressBookVariable with
      | none => none
      | some path => if path = "" then none else some path

theorem addressBook_withAddressBook (environment : Environment) (path : Option String) :
    ((ofEnvironment environment).withAddressBook path).addressBook = bookPath environment path := by
  cases path with
  | some path =>
      rfl
  | none =>
      show (environment.text? addressBookVariable).filter (· ≠ "") = _
      rw [bookPath]
      cases environment.text? addressBookVariable with
      | none =>
          rfl
      | some path =>
          by_cases h : path = ""
          · simp [h]
          · simp [h]

theorem withAddressBook_congr {environment environment' : Environment}
    (h : ∀ name, name ≠ addressBookVariable → environment'.value? name = environment.value? name)
    (path : String) :
    (ofEnvironment environment').withAddressBook (some path) =
      (ofEnvironment environment).withAddressBook (some path) := by
  have hlevel : environment'.text? logLevelVariable = environment.text? logLevelVariable := by
    rw [Environment.text?, h logLevelVariable (by decide), Environment.text?]
  have hpretty : environment'.text? prettyOutputVariable =
      environment.text? prettyOutputVariable := by
    rw [Environment.text?, h prettyOutputVariable (by decide), Environment.text?]
  simp only [ofEnvironment, withAddressBook, hlevel, hpretty]
  rfl

/-!
### Outcomes
-/

theorem load_eq_logLevel_iff : (∃ name, load environment files path = .error (.logLevel name)) ↔
    ∃ level, environment.text? logLevelVariable = some level ∧ ¬NamesLevel level := by
  simp only [load_eq_error_iff, error?_eq_logLevel_iff, exists_eq_left']
  have hlevel := not_congr (ofEnvironment_logLevel_mem_iff environment)
  simp only [not_forall, exists_prop] at hlevel
  exact hlevel

theorem load_eq_addressBook_iff (hnamed : (ofEnvironment environment).logLevel ∈ levelNames)
    {book : String} : load environment files path = .error (.addressBook book) ↔
      bookPath environment path = some book ∧ files.isFile book = false := by
  have hchecked : ((ofEnvironment environment).withAddressBook path).logLevel ∈ levelNames :=
    hnamed
  rw [load_eq_error_iff, error?_eq_addressBook_iff hchecked, addressBook_withAddressBook]

theorem error?_withAddressBook (hnamed : (ofEnvironment environment).logLevel ∈ levelNames)
    (hfiles : ∀ book, bookPath environment path = some book → files.isFile book = true) :
    ((ofEnvironment environment).withAddressBook path).error? files = none := by
  have hchecked : ((ofEnvironment environment).withAddressBook path).logLevel ∈ levelNames :=
    hnamed
  rw [error?_eq, if_pos hchecked, addressBook_withAddressBook]
  simpa [Option.filter_eq_none_iff] using hfiles

theorem ofEnvironment_logLevel_eq (hnamed : (ofEnvironment environment).logLevel ∈ levelNames)
    {level : String} (htext : environment.text? logLevelVariable = some level) :
    (ofEnvironment environment).logLevel.toList =
      (Text.trimBlanks level.toList).map Char.toLower := by
  have hclean : (ofEnvironment environment).logLevel = cleanLevel level := by
    simp only [ofEnvironment, htext]
  rw [hclean] at hnamed ⊢
  exact ((cleanLevel_eq_iff hnamed).mp rfl).symm

end Settings

end DnsView
