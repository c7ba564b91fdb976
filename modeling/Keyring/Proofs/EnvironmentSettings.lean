import Keyring.Proofs.IntegerLiterals
import Keyring.Settings.Environment

/-!
# Settings from an environment, part by part

The settings of an environment are put together from two lists of sources and a limit, each in a
variable of its own. This module says of each part on its own what it comes to and what is wrong
with it; the settings are then those of all parts, and what they fail with is the first thing that
is wrong (`Environment.faults`).
-/

namespace Keyring

/-! ## Settings from their parts -/

theorem Checked.itemsFrom_sources (sources : List KeySource) (index : Nat) :
    itemsFrom KeySource.ofValue index (sources.map .source) = .ok sources := by
  induction sources generalizing index with
  | nil => rfl
  | cons source rest ih => simp [itemsFrom, ih, KeySource.ofValue, atStep, both]

/-- What is said of a limit that is too small. -/
def Settings.smallLimit : List Issue := [⟨[.field "max_key_file_size"], .belowOne⟩]

/-- Nothing but the limit can be wrong when settings are put together. -/
theorem Settings.ofParts_eq (sources : List KeySource) (limit : Int) (reportTokens : Bool) :
    ofParts sources limit reportTokens =
      if h : 0 < limit.toNat then
        .ok ⟨sources, KeySource.tokenMark, limit.toNat, reportTokens, by decide, h⟩
      else .error smallLimit := by
  have hsources := Checked.itemsFrom_sources sources 0
  by_cases h : 0 < limit.toNat <;>
    simp [ofParts, ofFields, Field.optional, List.lookup_cons, Field.list, hsources, Field.positive,
      Field.integer, Value.integer?, Field.truth, Checked.atStep, Checked.both, Field.complain, h,
      smallLimit]

/-! ## Variables -/

namespace Environment

/-- The sources that a variable stands for, by what it holds: none if it is not set or empty, else
those that are read from its text. -/
inductive Provides (environment : Environment) (name : String)
    (read : String → Except Failure (List KeySource)) : List KeySource → Prop where
  | unset (h : environment.lookup name = none) : Provides environment name read []
  | empty (h : environment.lookup name = some "") : Provides environment name read []
  | text {text : String} {sources : List KeySource} (h : environment.lookup name = some text)
    (ht : text ≠ "") (hr : read text = .ok sources) : Provides environment name read sources

/-- The sources of a variable. -/
def readVariable (environment : Environment) (name : String)
    (read : String → Except Failure (List KeySource)) : Except Failure (List KeySource) :=
  match environment.nonempty? name with
  | none => .ok []
  | some text => read text

/-- What is wrong with a variable that is to hold sources. -/
def fault? (environment : Environment) (name : String)
    (read : String → Except Failure (List KeySource)) : Option Failure :=
  match environment.readVariable name read with
  | .ok _ => none
  | .error failure => some failure

theorem nonempty?_of_text {environment : Environment} {name text : String}
    (h : environment.lookup name = some text) (ht : text ≠ "") :
    environment.nonempty? name = some text := by
  unfold nonempty?
  rw [h]
  split
  · rename_i he
    exact absurd (Option.some.inj he) ht
  · rfl

/-- How a variable that is to hold sources is read: it provides some, or something is wrong with it.
-/
inductive Reads (environment : Environment) (name : String)
    (read : String → Except Failure (List KeySource)) : Except Failure (List KeySource) → Prop where
  | provided {sources : List KeySource} (hf : environment.fault? name read = none)
    (hp : ∀ others, environment.Provides name read others ↔ others = sources) :
    Reads environment name read (.ok sources)
  | faulty {failure : Failure} (hf : environment.fault? name read = some failure)
    (hp : ∀ sources, ¬ environment.Provides name read sources) :
    Reads environment name read (.error failure)

/-- Every variable is read in this way. -/
theorem reads (environment : Environment) (name : String)
    (read : String → Except Failure (List KeySource)) :
    environment.Reads name read (environment.readVariable name read) := by
  -- Nothing is read from a variable that holds no text.
  have hnone : environment.nonempty? name = none → environment.Provides name read [] →
      environment.Reads name read (.ok []) := by
    intro hn hempty
    refine .provided (by simp [fault?, readVariable, hn]) fun others => ⟨?_, fun he => he ▸ hempty⟩
    rintro (_ | _ | ⟨h, ht, _⟩)
    · rfl
    · rfl
    · rw [nonempty?_of_text h ht] at hn
      cases hn
  cases hl : environment.lookup name with
  | none =>
    have hn : environment.nonempty? name = none := by simp [nonempty?, hl]
    simp only [readVariable, hn]
    exact hnone hn (.unset hl)
  | some text =>
    by_cases he : text = ""
    · subst he
      have hn : environment.nonempty? name = none := by simp [nonempty?, hl]
      simp only [readVariable, hn]
      exact hnone hn (.empty hl)
    · have hn := nonempty?_of_text hl he
      have htext : ∀ sources, environment.Provides name read sources ↔ read text = .ok sources := by
        intro sources
        constructor
        · rintro (h | h | ⟨h, _, hr⟩)
          · rw [hl] at h
            cases h
          · rw [hl] at h
            exact absurd (Option.some.inj h) he
          · rw [hl] at h
            rwa [Option.some.inj h]
        · exact .text hl he
      simp only [readVariable, hn]
      cases hr : read text with
      | ok sources =>
        refine .provided (by simp [fault?, readVariable, hn, hr]) fun others => ?_
        rw [htext, hr, Except.ok.injEq, eq_comm]
      | error failure =>
        refine .faulty (by simp [fault?, readVariable, hn, hr]) fun sources => ?_
        rw [htext, hr]
        exact fun h => by cases h

theorem fault?_eq_none_iff {environment : Environment} {name : String}
    {read : String → Except Failure (List KeySource)} :
    environment.fault? name read = none ↔ ∃ sources, environment.Provides name read sources := by
  have hreads := environment.reads name read
  generalize environment.readVariable name read = result at hreads
  cases hreads with
  | provided hf hp => exact ⟨fun _ => ⟨_, (hp _).2 rfl⟩, fun _ => hf⟩
  | faulty hf hp =>
    constructor
    · intro h
      rw [hf] at h
      cases h
    · rintro ⟨sources, h⟩
      exact absurd h (hp sources)

/-! ## The three variables -/

/-- What the text of an array of sources is read as. -/
def readInline (text : String) : Except Failure (List KeySource) :=
  (KeySource.readArray text.toList).mapError .invalidList

theorem reads_inline (environment : Environment) :
    environment.Reads sourcesName readInline environment.inlineSources :=
  environment.reads sourcesName readInline

theorem reads_file (environment : Environment) (files : FileSystem) :
    environment.Reads sourcesFileName (KeySource.load files) (environment.fileSources files) :=
  environment.reads sourcesFileName (KeySource.load files)

/-- The limit that an environment sets, by what the variable holds: the usual one if it is not set,
else the integer of its text. A text of more than 4300 digits is no literal, and sets no limit. -/
inductive Limits (environment : Environment) : Int → Prop where
  | unset (h : environment.lookup limitName = none) : Limits environment KeyFile.defaultLimit
  | literal {text : String} {n : Int} (h : environment.lookup limitName = some text)
    (hn : Decimal.IsLiteral text.toList n) : Limits environment n

/-- What is wrong with the limit of an environment: its text is no integer literal, or the integer
is too small. -/
def limitFault? (environment : Environment) : Option Failure :=
  match environment.limit with
  | .error failure => some failure
  | .ok n => if n < 1 then some (.invalidFields Settings.smallLimit) else none

theorem limits_iff {environment : Environment} {n : Int} :
    environment.Limits n ↔ environment.limit = .ok n := by
  cases hl : environment.lookup limitName with
  | none =>
    simp only [limit, hl, Except.ok.injEq]
    constructor
    · rintro (_ | ⟨h, _⟩)
      · rfl
      · rw [hl] at h
        cases h
    · rintro rfl
      exact .unset hl
  | some text =>
    have hvalue : (Value.text text).toInteger.mapError Failure.unusable = .ok n ↔
        Decimal.ofText text.toList = .ok n := by
      rw [Value.toInteger]
      cases Decimal.ofText text.toList with
      | error fault => constructor <;> (intro h; cases h)
      | ok value => constructor <;> (intro h; cases h; rfl)
    simp only [limit, hl, hvalue, Decimal.ofText_eq_ok_iff]
    constructor
    · rintro (h | ⟨h, hn⟩)
      · rw [hl] at h
        cases h
      · rw [hl] at h
        rwa [Option.some.inj h]
    · exact .literal hl

theorem limitFault?_eq_none_iff {environment : Environment} :
    environment.limitFault? = none ↔ ∃ limit, environment.Limits limit ∧ 1 ≤ limit := by
  simp only [limits_iff, limitFault?]
  cases environment.limit with
  | error failure => simp
  | ok n =>
    by_cases h : n < 1
    · have hnot : ¬ 1 ≤ n := by omega
      simp [h, hnot]
    · have hle : 1 ≤ n := by omega
      simp [h, hle]

/-- All that is wrong with an environment, in the order in which it is looked at: the sources that
it lists, those in the file that it names, and the limit. -/
def faults (environment : Environment) (files : FileSystem) : List Failure :=
  (environment.fault? sourcesName readInline).toList ++
    (environment.fault? sourcesFileName (KeySource.load files)).toList ++
      environment.limitFault?.toList

/-- Nothing is wrong if each part is in order. -/
theorem faults_eq_nil_iff {environment : Environment} {files : FileSystem} :
    environment.faults files = [] ↔
      (∃ inline, environment.Provides sourcesName readInline inline) ∧
      (∃ found, environment.Provides sourcesFileName (KeySource.load files) found) ∧
      ∃ limit, environment.Limits limit ∧ 1 ≤ limit := by
  have hnil : ∀ fault : Option Failure, fault.toList = [] ↔ fault = none :=
    fun _ => Option.toList_eq_nil_iff
  rw [faults, List.append_eq_nil_iff, List.append_eq_nil_iff, hnil, hnil, hnil, fault?_eq_none_iff,
    fault?_eq_none_iff, limitFault?_eq_none_iff, and_assoc]

end Environment

/-! ## Settings -/

namespace Settings

/-- The settings of an environment that lists these sources, and no others, and names a file with
those. -/
structure Composes (environment : Environment) (files : FileSystem) (inline found : List KeySource)
    (settings : Settings) : Prop where
  listed : ∀ others,
    environment.Provides Environment.sourcesName Environment.readInline others ↔ others = inline
  inFile : ∀ others,
    environment.Provides Environment.sourcesFileName (KeySource.load files) others ↔ others = found
  limit : environment.Limits settings.maxFileSize
  sources : settings.keySources = inline ++ found
  located : ∀ source ∈ settings.keySources,
    Text.strip source.location = source.location ∧ source.location ≠ ""
  tokenMark : settings.tokenMark = KeySource.tokenMark
  reportTokens : settings.reportTokens = environment.reportTokens

/-- The ways in which an environment is made into settings: nothing is wrong with it, or something
is, and then the first of it is what the settings fail with. -/
inductive Ends (environment : Environment) (files : FileSystem) :
    Except Failure Settings → Prop where
  | composed {inline found : List KeySource} {settings : Settings}
    (hf : environment.faults files = [])
    (hc : Composes environment files inline found settings) :
    Ends environment files (.ok settings)
  | failed {failure : Failure} {rest : List Failure}
    (hf : environment.faults files = failure :: rest) : Ends environment files (.error failure)

/-- Every environment is made into settings in one of these ways. -/
theorem ofEnvironment_ends (environment : Environment) (files : FileSystem) :
    Ends environment files (ofEnvironment environment files).1 := by
  have hinline := environment.reads_inline
  have hfound := environment.reads_file files
  unfold ofEnvironment
  generalize environment.inlineSources = inline at hinline ⊢
  generalize environment.fileSources files = found at hfound ⊢
  cases hinline with
  | faulty hf _ => exact .failed (by simp [Environment.faults, hf]; rfl)
  | @provided inline hi hlisted =>
    cases hfound with
    | faulty hf _ => exact .failed (by simp [Environment.faults, hi, hf]; rfl)
    | @provided found hf hnamed =>
      have hfaults : environment.faults files = environment.limitFault?.toList := by
        simp [Environment.faults, hi, hf]
      cases hl : environment.limit with
      | error failure =>
        have hone : environment.faults files = [failure] := by
          simp [hfaults, Environment.limitFault?, hl]
        exact .failed hone
      | ok limit =>
        simp only [ofParts_eq]
        by_cases hpos : 0 < limit.toNat
        · have hnot : ¬ limit < 1 := by omega
          have hcast : ((limit.toNat : Nat) : Int) = limit := by omega
          have hnone : environment.faults files = [] := by
            simp [hfaults, Environment.limitFault?, hl, hnot]
          rw [dif_pos hpos]
          refine @Ends.composed _ _ inline found _ hnone ⟨hlisted, hnamed, ?_, rfl, ?_, rfl, rfl⟩
          · rw [Environment.limits_iff, hl]
            exact congrArg _ hcast.symm
          · exact fun source _ => ⟨source.strip_location, source.location_ne_empty⟩
        · have hsmall : limit < 1 := by omega
          have hone : environment.faults files = [.invalidFields smallLimit] := by
            simp [hfaults, Environment.limitFault?, hl, hsmall]
          rw [dif_neg hpos]
          exact .failed hone

/-- An environment is made into settings exactly if each of its parts is in order: the sources that
it lists, those in the file that it names, and a limit of one or more that is written with no more
than 4300 digits. The settings then have the sources of both, one after the other. Otherwise they
fail with the first part that is wrong; and if that is the list of sources, they do so whatever
files there are, and nothing is logged. -/
theorem ofEnvironment_composes (environment : Environment) (files : FileSystem) :
    ((∃ settings, (ofEnvironment environment files).1 = .ok settings) ↔
      (∃ inline, environment.Provides Environment.sourcesName Environment.readInline inline) ∧
      (∃ found, environment.Provides Environment.sourcesFileName (KeySource.load files) found) ∧
      ∃ limit, environment.Limits limit ∧ 1 ≤ limit) ∧
    (∀ settings, (ofEnvironment environment files).1 = .ok settings →
      ∃ inline found, Composes environment files inline found settings) ∧
    (∀ failure, (ofEnvironment environment files).1 = .error failure ↔
      (environment.faults files).head? = some failure) ∧
    ∀ failure, environment.fault? Environment.sourcesName Environment.readInline = some failure →
      ∀ others, ofEnvironment environment others = (.error failure, []) := by
  have hends := ofEnvironment_ends environment files
  rw [← Environment.faults_eq_nil_iff]
  refine ⟨?_, ?_, ?_, ?_⟩
  · generalize (ofEnvironment environment files).1 = result at hends
    cases hends with
    | composed hf _ => simp [hf]
    | failed hf => simp [hf]
  · intro settings h
    rw [h] at hends
    cases hends with
    | composed _ hc => exact ⟨_, _, hc⟩
  · intro failure
    generalize (ofEnvironment environment files).1 = result at hends
    cases hends with
    | composed hf _ => simp [hf]
    | failed hf => simp [hf]
  · intro failure hf others
    have hinline := environment.reads_inline
    unfold ofEnvironment
    generalize environment.inlineSources = inline at hinline ⊢
    cases hinline with
    | provided hnone _ =>
      rw [hf] at hnone
      cases hnone
    | faulty hsome _ =>
      rw [hf] at hsome
      rw [Option.some.inj hsome]

example :
    (ofEnvironment [("SECRETS_KEY_SOURCES", "["), ("SECRETS_MAX_KEY_FILE_SIZE", "0")]
      ⟨[], []⟩).1 = .error (.invalidList .notJson) := rfl

end Settings

end Keyring
