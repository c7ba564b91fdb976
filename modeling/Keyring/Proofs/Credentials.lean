import Keyring.Proofs.Outcomes
import Keyring.Proofs.StoreCalls
import Mathlib.Data.List.Forall2

/-!
# Credentials

Credentials open key files and are good for nothing else: neither the log nor a report depends on
them. Two lists of sources that differ in credentials only, and whose key files open with the one
credential as with the other, cannot be told apart by what a reload says, returns or loads. What may
be seen of a credential is whether it is empty, as that selects the parser: `hideCredential` takes
away all but this.
-/

namespace Keyring

/-! ## Hidden credentials -/

/-- What may be seen of a credential: whether it is empty. -/
def hideText (credential : String) : String := if credential = "" then "" else "*"

/-- The source with its credential hidden. -/
def KeySource.hideCredential (source : KeySource) : KeySource :=
  { source with credential := hideText source.credential }

theorem KeySource.location_eq_of_hideCredential_eq {source other : KeySource}
    (h : source.hideCredential = other.hideCredential) : source.location = other.location := by
  have hlocation := congrArg KeySource.location h
  exact hlocation

/-- What may be seen of a credential is seen. -/
theorem KeySource.credential_eq_empty_iff_of_hideCredential_eq {source other : KeySource}
    (h : source.hideCredential = other.hideCredential) :
    source.credential = "" ↔ other.credential = "" := by
  have hcredential : hideText source.credential = hideText other.credential :=
    congrArg KeySource.credential h
  unfold hideText at hcredential
  by_cases hs : source.credential = "" <;> by_cases ho : other.credential = "" <;>
    simp [hs, ho] at hcredential ⊢

namespace Value

/-- The value of a credential, hidden if it is a text or can be read as one. -/
def hideCredentialField (value : Value) : Value :=
  match Field.text value with
  | .ok credential => .text (hideText credential)
  | .error _ => value

/-- A field, hidden if it is the credential. -/
def hideField (field : String × Value) : String × Value :=
  if field.1 = "credential" then (field.1, field.2.hideCredentialField) else field

/-- The value with the credential hidden that it has as a source or as a record. -/
def hideCredential : Value → Value
  | .source origin => .source origin.hideCredential
  | .record fields => .record (fields.map hideField)
  | value => value

theorem lookup_hideField (name : String) (fields : List (String × Value)) :
    (fields.map hideField).lookup name =
      if name = "credential" then (fields.lookup name).map hideCredentialField
      else fields.lookup name := by
  induction fields with
  | nil => simp
  | cons field rest ih =>
    obtain ⟨key, value⟩ := field
    have hkey : (hideField (key, value)).1 = key := by
      unfold hideField
      split <;> rfl
    by_cases hk : name = key
    · subst hk
      by_cases hn : name = "credential" <;> simp [hideField, hn]
    · have hb : (name == key) = false := by simpa using hk
      rw [List.map_cons, List.lookup_cons, hkey, hb, ih, List.lookup_cons, hb]

theorem text_hideCredentialField (value : Value) :
    Field.text value.hideCredentialField = (Field.text value).map hideText := by
  unfold hideCredentialField
  cases h : Field.text value with
  | ok credential => rfl
  | error issues => exact h

/-- Hiding a credential hides it in what is shown of a location, where it is not to be seen. -/
theorem locationText_hideCredential (raw : Value) :
    SourceOutcome.locationText raw.hideCredential = SourceOutcome.locationText raw := by
  cases raw with
  | record fields =>
    have hlocation : (fields.map hideField).lookup "location" = fields.lookup "location" := by
      simp [lookup_hideField]
    have hvalue : SourceOutcome.locationValue (hideCredential (.record fields)) =
        SourceOutcome.locationValue (.record fields) := by
      rw [hideCredential, SourceOutcome.locationValue, hlocation, SourceOutcome.locationValue]
    rw [SourceOutcome.locationText, hvalue, SourceOutcome.locationText]
  | _ => rfl

end Value

namespace KeySource

theorem ofFields_hideField (fields : List (String × Value)) :
    ofFields (fields.map Value.hideField) = (ofFields fields).map hideCredential := by
  have hlocation : Field.required "location" readLocation (fields.map Value.hideField) =
      Field.required "location" readLocation fields := by
    simp [Field.required, Value.lookup_hideField]
  have hcredential : Field.optional "credential" Field.text "" (fields.map Value.hideField) =
      (Field.optional "credential" Field.text "" fields).map hideText := by
    simp only [Field.optional, Value.lookup_hideField, if_true]
    cases fields.lookup "credential" with
    | none => rfl
    | some value =>
      simp only [Option.map_some, Value.text_hideCredentialField]
      cases Field.text value <;> rfl
  simp only [ofFields, hlocation, hcredential]
  cases Field.required "location" readLocation fields with
  | error issues => cases Field.optional "credential" Field.text "" fields <;> rfl
  | ok location => cases Field.optional "credential" Field.text "" fields <;> rfl

/-- A value is a source or not whatever its credential is. -/
theorem ofValue_hideCredential (raw : Value) :
    ofValue raw.hideCredential = (ofValue raw).map hideCredential := by
  cases raw with
  | record fields => exact ofFields_hideField fields
  | _ => rfl

end KeySource

/-! ## Containers -/

namespace KeyFile

/-- What containers can be refused for. -/
def containerFaults : List Fault :=
  [.notContainer, .noPrivateKey, .otherAlgorithm .ellipticCurve, .otherAlgorithm .digitalSignature,
    .otherAlgorithm .ed25519, .otherAlgorithm .ed448, .otherAlgorithm .x25519,
    .otherAlgorithm .x448]

/-- No two of these faults have the same text. -/
theorem message_injOn : ∀ fault ∈ containerFaults, ∀ other ∈ containerFaults,
    fault.message = other.message → fault = other := by
  decide

theorem mem_containerFaults {reader : KeyReader} {credential : String} {content : Bytes}
    {fault : Fault} (h : parseContainer reader credential content = .error fault) :
    fault ∈ containerFaults := by
  unfold parseContainer at h
  split at h
  · cases h
    decide
  · cases h
    decide
  · rename_i key _
    cases key with
    | rsa key => cases h
    | other algorithm =>
      cases h
      cases algorithm <;> decide

/-- A container that fails with the same text for two credentials fails in the same way. -/
theorem parseContainer_eq_of_message {reader : KeyReader} {credential other : String}
    {content : Bytes}
    (h : (parseContainer reader credential content).mapError Fault.message =
      (parseContainer reader other content).mapError Fault.message) :
    parseContainer reader credential content = parseContainer reader other content := by
  cases hc : parseContainer reader credential content with
  | ok key =>
    rw [hc] at h
    cases ho : parseContainer reader other content with
    | ok again =>
      rw [ho] at h
      cases h
      rfl
    | error fault =>
      rw [ho] at h
      cases h
  | error fault =>
    rw [hc] at h
    cases ho : parseContainer reader other content with
    | ok again =>
      rw [ho] at h
      cases h
    | error another =>
      rw [ho] at h
      have hmessage : fault.message = another.message := Except.error.inj h
      rw [message_injOn fault (mem_containerFaults hc) another (mem_containerFaults ho) hmessage]

/-- An import does not depend on the credential where the file opens with another one alike. -/
theorem load_eq_of_parseContainer {reader : KeyReader} {files : FileSystem}
    {location credential other : String} {limit : Value} (hempty : credential = "" ↔ other = "")
    (hopens : ∀ content, read files location limit = .ok content →
      parseContainer reader credential content = parseContainer reader other content) :
    load reader files location credential limit = load reader files location other limit := by
  unfold load
  cases hr : read files location limit with
  | error failure => rfl
  | ok content =>
    -- Both credentials are empty or neither is, so both files go to the same parser.
    have hparse : parse reader credential content = parse reader other content := by
      by_cases hc : credential = ""
      · rw [hc, hempty.1 hc]
      · have ho : other ≠ "" := fun e => hc (hempty.2 e)
        simp only [parse, hc, ho, if_false, hopens content hr]
    simp only [hparse]

end KeyFile

/-- Two results that come to the same are the same failure, or values that come to the same. -/
theorem cases_of_map_eq_map {Fault First Second : Type} {f : First → Second}
    {result other : Except Fault First} (h : result.map f = other.map f) :
    (∃ fault, result = .error fault ∧ other = .error fault) ∨
      ∃ value again, result = .ok value ∧ other = .ok again ∧ f value = f again := by
  cases result with
  | error fault =>
    cases other with
    | error another =>
      cases h
      exact .inl ⟨fault, rfl, rfl⟩
    | ok again => cases h
  | ok value =>
    cases other with
    | error another => cases h
    | ok again => exact .inr ⟨value, again, rfl, rfl, Except.ok.inj h⟩

/-! ## Sources that differ in credentials -/

/-- Two values that differ in credentials only, if at all, and key files that open with the one as
with the other: with the same key, or with the same text for a failure. -/
structure Alike (reader : KeyReader) (files : FileSystem) (settings : Settings)
    (raw other : Value) : Prop where
  hidden : raw.hideCredential = other.hideCredential
  opens : ∀ source again, KeySource.ofValue raw = .ok source → KeySource.ofValue other = .ok again →
    ∀ content, KeyFile.read files source.location settings.limit = .ok content →
      (KeyFile.parseContainer reader source.credential content).mapError KeyFile.Fault.message =
        (KeyFile.parseContainer reader again.credential content).mapError KeyFile.Fault.message

namespace Alike

variable {reader : KeyReader} {files : FileSystem} {settings : Settings} {raw other : Value}

/-- Both values are sources, and then they differ in the credential only; or neither is one. -/
theorem sources_cases (h : Alike reader files settings raw other) :
    (∃ issues, KeySource.ofValue raw = .error issues ∧ KeySource.ofValue other = .error issues) ∨
      ∃ source again, KeySource.ofValue raw = .ok source ∧ KeySource.ofValue other = .ok again ∧
        source.hideCredential = again.hideCredential := by
  refine cases_of_map_eq_map ?_
  rw [← KeySource.ofValue_hideCredential, ← KeySource.ofValue_hideCredential, h.hidden]

end Alike

/-! ## Outcomes -/

namespace SourceOutcome

/-- The outcome with the credential of its source hidden. -/
def hideCredential : SourceOutcome → SourceOutcome
  | .invalid location issues => .invalid location issues
  | .token source => .token source.hideCredential
  | .refused source fault => .refused source.hideCredential fault
  | .loaded source id key => .loaded source.hideCredential id key

/-- A source whose file is loaded in the same way has the same outcome, but for its credential. -/
theorem ofSource_eq_of_load {reader : KeyReader} {files : FileSystem} {settings : Settings}
    {source again : KeySource} (hs : source.hideCredential = again.hideCredential)
    (hload : KeyFile.load reader files source.location source.credential settings.limit =
      KeyFile.load reader files again.location again.credential settings.limit) :
    (ofSource reader files settings source).map hideCredential =
      (ofSource reader files settings again).map hideCredential := by
  have htoken : source.isToken settings.tokenMark = again.isToken settings.tokenMark := by
    rw [KeySource.isToken, KeySource.location_eq_of_hideCredential_eq hs, KeySource.isToken]
  simp only [ofSource, htoken, hload]
  cases again.isToken settings.tokenMark with
  | true => simp [Except.map, hideCredential, hs]
  | false =>
    cases KeyFile.load reader files again.location again.credential settings.limit with
    | ok found => simp [Except.map, hideCredential, hs]
    | error failure => cases failure <;> simp [Except.map, hideCredential, hs]

end SourceOutcome

/-- A batch does not look at credentials. -/
theorem Batch.add_hideCredential (settings : Settings) (batch : Batch) (outcome : SourceOutcome) :
    batch.add settings outcome.hideCredential = batch.add settings outcome := by
  cases outcome <;> rfl

namespace Alike

variable {reader : KeyReader} {files : FileSystem} {settings : Settings} {raw other : Value}

/-- Both values come to the same, but for the credential that comes with it. -/
theorem ofValue_eq (h : Alike reader files settings raw other) :
    (SourceOutcome.ofValue reader files settings raw).map SourceOutcome.hideCredential =
      (SourceOutcome.ofValue reader files settings other).map SourceOutcome.hideCredential := by
  rcases h.sources_cases with ⟨issues, hr, ho⟩ | ⟨source, again, hr, ho, hs⟩
  · have hlocation : SourceOutcome.locationText raw = SourceOutcome.locationText other := by
      rw [← Value.locationText_hideCredential, h.hidden, Value.locationText_hideCredential]
    simp only [SourceOutcome.ofValue, hr, ho, hlocation]
  · have hlocation := KeySource.location_eq_of_hideCredential_eq hs
    have hload := KeyFile.load_eq_of_parseContainer
      (KeySource.credential_eq_empty_iff_of_hideCredential_eq hs) fun content hc =>
        KeyFile.parseContainer_eq_of_message (h.opens source again hr ho content hc)
    simp only [SourceOutcome.ofValue, hr, ho]
    exact SourceOutcome.ofSource_eq_of_load hs (by rw [hload, hlocation])

end Alike

/-! ## Batches and reloads -/

namespace Batch

variable {reader : KeyReader} {files : FileSystem} {settings : Settings}
  {sources others : List Value}

theorem addAll_eq_of_alike (h : List.Forall₂ (Alike reader files settings) sources others)
    (batch : Batch) :
    addAll reader files settings batch sources = addAll reader files settings batch others := by
  induction h generalizing batch with
  | nil => rfl
  | @cons raw other rest more hfirst _ ih =>
    rcases cases_of_map_eq_map hfirst.ofValue_eq with
      ⟨fault, hr, ho⟩ | ⟨outcome, another, hr, ho, hsame⟩
    · simp only [addAll, hr, ho]
    · have hadd : batch.add settings outcome = batch.add settings another := by
        rw [← add_hideCredential, hsame, add_hideCredential]
      simp only [addAll, hr, ho, hadd, ih]

/-- The sources in the settings do not matter to a batch of others. -/
theorem addAll_withSources (reader : KeyReader) (files : FileSystem) (settings : Settings)
    (configured : List KeySource) (batch : Batch) (sources : List Value) :
    addAll reader files { settings with keySources := configured } batch sources =
      addAll reader files settings batch sources := by
  have hvalue : ∀ raw, SourceOutcome.ofValue reader files
      { settings with keySources := configured } raw =
        SourceOutcome.ofValue reader files settings raw := fun _ => rfl
  have hadd : ∀ (batch : Batch) (outcome : SourceOutcome),
      batch.add { settings with keySources := configured } outcome =
        batch.add settings outcome := by
    intro batch outcome
    cases outcome <;> rfl
  induction sources generalizing batch with
  | nil => rfl
  | cons raw rest ih => simp only [addAll, hvalue, hadd, ih]

theorem ofSources_withSources (reader : KeyReader) (files : FileSystem) (settings : Settings)
    (configured : List KeySource) (pool : KeyPool) (sources : List Value) :
    ofSources reader files { settings with keySources := configured } pool sources =
      ofSources reader files settings pool sources := by
  rw [ofSources, addAll_withSources, ofSources]

theorem ofSources_eq_of_alike (h : List.Forall₂ (Alike reader files settings) sources others)
    (pool : KeyPool) :
    ofSources reader files settings pool sources = ofSources reader files settings pool others := by
  rw [ofSources, addAll_eq_of_alike h, ofSources]

end Batch

namespace Store

/-- A reload depends on the sources that are listed through their batch only. -/
theorem reload_congr {reader : KeyReader} {files : FileSystem} {store : Store}
    {given again : Sources} {sources others : List Value}
    (hg : store.arrivals given = .ok (sources.map .source))
    (ha : store.arrivals again = .ok (others.map .source))
    (hb : ∀ pool, Batch.ofSources reader files store.settings pool sources =
      Batch.ofSources reader files store.settings pool others) (pool : KeyPool) :
    store.reload reader files pool given = store.reload reader files pool again := by
  have hgather : store.gather reader files pool given = store.gather reader files pool again := by
    simp only [gather, hg, ha, list_sources, hb]
  simp only [reload, hgather]

/-! ### Sources in the settings -/

/-- The store with other sources in its settings. -/
def withSources (store : Store) (sources : List KeySource) : Store :=
  { store with settings := { store.settings with keySources := sources } }

variable (reader : KeyReader) (files : FileSystem)

theorem replace_withSources (gathered : Outcome Batch) (sources : List KeySource) :
    replace { gathered with store := gathered.store.withSources sources } =
      { replace gathered with store := (replace gathered).store.withSources sources } := by
  obtain ⟨⟨settings, reporter, keys⟩, pool, effects, result⟩ := gathered
  cases result with
  | error failure => rfl
  | ok batch => cases keys <;> rfl

theorem tell_withSources (replaced : Outcome Report) (sources : List KeySource) :
    tell { replaced with store := replaced.store.withSources sources } =
      { tell replaced with store := (tell replaced).store.withSources sources } := by
  obtain ⟨store, pool, effects, result⟩ := replaced
  cases result <;> rfl

theorem arrivals_withSources (store : Store) (sources : List KeySource) :
    (store.withSources sources).arrivals .configured =
      .ok ((sources.map Value.source).map .source) := by
  rw [List.map_map]
  rfl

/-- Sources in the settings whose batch is the same are reloaded with the same result. -/
theorem reload_withSources {store : Store} {pool : KeyPool} {sources others : List KeySource}
    (hb : Batch.ofSources reader files store.settings pool (sources.map .source) =
      Batch.ofSources reader files store.settings pool (others.map .source)) :
    let outcome := (store.withSources sources).reload reader files pool .configured
    (store.withSources others).reload reader files pool .configured =
      { outcome with store := outcome.store.withSources others } := by
  intro outcome
  have hsame : Batch.ofSources reader files (store.withSources others).settings pool
      (others.map .source) =
        Batch.ofSources reader files (store.withSources sources).settings pool
          (sources.map .source) := by
    simp only [withSources, Batch.ofSources_withSources, hb]
  have hgather : (store.withSources others).gather reader files pool .configured =
      let gathered := (store.withSources sources).gather reader files pool .configured
      { gathered with store := gathered.store.withSources others } := by
    simp only [gather, arrivals_withSources, list_sources, hsame]
    rfl
  cases hk : store.keys with
  | none => simp [outcome, reload, current, withSources, hk]
  | some keys =>
    have hopen : ∀ configured, (store.withSources configured).keys = some keys := fun _ => hk
    have houtcome : outcome =
        tell (replace ((store.withSources sources).gather reader files pool .configured)) :=
      reload_of_open (hopen sources) ..
    rw [houtcome, reload_of_open (hopen others), hgather, replace_withSources, tell_withSources]

/-- Lists of sources that differ in credentials only, and whose files open alike, are imported with
the same keys, report and log, and stop a batch with the same fault. So a reload cannot tell one
from the other, whether it is given the lists or finds them in its settings: it has the same
effects, tells its reporter the same, returns or fails with the same and leaves the same keys. -/
theorem reload_eq_of_alike (reader : KeyReader) (files : FileSystem) (settings : Settings)
    {sources others : List Value} (h : List.Forall₂ (Alike reader files settings) sources others)
    (pool : KeyPool) :
    Batch.ofSources reader files settings pool sources =
      Batch.ofSources reader files settings pool others ∧
    (∀ (store : Store) (given again : Sources), store.settings = settings →
      store.arrivals given = .ok (sources.map .source) →
      store.arrivals again = .ok (others.map .source) →
      store.reload reader files pool given = store.reload reader files pool again) ∧
    ∀ (store : Store) (configured again : List KeySource), store.settings = settings →
      configured.map .source = sources → again.map .source = others →
      let outcome := (store.withSources configured).reload reader files pool .configured
      (store.withSources again).reload reader files pool .configured =
        { outcome with store := outcome.store.withSources again } := by
  refine ⟨Batch.ofSources_eq_of_alike h pool, ?_, ?_⟩
  · rintro store given again rfl hg ha
    exact reload_congr hg ha (Batch.ofSources_eq_of_alike h) pool
  · rintro store configured again rfl rfl rfl
    exact reload_withSources reader files (Batch.ofSources_eq_of_alike h pool)

/-- A file that is no container. -/
def shortFiles : FileSystem where
  nodes := [(["a"], .file [1, 2, 3])]
  workingDirectory := []

/-- A file, a record without a location and a token, all with one credential. -/
def sourcesWith (credential : String) : List Value :=
  [.record [("location", .text "a"), ("credential", .text credential)],
    .record [("credential", .text credential)],
    .source ⟨"pkcs11:a", credential, by decide, by decide⟩]

theorem reload_eq_of_two_credentials :
    List.Forall₂ (Alike .standard shortFiles .standard) (sourcesWith "x") (sourcesWith "y") ∧
      Batch.ofSources .standard shortFiles .standard [] (sourcesWith "x") =
        Batch.ofSources .standard shortFiles .standard [] (sourcesWith "y") := by
  have hread : KeyFile.read shortFiles "a" Settings.standard.limit = .ok [1, 2, 3] := rfl
  have habsent : KeyFile.read shortFiles "pkcs11:a" Settings.standard.limit =
      .error (.refused (.unreadable .missing)) := rfl
  have hrecord : ∀ credential, KeySource.ofValue
      (.record [("location", .text "a"), ("credential", .text credential)]) =
        .ok ⟨"a", credential, by decide, by decide⟩ := fun _ => rfl
  have h : List.Forall₂ (Alike .standard shortFiles .standard) (sourcesWith "x")
      (sourcesWith "y") := by
    refine .cons ⟨rfl, ?_⟩ (.cons ⟨rfl, ?_⟩ (.cons ⟨rfl, ?_⟩ .nil))
    · intro source again hs ha content hc
      rw [hrecord] at hs ha
      cases hs
      cases ha
      rw [hread] at hc
      cases hc
      rfl
    · intro source again hs
      cases hs
    · intro source again hs ha content hc
      cases hs
      rw [habsent] at hc
      cases hc
  exact ⟨h, (reload_eq_of_alike .standard shortFiles .standard h []).1⟩

end Store

end Keyring
