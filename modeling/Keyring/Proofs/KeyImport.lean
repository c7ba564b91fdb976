import Keyring.Failure.Kind
import Keyring.Proofs.BatchResult

/-!
# What the import of one file comes to

The import of a key file goes through reading, parsing and naming, and `KeyHandle.ImportEnds` says
once how it can end. Main statement: as long as the limit is not past the largest size of a byte
string, the file, the limit, the one parser that the credential selects and the digest decide
between three kinds of failures and a handle; each failure carries the location, and a report says
the same of it.
-/

namespace Keyring

/-! ## Reading and parsing -/

namespace KeyFile

/-- The file is there, and is at most as large as the limit. -/
def Readable (files : FileSystem) (location : String) (limit : Nat) (content : Bytes) : Prop :=
  files.read location = .ok content ∧ content.length ≤ limit

/-- The key that the parser for a credential finds: the one of PEM files if there is none, the one
of containers if there is one. -/
def found? (reader : KeyReader) (credential : String) (content : Bytes) : Option PrivateKey :=
  if credential = "" then reader.pem content else (reader.container credential content).join

theorem read_of_error {files : FileSystem} {location : String} {fault : FileSystem.Fault}
    (h : files.read location = .error fault) (hnul : '\x00' ∉ location.toList) (limit : Value) :
    read files location limit = .error (.refused (.unreadable fault)) := by
  have hfault : fault ≠ .nulCharacter := by
    rintro rfl
    exact hnul ((files.read_eq_nulCharacter_iff location).1 h)
  unfold read
  rw [h]
  cases fault <;> first | rfl | exact absurd rfl hfault

/-- Only a file that is larger than the limit is said to be. -/
theorem limit_of_read {files : FileSystem} {location : String} {limit : Value} {text : String}
    (h : read files location limit = .error (.refused (.tooLarge text))) : text = limit.shown := by
  unfold read at h
  split at h
  · cases h
  · cases h
  · split at h
    · cases h
    · split at h
      · cases h
      · split at h
        · cases h
          rfl
        · cases h

variable {reader : KeyReader} {credential : String} {content : Bytes}

theorem parse_eq_ok_iff {key : Rsa.PrivateKey} :
    parse reader credential content = .ok key ↔
      found? reader credential content = some (.rsa key) := by
  have hrsa : ∀ found : PrivateKey, requireRsa found = .ok key ↔ found = .rsa key := by
    intro found
    cases found <;> simp [requireRsa]
  by_cases hc : credential = ""
  · simp only [parse, found?, hc, if_true, parsePem]
    cases reader.pem content with
    | none => simp
    | some found => simp [hrsa]
  · simp only [parse, found?, hc, if_false, parseContainer]
    cases reader.container credential content with
    | none => simp
    | some key? =>
      cases key? with
      | none => simp
      | some found => simp [hrsa]

theorem kind_of_parse {fault : Fault} (h : parse reader credential content = .error fault) :
    fault.kind = .keyParsing := by
  have hrsa : ∀ found : PrivateKey, requireRsa found = .error fault → fault.kind = .keyParsing := by
    intro found hf
    cases found <;> cases hf
    rfl
  unfold parse parsePem parseContainer at h
  split at h
  · split at h
    · cases h
      rfl
    · exact hrsa _ h
  · split at h
    · cases h
      rfl
    · cases h
      rfl
    · exact hrsa _ h

end KeyFile

/-! ## The ways in which an import ends -/

namespace KeyHandle

open KeyFile

variable (reader : KeyReader) (files : FileSystem) (location credential : String) (limit : Nat)

/-- The ways in which an import ends: the file cannot be opened; the limit is too large to read up
to; the file is larger than the limit; the parser of the credential finds no RSA key; the digest has
another size than an identifier; or the key is in a handle. -/
inductive ImportEnds : Except Failure (KeyId × KeyHandle) → Prop where
  | unopened {fault : FileSystem.Fault} (hr : files.read location = .error fault) :
    ImportEnds (.error (.keyFile location (.unreadable fault)))
  | unlimited {content : Bytes} (hr : files.read location = .ok content)
    (hm : Bytes.maxSize ≤ limit) : ImportEnds (.error (.unusable .tooLarge))
  | tooLarge {content : Bytes} (hr : files.read location = .ok content)
    (hm : limit < Bytes.maxSize) (hl : limit < content.length) :
    ImportEnds (.error (.keyFile location (.tooLarge (toString (limit : Int)))))
  | unparsed {content : Bytes} {fault : Fault} (hr : Readable files location limit content)
    (hm : limit < Bytes.maxSize) (hp : parse reader credential content = .error fault) :
    ImportEnds (.error (.keyFile location fault))
  | unnamed {content : Bytes} {key : Rsa.PrivateKey} (hr : Readable files location limit content)
    (hm : limit < Bytes.maxSize) (hp : parse reader credential content = .ok key)
    (hd : (reader.digest key.publicKey.info).length ≠ KeyId.size) :
    ImportEnds (.error (.keyFile location
      (.digestSize (reader.digest key.publicKey.info).length)))
  | imported {content : Bytes} {key : Rsa.PrivateKey} {id : KeyId}
    (hr : Readable files location limit content) (hm : limit < Bytes.maxSize)
    (hp : parse reader credential content = .ok key)
    (hd : id.digest = reader.digest key.publicKey.info) :
    ImportEnds (.ok (id, ⟨id, some key⟩))

variable {location}

/-- Every import ends in one of these ways. -/
theorem import_ends (hnul : '\x00' ∉ location.toList) :
    ImportEnds reader files location credential limit
      (ofFile reader files location credential (.int limit)) := by
  unfold ofFile load
  cases hr : files.read location with
  | error fault =>
    rw [read_of_error hr hnul]
    exact .unopened hr
  | ok content =>
    rw [read_of_ok hr]
    by_cases hm : Bytes.maxSize ≤ limit
    · simp only [hm, if_true]
      exact .unlimited hr hm
    · by_cases hl : content.length ≤ limit
      · simp only [hm, hl, if_true, if_false]
        have hm := Nat.lt_of_not_le hm
        cases hp : parse reader credential content with
        | error fault => exact .unparsed ⟨hr, hl⟩ hm hp
        | ok key =>
          by_cases hd : (reader.digest key.publicKey.info).length = 20
          · simp only [fingerprint, hd, dif_pos]
            exact .imported ⟨hr, hl⟩ hm hp rfl
          · simp only [fingerprint, hd, dif_neg, not_false_eq_true]
            exact .unnamed ⟨hr, hl⟩ hm hp hd
      · simp only [hm, hl, if_false]
        exact .tooLarge hr (Nat.lt_of_not_le hm) (Nat.lt_of_not_le hl)

/-! ## What decides -/

variable {reader files credential limit}

/-- What a result is decided by: whether the file can be read up to the limit, then whether the
parser of the credential finds an RSA key, then whether the digest of its public half has the size
of an identifier. If all of this is so, the result is a live handle of the key under the digest; if
not, it is a failure that carries the location. -/
structure Decided (reader : KeyReader) (files : FileSystem) (location credential : String)
    (limit : Nat) (result : Except Failure (KeyId × KeyHandle)) : Prop where
  keyInput : Raises result .keyInput ↔ ¬ ∃ content, Readable files location limit content
  keyParsing : Raises result .keyParsing ↔
    ∃ content, Readable files location limit content ∧
      ¬ ∃ key, found? reader credential content = some (.rsa key)
  fingerprint : Raises result .fingerprint ↔
    ∃ content key, Readable files location limit content ∧
      found? reader credential content = some (.rsa key) ∧
      (reader.digest key.publicKey.info).length ≠ KeyId.size
  imported : ∀ id handle, result = .ok (id, handle) ↔
    ∃ content key, Readable files location limit content ∧
      found? reader credential content = some (.rsa key) ∧
      id.digest = reader.digest key.publicKey.info ∧
      handle.id = id ∧ handle.released = false ∧ handle.key = some key
  location : ∀ failure, result = .error failure → failure.location? = some location

theorem readable_iff {files : FileSystem} {location : String} {limit : Nat} {content : Bytes}
    (h : Readable files location limit content) (other : Bytes) :
    Readable files location limit other ↔ other = content := by
  constructor
  · intro h'
    exact Except.ok.inj (h'.1.symm.trans h.1)
  · rintro rfl
    exact h

theorem ImportEnds.decided {result : Except Failure (KeyId × KeyHandle)}
    (h : ImportEnds reader files location credential limit result)
    (hsize : (∃ content, files.read location = .ok content) → limit < Bytes.maxSize) :
    Decided reader files location credential limit result := by
  cases h with
  | unopened hr =>
    have hno : ∀ content, ¬ Readable files location limit content := by
      intro content h
      cases hr.symm.trans h.1
    constructor <;> simp [Raises, hno, Failure.kind?, Fault.kind, Failure.location?]
  | unlimited hr hm => exact absurd (hsize ⟨_, hr⟩) (Nat.not_lt.2 hm)
  | tooLarge hr hm hl =>
    have hno : ∀ content, ¬ Readable files location limit content := by
      intro content h
      cases hr.symm.trans h.1
      exact absurd h.2 (Nat.not_le.2 hl)
    constructor <;> simp [Raises, hno, Failure.kind?, Fault.kind, Failure.location?]
  | @unparsed content fault hr hm hp =>
    have hkind := kind_of_parse hp
    have hnone : ∀ key, found? reader credential content ≠ some (.rsa key) := by
      intro key h
      cases hp.symm.trans (parse_eq_ok_iff.2 h)
    constructor <;>
      simp [Raises, readable_iff hr, hnone, Failure.kind?, hkind, Failure.location?]
  | @unnamed content key hr hm hp hd =>
    have hfound := parse_eq_ok_iff.1 hp
    -- No identifier has a digest of this size.
    have hno : ∀ id : KeyId, id.digest ≠ reader.digest key.publicKey.info :=
      fun id h => hd (h ▸ id.length_digest)
    constructor <;>
      simp [Raises, readable_iff hr, hfound, hd, hno, Failure.kind?, Fault.kind, Failure.location?]
  | @imported content key id hr hm hp hd =>
    have hfound := parse_eq_ok_iff.1 hp
    have hlength : (reader.digest key.publicKey.info).length = KeyId.size := hd ▸ id.length_digest
    constructor
    case imported =>
      intro other handle
      constructor
      · intro h
        cases h
        exact ⟨content, key, hr, hfound, hd, rfl, rfl, rfl⟩
      · rintro ⟨found, again, hr', hfound', hd', rfl, _, hkey⟩
        obtain rfl := (readable_iff hr found).1 hr'
        cases hfound.symm.trans hfound'
        obtain ⟨otherId, otherKey⟩ := handle
        obtain rfl : id = otherId := KeyId.eq_of_digest_eq (hd.trans hd'.symm)
        obtain rfl : otherKey = some key := hkey
        rfl
    all_goals simp [Raises, readable_iff hr, hfound, hlength]

theorem ImportEnds.eq_tooLarge {result : Except Failure (KeyId × KeyHandle)}
    (h : ImportEnds reader files location credential limit result)
    (hopen : ∃ content, files.read location = .ok content) (hm : Bytes.maxSize ≤ limit) :
    result = .error (.unusable .tooLarge) := by
  obtain ⟨content, hopen⟩ := hopen
  cases h with
  | unopened hr => cases hopen.symm.trans hr
  | unlimited => rfl
  | tooLarge _ hlt _ => exact absurd hm (Nat.not_le.2 hlt)
  | unparsed _ hlt _ => exact absurd hm (Nat.not_le.2 hlt)
  | unnamed _ hlt _ _ => exact absurd hm (Nat.not_le.2 hlt)
  | imported _ hlt _ _ => exact absurd hm (Nat.not_le.2 hlt)

/-- The parser that the credential does not select is not asked. -/
theorem ofFile_congr {other : KeyReader} (hd : other.digest = reader.digest)
    (hpem : credential = "" → other.pem = reader.pem)
    (hcontainer : credential ≠ "" → other.container = reader.container) (limit : Value) :
    ofFile other files location credential limit =
      ofFile reader files location credential limit := by
  have hparse : ∀ content, parse other credential content = parse reader credential content := by
    intro content
    by_cases hc : credential = ""
    · simp only [parse, hc, if_true, parsePem, hpem hc]
    · simp only [parse, hc, if_false, parseContainer, hcontainer hc]
  have hname : ∀ key, KeyFile.fingerprint other key = KeyFile.fingerprint reader key := by
    intro key
    simp only [KeyFile.fingerprint, hd]
  simp only [ofFile, load, hparse, hname]

end KeyHandle

/-! ## What a report says of it -/

namespace Batch

open KeyFile

/-- A source of a file that cannot be imported has a line in the report that says what the failure
says. -/
theorem lines_of_ofFile {reader : KeyReader} {files : FileSystem} {settings : Settings}
    {before after : List Value} {raw : Value} {source : KeySource} {failure : Failure}
    (hc : (outcomes reader files settings (before ++ raw :: after)).2 = none)
    (hv : KeySource.ofValue raw = .ok source) (ht : source.isToken settings.tokenMark = false)
    (h : KeyHandle.ofFile reader files source.location source.credential settings.limit =
      .error failure) :
    ∃ line : ReportLine, line.text = failure.message ∧
      lines reader files settings (before ++ raw :: after) =
        lines reader files settings before ++ line :: lines reader files settings after := by
  obtain ⟨_, hrest, houtcomes⟩ := outcomes_append hc
  unfold KeyHandle.ofFile at h
  cases hl : load reader files source.location source.credential settings.limit with
  | ok loaded => simp [hl] at h
  | error cause =>
    simp only [hl] at h
    cases h
    cases cause with
    | refused fault =>
      have ho : SourceOutcome.ofValue reader files settings raw = .ok (.refused source fault) := by
        simp [SourceOutcome.ofValue, hv, SourceOutcome.ofSource, ht, hl]
      refine ⟨⟨source.location, fault.message⟩, rfl, ?_⟩
      rw [lines, houtcomes, List.filterMap_append]
      simp [outcomes, ho, lines, SourceOutcome.reportLine?]
    | unusable fault =>
      have ho : SourceOutcome.ofValue reader files settings raw = .error fault := by
        simp [SourceOutcome.ofValue, hv, SourceOutcome.ofSource, ht, hl]
      simp [outcomes, ho] at hrest

end Batch

namespace KeyHandle

open KeyFile

/-- How the import of a file ends, for a location without a null character. File, limit, parser and
digest decide it exactly if the file is not there or the limit is below the largest size of a byte
string; past that size a file that is there can neither be read nor refused. The parser that the
credential does not select does not matter. And in every batch with the same limit that comes to its
end, the report says of a source with this location and credential what the failure says. -/
theorem import_decided_iff (reader : KeyReader) (files : FileSystem) (location credential : String)
    (limit : Nat) (hnul : '\x00' ∉ location.toList) :
    let result := ofFile reader files location credential (.int limit)
    (Decided reader files location credential limit result ↔
      ((∃ content, files.read location = .ok content) → limit < Bytes.maxSize)) ∧
    ((∃ content, files.read location = .ok content) → Bytes.maxSize ≤ limit →
      result = .error (.unusable .tooLarge)) ∧
    (∀ other : KeyReader, other.digest = reader.digest →
      (credential = "" → other.pem = reader.pem) →
      (credential ≠ "" → other.container = reader.container) →
      ofFile other files location credential (.int limit) = result) ∧
    ∀ (settings : Settings) (pool : KeyPool) (before after : List Value) (raw : Value)
      (source : KeySource) (batch : Batch) (failure : Failure), settings.maxFileSize = limit →
      KeySource.ofValue raw = .ok source → source.location = location →
      source.credential = credential → source.isToken settings.tokenMark = false →
      Batch.ofSources reader files settings pool (before ++ raw :: after) = (batch, none) →
      result = .error failure →
      batch.report.format = String.intercalate "\n" (Report.header ::
        ((Batch.lines reader files settings before).map ReportLine.text ++
          failure.message :: (Batch.lines reader files settings after).map ReportLine.text)) := by
  intro result
  have hends : ImportEnds reader files location credential limit result :=
    import_ends reader files credential limit hnul
  refine ⟨⟨?_, hends.decided⟩, hends.eq_tooLarge, ?_, ?_⟩
  · intro h hr
    by_contra hm
    have hlocation := h.location _ (hends.eq_tooLarge hr (Nat.le_of_not_lt hm))
    cases hlocation
  · intro other hd hpem hcontainer
    exact ofFile_congr hd hpem hcontainer _
  · rintro settings pool before after raw source batch failure rfl hv rfl rfl ht hb hresult
    have hc : (Batch.outcomes reader files settings (before ++ raw :: after)).2 = none := by
      rw [← Batch.ofSources_fault pool, hb]
    obtain ⟨line, htext, hlines⟩ := Batch.lines_of_ofFile hc hv ht hresult
    rw [Report.format, Batch.errors_of_ofSources hb, hlines, List.map_append, List.map_cons, htext]

/-- A file of two bytes is read up to two bytes and imported; and of the sources before and after
one whose file is missing, the report keeps the lines in place. -/
theorem import_decided_small :
    Decided Batch.smallReader Batch.smallFiles "a" "" 2
      (ofFile Batch.smallReader Batch.smallFiles "a" "" (.int 2)) ∧
    (Batch.ofSources Batch.smallReader Batch.smallFiles {} [] Batch.smallSources).1.report.format =
      String.intercalate "\n" (Report.header ::
        ((Batch.lines Batch.smallReader Batch.smallFiles {} (Batch.smallSources.take 4)).map
          ReportLine.text ++
        (Failure.keyFile "d" (.unreadable .missing)).message ::
          (Batch.lines Batch.smallReader Batch.smallFiles {} (Batch.smallSources.drop 5)).map
            ReportLine.text)) := by
  have hb : (Batch.ofSources Batch.smallReader Batch.smallFiles {} [] Batch.smallSources).2 =
      none := by decide
  refine ⟨(import_decided_iff Batch.smallReader Batch.smallFiles "a" "" 2 (by decide)).1.2
    fun _ => by decide, ?_⟩
  exact (import_decided_iff Batch.smallReader Batch.smallFiles "d" "" KeyFile.defaultLimit
    (by decide)).2.2.2 {} [] (Batch.smallSources.take 4) (Batch.smallSources.drop 5)
    (.record [("location", .text "d")]) ⟨"d", "", by decide, by decide⟩ _ _ rfl rfl rfl rfl
    (by decide) (Prod.ext rfl hb) rfl

/-- A file of two bytes is neither read nor refused up to a limit of all but one of the signed
numbers of 64 bits. -/
theorem import_past_largest_size :
    Batch.smallFiles.read "a" = .ok [3, 1] ∧
      ofFile .standard Batch.smallFiles "a" "" (.int 9223372036854775806) =
        .error (.unusable .tooLarge) ∧
      (Failure.unusable .tooLarge).kind? = none :=
  ⟨rfl, rfl, rfl⟩

end KeyHandle

end Keyring
