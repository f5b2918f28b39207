import CloudSync.CreateOnly
import CloudSync.Reachable

/-!
# Preconditions that a PUT states

`If-Match` counts only if it can be read as text, and `If-None-Match` only if it
says `*` and there is no `If-Match` to go by. Whatever else these headers say is
passed over, and the PUT goes through without it.
-/

namespace CloudSync

open Rust Redb Transactions Tagged

set_option autoImplicit false

section Text

/-- A header that can be read says what its bytes say. -/
theorem asBytes_of_toStr {value : Bytes} {text : String} (h : toStr value = some text) :
    asBytes text = value := by
  unfold toStr at h
  split at h
  · rename_i hascii
    obtain rfl := Option.some.inj h
    rw [asBytes_eq, String.toList_ofList]
    induction value with
    | nil => rfl
    | cons b rest ih =>
      rw [List.all_cons, Bool.and_eq_true] at hascii
      have hb : b.toNat < 128 := by
        have hhead := hascii.1
        simp only [Bool.or_eq_true, Bool.and_eq_true, decide_eq_true_eq, beq_iff_eq,
          UInt8.le_iff_toNat_le, UInt8.lt_iff_toNat_lt, ← UInt8.toNat_inj] at hhead
        have hnine : (9 : UInt8).toNat = 9 := rfl
        have hdel : (127 : UInt8).toNat = 127 := rfl
        omega
      have hchar : String.utf8EncodeChar (Char.ofNat b.toNat) = [b] := by
        have hval : (Char.ofNat b.toNat).val.toNat = b.toNat := by
          rw [Char.ofNat, dif_pos (Or.inl (by omega))]
          rfl
        rw [String.utf8EncodeChar_eq_singleton]
        · apply congrArg (· :: [])
          apply UInt8.toNat_inj.mp
          rw [UInt32.toNat_toUInt8, hval]
          omega
        · rw [Char.utf8Size_eq_one_iff, UInt32.le_iff_toNat_le, hval]
          change b.toNat ≤ 127
          omega
      rw [List.map_cons, List.flatMap_cons, hchar, ih hascii.2 rfl, List.singleton_append]
  · cases h

theorem toStr_star {value : Bytes} : toStr value = some "*" ↔ value = asBytes "*" := by
  constructor
  · intro h
    exact (asBytes_of_toStr h).symm
  · intro h
    rw [h]
    decide

end Text

/-- What the headers of a PUT ask of what is stored. -/
structure PreconditionsMet (headers : HeaderMap) (cell : Cell String Bytes) : Prop where
  ifMatch : ∀ value ∈ headers.lookup "if-match", value = asBytes (cell.tag.getD "")
  nothingStored : headers.lookup "if-none-match" = some (asBytes "*") → cell.payload = none
  ifNoneMatch : ∀ value ∈ headers.lookup "if-none-match", value ≠ asBytes "*" →
    ∀ etag ∈ cell.tag, asBytes etag ≠ value

/-- `If-Match` can be read, and what stands beside it is neither `*` nor the same value; without
an `If-Match` there is a `*`, or bytes that are no text at all. -/
def SoundPreconditions (headers : HeaderMap) : Prop :=
  match headers.lookup "if-match" with
  | some value => toStr value ≠ none ∧
      ∀ other ∈ headers.lookup "if-none-match", other ≠ asBytes "*" ∧ other ≠ value
  | none => ∀ value ∈ headers.lookup "if-none-match", value = asBytes "*" ∨ fromUtf8 value = none

instance (headers : HeaderMap) : Decidable (SoundPreconditions headers) := by
  unfold SoundPreconditions
  split <;> infer_instance

/-- The preconditions of the write transactions, as the handlers read them from the headers. -/
def HeaderMap.expectedEtag (headers : HeaderMap) : Option String := headers.getStr "if-match"

def HeaderMap.requireAbsent (headers : HeaderMap) : Bool := headers.getStr "if-none-match" == some "*"

section Headers
variable {headers : HeaderMap} {cell : Cell String Bytes} {present : Bool}

theorem requireAbsent_iff :
    headers.requireAbsent = true ↔ headers.lookup "if-none-match" = some (asBytes "*") := by
  unfold HeaderMap.requireAbsent HeaderMap.getStr
  rw [beq_iff_eq]
  cases headers.lookup "if-none-match" with
  | none => simp
  | some value => rw [Option.bind_some, toStr_star, Option.some.injEq]

/-- Where the store describes what it holds, sound headers get what they ask for. -/
theorem met_of_sound (hsound : SoundPreconditions headers)
    (hpresent : cell.payload ≠ none → present = true)
    (hholds : PreconditionHolds cell.tag present headers.expectedEtag headers.requireAbsent) :
    PreconditionsMet headers cell := by
  unfold SoundPreconditions at hsound
  cases hmatch : headers.lookup "if-match" with
  | some value =>
    rw [hmatch] at hsound
    obtain ⟨text, htext⟩ := Option.ne_none_iff_exists'.mp hsound.1
    have hexpected : headers.expectedEtag = some text := by
      rw [HeaderMap.expectedEtag, HeaderMap.getStr, hmatch, Option.bind_some, htext]
    rw [hexpected] at hholds
    have htag : cell.tag.getD "" = text := hholds
    constructor
    · intro other hother
      rw [hmatch] at hother
      obtain rfl := Option.some.inj hother
      rw [htag, asBytes_of_toStr htext]
    · intro hstar
      exact absurd rfl (hsound.2 _ hstar).1
    · intro other hother _ etag hetag
      rw [Option.mem_def.mp hetag, Option.getD_some] at htag
      rw [htag, asBytes_of_toStr htext]
      exact (hsound.2 other hother).2.symm
  | none =>
    rw [hmatch] at hsound
    have hexpected : headers.expectedEtag = none := by
      rw [HeaderMap.expectedEtag, HeaderMap.getStr, hmatch, Option.bind_none]
    rw [hexpected] at hholds
    constructor
    · intro value hvalue
      rw [hmatch] at hvalue
      cases hvalue
    · intro hstar
      have hfree : present = false := hholds (requireAbsent_iff.mpr hstar)
      by_contra hstored
      rw [hpresent hstored] at hfree
      cases hfree
    · intro value hvalue hother etag _
      rcases hsound value hvalue with hstar | hnoText
      · exact absurd hstar hother
      · intro hetag
        rw [← hetag, fromUtf8_asBytes] at hnoText
        cases hnoText

/-- Headers that are not sound ask in vain of some payload, or of none. -/
theorem exists_unmet (h : ¬ SoundPreconditions headers) :
    ∃ tag : Option String, PreconditionHolds tag tag.isSome headers.expectedEtag headers.requireAbsent ∧
      ∀ cell : Cell String Bytes, cell.tag = tag → (cell.payload = none ↔ tag = none) →
        ¬ PreconditionsMet headers cell := by
  unfold SoundPreconditions at h
  cases hmatch : headers.lookup "if-match" with
  | some value =>
    rw [hmatch] at h
    cases htext : toStr value with
    | none =>
      have hexpected : headers.expectedEtag = none := by
        rw [HeaderMap.expectedEtag, HeaderMap.getStr, hmatch, Option.bind_some, htext]
      refine ⟨none, ?_, ?_⟩
      · rw [hexpected]
        intro _
        rfl
      · intro cell htag _ hmet
        have hempty := hmet.ifMatch value hmatch
        rw [htag, Option.getD_none] at hempty
        rw [hempty] at htext
        revert htext
        decide
    | some text =>
      have hexpected : headers.expectedEtag = some text := by
        rw [HeaderMap.expectedEtag, HeaderMap.getStr, hmatch, Option.bind_some, htext]
      refine ⟨some text, ?_, ?_⟩
      · rw [hexpected]
        rfl
      · intro cell htag hpayload hmet
        apply h
        refine ⟨by simp [htext], fun other hother => ⟨?_, ?_⟩⟩
        · intro hstar
          rw [hstar] at hother
          have hnone := hpayload.mp (hmet.nothingStored hother)
          cases hnone
        · intro hsame
          have hvalue := asBytes_of_toStr htext
          by_cases hstar : other = asBytes "*"
          · rw [hstar] at hother
            have hnone := hpayload.mp (hmet.nothingStored hother)
            cases hnone
          · apply hmet.ifNoneMatch other hother hstar text htag
            rw [hvalue, hsame]
  | none =>
    rw [hmatch] at h
    have hexpected : headers.expectedEtag = none := by
      rw [HeaderMap.expectedEtag, HeaderMap.getStr, hmatch, Option.bind_none]
    obtain ⟨value, hvalue, hstar, hutf8⟩ : ∃ value, headers.lookup "if-none-match" = some value ∧
        value ≠ asBytes "*" ∧ fromUtf8 value ≠ none := by
      by_contra hnone
      apply h
      intro value hvalue
      by_contra hboth
      rw [not_or] at hboth
      exact hnone ⟨value, hvalue, hboth⟩
    obtain ⟨text, htext⟩ := Option.ne_none_iff_exists'.mp hutf8
    refine ⟨some text, ?_, ?_⟩
    · rw [hexpected]
      intro habsent
      rw [requireAbsent_iff, hvalue] at habsent
      exact absurd (Option.some.inj habsent) hstar
    · intro cell htag _ hmet
      exact hmet.ifNoneMatch value hvalue hstar text htag (asBytes_of_fromUtf8 htext)

end Headers

/-! ## PUTs of a run -/

/-- A database that holds a blob and an object under the ETag, or nothing. -/
def etagDb (ns path : String) : Option String → Db
  | none => {}
  | some etag =>
    { metadata := (∅ : Table SyncMetadata).insert (metadataKey ns)
        { SyncMetadata.empty with «exists» := true, etag := some etag }
      blobs := (∅ : Table Bytes).insert (blobKey ns) []
      objects := (∅ : Table Bytes).insert (objectKey ns path) []
      objectMetadata := (∅ : Table StoredObjectMetadata).insert (objectMetaKey ns path)
        { etag := etag, updatedAt := "" } }

/-- Wherever the PUT is directed, there is a database in which its write goes through although
a header forbids it. -/
structure OverlooksPrecondition (headers : HeaderMap) : Prop where
  blob : ∀ ns blob m, ∃ db : Db, Described db ∧
    (db.putBlobIfMatches ns headers.expectedEtag headers.requireAbsent blob m).1 = .ok () ∧
    ¬ PreconditionsMet headers ((Key.ofSnapshot ns).cell db)
  object : ∀ ns path data m, ∃ db : Db, Described db ∧
    (db.putObjectIfMatches ns path headers.expectedEtag headers.requireAbsent data m).1 = .ok () ∧
    ¬ PreconditionsMet headers ((Key.ofObject ns path).cell db)

section Runs
variable {c : Crates} {state : AppState} {t : Traffic} {start s : Db} {log : List DbEvent}
  {ps : Nat → Program databaseSignature Answer} {headers : HeaderMap} {ns path : String}
  {tag : Option String}

theorem described_etagDb : Described (etagDb ns path tag) := by
  cases tag with
  | none =>
    constructor
    · intro key h
      simp [etagDb] at h
    · intro ns' h
      simp [etagDb, Db.getBlob] at h
  | some etag =>
    constructor
    · intro key h
      by_cases hkey : objectKey ns path = key
      · simp [etagDb, objectMetaKey, hkey]
      · simp [etagDb, hkey] at h
    · intro ns' h
      by_cases hkey : blobKey ns = blobKey ns'
      · obtain rfl := blobKey_injective hkey
        simp [etagDb, Db.getMetadata]
      · simp [etagDb, Db.getBlob, hkey] at h

theorem cell_etagDb_snapshot (ns path : String) (tag : Option String) :
    ((Key.ofSnapshot ns).cell (etagDb ns path tag)).tag = tag ∧
    (Key.ofSnapshot ns).present (etagDb ns path tag) = tag.isSome ∧
    (((Key.ofSnapshot ns).cell (etagDb ns path tag)).payload = none ↔ tag = none) := by
  cases tag <;> simp [etagDb, Key.ofSnapshot, Key.cell, Key.present, metadataKey, blobKey]

theorem cell_etagDb_object (ns path : String) (tag : Option String) :
    ((Key.ofObject ns path).cell (etagDb ns path tag)).tag = tag ∧
    (Key.ofObject ns path).present (etagDb ns path tag) = tag.isSome ∧
    (((Key.ofObject ns path).cell (etagDb ns path tag)).payload = none ↔ tag = none) := by
  cases tag <;> simp [etagDb, Key.ofObject, Key.cell, Key.present, objectMetaKey]

/-- A write goes through when the store is as the preconditions of its transaction want it. -/
theorem putObjectIfMatches_ok {db : Db} {expectedEtag : Option String} {requireAbsent : Bool}
    (h : PreconditionHolds ((Key.ofObject ns path).cell db).tag ((Key.ofObject ns path).present db)
      expectedEtag requireAbsent) (data : Bytes) (m : StoredObjectMetadata) :
    (db.putObjectIfMatches ns path expectedEtag requireAbsent data m).1 = .ok () := by
  unfold Db.putObjectIfMatches
  cases expectedEtag with
  | some expected =>
    have htag : ((db.objectMetadata[objectMetaKey ns path]?).map (·.etag)).getD "" = expected := h
    dsimp only
    rw [if_neg (not_not.mpr htag)]
  | none =>
    have habsent : requireAbsent = true → (db.objectMetadata[objectMetaKey ns path]?).isSome = false := h
    dsimp only
    rw [if_neg]
    intro hboth
    rw [Bool.and_eq_true] at hboth
    rw [habsent hboth.1] at hboth
    cases hboth.2

theorem putBlobIfMatches_ok {db : Db} {expectedEtag : Option String} {requireAbsent : Bool}
    (hreadable : ∀ m ∈ db.getMetadata ns, m.fromSlice = some m)
    (h : PreconditionHolds ((Key.ofSnapshot ns).cell db).tag ((Key.ofSnapshot ns).present db)
      expectedEtag requireAbsent) (blob : Bytes) (m : SyncMetadata) :
    (db.putBlobIfMatches ns expectedEtag requireAbsent blob m).1 = .ok () := by
  have htag : ((Key.ofSnapshot ns).cell db).tag = (db.metadata[metadataKey ns]?).bind (·.etag) := rfl
  have hpresent : (Key.ofSnapshot ns).present db = (db.metadata[metadataKey ns]?).any (·.exists) := rfl
  rw [htag, hpresent] at h
  unfold Db.getMetadata at hreadable
  unfold Db.putBlobIfMatches
  cases hrow : db.metadata[metadataKey ns]? with
  | none =>
    rw [hrow] at h
    cases expectedEtag with
    | some expected =>
      have hetag : "" = expected := h
      simp [hetag]
    | none => simp
  | some row =>
    rw [hrow] at h
    simp only [hreadable row hrow]
    cases expectedEtag with
    | some expected =>
      have hetag : row.etag.getD "" = expected := h
      simp [hetag]
    | none =>
      have habsent : requireAbsent = true → row.exists = false := h
      dsimp only
      rw [if_neg]
      intro hboth
      rw [Bool.and_eq_true] at hboth
      have hexists := habsent hboth.1
      rw [Option.any_some, hexists] at hboth
      cases hboth.2

theorem overlooks_of_not_sound (h : ¬ SoundPreconditions headers) : OverlooksPrecondition headers := by
  obtain ⟨tag, hholds, hunmet⟩ := exists_unmet h
  constructor
  · intro ns blob m
    obtain ⟨htag, hpresent, hpayload⟩ := cell_etagDb_snapshot ns "" tag
    refine ⟨etagDb ns "" tag, described_etagDb, ?_, ?_⟩
    · apply putBlobIfMatches_ok
      · intro m hm
        cases tag with
        | none => simp [etagDb, Db.getMetadata] at hm
        | some etag =>
          simp only [etagDb, Db.getMetadata, Table.get_insert, if_true, Option.mem_def,
            Option.some.injEq] at hm
          rw [← hm]
          rfl
      · rw [htag, hpresent]
        exact hholds
    · exact hunmet _ htag hpayload
  · intro ns path data m
    obtain ⟨htag, hpresent, hpayload⟩ := cell_etagDb_object ns path tag
    refine ⟨etagDb ns path tag, described_etagDb, ?_, ?_⟩
    · apply putObjectIfMatches_ok
      rw [htag, hpresent]
      exact hholds
    · exact hunmet _ htag hpayload

end Runs

/-! ## An `If-Match` that is no text -/

/-- A client stores an object and replaces it under a condition. -/
def conditionTraffic (condition : Bytes) : List Request :=
  [issueRequest "*" "write" none,
   issuedRequest (.putObject "work" "notes" [1]) [],
   { issuedRequest (.putObject "work" "notes" [2]) [] with
     headers := ("if-match", condition) :: (issuedRequest (.putObject "work" "notes" [2]) []).headers }]

theorem scripted_conditionTraffic (condition : Bytes) : (conditionTraffic condition).Forall Scripted :=
  ⟨.issue _ _ _, .issued _ _ rfl, .free _ rfl rfl⟩

theorem described_freshDb : Described freshDb := by
  have htables : freshDb.objects.toList = (∅ : Table Bytes).toList ∧
      freshDb.blobs.toList = (∅ : Table Bytes).toList := by decide +kernel
  rw [Std.ExtTreeMap.toList_inj, Std.ExtTreeMap.toList_inj] at htables
  constructor
  · intro key h
    simp [htables.1] at h
  · intro ns h
    simp [Db.getBlob, htables.2] at h

end CloudSync
